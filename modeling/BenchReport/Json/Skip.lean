import BenchReport.Json.Number
import BenchReport.Json.Quoted

/-!
# Passing over values

A value that nobody asks for is passed over, whatever it holds and however deep it goes: the
containers that are open are kept in a list. The text has to be well formed, but no string
has to name characters and no number has to be within bounds.
-/

namespace BenchReport.Json

open Decimal (isDigit)

/-- The blanks between the parts of a text. -/
def isSpace (c : Char) : Bool := c == ' ' || c == '\n' || c == '\t' || c == '\r'

/-- A text without the blanks before it. -/
def skipSpace (s : List Char) : List Char := s.dropWhile isSpace

/-- Reads the letters of a word one by one. -/
def readWord : List Char → List Char → Except Failure (List Char)
  | [], s => .ok s
  | _ :: _, [] => failAt .endInValue []
  | w :: ws, c :: s => if w = c then readWord ws s else failPast 1 .expectedWord (c :: s)

/-- Passes over an exponent, after its letter. -/
def skipExponent (s : List Char) : Except Failure (List Char) :=
  let (_, s) := exponentSign s
  match s.takeWhile isDigit with
  | [] => failPast 1 .invalidNumber s
  | _ => .ok (s.dropWhile isDigit)

/-- Passes over an exponent, if there is one. -/
def skipExponent? (s : List Char) : Except Failure (List Char) :=
  match s with
  | 'e' :: r => skipExponent r
  | 'E' :: r => skipExponent r
  | s => .ok s

/-- Passes over the digits after a point and an exponent. -/
def skipFraction (s : List Char) : Except Failure (List Char) :=
  match s.takeWhile isDigit with
  | [] => failPast 1 .invalidNumber s
  | _ => skipExponent? (s.dropWhile isDigit)

/-- Passes over what follows the whole digits of a number. -/
def skipTail (s : List Char) : Except Failure (List Char) :=
  match s with
  | '.' :: r => skipFraction r
  | s => skipExponent? s

/-- Passes over a number, after its sign. -/
def skipNumber (s : List Char) : Except Failure (List Char) :=
  match s with
  | '0' :: r =>
    match r with
    | d :: _ => if isDigit d then failPast 1 .invalidNumber r else skipTail r
    | [] => skipTail r
  | s =>
    match s.takeWhile isDigit with
    | [] => failPast 1 .invalidNumber s
    | _ => skipTail (s.dropWhile isDigit)

/-- The kind of a container, by its bracket. -/
inductive Bracket where
  | square
  | curly
  deriving Repr, DecidableEq

/-- The bracket that closes a container. -/
def Bracket.close : Bracket → Char
  | square => ']'
  | curly => '\x7d'

/-- The fault of a text that ends in a container. -/
def Bracket.endFault : Bracket → Fault
  | square => .endInList
  | curly => .endInObject

/-- The fault of a container that goes on with neither a comma nor its end. -/
def Bracket.separatorFault : Bracket → Fault
  | square => .expectedListCommaOrEnd
  | curly => .expectedObjectCommaOrEnd

/-- Passes over a scalar, or over the opening bracket of a container. -/
def skipFront (s : List Char) : Except Failure (Option Bracket × List Char) :=
  match skipSpace s with
  | [] => failAt .endInValue []
  | c :: r =>
    if c = 'n' then (readWord "ull".toList r).map (none, ·)
    else if c = 't' then (readWord "rue".toList r).map (none, ·)
    else if c = 'f' then (readWord "alse".toList r).map (none, ·)
    else if c = '-' then (skipNumber r).map (none, ·)
    else if isDigit c then (skipNumber (c :: r)).map (none, ·)
    else if c = '"' then (skipString r).map (none, ·)
    else if c = '[' then .ok (some .square, r)
    else if c = '\x7b' then .ok (some .curly, r)
    else failPast 1 .expectedValue (c :: r)

/-- Passes over the key of a member and its colon; an element of a list has neither. -/
def skipKey (b : Bracket) (s : List Char) : Except Failure (List Char) :=
  match b with
  | .square => .ok s
  | .curly =>
    match skipSpace s with
    | [] => failAt .endInObject []
    | '"' :: r => do
      let r ← skipString r
      match skipSpace r with
      | [] => failAt .endInObject []
      | ':' :: r => .ok r
      | r => failPast 1 .expectedColon r
    | r => failPast 1 .keyNotString r

/-- Goes on after a value, or after the opening bracket of a container if `value` is false:
passes over the ends of containers up to the next value. What is left open is given back,
the innermost container first. -/
def skipBetween (value : Bool) : List Bracket → List Char →
    Except Failure (List Bracket × List Char)
  | [], s => .ok ([], s)
  | b :: open_, s =>
    match skipSpace s with
    | [] => failAt b.endFault []
    | c :: r =>
      if value ∧ c = ',' then (skipKey b r).map (b :: open_, ·)
      else if c = b.close then skipBetween true open_ r
      else if value then failPast 1 b.separatorFault (c :: r)
      else (skipKey b (c :: r)).map (b :: open_, ·)

/-! ### What is left is shorter -/

theorem length_dropWhile_le (p : Char → Bool) (s : List Char) :
    (s.dropWhile p).length ≤ s.length :=
  (List.dropWhile_sublist p).length_le

theorem length_dropWhile_lt {p : Char → Bool} {s : List Char} (h : s.takeWhile p ≠ []) :
    (s.dropWhile p).length < s.length := by
  cases s with
  | nil => simp at h
  | cons c r =>
    have hc : p c = true := by
      cases hp : p c with
      | true => rfl
      | false => simp [hp] at h
    rw [List.dropWhile_cons_of_pos hc]
    exact Nat.lt_succ_of_le (length_dropWhile_le p r)

theorem length_skipSpace_le (s : List Char) : (skipSpace s).length ≤ s.length :=
  length_dropWhile_le isSpace s

theorem length_exponentSign_le (s : List Char) : (exponentSign s).2.length ≤ s.length := by
  unfold exponentSign
  split <;> simp

theorem length_readWord_le {w s r : List Char} (h : readWord w s = .ok r) :
    r.length ≤ s.length := by
  fun_induction readWord w s with
  | case1 => simp_all
  | case2 => simp [failAt] at h
  | case3 w ws s ih =>
    have := ih h
    simp only [List.length_cons]
    omega
  | case4 => simp [failPast] at h

theorem length_skipExponent_le {s r : List Char} (h : skipExponent s = .ok r) :
    r.length ≤ s.length := by
  have hs := length_exponentSign_le s
  unfold skipExponent at h
  simp only at h
  split at h
  · simp [failPast] at h
  · have := length_dropWhile_le isDigit (exponentSign s).2
    simp only [Except.ok.injEq] at h
    subst h
    omega

theorem length_skipExponent?_le {s r : List Char} (h : skipExponent? s = .ok r) :
    r.length ≤ s.length := by
  unfold skipExponent? at h
  split at h
  · exact Nat.le_succ_of_le (length_skipExponent_le h)
  · exact Nat.le_succ_of_le (length_skipExponent_le h)
  · simp_all

theorem length_skipTail_le {s r : List Char} (h : skipTail s = .ok r) : r.length ≤ s.length := by
  unfold skipTail at h
  split at h
  · rename_i t
    unfold skipFraction at h
    split at h
    · simp [failPast] at h
    · have := length_skipExponent?_le h
      have := length_dropWhile_le isDigit t
      simp only [List.length_cons]
      omega
  · exact length_skipExponent?_le h

theorem length_skipNumber_lt {s r : List Char} (h : skipNumber s = .ok r) :
    r.length < s.length := by
  unfold skipNumber at h
  split at h
  · split at h
    · split at h
      · simp [failPast] at h
      · exact Nat.lt_succ_of_le (length_skipTail_le h)
    · exact Nat.lt_succ_of_le (length_skipTail_le h)
  · split at h
    · simp [failPast] at h
    · rename_i hne
      exact Nat.lt_of_le_of_lt (length_skipTail_le h) (length_dropWhile_lt hne)

theorem map_eq_ok {α β : Type} {f : α → β} {x : Except Failure α} {b : β}
    (h : x.map f = .ok b) : ∃ a, x = .ok a ∧ f a = b := by
  cases x with
  | error e => simp [Except.map] at h
  | ok a => exact ⟨a, rfl, by simpa [Except.map] using h⟩

theorem length_skipFront_lt {s r : List Char} {b : Option Bracket}
    (h : skipFront s = .ok (b, r)) : r.length < s.length := by
  have hs := length_skipSpace_le s
  have word {w : List Char} {t : List Char}
      (h : (readWord w t).map (none, ·) = Except.ok (b, r)) : r.length ≤ t.length := by
    obtain ⟨a, ha, he⟩ := map_eq_ok h
    obtain ⟨-, rfl⟩ := Prod.mk.inj he
    exact length_readWord_le ha
  have number {t : List Char} (h : (skipNumber t).map (none, ·) = Except.ok (b, r)) :
      r.length < t.length := by
    obtain ⟨a, ha, he⟩ := map_eq_ok h
    obtain ⟨-, rfl⟩ := Prod.mk.inj he
    exact length_skipNumber_lt ha
  have string {t : List Char} (h : (skipString t).map (none, ·) = Except.ok (b, r)) :
      r.length < t.length := by
    obtain ⟨a, ha, he⟩ := map_eq_ok h
    obtain ⟨-, rfl⟩ := Prod.mk.inj he
    exact length_skipString ha
  unfold skipFront at h
  split at h
  · simp [failAt] at h
  · rename_i c t hc
    rw [hc, List.length_cons] at hs
    split at h
    · have := word h; omega
    split at h
    · have := word h; omega
    split at h
    · have := word h; omega
    split at h
    · have := number h; omega
    split at h
    · have := number h; simp only [List.length_cons] at this; omega
    split at h
    · have := string h; omega
    split at h
    · simp only [Except.ok.injEq, Prod.mk.injEq] at h
      obtain ⟨-, rfl⟩ := h
      omega
    split at h
    · simp only [Except.ok.injEq, Prod.mk.injEq] at h
      obtain ⟨-, rfl⟩ := h
      omega
    · simp [failPast] at h

theorem length_skipKey_le {b : Bracket} {s r : List Char} (h : skipKey b s = .ok r) :
    r.length ≤ s.length := by
  have hs := length_skipSpace_le s
  unfold skipKey at h
  split at h
  · simp_all
  · split at h
    · simp [failAt] at h
    · rename_i t ht
      rw [ht, List.length_cons] at hs
      cases hk : skipString t with
      | error e => simp [hk, bind, Except.bind] at h
      | ok u =>
        have hu := length_skipString hk
        have hv := length_skipSpace_le u
        simp only [hk, bind, Except.bind] at h
        split at h
        · simp [failAt] at h
        · rename_i v hv'
          rw [hv', List.length_cons] at hv
          simp only [Except.ok.injEq] at h
          subst h
          omega
        · simp [failPast] at h
    · simp [failPast] at h

theorem length_skipBetween_le {v : Bool} {stack stack' : List Bracket} {s r : List Char}
    (h : skipBetween v stack s = .ok (stack', r)) : r.length ≤ s.length := by
  fun_induction skipBetween v stack s generalizing stack' r with
  | case1 => simp_all
  | case2 => simp [failAt] at h
  | case3 v b open_ s c t hs hv =>
    have hl := length_skipSpace_le s
    rw [hs, List.length_cons] at hl
    obtain ⟨a, ha, he⟩ := map_eq_ok h
    obtain ⟨-, rfl⟩ := Prod.mk.inj he
    have := length_skipKey_le ha
    omega
  | case4 v b open_ s t hs hv ih =>
    have hl := length_skipSpace_le s
    rw [hs, List.length_cons] at hl
    have := ih h
    omega
  | case5 => simp [failPast] at h
  | case6 v b open_ s c t hs =>
    have hl := length_skipSpace_le s
    rw [hs] at hl
    obtain ⟨a, ha, he⟩ := map_eq_ok h
    obtain ⟨-, rfl⟩ := Prod.mk.inj he
    have := length_skipKey_le ha
    omega

/-- Passes over a value, inside the containers that are open, and over all that follows in
them. -/
def skipIn (open_ : List Bracket) (s : List Char) : Except Failure (List Char) :=
  match known (skipFront s) (p := fun x => x.2.length < s.length)
    fun _ h => length_skipFront_lt h with
  | .error f => .error f
  | .ok ⟨(b, r), _⟩ =>
    match known (skipBetween b.isNone (b.toList ++ open_) r)
      (p := fun x => x.2.length ≤ r.length) fun _ h => length_skipBetween_le h with
    | .error f => .error f
    | .ok ⟨([], r), _⟩ => .ok r
    | .ok ⟨(c :: cs, r), _⟩ => skipIn (c :: cs) r
termination_by s.length
decreasing_by simp only at *; omega

/-- Passes over a value. -/
def skipValue (s : List Char) : Except Failure (List Char) := skipIn [] s

theorem length_skipIn_lt {open_ : List Bracket} {s r : List Char}
    (h : skipIn open_ s = .ok r) : r.length < s.length := by
  fun_induction skipIn open_ s generalizing r with
  | case1 => simp at h
  | case2 => simp at h
  | case3 open_ s b t ht _ u hu _ =>
    replace ht : t.length < s.length := ht
    replace hu : u.length ≤ t.length := hu
    simp only [Except.ok.injEq] at h
    subst h
    omega
  | case4 open_ s b t ht _ c cs u hu _ ih =>
    replace ht : t.length < s.length := ht
    replace hu : u.length ≤ t.length := hu
    have := ih h
    omega

theorem length_skipValue_lt {s r : List Char} (h : skipValue s = .ok r) : r.length < s.length :=
  length_skipIn_lt h

example : skipValue "\x7b\"a\": [1, \x7b\x7d, []], \"b\": null\x7d x".toList = .ok " x".toList := by
  cbv

end BenchReport.Json
