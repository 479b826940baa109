import BenchReport.Json.Skip
import BenchReport.Keyed

/-!
# Reading values of a type

A reader takes a value of one type off the front of a text, or says where the text first
goes wrong: where it is no JSON, or where a value is not of the type. It reads a text once,
from front to back, so that of two faults the earlier one is reported.
-/

namespace BenchReport.Json

open Decimal (isDigit)

/-- A reader of values, which leaves less of a text than it was given. -/
structure Reader (α : Type) where
  /-- The value at the front of a text, and the text after it. -/
  read : List Char → Except Failure (α × List Char)
  /-- Something has been read. -/
  shorter : ∀ {s a r}, read s = .ok (a, r) → r.length < s.length

/-- A value and the text after it, which is shorter than the text before it. -/
abbrev Taken (α : Type) (s : List Char) : Type := { x : α × List Char // x.2.length < s.length }

namespace Reader

variable {α β : Type}

/-- What a reader reads, with the proof that the text gets shorter. -/
def take (r : Reader α) (s : List Char) : Except Failure (Taken α s) :=
  known (r.read s) fun _ h => r.shorter h

/-- Reads a value and makes another of it. -/
def map (f : α → β) (r : Reader α) : Reader β where
  read s := (r.read s).map fun x => (f x.1, x.2)
  shorter h := by
    obtain ⟨x, hx, he⟩ := map_eq_ok h
    obtain ⟨-, rfl⟩ := Prod.mk.inj he
    exact r.shorter hx

/-- Reads a value and makes another of it, if it can; if not, the fault is after the value. -/
def verify (f : α → Except Fault β) (r : Reader α) : Reader β where
  read s :=
    match r.read s with
    | .error e => .error e
    | .ok (a, rest) =>
      match f a with
      | .error fault => failAt fault rest
      | .ok b => .ok (b, rest)
  shorter h := by
    split at h
    · simp at h
    · split at h
      · simp [failAt] at h
      · rename_i hr _ _ _
        simp only [Except.ok.injEq, Prod.mk.injEq] at h
        obtain ⟨-, rfl⟩ := h
        exact r.shorter hr

/-- Passes over a value. -/
def skip : Reader Unit where
  read s := (skipValue s).map fun rest => ((), rest)
  shorter h := by
    obtain ⟨x, hx, he⟩ := map_eq_ok h
    obtain ⟨-, rfl⟩ := Prod.mk.inj he
    exact length_skipValue_lt hx

end Reader

/-! ### Scalars -/

/-- Refuses a value that is not of the type, the text having no blanks before it. A scalar
is read to its end, for it may be faulty itself. -/
def refuse {α : Type} (expected : String) (s : List Char) : Except Failure α :=
  match s with
  | [] => failAt .endInValue []
  | c :: r =>
    if c = 'n' then do failAt (.invalidType .null expected) (← readWord "ull".toList r)
    else if c = 't' then do
      failAt (.invalidType (.boolean true) expected) (← readWord "rue".toList r)
    else if c = 'f' then do
      failAt (.invalidType (.boolean false) expected) (← readWord "alse".toList r)
    else if c = '-' then do
      let (n, rest) ← readNumber true r
      failAt (.invalidType n.found expected) rest
    else if isDigit c then do
      let (n, rest) ← readNumber false s
      failAt (.invalidType n.found expected) rest
    else if c = '"' then do
      let (cs, rest) ← readString r
      failAt (.invalidType (.text (String.ofList cs)) expected) rest
    else if c = '[' then failAt (.invalidType .sequence expected) s
    else if c = '\x7b' then failAt (.invalidType .map expected) s
    else failPast 1 .expectedValue s

theorem refuse_ne_ok {α : Type} {expected : String} {s : List Char} {a : α} :
    refuse expected s ≠ .ok a := by
  intro h
  unfold refuse at h
  split at h
  · simp [failAt] at h
  · repeat' split at h
    all_goals
      first
      | simp [failAt, failPast] at h; done
      | simp only [bind, Except.bind, failAt] at h; split at h <;> simp at h

/-- Reads a number where `expected` is expected. -/
def readNumberAs (expected : String) (s : List Char) : Except Failure (Number × List Char) :=
  match skipSpace s with
  | [] => failAt .endInValue []
  | c :: r =>
    if c = '-' then readNumber true r
    else if isDigit c then readNumber false (c :: r)
    else refuse expected (c :: r)

/-- Reads a string where `expected` is expected. -/
def readStringAs (expected : String) (s : List Char) : Except Failure (String × List Char) :=
  match skipSpace s with
  | [] => failAt .endInValue []
  | c :: r =>
    if c = '"' then (readString r).map fun x => (String.ofList x.1, x.2)
    else refuse expected (c :: r)

theorem length_scale_le {g : Bool} {n : Nat} {e : Int} {s r : List Char} {x : Float}
    (h : scale g n e s = .ok (x, r)) : r.length ≤ s.length := by
  unfold scale at h
  split at h
  · simp_all
  · simp [failAt] at h

theorem length_readExponent_le {g : Bool} {n : Nat} {e : Int} {s r : List Char} {x : Float}
    (h : readExponent g n e s = .ok (x, r)) : r.length ≤ s.length := by
  have hs := length_exponentSign_le s
  have hd := length_dropWhile_le isDigit (exponentSign s).2
  unfold readExponent at h
  simp only at h
  split at h
  · simp [failAt] at h
  · simp [failPast] at h
  · split at h
    · have := length_scale_le h
      omega
    · split at h
      · simp [failAt] at h
      · simp only [Except.ok.injEq, Prod.mk.injEq] at h
        obtain ⟨-, rfl⟩ := h
        omega

theorem length_readRealTail_le {g : Bool} {n : Nat} {e : Int} {s r : List Char} {x : Float}
    (h : readRealTail g n e s = .ok (x, r)) : r.length ≤ s.length := by
  unfold readRealTail at h
  split at h
  · exact Nat.le_succ_of_le (length_readExponent_le h)
  · exact Nat.le_succ_of_le (length_readExponent_le h)
  · exact length_scale_le h

theorem length_readFraction_le {g : Bool} {n : Nat} {e : Int} {s r : List Char} {x : Float}
    (h : readFraction g n e s = .ok (x, r)) : r.length ≤ s.length := by
  have hd := length_dropWhile_le isDigit s
  unfold readFraction at h
  split at h
  · simp [failAt] at h
  · simp [failPast] at h
  · rename_i hr _ _
    have := length_readRealTail_le h
    omega

theorem length_readTail_le {g : Bool} {n d : Nat} {s r : List Char} {x : Number}
    (h : readTail g n d s = .ok (x, r)) : r.length ≤ s.length := by
  unfold readTail at h
  split at h
  · obtain ⟨y, hy, he⟩ := map_eq_ok h
    obtain ⟨-, rfl⟩ := Prod.mk.inj he
    exact Nat.le_succ_of_le (length_readFraction_le hy)
  · obtain ⟨y, hy, he⟩ := map_eq_ok h
    obtain ⟨-, rfl⟩ := Prod.mk.inj he
    exact Nat.le_succ_of_le (length_readExponent_le hy)
  · obtain ⟨y, hy, he⟩ := map_eq_ok h
    obtain ⟨-, rfl⟩ := Prod.mk.inj he
    exact Nat.le_succ_of_le (length_readExponent_le hy)
  · split at h
    · simp_all
    · obtain ⟨y, hy, he⟩ := map_eq_ok h
      obtain ⟨-, rfl⟩ := Prod.mk.inj he
      exact length_scale_le hy

theorem length_readNumber_lt {g : Bool} {s r : List Char} {x : Number}
    (h : readNumber g s = .ok (x, r)) : r.length < s.length := by
  unfold readNumber at h
  split at h
  · simp [failAt] at h
  · split at h
    · split at h
      · simp [failPast] at h
      · exact Nat.lt_succ_of_le (length_readTail_le h)
    · exact Nat.lt_succ_of_le (length_readTail_le h)
  · split at h
    · simp [failPast] at h
    · rename_i hne
      exact Nat.lt_of_le_of_lt (length_readTail_le h) (length_dropWhile_lt hne)

namespace Reader

/-- A number, where a number of some type is expected. -/
def number (expected : String) : Reader Number where
  read := readNumberAs expected
  shorter {s a r} h := by
    have hs := length_skipSpace_le s
    unfold readNumberAs at h
    split at h
    · simp [failAt] at h
    · rename_i c t hc
      rw [hc, List.length_cons] at hs
      split at h
      · have := length_readNumber_lt h
        omega
      split at h
      · have := length_readNumber_lt h
        simp only [List.length_cons] at this
        omega
      · exact absurd h refuse_ne_ok

/-- A string, where a text of some type is expected. -/
def textAs (expected : String) : Reader String where
  read := readStringAs expected
  shorter {s a r} h := by
    have hs := length_skipSpace_le s
    unfold readStringAs at h
    split at h
    · simp [failAt] at h
    · rename_i c t hc
      rw [hc, List.length_cons] at hs
      split at h
      · obtain ⟨x, hx, he⟩ := map_eq_ok h
        obtain ⟨-, rfl⟩ := Prod.mk.inj he
        have := length_readString hx
        omega
      · exact absurd h refuse_ne_ok

/-- A string. -/
def text : Reader String := textAs "a string"

/-- A number of any kind. -/
def real : Reader Float := (number "f64").map Number.toFloat

/-- The whole number that a number is, if it is one below a bound. -/
def whole (expected : String) (bound : Nat) : Number → Except Fault Nat
  | .natural n => if n < bound then .ok n else .error (.invalidValue (.integer n) expected)
  | .negative n => .error (.invalidValue (.integer (-(n : Int))) expected)
  | .real x => .error (.invalidType (.real x) expected)

/-- A whole number of 32 bits. -/
def word32 : Reader UInt32 :=
  ((number "u32").verify (whole "u32" UInt32.size)).map UInt32.ofNat

/-- A whole number of 64 bits. -/
def word64 : Reader UInt64 :=
  ((number "u64").verify (whole "u64" UInt64.size)).map UInt64.ofNat

/-- A whole number of 64 bits that counts things of the host. -/
def size : Reader UInt64 :=
  ((number "usize").verify (whole "usize" UInt64.size)).map UInt64.ofNat

/-- An instant in the form of RFC 3339. -/
def instant : Reader Instant :=
  (textAs "an RFC 3339 formatted date and time string").verify fun s =>
    match Instant.ofRfc3339 s.toList with
    | .ok i => .ok i
    | .error fault => .error (.invalidInstant fault)

end Reader

end BenchReport.Json
