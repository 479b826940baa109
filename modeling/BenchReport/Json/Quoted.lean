import BenchReport.Json.Fault

/-!
# Reading strings

The characters of a string after its opening quote. An escape by number names a UTF-16 unit,
and a character beyond the first plane takes two of them. A string that is passed over is
held to less: its escapes need not name characters.
-/

namespace BenchReport.Json

/-- The value of a digit to the base sixteen. -/
def hexValue? (c : Char) : Option Nat :=
  if '0' ≤ c ∧ c ≤ '9' then some (c.toNat - '0'.toNat)
  else if 'a' ≤ c ∧ c ≤ 'f' then some (c.toNat - 'a'.toNat + 10)
  else if 'A' ≤ c ∧ c ≤ 'F' then some (c.toNat - 'A'.toNat + 10)
  else none

/-- Four digits to the base sixteen as a number. -/
def hexUnit? : List Char → Option Nat
  | [a, b, c, d] => do
    let a ← hexValue? a
    let b ← hexValue? b
    let c ← hexValue? c
    let d ← hexValue? d
    return ((a * 16 + b) * 16 + c) * 16 + d
  | _ => none

/-- Reads the unit of an escape by number, after its letter. A fault lies four bytes on, the
number having been taken in one go. -/
def readUnit (s : List Char) : Except Failure Nat :=
  if Text.Utf8.size s < 4 then failAt .endInString []
  else
    match hexUnit? (s.take 4) with
    | some n => .ok n
    | none => failPast 4 .invalidEscape s

/-- Whether a unit is the second of a pair. -/
def isTrailing (n : Nat) : Bool := 0xDC00 ≤ n && n ≤ 0xDFFF

/-- Whether a unit is the first of a pair. -/
def isLeading (n : Nat) : Bool := 0xD800 ≤ n && n ≤ 0xDBFF

/-- Reads the second unit of a pair, with its own escape. -/
def readSecondUnit (s : List Char) : Except Failure Nat :=
  match s with
  | [] => failAt .endInString []
  | '\\' :: s =>
    match s with
    | [] => failAt .endInString []
    | 'u' :: s => do
      let n ← readUnit s
      if isTrailing n then .ok n else failPast 4 .loneSurrogate s
    | s => failPast 1 .endOfEscape s
  | s => failPast 1 .endOfEscape s

/-- The character that a letter escapes. -/
def escaped? : Char → Option Char
  | '"' => some '"'
  | '\\' => some '\\'
  | '/' => some '/'
  | 'b' => some '\x08'
  | 'f' => some '\x0c'
  | 'n' => some '\n'
  | 'r' => some '\r'
  | 't' => some '\t'
  | _ => none

/-- Reads an escape after its backslash: the character that it names, and the number of
characters that it takes after the first. -/
def readEscape : List Char → Except Failure (Char × Nat)
  | [] => failAt .endInString []
  | 'u' :: s => do
    let n ← readUnit s
    if isTrailing n then failPast 4 .loneSurrogate s
    else if isLeading n then
      let m ← readSecondUnit (s.drop 4)
      .ok (Char.ofNat ((n - 0xD800) * 0x400 + (m - 0xDC00) + 0x10000), 10)
    else .ok (Char.ofNat n, 4)
  | c :: s =>
    match escaped? c with
    | some d => .ok (d, 0)
    | none => failPast 1 .invalidEscape (c :: s)

/-- Whether a character may not stand in a string. -/
def isControl (c : Char) : Bool := c.toNat < 0x20

/-- Reads the characters of a string and its closing quote. -/
def readString : List Char → Except Failure (List Char × List Char)
  | [] => failAt .endInString []
  | '"' :: r => .ok ([], r)
  | '\\' :: r =>
    match readEscape r with
    | .error f => .error f
    | .ok (c, more) =>
      match readString (r.drop (more + 1)) with
      | .error f => .error f
      | .ok (cs, rest) => .ok (c :: cs, rest)
  | c :: r =>
    if isControl c then failAt .controlCharacter r
    else
      match readString r with
      | .error f => .error f
      | .ok (cs, rest) => .ok (c :: cs, rest)
termination_by s => s.length
decreasing_by
  · simp only [List.length_drop, List.length_cons]; omega
  · simp only [List.length_cons]; omega

/-- Passes over an escape after its backslash: the number of characters that it takes after
the first. -/
def skipEscape : List Char → Except Failure Nat
  | [] => failAt .endInString []
  | 'u' :: s => (readUnit s).map fun _ => 4
  | c :: s => if (escaped? c).isSome then .ok 0 else failPast 1 .invalidEscape (c :: s)

/-- Passes over the characters of a string and its closing quote. -/
def skipString : List Char → Except Failure (List Char)
  | [] => failAt .endInString []
  | '"' :: r => .ok r
  | '\\' :: r =>
    match skipEscape r with
    | .error f => .error f
    | .ok more => skipString (r.drop (more + 1))
  | c :: r => if isControl c then failAt .controlCharacter (c :: r) else skipString r
termination_by s => s.length
decreasing_by
  · simp only [List.length_drop, List.length_cons]; omega
  · simp only [List.length_cons]; omega

theorem length_readString {s cs rest : List Char} (h : readString s = .ok (cs, rest)) :
    rest.length < s.length := by
  fun_induction readString s generalizing cs rest with
  | case1 => simp [failAt] at h
  | case2 => simp_all
  | case3 => simp at h
  | case4 => simp at h
  | case5 r c more he cs' rest' hr ih =>
    have := ih (by assumption)
    simp only [Except.ok.injEq, Prod.mk.injEq] at h
    obtain ⟨-, rfl⟩ := h
    simp only [List.length_drop, List.length_cons] at this ⊢
    omega
  | case6 => simp [failAt] at h
  | case7 => simp at h
  | case8 =>
    rename_i ih
    have := ih (by assumption)
    simp only [Except.ok.injEq, Prod.mk.injEq] at h
    obtain ⟨-, rfl⟩ := h
    simp only [List.length_cons]
    omega

theorem length_skipString {s rest : List Char} (h : skipString s = .ok rest) :
    rest.length < s.length := by
  fun_induction skipString s generalizing rest with
  | case1 => simp [failAt] at h
  | case2 => simp_all
  | case3 => simp at h
  | case4 r more he ih =>
    have := ih h
    simp only [List.length_drop, List.length_cons] at this ⊢
    omega
  | case5 => simp [failAt] at h
  | case6 c r hq hb hc ih =>
    have := ih h
    simp only [List.length_cons]
    omega

end BenchReport.Json
