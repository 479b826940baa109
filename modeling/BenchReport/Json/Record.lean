import BenchReport.Json.Container

/-!
# Reading records

A record has named fields in a fixed order. It is read from an object, whose members may
come in any order and may be others as well, or from a list of the values of its fields.
Every field has to come once: a field that comes twice is a fault where it comes again, and
a field that does not come is one at the end of the object.
-/

namespace BenchReport.Json

variable {α β σ : Type}

/-- A field of a record in the making. -/
structure Field (σ : Type) where
  /-- The name. -/
  name : String
  /-- Whether it has its value. -/
  filled : σ → Bool
  /-- Reads its value into the record. -/
  reader : σ → Reader σ

/-- A field with its value or without, and how to set it. -/
def Field.of (name : String) (get : σ → Option β) (set : σ → β → σ) (r : Reader β) :
    Field σ where
  name := name
  filled st := (get st).isSome
  reader st := r.map (set st)

/-- A kind of record. -/
structure Schema (σ α : Type) where
  /-- The name of the kind. -/
  name : String
  /-- The fields in order. -/
  fields : List (Field σ)
  /-- The record without any field. -/
  start : σ
  /-- The whole record, or the name of the first field that is missing. -/
  finish : σ → Except String α

namespace Schema

/-- The action of a member on a record in the making. -/
def members (k : Schema σ α) : Members σ := fun st key =>
  match k.fields.find? (·.name == key) with
  | none => .ok (Reader.skip.map fun _ => st)
  | some f => if f.filled st then .error (.duplicateField key) else .ok (f.reader st)

/-- The whole record, the text `rest` coming after it. -/
def complete (k : Schema σ α) (st : σ) (rest : List Char) : Except Failure (α × List Char) :=
  match k.finish st with
  | .ok a => .ok (a, rest)
  | .error name => failAt (.missingField name) rest

/-- Reads the values of fields from a list, the first of them being the one at `index`. -/
def readFields (k : Schema σ α) (index : Nat) (st : σ) : List (Field σ) → List Char →
    Except Failure (σ × List Char)
  | [], s => .ok (st, s)
  | f :: fs, s =>
    match nextElement (index == 0) s with
    | .error e => .error e
    | .ok (false, rest) => failAt (.invalidLength index k.name k.fields.length) rest
    | .ok (true, s) =>
      match (f.reader st).read s with
      | .error e => .error e
      | .ok (st, s) => readFields k (index + 1) st fs s

/-- Reads the end of a list that has no more fields. -/
def readListEnd (s : List Char) : Except Failure (List Char) :=
  match skipSpace s with
  | [] => failAt .endInList []
  | c :: r =>
    if c = ']' then .ok r
    else if c = ',' then
      match skipSpace r with
      | [] => failAt .trailingCharacters []
      | d :: t =>
        if d = ']' then failPast 1 .trailingComma (d :: t)
        else failPast 1 .trailingCharacters (d :: t)
    else failPast 1 .trailingCharacters (c :: r)

/-- Reads a record from an object, after its bracket. -/
def readObject (k : Schema σ α) (s : List Char) : Except Failure (α × List Char) :=
  match readMembers k.members true k.start s with
  | .error f => .error f
  | .ok (st, rest) => k.complete st rest

/-- Reads a record from a list, after its bracket. -/
def readTuple (k : Schema σ α) (s : List Char) : Except Failure (α × List Char) :=
  match k.readFields 0 k.start k.fields s with
  | .error f => .error f
  | .ok (st, s) =>
    match readListEnd s with
    | .error f => .error f
    | .ok rest => k.complete st rest

/-- Reads a record where one is expected. -/
def readRecord (k : Schema σ α) (s : List Char) : Except Failure (α × List Char) :=
  match skipSpace s with
  | [] => failAt .endInValue []
  | c :: r =>
    if c = '[' then k.readTuple r
    else if c = '\x7b' then k.readObject r
    else refuse ("struct " ++ k.name) (c :: r)

theorem complete_eq_ok {k : Schema σ α} {st : σ} {s t : List Char} {a : α}
    (h : k.complete st s = .ok (a, t)) : t = s := by
  unfold complete at h
  split at h
  · simp_all
  · simp [failAt] at h

theorem length_readFields_le {k : Schema σ α} {index : Nat} {st st' : σ} {fs : List (Field σ)}
    {s t : List Char} (h : k.readFields index st fs s = .ok (st', t)) :
    t.length ≤ s.length := by
  induction fs generalizing index st s with
  | nil => simp_all [readFields]
  | cons f fs ih =>
    unfold readFields at h
    split at h
    · simp at h
    · simp [failAt] at h
    · rename_i u hu
      have := length_nextElement_le hu
      split at h
      · simp at h
      · rename_i hv
        have := (f.reader st).shorter hv
        have := ih h
        omega

theorem length_readListEnd_lt {s t : List Char} (h : readListEnd s = .ok t) :
    t.length < s.length := by
  have hs := length_skipSpace_le s
  unfold readListEnd at h
  split at h
  · simp [failAt] at h
  · rename_i c r hc
    rw [hc, List.length_cons] at hs
    split at h
    · simp only [Except.ok.injEq] at h
      subst h
      omega
    split at h
    · split at h
      · simp [failAt] at h
      · split at h <;> simp [failPast] at h
    · simp [failPast] at h

/-- A record of a kind. -/
def reader (k : Schema σ α) : Reader α where
  read := k.readRecord
  shorter {s a t} h := by
    have hs := length_skipSpace_le s
    unfold readRecord at h
    split at h
    · simp [failAt] at h
    · rename_i c r hc
      rw [hc, List.length_cons] at hs
      split at h
      · unfold readTuple at h
        split at h
        · simp at h
        · rename_i hf
          have := length_readFields_le hf
          split at h
          · simp at h
          · rename_i he
            have := length_readListEnd_lt he
            have := complete_eq_ok h
            subst this
            omega
      split at h
      · unfold readObject at h
        split at h
        · simp at h
        · rename_i hm
          have := length_readMembers_lt hm
          have := complete_eq_ok h
          subst this
          omega
      · exact absurd h refuse_ne_ok

end Schema

/-- The value of a field, if it has one. -/
def need (name : String) : Option β → Except String β
  | some b => .ok b
  | none => .error name

end BenchReport.Json
