import BenchReport.Json.Reader

/-!
# Reading lists and objects

The elements of a list and the members of an object, read one after the other. What a member
is read for depends on its key and on the members before it, so it is an action on a state:
the map, or the record in the making.
-/

namespace BenchReport.Json

variable {α σ : Type}

/-! ### Lists -/

/-- Whether an element comes next in a list, or its end: the text from the element on, or the
text after the bracket. -/
def nextElement (first : Bool) (s : List Char) : Except Failure (Bool × List Char) :=
  match skipSpace s with
  | [] => failAt .endInList []
  | c :: r =>
    if c = ']' then .ok (false, r)
    else if first then .ok (true, c :: r)
    else if c = ',' then
      match skipSpace r with
      | [] => failAt .endInValue []
      | d :: t => if d = ']' then failPast 1 .trailingComma (d :: t) else .ok (true, d :: t)
    else failPast 1 .expectedListCommaOrEnd (c :: r)

theorem length_nextElement_le {first b : Bool} {s r : List Char}
    (h : nextElement first s = .ok (b, r)) : r.length ≤ s.length := by
  have hs := length_skipSpace_le s
  unfold nextElement at h
  split at h
  · simp [failAt] at h
  · rename_i c t hc
    rw [hc, List.length_cons] at hs
    split at h
    · simp only [Except.ok.injEq, Prod.mk.injEq] at h
      obtain ⟨-, rfl⟩ := h
      omega
    split at h
    · simp only [Except.ok.injEq, Prod.mk.injEq] at h
      obtain ⟨-, rfl⟩ := h
      simp only [List.length_cons]
      omega
    split at h
    · have ht := length_skipSpace_le t
      split at h
      · simp [failAt] at h
      · rename_i d u hd
        rw [hd] at ht
        split at h
        · simp [failPast] at h
        · simp only [Except.ok.injEq, Prod.mk.injEq] at h
          obtain ⟨-, rfl⟩ := h
          omega
    · simp [failPast] at h

/-- Reads the elements of a list and its closing bracket. -/
def readElements (r : Reader α) (first : Bool) (s : List Char) :
    Except Failure (List α × List Char) :=
  match known (nextElement first s) (p := fun x => x.2.length ≤ s.length)
    fun _ h => length_nextElement_le h with
  | .error f => .error f
  | .ok ⟨(false, s), _⟩ => .ok ([], s)
  | .ok ⟨(true, s), _⟩ =>
    match r.take s with
    | .error f => .error f
    | .ok ⟨(a, s), _⟩ =>
      match readElements r false s with
      | .error f => .error f
      | .ok (as, s) => .ok (a :: as, s)
termination_by s.length
decreasing_by simp only at *; omega

theorem length_readElements_le {r : Reader α} {first : Bool} {s t : List Char} {as : List α}
    (h : readElements r first s = .ok (as, t)) : t.length ≤ s.length := by
  fun_induction readElements r first s generalizing as t with
  | case1 => simp at h
  | case2 first s u hu =>
    replace hu : u.length ≤ s.length := hu
    simp only [Except.ok.injEq, Prod.mk.injEq] at h
    obtain ⟨-, rfl⟩ := h
    exact hu
  | case3 => simp at h
  | case4 => simp at h
  | case5 first s u hu _ a v hv _ as' w hw ih =>
    replace hu : u.length ≤ s.length := hu
    replace hv : v.length < u.length := hv
    have := ih hw
    simp only [Except.ok.injEq, Prod.mk.injEq] at h
    obtain ⟨-, rfl⟩ := h
    omega

/-- Reads a list where one is expected. -/
def readList (r : Reader α) (s : List Char) : Except Failure (List α × List Char) :=
  match skipSpace s with
  | [] => failAt .endInValue []
  | c :: t => if c = '[' then readElements r true t else refuse "a sequence" (c :: t)

theorem length_readList_lt {r : Reader α} {s t : List Char} {as : List α}
    (h : readList r s = .ok (as, t)) : t.length < s.length := by
  have hs := length_skipSpace_le s
  unfold readList at h
  split at h
  · simp [failAt] at h
  · rename_i c u hc
    rw [hc, List.length_cons] at hs
    split at h
    · have := length_readElements_le h
      omega
    · exact absurd h refuse_ne_ok

/-! ### Objects -/

/-- Reads the key of a member after its opening quote. -/
def readKey (s : List Char) : Except Failure (Option String × List Char) :=
  (readString s).map fun x => (some (String.ofList x.1), x.2)

/-- Whether a member comes next in an object, or its end: the key and the text after it, or
the text after the bracket. -/
def nextKey (first : Bool) (s : List Char) : Except Failure (Option String × List Char) :=
  match skipSpace s with
  | [] => failAt .endInObject []
  | c :: r =>
    if c = '\x7d' then .ok (none, r)
    else if first then
      if c = '"' then readKey r else failPast 1 .keyNotString (c :: r)
    else if c = ',' then
      match skipSpace r with
      | [] => failAt .endInValue []
      | d :: t =>
        if d = '"' then readKey t
        else if d = '\x7d' then failPast 1 .trailingComma (d :: t)
        else failPast 1 .keyNotString (d :: t)
    else failPast 1 .expectedObjectCommaOrEnd (c :: r)

theorem length_readKey_lt {k : Option String} {s r : List Char}
    (h : readKey s = .ok (k, r)) : r.length < s.length := by
  obtain ⟨x, hx, he⟩ := map_eq_ok h
  obtain ⟨-, rfl⟩ := Prod.mk.inj he
  exact length_readString hx

theorem length_nextKey_lt {first : Bool} {k : Option String} {s r : List Char}
    (h : nextKey first s = .ok (k, r)) : r.length < s.length := by
  have hs := length_skipSpace_le s
  unfold nextKey at h
  split at h
  · simp [failAt] at h
  · rename_i c t hc
    rw [hc, List.length_cons] at hs
    split at h
    · simp only [Except.ok.injEq, Prod.mk.injEq] at h
      obtain ⟨-, rfl⟩ := h
      omega
    split at h
    · split at h
      · have := length_readKey_lt h
        omega
      · simp [failPast] at h
    split at h
    · have ht := length_skipSpace_le t
      split at h
      · simp [failAt] at h
      · rename_i d u hd
        rw [hd, List.length_cons] at ht
        split at h
        · have := length_readKey_lt h
          omega
        split at h <;> simp [failPast] at h
    · simp [failPast] at h

/-- Reads the colon after a key. -/
def readColon (s : List Char) : Except Failure (List Char) :=
  match skipSpace s with
  | [] => failAt .endInObject []
  | c :: r => if c = ':' then .ok r else failPast 1 .expectedColon (c :: r)

theorem length_readColon_lt {s r : List Char} (h : readColon s = .ok r) :
    r.length < s.length := by
  have hs := length_skipSpace_le s
  unfold readColon at h
  split at h
  · simp [failAt] at h
  · rename_i c t hc
    rw [hc, List.length_cons] at hs
    split at h
    · simp only [Except.ok.injEq] at h
      subst h
      omega
    · simp [failPast] at h

/-- The place of a fault in an object as such, found after `s`: the end of the object if it
ends here, or else the next character that is not a blank. -/
def afterObject (s : List Char) : List Char :=
  match skipSpace s with
  | [] => []
  | c :: r => if c = '\x7d' then r else c :: r

/-- What is done with the members of an object: how the value of a key is read into the
state, unless the key is at fault. -/
abbrev Members (σ : Type) : Type := σ → String → Except Fault (Reader σ)

/-- Reads the members of an object and its closing bracket. -/
def readMembers (m : Members σ) (first : Bool) (state : σ) (s : List Char) :
    Except Failure (σ × List Char) :=
  match known (nextKey first s) (p := fun x => x.2.length < s.length)
    fun _ h => length_nextKey_lt h with
  | .error f => .error f
  | .ok ⟨(none, s), _⟩ => .ok (state, s)
  | .ok ⟨(some key, s), _⟩ =>
    match m state key with
    | .error fault => failAt fault (afterObject s)
    | .ok r =>
      match known (readColon s) (p := fun t => t.length < s.length)
        fun _ h => length_readColon_lt h with
      | .error f => .error f
      | .ok ⟨s, _⟩ =>
        match r.take s with
        | .error f => .error f
        | .ok ⟨(state, s), _⟩ => readMembers m false state s
termination_by s.length
decreasing_by simp only at *; omega

theorem length_readMembers_lt {m : Members σ} {first : Bool} {state st : σ} {s t : List Char}
    (h : readMembers m first state s = .ok (st, t)) : t.length < s.length := by
  fun_induction readMembers m first state s generalizing st t with
  | case1 => simp at h
  | case2 first state s u hu =>
    replace hu : u.length < s.length := hu
    simp only [Except.ok.injEq, Prod.mk.injEq] at h
    obtain ⟨-, rfl⟩ := h
    exact hu
  | case3 => simp [failAt] at h
  | case4 => simp at h
  | case5 => simp at h
  | case6 first state s key u hu _ r _ v hv _ st' w hw _ ih =>
    replace hu : u.length < s.length := hu
    replace hw : w.length < v.length := hw
    have := ih h
    omega

/-- Reads an object where a map is expected. -/
def readMap (m : Members σ) (start : σ) (s : List Char) : Except Failure (σ × List Char) :=
  match skipSpace s with
  | [] => failAt .endInValue []
  | c :: t => if c = '\x7b' then readMembers m true start t else refuse "a map" (c :: t)

theorem length_readMap_lt {m : Members σ} {start st : σ} {s t : List Char}
    (h : readMap m start s = .ok (st, t)) : t.length < s.length := by
  have hs := length_skipSpace_le s
  unfold readMap at h
  split at h
  · simp [failAt] at h
  · rename_i c u hc
    rw [hc, List.length_cons] at hs
    split at h
    · have := length_readMembers_lt h
      omega
    · exact absurd h refuse_ne_ok

namespace Reader

/-- A list. -/
def list (r : Reader α) : Reader (List α) where
  read := readList r
  shorter h := length_readList_lt h

/-- An object as a map. Of several members with one key the last one counts. -/
def keyed (r : Reader α) : Reader (Keyed α) where
  read := readMap (fun m key => .ok (r.map (m.insert key))) .empty
  shorter h := length_readMap_lt h

end Reader

/-- Reads a text that holds one value and nothing after it. -/
def readWhole (r : Reader α) (s : List Char) : Except Failure α :=
  match r.read s with
  | .error f => .error f
  | .ok (a, rest) =>
    match skipSpace rest with
    | [] => .ok a
    | c :: t => failPast 1 .trailingCharacters (c :: t)

/-- The value that a text holds, or the fault of the text and its place. -/
def parse (r : Reader α) (text : List Char) : Except Located α :=
  (readWhole r text).mapError (·.locate text)

end BenchReport.Json
