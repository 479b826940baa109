import BenchReport.Proofs.Json.Meaning

/-!
# Reading lists and objects as they are written

The elements of a list are read one after the other, and so are the members of an object, each with
what the members before it have made of the state. Reading a container fails exactly where one of
its parts means nothing: an element, or a member whose key spells no text or is at fault.
-/

namespace BenchReport.Json

variable {α β σ : Type}

/-- What is left of a container: all of its parts after the opening bracket, or the other parts
after one part and the blanks after that. -/
def goingOn (first : Bool) (after : Blanks) (bracket : Char) (close : Blanks) (rest : List Char)
    (parts : List (List Char)) : List Char :=
  if first then afterOpening bracket close rest parts
  else after.chars ++ afterPart bracket close rest parts

/-- Where no part is left, the closing bracket stands after some blanks. -/
theorem exists_goingOn_nil (first : Bool) (after : Blanks) (bracket : Char) (close : Blanks)
    (rest : List Char) :
    ∃ b : Blanks, goingOn first after bracket close rest [] = b.chars ++ bracket :: rest := by
  cases first with
  | true => exact ⟨close, rfl⟩
  | false => exact ⟨after.append close, (List.append_assoc ..).symm⟩

/-! ### Lists -/

theorem nextElement_nil (first : Bool) (after close : Blanks) (rest : List Char) :
    nextElement first (goingOn first after ']' close rest []) = .ok (false, rest) := by
  obtain ⟨b, hb⟩ := exists_goingOn_nil first after ']' close rest
  rw [hb, nextElement, skipSpace_append_cons b (by decide)]
  rfl

theorem nextElement_cons (first : Bool) (after close : Blanks) (rest : List Char) (i : Item Tree)
    (items : List (Item Tree)) :
    nextElement first (goingOn first after ']' close rest ((i :: items).map Item.text))
      = .ok (true, i.value.text ++ goingOn false i.after ']' close rest (items.map Item.text)) := by
  have htext (u : List Char) :
      i.text ++ u = i.before.chars ++ (i.value.text ++ (i.after.chars ++ u)) := by
    simp only [Item.text, List.append_assoc]
  obtain ⟨c, r, hskip, hc, hvalue⟩ := Tree.exists_skipSpace i.before i.value
    (i.after.chars ++ afterPart ']' close rest (items.map Item.text))
  have hne : c ≠ ']' := hc.ne_close .square
  rw [hvalue] at hskip
  cases first with
  | true =>
    rw [goingOn, if_pos rfl, List.map_cons, afterOpening, htext, hvalue, nextElement, hskip]
    simp [hne, hvalue, goingOn]
  | false =>
    rw [goingOn, if_neg (by simp), List.map_cons, afterPart, htext, hvalue, nextElement,
      skipSpace_append_cons after (by decide)]
    simp [hskip, hne, hvalue, goingOn]

theorem readElements_eq (r : Reader α) (first : Bool) (s : List Char) :
    readElements r first s = (nextElement first s).bind fun x =>
      if x.1 then (r.read x.2).bind fun y =>
        (readElements r false y.2).map fun z => (y.1 :: z.1, z.2)
      else .ok ([], x.2) := by
  rw [readElements]
  obtain ⟨f, hnext⟩ | ⟨⟨more, s'⟩, hnext⟩ := error_or_ok (nextElement first s)
  · simp only [hnext, known_error]
    rfl
  · simp only [hnext, known_ok]
    cases more with
    | false => rfl
    | true =>
      simp only [Reader.take]
      obtain ⟨f, hread⟩ | ⟨⟨a, t⟩, hread⟩ := error_or_ok (r.read s')
      · simp only [hread, known_error, Except.bind, if_true]
      · simp only [hread, known_ok, Except.bind, if_true]
        cases readElements r false t <;> rfl

theorem ends_goingOn (after : Blanks) {bracket : Char} (h : continuesNumber bracket = false)
    (close : Blanks) (rest : List Char) (parts : List (List Char)) :
    Ends (goingOn false after bracket close rest parts) :=
  ends_append_afterPart after h close rest parts

theorem answers_readElements {r : Reader α} {meaning : Tree → Option α} (h : r.Means meaning)
    (first : Bool) (after close : Blanks) (rest : List Char) (items : List (Item Tree)) :
    Answers ((items.map Item.value).mapM meaning) rest
      (readElements r first (goingOn first after ']' close rest (items.map Item.text))) := by
  induction items generalizing first after with
  | nil =>
    rw [readElements_eq, List.map_nil, List.map_nil, nextElement_nil]
    exact Answers.ok []
  | cons i items ih =>
    rw [readElements_eq, nextElement_cons, List.map_cons, List.mapM_cons]
    refine (h.text i.value (ends_goingOn i.after (by decide) close rest _)).bind fun a => ?_
    rw [bind_pure_comp]
    exact (ih false i.after).map (a :: ·)

theorem Reader.list_means {r : Reader α} {meaning : Tree → Option α} (h : r.Means meaning) :
    r.list.Means fun t => t.items?.bind (·.mapM meaning) := by
  intro b t rest hrest
  obtain ⟨c, u, hskip, hc, htext⟩ := Tree.exists_skipSpace b t rest
  have hrefuse (hne : c ≠ '[') :
      Answers none rest (readList r (b.chars ++ (t.text ++ rest))) := by
    rw [readList, hskip]
    simp only [hne, if_false]
    exact answers_refuse _ _
  cases t with
  | word w => rcases hc with rfl | rfl | rfl <;> exact hrefuse (by decide)
  | number n => exact hrefuse (by rcases hc with rfl | hc; decide; exact isDigit_ne hc (by decide))
  | string ps => cases hc; exact hrefuse (by decide)
  | list items close =>
    have hread : r.list.read (b.chars ++ ((Tree.list items close).text ++ rest))
        = readElements r true (goingOn true .none ']' close rest (items.map Item.text)) := by
      rw [Tree.text_list_append, Reader.list]
      dsimp only
      rw [readList, skipSpace_append_cons b (by decide)]
      rfl
    rw [hread]
    exact answers_readElements h true .none close rest items
  | object members close => cases hc; exact hrefuse (by decide)

/-! ### Objects -/

namespace Member

/-- The name that the key of a member spells. -/
def name? (m : Member α) : Option String := (Piece.spelled? m.key).map String.ofList

/-- The name of a member with its value. -/
def named? (m : Member α) : Option (String × α) := m.name?.map (·, m.value)

end Member

/-- The members of an object by their names. -/
def Tree.members? : Tree → Option (List (String × Tree))
  | object members _ => members.mapM Member.named?
  | _ => none

theorem nextKey_nil (first : Bool) (after close : Blanks) (rest : List Char) :
    nextKey first (goingOn first after '\x7d' close rest []) = .ok (none, rest) := by
  obtain ⟨b, hb⟩ := exists_goingOn_nil first after '\x7d' close rest
  rw [hb, nextKey, skipSpace_append_cons b (by decide)]
  rfl

/-- What follows the key of a member. -/
def afterKey (m : Member Tree) (close : Blanks) (rest : List Char) (members : List (Member Tree)) :
    List Char :=
  m.afterKey.chars ++ ':' :: (m.beforeValue.chars ++ (m.value.text ++
    goingOn false m.after '\x7d' close rest (members.map Member.text)))

theorem answers_nextKey (first : Bool) (after close : Blanks) (rest : List Char) (m : Member Tree)
    (members : List (Member Tree)) :
    Answers (m.name?.map some) (afterKey m close rest members)
      (nextKey first (goingOn first after '\x7d' close rest ((m :: members).map Member.text))) := by
  have htext (u : List Char) : m.text ++ u = m.before.chars ++ '"' :: (Piece.texts m.key ++ '"' ::
      (m.afterKey.chars ++ ':' :: (m.beforeValue.chars ++ (m.value.text ++ (m.after.chars ++ u))))) := by
    rw [Member.text, List.append_assoc, m.lead_append]
    simp only [List.append_assoc]
  have hkey : Answers (m.name?.map some) (afterKey m close rest members)
      (readKey (Piece.texts m.key ++ '"' :: afterKey m close rest members)) := by
    have h := Answers.map (readsSpelling m.key (afterKey m close rest members))
      fun cs => some (String.ofList cs)
    rwa [show (fun cs => some (String.ofList cs)) = some ∘ String.ofList from rfl,
      ← Option.map_map] at h
  cases first with
  | true =>
    rw [goingOn, if_pos rfl, List.map_cons, afterOpening, htext, nextKey,
      skipSpace_append_cons m.before (by decide)]
    exact hkey
  | false =>
    rw [goingOn, if_neg (by simp), List.map_cons, afterPart, htext, nextKey,
      skipSpace_append_cons after (by decide)]
    simp only [skipSpace_append_cons m.before (show isSpace '"' = false by decide)]
    exact hkey

theorem readColon_append (b : Blanks) (s : List Char) :
    readColon (b.chars ++ ':' :: s) = .ok s := by
  rw [readColon, skipSpace_append_cons b (by decide)]
  rfl

theorem readMembers_eq (m : Members σ) (first : Bool) (state : σ) (s : List Char) :
    readMembers m first state s = (nextKey first s).bind fun x =>
      match x.1 with
      | none => .ok (state, x.2)
      | some key =>
        match m state key with
        | .error fault => failAt fault (afterObject x.2)
        | .ok r => (readColon x.2).bind fun s =>
            (r.read s).bind fun y => readMembers m false y.1 y.2 := by
  rw [readMembers]
  obtain ⟨f, hnext⟩ | ⟨⟨key?, s'⟩, hnext⟩ := error_or_ok (nextKey first s)
  · simp only [hnext, known_error]
    rfl
  · simp only [hnext, known_ok]
    cases key? with
    | none => rfl
    | some key =>
      simp only [Except.bind]
      cases m state key with
      | error fault => rfl
      | ok r =>
        simp only
        obtain ⟨f, hcolon⟩ | ⟨t, hcolon⟩ := error_or_ok (readColon s')
        · simp only [hcolon, known_error]
        · simp only [hcolon, known_ok, Reader.take]
          obtain ⟨f, hread⟩ | ⟨⟨a, u⟩, hread⟩ := error_or_ok (r.read t)
          · simp only [hread, known_error]
          · simp only [hread, known_ok]

/-- What an action makes of the state by each member: nothing, if the key is at fault, or else what
the value means to the reader for the key. -/
def Members.Mean (m : Members σ) (step : σ → String → Tree → Option σ) : Prop :=
  ∀ state key, match m state key with
    | .error _ => ∀ t, step state key t = none
    | .ok r => r.Means (step state key)

/-- What members make of the state one after the other. -/
def runMembers (step : σ → String → Tree → Option σ) (state : σ) (members : List (String × Tree)) :
    Option σ :=
  members.foldlM (fun state m => step state m.1 m.2) state

theorem answers_readMembers {m : Members σ} {step : σ → String → Tree → Option σ} (h : m.Mean step)
    (first : Bool) (after close : Blanks) (rest : List Char) (state : σ)
    (members : List (Member Tree)) :
    Answers ((members.mapM Member.named?).bind (runMembers step state)) rest
      (readMembers m first state
        (goingOn first after '\x7d' close rest (members.map Member.text))) := by
  induction members generalizing first after state with
  | nil =>
    rw [readMembers_eq, List.map_nil, nextKey_nil]
    exact Answers.ok state
  | cons x members ih =>
    rw [readMembers_eq]
    obtain ⟨key?, hkey, hread⟩ | ⟨hkey, f, hread⟩ :=
      (answers_nextKey first after close rest x members).cases
    · obtain ⟨key, hname, rfl⟩ := Option.map_eq_some_iff.mp hkey
      have hrun : ((x :: members).mapM Member.named?).bind (runMembers step state)
          = (step state key x.value).bind fun state =>
            (members.mapM Member.named?).bind (runMembers step state) := by
        rw [List.mapM_cons, Member.named?, hname]
        cases members.mapM Member.named? with
        | none => cases step state key x.value <;> rfl
        | some ms => rfl
      rw [hread, hrun]
      have hmean := h state key
      simp only [Except.bind]
      cases hm : m state key with
      | error fault =>
        rw [hm] at hmean
        rw [hmean]
        exact Answers.error _
      | ok r =>
        rw [hm] at hmean
        simp only [afterKey, readColon_append]
        exact (hmean x.beforeValue x.value (ends_goingOn x.after (by decide) close rest _)).bind
          fun state => ih false x.after state
    · have hname : x.name? = none := by simpa using hkey
      have hrun : (x :: members).mapM Member.named? = none := by
        rw [List.mapM_cons, Member.named?, hname]
        rfl
      rw [hread, hrun]
      exact Answers.error f

/-- An object where one is read, and what is refused. -/
theorem answers_readMap {m : Members σ} {step : σ → String → Tree → Option σ} (h : m.Mean step)
    (start : σ) (b : Blanks) (t : Tree) (rest : List Char) :
    Answers (t.members?.bind (runMembers step start)) rest
      (readMap m start (b.chars ++ (t.text ++ rest))) := by
  obtain ⟨c, u, hskip, hc, htext⟩ := Tree.exists_skipSpace b t rest
  have hrefuse (hne : c ≠ '\x7b') :
      Answers none rest (readMap m start (b.chars ++ (t.text ++ rest))) := by
    rw [readMap, hskip]
    simp only [hne, if_false]
    exact answers_refuse _ _
  cases t with
  | word w => rcases hc with rfl | rfl | rfl <;> exact hrefuse (by decide)
  | number n => exact hrefuse (by rcases hc with rfl | hc; decide; exact isDigit_ne hc (by decide))
  | string ps => cases hc; exact hrefuse (by decide)
  | list items close => cases hc; exact hrefuse (by decide)
  | object members close =>
    have hread : readMap m start (b.chars ++ ((Tree.object members close).text ++ rest))
        = readMembers m true start
          (goingOn true .none '\x7d' close rest (members.map Member.text)) := by
      rw [Tree.text_object_append, readMap, skipSpace_append_cons b (by decide)]
      rfl
    rw [hread]
    exact answers_readMembers h true .none close rest start members

/-- The entries of an object whose values mean something. -/
def entries? (meaning : Tree → Option α) (members : List (String × Tree)) :
    Option (List (String × α)) :=
  members.mapM fun m => (meaning m.2).map (m.1, ·)

/-- Puts what a value means into a map. -/
def insertMeaning (meaning : Tree → Option α) (m : Keyed α) (key : String) (t : Tree) :
    Option (Keyed α) :=
  (meaning t).map (m.insert key)

theorem runMembers_insertMeaning (meaning : Tree → Option α) (m : Keyed α)
    (members : List (String × Tree)) :
    runMembers (insertMeaning meaning) m members
      = (entries? meaning members).map fun es => es.foldl (fun m e => m.insert e.1 e.2) m := by
  induction members generalizing m with
  | nil => rfl
  | cons x members ih =>
    rw [runMembers, List.foldlM_cons, entries?, List.mapM_cons, insertMeaning]
    cases meaning x.2 with
    | none => rfl
    | some a =>
      refine (ih (m.insert x.1 a)).trans ?_
      rw [entries?]
      cases members.mapM fun m => (meaning m.2).map (m.1, ·) <;> rfl

/-- An object is read as the map of what its values mean, by their names. -/
theorem Reader.keyed_means {r : Reader α} {meaning : Tree → Option α} (h : r.Means meaning) :
    r.keyed.Means fun t => (t.members?.bind (entries? meaning)).map Keyed.ofList := by
  have hmean : Members.Mean (fun (m : Keyed α) key => .ok (r.map (m.insert key)))
      (insertMeaning meaning) := fun m key => h.map (m.insert key)
  intro b t rest hrest
  have hread := answers_readMap hmean Keyed.empty b t rest
  have heq : t.members?.bind (runMembers (insertMeaning meaning) Keyed.empty)
      = (t.members?.bind (entries? meaning)).map Keyed.ofList := by
    cases t.members? with
    | none => rfl
    | some members => exact runMembers_insertMeaning meaning .empty members
  rw [heq] at hread
  exact hread

/-! ### Whole texts -/

/-- A text is parsed as what is read of it if only blanks are left. -/
theorem parse_eq_ok_iff_read {r : Reader α} {s : List Char} {a : α} :
    parse r s = .ok a ↔ ∃ rest, r.read s = .ok (a, rest) ∧ skipSpace rest = [] := by
  rw [parse, readWhole]
  obtain ⟨f, hread⟩ | ⟨⟨a', rest⟩, hread⟩ := error_or_ok (r.read s)
  · simp [hread, Except.mapError]
  · cases hrest : skipSpace rest with
    | nil => simp [hread, hrest, Except.mapError]
    | cons c u => simp +contextual [hread, hrest, Except.mapError, failPast]

/-- A text that holds one value, with blanks before and after it, is parsed as what the value
means. -/
theorem Reader.Means.parse_eq_ok_iff {r : Reader α} {meaning : Tree → Option α}
    (h : r.Means meaning) (before : Blanks) (t : Tree) (after : Blanks) {a : α} :
    parse r (before.chars ++ (t.text ++ after.chars)) = .ok a ↔ meaning t = some a := by
  rw [parse_eq_ok_iff_read]
  obtain ⟨x, hmeaning, hread⟩ | ⟨hmeaning, f, hread⟩ := (h before t (ends_chars after)).cases
  · rw [hread, hmeaning]
    simp [skipSpace_chars]
  · rw [hread, hmeaning]
    simp

end BenchReport.Json
