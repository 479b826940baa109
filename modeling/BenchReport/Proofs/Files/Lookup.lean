import BenchReport.Files.Writing

/-!
# Where paths lead in a tree that was changed

Bytes that are put where a file stands, or nothing, change no more of a look-up than what it finds
there (`lookup_put`): a path goes through the names of directories and links, never through a file.
So does what is found (`find_put`), and what a file is written over is found under the same path
(`find_of_lookup_write`). Without links a path leads where its text says (`location_of_lookup`).
-/

namespace BenchReport.Files

/-- What stands at a location after bytes were put there: only a file takes them. -/
def Node.refill (bytes : List UInt8) : Node → Node
  | .file _ => .file bytes
  | node => node

/-- A place after bytes were put at a location. -/
def Place.refill (loc : Location) (bytes : List UInt8) : Place → Place
  | .taken there node => .taken there (if there = loc then node.refill bytes else node)
  | .free there => if there = loc then .taken there (.file bytes) else .free there

/-- The location of a place. -/
def Place.location : Place → Location
  | .taken there _ => there
  | .free there => there

namespace Tree

variable {t : Tree} {intent : Intent} {loc : Location} {bytes : List UInt8}

/-- Whether a file stands at a location, or nothing. -/
def IsOpen (t : Tree) (loc : Location) : Prop :=
  t.get? loc = none ∨ ∃ old, t.get? loc = some (.file old)

theorem IsOpen.ne_nil (h : t.IsOpen loc) : loc ≠ [] := by
  rintro rfl
  rcases h with h | ⟨old, h⟩ <;> simp [get?] at h

/-- What going on to a name comes to, by what stands there. -/
def arrive (t : Tree) (intent : Intent) (k : Location → List RawText → Except Fault Place)
    (here there : Location) (rest : List RawText) : Option Node → Except Fault Place
  | none =>
    if intent = .make ∧ isLast rest ∨ intent = .write ∧ rest = [] then .ok (.free there)
    else .error .missing
  | some (.link target) =>
    if intent = .make ∧ isLast rest then .ok (.taken there (.link target))
    else k (if isAbsolute target then [] else here) (stepsOf target ++ rest)
  | some .directory => t.walk intent k there rest
  | some node =>
    if rest = [] ∨ intent = .make ∧ isLast rest then .ok (.taken there node)
    else .error .notDirectory

theorem walk_name {k : Location → List RawText → Except Fault Place} {here : Location}
    {step : RawText} {rest : List RawText} (hidle : ¬(step = "" ∨ step = ".")) (hup : step ≠ "..")
    (hslash : ¬(intent = .write ∧ isLast rest ∧ rest ≠ []))
    (hlong : ¬255 < step.bytes.length) {found : Option Node}
    (hfound : t.get? (here ++ [step]) = found) :
    t.walk intent k here (step :: rest)
      = t.arrive intent k here (here ++ [step]) rest found := by
  subst hfound
  simp only [walk, if_neg hidle, if_neg hup, if_neg hslash, if_neg hlong]
  rfl

variable {k k' : Location → List RawText → Except Fault Place}

/-- Bytes where a file stands or nothing, against what a name comes to. -/
theorem arrive_put (hopen : t.IsOpen loc)
    (hk : ∀ here steps, (t.get? loc = none → ∃ p, k here steps = .ok p) →
      k' here steps = (k here steps).map (Place.refill loc bytes))
    {here there : Location} {rest : List RawText}
    (hwalk : (t.get? loc = none → ∃ p, t.walk intent k there rest = .ok p) →
      (t.put loc (.file bytes)).walk intent k' there rest
        = (t.walk intent k there rest).map (Place.refill loc bytes))
    (hends : t.get? loc = none → ∃ p, t.arrive intent k here there rest (t.get? there) = .ok p) :
    (t.put loc (.file bytes)).arrive intent k' here there rest
        ((t.put loc (.file bytes)).get? there)
      = (t.arrive intent k here there rest (t.get? there)).map (Place.refill loc bytes) := by
  by_cases hthere : there = loc
  · subst hthere
    rw [get?_put_self hopen.ne_nil]
    rcases hopen with hnone | ⟨old, hold⟩
    · obtain ⟨p, hp⟩ := hends hnone
      rw [hnone] at hp ⊢
      by_cases hfree : intent = .make ∧ isLast rest ∨ intent = .write ∧ rest = []
      · have hend : rest = [] ∨ intent = .make ∧ isLast rest := hfree.symm.imp_left And.right
        simp only [arrive, if_pos hfree, if_pos hend, Except.map, Place.refill, if_true]
      · simp [arrive, hfree] at hp
    · rw [hold]
      by_cases hend : rest = [] ∨ intent = .make ∧ isLast rest
      · simp only [arrive, if_pos hend, Except.map, Place.refill, Node.refill, if_true]
      · simp only [arrive, if_neg hend, Except.map]
  · rw [get?_put_of_ne hthere]
    cases hfound : t.get? there with
    | none =>
      simp only [arrive]
      split <;> simp [Except.map, Place.refill, hthere]
    | some node =>
      rw [hfound] at hends
      cases node with
      | directory => exact hwalk hends
      | link target =>
        simp only [arrive] at hends ⊢
        split
        · simp [Except.map, Place.refill, hthere]
        · next hgoes => exact hk _ _ (by simpa only [if_neg hgoes] using hends)
      | file old =>
        simp only [arrive]
        split <;> simp [Except.map, Place.refill, hthere]
      | device kind =>
        simp only [arrive]
        split <;> simp [Except.map, Place.refill, hthere]

theorem walk_put (hopen : t.IsOpen loc)
    (hk : ∀ here steps, (t.get? loc = none → ∃ p, k here steps = .ok p) →
      k' here steps = (k here steps).map (Place.refill loc bytes))
    {here : Location} {steps : List RawText}
    (hends : t.get? loc = none → ∃ p, t.walk intent k here steps = .ok p) :
    (t.put loc (.file bytes)).walk intent k' here steps
      = (t.walk intent k here steps).map (Place.refill loc bytes) := by
  induction steps generalizing here with
  | nil => simp [walk, Except.map, Place.refill, Node.refill]
  | cons step rest ih =>
    by_cases hidle : step = "" ∨ step = "."
    · simp only [walk, if_pos hidle] at hends ⊢
      exact ih hends
    by_cases hup : step = ".."
    · simp only [walk, if_neg hidle, if_pos hup] at hends ⊢
      exact ih hends
    by_cases hslash : intent = .write ∧ isLast rest ∧ rest ≠ []
    · simp only [walk, if_neg hidle, if_neg hup, if_pos hslash, Except.map]
    by_cases hlong : 255 < step.bytes.length
    · simp only [walk, if_neg hidle, if_neg hup, if_neg hslash, if_pos hlong, Except.map]
    · rw [walk_name hidle hup hslash hlong rfl] at hends ⊢
      rw [walk_name hidle hup hslash hlong rfl]
      exact arrive_put hopen hk ih hends

/-- A path is refused for what it is, or gone from where it starts. -/
theorem lookup_eq (path : RawText) :
    (∃ e, ∀ (t : Tree) (intent : Intent), t.lookup intent path = .error e) ∨
    ∀ (t : Tree) (intent : Intent), t.lookup intent path
      = t.follow intent maxLinks (if isAbsolute path then [] else t.start) (stepsOf path) := by
  unfold lookup
  by_cases hnul : RawText.nul ∈ path.bytes
  · exact .inl ⟨.nul, fun t intent => if_pos hnul⟩
  by_cases hempty : path = ""
  · exact .inl ⟨.missing, fun t intent => by rw [if_neg hnul, if_pos hempty]⟩
  by_cases hlong : pathLimit ≤ path.bytes.length
  · exact .inl ⟨.tooLong, fun t intent => by rw [if_neg hnul, if_neg hempty, if_pos hlong]⟩
  · exact .inr fun t intent => by rw [if_neg hnul, if_neg hempty, if_neg hlong]

/-- What relates two walks, if it relates those behind links, relates two look-ups. -/
theorem lookup_rel {R : Except Fault Place → Except Fault Place → Prop} (t t' : Tree)
    (intent intent' : Intent) (hstart : t'.start = t.start) (herror : ∀ e, R (.error e) (.error e))
    (hwalk : ∀ k k', (∀ here steps, R (k here steps) (k' here steps)) →
      ∀ here steps, R (t.walk intent k here steps) (t'.walk intent' k' here steps))
    (path : RawText) : R (t.lookup intent path) (t'.lookup intent' path) := by
  have hfollow : ∀ links here steps,
      R (t.follow intent links here steps) (t'.follow intent' links here steps) := by
    intro links
    induction links with
    | zero => exact hwalk _ _ fun _ _ => herror .links
    | succ links ih => exact hwalk _ _ ih
  rcases lookup_eq path with ⟨e, he⟩ | heq
  · rw [he, he]
    exact herror e
  · rw [heq, heq, hstart]
    exact hfollow _ _ _

/-- What holds of the place a walk comes to, if it holds of the places behind links, holds of the
place a path leads to. -/
theorem lookup_induction {P : Place → Prop}
    (hwalk : ∀ k, (∀ here steps p, k here steps = .ok p → P p) →
      ∀ here steps p, t.walk intent k here steps = .ok p → P p)
    {path : RawText} {p : Place} (h : t.lookup intent path = .ok p) : P p :=
  lookup_rel (R := fun r _ => ∀ p, r = .ok p → P p) t t intent intent rfl (by simp)
    (fun k _ hk => hwalk k hk) path p h

/-- A look-up is not changed by bytes at a location where a file stands, but for what it finds
there. Where nothing stands, only a look-up that comes to an end is not changed. -/
theorem lookup_put (hopen : t.IsOpen loc) {path : RawText}
    (hends : t.get? loc = none → ∃ p, t.lookup intent path = .ok p) :
    (t.put loc (.file bytes)).lookup intent path
      = (t.lookup intent path).map (Place.refill loc bytes) :=
  lookup_rel (R := fun r r' => (t.get? loc = none → ∃ p, r = .ok p) →
      r' = r.map (Place.refill loc bytes))
    t (t.put loc (.file bytes)) intent intent rfl (fun _ _ => rfl)
    (fun _ _ hk _ _ => walk_put hopen hk) path hends

/-! ### Finding what was there, and what was written -/

theorem walk_find_ne_free (hk : ∀ here steps there, k here steps ≠ .ok (.free there))
    (here : Location) (steps : List RawText) (there : Location) :
    t.walk .find k here steps ≠ .ok (.free there) := by
  fun_induction walk t .find k here steps <;> simp_all

theorem lookup_find_ne_free (path : RawText) (there : Location) :
    t.lookup .find path ≠ .ok (.free there) := by
  intro h
  refine lookup_induction (P := fun p => ∀ there, p ≠ .free there) ?_ h there rfl
  rintro k hk here steps p hwalk there rfl
  exact walk_find_ne_free (fun _ _ _ hfree => hk _ _ _ hfree _ rfl) here steps there hwalk

/-- Bytes at a location where a file stands, or nothing, change no more of what is found than
the bytes at this location. -/
theorem find_put (hopen : t.IsOpen loc) {path : RawText}
    (hends : t.get? loc = none → ∃ r, t.find path = .ok r) :
    (t.put loc (.file bytes)).find path
      = (t.find path).map fun r => (r.1, if r.1 = loc then r.2.refill bytes else r.2) := by
  have hplace : t.get? loc = none → ∃ p, t.lookup .find path = .ok p := by
    intro hnone
    obtain ⟨r, hr⟩ := hends hnone
    cases hp : t.lookup .find path with
    | error e => simp [find, hp] at hr
    | ok p => exact ⟨p, rfl⟩
  rw [find, find, lookup_put hopen hplace]
  cases hp : t.lookup .find path with
  | error e => rfl
  | ok p =>
    cases p with
    | taken there node => rfl
    | free there => exact absurd hp (lookup_find_ne_free path there)

theorem walk_find_of_write {there : Location} {node : Node}
    (hk : ∀ here steps, k here steps = .ok (.taken there node) →
      k' here steps = .ok (.taken there node))
    {here : Location} {steps : List RawText}
    (h : t.walk .write k here steps = .ok (.taken there node)) :
    t.walk .find k' here steps = .ok (.taken there node) := by
  fun_induction walk t .write k here steps with
  | case1 => exact h
  | case2 here step rest hidle ih => rw [walk, if_pos hidle, ih h]
  | case3 here rest hidle ih => rw [walk, if_neg hidle, if_pos rfl, ih h]
  | case4 | case5 | case6 | case7 | case12 => cases h
  | case8 here step rest _ _ _ _ _ target _ hmake => exact absurd hmake.1 (by simp)
  | case9 here step rest hidle hup _ hlong _ target hlink _ =>
    rw [walk_name hidle hup (by simp) hlong hlink, arrive, if_neg (by simp)]
    exact hk _ _ h
  | case10 here step rest hidle hup _ hlong _ hdirectory ih =>
    rw [walk_name hidle hup (by simp) hlong hdirectory]
    exact ih h
  | case11 here step rest hidle hup _ hlong _ found hlink hdirectory hfound hend =>
    rw [walk_name hidle hup (by simp) hlong hfound]
    have hrest : rest = [] := by simpa using hend
    rw [arrive, if_pos (.inl hrest), h]
    · exact hlink
    · exact hdirectory

/-- What stands in the place of a file that is to be written is found under the path. -/
theorem find_of_lookup_write {path : RawText} {there : Location} {node : Node}
    (h : t.lookup .write path = .ok (.taken there node)) : t.find path = .ok (there, node) := by
  have hfind : t.lookup .find path = .ok (.taken there node) :=
    lookup_rel (R := fun r r' => r = .ok (.taken there node) → r' = .ok (.taken there node))
      t t .write .find rfl (by simp) (fun _ _ hk _ _ => walk_find_of_write hk) path h
  rw [find, hfind]

/-! ### Paths without links -/

/-- Where steps lead if no link is on the way. -/
def descend (here : Location) : List RawText → Location
  | [] => here
  | step :: rest =>
    if step = "" ∨ step = "." then descend here rest
    else if step = ".." then descend here.dropLast rest
    else descend (here ++ [step]) rest

/-- Where a path leads if no link is on the way. -/
def location (t : Tree) (path : RawText) : Location :=
  descend (if isAbsolute path then [] else t.start) (stepsOf path)

theorem descend_of_isLast {rest : List RawText} (h : isLast rest) (here : Location) :
    descend here rest = here := by
  induction rest with
  | nil => rfl
  | cons step rest ih =>
    simp only [isLast, List.all_cons, Bool.and_eq_true, beq_iff_eq] at h
    rw [descend, if_pos (.inl h.1)]
    exact ih h.2

/-- Whether no links stand in a tree. -/
def HasNoLinks (t : Tree) : Prop := ∀ loc target, t.get? loc ≠ some (.link target)

theorem HasNoLinks.put (h : t.HasNoLinks) {node : Node} (hnode : ∀ target, node ≠ .link target)
    (loc : Location) : (t.put loc node).HasNoLinks := by
  intro there target hlink
  by_cases hroot : there = []
  · subst hroot
    simp [get?] at hlink
  by_cases hthere : there = loc
  · subst hthere
    rw [get?_put_self hroot] at hlink
    exact hnode target (Option.some.inj hlink)
  · rw [get?_put_of_ne hthere] at hlink
    exact h there target hlink

theorem location_of_walk (hlinks : t.HasNoLinks) {here : Location} {steps : List RawText}
    {p : Place} (h : t.walk intent k here steps = .ok p) : p.location = descend here steps := by
  fun_induction walk t intent k here steps with
  | case1 => cases h; rfl
  | case2 here step rest hidle ih => rw [descend, if_pos hidle, ih h]
  | case3 here rest hidle ih => rw [descend, if_neg hidle, if_pos rfl, ih h]
  | case4 | case5 | case7 | case12 => cases h
  | case6 here step rest hidle hup _ _ there _ hfree =>
    have hend : isLast rest := by
      rcases hfree with ⟨_, hrest⟩ | ⟨_, rfl⟩
      · exact hrest
      · rfl
    cases h
    rw [descend, if_neg hidle, if_neg hup, descend_of_isLast hend]
    rfl
  | case8 here step rest _ _ _ _ there target hlink _ => exact absurd hlink (hlinks there target)
  | case9 here step rest _ _ _ _ there target hlink _ => exact absurd hlink (hlinks there target)
  | case10 here step rest hidle hup _ _ there _ ih =>
    rw [descend, if_neg hidle, if_neg hup, ih h]
  | case11 here step rest hidle hup _ _ there node _ _ _ hend =>
    have hend : isLast rest := by
      rcases hend with rfl | ⟨_, hrest⟩
      · rfl
      · exact hrest
    cases h
    rw [descend, if_neg hidle, if_neg hup, descend_of_isLast hend]
    rfl

/-- A path leads where its text says, if there are no links. -/
theorem location_of_lookup (hlinks : t.HasNoLinks) {path : RawText} {p : Place}
    (h : t.lookup intent path = .ok p) : p.location = t.location path := by
  rcases lookup_eq path with ⟨e, he⟩ | heq
  · rw [he] at h
    cases h
  · rw [heq] at h
    exact location_of_walk hlinks h

end Tree

end BenchReport.Files
