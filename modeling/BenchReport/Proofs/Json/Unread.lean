import BenchReport.Proofs.Json.Real

/-!
# Values that are not read back

A real number that is not finite is printed as the word `null`, which means no number to a reader.
So there is one tree for each value and level that has the text of the value (`Value.tree`), and a
reader that asks for the real numbers of the value reads it only if all of them are finite
(`Value.OnlyFinite`): a list or a map if its elements do, a record if the values of its fields do
(`Layout.onlyFinite`).
-/

namespace BenchReport.Json

variable {α σ : Type}

/-! ### The tree of a value -/

/-- A real number is printed as a value that means a number if it is finite. -/
theorem exists_tree_of_real (x : Float) (level : Nat) : ∃ t : Tree,
    t.text = (Value.real x).print level ∧ ((∃ y, t.real? = some y) ↔ x.isFinite = true) := by
  by_cases hx : x.isFinite = true
  · have hreals : (Value.real x).Reals Value.Readable := Value.readable_of_isFinite hx
    obtain ⟨t, htext, hshows⟩ := (Value.real x).exists_tree level hreals
    exact ⟨t, htext, iff_of_true hshows hx⟩
  · have hnone : Decimal.shortestText? x = none := by
      have hunpack : ¬ (Decimal.unpack x).isFinite = true := hx
      unfold Decimal.shortestText?
      split
      · rfl
      · rfl
      · next h => exact absurd (by rw [h]; rfl) hunpack
      · next h => exact absurd (by rw [h]; rfl) hunpack
    refine ⟨.word .null, ?_, iff_of_false ?_ hx⟩
    · rw [Value.print, hnone]
      rfl
    · rintro ⟨y, hy⟩
      cases hy

namespace Tree

/-- A real number as it is printed. -/
noncomputable def ofReal (x : Float) : Tree := (exists_tree_of_real x 0).choose

theorem text_ofReal (x : Float) (level : Nat) : (ofReal x).text = (Value.real x).print level :=
  (exists_tree_of_real x 0).choose_spec.1

theorem isFinite_of_real?_ofReal {x y : Float} (h : (ofReal x).real? = some y) :
    x.isFinite = true :=
  (exists_tree_of_real x 0).choose_spec.2.mp ⟨y, h⟩

end Tree

namespace Value

mutual

/-- A value as it is printed at a level of indentation. -/
noncomputable def tree (level : Nat) : Value → Tree
  | natural n => .ofNat n
  | real x => .ofReal x
  | text s => .ofString s
  | list vs => .ofItems level (itemTrees (level + 1) vs)
  | object ms => .ofMembers level (memberTrees (level + 1) ms)

/-- The elements of a list as they are printed. -/
noncomputable def itemTrees (level : Nat) : List Value → List Tree
  | [] => []
  | v :: vs => v.tree level :: itemTrees level vs

/-- The members of an object as they are printed. -/
noncomputable def memberTrees (level : Nat) : List (String × Value) → List (String × Tree)
  | [] => []
  | (key, v) :: ms => (key, v.tree level) :: memberTrees level ms

end

mutual

theorem text_tree (level : Nat) : ∀ v : Value, (v.tree level).text = v.print level
  | natural n => Tree.text_ofNat n
  | real x => Tree.text_ofReal x level
  | text s => Piece.stringText_ofText s
  | list vs => by
    rw [tree, Tree.text_ofItems, print, texts_itemTrees]
  | object ms => by
    rw [tree, Tree.text_ofMembers, print, texts_memberTrees]

theorem texts_itemTrees (level : Nat) :
    ∀ vs : List Value, (itemTrees level vs).map Tree.text = printItems level vs
  | [] => rfl
  | v :: vs => by
    rw [itemTrees, List.map_cons, text_tree level v, texts_itemTrees level vs, printItems]

theorem texts_memberTrees (level : Nat) : ∀ ms : List (String × Value),
    (memberTrees level ms).map (fun m => quoted m.1 ++ ": ".toList ++ m.2.text)
      = printMembers level ms
  | [] => rfl
  | (key, v) :: ms => by
    rw [memberTrees, List.map_cons, text_tree level v, texts_memberTrees level ms, printMembers]

end

theorem itemTrees_eq_map (level : Nat) (vs : List Value) :
    itemTrees level vs = vs.map (tree level) := by
  induction vs with
  | nil => rfl
  | cons v vs ih => rw [itemTrees, ih, List.map_cons]

theorem memberTrees_eq_map (level : Nat) (ms : List (String × Value)) :
    memberTrees level ms = ms.map fun m => (m.1, m.2.tree level) := by
  induction ms with
  | nil => rfl
  | cons m ms ih => rw [memberTrees, ih, List.map_cons]

theorem items?_tree_list (level : Nat) (vs : List Value) :
    ((list vs).tree level).items? = some (vs.map (tree (level + 1))) := by
  rw [tree, Tree.items?_ofItems, itemTrees_eq_map]

theorem members?_tree_object (level : Nat) (ms : List (String × Value)) :
    ((object ms).tree level).members? = some (ms.map fun m => (m.1, m.2.tree (level + 1))) := by
  rw [tree, Tree.members?_ofMembers, memberTrees_eq_map]

/-! ### What is asked of a value -/

/-- Whether a value means something only if its real numbers are finite. -/
def OnlyFinite (meaning : Tree → Option α) (v : Value) : Prop :=
  ∀ level a, meaning (v.tree level) = some a → v.Reals (·.isFinite = true)

theorem onlyFinite_natural (meaning : Tree → Option α) (n : Nat) :
    (natural n).OnlyFinite meaning := fun _ _ _ => trivial

theorem onlyFinite_text (meaning : Tree → Option α) (s : String) :
    (text s).OnlyFinite meaning := fun _ _ _ => trivial

theorem onlyFinite_real (x : Float) : (real x).OnlyFinite Tree.real? :=
  fun _ _ h => Tree.isFinite_of_real?_ofReal h

theorem onlyFinite_list {print : α → Value} {β : Type} {meaning : Tree → Option β} {as : List α}
    (h : ∀ a ∈ as, (print a).OnlyFinite meaning) :
    (list (as.map print)).OnlyFinite fun t => t.items?.bind (·.mapM meaning) := by
  intro level bs hmeaning
  simp only [items?_tree_list, Option.bind_some] at hmeaning
  refine itemReals_map_iff.mpr fun a ha => ?_
  have hmem : (print a).tree (level + 1) ∈ (as.map print).map (tree (level + 1)) :=
    List.mem_map_of_mem (List.mem_map_of_mem ha)
  obtain ⟨b, hb⟩ := exists_of_mapM_eq_some hmeaning hmem
  exact h a ha _ b hb

theorem onlyFinite_keyed {key : α → String} {print : α → Value} {β : Type}
    {meaning : Tree → Option β} {as : List α} (h : ∀ a ∈ as, (print a).OnlyFinite meaning) :
    (object (as.map fun a => (key a, print a))).OnlyFinite
      fun t => (t.members?.bind (entries? meaning)).map Keyed.ofList := by
  intro level m hmeaning
  simp only [members?_tree_object, Option.bind_some, Option.map_eq_some_iff] at hmeaning
  obtain ⟨es, hes, -⟩ := hmeaning
  refine memberReals_map_iff.mpr fun a ha => ?_
  have hmem : (key a, (print a).tree (level + 1)) ∈
      (as.map fun a => (key a, print a)).map fun m => (m.1, m.2.tree (level + 1)) := by
    rw [List.map_map]
    exact List.mem_map_of_mem ha
  obtain ⟨e, he⟩ := exists_of_mapM_eq_some hes hmem
  obtain ⟨b, hb, -⟩ := Option.map_eq_some_iff.mp he
  exact h a ha _ b hb

end Value

/-! ### Records -/

/-- The values that are put into slots have finite real numbers. The induction is on the slots. -/
theorem memberReals_of_fillAll {slots : List (Slot σ)} {ms : List (String × Value)}
    (h : List.Forall₂ (fun s m => m.2.OnlyFinite s.meaning) slots ms) (level : Nat) {st st' : σ}
    (hfill : fillAll slots st (ms.map fun m => m.2.tree level) = some st') :
    Value.MemberReals (·.isFinite = true) ms := by
  induction h generalizing st with
  | nil => trivial
  | @cons s m slots ms hm _ ih =>
    rw [List.map_cons, fillAll, Option.bind_eq_some_iff] at hfill
    obtain ⟨st₁, hst, hrest⟩ := hfill
    obtain ⟨v, hv, -⟩ := Option.map_eq_some_iff.mp hst
    exact ⟨hm level v hv, ih hrest⟩

/-- **A record is read only if its real numbers are finite**, if its fields are. -/
theorem Layout.onlyFinite {k : Schema σ α} (l : Layout k) {ms : List (String × Value)}
    (hnames : ms.map Prod.fst = l.names)
    (h : List.Forall₂ (fun s m => m.2.OnlyFinite s.meaning) l.slots ms) :
    (Value.object ms).OnlyFinite l.meaning := by
  intro level a hmeaning
  have hmembers := Value.members?_tree_object level ms
  have hfst : (ms.map fun m => (m.1, m.2.tree (level + 1))).map Prod.fst = l.names := by
    rw [List.map_map]
    exact hnames
  have hnodup := l.nodup
  rw [← Layout.names, ← hfst] at hnodup
  rw [Layout.meaning, ← hfst, fields?_of_members? hmembers hnodup, Option.bind_some,
    Layout.ofFields?, List.map_map, Option.bind_eq_some_iff] at hmeaning
  obtain ⟨st, hfill, -⟩ := hmeaning
  exact memberReals_of_fillAll h _ hfill

end BenchReport.Json
