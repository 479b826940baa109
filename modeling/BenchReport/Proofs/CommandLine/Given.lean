import BenchReport.Proofs.CommandLine.Spelling
import Mathlib.Data.List.Nodup

/-!
# What is given by options

Options are added one after the other to what is given, and a request to hear more takes the place of
those before. So what is given holds just the options so far, each of them once (`Holds`). An option
can be added unless it is there, or it is the request to hear more, so that adding options fails only
with one of them repeated (`Holds.addAll`). In the end the check looks for requests to hear both more
and less (`Holds.check`).
-/

namespace BenchReport.CommandLine

/-! ### Options of a run -/

/-- An option of a run, with a value if it takes one. -/
def Use.IsProper (u : Use) : Prop :=
  u.option ∈ Opt.ofRun ∧ (u.value = "" ↔ u.option.takesValue = false)

theorem Value.text_ne (value : Value) : value.text ≠ "" := by
  intro hempty
  have h := value.isValue
  rw [hempty] at h
  cases h

theorem Opt.mem_ofRun_of_takesValue {o : Opt} (h : o.takesValue = true) : o ∈ ofRun := by
  cases o
  case help | version => cases h
  all_goals decide

theorem Value.isProper {o : Opt} (h : o.takesValue = true) (value : Value) :
    Use.IsProper ⟨o, value.text⟩ :=
  ⟨Opt.mem_ofRun_of_takesValue h, by simp [value.text_ne, h]⟩

theorem Opt.IsSwitch.isProper {o : Opt} (h : o.IsSwitch) : Use.IsProper ⟨o, ""⟩ :=
  ⟨h.1, by simp [h.2]⟩

theorem SwitchLetters.isProper {os : List Opt} {cs : List Char} (h : SwitchLetters os cs) :
    ∀ u ∈ os.map (fun o => (⟨o, ""⟩ : Use)), u.IsProper := by
  induction h with
  | nil => simp
  | cons hletter _ ih =>
    rw [List.map_cons, List.forall_mem_cons]
    exact ⟨hletter.1.isProper, ih⟩

/-- What arguments spell are options of a run. -/
theorem Written.isProper {us : List Use} {args : List String} (h : Written us args) :
    ∀ u ∈ us, u.IsProper := by
  induction h with
  | nil => simp
  | append hus _ ih =>
    rw [List.forall_mem_append]
    refine ⟨?_, ih⟩
    cases hus with
    | long ho _ => simpa using ho.isProper
    | longApart ho _ => simpa using Value.isProper ho _
    | longJoined ho _ => simpa using Value.isProper ho _
    | letters hcs _ => exact hcs.isProper
    | lettersApart hcs ho _ | lettersAttached hcs ho _ | lettersJoined hcs ho _ =>
      rw [List.forall_mem_append]
      exact ⟨hcs.isProper, by simpa using Value.isProper ho _⟩

theorem Use.IsProper.eq_verbose {u : Use} (hu : u.IsProper) (ho : u.option = .verbose) :
    u = ⟨.verbose, ""⟩ := by
  obtain ⟨o, v⟩ := u
  obtain rfl : o = .verbose := ho
  exact congrArg (Use.mk .verbose) (hu.2.mpr rfl)

/-! ### What is given so far -/

/-- The options of some uses. -/
def optionsOf (us : List Use) : List Opt := us.map (·.option)

theorem count_optionsOf_of_perm {us vs : List Use} (h : us.Perm vs) (o : Opt) :
    (optionsOf us).count o = (optionsOf vs).count o :=
  (h.map _).count_eq o

theorem mem_optionsOf_of_perm {us vs : List Use} (h : us.Perm vs) {o : Opt} :
    o ∈ optionsOf us ↔ o ∈ optionsOf vs :=
  (h.map _).mem_iff

/-- Whether what is given are the options so far: each of them, and none twice but the request to
hear more, which is counted. -/
structure Holds (g : Given) (us : List Use) : Prop where
  nodup : (optionsOf g.uses).Nodup
  mem_iff : ∀ u, u ∈ g.uses ↔ u ∈ us
  verbosity_eq : g.verbosity = min Given.maxVerbosity ((optionsOf us).count .verbose)
  count_le : ∀ o ≠ .verbose, (optionsOf us).count o ≤ 1

theorem holds_empty : Holds .empty [] where
  nodup := List.nodup_nil
  mem_iff _ := Iff.rfl
  verbosity_eq := rfl
  count_le _ _ := Nat.zero_le 1

namespace Holds

variable {g : Given} {us : List Use}

theorem has_iff (h : Holds g us) (o : Opt) : g.has o = true ↔ o ∈ optionsOf us := by
  simp [Given.has, optionsOf, h.mem_iff]

/-- Another request to hear more takes the place of those before. -/
theorem louder (h : Holds g us) (hproper : ∀ u ∈ us, u.IsProper) :
    Holds g.louder (us ++ [⟨.verbose, ""⟩]) where
  nodup := by
    have hoptions : optionsOf g.louder.uses
        = (optionsOf g.uses).filter (· != .verbose) ++ [.verbose] := by
      simp [Given.louder, optionsOf, List.filter_map, Function.comp_def]
    rw [hoptions, ← List.concat_eq_append]
    exact List.Nodup.concat (by simp) (h.nodup.filter _)
  mem_iff u := by
    by_cases ho : u.option = .verbose
    · simpa [Given.louder, ho] using fun hu => (hproper u hu).eq_verbose ho
    · simp [Given.louder, ho, h.mem_iff]
  verbosity_eq := by
    have hcount : (optionsOf (us ++ [⟨.verbose, ""⟩])).count .verbose
        = (optionsOf us).count .verbose + 1 := by simp [optionsOf]
    rw [Given.louder, h.verbosity_eq, hcount]
    dsimp only
    omega
  count_le o ho := by
    simpa [optionsOf, List.count_singleton, ho, Ne.symm ho] using h.count_le o ho

/-- Another option is added as it is. -/
theorem once (h : Holds g us) {u : Use} (hne : u.option ≠ .verbose)
    (hnew : u.option ∉ optionsOf us) :
    Holds { g with uses := g.uses ++ [u] } (us ++ [u]) where
  nodup := by
    have hfresh : u.option ∉ optionsOf g.uses := by
      simpa [optionsOf, h.mem_iff] using hnew
    have hoptions : optionsOf (g.uses ++ [u]) = optionsOf g.uses ++ [u.option] := by
      simp [optionsOf]
    rw [hoptions, ← List.concat_eq_append]
    exact List.Nodup.concat hfresh h.nodup
  mem_iff v := by simp [h.mem_iff]
  verbosity_eq := by simpa [optionsOf, hne] using h.verbosity_eq
  count_le o ho := by
    have hcount := h.count_le o ho
    rcases eq_or_ne u.option o with rfl | hother
    · simpa [optionsOf, List.count_eq_zero] using hnew
    · simpa [optionsOf, hother] using hcount

end Holds

/-- An option that may be given once is added unless it was given. -/
theorem Given.add_eq {g : Given} {u : Use} (hu : u.IsProper) (hne : u.option ≠ .verbose) :
    g.add u.option u.value? =
      if g.has u.option then .error (.misuse (.repeated u.option))
      else .ok { g with uses := g.uses ++ [u] } := by
  obtain ⟨o, v⟩ := u
  obtain ⟨hrun, hvalue⟩ := hu
  cases o
  case verbose => exact absurd rfl hne
  case help | version => simp [Opt.ofRun] at hrun
  all_goals
    simp [Opt.takesValue, Opt.placeholder?] at hvalue
    simp [Given.add, Use.value?, Given.once, Opt.takesValue, Opt.placeholder?, Opt.isPath, hvalue]

/-- **What is given holds all options, unless one of them is repeated**: only the request to hear
more is added twice. -/
theorem Holds.addAll {g : Given} {us vs : List Use} (h : Holds g us)
    (hus : ∀ u ∈ us, u.IsProper) (hvs : ∀ u ∈ vs, u.IsProper) :
    (∃ g', g.addAll vs = .ok g' ∧ Holds g' (us ++ vs)) ∨
      ∃ o, o ≠ .verbose ∧ 2 ≤ (optionsOf (us ++ vs)).count o ∧
        g.addAll vs = .error (.misuse (.repeated o)) := by
  induction vs generalizing g us with
  | nil => exact .inl ⟨g, rfl, by simpa using h⟩
  | cons u vs ih =>
    rw [List.forall_mem_cons] at hvs
    obtain ⟨hu, hvs⟩ := hvs
    have hus' : ∀ v ∈ us ++ [u], v.IsProper := by
      rw [List.forall_mem_append]
      exact ⟨hus, by simpa using hu⟩
    have hadd : g.addAll (u :: vs) = g.add u.option u.value? >>= fun g' => g'.addAll vs :=
      List.foldlM_cons
    have hsplit : us ++ u :: vs = us ++ [u] ++ vs := by simp
    rw [hadd, hsplit]
    by_cases hverbose : u.option = .verbose
    · obtain rfl := hu.eq_verbose hverbose
      exact ih (h.louder hus) hus' hvs
    · rw [Given.add_eq hu hverbose]
      split_ifs with hhas
      · have hcount : (optionsOf (us ++ [u] ++ vs)).count u.option
            = (optionsOf us).count u.option + 1 + (optionsOf vs).count u.option := by
          simp [optionsOf, Nat.add_assoc, Nat.add_comm 1]
        have hpos := List.count_pos_iff.mpr ((h.has_iff _).mp hhas)
        exact .inr ⟨u.option, hverbose, by omega, rfl⟩
      · rw [h.has_iff] at hhas
        exact ih (h.once hverbose hhas) hus' hvs

namespace Holds

variable {g : Given} {us : List Use}

/-- The check asks whether both requests to hear more and less are there. -/
theorem check (h : Holds g us) :
    (.verbose ∉ optionsOf us ∨ .quiet ∉ optionsOf us → g.check = .ok g) ∧
      (.verbose ∈ optionsOf us → .quiet ∈ optionsOf us →
        ∃ first second others, g.check = .error (.misuse (.conflict first second others)) ∧
          (first = .verbose ∧ second = .quiet ∨ first = .quiet ∧ second = .verbose)) := by
  have hnodup : ((g.uses.map (·.option)).filter fun o => o == .verbose || o == .quiet).Nodup :=
    h.nodup.filter _
  have hasked (o : Opt) :
      o ∈ (g.uses.map (·.option)).filter (fun o => o == .verbose || o == .quiet) ↔
        o ∈ optionsOf us ∧ (o = .verbose ∨ o = .quiet) := by
    simp [optionsOf, h.mem_iff]
  unfold Given.check
  dsimp only
  generalize (g.uses.map (·.option)).filter (fun o => o == .verbose || o == .quiet) = asked
    at hnodup hasked ⊢
  rcases asked with _ | ⟨first, _ | ⟨second, rest⟩⟩
  · refine ⟨fun _ => rfl, ?_⟩
    intro hmore _
    have hverbose := (hasked _).mpr ⟨hmore, .inl rfl⟩
    cases hverbose
  · refine ⟨fun _ => rfl, ?_⟩
    intro hmore hless
    have hfirst := List.mem_singleton.mp ((hasked _).mpr ⟨hmore, .inl rfl⟩)
    have hsecond := List.mem_singleton.mp ((hasked _).mpr ⟨hless, .inr rfl⟩)
    cases hfirst.trans hsecond.symm
  · -- two that were asked for are the two requests, in the one order or the other
    have hne : first ≠ second := by
      rintro rfl
      simp at hnodup
    obtain ⟨hfirst, hfirst'⟩ := (hasked first).mp (by simp)
    obtain ⟨hsecond, hsecond'⟩ := (hasked second).mp (by simp)
    rcases hfirst' with rfl | rfl <;> rcases hsecond' with rfl | rfl
    · exact absurd rfl hne
    · exact ⟨fun hor => (hor.elim (absurd hfirst) (absurd hsecond)),
        fun _ _ => ⟨_, _, _, rfl, .inl ⟨rfl, rfl⟩⟩⟩
    · exact ⟨fun hor => (hor.elim (absurd hsecond) (absurd hfirst)),
        fun _ _ => ⟨_, _, _, rfl, .inr ⟨rfl, rfl⟩⟩⟩
    · exact absurd rfl hne

theorem value?_eq_some_iff (h : Holds g us) {o : Opt} {v : String} :
    g.value? o = some v ↔ ⟨o, v⟩ ∈ us := by
  rw [← h.mem_iff, Given.value?, Option.map_eq_some_iff]
  constructor
  · rintro ⟨u, hfind, rfl⟩
    have ho : u.option = o := by simpa using List.find?_some hfind
    rw [← ho]
    exact List.mem_of_find?_eq_some hfind
  · intro hmem
    obtain ⟨u, hfind⟩ : ∃ u, g.uses.find? (·.option == o) = some u := by
      rw [← Option.isSome_iff_exists, List.find?_isSome]
      exact ⟨_, hmem, by simp⟩
    have ho : u.option = o := by simpa using List.find?_some hfind
    have hsame : u = ⟨o, v⟩ :=
      List.inj_on_of_nodup_map h.nodup (List.mem_of_find?_eq_some hfind) hmem ho
    exact ⟨u, hfind, by rw [hsame]⟩

end Holds

end BenchReport.CommandLine
