import BenchReport.Proofs.Files.Lookup
import BenchReport.Proofs.Files.RawText
import BenchReport.Proofs.Text.Lines
import BenchReport.Proofs.Text.Runs

/-!
# Names below a path

A path that is joined with a name leads to the place of that name where the path leads
(`location_join`), so different names below one path lead to different places. A name has an
extension if a dot stands in it past its start (`extension?_eq_some_iff`).
-/

namespace BenchReport.Files

open RawText (slash dot)

/-- Whether a raw text is a name in a directory. -/
def Path.IsName (name : RawText) : Prop :=
  slash ∉ name.bytes ∧ name ≠ "" ∧ name ≠ "." ∧ name ≠ ".."

instance (name : RawText) : Decidable (Path.IsName name) :=
  inferInstanceAs (Decidable (_ ∧ _ ∧ _ ∧ _))

/-- The extension is what follows the last dot, if something stands before this dot. -/
theorem Path.extension?_eq_some_iff {name extension : RawText} :
    extension? name = some extension ↔
      ∃ stem, stem ≠ [] ∧ name.bytes = stem ++ dot :: extension.bytes ∧
        dot ∉ extension.bytes := by
  constructor
  · intro h
    unfold extension? at h
    dsimp only at h
    split at h
    · next last c rest hdrop =>
      obtain rfl := Option.some.inj h
      have hdot : last = dot := by
        have hhead := List.head?_dropWhile_not (· != dot) name.bytes.reverse
        simpa [hdrop] using hhead
      have hsplit := List.takeWhile_append_dropWhile (p := (· != dot)) (l := name.bytes.reverse)
      rw [hdrop, hdot] at hsplit
      refine ⟨(c :: rest).reverse, by simp, ?_, ?_⟩
      · simpa using (congrArg List.reverse hsplit).symm
      · intro hmem
        rw [List.mem_reverse] at hmem
        simpa using List.mem_takeWhile_imp hmem
    · cases h
  · rintro ⟨stem, hne, hname, hdot⟩
    have hreverse : name.bytes.reverse = extension.bytes.reverse ++ dot :: stem.reverse := by
      rw [hname]
      simp
    have hextension : ∀ c ∈ extension.bytes.reverse, (c != dot) = true := by
      intro c hc
      have hne : c ≠ dot := by
        rintro rfl
        exact hdot (List.mem_reverse.mp hc)
      simpa using hne
    have hstops : Text.Stops (· != dot) (dot :: stem.reverse) := Text.stops_cons rfl
    obtain ⟨c, rest, hstem⟩ := List.exists_cons_of_ne_nil (mt List.reverse_eq_nil_iff.mp hne)
    rw [extension?, hreverse, Text.dropWhile_append_stops hextension hstops,
      Text.takeWhile_append_stops hextension hstops, hstem, List.reverse_reverse]

namespace Tree

variable {t : Tree} {name : RawText}

theorem descend_append (here : Location) (steps rest : List RawText) :
    descend here (steps ++ rest) = descend (descend here steps) rest := by
  fun_induction descend here steps with
  | case1 => rfl
  | case2 here step steps hidle ih => rw [List.cons_append, descend, if_pos hidle, ih]
  | case3 here steps hidle ih => rw [List.cons_append, descend, if_neg hidle, if_pos rfl, ih]
  | case4 here step steps hidle hup ih =>
    rw [List.cons_append, descend, if_neg hidle, if_neg hup, ih]

theorem descend_name (h : Path.IsName name) (here : Location) :
    descend here [name] = here ++ [name] := by
  obtain ⟨-, hempty, hdot, hdots⟩ := h
  simp [descend, hempty, hdot, hdots]

theorem stepsOf_name (h : Path.IsName name) : stepsOf name = [name] := by
  rw [stepsOf, Path.segments, List.splitOn_eq_singleton h.1, List.map_singleton]

/-- The steps of a path that is cut at a slash. -/
theorem stepsOf_append_slash {path : RawText} {front rest : List UInt8}
    (h : path.bytes = front ++ slash :: rest) :
    stepsOf path = stepsOf ⟨front⟩ ++ stepsOf ⟨rest⟩ := by
  rw [stepsOf, Path.segments, h, List.splitOn_append_cons_self, List.map_append]
  rfl

/-- The steps of a path that is joined with a name: the name takes the place of the empty step that
a slash at the end gives, or is added. -/
theorem stepsOf_join (h : Path.IsName name) (base : RawText) :
    isAbsolute (Path.join base name) = isAbsolute base ∧
      ∃ front, stepsOf (Path.join base name) = front ++ [name] ∧
        (stepsOf base = front ∨ stepsOf base = front ++ [RawText.ofText ""]) := by
  have hrelative : name.bytes.head? ≠ some slash := fun hhead => h.1 (List.mem_of_head? hhead)
  rw [Path.join, if_neg hrelative]
  by_cases hempty : base = ""
  · subst hempty
    have habsolute : isAbsolute name = false := by simpa [isAbsolute] using hrelative
    rw [if_pos (.inl rfl)]
    exact ⟨habsolute, [], stepsOf_name h, .inr rfl⟩
  have hbase : base.bytes ≠ [] := by simpa using hempty
  have habsolute : ∀ path rest, path.bytes = base.bytes ++ rest →
      isAbsolute path = isAbsolute base := by
    intro path rest hpath
    rw [isAbsolute, isAbsolute, hpath, List.head?_append_of_ne_nil _ hbase]
  by_cases hslash : base.bytes.getLast? = some slash
  · obtain ⟨front, hfront⟩ := List.getLast?_eq_some_iff.mp hslash
    rw [if_pos (.inr hslash)]
    have hjoined : (base ++ name).bytes = front ++ slash :: name.bytes := by simp [hfront]
    refine ⟨habsolute _ _ (RawText.bytes_append ..), stepsOf ⟨front⟩, ?_, .inr ?_⟩
    · rw [stepsOf_append_slash hjoined, stepsOf_name h]
    · exact stepsOf_append_slash hfront
  · rw [if_neg (by simp [hempty, hslash])]
    have hjoined : (base ++ "/" ++ name).bytes = base.bytes ++ slash :: name.bytes := by
      rw [RawText.bytes_append, RawText.bytes_append, List.append_assoc]
      rfl
    refine ⟨habsolute _ _ hjoined, stepsOf base, ?_, .inl rfl⟩
    rw [stepsOf_append_slash hjoined, stepsOf_name h]

/-- A name below a path leads to the place of that name where the path leads. -/
theorem location_join (h : Path.IsName name) (t : Tree) (base : RawText) :
    t.location (Path.join base name) = t.location base ++ [name] := by
  obtain ⟨habsolute, front, hjoined, hbase⟩ := stepsOf_join h base
  have hfront : ∀ here, descend here (stepsOf base) = descend here front := by
    intro here
    rcases hbase with hbase | hbase
    · rw [hbase]
    · rw [hbase, descend_append]
      rfl
  rw [location, location, habsolute, hjoined, hfront, descend_append, descend_name h]

end Tree

end BenchReport.Files
