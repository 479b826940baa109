import BenchReport.Proofs.Files.Enumeration
import BenchReport.Proofs.Files.Path
import BenchReport.Proofs.Inputs.Accounts
import BenchReport.Run

/-!
# The inputs and the order of enumeration

Files are listed in the order of the bytes of their names, whatever the order in which a directory
is enumerated. All else of a run follows from what is listed and from what stands at the locations,
so it does not depend on that order either.
-/

namespace BenchReport.Inputs

open Files (RawText Tree)

variable {t t' : Tree}

/-- What is listed are the files with the extension, by the bytes of their names. -/
theorem names_spec (h : (t.entries.map Prod.fst).Nodup) {d : RawText} {extension : String}
    {found : List RawText} (hfound : t.list d = .ok found) :
    ∃ all, names t d extension = .ok all ∧
      (all.map (·.bytes)).Pairwise (· < ·) ∧
      ∀ name, name ∈ all ↔ name ∈ found ∧ t.isFile (Files.Path.join d name) = true ∧
        ∃ stem, stem ≠ [] ∧ name.bytes = stem ++ RawText.dot :: (extension : RawText).bytes ∧
          RawText.dot ∉ (extension : RawText).bytes := by
  have hall : names t d extension
      = .ok ((found.filter (isInput t d extension)).mergeSort (· ≤ ·)) := by
    rw [names, hfound]
  refine ⟨_, hall, List.pairwise_map.mpr ?_, fun name => ?_⟩
  · exact pairwise_names h hall
  · rw [List.mem_mergeSort, List.mem_filter, isInput, Bool.and_eq_true, beq_iff_eq,
      Files.Path.extension?_eq_some_iff]

section

variable (hsame : t.SameEntries t') (h : (t.entries.map Prod.fst).Nodup)

include hsame h

theorem names_eq_of_sameEntries (d : RawText) (extension : String) :
    names t' d extension = names t d extension := by
  have h' : (t'.entries.map Prod.fst).Nodup := (hsame.perm.map _).nodup_iff.mpr h
  have hinput : isInput t' d extension = isInput t d extension := by
    funext name
    rw [isInput, isInput, hsame.isFile_eq h]
  rcases hsame.list_perm h d with ⟨e, he', he⟩ | ⟨found', found, hfound', hfound, hperm⟩
  · rw [names, names, he', he]
  · have hall : names t d extension
        = .ok ((found.filter (isInput t d extension)).mergeSort (· ≤ ·)) := by
      rw [names, hfound]
    have hall' : names t' d extension
        = .ok ((found'.filter (isInput t d extension)).mergeSort (· ≤ ·)) := by
      rw [names, hfound', hinput]
    rw [hall, hall']
    -- two lists of the same names in ascending order are equal
    have hsorted : ((found'.filter (isInput t d extension)).mergeSort (· ≤ ·)).Perm
        ((found.filter (isInput t d extension)).mergeSort (· ≤ ·)) :=
      (List.mergeSort_perm _ _).trans ((hperm.filter _).trans (List.mergeSort_perm _ _).symm)
    refine congrArg Except.ok (hsorted.eq_of_pairwise (fun a b _ _ hab hba => ?_)
      (pairwise_names h' hall') (pairwise_names h hall))
    exact absurd (Std.lt_trans hab hba) Std.lt_irrefl

theorem load_eq_of_sameEntries (timings measurements : Option RawText) :
    load t' timings measurements = load t timings measurements := by
  have htimings : readTimings t' = readTimings t := by
    funext path
    rw [readTimings, readTimings, hsame.openFile_eq h]
  have hmeasurement : readMeasurement t' = readMeasurement t := by
    funext path
    rw [readMeasurement, readMeasurement, hsame.readText_eq h]
  simp only [load, Intake.load, htimings, hmeasurement, names_eq_of_sameEntries hsame h]

end

/-- **What is listed and loaded does not depend on the order of enumeration.** The files of a
directory are listed by the bytes of their names, each once: those that are files, behind links as
well, and have the extension, which stands after the last dot of a name and not at its start. Every
order of the names in a directory is that of some tree with the same entries, and in all such trees
the same is listed, the same is loaded and the same is composed. -/
theorem listing_ignores_enumeration {t t' : Tree} (h : (t.entries.map Prod.fst).Nodup)
    (hsame : t.SameEntries t') :
    (∀ d extension, names t' d extension = names t d extension) ∧
    (∀ d extension found, t.list d = .ok found →
      (∀ found', found'.Perm found → ∃ t'', t.SameEntries t'' ∧ t''.list d = .ok found') ∧
      ∃ all, names t d extension = .ok all ∧
        (all.map (·.bytes)).Pairwise (· < ·) ∧
        ∀ name, name ∈ all ↔ name ∈ found ∧ t.isFile (Files.Path.join d name) = true ∧
          ∃ stem, stem ≠ [] ∧ name.bytes = stem ++ RawText.dot :: (extension : RawText).bytes ∧
            RawText.dot ∉ (extension : RawText).bytes) ∧
    ∀ s origin generated,
      let r := Run.perform t s origin generated
      let r' := Run.perform t' s origin generated
      r'.inputs = r.inputs ∧ r'.composed = r.composed := by
  refine ⟨names_eq_of_sameEntries hsame h, fun d extension found hfound => ⟨?_, ?_⟩,
    fun s origin generated => ⟨?_, ?_⟩⟩
  · intro found' hperm
    exact Tree.exists_sameEntries h hfound hperm
  · exact names_spec h hfound
  · exact load_eq_of_sameEntries hsame h s.timingsPath s.measurementsPath
  · simp only [Run.perform, load_eq_of_sameEntries hsame h]

/-- A directory with two reports, a link to one of them, a name without a stem and a directory. -/
def shuffled : Tree where
  start := []
  entries := [(["d"], .directory), (["d", "b.txt"], .file []), (["d", "l.txt"], .link "a.b.txt"),
    (["d", ".txt"], .file []), (["d", "s.txt"], .directory), (["d", "a.b.txt"], .file [])]

theorem listing_ignores_enumeration_shuffled :
    let backwards : Tree := ⟨[], shuffled.entries.reverse⟩
    (shuffled.entries.map Prod.fst).Nodup ∧ shuffled.SameEntries backwards ∧
    names backwards "d" "txt" = names shuffled "d" "txt" ∧
    ∃ all, names shuffled "d" "txt" = .ok all ∧ ↑"l.txt" ∈ all ∧ ↑"a.b.txt" ∈ all ∧
      ↑".txt" ∉ all ∧ ↑"s.txt" ∉ all := by
  intro backwards
  have hnodup : (shuffled.entries.map Prod.fst).Nodup := by decide
  have hsame : shuffled.SameEntries backwards := ⟨rfl, List.reverse_perm _⟩
  obtain ⟨hnames, hlisted, -⟩ := listing_ignores_enumeration hnodup hsame
  obtain ⟨-, all, hall, -, hmem⟩ := hlisted "d" "txt"
    ["b.txt", "l.txt", ".txt", "s.txt", "a.b.txt"] (by decide +kernel)
  refine ⟨hnodup, hsame, hnames "d" "txt", all, hall, ?_, ?_, ?_, ?_⟩
  · exact (hmem "l.txt").mpr
      ⟨by simp, by decide +kernel, [0x6C], by simp, by decide +kernel, by decide +kernel⟩
  · exact (hmem "a.b.txt").mpr
      ⟨by simp, by decide +kernel, [0x61, RawText.dot, 0x62], by simp, by decide +kernel,
        by decide +kernel⟩
  · intro h
    obtain ⟨-, -, stem, hne, hname, -⟩ := (hmem ".txt").mp h
    have hlength : 4 = stem.length + 4 :=
      (congrArg List.length hname).trans List.length_append
    exact hne (List.length_eq_zero_iff.mp (by omega))
  · intro h
    obtain ⟨-, hfile, -⟩ := (hmem "s.txt").mp h
    exact absurd hfile (by decide +kernel)

end BenchReport.Inputs
