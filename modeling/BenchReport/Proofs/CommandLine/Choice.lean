import BenchReport.Proofs.CommandLine.Given

/-!
# Choices of options

What a run is told to do is a choice of values for some of its options, of the switches that are on,
and of how much it is to say (`Choice`). It is written by spelling these options in any order, and the
settings that are read are those of the choice. Reading fails with a second value of an option, and
with requests to hear both more and less (`read_choice`). Both the order and what is repeated are told
by counting options, which permutations leave as they are.
-/

namespace BenchReport.CommandLine

/-! ### Choices -/

/-- How much a run is to say. -/
inductive Loudness where
  /-- More, by a number of requests. -/
  | louder (times : Nat)
  /-- Only what matters. -/
  | quiet
  deriving Repr, DecidableEq

/-- A choice of options, with each of them given once at most, but the request to hear more any
number of times. -/
structure Choice where
  /-- The directory of the timing reports. -/
  timings : Option Value := none
  /-- The directory of the measurement files. -/
  measurements : Option Value := none
  /-- The directory of the outputs. -/
  output : Option Value := none
  /-- The name of the report. -/
  reportName : Option Value := none
  /-- The name of the snapshot. -/
  dataName : Option Value := none
  /-- Whether the report is not to be printed. -/
  noEcho : Bool := false
  /-- The file of the log. -/
  logFile : Option Value := none
  /-- How much is to be said. -/
  loudness : Loudness := .louder 0

namespace Choice

/-- The values with which an option is given. Where it takes none they are empty. -/
def values (c : Choice) : Opt → List String
  | .timings => (c.timings.map (·.text)).toList
  | .measurements => (c.measurements.map (·.text)).toList
  | .output => (c.output.map (·.text)).toList
  | .reportName => (c.reportName.map (·.text)).toList
  | .dataName => (c.dataName.map (·.text)).toList
  | .noEcho => if c.noEcho then [""] else []
  | .logFile => (c.logFile.map (·.text)).toList
  | .verbose =>
    match c.loudness with
    | .louder times => List.replicate times ""
    | .quiet => []
  | .quiet => if c.loudness = .quiet then [""] else []
  | .help => []
  | .version => []

/-- The options that are given, with their values. -/
def uses (c : Choice) : List Use := Opt.ofRun.flatMap fun o => (c.values o).map (⟨o, ·⟩)

/-- The settings that are meant: the values that are given, and the defaults of the others. -/
def settings (c : Choice) : Settings :=
  let d : Settings := {}
  { timings := c.timings.map (·.text)
    measurements := c.measurements.map (·.text)
    output := (c.output.map (·.text)).getD d.output
    reportName := (c.reportName.map (·.text)).getD d.reportName
    dataName := (c.dataName.map (·.text)).getD d.dataName
    echo := !c.noEcho
    logFile := c.logFile.map (·.text)
    level :=
      match c.loudness with
      | .louder times => Log.levelFor times false
      | .quiet => Log.levelFor 0 true }

theorem mem_uses_iff {c : Choice} {u : Use} :
    u ∈ c.uses ↔ u.value ∈ c.values u.option := by
  obtain ⟨o, v⟩ := u
  have hrun (hv : v ∈ c.values o) : o ∈ Opt.ofRun := by
    cases o
    case help | version => cases hv
    all_goals decide
  simpa [uses] using hrun

theorem count_optionsOf_uses (c : Choice) (o : Opt) :
    (optionsOf c.uses).count o = (c.values o).length := by
  have hoptions : optionsOf c.uses
      = Opt.ofRun.flatMap fun o' => List.replicate (c.values o').length o' := by
    simp [optionsOf, uses, List.map_flatMap, Function.comp_def]
  rw [hoptions]
  cases o <;> simp [Opt.ofRun, List.count_replicate, values]

/-- Every option of a choice can be written. -/
theorem exists_spelling {c : Choice} {u : Use} (hu : u ∈ c.uses) :
    ∃ args, Spelling [u] args := by
  rw [mem_uses_iff] at hu
  obtain ⟨o, v⟩ := u
  have hlong : o.long ∈ o.longs := List.mem_cons_self
  have hvalue {value? : Option Value} (ho : o.takesValue = true)
      (hv : v ∈ (value?.map (·.text)).toList) : ∃ args, Spelling [⟨o, v⟩] args := by
    obtain ⟨value, -, rfl⟩ : ∃ value, value? = some value ∧ value.text = v := by simpa using hv
    exact ⟨_, .longApart ho hlong⟩
  have hswitch (ho : o.IsSwitch) (hv : v = "") : ∃ args, Spelling [⟨o, v⟩] args := by
    rw [hv]
    exact ⟨_, .long ho hlong⟩
  have hflag {p : Prop} [Decidable p] (ho : o.IsSwitch) (hv : v ∈ if p then [""] else []) :
      ∃ args, Spelling [⟨o, v⟩] args := by
    split_ifs at hv
    · exact hswitch ho (List.mem_singleton.mp hv)
    · cases hv
  cases o
  case noEcho | quiet => exact hflag ⟨by decide, rfl⟩ hu
  case verbose =>
    cases hloudness : c.loudness with
    | louder times =>
      rw [values, hloudness] at hu
      exact hswitch ⟨by decide, rfl⟩ (List.eq_of_mem_replicate hu)
    | quiet => simp [values, hloudness] at hu
  case help | version => cases hu
  all_goals exact hvalue rfl hu

/-- The options of a choice can be written in every order. -/
theorem exists_written {c : Choice} {us : List Use} (h : us.Perm c.uses) :
    ∃ args, Written us args := by
  have hus : ∀ u ∈ us, u ∈ c.uses := by
    intro u hu
    exact h.mem_iff.mp hu
  clear h
  induction us with
  | nil => exact ⟨[], .nil⟩
  | cons u us ih =>
    rw [List.forall_mem_cons] at hus
    obtain ⟨args, hargs⟩ := exists_spelling hus.1
    obtain ⟨more, hmore⟩ := ih hus.2
    exact ⟨args ++ more, .append hargs hmore⟩

end Choice

/-! ### Reading what was chosen -/

namespace Choice

variable {c : Choice}

theorem length_values_le (c : Choice) {o : Opt} (ho : o ≠ .verbose) : (c.values o).length ≤ 1 := by
  have hvalue (value? : Option Value) : (value?.map (·.text)).toList.length ≤ 1 := by
    cases value? <;> simp
  cases o
  case verbose => exact absurd rfl ho
  case noEcho | quiet =>
    rw [values]
    split_ifs <;> simp
  case help | version => exact Nat.zero_le 1
  all_goals exact hvalue _

theorem mem_optionsOf_uses_iff {o : Opt} : o ∈ optionsOf c.uses ↔ c.values o ≠ [] := by
  rw [← List.count_pos_iff, count_optionsOf_uses, List.length_pos_iff]

/-- Requests to hear more that are not counted make no difference. -/
theorem levelFor_min (times : Nat) :
    Log.levelFor (min Given.maxVerbosity times) false = Log.levelFor times false := by
  match times with
  | 0 | 1 => rfl
  | times + 2 =>
    obtain ⟨counted, hcounted⟩ : ∃ k, min Given.maxVerbosity (times + 2) = k + 2 :=
      ⟨min 253 times, by rw [Given.maxVerbosity]; omega⟩
    rw [hcounted]
    rfl

/-- Where the options of a choice were added, the settings are those of the choice. -/
theorem settings_eq {g : Given} {us : List Use} (h : Holds g us) (hperm : us.Perm c.uses) :
    g.settings = c.settings := by
  have hvalue {o : Opt} {value? : Option Value}
      (ho : c.values o = (value?.map (·.text)).toList) : g.value? o = value?.map (·.text) := by
    refine Option.ext fun v => ?_
    rw [h.value?_eq_some_iff, hperm.mem_iff, mem_uses_iff]
    simp [ho]
  have hhas (o : Opt) : g.has o = true ↔ c.values o ≠ [] := by
    rw [h.has_iff, mem_optionsOf_of_perm hperm, mem_optionsOf_uses_iff]
  have hecho : g.has .noEcho = c.noEcho := by
    rw [Bool.eq_iff_iff, hhas, values]
    cases c.noEcho <;> simp
  have hlevel : Log.levelFor g.verbosity g.isQuiet
      = match c.loudness with
        | .louder times => Log.levelFor times false
        | .quiet => Log.levelFor 0 true := by
    have hquiet := hhas .quiet
    have hcount : g.verbosity = min Given.maxVerbosity (c.values .verbose).length := by
      rw [h.verbosity_eq, count_optionsOf_of_perm hperm, count_optionsOf_uses]
    cases hloudness : c.loudness with
    | louder times =>
      have hloud : g.isQuiet = false := by simpa [values, hloudness, Given.isQuiet] using hquiet
      rw [hloud, hcount, values, hloudness, List.length_replicate]
      exact levelFor_min times
    | quiet =>
      have hless : g.isQuiet = true := by simpa [values, hloudness, Given.isQuiet] using hquiet
      rw [hless]
      rfl
  simp only [Given.settings, settings, hecho, hlevel,
    hvalue (o := .timings) rfl, hvalue (o := .measurements) rfl, hvalue (o := .output) rfl,
    hvalue (o := .reportName) rfl, hvalue (o := .dataName) rfl, hvalue (o := .logFile) rfl]

end Choice

/-- Arguments are read unless an option is repeated, up to the check for both requests. -/
theorem read_cases {us : List Use} {args : List String} (h : Written us args) :
    (∃ g, Holds g us ∧ read args = g.check) ∨
      ∃ o, o ≠ .verbose ∧ 2 ≤ (optionsOf us).count o ∧
        read args = .error (.misuse (.repeated o)) := by
  rw [read_of_written h]
  obtain ⟨g, hadd, hholds⟩ | ⟨o, ho, hcount, hadd⟩ := holds_empty.addAll (by simp) h.isProper
  · exact .inl ⟨g, hholds, by rw [hadd]; rfl⟩
  · exact .inr ⟨o, ho, hcount, by rw [hadd]; rfl⟩

/-- How often an option is given with one more. -/
theorem count_optionsOf_cons {c : Choice} {us : List Use} {u : Use} (h : us.Perm (u :: c.uses))
    (o : Opt) :
    (optionsOf us).count o = (c.values o).length + if u.option = o then 1 else 0 := by
  rw [count_optionsOf_of_perm h, ← Choice.count_optionsOf_uses]
  simp [optionsOf, List.count_cons]

section Read

variable {c : Choice} {us : List Use} {args : List String} (h : Written us args)

include h

theorem read_of_perm (hperm : us.Perm c.uses) :
    ∃ g, read args = .ok g ∧ g.settings = c.settings := by
  obtain ⟨g, hholds, hread⟩ | ⟨o, ho, hcount, -⟩ := read_cases h
  · have hcalm : .verbose ∉ optionsOf us ∨ .quiet ∉ optionsOf us := by
      rw [mem_optionsOf_of_perm hperm, mem_optionsOf_of_perm hperm, Choice.mem_optionsOf_uses_iff,
        Choice.mem_optionsOf_uses_iff]
      cases hloudness : c.loudness <;> simp [Choice.values, hloudness]
    exact ⟨g, hread.trans (hholds.check.1 hcalm), Choice.settings_eq hholds hperm⟩
  · have hle := c.length_values_le ho
    rw [count_optionsOf_of_perm hperm, Choice.count_optionsOf_uses] at hcount
    omega

/-- A second value is one too many. -/
theorem read_of_repeated {o : Opt} {value : String} (ho : o ≠ .verbose)
    (hgiven : o ∈ optionsOf c.uses) (hperm : us.Perm (⟨o, value⟩ :: c.uses)) :
    read args = .error (.misuse (.repeated o)) := by
  obtain ⟨g, hholds, -⟩ | ⟨o', ho', hcount', hread⟩ := read_cases h
  · have hle := hholds.count_le o ho
    rw [Choice.mem_optionsOf_uses_iff, ← List.length_pos_iff] at hgiven
    rw [count_optionsOf_cons hperm, if_pos rfl] at hle
    omega
  · have hle := c.length_values_le ho'
    rw [count_optionsOf_cons hperm] at hcount'
    obtain rfl : o = o' := by
      by_contra hne
      rw [if_neg hne] at hcount'
      omega
    exact hread

/-- The request to hear less is not heard with one to hear more. -/
theorem read_of_conflict {times : Nat} (hloudness : c.loudness = .louder (times + 1))
    (hperm : us.Perm (⟨.quiet, ""⟩ :: c.uses)) :
    ∃ first second others, read args = .error (.misuse (.conflict first second others)) ∧
      (first = .verbose ∧ second = .quiet ∨ first = .quiet ∧ second = .verbose) := by
  obtain ⟨g, hholds, hread⟩ | ⟨o, ho, hcount, -⟩ := read_cases h
  · have hmore : .verbose ∈ optionsOf us := by
      rw [mem_optionsOf_of_perm hperm]
      refine List.mem_cons_of_mem _ (Choice.mem_optionsOf_uses_iff.mpr ?_)
      simp [Choice.values, hloudness]
    have hless : .quiet ∈ optionsOf us := by
      rw [mem_optionsOf_of_perm hperm]
      exact List.mem_cons_self
    rw [hread]
    exact hholds.check.2 hmore hless
  · have hle := c.length_values_le ho
    rw [count_optionsOf_cons hperm] at hcount
    by_cases hquiet : .quiet = o
    · simp [← hquiet, Choice.values, hloudness] at hcount
    · rw [if_neg hquiet] at hcount
      omega

end Read

/-- **Reading arguments gives the settings that were chosen**, whatever the order of the options and
however each is spelled. It fails if an option with a value is given a second time, and if both more
and less is to be heard. -/
theorem read_choice (c : Choice) :
    (∀ us args, Written us args → us.Perm c.uses →
      ∃ g, read args = .ok g ∧ g.settings = c.settings) ∧
    (∀ us args, Written us args → ∀ o ∈ optionsOf c.uses, o.takesValue = true →
      ∀ value, us.Perm (⟨o, value⟩ :: c.uses) →
        read args = .error (.misuse (.repeated o))) ∧
    (∀ us args, Written us args → ∀ times, c.loudness = .louder (times + 1) →
      us.Perm (⟨.quiet, ""⟩ :: c.uses) →
        ∃ first second others, read args = .error (.misuse (.conflict first second others)) ∧
          (first = .verbose ∧ second = .quiet ∨ first = .quiet ∧ second = .verbose)) := by
  refine ⟨?_, ?_, ?_⟩
  · intro us args h hperm
    exact read_of_perm h hperm
  · intro us args h o hgiven ho value hperm
    have hne : o ≠ .verbose := by
      rintro rfl
      cases ho
    exact read_of_repeated h hne hgiven hperm
  · intro us args h times hloudness hperm
    exact read_of_conflict h hloudness hperm

/-- A directory and two requests to hear more; then with another directory, and with a request to
hear less. -/
theorem read_choice_directory :
    (∃ g, read ["-vt", "a", "--verbose"] = .ok g ∧
      g.settings = { timings := some "a", level := .trace }) ∧
    read ["-vt", "a", "--verbose", "--rust=b"] = .error (.misuse (.repeated .timings)) ∧
    ∃ first second others, read ["-vt", "a", "--verbose", "-q"]
      = .error (.misuse (.conflict first second others)) ∧
        (first = .verbose ∧ second = .quiet ∨ first = .quiet ∧ second = .verbose) := by
  let a : Value := ⟨"a", by decide⟩
  let b : Value := ⟨"b", by decide⟩
  have hverbose : Opt.verbose.IsSwitch := ⟨by decide, rfl⟩
  have hquiet : Opt.quiet.IsSwitch := ⟨by decide, rfl⟩
  have hletters : Spelling [⟨.verbose, ""⟩, ⟨.timings, "a"⟩] ["-vt", "a"] :=
    @Spelling.lettersApart [.verbose] ['v'] .timings 't' a (.cons ⟨hverbose, rfl⟩ .nil) rfl rfl
  have hlong : Spelling [⟨.verbose, ""⟩] ["--verbose"] :=
    @Spelling.long .verbose "verbose" hverbose (by decide)
  have hsecond : Spelling [⟨.timings, "b"⟩] ["--rust=b"] :=
    @Spelling.longJoined .timings "rust" b rfl (by decide)
  have hless : Spelling [⟨.quiet, ""⟩] ["-q"] := .letters (.cons ⟨hquiet, rfl⟩ .nil) (by simp)
  obtain ⟨hread, hrepeated, hconflict⟩ :=
    read_choice { timings := some a, loudness := .louder 2 }
  exact ⟨hread _ _ (.append hletters (.append hlong .nil)) (by decide),
    hrepeated _ _ (.append hletters (.append hlong (.append hsecond .nil))) .timings (by decide)
      rfl "b" (by decide),
    hconflict _ _ (.append hletters (.append hlong (.append hless .nil))) 1 rfl (by decide)⟩

end BenchReport.CommandLine
