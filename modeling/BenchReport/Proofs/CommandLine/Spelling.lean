import BenchReport.CommandLine.Reading
import Mathlib.Data.List.Forall2

/-!
# Spellings of options

An option has a long name, maybe another, and maybe a letter. Its value is an argument of its own, or
follows an equals sign, or follows the letter; and letters may share an argument (`Spelling`). An
option whose value is an argument of its own is pending when its name is read, and it is pending with
its value when that is read. So the arguments of one option are not dealt with before those of the
next are read, and what they say is compared after the pending option is dealt with (`Settles`). In
this way every spelling of an option says the same, and a command line says one option after the
other (`read_of_written`).
-/

namespace BenchReport.CommandLine

/-! ### Arguments that spell options -/

/-- Whether a text is a value wherever it stands: it is not empty, and it begins neither like an
option nor like a value that is attached to one. -/
def IsValue (s : String) : Prop := s.toList.head?.any (fun c => c != '-' && c != '=') = true

instance (s : String) : Decidable (IsValue s) := inferInstanceAs (Decidable (_ = true))

/-- A value of an option. -/
structure Value where
  /-- The text. -/
  text : String
  /-- It is a value wherever it stands. -/
  isValue : IsValue text

/-- Whether an option is one of a run that takes no value. -/
def Opt.IsSwitch (o : Opt) : Prop := o ∈ ofRun ∧ o.takesValue = false

/-- Letters of options that take no values. -/
def SwitchLetters : List Opt → List Char → Prop :=
  List.Forall₂ fun o c => o.IsSwitch ∧ o.short? = some c

/-- Arguments that give an option, or several by letters of one argument. -/
inductive Spelling : List Use → List String → Prop where
  /-- A name without a value. -/
  | long {o : Opt} {name : String} (ho : o.IsSwitch) (hname : name ∈ o.longs) :
      Spelling [⟨o, ""⟩] ["--" ++ name]
  /-- A name, and the value as the next argument. -/
  | longApart {o : Opt} {name : String} {value : Value} (ho : o.takesValue = true)
      (hname : name ∈ o.longs) :
      Spelling [⟨o, value.text⟩] ["--" ++ name, value.text]
  /-- A name with a value. -/
  | longJoined {o : Opt} {name : String} {value : Value} (ho : o.takesValue = true)
      (hname : name ∈ o.longs) :
      Spelling [⟨o, value.text⟩] ["--" ++ name ++ "=" ++ value.text]
  /-- Letters without a value. -/
  | letters {os : List Opt} {cs : List Char} (hcs : SwitchLetters os cs) (hne : cs ≠ []) :
      Spelling (os.map (⟨·, ""⟩)) ["-" ++ String.ofList cs]
  /-- Letters, the last of which has its value as the next argument. -/
  | lettersApart {os : List Opt} {cs : List Char} {o : Opt} {c : Char} {value : Value}
      (hcs : SwitchLetters os cs) (ho : o.takesValue = true) (hc : o.short? = some c) :
      Spelling (os.map (⟨·, ""⟩) ++ [⟨o, value.text⟩])
        ["-" ++ String.ofList (cs ++ [c]), value.text]
  /-- Letters, the last of which has its value attached. -/
  | lettersAttached {os : List Opt} {cs : List Char} {o : Opt} {c : Char} {value : Value}
      (hcs : SwitchLetters os cs) (ho : o.takesValue = true) (hc : o.short? = some c) :
      Spelling (os.map (⟨·, ""⟩) ++ [⟨o, value.text⟩])
        ["-" ++ String.ofList (cs ++ [c]) ++ value.text]
  /-- Letters, the last of which has its value behind an equals sign. -/
  | lettersJoined {os : List Opt} {cs : List Char} {o : Opt} {c : Char} {value : Value}
      (hcs : SwitchLetters os cs) (ho : o.takesValue = true) (hc : o.short? = some c) :
      Spelling (os.map (⟨·, ""⟩) ++ [⟨o, value.text⟩])
        ["-" ++ String.ofList (cs ++ [c]) ++ "=" ++ value.text]

/-- Arguments that give options one after the other. -/
inductive Written : List Use → List String → Prop where
  | nil : Written [] []
  | append {us vs : List Use} {args more : List String} (hus : Spelling us args)
      (hvs : Written vs more) : Written (us ++ vs) (args ++ more)

/-! ### Tokens -/

theorem Opt.of_mem_longs {o : Opt} {name : String} (h : name ∈ o.longs) :
    ofLong? name = some o ∧ name.toList ≠ [] ∧ '=' ∉ name.toList := by
  cases o <;> simp only [longs, long, alias?, Option.toList, List.mem_cons, List.not_mem_nil,
    or_false] at h <;> rcases h with rfl | rfl <;> decide +kernel

theorem Opt.of_short {o : Opt} {c : Char} (h : o.short? = some c) :
    ofShort? c = some o ∧ c ≠ '-' := by
  cases o <;> cases h <;> decide

theorem exists_toList_of_isValue {s : String} (h : IsValue s) :
    ∃ c r, s.toList = c :: r ∧ c ≠ '-' ∧ c ≠ '=' := by
  unfold IsValue at h
  cases hs : s.toList with
  | nil => simp [hs] at h
  | cons c r => exact ⟨c, r, rfl, by simpa [hs] using h⟩

theorem ofText_long {name : String} (hne : name.toList ≠ []) (heq : '=' ∉ name.toList) :
    Token.ofText ("--" ++ name) = .long name none := by
  have htext : ("--" ++ name).toList = '-' :: '-' :: name.toList := by simp
  have hname : ∀ c ∈ name.toList, (c != '=') = true := fun c hc => by
    simpa using ne_of_mem_of_not_mem hc heq
  have hdrop : name.toList.dropWhile (· != '=') = [] := by
    rw [← List.append_nil name.toList, List.dropWhile_append_of_pos hname]
    rfl
  obtain ⟨c, r, hcons⟩ := List.exists_cons_of_ne_nil hne
  rw [hcons] at hdrop
  simp only [Token.ofText, htext, hcons, hdrop]
  rw [← hcons, String.ofList_toList]

theorem ofText_long_joined {name : String} (heq : '=' ∉ name.toList) (value : String) :
    Token.ofText ("--" ++ name ++ "=" ++ value) = .long name (some value) := by
  have htext : ("--" ++ name ++ "=" ++ value).toList
      = '-' :: '-' :: (name.toList ++ '=' :: value.toList) := by simp
  have hname : ∀ c ∈ name.toList, (c != '=') = true := fun c hc => by
    simpa using ne_of_mem_of_not_mem hc heq
  have hdrop : (name.toList ++ '=' :: value.toList).dropWhile (· != '=') = '=' :: value.toList := by
    rw [List.dropWhile_append_of_pos hname]
    rfl
  have htake : (name.toList ++ '=' :: value.toList).takeWhile (· != '=') = name.toList := by
    rw [List.takeWhile_append_of_pos hname]
    simp
  obtain ⟨c, r, hrest⟩ : ∃ c r, name.toList ++ '=' :: value.toList = c :: r :=
    List.exists_cons_of_ne_nil (by simp)
  rw [hrest] at hdrop htake
  simp only [Token.ofText, htext, hrest, hdrop, htake, String.ofList_toList]

theorem ofText_letters {s : String} {c : Char} {r : List Char} (h : s.toList = '-' :: c :: r)
    (hc : c ≠ '-') : Token.ofText s = .letters (c :: r) := by
  unfold Token.ofText
  rw [h]
  split <;> simp_all

theorem ofText_value (value : Value) : Token.ofText value.text = .word := by
  obtain ⟨c, r, htext, hhyphen, -⟩ := exists_toList_of_isValue value.isValue
  unfold Token.ofText
  rw [htext]
  split <;> simp_all

theorem attached_value (value : Value) : attached value.text.toList = value.text := by
  obtain ⟨c, r, htext, -, hequals⟩ := exists_toList_of_isValue value.isValue
  rw [attached.eq_def]
  split
  · next r' hcons =>
    rw [htext] at hcons
    exact absurd (List.cons.inj hcons).1 hequals
  · exact String.ofList_toList

/-! ### One option after the other -/

/-- The value of an option that takes one. -/
def Use.value? (u : Use) : Option String := if u.option.takesValue then some u.value else none

/-- Adds options one after the other. -/
def Given.addAll (g : Given) (us : List Use) : Except Stop Given :=
  us.foldlM (fun g u => g.add u.option u.value?) g

namespace Progress

/-- Adds options, with none pending. -/
def addAll (p : Progress) (us : List Use) : Except Stop Progress :=
  p.given.addAll us >>= fun g => .ok { p with given := g }

theorem settle_of_pending_eq_none {p : Progress} (h : p.pending = none) : p.settle = .ok p := by
  rw [settle, h]

theorem pending_of_settle {p q : Progress} (h : p.settle = .ok q) :
    q.pending = none ∧ q.closed = p.closed := by
  unfold settle at h
  split at h
  · next hnone =>
    cases h
    exact ⟨hnone, rfl⟩
  · split at h <;> cases h
    exact ⟨rfl, rfl⟩

theorem complete_eq (p : Progress) (o : Opt) (value? : Option String) :
    p.complete o value? = p.settle >>= fun q =>
      q.given.add o value? >>= fun g => .ok { q with given := g } := by
  unfold complete
  cases p.settle with
  | error s => rfl
  | ok q =>
    dsimp only
    cases hadd : q.given.add o value? <;> simp [bind, Except.bind, hadd]

theorem await_eq (p : Progress) (o : Opt) :
    p.await o = p.settle >>= fun q => .ok { q with pending := some (o, none) } := by
  unfold await
  cases p.settle <;> rfl

theorem takeAll_cons (p : Progress) (argument : String) (r : List String) :
    p.takeAll (argument :: r) = p.take argument >>= fun q => q.takeAll r := by
  rw [takeAll]
  cases p.take argument <;> rfl

theorem takeAll_append (p : Progress) (args more : List String) :
    p.takeAll (args ++ more) = p.takeAll args >>= fun q => q.takeAll more := by
  induction args generalizing p with
  | nil => rfl
  | cons argument args ih =>
    rw [List.cons_append, takeAll_cons, takeAll_cons, bind_assoc]
    exact congrArg _ (funext ih)

end Progress

/-- Whether arguments that are read say some options: with the last one no longer pending, these are
added to what was there with its last no longer pending. -/
structure Settles (p : Progress) (r : Except Stop Progress) (us : List Use) : Prop where
  closed_eq : ∀ q, r = .ok q → q.closed = false
  settle_eq : r >>= Progress.settle = p.settle >>= fun q => q.addAll us

namespace Settles

variable {p : Progress} {r : Except Stop Progress} {us vs : List Use}

theorem nil (hp : p.closed = false) : Settles p (.ok p) [] where
  closed_eq q hq := by
    cases hq
    exact hp
  settle_eq := by
    change p.settle = p.settle >>= fun q => .ok q
    cases p.settle <;> rfl

theorem append (h : Settles p r us) {f : Progress → Except Stop Progress}
    (hf : ∀ q, q.closed = false → Settles q (f q) vs) : Settles p (r >>= f) (us ++ vs) where
  closed_eq q hq := by
    cases hr : r with
    | error s =>
      rw [hr] at hq
      cases hq
    | ok q' =>
      rw [hr] at hq
      exact (hf q' (h.closed_eq q' hr)).closed_eq q hq
  settle_eq := by
    have hbind : (r >>= f >>= Progress.settle) = r >>= Progress.settle >>= fun q => q.addAll vs := by
      cases hr : r with
      | error s => rfl
      | ok q => exact (hf q (h.closed_eq q hr)).settle_eq
    have happend (q : Progress) :
        (q.addAll us >>= fun q' => q'.addAll vs) = q.addAll (us ++ vs) := by
      simp only [Progress.addAll, Given.addAll, List.foldlM_append, bind_assoc]
      rfl
    rw [hbind, h.settle_eq, bind_assoc]
    exact congrArg _ (funext happend)

/-- An option that is complete is added at once. -/
theorem complete (hp : p.closed = false) (u : Use) :
    Settles p (p.complete u.option u.value?) [u] where
  closed_eq q hq := by
    rw [Progress.complete_eq] at hq
    cases hsettle : p.settle with
    | error s =>
      rw [hsettle] at hq
      cases hq
    | ok q' =>
      rw [hsettle] at hq
      change (q'.given.add u.option u.value? >>= _) = _ at hq
      cases hadd : q'.given.add u.option u.value? <;> rw [hadd] at hq <;> cases hq
      exact (Progress.pending_of_settle hsettle).2.trans hp
  settle_eq := by
    rw [Progress.complete_eq]
    cases hsettle : p.settle with
    | error s => rfl
    | ok q =>
      change (q.given.add u.option u.value? >>= _) >>= _ = q.addAll [u]
      have hpending := (Progress.pending_of_settle hsettle).1
      rw [Progress.addAll, Given.addAll, List.foldlM_cons]
      cases q.given.add u.option u.value? with
      | error s => rfl
      | ok g => exact Progress.settle_of_pending_eq_none hpending

/-- An option whose value is the next argument is added after that. -/
theorem await (hp : p.closed = false) {o : Opt} (ho : o.takesValue = true) (value : Value) :
    Settles p (p.await o >>= fun q => q.take value.text) [⟨o, value.text⟩] := by
  have htake {q : Progress} (hq : q.closed = false) :
      ({ q with pending := some (o, none) } : Progress).take value.text
        = .ok { q with pending := some (o, some value.text) } := by
    simp [Progress.take, hq, ofText_value]
  rw [Progress.await_eq]
  cases hsettle : p.settle with
  | error s => exact ⟨fun q hq => (by cases hq), by rw [hsettle]; rfl⟩
  | ok q =>
    have hclosed := (Progress.pending_of_settle hsettle).2.trans hp
    change Settles p (Progress.take _ _) _
    rw [htake hclosed]
    refine ⟨fun q' hq' => ?_, ?_⟩
    · cases hq'
      exact hclosed
    · rw [hsettle]
      change Progress.settle { q with pending := some (o, some value.text) }
        = q.addAll [⟨o, value.text⟩]
      have hvalue : Use.value? ⟨o, value.text⟩ = some value.text := if_pos ho
      have hpending := (Progress.pending_of_settle hsettle).1
      rw [Progress.settle, Progress.addAll, Given.addAll, List.foldlM_cons, hvalue]
      dsimp only
      cases q.given.add o (some value.text) with
      | error s => rfl
      | ok g =>
        obtain ⟨given, pending, closed⟩ := q
        cases hpending
        rfl

end Settles

/-! ### Reading spellings -/

section Take

variable {p : Progress} {o : Opt} {name : String} {c : Char} {cs : List Char} {os : List Opt}

theorem take_long (hp : p.closed = false) (hname : name ∈ o.longs) :
    p.take ("--" ++ name) =
      if o.takesValue then p.await o else p.complete o none := by
  obtain ⟨hoption, hne, hequals⟩ := Opt.of_mem_longs hname
  simp [Progress.take, hp, ofText_long hne hequals, Progress.takeLong, hoption]

theorem take_long_joined (hp : p.closed = false) (hname : name ∈ o.longs)
    (ho : o.takesValue = true) (value : String) :
    p.take ("--" ++ name ++ "=" ++ value) = p.complete o (some value) := by
  obtain ⟨hoption, -, hequals⟩ := Opt.of_mem_longs hname
  simp [Progress.take, hp, ofText_long_joined hequals, Progress.takeLong, hoption, ho]

/-- An argument of letters is read letter by letter. -/
theorem take_letters (hp : p.closed = false) {s : String} (hs : s.toList = '-' :: cs)
    (hne : cs ≠ []) (hhead : ∀ c ∈ cs.head?, c ≠ '-') : p.take s = p.takeLetters cs := by
  obtain ⟨c, r, rfl⟩ := List.exists_cons_of_ne_nil hne
  simp [Progress.take, hp, ofText_letters hs (hhead c rfl)]

theorem takeLetters_cons (p : Progress) (hc : o.short? = some c) (r : List Char) :
    p.takeLetters (c :: r) =
      if o.takesValue then
        if r = [] then p.await o else p.complete o (some (attached r))
      else p.complete o none >>= fun q => q.takeLetters r := by
  rw [Progress.takeLetters, (Opt.of_short hc).1]
  dsimp only
  split_ifs
  · rfl
  · rfl
  · cases p.complete o none <;> rfl

/-- Letters of options that take no values are read one by one, and then the rest. -/
theorem SwitchLetters.settles (h : SwitchLetters os cs) {rest : List Char} {vs : List Use}
    {f : Progress → Except Stop Progress}
    (hf : ∀ q, q.closed = false → Settles q (q.takeLetters rest >>= f) vs)
    (hp : p.closed = false) :
    Settles p (p.takeLetters (cs ++ rest) >>= f) (os.map (⟨·, ""⟩) ++ vs) := by
  induction h generalizing p with
  | nil => exact hf p hp
  | @cons o c os cs hletter _ ih =>
    obtain ⟨⟨-, ho⟩, hc⟩ := hletter
    have hvalue : Use.value? ⟨o, ""⟩ = none := if_neg (by simp [ho])
    rw [List.cons_append, takeLetters_cons p hc, if_neg (by simp [ho]), bind_assoc, ← hvalue]
    exact (Settles.complete hp ⟨o, ""⟩).append fun q hq => ih hq

/-- Letters are not taken for the begin of a long name. -/
theorem SwitchLetters.head?_ne (h : SwitchLetters os cs) {rest : List Char}
    (hrest : ∀ d ∈ rest.head?, d ≠ '-') : ∀ d ∈ (cs ++ rest).head?, d ≠ '-' := by
  cases h with
  | nil => exact hrest
  | cons hletter _ => simpa using (Opt.of_short hletter.2).2

/-- An argument of letters that ends with a value. -/
theorem SwitchLetters.settles_value (h : SwitchLetters os cs) (ho : o.takesValue = true)
    (hc : o.short? = some c) (hp : p.closed = false) {s : String} {value : String}
    {rest : List Char} (hs : s.toList = '-' :: (cs ++ c :: rest)) (hne : rest ≠ [])
    (hvalue : attached rest = value) :
    Settles p (p.take s) (os.map (⟨·, ""⟩) ++ [⟨o, value⟩]) := by
  rw [take_letters hp hs (by simp) (h.head?_ne (by simpa using (Opt.of_short hc).2)),
    ← bind_pure (p.takeLetters _)]
  refine h.settles (fun q hq => ?_) hp
  have huse : Use.value? ⟨o, value⟩ = some value := if_pos ho
  rw [bind_pure, takeLetters_cons q hc, if_pos ho, if_neg hne, hvalue, ← huse]
  exact Settles.complete hq ⟨o, value⟩

end Take

theorem takeAll_singleton (p : Progress) (argument : String) :
    p.takeAll [argument] = p.take argument := by
  rw [Progress.takeAll_cons]
  exact bind_pure _

theorem takeAll_pair (p : Progress) (argument value : String) :
    p.takeAll [argument, value] = p.take argument >>= fun q => q.take value := by
  rw [Progress.takeAll_cons]
  exact congrArg _ (funext fun q => takeAll_singleton q value)

/-- Each spelling of an option says that option. -/
theorem Spelling.settles {us : List Use} {args : List String} (h : Spelling us args) {p : Progress}
    (hp : p.closed = false) : Settles p (p.takeAll args) us := by
  have hgiven {o : Opt} (ho : o.takesValue = true) (value : Value) :
      Use.value? ⟨o, value.text⟩ = some value.text := if_pos ho
  have hvalue (value : Value) : value.text.toList ≠ [] := by
    obtain ⟨c, r, htext, -⟩ := exists_toList_of_isValue value.isValue
    simp [htext]
  cases h with
  | @long o name ho hname =>
    have hnone : Use.value? ⟨o, ""⟩ = none := if_neg (by simp [ho.2])
    rw [takeAll_singleton, take_long hp hname, if_neg (by simp [ho.2]), ← hnone]
    exact Settles.complete hp ⟨o, ""⟩
  | longApart ho hname =>
    rw [takeAll_pair, take_long hp hname, if_pos ho]
    exact Settles.await hp ho _
  | longJoined ho hname =>
    rw [takeAll_singleton, take_long_joined hp hname ho, ← hgiven ho]
    exact Settles.complete hp ⟨_, _⟩
  | @letters os cs hcs hne =>
    have hread : Settles p (p.takeLetters (cs ++ []) >>= pure) (os.map (⟨·, ""⟩) ++ []) :=
      hcs.settles (fun q hq => Settles.nil hq) hp
    have hhead : ∀ d ∈ (cs ++ []).head?, d ≠ '-' := hcs.head?_ne (by simp)
    rw [List.append_nil] at hread hhead
    rw [bind_pure, List.append_nil] at hread
    rw [takeAll_singleton, take_letters hp (by simp) hne hhead]
    exact hread
  | @lettersApart os cs o c value hcs ho hc =>
    have htext : ("-" ++ String.ofList (cs ++ [c])).toList = '-' :: (cs ++ [c]) := by simp
    rw [takeAll_pair, take_letters hp htext (by simp)
      (hcs.head?_ne (by simpa using (Opt.of_short hc).2))]
    refine hcs.settles (fun q hq => ?_) hp
    rw [takeLetters_cons q hc, if_pos ho, if_pos rfl]
    exact Settles.await hq ho value
  | @lettersAttached os cs o c value hcs ho hc =>
    rw [takeAll_singleton]
    exact hcs.settles_value ho hc hp (by simp) (hvalue value) (attached_value value)
  | @lettersJoined os cs o c value hcs ho hc =>
    have htext : ("-" ++ String.ofList (cs ++ [c]) ++ "=" ++ value.text).toList
        = '-' :: (cs ++ c :: '=' :: value.text.toList) := by simp
    rw [takeAll_singleton]
    exact hcs.settles_value ho hc hp htext (by simp) String.ofList_toList

/-- Arguments that spell options say these one after the other. -/
theorem Written.settles {us : List Use} {args : List String} (h : Written us args) {p : Progress}
    (hp : p.closed = false) : Settles p (p.takeAll args) us := by
  induction h generalizing p with
  | nil => exact Settles.nil hp
  | append hus _ ih =>
    rw [Progress.takeAll_append]
    exact (hus.settles hp).append fun q hq => ih hq

/-- **What arguments say does not depend on how the options are spelled**: the options are added one
after the other, and what they say together is checked. -/
theorem read_of_written {us : List Use} {args : List String} (h : Written us args) :
    read args = Given.empty.addAll us >>= Given.check := by
  have hread : read args
      = Progress.start.takeAll args >>= Progress.settle >>= fun p => p.given.check := by
    rw [read]
    cases Progress.start.takeAll args with
    | error s => rfl
    | ok p =>
      change _ = p.settle >>= fun p => p.given.check
      dsimp only
      cases p.settle <;> rfl
  rw [hread, (h.settles rfl).settle_eq]
  change Given.empty.addAll us >>= _ >>= _ = _
  cases Given.empty.addAll us <;> rfl

end BenchReport.CommandLine
