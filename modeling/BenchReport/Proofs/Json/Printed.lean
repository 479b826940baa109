import BenchReport.Json.Value
import BenchReport.Proofs.Decimal.Digits
import BenchReport.Proofs.Json.Record
import BenchReport.Proofs.Keyed

/-!
# Printed values

The text of a value is the text of a tree, with a line and its indentation as the blanks before each
part of a container. What the tree means is what was printed (`Value.Shows`): whole numbers, strings
and keys are the same, whatever characters they have, and containers have their parts in the same
order. Of a real number only some real number is claimed.
-/

namespace BenchReport.Json

open Decimal (digits digitsRun digits_lead appendDigits_digits)
open Piece (spelled? texts number)

variable {α σ : Type}

/-! ### Strings -/

namespace Piece

theorem isHexDigit_digitChar : ∀ n < 16, isHexDigit (Nat.digitChar n) = true := by decide

theorem number_digitChar :
    ∀ n < 32, number '0' '0' (Nat.digitChar (n / 16)) (Nat.digitChar (n % 16)) = n := by decide

/-- The piece of a control character without a letter of its own. -/
def ofControl (c : Char) (h : c.toNat < 0x20) : Piece :=
  .unit '0' '0' (Nat.digitChar (c.toNat / 16)) (Nat.digitChar (c.toNat % 16)) rfl rfl
    (isHexDigit_digitChar _ (by omega)) (isHexDigit_digitChar _ (by omega))

/-- The piece that a character is printed as. -/
def ofChar (c : Char) : Piece :=
  if hq : c = '"' then .letter '"' rfl
  else if he : c = '\\' then .letter '\\' rfl
  else if c = '\x08' then .letter 'b' rfl
  else if c = '\x0c' then .letter 'f' rfl
  else if c = '\n' then .letter 'n' rfl
  else if c = '\r' then .letter 'r' rfl
  else if c = '\t' then .letter 't' rfl
  else if hc : c.toNat < 0x20 then ofControl c hc
  else .plain c hq he (by simpa [isControl] using hc)

/-- A character is printed as a letter after a backslash, as a unit, or as itself. -/
theorem ofChar_cases (c : Char) :
    (∃ e h, ofChar c = .letter e h ∧ escaped? e = some c ∧ Value.escape c = ['\\', e])
    ∨ (∃ h : c.toNat < 0x20, ofChar c = ofControl c h ∧ Value.escape c = (ofControl c h).text)
    ∨ ∃ hq he hc, ofChar c = .plain c hq he hc ∧ Value.escape c = [c] := by
  unfold ofChar Value.escape
  split
  · next h => subst h; exact .inl ⟨'"', rfl, rfl, rfl, rfl⟩
  split
  · next h => subst h; exact .inl ⟨'\\', rfl, rfl, rfl, rfl⟩
  split
  · next h => subst h; exact .inl ⟨'b', rfl, rfl, rfl, rfl⟩
  split
  · next h => subst h; exact .inl ⟨'f', rfl, rfl, rfl, rfl⟩
  split
  · next h => subst h; exact .inl ⟨'n', rfl, rfl, rfl, rfl⟩
  split
  · next h => subst h; exact .inl ⟨'r', rfl, rfl, rfl, rfl⟩
  split
  · next h => subst h; exact .inl ⟨'t', rfl, rfl, rfl, rfl⟩
  split
  · next h => exact .inr (.inl ⟨h, rfl, by simp [ofControl, text, *]⟩)
  · next hq he _ _ _ _ _ hc =>
    exact .inr (.inr ⟨hq, he, by simpa [isControl] using hc, rfl, by simp [*]⟩)

theorem text_ofChar (c : Char) : (ofChar c).text = Value.escape c := by
  obtain ⟨e, h, hc, -, htext⟩ | ⟨h, hc, htext⟩ | ⟨hq, he, h, hc, htext⟩ := ofChar_cases c
  · rw [hc, htext, text]
  · rw [hc, htext]
  · rw [hc, htext, text]

theorem spelled?_ofControl (c : Char) (h : c.toNat < 0x20) (ps : List Piece) :
    spelled? (ofControl c h :: ps) = (spelled? ps).map (c :: ·) := by
  rw [ofControl, spelled?.eq_def]
  have hnumber := number_digitChar c.toNat h
  have htrail : isTrailing c.toNat = false := by
    rw [isTrailing, Bool.and_eq_false_iff, decide_eq_false_iff_not]
    omega
  have hlead : isLeading c.toNat = false := by
    rw [isLeading, Bool.and_eq_false_iff, decide_eq_false_iff_not]
    omega
  simp only [hnumber, htrail, hlead, Bool.false_eq_true, if_false, Char.ofNat_toNat]

theorem spelled?_ofChar (c : Char) (ps : List Piece) :
    spelled? (ofChar c :: ps) = (spelled? ps).map (c :: ·) := by
  obtain ⟨e, h, hc, hescaped, -⟩ | ⟨h, hc, -⟩ | ⟨hq, he, h, hc, -⟩ := ofChar_cases c
  · rw [hc, spelled?, hescaped]
    rfl
  · rw [hc, spelled?_ofControl]
  · rw [hc, spelled?]

/-- The pieces that a text is printed as. -/
def ofText (s : String) : List Piece := s.toList.map ofChar

/-- A printed text is spelled by its pieces. -/
theorem spelled?_ofText (s : String) : spelled? (ofText s) = some s.toList := by
  rw [ofText]
  induction s.toList with
  | nil => rfl
  | cons c cs ih => rw [List.map_cons, spelled?_ofChar, ih, Option.map_some]

theorem stringText_ofText (s : String) : stringText (ofText s) = Value.quoted s := by
  have htexts : texts (ofText s) = s.toList.flatMap Value.escape := by
    simp only [texts, ofText, List.flatMap_map, text_ofChar]
  rw [stringText, htexts, Value.quoted, List.cons_append]

end Piece

/-! ### Containers -/

/-- A line and its indentation as blanks. -/
def Blanks.line (level : Nat) : Blanks where
  chars := Value.newline level
  all c hc := by
    rw [Value.newline, List.mem_cons, List.mem_replicate] at hc
    rcases hc with rfl | ⟨-, rfl⟩ <;> decide

/-- The blanks before the closing bracket of a container with some parts. -/
def Blanks.closing {α : Type} (level : Nat) : List α → Blanks
  | [] => .none
  | _ :: _ => .line level

theorem enclose_eq {α : Type} (text : α → List Char) (left right : Char) (level : Nat)
    (parts : List α) :
    Value.enclose left right level (parts.map text)
      = left :: afterOpening right (.closing level parts) []
        (parts.map fun p => Value.newline (level + 1) ++ text p) := by
  have hrest (parts : List α) :
      afterPart right (.line level) [] (parts.map fun p => Value.newline (level + 1) ++ text p)
        = (parts.map text).flatMap (fun i => ',' :: Value.newline (level + 1) ++ i)
          ++ Value.newline level ++ [right] := by
    induction parts with
    | nil => rfl
    | cons p parts ih =>
      rw [List.map_cons, afterPart, ih]
      simp only [List.map_cons, List.flatMap_cons, List.cons_append, List.append_assoc]
  cases parts with
  | nil => rfl
  | cons p parts =>
    rw [List.map_cons, List.map_cons, afterOpening, Blanks.closing, hrest, Value.enclose]
    simp only [List.cons_append, List.append_assoc]

namespace Tree

/-- A whole number as it is printed. -/
def ofNat (n : Nat) : Tree := .number ⟨false, digitsRun n, none, none, digits_lead n⟩

/-- A text as it is printed. -/
def ofString (s : String) : Tree := .string (Piece.ofText s)

/-- A list as it is printed. -/
def ofItems (level : Nat) (ts : List Tree) : Tree :=
  .list (ts.map fun t => ⟨.line (level + 1), t, .none⟩) (.closing level ts)

/-- A member as it is printed. -/
def printedMember (level : Nat) (m : String × Tree) : Member Tree where
  before := .line (level + 1)
  key := Piece.ofText m.1
  afterKey := .none
  beforeValue := ⟨[' '], by simp [isSpace]⟩
  value := m.2
  after := .none

/-- An object as it is printed. -/
def ofMembers (level : Nat) (ms : List (String × Tree)) : Tree :=
  .object (ms.map (printedMember level)) (.closing level ms)

theorem text_ofNat (n : Nat) : (ofNat n).text = digits n := by
  simp [ofNat, text, WrittenNumber.text, WrittenNumber.signText, WrittenNumber.body, digitsRun,
    fractionText, exponentText]

theorem natural?_ofNat (n : Nat) : (ofNat n).natural? = some n :=
  congrArg some (appendDigits_digits n)

theorem string?_ofString (s : String) : (ofString s).string? = some s := by
  rw [ofString, string?, Piece.spelled?_ofText, Option.map_some, String.ofList_toList]

theorem text_ofItems (level : Nat) (ts : List Tree) :
    (ofItems level ts).text = Value.enclose '[' ']' level (ts.map text) := by
  rw [enclose_eq, ← List.append_nil (ofItems level ts).text, ofItems, text_list_append,
    List.map_map]
  congr 2
  refine List.map_congr_left fun t _ => ?_
  simp [Item.text, Blanks.line, Blanks.none]

theorem text_ofMembers (level : Nat) (ms : List (String × Tree)) :
    (ofMembers level ms).text = Value.enclose '\x7b' '\x7d' level
      (ms.map fun m => Value.quoted m.1 ++ ": ".toList ++ m.2.text) := by
  rw [enclose_eq, ← List.append_nil (ofMembers level ms).text, ofMembers, text_object_append,
    List.map_map]
  congr 2
  refine List.map_congr_left fun m _ => ?_
  rw [← Piece.stringText_ofText]
  simp [Member.text, Member.lead, printedMember, Blanks.line, Blanks.none]

theorem items?_ofItems (level : Nat) (ts : List Tree) : (ofItems level ts).items? = some ts := by
  simp [ofItems, items?, Function.comp_def]

theorem members?_ofMembers (level : Nat) (ms : List (String × Tree)) :
    (ofMembers level ms).members? = some ms := by
  rw [ofMembers, members?, mapM_eq_some_iff, List.forall₂_map_left_iff, List.forall₂_same]
  intro m _
  rw [Member.named?, Member.name?, printedMember, Piece.spelled?_ofText]
  simp

end Tree

/-! ### Values -/

namespace Value

mutual

/-- Whether all real numbers of a value have a property. -/
def Reals (p : Float → Prop) : Value → Prop
  | natural _ => True
  | real x => p x
  | text _ => True
  | list vs => ItemReals p vs
  | object ms => MemberReals p ms

/-- Whether all real numbers of some values have a property. -/
def ItemReals (p : Float → Prop) : List Value → Prop
  | [] => True
  | v :: vs => v.Reals p ∧ ItemReals p vs

/-- Whether all real numbers of some members have a property. -/
def MemberReals (p : Float → Prop) : List (String × Value) → Prop
  | [] => True
  | (_, v) :: ms => v.Reals p ∧ MemberReals p ms

end

mutual

/-- Whether a tree means what a value is, but for the digits of real numbers. -/
def Shows : Value → Tree → Prop
  | natural n, t => t.natural? = some n
  | real _, t => ∃ y, t.real? = some y
  | text s, t => t.string? = some s
  | list vs, t => ∃ ts, t.items? = some ts ∧ ItemsShow vs ts
  | object ms, t => ∃ ts, t.members? = some ts ∧ MembersShow ms ts

/-- Whether trees mean what as many values are. -/
def ItemsShow : List Value → List Tree → Prop
  | [], [] => True
  | v :: vs, t :: ts => v.Shows t ∧ ItemsShow vs ts
  | _, _ => False

/-- Whether members have the names and mean the values of as many members. -/
def MembersShow : List (String × Value) → List (String × Tree) → Prop
  | [], [] => True
  | (key, v) :: ms, (name, t) :: ts => name = key ∧ v.Shows t ∧ MembersShow ms ts
  | _, _ => False

end

/-- Whether a real number is printed as a number that is not too large. -/
def Readable (x : Float) : Prop :=
  ∃ n : WrittenNumber, Decimal.shortestText? x = some n.text ∧ ∃ y, n.value? = some y

mutual

/-- **A printed value is a tree that means it.** The recursion is on the value. -/
theorem exists_tree (level : Nat) :
    ∀ v : Value, v.Reals Readable → ∃ t : Tree, t.text = v.print level ∧ v.Shows t
  | natural n, _ => ⟨.ofNat n, Tree.text_ofNat n, Tree.natural?_ofNat n⟩
  | real x, ⟨n, htext, y, hy⟩ => by
    refine ⟨.number n, ?_, Number.toFloat y, ?_⟩
    · rw [print, htext]
      rfl
    · rw [Tree.real?, Tree.number?, Option.bind_some, hy, Option.map_some]
  | text s, _ => ⟨.ofString s, Piece.stringText_ofText s, Tree.string?_ofString s⟩
  | list vs, h => by
    obtain ⟨ts, htexts, hshow⟩ := exists_items (level + 1) vs h
    refine ⟨.ofItems level ts, ?_, ts, Tree.items?_ofItems level ts, hshow⟩
    rw [Tree.text_ofItems, htexts, print]
  | object ms, h => by
    obtain ⟨ts, htexts, hshow⟩ := exists_members (level + 1) ms h
    refine ⟨.ofMembers level ts, ?_, ts, Tree.members?_ofMembers level ts, hshow⟩
    rw [Tree.text_ofMembers, htexts, print]

theorem exists_items (level : Nat) :
    ∀ vs : List Value, ItemReals Readable vs →
      ∃ ts : List Tree, ts.map Tree.text = printItems level vs ∧ ItemsShow vs ts
  | [], _ => ⟨[], rfl, trivial⟩
  | v :: vs, ⟨hv, hvs⟩ => by
    obtain ⟨t, htext, hshow⟩ := exists_tree level v hv
    obtain ⟨ts, htexts, hshows⟩ := exists_items level vs hvs
    refine ⟨t :: ts, ?_, hshow, hshows⟩
    rw [List.map_cons, htext, htexts, printItems]

theorem exists_members (level : Nat) :
    ∀ ms : List (String × Value), MemberReals Readable ms →
      ∃ ts : List (String × Tree),
        ts.map (fun m => quoted m.1 ++ ": ".toList ++ m.2.text) = printMembers level ms
          ∧ MembersShow ms ts
  | [], _ => ⟨[], rfl, trivial⟩
  | (key, v) :: ms, ⟨hv, hms⟩ => by
    obtain ⟨t, htext, hshow⟩ := exists_tree level v hv
    obtain ⟨ts, htexts, hshows⟩ := exists_members level ms hms
    refine ⟨(key, t) :: ts, ?_, rfl, hshow, hshows⟩
    rw [List.map_cons, htexts, printMembers, htext]

end

/-! ### Reading what was printed -/

theorem membersShow_nil_iff {ts : List (String × Tree)} : MembersShow [] ts ↔ ts = [] := by
  cases ts <;> simp [MembersShow]

theorem membersShow_cons_iff {key : String} {v : Value} {ms : List (String × Value)}
    {ts : List (String × Tree)} :
    MembersShow ((key, v) :: ms) ts
      ↔ ∃ t ts', ts = (key, t) :: ts' ∧ v.Shows t ∧ MembersShow ms ts' := by
  cases ts with
  | nil => simp [MembersShow]
  | cons m ts =>
    obtain ⟨name, t⟩ := m
    simp only [MembersShow, List.cons.injEq, Prod.mk.injEq]
    constructor
    · rintro ⟨rfl, hv, hms⟩
      exact ⟨t, ts, ⟨⟨rfl, rfl⟩, rfl⟩, hv, hms⟩
    · rintro ⟨u, us, ⟨⟨rfl, rfl⟩, rfl⟩, hv, hms⟩
      exact ⟨rfl, hv, hms⟩

theorem map_fst_of_membersShow {ms : List (String × Value)} {ts : List (String × Tree)}
    (h : MembersShow ms ts) : ts.map Prod.fst = ms.map Prod.fst := by
  induction ms generalizing ts with
  | nil => rw [membersShow_nil_iff.mp h]; rfl
  | cons m ms ih =>
    obtain ⟨key, v⟩ := m
    obtain ⟨t, ts', rfl, -, hms⟩ := membersShow_cons_iff.mp h
    rw [List.map_cons, List.map_cons, ih hms]

end Value

/-- The fields of an object whose members are these and have distinct names. -/
theorem fields?_of_members? {t : Tree} {ts : List (String × Tree)} (h : t.members? = some ts)
    (hnodup : (ts.map Prod.fst).Nodup) :
    t.fields? (ts.map Prod.fst) = some (ts.map Prod.snd) := by
  have hzip : (ts.map Prod.fst).zip (ts.map Prod.snd) = ts := (List.zip_of_prod rfl rfl).symm
  cases t with
  | object members close =>
    have hmembers : members.mapM Member.named? = some ts := h
    rw [Tree.fields?, hmembers, Option.bind_some, mapM_eq_some_iff, List.forall₂_map_left_iff,
      List.forall₂_map_right_iff, List.forall₂_same]
    intro m hm
    have hmem : (m.1, m.2) ∈ (ts.map Prod.fst).zip (ts.map Prod.snd) := by
      rw [hzip]
      exact hm
    have hvalues := valuesOf_zip hnodup hmem
    rw [hzip] at hvalues
    exact once?_eq_some_iff.mpr hvalues
  | word w => cases h
  | number n => cases h
  | string ps => cases h
  | list items close => cases h

/-- A record is read from the object that was printed with its fields. -/
theorem Layout.exists_of_shows {k : Schema σ α} (l : Layout k) {ms : List (String × Value)}
    {t : Tree}
    (h : (Value.object ms).Shows t) (hnames : ms.map Prod.fst = l.names) :
    ∃ ts, Value.MembersShow ms ts ∧ l.meaning t = l.ofFields? (ts.map Prod.snd) := by
  obtain ⟨ts, hts, hshow⟩ := h
  have hfst := (Value.map_fst_of_membersShow hshow).trans hnames
  have hnodup : (ts.map Prod.fst).Nodup := hfst ▸ l.nodup
  refine ⟨ts, hshow, ?_⟩
  rw [Layout.meaning, ← hfst, fields?_of_members? hts hnodup, Option.bind_some]

/-- A whole number of 32 bits is read again. -/
theorem word32?_of_shows {n : UInt32} {t : Tree} (h : (Value.natural n.toNat).Shows t) :
    t.word32? = some n := by
  rw [Tree.word32?, show t.natural? = some n.toNat from h, Option.bind_some, if_pos n.toNat_lt,
    UInt32.ofNat_toNat]

/-- A whole number of 64 bits is read again. -/
theorem word64?_of_shows {n : UInt64} {t : Tree} (h : (Value.natural n.toNat).Shows t) :
    t.word64? = some n := by
  rw [Tree.word64?, show t.natural? = some n.toNat from h, Option.bind_some, if_pos n.toNat_lt,
    UInt64.ofNat_toNat]

section Lists

variable {β : Type} {print : α → Value} {meaning : Tree → Option α} {exact : α → β}
  (hread : ∀ a t, (print a).Shows t → ∃ a', meaning t = some a' ∧ exact a' = exact a)

include hread

/-- A printed list is read as a list of as many elements, in the same order, which agree with the
elements in all that each element keeps. -/
theorem exists_items_of_shows {as : List α} {t : Tree} (h : (Value.list (as.map print)).Shows t) :
    ∃ as', t.items?.bind (·.mapM meaning) = some as' ∧ as'.map exact = as.map exact := by
  obtain ⟨ts, hts, hshow⟩ := h
  suffices ∃ as', ts.mapM meaning = some as' ∧ as'.map exact = as.map exact by
    rwa [hts, Option.bind_some]
  clear hts
  induction as generalizing ts with
  | nil =>
    cases ts with
    | nil => exact ⟨[], rfl, rfl⟩
    | cons t ts => exact hshow.elim
  | cons a as ih =>
    cases ts with
    | nil => exact hshow.elim
    | cons t ts =>
      obtain ⟨a', ha, hexact⟩ := hread a t hshow.1
      obtain ⟨as', has, hexacts⟩ := ih ts hshow.2
      refine ⟨a' :: as', ?_, by rw [List.map_cons, List.map_cons, hexact, hexacts]⟩
      rw [List.mapM_cons, ha, has]
      rfl

/-- The printed members of a map to lists are read as entries with the same keys in the same
order. -/
theorem exists_entries_of_shows {es : List (String × List α)} {ts : List (String × Tree)}
    (h : Value.MembersShow (es.map fun e => (e.1, .list (e.2.map print))) ts) :
    ∃ es', entries? (fun t => t.items?.bind (·.mapM meaning)) ts = some es'
      ∧ es'.map (fun e => (e.1, e.2.map exact)) = es.map fun e => (e.1, e.2.map exact) := by
  induction es generalizing ts with
  | nil =>
    rw [Value.membersShow_nil_iff.mp h]
    exact ⟨[], rfl, rfl⟩
  | cons e es ih =>
    obtain ⟨t, ts', rfl, hv, hms⟩ := Value.membersShow_cons_iff.mp h
    obtain ⟨as', has, hexact⟩ := exists_items_of_shows hread hv
    obtain ⟨es', hes, hexacts⟩ := ih hms
    refine ⟨(e.1, as') :: es', ?_, by rw [List.map_cons, List.map_cons, hexact, hexacts]⟩
    rw [entries?] at hes ⊢
    rw [List.mapM_cons, has, hes]
    rfl

/-- A printed map to lists is read as a map with the same keys. -/
theorem exists_keyed_of_shows {m : Keyed (List α)} {t : Tree}
    (h : (Value.object (m.entries.map fun e => (e.1, .list (e.2.map print)))).Shows t) :
    ∃ m', (t.members?.bind (entries? fun t => t.items?.bind (·.mapM meaning))).map Keyed.ofList
        = some m'
      ∧ m'.mapValues (·.map exact) = m.mapValues (·.map exact) := by
  obtain ⟨ts, hts, hshow⟩ := h
  obtain ⟨es, hes, hexact⟩ := exists_entries_of_shows hread hshow
  have hkeys : es.map Prod.fst = m.entries.map Prod.fst := by
    have hfst := congrArg (List.map Prod.fst) hexact
    simpa [Function.comp_def] using hfst
  have hascending : es.Pairwise fun a b => a.1 < b.1 := by
    have hpairwise : (m.entries.map Prod.fst).Pairwise (· < ·) :=
      List.pairwise_map.mpr m.ascending
    rw [← hkeys] at hpairwise
    exact List.pairwise_map.mp hpairwise
  refine ⟨⟨es, hascending⟩, ?_, ?_⟩
  · rw [hts, Option.bind_some, hes, Option.map_some, Keyed.ofList_eq hascending]
  · simp only [Keyed.mapValues, hexact]

end Lists

/-! ### The real numbers of lists -/

namespace Value

theorem itemReals_map_iff {p : Float → Prop} {print : α → Value} {as : List α} :
    ItemReals p (as.map print) ↔ ∀ a ∈ as, (print a).Reals p := by
  induction as with
  | nil => simp [ItemReals]
  | cons a as ih => simp [ItemReals, ih]

theorem memberReals_map_iff {p : Float → Prop} {key : α → String} {print : α → Value}
    {as : List α} :
    MemberReals p (as.map fun a => (key a, print a)) ↔ ∀ a ∈ as, (print a).Reals p := by
  induction as with
  | nil => simp [MemberReals]
  | cons a as ih => simp [MemberReals, ih]

end Value

end BenchReport.Json
