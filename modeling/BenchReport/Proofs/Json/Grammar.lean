import BenchReport.Proofs.Json.Containers
import Mathlib.Data.Set.List

/-!
# Only values are passed over

Passing over values is the converse of writing them: whatever is passed over is the text of a value
with blanks before it (`exists_of_skipValue`), so the trees are all the values that a text can hold
(`parse_skip_eq_ok_iff`).

The containers that are open are kept in a list, so again more is shown than is asked for. Where the
scanner is to pass over a value and the rest of what is open, a value stands (`StartsValue`). Where
it goes on after a value in a container, the other parts of that container stand with its end
(`GoesOnWithParts`). Both lead to a place that is further on, with one container less to be closed,
and are shown together by induction on the length of the text.
-/

namespace BenchReport.Json

open Decimal (isDigit)
open Piece (texts)
open Text (Run)

/-! ### Blanks and words -/

theorem exists_blanks (s : List Char) : ∃ b : Blanks, s = b.chars ++ skipSpace s :=
  ⟨⟨s.takeWhile isSpace, fun _ hc => List.mem_takeWhile_imp hc⟩,
    (List.takeWhile_append_dropWhile ..).symm⟩

theorem eq_append_of_readWord {w s r : List Char} (h : readWord w s = .ok r) : s = w ++ r := by
  fun_induction readWord w s with
  | case1 s => exact Except.ok.inj h
  | case2 => cases h
  | case3 w ws s ih => rw [ih h, List.cons_append]
  | case4 => cases h

/-! ### Strings -/

theorem exists_of_readUnit {s : List Char} {n : Nat} (h : readUnit s = .ok n) :
    ∃ a b c d r, isHexDigit a = true ∧ isHexDigit b = true ∧ isHexDigit c = true
      ∧ isHexDigit d = true ∧ s = a :: b :: c :: d :: r := by
  unfold readUnit at h
  split at h
  · cases h
  split at h
  · next hunit =>
    match s, hunit with
    | a :: b :: c :: d :: r, hunit =>
      rw [show (a :: b :: c :: d :: r).take 4 = [a, b, c, d] from rfl, hexUnit?] at hunit
      simp only [Option.bind_eq_bind, Option.bind_eq_some_iff] at hunit
      obtain ⟨x, ha, y, hb, z, hc, w, hd, -⟩ := hunit
      exact ⟨a, b, c, d, r, by rw [isHexDigit, ha]; rfl, by rw [isHexDigit, hb]; rfl,
        by rw [isHexDigit, hc]; rfl, by rw [isHexDigit, hd]; rfl, rfl⟩
  · cases h

theorem exists_piece_of_skipEscape {s : List Char} {more : Nat} (h : skipEscape s = .ok more) :
    ∃ p : Piece, '\\' :: s = p.text ++ s.drop (more + 1) := by
  unfold skipEscape at h
  split at h
  · cases h
  · obtain ⟨n, hunit, rfl⟩ := map_eq_ok h
    obtain ⟨a, b, c, d, r, ha, hb, hc, hd, rfl⟩ := exists_of_readUnit hunit
    exact ⟨.unit a b c d ha hb hc hd, rfl⟩
  · next e s _ =>
    split at h
    · next hescapes =>
      obtain rfl := Except.ok.inj h
      exact ⟨.letter e hescapes, rfl⟩
    · cases h

theorem exists_texts_of_skipString {s r : List Char} (h : skipString s = .ok r) :
    ∃ ps, s = texts ps ++ '"' :: r := by
  fun_induction skipString s with
  | case1 => cases h
  | case2 r' => exact ⟨[], by rw [Except.ok.inj h]; rfl⟩
  | case3 => cases h
  | case4 s more hescape ih =>
    obtain ⟨ps, hps⟩ := ih h
    obtain ⟨p, hp⟩ := exists_piece_of_skipEscape hescape
    exact ⟨p :: ps, by rw [hp, hps, texts_cons, List.append_assoc]⟩
  | case5 => cases h
  | case6 c s hquote hescape hcontrol ih =>
    obtain ⟨ps, hps⟩ := ih h
    exact ⟨.plain c hquote hescape (by simpa using hcontrol) :: ps, by rw [hps]; rfl⟩

/-! ### Numbers -/

theorem exists_run {s : List Char} (h : s.takeWhile isDigit ≠ []) :
    ∃ u : Run isDigit, s = u.chars ++ s.dropWhile isDigit :=
  ⟨⟨s.takeWhile isDigit, h, fun _ hc => List.mem_takeWhile_imp hc⟩,
    (List.takeWhile_append_dropWhile ..).symm⟩

theorem exists_of_skipExponent (capital : Bool) {s r : List Char} (h : skipExponent s = .ok r) :
    ∃ e : WrittenExponent, e.capital = capital ∧ s = e.signText ++ (e.digits.chars ++ r) := by
  unfold skipExponent at h
  simp only at h
  split at h
  · cases h
  · next hne =>
    obtain ⟨u, hu⟩ := exists_run hne
    rw [Except.ok.inj h] at hu
    unfold exponentSign at hu
    split at hu
    · exact ⟨⟨capital, some false, u⟩, rfl, congrArg ('+' :: ·) hu⟩
    · exact ⟨⟨capital, some true, u⟩, rfl, congrArg ('-' :: ·) hu⟩
    · exact ⟨⟨capital, none, u⟩, rfl, hu⟩

theorem exists_of_skipExponent? {s r : List Char} (h : skipExponent? s = .ok r) :
    ∃ e, s = exponentText e ++ r := by
  unfold skipExponent? at h
  split at h
  · obtain ⟨e, hcapital, rfl⟩ := exists_of_skipExponent false h
    exact ⟨some e, by simp [exponentText, WrittenExponent.text, hcapital]⟩
  · obtain ⟨e, hcapital, rfl⟩ := exists_of_skipExponent true h
    exact ⟨some e, by simp [exponentText, WrittenExponent.text, hcapital]⟩
  · exact ⟨none, Except.ok.inj h⟩

theorem exists_of_skipTail {s r : List Char} (h : skipTail s = .ok r) :
    ∃ fraction e, s = fractionText fraction ++ (exponentText e ++ r) := by
  unfold skipTail at h
  split at h
  · next s =>
    unfold skipFraction at h
    split at h
    · cases h
    · next hne =>
      obtain ⟨u, hu⟩ := exists_run hne
      obtain ⟨e, he⟩ := exists_of_skipExponent? h
      exact ⟨some u, e, by rw [hu, he]; rfl⟩
  · obtain ⟨e, he⟩ := exists_of_skipExponent? h
    exact ⟨none, e, he⟩

/-- What is passed over as a number is one. The sign stands before it. -/
theorem exists_of_skipNumber (negative : Bool) {s r : List Char} (h : skipNumber s = .ok r) :
    ∃ n : WrittenNumber, n.negative = negative ∧ s = n.body ++ r := by
  have htail (whole : Run isDigit) (lead : whole.chars = ['0'] ∨ whole.chars.head? ≠ some '0')
      {u : List Char} (hu : s = whole.chars ++ u) (h : skipTail u = .ok r) :
      ∃ n : WrittenNumber, n.negative = negative ∧ s = n.body ++ r := by
    obtain ⟨fraction, e, rfl⟩ := exists_of_skipTail h
    exact ⟨⟨negative, whole, fraction, e, lead⟩, rfl, by
      rw [hu, WrittenNumber.body, List.append_assoc, List.append_assoc]⟩
  unfold skipNumber at h
  split at h
  · next s =>
    have hzero : skipTail s = .ok r := by
      split at h
      · split at h
        · cases h
        · exact h
      · exact h
    exact htail ⟨['0'], by simp, List.forall_mem_singleton.mpr rfl⟩ (.inl rfl) rfl hzero
  · next hlead =>
    split at h
    · cases h
    · next hne =>
      obtain ⟨u, hu⟩ := exists_run hne
      refine htail u (.inr fun hzero => ?_) hu h
      obtain ⟨d, ds, hds, -⟩ := exists_cons_of_run u
      rw [hds] at hzero hu
      exact hlead _ (by rw [hu, Option.some.inj hzero]; rfl)

/-! ### The front of a value -/

/-- The bracket that opens a container. -/
def Bracket.opening : Bracket → Char
  | square => '['
  | curly => '\x7b'

/-- What is passed over at the front of a value is a scalar, or an opening bracket. -/
theorem exists_of_skipFront {s r : List Char} {k? : Option Bracket}
    (h : skipFront s = .ok (k?, r)) :
    (k? = none ∧ ∃ (b : Blanks) (t : Tree), s = b.chars ++ (t.text ++ r)) ∨
    ∃ (k : Bracket) (b : Blanks), k? = some k ∧ s = b.chars ++ k.opening :: r := by
  obtain ⟨b, hb⟩ := exists_blanks s
  -- what takes a scalar takes its text and leaves the rest
  have hscalar {e : Except Failure (List Char)} (h : e.map (none, ·) = .ok (k?, r))
      (he : e = .ok r → ∃ t : Tree, skipSpace s = t.text ++ r) :
      k? = none ∧ ∃ (b : Blanks) (t : Tree), s = b.chars ++ (t.text ++ r) := by
    obtain ⟨r', hr, heq⟩ := map_eq_ok h
    obtain ⟨rfl, rfl⟩ := Prod.mk.inj heq
    obtain ⟨t, ht⟩ := he hr
    exact ⟨rfl, b, t, by rw [← ht]; exact hb⟩
  unfold skipFront at h
  split at h
  · cases h
  next c u hc =>
  rw [hc] at hb hscalar
  split at h
  · next hn =>
    refine .inl (hscalar h fun hr => ⟨.word .null, ?_⟩)
    rw [hn, eq_append_of_readWord hr]
    rfl
  split at h
  · next ht =>
    refine .inl (hscalar h fun hr => ⟨.word .yes, ?_⟩)
    rw [ht, eq_append_of_readWord hr]
    rfl
  split at h
  · next hf =>
    refine .inl (hscalar h fun hr => ⟨.word .no, ?_⟩)
    rw [hf, eq_append_of_readWord hr]
    rfl
  split at h
  · next hminus =>
    refine .inl (hscalar h fun hr => ?_)
    obtain ⟨n, hnegative, rfl⟩ := exists_of_skipNumber true hr
    refine ⟨.number n, ?_⟩
    rw [hminus, Tree.text, WrittenNumber.text, WrittenNumber.signText, hnegative]
    rfl
  split at h
  · refine .inl (hscalar h fun hr => ?_)
    obtain ⟨n, hnegative, hn⟩ := exists_of_skipNumber false hr
    refine ⟨.number n, ?_⟩
    rw [hn, Tree.text, WrittenNumber.text, WrittenNumber.signText, hnegative]
    rfl
  split at h
  · next hquote =>
    refine .inl (hscalar h fun hr => ?_)
    obtain ⟨ps, rfl⟩ := exists_texts_of_skipString hr
    refine ⟨.string ps, ?_⟩
    rw [hquote, Tree.text, stringText, List.cons_append, List.append_assoc, List.singleton_append]
  split at h
  · next hsquare =>
    cases h
    exact .inr ⟨.square, b, rfl, by rw [hsquare] at hb; exact hb⟩
  split at h
  · next hcurly =>
    cases h
    exact .inr ⟨.curly, b, rfl, by rw [hcurly] at hb; exact hb⟩
  · cases h

/-! ### Containers -/

/-- The parts that a container of some kind has. -/
def Part.Made : Bracket → Part → Prop
  | .square, p => p ∈ Set.range Part.ofItem
  | .curly, p => p ∈ Set.range Part.ofMember

/-- Parts of its kind make a container. -/
theorem exists_container {k : Bracket} {parts : List Part} (hmade : ∀ p ∈ parts, p.Made k)
    (close : Blanks) : ∃ t : Tree, ∀ rest,
      t.text ++ rest = k.opening :: afterOpening k.close close rest (parts.map Part.text) := by
  cases k with
  | square =>
    have hrange : parts ∈ Set.range (List.map Part.ofItem) := by
      rw [Set.range_list_map]
      exact hmade
    obtain ⟨items, rfl⟩ := hrange
    refine ⟨.list items close, fun rest => ?_⟩
    rw [Tree.text_list_append, Part.map_text_ofItem]
    rfl
  | curly =>
    have hrange : parts ∈ Set.range (List.map Part.ofMember) := by
      rw [Set.range_list_map]
      exact hmade
    obtain ⟨members, rfl⟩ := hrange
    refine ⟨.object members close, fun rest => ?_⟩
    rw [Tree.text_object_append, Part.map_text_ofMember]
    rfl

/-- What is passed over before a value in a container may lead to any value there. -/
theorem exists_of_skipKey {k : Bracket} {s u : List Char} (h : skipKey k s = .ok u) :
    ∃ lead, s = lead ++ u ∧ ∀ before value after, Part.Made k ⟨lead, before, value, after⟩ := by
  cases k with
  | square =>
    exact ⟨[], Except.ok.inj h, fun before value after => ⟨⟨before, value, after⟩, rfl⟩⟩
  | curly =>
    obtain ⟨b, hb⟩ := exists_blanks s
    unfold skipKey at h
    simp only at h
    split at h
    · cases h
    · next r hquote =>
      obtain ⟨f, hstring⟩ | ⟨r', hstring⟩ := error_or_ok (skipString r)
      · rw [hstring] at h
        cases h
      obtain ⟨ps, rfl⟩ := exists_texts_of_skipString hstring
      obtain ⟨d, hd⟩ := exists_blanks r'
      simp only [hstring, bind, Except.bind] at h
      split at h
      · cases h
      · next hcolon =>
        cases h
        rw [hcolon] at hd
        refine ⟨Member.lead (α := Unit) ⟨b, ps, d, .none, (), .none⟩, ?_, fun before value after =>
          ⟨⟨b, ps, d, before, value, after⟩, rfl⟩⟩
        rw [Member.lead_append, hb, hquote, hd]
      · cases h
    · cases h

/-- Where a key is passed over, a value is to come. -/
theorem exists_of_goOn {value : Bool} {k : Bracket} {stack : List Bracket} {s s' rest : List Char}
    (hbetween : skipBetween value (k :: stack) s = (skipKey k s').map (k :: stack, ·))
    (h : goOn value (k :: stack) s = .ok rest) :
    ∃ u, skipKey k s' = .ok u ∧ skipIn (k :: stack) u = .ok rest := by
  rw [goOn, hbetween] at h
  obtain ⟨f, hkey⟩ | ⟨u, hkey⟩ := error_or_ok (skipKey k s')
  · rw [hkey] at h
    cases h
  · rw [hkey] at h
    exact ⟨u, hkey, h⟩

/-- After a value a container ends, or has a comma and another value. After its opening bracket it
ends or has a value. -/
theorem goOn_cases {value : Bool} {k : Bracket} {stack : List Bracket} {s rest : List Char}
    (h : goOn value (k :: stack) s = .ok rest) :
    (∃ (b : Blanks) (s' : List Char), s = b.chars ++ k.close :: s' ∧ goOn true stack s' = .ok rest)
    ∨ (value = true ∧ ∃ (b : Blanks) (s' u : List Char), s = b.chars ++ ',' :: s'
      ∧ skipKey k s' = .ok u ∧ skipIn (k :: stack) u = .ok rest)
    ∨ (value = false ∧ ∃ u, skipKey k s = .ok u ∧ skipIn (k :: stack) u = .ok rest) := by
  obtain ⟨b, hb⟩ := exists_blanks s
  cases hs : skipSpace s with
  | nil =>
    rw [goOn, skipBetween, hs] at h
    cases h
  | cons c r =>
    rw [hs] at hb
    by_cases hcomma : value = true ∧ c = ','
    · have hbetween : skipBetween value (k :: stack) s = (skipKey k r).map (k :: stack, ·) := by
        rw [skipBetween, hs]
        exact if_pos hcomma
      obtain ⟨u, hkey, hu⟩ := exists_of_goOn hbetween h
      exact .inr (.inl ⟨hcomma.1, b, r, u, by rw [hb, hcomma.2], hkey, hu⟩)
    by_cases hclose : c = k.close
    · have hbetween : skipBetween value (k :: stack) s = skipBetween true stack r := by
        rw [skipBetween, hs]
        exact (if_neg hcomma).trans (if_pos hclose)
      rw [goOn, hbetween] at h
      exact .inl ⟨b, r, by rw [hb, hclose], h⟩
    cases value with
    | true =>
      have hbetween : skipBetween true (k :: stack) s = failPast 1 k.separatorFault (c :: r) := by
        rw [skipBetween, hs]
        exact (if_neg hcomma).trans (if_neg hclose)
      rw [goOn, hbetween] at h
      cases h
    | false =>
      have hbetween : skipBetween false (k :: stack) s
          = (skipKey k (c :: r)).map (k :: stack, ·) := by
        rw [skipBetween, hs]
        exact (if_neg hcomma).trans (if_neg hclose)
      obtain ⟨u, hkey, hu⟩ := exists_of_goOn hbetween h
      refine .inr (.inr ⟨rfl, ?_⟩)
      -- the blanks are gone already, and do not matter
      have hagain : skipSpace (c :: r) = skipSpace s := by
        rw [← hs, skipSpace, skipSpace, List.dropWhile_idempotent]
      cases k with
      | square =>
        obtain rfl : c :: r = u := Except.ok.inj hkey
        exact ⟨s, rfl, by rw [← hu]; exact skipIn_of_skipSpace_eq hagain.symm _⟩
      | curly => exact ⟨u, by rw [← hkey, skipKey, skipKey, hagain], hu⟩

/-! ### Values -/

/-- Where a value is to be passed over, with the rest of what is open, a value stands. -/
def StartsValue (s : List Char) : Prop :=
  ∀ {stack rest}, skipIn stack s = .ok rest →
    ∃ (b : Blanks) (t : Tree) (s' : List Char), s = b.chars ++ (t.text ++ s')
      ∧ goOn true stack s' = .ok rest

/-- After a value in a container its other parts stand with its end. -/
def GoesOnWithParts (s : List Char) : Prop :=
  ∀ {k stack rest}, goOn true (k :: stack) s = .ok rest →
    ∃ (after close : Blanks) (parts : List Part) (s' : List Char), (∀ p ∈ parts, p.Made k)
      ∧ s = after.chars ++ afterPart k.close close s' (parts.map Part.text)
      ∧ goOn true stack s' = .ok rest

/-- What leads to a value, the value, and the other parts of a container with its end. -/
theorem exists_parts {k : Bracket} {stack : List Bracket} {s u rest : List Char}
    (hkey : skipKey k s = .ok u) (hskip : skipIn (k :: stack) u = .ok rest)
    (hvalue : StartsValue u) (hparts : ∀ s', s'.length ≤ u.length → GoesOnWithParts s') :
    ∃ (close : Blanks) (parts : List Part) (s' : List Char), (∀ p ∈ parts, p.Made k)
      ∧ parts ≠ [] ∧ s = afterOpening k.close close s' (parts.map Part.text)
      ∧ goOn true stack s' = .ok rest := by
  obtain ⟨lead, hlead, hmade⟩ := exists_of_skipKey hkey
  obtain ⟨before, t, s₁, hu, hgo⟩ := hvalue hskip
  have hlength : s₁.length ≤ u.length := by
    rw [hu, List.length_append, List.length_append]
    omega
  obtain ⟨after, close, parts, s', hall, hs₁, hgo⟩ := hparts s₁ hlength hgo
  refine ⟨close, ⟨lead, before, t, after⟩ :: parts, s',
    List.forall_mem_cons.mpr ⟨hmade before t after, hall⟩, List.cons_ne_nil _ _, ?_, hgo⟩
  rw [hlead, hu, hs₁, List.map_cons, afterOpening, Part.text]
  simp only [List.append_assoc]

theorem startsValue_and_goesOnWithParts (s : List Char) : StartsValue s ∧ GoesOnWithParts s := by
  induction hn : s.length using Nat.strong_induction_on generalizing s with
  | _ n ih =>
    subst hn
    constructor
    · intro stack rest h
      rw [skipIn_eq] at h
      obtain ⟨f, hfront⟩ | ⟨⟨k?, r⟩, hfront⟩ := error_or_ok (skipFront s)
      · rw [hfront] at h
        cases h
      have hlt := length_skipFront_lt hfront
      rw [hfront] at h
      obtain ⟨rfl, b, t, rfl⟩ | ⟨k, b, rfl, hs⟩ := exists_of_skipFront hfront
      · exact ⟨b, t, r, rfl, h⟩
      · have hcontainer : ∃ (close : Blanks) (parts : List Part) (s' : List Char),
            (∀ p ∈ parts, p.Made k) ∧ r = afterOpening k.close close s' (parts.map Part.text)
            ∧ goOn true stack s' = .ok rest := by
          obtain ⟨d, s', hr, hgo⟩ | ⟨hvalue, -⟩ | ⟨-, u, hkey, hskip⟩ := goOn_cases h
          · exact ⟨d, [], s', by simp, hr, hgo⟩
          · cases hvalue
          · have hle := length_skipKey_le hkey
            obtain ⟨close, parts, s', hmade, -, hr, hgo⟩ := exists_parts hkey hskip
              (ih _ (by omega) u rfl).1 fun s' _ => (ih _ (by omega) s' rfl).2
            exact ⟨close, parts, s', hmade, hr, hgo⟩
        obtain ⟨close, parts, s', hmade, hr, hgo⟩ := hcontainer
        obtain ⟨t, ht⟩ := exists_container hmade close
        exact ⟨b, t, s', by rw [hs, hr, ht], hgo⟩
    · intro k stack rest h
      obtain ⟨d, s', hs, hgo⟩ | ⟨-, b, s₁, u, hs, hkey, hskip⟩ | ⟨hvalue, -⟩ := goOn_cases h
      · exact ⟨.none, d, [], s', by simp, hs, hgo⟩
      · have hle := length_skipKey_le hkey
        have hlt : s₁.length < s.length := by
          rw [hs, List.length_append, List.length_cons]
          omega
        obtain ⟨close, parts, s', hmade, hne, hs₁, hgo⟩ := exists_parts hkey hskip
          (ih _ (by omega) u rfl).1 fun s' _ => (ih _ (by omega) s' rfl).2
        refine ⟨b, close, parts, s', hmade, ?_, hgo⟩
        obtain ⟨p, parts, rfl⟩ := List.exists_cons_of_ne_nil hne
        rw [hs, hs₁, List.map_cons, afterOpening, afterPart]
      · cases hvalue

/-- **What is passed over is a value.** -/
theorem exists_of_skipValue {s rest : List Char} (h : skipValue s = .ok rest) :
    ∃ (b : Blanks) (t : Tree), s = b.chars ++ (t.text ++ rest) := by
  obtain ⟨b, t, s', hs, hgo⟩ := (startsValue_and_goesOnWithParts s).1 h
  obtain rfl := Except.ok.inj ((goOn_nil true s').symm.trans hgo)
  exact ⟨b, t, hs⟩

/-- **The texts that hold a value** are the texts of values with blanks before and after them. -/
theorem parse_skip_eq_ok_iff (s : List Char) :
    parse .skip s = .ok ()
      ↔ ∃ (before : Blanks) (t : Tree) (after : Blanks),
        s = before.chars ++ (t.text ++ after.chars) := by
  constructor
  · intro h
    obtain ⟨rest, hread, hrest⟩ := parse_eq_ok_iff_read.mp h
    obtain ⟨rest', hskip, heq⟩ := map_eq_ok (hread : (skipValue s).map _ = _)
    obtain ⟨-, rfl⟩ := Prod.mk.inj heq
    obtain ⟨before, t, rfl⟩ := exists_of_skipValue hskip
    obtain ⟨after, hafter⟩ := exists_blanks rest'
    rw [hrest, List.append_nil] at hafter
    exact ⟨before, t, after, by rw [← hafter]⟩
  · rintro ⟨before, t, after, rfl⟩
    exact (Reader.skip_means.parse_eq_ok_iff before t after).mpr rfl

end BenchReport.Json
