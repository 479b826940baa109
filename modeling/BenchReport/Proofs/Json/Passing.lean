import BenchReport.Proofs.Json.Tree
import Mathlib.Data.List.DropRight

/-!
# Passing over a value as it is written

Whatever value is written, passing over it leaves the text after it (`skipValue_text`). The values
inside a container are passed over with the container kept open, so the statement for the induction
is about any containers that are open: from the front of a value the scanner gets to the place after
the value with the same containers open (`skipIn_text`). A container of either kind is a row of
parts, each with what leads to its value: nothing in a list, the key and the colon in an object.
-/

namespace BenchReport.Json

open Decimal (isDigit)

/-- Goes on after a value, or after an opening bracket, up to the end of all that is open. -/
def goOn (value : Bool) (stack : List Bracket) (s : List Char) : Except Failure (List Char) :=
  match skipBetween value stack s with
  | .error f => .error f
  | .ok ([], r) => .ok r
  | .ok (k :: ks, r) => skipIn (k :: ks) r

theorem goOn_nil (value : Bool) (s : List Char) : goOn value [] s = .ok s := rfl

theorem skipIn_eq (stack : List Bracket) (s : List Char) :
    skipIn stack s = match skipFront s with
      | .error f => .error f
      | .ok (k?, r) => goOn k?.isNone (k?.toList ++ stack) r := by
  rw [skipIn]
  obtain ⟨f, hfront⟩ | ⟨⟨k?, r⟩, hfront⟩ := error_or_ok (skipFront s)
  · simp only [hfront, known_error]
  · simp only [hfront, known_ok, goOn]
    obtain ⟨f, hbetween⟩ | ⟨⟨stack', t⟩, hbetween⟩ :=
      error_or_ok (skipBetween k?.isNone (k?.toList ++ stack) r)
    · simp only [hbetween, known_error]
    · simp only [hbetween, known_ok]
      cases stack' <;> rfl

/-- A scalar is passed over and what is open stays so. -/
theorem skipIn_scalar {s rest : List Char} (h : skipFront s = .ok (none, rest))
    (stack : List Bracket) : skipIn stack s = goOn true stack rest := by
  rw [skipIn_eq, h]
  rfl

/-- After its opening bracket a container is open. -/
theorem skipIn_opening {s rest : List Char} {k : Bracket} (h : skipFront s = .ok (some k, rest))
    (stack : List Bracket) : skipIn stack s = goOn false (k :: stack) rest := by
  rw [skipIn_eq, h]
  rfl

/-- Blanks do not matter before a value. -/
theorem skipIn_of_skipSpace_eq {s s' : List Char} (h : skipSpace s = skipSpace s')
    (stack : List Bracket) : skipIn stack s = skipIn stack s' := by
  rw [skipIn_eq, skipIn_eq, skipFront, skipFront, h]

/-! ### Scalars -/

theorem readWord_append (w s : List Char) : readWord w (w ++ s) = .ok s := by
  induction w with
  | nil => rfl
  | cons c w ih => rw [List.cons_append, readWord, if_pos rfl, ih]

theorem skipFront_word (b : Blanks) (w : Word) (rest : List Char) :
    skipFront (b.chars ++ (w.text ++ rest)) = .ok (none, rest) := by
  have hread := readWord_append
  cases w with
  | null =>
    rw [skipFront, show Word.null.text = 'n' :: "ull".toList from rfl, List.cons_append,
      skipSpace_append_cons b (by decide)]
    simp only [if_true, hread]
    rfl
  | yes =>
    rw [skipFront, show Word.yes.text = 't' :: "rue".toList from rfl, List.cons_append,
      skipSpace_append_cons b (by decide)]
    simp only [if_true, hread]
    rfl
  | no =>
    rw [skipFront, show Word.no.text = 'f' :: "alse".toList from rfl, List.cons_append,
      skipSpace_append_cons b (by decide)]
    simp only [if_true, hread]
    rfl

theorem skipFront_number (b : Blanks) (n : WrittenNumber) {rest : List Char} (hrest : Ends rest) :
    skipFront (b.chars ++ (n.text ++ rest)) = .ok (none, rest) := by
  have hskip := skipNumber_append n hrest
  rw [skipFront, WrittenNumber.text, WrittenNumber.signText]
  cases hneg : n.negative with
  | true =>
    rw [if_pos rfl, List.append_assoc, List.singleton_append, skipSpace_append_cons b (by decide)]
    simp only [if_true, hskip]
    rfl
  | false =>
    obtain ⟨d, u, hu, hd⟩ := n.exists_body
    have hbegins : Tree.Begins (.number n) d := .inr hd
    rw [hu, List.cons_append] at hskip
    rw [if_neg (by simp), List.nil_append, hu, List.cons_append,
      skipSpace_append_cons b hbegins.isSpace]
    have hne : d ≠ 'n' ∧ d ≠ 't' ∧ d ≠ 'f' ∧ d ≠ '-' :=
      ⟨isDigit_ne hd (by decide), isDigit_ne hd (by decide), isDigit_ne hd (by decide),
        isDigit_ne hd (by decide)⟩
    simp only [hne, hd, hskip, if_true, if_false]
    rfl

theorem skipFront_string (b : Blanks) (ps : List Piece) (rest : List Char) :
    skipFront (b.chars ++ (stringText ps ++ rest)) = .ok (none, rest) := by
  have hskip := skipString_texts ps rest
  rw [skipFront, stringText, List.cons_append, List.append_assoc, List.singleton_append,
    skipSpace_append_cons b (by decide)]
  simp [isDigit, hskip, Except.map]

theorem skipFront_opening (b : Blanks) (rest : List Char) :
    skipFront (b.chars ++ '[' :: rest) = .ok (some .square, rest)
      ∧ skipFront (b.chars ++ '\x7b' :: rest) = .ok (some .curly, rest) := by
  constructor
  · rw [skipFront, skipSpace_append_cons b (by decide)]
    simp [isDigit]
  · rw [skipFront, skipSpace_append_cons b (by decide)]
    simp [isDigit]

/-! ### Containers -/

/-- A part of a container: what leads to its value, and the value with the blanks around it. -/
structure Part where
  lead : List Char
  before : Blanks
  value : Tree
  after : Blanks

namespace Part

/-- The text of a part. -/
def text (p : Part) : List Char := p.lead ++ (p.before.chars ++ (p.value.text ++ p.after.chars))

/-- A part of a container of some kind: what leads to the value is passed over, and begins
differently from what ends the container. -/
structure Of (k : Bracket) (p : Part) : Prop where
  skipKey (s : List Char) : skipKey k (p.lead ++ s) = .ok s
  front (s : List Char) :
    ∃ c r, skipSpace (p.lead ++ (p.before.chars ++ (p.value.text ++ s))) = c :: r
    ∧ c ≠ k.close

/-- An element as a part of a list. -/
def ofItem (i : Item Tree) : Part := ⟨[], i.before, i.value, i.after⟩

/-- A member as a part of an object. -/
def ofMember (m : Member Tree) : Part := ⟨m.lead, m.beforeValue, m.value, m.after⟩

theorem map_text_ofItem (items : List (Item Tree)) :
    (items.map ofItem).map text = items.map Item.text := by
  simp [text, ofItem, Item.text, Function.comp_def]

theorem map_text_ofMember (members : List (Member Tree)) :
    (members.map ofMember).map text = members.map Member.text := by
  simp [text, ofMember, Member.text, Function.comp_def]

theorem ofItem_of (i : Item Tree) : Of .square (ofItem i) where
  skipKey s := rfl
  front s := by
    obtain ⟨c, r, hskip, hc, -⟩ := Tree.exists_skipSpace i.before i.value s
    exact ⟨c, r, hskip, hc.ne_close .square⟩

theorem ofMember_of (m : Member Tree) : Of .curly (ofMember m) where
  skipKey s := by
    rw [ofMember, m.lead_append, Json.skipKey, skipSpace_append_cons m.before (by decide)]
    simp only [skipString_texts, bind, Except.bind]
    rw [skipSpace_append_cons m.afterKey (by decide)]
    rfl
  front s := by
    rw [ofMember, m.lead_append]
    exact ⟨'"', _, skipSpace_append_cons m.before (by decide) _, by decide⟩

end Part

section Container

variable {k : Bracket} {stack : List Bracket}

/-- The end of a container is passed over. -/
theorem goOn_close (value : Bool) (close : Blanks) (rest : List Char) :
    goOn value (k :: stack) (close.chars ++ k.close :: rest) = goOn true stack rest := by
  have hspace : isSpace k.close = false := by cases k <;> decide
  have hcomma : k.close ≠ ',' := by cases k <;> decide
  have hbetween : skipBetween value (k :: stack) (close.chars ++ k.close :: rest)
      = skipBetween true stack rest := by
    rw [skipBetween, skipSpace_append_cons close hspace]
    simp [hcomma]
  rw [goOn, goOn, hbetween]

/-- After a value a comma leads to the next one. -/
theorem goOn_comma (after : Blanks) {s u : List Char} (hkey : skipKey k s = .ok u) :
    goOn true (k :: stack) (after.chars ++ ',' :: s) = skipIn (k :: stack) u := by
  rw [goOn, skipBetween, skipSpace_append_cons after (by decide)]
  simp [hkey, Except.map]

/-- After its opening bracket a container goes on with the first value, or with what leads to it. -/
theorem goOn_first {s u : List Char} (hkey : skipKey k s = .ok u)
    (hfront : ∃ c r, skipSpace s = c :: r ∧ c ≠ k.close) :
    goOn false (k :: stack) s = skipIn (k :: stack) u := by
  obtain ⟨c, r, hs, hc⟩ := hfront
  have hagain : skipSpace (c :: r) = c :: r := by
    rw [← hs, skipSpace, skipSpace, List.dropWhile_idempotent]
  rw [goOn, skipBetween, hs]
  cases k with
  | square =>
    -- the blanks are gone already, and do not matter
    have hu : s = u := by simpa [skipKey] using hkey
    have hskip : skipIn (.square :: stack) u = skipIn (.square :: stack) (c :: r) :=
      skipIn_of_skipSpace_eq (by rw [hagain, ← hu, hs]) _
    simp [hc, skipKey, hskip, Except.map]
  | curly =>
    have hkey' : skipKey .curly (c :: r) = .ok u := by
      rw [← hkey, skipKey, skipKey, hagain, hs]
    simp [hc, hkey', Except.map]

/-- What is to be shown of a value: it is passed over, whatever is open and whatever follows. -/
def Passed (t : Tree) : Prop :=
  ∀ (stack : List Bracket) (b : Blanks) {rest : List Char}, Ends rest →
    skipIn stack (b.chars ++ (t.text ++ rest)) = goOn true stack rest

theorem continuesNumber_close (k : Bracket) : continuesNumber k.close = false := by
  cases k <;> decide

/-- The other parts of a container are passed over with its end. -/
theorem goOn_afterPart (after close : Blanks) (rest : List Char) {parts : List Part}
    (hof : ∀ p ∈ parts, p.Of k) (hpassed : ∀ p ∈ parts, Passed p.value) :
    goOn true (k :: stack) (after.chars ++ afterPart k.close close rest (parts.map Part.text))
      = goOn true stack rest := by
  induction parts generalizing after with
  | nil =>
    have hclose := @goOn_close k stack true (after.append close) rest
    rwa [show (after.append close).chars = after.chars ++ close.chars from rfl,
      List.append_assoc] at hclose
  | cons p parts ih =>
    obtain ⟨hp, hof⟩ := List.forall_mem_cons.mp hof
    obtain ⟨hpass, hpassed⟩ := List.forall_mem_cons.mp hpassed
    rw [List.map_cons, afterPart, Part.text]
    simp only [List.append_assoc]
    rw [goOn_comma after (hp.skipKey _),
      hpass _ p.before (ends_append_afterPart _ (continuesNumber_close k) close rest _)]
    exact ih p.after hof hpassed

/-- All parts of a container are passed over with its end. -/
theorem goOn_afterOpening (close : Blanks) (rest : List Char) {parts : List Part}
    (hof : ∀ p ∈ parts, p.Of k) (hpassed : ∀ p ∈ parts, Passed p.value) :
    goOn false (k :: stack) (afterOpening k.close close rest (parts.map Part.text))
      = goOn true stack rest := by
  cases parts with
  | nil => exact goOn_close false close rest
  | cons p parts =>
    obtain ⟨hp, hof⟩ := List.forall_mem_cons.mp hof
    obtain ⟨hpass, hpassed⟩ := List.forall_mem_cons.mp hpassed
    rw [List.map_cons, afterOpening, Part.text]
    simp only [List.append_assoc]
    rw [goOn_first (hp.skipKey _) (hp.front _),
      hpass _ p.before (ends_append_afterPart _ (continuesNumber_close k) close rest _)]
    exact goOn_afterPart p.after close rest hof hpassed

end Container

/-- **A value is passed over with what is open kept open.** -/
theorem skipIn_text (t : Tree) : Passed t := by
  induction t with
  | word w => exact fun stack b rest _ => skipIn_scalar (skipFront_word b w rest) stack
  | number n => exact fun stack b rest hrest => skipIn_scalar (skipFront_number b n hrest) stack
  | string ps => exact fun stack b rest _ => skipIn_scalar (skipFront_string b ps rest) stack
  | list items close ih =>
    intro stack b rest _
    rw [Tree.text_list_append, skipIn_opening (skipFront_opening b _).1, ← Part.map_text_ofItem]
    exact goOn_afterOpening (k := .square) close rest
      (List.forall_mem_map.mpr fun i _ => Part.ofItem_of i) (List.forall_mem_map.mpr ih)
  | object members close ih =>
    intro stack b rest _
    rw [Tree.text_object_append, skipIn_opening (skipFront_opening b _).2,
      ← Part.map_text_ofMember]
    exact goOn_afterOpening (k := .curly) close rest
      (List.forall_mem_map.mpr fun m _ => Part.ofMember_of m) (List.forall_mem_map.mpr ih)

/-- A value is passed over. -/
theorem skipValue_text (b : Blanks) (t : Tree) {rest : List Char} (hrest : Ends rest) :
    skipValue (b.chars ++ (t.text ++ rest)) = .ok rest :=
  (skipIn_text t [] b hrest).trans (goOn_nil true rest)

end BenchReport.Json
