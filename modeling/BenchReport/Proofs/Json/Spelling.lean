import BenchReport.Proofs.Json.Outcome
import BenchReport.Json.Quoted
import Mathlib.Data.List.Basic

/-!
# Strings as they are written

A string is written between quotes as a row of pieces: characters that stand for themselves,
characters that are escaped by a letter, and UTF-16 units that are escaped by a number. Every such
row may be passed over. It spells a text only if the units come in pairs where they have to
(`spelled?`): the first unit of a pair with the second right after it, and the second never alone.

Reading a string gives the text that its pieces spell, and refuses pieces that spell none.
-/

namespace BenchReport.Json

/-! ### Pieces -/

/-- A digit to the base sixteen. -/
def isHexDigit (c : Char) : Bool := (hexValue? c).isSome

/-- A piece of a string as it is written. -/
inductive Piece where
  /-- A character that stands for itself. -/
  | plain (c : Char) (notQuote : c ≠ '"') (notEscape : c ≠ '\\') (notControl : isControl c = false)
  /-- A letter that escapes a character. -/
  | letter (e : Char) (escapes : (escaped? e).isSome = true)
  /-- Four digits that name a unit. -/
  | unit (a b c d : Char) (ha : isHexDigit a = true) (hb : isHexDigit b = true)
      (hc : isHexDigit c = true) (hd : isHexDigit d = true)

namespace Piece

/-- The text of a piece. -/
def text : Piece → List Char
  | plain c .. => [c]
  | letter e _ => ['\\', e]
  | unit a b c d .. => ['\\', 'u', a, b, c, d]

/-- The text of a row of pieces. -/
def texts (ps : List Piece) : List Char := ps.flatMap text

/-- The number of a unit. -/
def number (a b c d : Char) : Nat := (hexUnit? [a, b, c, d]).getD 0

/-- The character of a pair of units. -/
def pairChar (n m : Nat) : Char := Char.ofNat ((n - 0xD800) * 0x400 + (m - 0xDC00) + 0x10000)

/-- The text that a row of pieces spells, if it spells one. -/
def spelled? : List Piece → Option (List Char)
  | [] => some []
  | plain c .. :: ps => (spelled? ps).map (c :: ·)
  | letter e _ :: ps => (escaped? e).bind fun c => (spelled? ps).map (c :: ·)
  | unit a b c d .. :: ps =>
    if isTrailing (number a b c d) then none
    else if isLeading (number a b c d) then
      match ps with
      | unit a' b' c' d' .. :: ps =>
        if isTrailing (number a' b' c' d') then
          (spelled? ps).map (pairChar (number a b c d) (number a' b' c' d') :: ·)
        else none
      | _ => none
    else (spelled? ps).map (Char.ofNat (number a b c d) :: ·)

end Piece

open Piece (texts spelled? number pairChar)

theorem texts_cons (p : Piece) (ps : List Piece) : texts (p :: ps) = p.text ++ texts ps := rfl

theorem texts_cons_unit {a b c d : Char} (ha : isHexDigit a = true) (hb : isHexDigit b = true)
    (hc : isHexDigit c = true) (hd : isHexDigit d = true) (ps : List Piece) (r : List Char) :
    texts (.unit a b c d ha hb hc hd :: ps) ++ r
      = '\\' :: 'u' :: a :: b :: c :: d :: (texts ps ++ r) := rfl

/-- A string with its quotes. -/
def stringText (ps : List Piece) : List Char := '"' :: (texts ps ++ ['"'])

/-! ### Reading a unit -/

theorem hexUnit?_eq_number {a b c d : Char} (ha : isHexDigit a = true) (hb : isHexDigit b = true)
    (hc : isHexDigit c = true) (hd : isHexDigit d = true) :
    hexUnit? [a, b, c, d] = some (number a b c d) := by
  obtain ⟨x, hx⟩ := Option.isSome_iff_exists.mp ha
  obtain ⟨y, hy⟩ := Option.isSome_iff_exists.mp hb
  obtain ⟨z, hz⟩ := Option.isSome_iff_exists.mp hc
  obtain ⟨w, hw⟩ := Option.isSome_iff_exists.mp hd
  have h : hexUnit? [a, b, c, d] = some (((x * 16 + y) * 16 + z) * 16 + w) := by
    simp only [hexUnit?, hx, hy, hz, hw]
    rfl
  rw [number, h, Option.getD_some]

theorem readUnit_append {a b c d : Char} (ha : isHexDigit a = true) (hb : isHexDigit b = true)
    (hc : isHexDigit c = true) (hd : isHexDigit d = true) (r : List Char) :
    readUnit (a :: b :: c :: d :: r) = .ok (number a b c d) := by
  have hsize : ¬Text.Utf8.size (a :: b :: c :: d :: r) < 4 := by
    have := a.utf8Size_pos
    have := b.utf8Size_pos
    have := c.utf8Size_pos
    have := d.utf8Size_pos
    simp only [Text.Utf8.size, List.map_cons, List.foldr_cons]
    omega
  rw [readUnit, if_neg hsize, show (a :: b :: c :: d :: r).take 4 = [a, b, c, d] from rfl,
    hexUnit?_eq_number ha hb hc hd]

theorem ne_u_of_escapes {e : Char} (h : (escaped? e).isSome = true) : e ≠ 'u' := by
  rintro rfl
  cases h

/-! ### Passing over a string -/

theorem skipEscape_unit {a b c d : Char} (ha : isHexDigit a = true) (hb : isHexDigit b = true)
    (hc : isHexDigit c = true) (hd : isHexDigit d = true) (r : List Char) :
    skipEscape ('u' :: a :: b :: c :: d :: r) = .ok 4 := by
  rw [skipEscape, readUnit_append ha hb hc hd]
  rfl

theorem skipEscape_letter {e : Char} (h : (escaped? e).isSome = true) (r : List Char) :
    skipEscape (e :: r) = .ok 0 := by
  have hu := ne_u_of_escapes h
  unfold skipEscape
  split
  · next heq => cases heq
  · next heq => exact absurd (List.cons.inj heq).1 hu
  · next heq =>
    obtain ⟨rfl, -⟩ := List.cons.inj heq
    rw [if_pos h]

theorem skipString_plain {c : Char} (hq : c ≠ '"') (he : c ≠ '\\') (hc : isControl c = false)
    (r : List Char) : skipString (c :: r) = skipString r := by
  rw [skipString.eq_4 c r hq he, hc]
  rfl

/-- A string is passed over whatever its pieces are. -/
theorem skipString_texts (ps : List Piece) (r : List Char) :
    skipString (texts ps ++ '"' :: r) = .ok r := by
  induction ps with
  | nil => rw [texts, List.flatMap_nil, List.nil_append, skipString]
  | cons p ps ih =>
    rw [texts_cons, List.append_assoc]
    cases p with
    | plain c hq he hc =>
      rw [Piece.text, List.singleton_append, skipString_plain hq he hc]
      exact ih
    | letter e he =>
      rw [Piece.text, List.cons_append, List.singleton_append, skipString, skipEscape_letter he]
      exact ih
    | unit a b c d ha hb hc hd =>
      rw [Piece.text]
      simp only [List.cons_append, List.nil_append]
      rw [skipString, skipEscape_unit ha hb hc hd]
      exact ih

/-! ### Reading a string -/

theorem readEscape_letter {e c : Char} (h : escaped? e = some c) (r : List Char) :
    readEscape (e :: r) = .ok (c, 0) := by
  have hu : e ≠ 'u' := ne_u_of_escapes (by rw [h]; rfl)
  unfold readEscape
  split
  · next heq => cases heq
  · next heq => exact absurd (List.cons.inj heq).1 hu
  · next heq =>
    obtain ⟨rfl, rfl⟩ := List.cons.inj heq
    rw [h]

section Unit

variable {a b c d : Char} (ha : isHexDigit a = true) (hb : isHexDigit b = true)
  (hc : isHexDigit c = true) (hd : isHexDigit d = true)

include ha hb hc hd

theorem readEscape_unit (r : List Char) :
    readEscape ('u' :: a :: b :: c :: d :: r)
      = if isTrailing (number a b c d) then failPast 4 .loneSurrogate (a :: b :: c :: d :: r)
        else if isLeading (number a b c d) then
          (readSecondUnit r).map fun m => (pairChar (number a b c d) m, 10)
        else .ok (Char.ofNat (number a b c d), 4) := by
  rw [readEscape, readUnit_append ha hb hc hd]
  simp only [bind, Except.bind]
  split
  · rfl
  split
  · rw [show (a :: b :: c :: d :: r).drop 4 = r from rfl]
    cases readSecondUnit r with
    | error f => rfl
    | ok m => rfl
  · rfl

theorem readSecondUnit_unit (r : List Char) :
    readSecondUnit ('\\' :: 'u' :: a :: b :: c :: d :: r)
      = if isTrailing (number a b c d) then .ok (number a b c d)
        else failPast 4 .loneSurrogate (a :: b :: c :: d :: r) := by
  rw [readSecondUnit, readUnit_append ha hb hc hd]
  rfl

end Unit

/-- What does not begin with a unit is no second unit. -/
theorem readSecondUnit_texts {ps : List Piece} {r : List Char}
    (h : ∀ a b c d ha hb hc hd qs, ps ≠ .unit a b c d ha hb hc hd :: qs) :
    ∃ f, readSecondUnit (texts ps ++ '"' :: r) = .error f := by
  cases ps with
  | nil => exact ⟨_, rfl⟩
  | cons p ps =>
    rw [texts_cons, List.append_assoc]
    cases p with
    | plain c hq he hc =>
      rw [Piece.text, List.singleton_append]
      unfold readSecondUnit
      split
      · next heq => cases heq
      · next heq => exact absurd (List.cons.inj heq).1 he
      · exact ⟨_, rfl⟩
    | letter e hesc =>
      rw [Piece.text, List.cons_append, List.singleton_append,
        readSecondUnit.eq_4 (e :: _) (by simp) (by simpa using ne_u_of_escapes hesc)]
      exact ⟨_, rfl⟩
    | unit a b c d ha hb hc hd => exact absurd rfl (h a b c d ha hb hc hd ps)

theorem readString_plain {c : Char} (hq : c ≠ '"') (he : c ≠ '\\') (hc : isControl c = false)
    (r : List Char) :
    readString (c :: r) = (readString r).map fun x => (c :: x.1, x.2) := by
  rw [readString.eq_4 c r hq he, hc]
  cases readString r with
  | error f => rfl
  | ok x => rfl

theorem readString_escape (r : List Char) :
    readString ('\\' :: r)
      = match readEscape r with
        | .error f => .error f
        | .ok (c, more) => (readString (r.drop (more + 1))).map fun x => (c :: x.1, x.2) := by
  rw [readString]
  cases readEscape r with
  | error f => rfl
  | ok x =>
    obtain ⟨c, more⟩ := x
    dsimp only
    cases readString (r.drop (more + 1)) with
    | error f => rfl
    | ok y => rfl

/-- Reading a string of some pieces gives the text that they spell, and fails where they spell
none. -/
def ReadsSpelling (ps : List Piece) (r : List Char) : Prop :=
  Answers (spelled? ps) r (readString (texts ps ++ '"' :: r))

/-- A character before pieces is read before what they spell. -/
theorem ReadsSpelling.cons {ps qs : List Piece} {r : List Char} {c : Char}
    (h : ReadsSpelling ps r)
    (hread : readString (texts qs ++ '"' :: r)
      = (readString (texts ps ++ '"' :: r)).map fun x => (c :: x.1, x.2))
    (hspelled : spelled? qs = (spelled? ps).map (c :: ·)) : ReadsSpelling qs r := by
  unfold ReadsSpelling
  rw [hspelled, hread]
  exact Answers.map h (c :: ·)

theorem ReadsSpelling.of_error {ps : List Piece} {r : List Char} (hspelled : spelled? ps = none)
    (h : ∃ f, readString (texts ps ++ '"' :: r) = .error f) : ReadsSpelling ps r := by
  unfold ReadsSpelling
  rw [hspelled]
  exact h

/-- A string is read as the text that its pieces spell. The cases are those of the spelling: a
unit is the second of a pair and stands alone, or is the first with or without its second, or
names a character by itself. -/
theorem readsSpelling (ps : List Piece) (r : List Char) : ReadsSpelling ps r := by
  fun_induction spelled? ps with
  | case1 =>
    unfold ReadsSpelling
    rw [spelled?, texts, List.flatMap_nil, List.nil_append, readString]
    exact Answers.ok []
  | case2 c hq he hc ps ih => exact ih.cons (readString_plain hq he hc _) rfl
  | case3 e hesc ps ih =>
    obtain ⟨c, hesc'⟩ := Option.isSome_iff_exists.mp hesc
    refine ih.cons (c := c) ?_ ?_
    · rw [texts_cons, Piece.text, List.cons_append, List.singleton_append, List.cons_append,
        List.cons_append, readString_escape, readEscape_letter hesc']
      rfl
    · rw [spelled?, hesc']
      rfl
  | case4 a b c d ha hb hc hd ps htrail =>
    refine .of_error (by rw [spelled?.eq_def]; exact if_pos htrail) ?_
    rw [texts_cons_unit, readString_escape, readEscape_unit ha hb hc hd, if_pos htrail]
    exact ⟨_, rfl⟩
  | case5 a b c d ha hb hc hd htrail hlead a' b' c' d' ha' hb' hc' hd' ps htrail' ih =>
    refine ih.cons (c := pairChar (number a b c d) (number a' b' c' d')) ?_ ?_
    · rw [texts_cons_unit, readString_escape, readEscape_unit ha hb hc hd, if_neg htrail,
        if_pos hlead, texts_cons_unit, readSecondUnit_unit ha' hb' hc' hd', if_pos htrail']
      rfl
    · rw [spelled?, if_neg htrail, if_pos hlead, if_pos htrail']
  | case6 a b c d ha hb hc hd htrail hlead a' b' c' d' ha' hb' hc' hd' ps htrail' =>
    refine .of_error (by rw [spelled?, if_neg htrail, if_pos hlead, if_neg htrail']) ?_
    rw [texts_cons_unit, readString_escape, readEscape_unit ha hb hc hd, if_neg htrail,
      if_pos hlead, texts_cons_unit, readSecondUnit_unit ha' hb' hc' hd', if_neg htrail']
    exact ⟨_, rfl⟩
  | case7 a b c d ha hb hc hd ps htrail hlead hnot =>
    refine .of_error (by rw [spelled?, if_neg htrail, if_pos hlead]; exact hnot) ?_
    obtain ⟨f, hf⟩ := readSecondUnit_texts (r := r)
      fun a' b' c' d' ha' hb' hc' hd' qs => hnot a' b' c' d' ha' hb' hc' hd' qs
    rw [texts_cons_unit, readString_escape, readEscape_unit ha hb hc hd, if_neg htrail,
      if_pos hlead, hf]
    exact ⟨f, rfl⟩
  | case8 a b c d ha hb hc hd ps htrail hlead ih =>
    refine ih.cons (c := Char.ofNat (number a b c d)) ?_ ?_
    · rw [texts_cons_unit, readString_escape, readEscape_unit ha hb hc hd, if_neg htrail,
        if_neg hlead]
      rfl
    · rw [spelled?.eq_def]
      exact (if_neg htrail).trans (if_neg hlead)

end BenchReport.Json
