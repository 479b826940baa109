import BenchReport.Proofs.Json.Passing
import BenchReport.Json.Container
import Mathlib.Algebra.Group.Nat.Defs

/-!
# What values mean to a reader

A reader gives each value as it is written a meaning, or none: it reads the value as what it means
and leaves the text after it, and it refuses a value that means nothing to it (`Reader.Means`). The
meaning does not depend on the blanks before the value or on the text after it, so the meanings of
composed readers are composed of the meanings of their parts.
-/

namespace BenchReport.Json

open Decimal (isDigit digitValue appendDigits)

variable {α β σ : Type}

/-- Reading with `r` gives what `meaning` says of a value, and fails where that is nothing. -/
def Reader.Means (r : Reader α) (meaning : Tree → Option α) : Prop :=
  ∀ (b : Blanks) (t : Tree) {rest : List Char}, Ends rest →
    Answers (meaning t) rest (r.read (b.chars ++ (t.text ++ rest)))

namespace Reader.Means

variable {r : Reader α} {meaning : Tree → Option α}

/-- A value that stands without blanks before it is read. -/
theorem text (h : r.Means meaning) (t : Tree) {rest : List Char} (hrest : Ends rest) :
    Answers (meaning t) rest (r.read (t.text ++ rest)) :=
  h .none t hrest

theorem congr {meaning' : Tree → Option α} (h : r.Means meaning)
    (heq : ∀ t, meaning t = meaning' t) : r.Means meaning' :=
  (funext heq : meaning = meaning') ▸ h

theorem map (h : r.Means meaning) (f : α → β) : (r.map f).Means fun t => (meaning t).map f :=
  fun b t _ hrest => (h b t hrest).map f

theorem verify (h : r.Means meaning) (f : α → Except Fault β) :
    (r.verify f).Means fun t => (meaning t).bind fun a => (f a).toOption := by
  intro b t rest hrest
  obtain ⟨a, hmeaning, hread⟩ | ⟨hmeaning, failure, hread⟩ := (h b t hrest).cases
  · simp only [Reader.verify, hread, hmeaning, Option.bind_some]
    cases f a with
    | error fault => exact Answers.error _
    | ok x => exact Answers.ok x
  · simp only [Reader.verify, hread, hmeaning, Option.bind_none]
    exact Answers.error failure

end Reader.Means

/-! ### Scalars -/

namespace Tree

/-- The number that a value is. -/
def number? : Tree → Option WrittenNumber
  | number n => some n
  | _ => none

/-- The text that a string spells. -/
def string? : Tree → Option String
  | string ps => (Piece.spelled? ps).map String.ofList
  | _ => none

/-- The binary64 number that a number is worth, unless it is too large. -/
def real? (t : Tree) : Option Float := (t.number?.bind WrittenNumber.value?).map Number.toFloat

/-- The whole number that digits without a sign, a fraction and an exponent name. -/
def natural? : Tree → Option Nat
  | number ⟨false, whole, none, none, _⟩ => some (appendDigits 0 whole.chars)
  | _ => none

/-- The whole number of 32 bits that digits name. -/
def word32? (t : Tree) : Option UInt32 :=
  t.natural?.bind fun n => if n < 2 ^ 32 then some (UInt32.ofNat n) else none

/-- The whole number of 64 bits that digits name. -/
def word64? (t : Tree) : Option UInt64 :=
  t.natural?.bind fun n => if n < 2 ^ 64 then some (UInt64.ofNat n) else none

/-- The elements of a list. -/
def items? : Tree → Option (List Tree)
  | list items _ => some (items.map Item.value)
  | _ => none

end Tree

theorem answers_refuse {expected : String} (s rest : List Char) :
    Answers (none : Option α) rest (refuse expected s) := by
  obtain ⟨f, hf⟩ | ⟨a, ha⟩ := error_or_ok (refuse (α := α × List Char) expected s)
  · exact ⟨f, hf⟩
  · exact absurd ha refuse_ne_ok

theorem readNumberAs_number (expected : String) (b : Blanks) (n : WrittenNumber)
    {rest : List Char} (hrest : Ends rest) :
    Answers n.value? rest (readNumberAs expected (b.chars ++ (n.text ++ rest))) := by
  have hread := readNumber_append n hrest
  rw [readNumberAs, WrittenNumber.text, WrittenNumber.signText]
  cases hneg : n.negative with
  | true =>
    rw [if_pos rfl, List.append_assoc, List.singleton_append, skipSpace_append_cons b (by decide)]
    rw [hneg] at hread
    simpa using hread
  | false =>
    obtain ⟨d, u, hu, hd⟩ := n.exists_body
    have hbegins : Tree.Begins (.number n) d := .inr hd
    rw [if_neg (by simp), List.nil_append, hu, List.cons_append,
      skipSpace_append_cons b hbegins.isSpace]
    rw [hneg, hu, List.cons_append] at hread
    have hne : d ≠ '-' := isDigit_ne hd (by decide)
    simpa [hne, hd] using hread

theorem Reader.number_means (expected : String) :
    (Reader.number expected).Means fun t => t.number?.bind WrittenNumber.value? := by
  intro b t rest hrest
  obtain ⟨c, r, hskip, hc, -⟩ := Tree.exists_skipSpace b t rest
  have hrefuse (h1 : c ≠ '-') (h2 : isDigit c = false) :
      Answers none rest (readNumberAs expected (b.chars ++ (t.text ++ rest))) := by
    rw [readNumberAs, hskip]
    simp only [h1, h2, if_false, Bool.false_eq_true]
    exact answers_refuse _ _
  cases t with
  | word w => rcases hc with rfl | rfl | rfl <;> exact hrefuse (by decide) (by decide)
  | number n => exact readNumberAs_number expected b n hrest
  | string ps => cases hc; exact hrefuse (by decide) (by decide)
  | list items close => cases hc; exact hrefuse (by decide) (by decide)
  | object members close => cases hc; exact hrefuse (by decide) (by decide)

theorem Reader.real_means : Reader.real.Means Tree.real? := (Reader.number_means "f64").map _

theorem Reader.textAs_means (expected : String) : (Reader.textAs expected).Means Tree.string? := by
  intro b t rest hrest
  obtain ⟨c, r, hskip, hc, htext⟩ := Tree.exists_skipSpace b t rest
  have hrefuse (h : c ≠ '"') :
      Answers none rest (readStringAs expected (b.chars ++ (t.text ++ rest))) := by
    rw [readStringAs, hskip]
    simp only [h, if_false]
    exact answers_refuse _ _
  cases t with
  | word w => rcases hc with rfl | rfl | rfl <;> exact hrefuse (by decide)
  | number n => exact hrefuse (by rcases hc with rfl | hc; decide; exact isDigit_ne hc (by decide))
  | string ps =>
    have hread := Answers.map (readsSpelling ps rest) String.ofList
    obtain rfl : c = '"' := hc
    have hr : r = Piece.texts ps ++ '"' :: rest := by
      rw [Tree.text, stringText, List.cons_append, List.append_assoc] at htext
      exact (List.cons.inj htext).2.symm
    show Answers _ _ (readStringAs expected _)
    rw [readStringAs, hskip, hr]
    exact hread
  | list items close => cases hc; exact hrefuse (by decide)
  | object members close => cases hc; exact hrefuse (by decide)

theorem Reader.text_means : Reader.text.Means Tree.string? := Reader.textAs_means _

/-! ### Whole numbers -/

theorem le_appendDigits (n : Nat) (ds : List Char) : n ≤ appendDigits n ds := by
  induction ds generalizing n with
  | nil => exact le_rfl
  | cons d ds ih => exact le_trans (by omega) (ih (10 * n + digitValue d))

/-- Digits that name a number within the bound are all gathered. -/
theorem gather_of_le {bound n : Nat} {ds : List Char} (h : appendDigits n ds ≤ bound) :
    gather bound n ds = (appendDigits n ds, []) := by
  induction ds generalizing n with
  | nil => rfl
  | cons d ds ih =>
    have hstep : appendDigits n (d :: ds) = appendDigits (10 * n + digitValue d) ds := rfl
    rw [hstep] at h ⊢
    have hle := (le_appendDigits (10 * n + digitValue d) ds).trans h
    rw [gather, if_pos hle, ih h]

/-- Of digits that name a greater number some are left. -/
theorem gather_of_lt {bound n : Nat} {ds : List Char} (hn : n ≤ bound)
    (h : bound < appendDigits n ds) : (gather bound n ds).2 ≠ [] := by
  induction ds generalizing n with
  | nil => exact absurd (lt_of_le_of_lt hn h) (lt_irrefl _)
  | cons d ds ih =>
    rw [gather]
    split
    · exact ih ‹_› h
    · exact List.cons_ne_nil _ _

section Digits

variable (negative : Bool) {whole : Text.Run isDigit}
  (lead : whole.chars = ['0'] ∨ whole.chars.head? ≠ some '0')

/-- Digits that name a number of 64 bits are worth that number. -/
theorem value?_of_le (h : appendDigits 0 whole.chars ≤ maxSignificand) :
    WrittenNumber.value? ⟨negative, whole, none, none, lead⟩
      = some (wholeNumber negative (appendDigits 0 whole.chars)) := by
  simp only [WrittenNumber.value?, WrittenNumber.gathered, gather_of_le h, List.length_nil, if_true]

/-- Digits that name a greater number are worth a real number at most. -/
theorem value?_of_lt (h : maxSignificand < appendDigits 0 whole.chars) :
    ∃ x? : Option Float, WrittenNumber.value? ⟨negative, whole, none, none, lead⟩
      = x?.map fun x => .real (signed negative x) := by
  have hne : (gather maxSignificand 0 whole.chars).2.length ≠ 0 := by
    simpa using gather_of_lt (Nat.zero_le _) h
  simp only [WrittenNumber.value?, WrittenNumber.gathered, hne, if_false]
  exact ⟨_, rfl⟩

end Digits

/-- A number is a whole number below a bound of 64 bits if it is digits that name one. -/
theorem bind_whole_eq (expected : String) {bound : Nat} (hbound : bound ≤ 2 ^ 64) (t : Tree) :
    ((t.number?.bind WrittenNumber.value?).bind fun n => (Reader.whole expected bound n).toOption)
      = t.natural?.bind fun n => if n < bound then some n else none := by
  have hreal (x? : Option Float) (negative : Bool) :
      (x?.map fun x => Number.real (signed negative x)).bind
        (fun n => (Reader.whole expected bound n).toOption) = none := by
    cases x? <;> rfl
  rcases t with w | ⟨negative, whole, _ | ds, _ | e, lead⟩ | ps | ⟨items, close⟩ | ⟨ms, close⟩
  case number.none.none =>
    simp only [Tree.number?, Option.bind_some]
    rcases Nat.lt_or_ge maxSignificand (appendDigits 0 whole.chars) with hlt | hle
    · obtain ⟨x?, hx⟩ := value?_of_lt negative lead hlt
      rw [hx, hreal]
      cases negative with
      | true => rfl
      | false =>
        have : maxSignificand = 2 ^ 64 - 1 := rfl
        rw [Tree.natural?, Option.bind_some, if_neg (by omega)]
    · rw [value?_of_le negative lead hle, Option.bind_some]
      cases negative with
      | true =>
        rw [wholeNumber, if_pos rfl]
        split <;> rfl
      | false =>
        rw [wholeNumber, if_neg (by simp), Reader.whole, Tree.natural?, Option.bind_some]
        split <;> rfl
  case number.none.some => cases negative <;> exact hreal _ _
  case number.some.none => cases negative <;> exact hreal _ _
  case number.some.some => cases negative <;> exact hreal _ _
  all_goals rfl

/-- A whole number below a bound, of which something is made. -/
theorem Reader.whole_means (expected : String) {bound : Nat} (hbound : bound ≤ 2 ^ 64)
    (f : Nat → α) :
    (((Reader.number expected).verify (whole expected bound)).map f).Means fun t =>
      t.natural?.bind fun n => if n < bound then some (f n) else none := by
  refine (((Reader.number_means expected).verify (whole expected bound)).map f).congr fun t => ?_
  rw [bind_whole_eq expected hbound, Option.map_bind]
  congr 1
  funext n
  rw [Function.comp_apply, apply_ite (Option.map f), Option.map_some, Option.map_none]

theorem Reader.word32_means : Reader.word32.Means Tree.word32? :=
  Reader.whole_means "u32" (by decide) UInt32.ofNat

theorem Reader.word64_means : Reader.word64.Means Tree.word64? :=
  Reader.whole_means "u64" (by decide) UInt64.ofNat

theorem Reader.size_means : Reader.size.Means Tree.word64? :=
  Reader.whole_means "usize" (by decide) UInt64.ofNat

/-- What is passed over need not mean anything. -/
theorem Reader.skip_means : Reader.skip.Means fun _ => some () := by
  intro b t rest hrest
  have hread : Reader.skip.read (b.chars ++ (t.text ++ rest)) = .ok ((), rest) := by
    rw [Reader.skip]
    dsimp only
    rw [skipValue_text b t hrest]
    rfl
  rw [hread]
  exact Answers.ok ()

end BenchReport.Json
