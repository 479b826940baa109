import BenchReport.Proofs.Decimal.Finite
import BenchReport.Proofs.Json.Real

/-!
# What is known of a value that was read

A property of all the values that a reader reads from any text (`Reader.Yields`), whether or not the
text is known to be written by the grammar. A record has a property if its fields, read in any
order and perhaps not all, keep one of the record in the making (`Schema.yields`).

The numbers that are read are finite (`Reader.real_yields`): digits are gathered in 64 bits, a
product with a power of ten is refused if it is infinite, and a quotient by powers of ten is less
than the digits were.
-/

namespace BenchReport.Json

variable {α β σ : Type}

/-- Whether what is read, if anything, has a property. -/
def Yields (p : α → Prop) (e : Except Failure (α × List Char)) : Prop :=
  ∀ a rest, e = .ok (a, rest) → p a

namespace Yields

variable {p : α → Prop} {q : β → Prop} {a : α} {rest : List Char}
  {e : Except Failure (α × List Char)}

theorem ok (h : p a) : Yields p (.ok (a, rest)) := by
  rintro _ _ ⟨⟩
  exact h

theorem error (f : Failure) : Yields p (.error f) := by
  rintro _ _ ⟨⟩

theorem map (h : Yields p e) {f : α → β} (hf : ∀ a, p a → q (f a)) :
    Yields q (e.map fun x => (f x.1, x.2)) := by
  cases e with
  | error f => exact error f
  | ok x => exact ok (hf x.1 (h x.1 x.2 rfl))

end Yields

/-- Whether what a reader reads has a property, whatever the text is. -/
def Reader.Yields (r : Reader α) (p : α → Prop) : Prop := ∀ s, Json.Yields p (r.read s)

namespace Reader.Yields

variable {r : Reader α} {p : α → Prop} {q : β → Prop}

theorem map (h : r.Yields p) {f : α → β} (hf : ∀ a, p a → q (f a)) : (r.map f).Yields q :=
  fun s => (h s).map hf

theorem of_parse (h : r.Yields p) {text : List Char} {a : α} (hparse : parse r text = .ok a) :
    p a := by
  rw [parse, readWhole] at hparse
  cases hread : r.read text with
  | error f =>
    rw [hread] at hparse
    cases hparse
  | ok x =>
    rw [hread] at hparse
    dsimp only at hparse
    split at hparse
    · cases hparse
      exact h text x.1 x.2 hread
    · cases hparse

end Reader.Yields

theorem Reader.yields_true (r : Reader α) : r.Yields fun _ => True := fun _ _ _ _ => trivial

/-! ### Records -/

theorem eq_ok_of_known {p : α → Prop} {x : Except Failure α} {h : ∀ a, x = .ok a → p a}
    {a : { a // p a }} (hx : known x h = .ok a) : x = .ok a.1 := by
  cases x with
  | error f => cases hx
  | ok b =>
    cases hx
    rfl

section Records

variable {inv : σ → Prop}

/-- Members that each keep a property of the state keep it together. The induction is on the members
that are still to be read. -/
theorem readMembers_yields {m : Members σ}
    (h : ∀ st key r, inv st → m st key = .ok r → r.Yields inv) (first : Bool) {st : σ}
    (hst : inv st) (s : List Char) : Yields inv (readMembers m first st s) := by
  fun_induction readMembers m first st s with
  | case1 => exact .error _
  | case2 => exact .ok hst
  | case3 => exact .error _
  | case4 => exact .error _
  | case5 => exact .error _
  | case6 first st s key u _ _ r hr v _ _ st' w hw htake ih =>
    exact ih (h st key r hst hr v st' w (eq_ok_of_known htake))

variable {k : Schema σ α}

/-- Fields that each keep a property of the record in the making keep it together. -/
theorem Schema.readFields_yields {fs : List (Field σ)}
    (h : ∀ f ∈ fs, ∀ st, inv st → (f.reader st).Yields inv) (index : Nat) {st : σ} (hst : inv st)
    (s : List Char) : Yields inv (k.readFields index st fs s) := by
  induction fs generalizing index st s with
  | nil => exact .ok hst
  | cons f fs ih =>
    obtain ⟨hf, hfs⟩ := List.forall_mem_cons.mp h
    unfold readFields
    split
    · exact .error _
    · exact .error _
    · next u _ =>
      split
      · exact .error _
      · next st' v hread => exact ih hfs (index + 1) (hf st hst u st' v hread) v

theorem Schema.complete_yields {p : α → Prop} {st : σ}
    (h : ∀ a, k.finish st = .ok a → p a) (rest : List Char) : Yields p (k.complete st rest) := by
  unfold complete
  split
  · next a ha => exact .ok (h a ha)
  · exact .error _

theorem refuse_yields {p : α → Prop} (expected : String) (s : List Char) :
    Yields p (refuse expected s) :=
  fun _ _ h => absurd h refuse_ne_ok

/-- **What is known of a record**: what its fields keep of the record in the making. -/
theorem Schema.reader_yields (inv : σ → Prop) {p : α → Prop} (hstart : inv k.start)
    (hfields : ∀ f ∈ k.fields, ∀ st, inv st → (f.reader st).Yields inv)
    (hfinish : ∀ st a, inv st → k.finish st = .ok a → p a) : k.reader.Yields p := by
  have hmembers (st : σ) (key : String) (r : Reader σ) (hst : inv st)
      (hr : k.members st key = .ok r) : r.Yields inv := by
    unfold members at hr
    split at hr
    · cases hr
      exact (Reader.yields_true _).map fun _ _ => hst
    · next f hfind =>
      split at hr
      · cases hr
      · cases hr
        exact hfields f (List.mem_of_find?_eq_some hfind) st hst
  intro s
  change Yields p (k.readRecord s)
  unfold readRecord
  split
  · exact .error _
  split
  · unfold readTuple
    split
    · exact .error _
    · next st u hread =>
      have hst := readFields_yields hfields 0 hstart _ st u hread
      split
      · exact .error _
      · exact complete_yields (hfinish st · hst) _
  split
  · unfold readObject
    split
    · exact .error _
    · next st u hread =>
      have hst := readMembers_yields hmembers true hstart _ st u hread
      exact complete_yields (hfinish st · hst) _
  · exact refuse_yields _ _

theorem Field.of_yields {name : String} {get : σ → Option β} {set : σ → β → σ} {r : Reader β}
    {q : β → Prop} (h : r.Yields q) {st : σ} (hset : ∀ b, q b → inv (set st b)) :
    ((Field.of name get set r).reader st).Yields inv :=
  h.map hset

/-- A record is finished with a field only if the field has its value. -/
theorem need_bind_eq_ok_iff {field : String} {v? : Option β} {f : β → Except String α} {a : α} :
    (need field v? >>= f) = .ok a ↔ ∃ v, v? = some v ∧ f v = .ok a := by
  cases v? with
  | none =>
    constructor
    · intro h
      cases h
    · rintro ⟨v, h, -⟩
      cases h
  | some v =>
    constructor
    · intro h
      exact ⟨v, rfl, h⟩
    · rintro ⟨_, ⟨⟩, h⟩
      exact h

end Records

/-! ### Numbers -/

/-- Whether a power of ten is a number of at least four. -/
def divides (k : Nat) : Bool :=
  match Decimal.unpack (powerOfTen k) with
  | .finite _ m e _ => 2 ^ 52 ≤ m && -50 ≤ e
  | _ => false

theorem divides_of_lt : ∀ k < 23, 0 < k → divides k = true := by decide +kernel

theorem exists_unpack_of_pos {k : Nat} (hpos : 0 < k) (hlt : k < 309) :
    ∃ s m e hm, Decimal.unpack (powerOfTen k) = .finite s m e hm ∧ 2 ^ 52 ≤ m ∧ -50 ≤ e := by
  rcases Nat.lt_or_ge k 23 with hsmall | hgreat
  · have hdivides := divides_of_lt k hsmall hpos
    unfold divides at hdivides
    split at hdivides
    · next s m e hm hunpack =>
      simp only [Bool.and_eq_true, decide_eq_true_eq] at hdivides
      exact ⟨s, m, e, hm, hunpack, hdivides⟩
    · cases hdivides
  · obtain ⟨m, e, hm, hunpack, hlow, he, -⟩ := exists_unpack_powerOfTen hgreat hlt
    exact ⟨_, m, e, hm, hunpack, hlow, by omega⟩

theorem isFinite_powerOfTen {k : Nat} (h : k < 309) : (powerOfTen k).isFinite = true := by
  rcases Nat.eq_zero_or_pos k with rfl | hpos
  · decide +kernel
  · obtain ⟨s, m, e, hm, hunpack, -⟩ := exists_unpack_of_pos hpos h
    change (Decimal.unpack (powerOfTen k)).isFinite = true
    rw [hunpack]
    rfl

theorem isFinite_div_powerOfTen {x : Float} (hx : x.isFinite = true) {k : Nat} (hk : 0 < k)
    (hle : k ≤ 308) : (x / powerOfTen k).isFinite = true := by
  obtain ⟨s, m, e, hm, hunpack, hlow, he⟩ := exists_unpack_of_pos hk (Nat.lt_succ_of_le hle)
  exact Decimal.isFinite_div hx hunpack hlow he

theorem isFinite_divideByTens {x : Float} (hx : x.isFinite = true) {k : Nat} (hk : 0 < k) :
    (divideByTens x k).isFinite = true := by
  fun_induction divideByTens x k with
  | case1 x k hle => exact isFinite_div_powerOfTen hx hk hle
  | case2 => exact hx
  | case3 x k hgt _ ih => exact ih (isFinite_div_powerOfTen hx (by decide) le_rfl) (by omega)

theorem isFinite_of_scaled? {n : Nat} (hn : n < 2 ^ 64) {p : Int} {x : Float}
    (h : scaled? n p = some x) : x.isFinite = true := by
  have hfinite := Decimal.isFinite_ofNat hn
  cases p with
  | ofNat k =>
    rw [scaled?] at h
    split at h
    · next hle =>
      dsimp only at h
      split at h
      · cases h
      · next hinf =>
        cases h
        exact Decimal.isFinite_mul hfinite (isFinite_powerOfTen (Nat.lt_succ_of_le hle))
          (by simpa using hinf)
    · split at h
      · cases h
        exact hfinite
      · cases h
  | negSucc k =>
    cases h
    exact isFinite_divideByTens hfinite k.succ_pos

theorem gather_le {bound n : Nat} (hn : n ≤ bound) (ds : List Char) :
    (gather bound n ds).1 ≤ bound := by
  induction ds generalizing n with
  | nil => exact hn
  | cons d ds ih =>
    unfold gather
    split
    · next hle => exact ih hle
    · exact hn

theorem isFinite_signed (negative : Bool) {x : Float} (hx : x.isFinite = true) :
    (signed negative x).isFinite = true := by
  cases negative with
  | true => exact Decimal.isFinite_neg hx
  | false => exact hx

section Numbers

variable {negative : Bool} {n : Nat} (hn : n ≤ maxSignificand)

include hn

theorem scale_yields (power : Int) (rest : List Char) :
    Yields (·.isFinite = true) (scale negative n power rest) := by
  have hlt : n < 2 ^ 64 := Nat.lt_of_le_pred (by decide) hn
  unfold scale
  split
  · next x hx => exact .ok (isFinite_signed negative (isFinite_of_scaled? hlt hx))
  · exact .error _

theorem readExponent_yields (power : Int) (s : List Char) :
    Yields (·.isFinite = true) (readExponent negative n power s) := by
  unfold readExponent
  dsimp only
  split
  · exact .error _
  · exact .error _
  · split
    · exact scale_yields hn _ _
    · split
      · exact .error _
      · exact .ok (isFinite_signed negative (by decide +kernel))

theorem readRealTail_yields (power : Int) (s : List Char) :
    Yields (·.isFinite = true) (readRealTail negative n power s) := by
  unfold readRealTail
  split
  · exact readExponent_yields hn power _
  · exact readExponent_yields hn power _
  · exact scale_yields hn power _

theorem readFraction_yields (power : Int) (s : List Char) :
    Yields (·.isFinite = true) (readFraction negative n power s) := by
  unfold readFraction
  split
  · exact .error _
  · exact .error _
  · exact readRealTail_yields (gather_le hn _) _ _

theorem isFinite_wholeNumber : (wholeNumber negative n).toFloat.isFinite = true := by
  have hfinite := Decimal.isFinite_ofNat (Nat.lt_of_le_pred (by decide) hn : n < 2 ^ 64)
  unfold wholeNumber
  split
  · split
    · exact Decimal.isFinite_neg hfinite
    · exact Decimal.isFinite_neg hfinite
  · exact hfinite

theorem readTail_yields (dropped : Nat) (s : List Char) :
    Yields (·.toFloat.isFinite = true) (readTail negative n dropped s) := by
  unfold readTail
  split
  · exact (readFraction_yields hn _ _).map fun _ hx => hx
  · exact (readExponent_yields hn _ _).map fun _ hx => hx
  · exact (readExponent_yields hn _ _).map fun _ hx => hx
  · split
    · exact .ok (isFinite_wholeNumber hn)
    · exact (scale_yields hn _ _).map fun _ hx => hx

end Numbers

theorem readNumber_yields (negative : Bool) (s : List Char) :
    Yields (·.toFloat.isFinite = true) (readNumber negative s) := by
  unfold readNumber
  split
  · exact .error _
  · split
    · split
      · exact .error _
      · exact readTail_yields (Nat.zero_le _) 0 _
    · exact readTail_yields (Nat.zero_le _) 0 _
  · split
    · exact .error _
    · exact readTail_yields (gather_le (Nat.zero_le _) _) _ _

/-- **A number that is read is finite.** -/
theorem Reader.real_yields : Reader.real.Yields (·.isFinite = true) := by
  have hnumber : (Reader.number "f64").Yields (·.toFloat.isFinite = true) := by
    intro s
    change Json.Yields _ (readNumberAs "f64" s)
    unfold readNumberAs
    split
    · exact .error _
    split
    · exact readNumber_yields true _
    split
    · exact readNumber_yields false _
    · exact refuse_yields _ _
  exact hnumber.map fun _ h => h

end BenchReport.Json
