import BenchReport.Text.Utf8
import Mathlib.Data.List.Basic

/-!
# Mending and the bytes below 0x80

A byte below 0x80 is a character by itself, wherever it stands: no character of several bytes
holds one, whole or broken off, and none is one, since the bounds on the second byte rule out the
overlong forms. So such a byte cuts the mending in two. What stands before it is mended as if the
text ended there, what stands after it as if the text began there (`mend_append_cons`), and its
character comes from nowhere else (`mem_mend_iff`).
-/

namespace BenchReport.Text.Utf8

variable {b sep : UInt8} {l : Lead} {acc taken more n : Nat} {c : Char}

theorem toNat_ofNat (h : n.isValidChar) : (Char.ofNat n).toNat = n := by
  rw [Char.ofNat, dif_pos h]
  rfl

/-! ### Characters of several bytes -/

theorem not_isContinuation (h : sep < 0x80) : isContinuation sep = false := by
  rw [isContinuation, Bool.and_eq_false_iff, decide_eq_false_iff_not, UInt8.not_le]
  exact Or.inl h

/-- The least number with some bits in front, when so many bytes follow. -/
def leastOf : Nat → Nat → Nat
  | 0, acc => acc
  | more + 1, acc => leastOf more (acc * 64)

theorem leastOf_le_leastOf {acc acc' : Nat} (h : acc ≤ acc') :
    leastOf more acc ≤ leastOf more acc' := by
  induction more generalizing acc acc' with
  | zero => exact h
  | succ more ih => exact ih (Nat.mul_le_mul_right 64 h)

/-- What a character may be of which the first bytes are known. -/
theorem char?_continueFront (r : List UInt8) (h : (continueFront acc taken more r).char? = some c) :
    ∃ n, c = Char.ofNat n ∧ leastOf more acc ≤ n ∧ n < leastOf more (acc + 1) := by
  induction more generalizing acc taken r with
  | zero =>
    cases h
    exact ⟨acc, rfl, Nat.le_refl _, Nat.lt_succ_self _⟩
  | succ more ih =>
    cases r with
    | nil => cases h
    | cons b r =>
      rw [continueFront] at h
      split at h
      · next hb =>
        have hbit : b.toNat - 0x80 < 64 := by
          simp [isContinuation, UInt8.le_iff_toNat_le] at hb
          omega
        obtain ⟨n, hn, hlow, hhigh⟩ := ih r h
        have hleast : leastOf more (acc * 64) ≤ leastOf more (acc * 64 + (b.toNat - 0x80)) :=
          leastOf_le_leastOf (Nat.le_add_right _ _)
        have hmost : leastOf more (acc * 64 + (b.toNat - 0x80) + 1) ≤ leastOf more ((acc + 1) * 64) :=
          leastOf_le_leastOf (by omega)
        rw [leastOf, leastOf]
        exact ⟨n, hn, Nat.le_trans hleast hlow, Nat.lt_of_lt_of_le hhigh hmost⟩
      · cases h

/-- What holds of a row of the table of first bytes: the second byte is not below 0x80, and the
numbers that the first two bytes leave open are characters, none of them below 0x80. -/
structure Lead.Sound (l : Lead) : Prop where
  le_low : 0x80 ≤ l.low
  valid : ∀ n, leastOf l.more (l.bits * 64 + (l.low.toNat - 0x80)) ≤ n →
    n < leastOf l.more (l.bits * 64 + (l.high.toNat - 0x80) + 1) → n.isValidChar ∧ 0x80 ≤ n

theorem sound_of_lead? (h : lead? b = some l) : l.Sound := by
  simp only [lead?, Bool.and_eq_true, decide_eq_true_eq, beq_iff_eq, UInt8.le_iff_toNat_le,
    ← UInt8.toNat_inj] at h
  -- one case for each row
  repeat' split at h
  all_goals simp only [Option.some.injEq, reduceCtorEq] at h
  all_goals
    subst h
    refine ⟨by simp, fun n hlow hhigh => ?_⟩
    simp [leastOf] at *
    unfold Nat.isValidChar
    omega

theorem extra_continueFront_le (acc taken more : Nat) (r : List UInt8) :
    (continueFront acc taken more r).extra ≤ taken + r.length := by
  induction more generalizing acc taken r with
  | zero => exact Nat.le_add_right _ _
  | succ more ih =>
    cases r with
    | nil => exact Nat.le_refl _
    | cons b r =>
      rw [continueFront, List.length_cons]
      split
      · have hmore := ih (acc * 64 + (b.toNat - 0x80)) (taken + 1) r
        omega
      · exact Nat.le_add_right _ _

/-- A byte below 0x80 breaks a character off, as the end of the bytes does. -/
theorem continueFront_append_cons (h : sep < 0x80) (xs ys : List UInt8) :
    continueFront acc taken more (xs ++ sep :: ys) = continueFront acc taken more xs := by
  induction more generalizing acc taken xs with
  | zero => rfl
  | succ more ih =>
    cases xs with
    | nil =>
      rw [List.nil_append, continueFront, continueFront, not_isContinuation h]
      rfl
    | cons b xs => rw [List.cons_append, continueFront, continueFront, ih]

/-! ### What stands at the front -/

theorem front_of_lt (h : b < 0x80) (r : List UInt8) :
    front b r = ⟨some (Char.ofNat b.toNat), 0⟩ := by
  unfold front
  rw [if_pos h]

theorem extra_front_le (b : UInt8) (r : List UInt8) : (front b r).extra ≤ r.length := by
  unfold front
  split
  · exact Nat.zero_le _
  · split
    · exact Nat.zero_le _
    · exact Nat.zero_le _
    · split
      · rw [List.length_cons, Nat.add_comm _ 1]
        exact extra_continueFront_le _ _ _ _
      · exact Nat.zero_le _

/-- What stands at the front does not depend on what follows a byte below 0x80. -/
theorem front_append_cons (h : sep < 0x80) (b : UInt8) (xs ys : List UInt8) :
    front b (xs ++ sep :: ys) = front b xs := by
  by_cases hb : b < 0x80
  · rw [front_of_lt hb, front_of_lt hb]
  · unfold front
    rw [if_neg hb, if_neg hb]
    cases hl : lead? b with
    | none => rfl
    | some l =>
      cases xs with
      | nil =>
        have hsep : ¬ l.low ≤ sep :=
          UInt8.not_le.mpr (UInt8.lt_of_lt_of_le h (sound_of_lead? hl).le_low)
        simp [hsep]
      | cons c xs => simp only [List.cons_append, continueFront_append_cons h]

/-- What stands at the front after a byte that is not below 0x80 is no character below 0x80. -/
theorem le_toNat_front (hb : ¬ b < 0x80) (r : List UInt8) :
    0x80 ≤ ((front b r).char?.getD replacement).toNat := by
  cases hc : (front b r).char? with
  | none => decide
  | some c =>
    rw [Option.getD_some]
    unfold front at hc
    rw [if_neg hb] at hc
    split at hc
    · cases hc
    · cases hc
    · next l b' r hl =>
      split at hc
      · next hbounds =>
        simp only [Bool.and_eq_true, decide_eq_true_eq, UInt8.le_iff_toNat_le] at hbounds
        obtain ⟨n, rfl, hlow, hhigh⟩ := char?_continueFront r hc
        have hlow' : leastOf l.more (l.bits * 64 + (l.low.toNat - 0x80)) ≤ n :=
          Nat.le_trans (leastOf_le_leastOf (by omega)) hlow
        have hhigh' : n < leastOf l.more (l.bits * 64 + (l.high.toNat - 0x80) + 1) :=
          Nat.lt_of_lt_of_le hhigh (leastOf_le_leastOf (by omega))
        obtain ⟨hvalid, hn⟩ := (sound_of_lead? hl).valid n hlow' hhigh'
        rwa [toNat_ofNat hvalid]
      · cases hc

/-! ### Mending -/

theorem mend_cons (b : UInt8) (r : List UInt8) :
    mend (b :: r) = (front b r).char?.getD replacement :: mend (r.drop (front b r).extra) := by
  rw [mend]

theorem mend_eq_nil_iff {bytes : List UInt8} : mend bytes = [] ↔ bytes = [] := by
  cases bytes with
  | nil => exact iff_of_true (by rw [mend]) rfl
  | cons b r =>
    rw [mend_cons]
    exact iff_of_false (List.cons_ne_nil _ _) (List.cons_ne_nil _ _)

/-- A byte below 0x80 is a character by itself and cuts the mending in two. -/
theorem mend_append_cons (h : sep < 0x80) (xs ys : List UInt8) :
    mend (xs ++ sep :: ys) = mend xs ++ Char.ofNat sep.toNat :: mend ys := by
  induction hn : xs.length using Nat.strongRecOn generalizing xs with
  | ind n ih =>
    cases xs with
    | nil =>
      rw [List.nil_append, mend_cons, front_of_lt h, mend, List.nil_append]
      rfl
    | cons b xs =>
      have hless : (xs.drop (front b xs).extra).length < n := by
        rw [← hn, List.length_drop, List.length_cons]
        omega
      rw [List.cons_append, mend_cons, mend_cons, front_append_cons h,
        List.drop_append_of_le_length (extra_front_le b xs), ih _ hless _ rfl, List.cons_append]

theorem toNat_ofNat_toNat (h : b < 0x80) : (Char.ofNat b.toNat).toNat = b.toNat := by
  rw [UInt8.lt_iff_toNat_lt] at h
  exact toNat_ofNat (Or.inl (Nat.lt_trans h (by decide)))

/-- The character of a byte below 0x80 comes from that byte only. -/
theorem mem_mend_iff (h : sep < 0x80) {bytes : List UInt8} :
    Char.ofNat sep.toNat ∈ mend bytes ↔ sep ∈ bytes := by
  constructor
  · intro hmem
    induction hn : bytes.length using Nat.strongRecOn generalizing bytes with
    | ind n ih =>
      cases bytes with
      | nil =>
        rw [mend] at hmem
        cases hmem
      | cons b r =>
        have hless : (r.drop (front b r).extra).length < n := by
          rw [← hn, List.length_drop, List.length_cons]
          omega
        rw [mend_cons, List.mem_cons] at hmem
        rcases hmem with hhead | htail
        · have hcode := congrArg Char.toNat hhead
          rw [toNat_ofNat_toNat h] at hcode
          by_cases hb : b < 0x80
          · rw [front_of_lt hb, Option.getD_some, toNat_ofNat_toNat hb] at hcode
            rw [UInt8.toNat_inj.mp hcode]
            exact List.mem_cons_self
          · have hge := le_toNat_front hb r
            rw [← hcode] at hge
            exact absurd (UInt8.lt_iff_toNat_lt.mp h) (Nat.not_lt.mpr hge)
        · exact List.mem_cons_of_mem b (List.mem_of_mem_drop (ih _ hless htail rfl))
  · intro hmem
    obtain ⟨xs, ys, rfl, -⟩ := List.eq_append_cons_of_mem hmem
    rw [mend_append_cons h]
    exact List.mem_append_right _ List.mem_cons_self

end BenchReport.Text.Utf8
