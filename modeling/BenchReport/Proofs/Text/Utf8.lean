import BenchReport.Proofs.Text.Mending
import Mathlib.Tactic.IntervalCases

/-!
# Encoding and decoding

The bytes of a text are valid, and they are read as the text again (`decode?_encode`), also by the
reader that mends (`mend_encode`). Texts are ordered as their bytes are (`encode_lt_encode`).
-/

namespace BenchReport.Text.Utf8

variable {acc taken more n m : Nat}

theorem toNat_continuation (h : n < 64) : (UInt8.ofNat (n + 0x80)).toNat = n + 0x80 := by
  rw [UInt8.toNat_ofNat']
  omega

theorem continueFront_cons (h : n < 64) (r : List UInt8) :
    continueFront acc taken (more + 1) (UInt8.ofNat (n + 0x80) :: r)
      = continueFront (acc * 64 + n) (taken + 1) more r := by
  have hcontinues : isContinuation (UInt8.ofNat (n + 0x80)) = true := by
    simp only [isContinuation, Bool.and_eq_true, decide_eq_true_eq, UInt8.le_iff_toNat_le,
      toNat_continuation h]
    exact ⟨Nat.le_add_left 0x80 n, Nat.add_le_add_right (Nat.le_of_lt_succ h) 0x80⟩
  rw [continueFront, if_pos hcontinues, toNat_continuation h, Nat.add_sub_cancel]

/-- A first byte with a second byte in its bounds. -/
theorem front_of_lead? {b : UInt8} {low high : UInt8} {bits : Nat} (hb : 0x80 ≤ b.toNat)
    (hlead : lead? b = some ⟨low, high, more, bits⟩) (hm : m < 64) (hlow : low.toNat ≤ m + 0x80)
    (hhigh : m + 0x80 ≤ high.toNat) (r : List UInt8) :
    front b (UInt8.ofNat (m + 0x80) :: r) = continueFront (bits * 64 + m) 1 more r := by
  have hlarge : ¬b < 0x80 := by
    rw [UInt8.lt_iff_toNat_lt]
    exact Nat.not_lt.mpr hb
  have hbounds : (low ≤ UInt8.ofNat (m + 0x80) && UInt8.ofNat (m + 0x80) ≤ high) = true := by
    simp only [Bool.and_eq_true, decide_eq_true_eq, UInt8.le_iff_toNat_le, toNat_continuation hm]
    exact ⟨hlow, hhigh⟩
  simp only [front, if_neg hlarge, hlead, if_pos hbounds, toNat_continuation hm,
    Nat.add_sub_cancel]

theorem lead?_two (hlow : 2 ≤ n) (hhigh : n < 32) :
    lead? (UInt8.ofNat (n + 0xC0)) = some ⟨0x80, 0xBF, 0, n⟩ := by
  interval_cases n <;> rfl

theorem lead?_three (h : n < 16) :
    lead? (UInt8.ofNat (n + 0xE0))
      = some ⟨if n = 0 then 0xA0 else 0x80, if n = 13 then 0x9F else 0xBF, 1, n⟩ := by
  interval_cases n <;> rfl

theorem lead?_four (h : n < 5) :
    lead? (UInt8.ofNat (n + 0xF0))
      = some ⟨if n = 0 then 0x90 else 0x80, if n = 4 then 0x8F else 0xBF, 2, n⟩ := by
  interval_cases n <;> rfl

theorem front_one (h : n ≤ 0x7F) (r : List UInt8) :
    front (UInt8.ofNat n) r = ⟨some (Char.ofNat n), 0⟩ := by
  have htoNat : (UInt8.ofNat n).toNat = n := by
    rw [UInt8.toNat_ofNat']
    omega
  have hsmall : UInt8.ofNat n < 0x80 := by
    rw [UInt8.lt_iff_toNat_lt, htoNat]
    exact Nat.lt_succ_of_le h
  unfold front
  rw [if_pos hsmall, htoNat]

theorem front_two (hlow : 0x7F < n) (hhigh : n ≤ 0x7FF) (r : List UInt8) :
    front (UInt8.ofNat (n / 64 % 32 + 0xC0)) (UInt8.ofNat (n % 64 + 0x80) :: r)
      = ⟨some (Char.ofNat n), 1⟩ := by
  have hlead := lead?_two (n := n / 64 % 32) (by omega) (by omega)
  have hn : n / 64 % 32 * 64 + n % 64 = n := by omega
  rw [front_of_lead? (by rw [UInt8.toNat_ofNat']; omega) hlead (by omega) (by simp)
    (by simp; omega), continueFront, hn]

theorem front_three (hlow : 0x7FF < n) (hhigh : n ≤ 0xFFFF) (hvalid : n.isValidChar)
    (r : List UInt8) :
    front (UInt8.ofNat (n / 4096 % 16 + 0xE0))
        (UInt8.ofNat (n / 64 % 64 + 0x80) :: UInt8.ofNat (n % 64 + 0x80) :: r)
      = ⟨some (Char.ofNat n), 2⟩ := by
  have hlead := lead?_three (n := n / 4096 % 16) (by omega)
  have hn : (n / 4096 % 16 * 64 + n / 64 % 64) * 64 + n % 64 = n := by omega
  have hsecond : (if n / 4096 % 16 = 0 then (0xA0 : UInt8) else 0x80).toNat
      ≤ n / 64 % 64 + 0x80 := by
    split <;> simp; omega
  have hsecond' : n / 64 % 64 + 0x80
      ≤ (if n / 4096 % 16 = 13 then (0x9F : UInt8) else 0xBF).toNat := by
    unfold Nat.isValidChar at hvalid
    split <;> simp <;> omega
  rw [front_of_lead? (by rw [UInt8.toNat_ofNat']; omega) hlead (by omega) hsecond hsecond',
    continueFront_cons (by omega), continueFront, hn]

theorem front_four (hlow : 0xFFFF < n) (hvalid : n.isValidChar) (r : List UInt8) :
    front (UInt8.ofNat (n / 262144 % 8 + 0xF0)) (UInt8.ofNat (n / 4096 % 64 + 0x80) ::
        UInt8.ofNat (n / 64 % 64 + 0x80) :: UInt8.ofNat (n % 64 + 0x80) :: r)
      = ⟨some (Char.ofNat n), 3⟩ := by
  unfold Nat.isValidChar at hvalid
  have hlead := lead?_four (n := n / 262144 % 8) (by omega)
  have hn : ((n / 262144 % 8 * 64 + n / 4096 % 64) * 64 + n / 64 % 64) * 64 + n % 64 = n := by omega
  have hsecond : (if n / 262144 % 8 = 0 then (0x90 : UInt8) else 0x80).toNat
      ≤ n / 4096 % 64 + 0x80 := by
    split <;> simp; omega
  have hsecond' : n / 4096 % 64 + 0x80
      ≤ (if n / 262144 % 8 = 4 then (0x8F : UInt8) else 0xBF).toNat := by
    split <;> simp <;> omega
  rw [front_of_lead? (by rw [UInt8.toNat_ofNat']; omega) hlead (by omega) hsecond hsecond',
    continueFront_cons (by omega), continueFront_cons (by omega), continueFront, hn]

/-- What stands at the front of the bytes of a character is this character. -/
theorem front_utf8EncodeChar (c : Char) (rest : List UInt8) :
    ∃ b r, String.utf8EncodeChar c = b :: r ∧ front b (r ++ rest) = ⟨some c, r.length⟩ := by
  have hchar : Char.ofNat c.val.toNat = c := Char.ofNat_toNat c
  by_cases hone : c.val.toNat ≤ 0x7F
  · refine ⟨_, [], if_pos hone, ?_⟩
    rw [List.nil_append, front_one hone, hchar]
    rfl
  by_cases htwo : c.val.toNat ≤ 0x7FF
  · refine ⟨_, [_], (if_neg hone).trans (if_pos htwo), ?_⟩
    rw [List.singleton_append, front_two (Nat.lt_of_not_le hone) htwo, hchar]
    rfl
  by_cases hthree : c.val.toNat ≤ 0xFFFF
  · refine ⟨_, [_, _], (if_neg hone).trans ((if_neg htwo).trans (if_pos hthree)), ?_⟩
    rw [List.cons_append, List.singleton_append,
      front_three (Nat.lt_of_not_le htwo) hthree c.valid, hchar]
    rfl
  · refine ⟨_, [_, _, _], (if_neg hone).trans ((if_neg htwo).trans (if_neg hthree)), ?_⟩
    rw [List.cons_append, List.cons_append, List.singleton_append,
      front_four (Nat.lt_of_not_le hthree) c.valid, hchar]
    rfl

/-- The bytes of a text start with those of its first character. -/
theorem exists_encode_cons (c : Char) (s : List Char) :
    ∃ b r, encode (c :: s) = b :: (r ++ encode s) ∧
      front b (r ++ encode s) = ⟨some c, r.length⟩ := by
  obtain ⟨b, r, hbytes, hfront⟩ := front_utf8EncodeChar c (encode s)
  refine ⟨b, r, ?_, hfront⟩
  rw [encode, List.flatMap_cons, hbytes]
  rfl

/-- **A text is read back from its bytes.** -/
theorem decode?_encode (s : List Char) : decode? (encode s) = some s := by
  induction s with
  | nil => simp [encode, decode?]
  | cons c s ih =>
    obtain ⟨b, r, hencode, hfront⟩ := exists_encode_cons c s
    rw [hencode, decode?, hfront, List.drop_left, ih]

/-- There is nothing to mend in the bytes of a text. -/
theorem mend_encode (s : List Char) : mend (encode s) = s := by
  induction s with
  | nil => simp [encode, mend]
  | cons c s ih =>
    obtain ⟨b, r, hencode, hfront⟩ := exists_encode_cons c s
    rw [hencode, mend_cons, hfront, List.drop_left, ih, Option.getD_some]

/-! ### Order -/

/-- Bytes that are given by numbers are ordered by them. -/
theorem ofNat_cons_lt_iff {a b : Nat} (ha : a < 256) (hb : b < 256) (r r' : List UInt8) :
    UInt8.ofNat a :: r < UInt8.ofNat b :: r' ↔ a < b ∨ a = b ∧ r < r' := by
  rw [List.cons_lt_cons_iff, UInt8.lt_iff_toNat_lt, ← UInt8.toNat_inj, UInt8.toNat_ofNat',
    UInt8.toNat_ofNat', Nat.mod_eq_of_lt ha, Nat.mod_eq_of_lt hb]

/-- The bytes of a lesser character are less, whatever follows. -/
theorem utf8EncodeChar_append_lt {c d : Char} (h : c < d) (r r' : List UInt8) :
    String.utf8EncodeChar c ++ r < String.utf8EncodeChar d ++ r' := by
  have hlt : c.val.toNat < d.val.toNat := UInt32.lt_iff_toNat_lt.mp (Char.lt_def.mp h)
  have hvalid : d.val.toNat < 0x110000 := by
    have := d.valid
    simp only [UInt32.isValidChar, Nat.isValidChar] at this
    omega
  unfold String.utf8EncodeChar
  generalize c.val.toNat = n at hlt ⊢
  generalize d.val.toNat = m at hlt hvalid ⊢
  have hn : n / 4096 = n / 64 / 64 ∧ n / 262144 % 8 = n / 64 / 64 / 64 := by omega
  have hm : m / 4096 = m / 64 / 64 ∧ m / 262144 % 8 = m / 64 / 64 / 64 := by omega
  dsimp only
  split_ifs <;>
    simp (disch := omega) only [List.cons_append, List.nil_append, ofNat_cons_lt_iff]
  all_goals omega

/-- **The order of texts is that of their bytes.** -/
theorem encode_lt_encode {s t : List Char} (h : s < t) : encode s < encode t := by
  induction s generalizing t with
  | nil =>
    cases t with
    | nil => exact absurd h (List.lt_irrefl _)
    | cons d t =>
      obtain ⟨b, r, hbytes, -⟩ := front_utf8EncodeChar d []
      rw [encode, encode, List.flatMap_nil, List.flatMap_cons, hbytes]
      exact List.nil_lt_cons ..
  | cons c s ih =>
    cases t with
    | nil => exact absurd h (List.not_lt_nil _)
    | cons d t =>
      rw [encode, encode, List.flatMap_cons, List.flatMap_cons]
      rcases List.cons_lt_cons_iff.mp h with hlt | ⟨rfl, htail⟩
      · exact utf8EncodeChar_append_lt hlt _ _
      · exact List.append_left_lt (ih htail)

end BenchReport.Text.Utf8
