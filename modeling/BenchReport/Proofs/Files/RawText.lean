import BenchReport.Files.RawText
import BenchReport.Proofs.Text.Utf8

/-!
# The order of raw texts, and what is shown of them

Raw texts are ordered by their bytes. Those that are texts are ordered as these are, are different
if these are, and are shown as they are (`shown_ofText`). What is shown of others does not tell them
apart.
-/

namespace BenchReport.Files.RawText

@[simp] theorem eq_empty_iff {r : RawText} : r = "" ↔ r.bytes = [] := by
  obtain ⟨bytes⟩ := r
  exact iff_of_eq (mk.injEq bytes [])

/-! ### Order -/

instance : Std.IsLinearOrder RawText where
  le_refl a := Std.le_refl (a := a.bytes)
  le_trans a b c := Std.le_trans (a := a.bytes) (b := b.bytes) (c := c.bytes)
  le_antisymm := by
    rintro ⟨a⟩ ⟨b⟩ hab hba
    exact congrArg mk (List.le_antisymm hab hba)
  le_total a b := List.le_total a.bytes b.bytes

instance : Std.LawfulOrderLT RawText where
  lt_iff a b := Std.LawfulOrderLT.lt_iff a.bytes b.bytes

/-! ### Texts -/

theorem ofText_injective : Function.Injective ofText := by
  intro s t h
  have hchars : some s.toList = some t.toList := by
    rw [← Text.Utf8.decode?_encode, ← Text.Utf8.decode?_encode]
    exact congrArg (fun r => Text.Utf8.decode? r.bytes) h
  exact String.toList_inj.mp (Option.some.inj hchars)

/-- The order of texts is that of their bytes. -/
theorem ofText_lt_ofText_iff {s t : String} : ofText s < ofText t ↔ s < t := by
  constructor
  · intro h
    by_contra hle
    by_cases heq : t = s
    · exact Std.lt_irrefl (heq ▸ h)
    · have hlt : t < s := Std.lt_of_le_of_ne (String.not_lt.mp hle) heq
      exact Std.lt_irrefl (Std.lt_trans h (Text.Utf8.encode_lt_encode hlt))
  · intro h
    exact Text.Utf8.encode_lt_encode h

/-- A text is shown as it is. -/
@[simp] theorem shown_ofText (s : String) : (ofText s).shown = s := by
  rw [shown, ofText, Text.Utf8.mend_encode, String.ofList_toList]

/-- Whether a raw text is a text, which is then what is shown of it. -/
def IsText (r : RawText) : Prop := r = r.shown

instance (r : RawText) : Decidable r.IsText := inferInstanceAs (Decidable (_ = _))

/-- What is shown of texts stands in their order. -/
theorem IsText.shown_lt_shown {a b : RawText} (ha : a.IsText) (hb : b.IsText) (h : a < b) :
    a.shown < b.shown := by
  rw [ha, hb] at h
  exact ofText_lt_ofText_iff.mp h

end BenchReport.Files.RawText
