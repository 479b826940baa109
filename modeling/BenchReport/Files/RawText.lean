import BenchReport.Text.Utf8

/-!
# Raw texts

Names and paths as a file system keeps them: as bytes, of which only the slash and the dot mean
something, and which need not be a text in any encoding. A path that is given as a text is the
bytes of this text. To be shown, a raw text is mended, so two that are different can be shown alike.
-/

namespace BenchReport.Files

/-- A name or a path, as the bytes that a file system keeps of it. -/
structure RawText where
  /-- The bytes. -/
  bytes : List UInt8
  deriving Repr, DecidableEq

namespace RawText

/-- The byte between the names of a path. -/
@[match_pattern] abbrev slash : UInt8 := 0x2F

/-- The byte before an extension. -/
@[match_pattern] abbrev dot : UInt8 := 0x2E

/-- The byte that no path may have. -/
abbrev nul : UInt8 := 0

/-- The bytes of a text. -/
def ofText (s : String) : RawText := ⟨Text.Utf8.encode s.toList⟩

instance : Coe String RawText := ⟨ofText⟩

instance : Append RawText := ⟨fun a b => ⟨a.bytes ++ b.bytes⟩⟩

instance : LE RawText := ⟨fun a b => a.bytes ≤ b.bytes⟩

instance : LT RawText := ⟨fun a b => a.bytes < b.bytes⟩

instance (a b : RawText) : Decidable (a ≤ b) := inferInstanceAs (Decidable (a.bytes ≤ b.bytes))

instance (a b : RawText) : Decidable (a < b) := inferInstanceAs (Decidable (a.bytes < b.bytes))

/-- A raw text as it is shown. -/
def shown (r : RawText) : String := String.ofList (Text.Utf8.mend r.bytes)

@[simp] theorem bytes_append (a b : RawText) : (a ++ b).bytes = a.bytes ++ b.bytes := rfl

example : shown ⟨[0xFF, dot, 0x74]⟩ = shown ⟨[0xFE, dot, 0x74]⟩ := by decide +kernel

end RawText

end BenchReport.Files
