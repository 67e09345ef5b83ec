/-
Texts as the system hands them out.

The names of files and the paths to them are bytes, which need not be UTF-8.  They are told apart
and ordered by their bytes; where they are shown, U+FFFD stands for what is no text.

* `RawText.ofText` — a text as bytes;
* `RawText.text?` — the text, if the bytes are one;
* `RawText.display` — what is shown of the bytes;
* `RawText.display_of_text?` — a text is shown as it is.
-/
import TestTelemetry.Text.Utf8

namespace TestTelemetry

/-- Bytes that stand for a text. -/
structure RawText where
  bytes : List UInt8
deriving DecidableEq, Repr

namespace RawText

def ofText (s : String) : RawText := ⟨Text.encode s⟩

instance : Coe String RawText := ⟨ofText⟩

instance : Ord RawText := ⟨fun a b => compare a.bytes b.bytes⟩

/-- The text that the bytes are. -/
def text? (r : RawText) : Option String := (Text.decode? r.bytes).map String.ofList

/-- The bytes with U+FFFD for what is no text. -/
def display (r : RawText) : String := String.ofList (Text.decodeLossy r.bytes)

theorem display_of_text? {r : RawText} {s : String} (h : r.text? = some s) : r.display = s := by
  obtain ⟨cs, hcs, rfl⟩ := Option.map_eq_some_iff.mp h
  rw [display, Text.decodeLossy_of_decode? hcs]

end RawText

end TestTelemetry
