/-
Bytes that are texts, and bytes that are not.

A text is read from its bytes and shown as it is.  Bytes that are no text are shown with other
characters, but their lines end where they are shown to end.

* `RawText.text?_ofText`, `RawText.display_ofText` — a text is read back and shown as it is;
* `RawText.ofText_injective` — texts are told apart by their bytes;
* `RawText.newline_mem_display_iff` — a newline is shown where there is one;
* the order of bytes is a linear one.
-/
import TestTelemetry.Proofs.Text.Lossy
import TestTelemetry.Proofs.Text.Utf8
import TestTelemetry.Text.Raw

namespace TestTelemetry.RawText

@[simp]
theorem text?_ofText (s : String) : (ofText s).text? = some s := by
  have hread := Text.decode?_encode s.toList
  rw [String.ofList_toList] at hread
  rw [text?, ofText, hread, Option.map_some, String.ofList_toList]

@[simp]
theorem display_ofText (s : String) : (ofText s).display = s := display_of_text? (text?_ofText s)

theorem ofText_injective {s s' : String} (h : ofText s = ofText s') : s = s' := by
  rw [← display_ofText s, h, display_ofText]

/-- A text is told by what is shown of it. -/
theorem ofText_display {r : RawText} (h : ∃ s, r = ofText s) : ofText r.display = r := by
  obtain ⟨s, rfl⟩ := h
  rw [display_ofText]

theorem newline_mem_display_iff {r : RawText} : '\n' ∈ r.display.toList ↔ 10 ∈ r.bytes := by
  rw [display, String.toList_ofList, Text.newline_mem_decodeLossy_iff]

/-! ### The order of bytes -/

instance : Std.TransOrd RawText where
  eq_swap {a b} := Std.OrientedOrd.eq_swap (a := a.bytes) (b := b.bytes)
  isLE_trans {a b c} hab hbc :=
    Std.TransOrd.isLE_trans (a := a.bytes) (b := b.bytes) (c := c.bytes) hab hbc

instance : Std.LawfulEqOrd RawText where
  compare_self {a} := Std.ReflOrd.compare_self (a := a.bytes)
  eq_of_compare {a _} h := congrArg RawText.mk (Std.LawfulEqOrd.eq_of_compare (a := a.bytes) h)

end TestTelemetry.RawText
