/-
Strings survive their quotes.

A character stands for itself between quotes, or it is escaped by a letter, or by its number.

* `Json.escapeChar_cases` — how a character is escaped;
* `Json.unescape_escape` — an escaped text stands for the text that was escaped;
* `Json.Escape.follow_escape` — it is read to its end without leaving the quotes.
-/
import TestTelemetry.Json.Reader

namespace TestTelemetry.Json

/-- How a character is escaped: by a letter, by its number, or not at all. -/
theorem escapeChar_cases (c : Char) :
    (∃ letter, escapeChar c = ['\\', letter] ∧ letter ≠ 'u' ∧ escaped? letter = some c) ∨
    (c.toNat < 32 ∧ escapeChar c =
      ['\\', 'u', '0', '0', hexDigit (c.toNat / 16), hexDigit (c.toNat % 16)]) ∨
    (escapeChar c = [c] ∧ c ≠ '"' ∧ c ≠ '\\' ∧ 32 ≤ c.toNat) := by
  have hcode : ∀ {n}, c.toNat = n → Char.ofNat n = c := fun h => h ▸ Char.ofNat_toNat c
  unfold escapeChar
  split
  case isTrue h => exact .inl ⟨'"', rfl, by decide, by rw [h]; rfl⟩
  case isFalse hquote =>
  split
  case isTrue h => exact .inl ⟨'\\', rfl, by decide, by rw [h]; rfl⟩
  case isFalse hbackslash =>
  split
  case isTrue h => exact .inl ⟨'b', rfl, by decide, congrArg some (hcode h)⟩
  split
  case isTrue h => exact .inl ⟨'t', rfl, by decide, congrArg some (hcode h)⟩
  split
  case isTrue h => exact .inl ⟨'n', rfl, by decide, congrArg some (hcode h)⟩
  split
  case isTrue h => exact .inl ⟨'f', rfl, by decide, congrArg some (hcode h)⟩
  split
  case isTrue h => exact .inl ⟨'r', rfl, by decide, congrArg some (hcode h)⟩
  split
  case isTrue h => exact .inr (.inl ⟨h, rfl⟩)
  case isFalse h => exact .inr (.inr ⟨rfl, hquote, hbackslash, Nat.le_of_not_lt h⟩)

theorem hexValue4?_control : ∀ n < 32,
    hexValue4? '0' '0' (hexDigit (n / 16)) (hexDigit (n % 16)) = some n := by
  decide

/-- An escaped character stands for the character that was escaped. -/
theorem unescape_escapeChar (c : Char) (rest : List Char) :
    unescape (escapeChar c ++ rest) = (unescape rest).map (c :: ·) := by
  obtain ⟨letter, hc, hu, hletter⟩ | ⟨hsmall, hc⟩ | ⟨hc, -, hbackslash, -⟩ := escapeChar_cases c
  · rw [hc]
    simp [unescape, hletter, hu]
  · rw [hc]
    simp only [List.cons_append, List.nil_append, unescape, hexValue4?_control _ hsmall]
    -- A number below 32 is no half of a surrogate pair.
    rw [if_neg (by omega), if_neg (by omega), Char.ofNat_toNat]
  · rw [hc]
    simp [unescape, hbackslash]

/-- **An escaped text stands for the text that was escaped.** -/
theorem unescape_escape (cs : List Char) : unescape (escape cs) = some cs := by
  induction cs with
  | nil => simp [escape, unescape]
  | cons c cs ih => rw [escape, unescape_escapeChar, ih, Option.map_some]

namespace Escape

/-- Where in an escape a quoted text is after some more characters, if it goes on that far. -/
def follow (e : Escape) : List Char → Option Escape
  | [] => some e
  | c :: cs =>
    match e.next c with
    | .more e' => e'.follow cs
    | _ => none

theorem follow_append (e : Escape) (cs ds : List Char) :
    e.follow (cs ++ ds) = (e.follow cs).bind (·.follow ds) := by
  induction cs generalizing e with
  | nil => rfl
  | cons c cs ih =>
    rw [List.cons_append, follow, follow]
    cases e.next c with
    | more e' => exact ih e'
    | close => rfl
    | bad => rfl

theorem follow_control : ∀ n < 32,
    plain.follow ['\\', 'u', '0', '0', hexDigit (n / 16), hexDigit (n % 16)] = some plain := by
  decide

theorem follow_escapeChar (c : Char) : plain.follow (escapeChar c) = some plain := by
  obtain ⟨letter, hc, hu, hletter⟩ | ⟨hsmall, hc⟩ | ⟨hc, hquote, hbackslash, hcode⟩ :=
    escapeChar_cases c
  · rw [hc]
    simp [follow, next, hu, hletter]
  · rw [hc]
    exact follow_control _ hsmall
  · rw [hc]
    simp [follow, next, hquote, hbackslash, Nat.not_lt.mpr hcode]

/-- An escaped text is read to its end without leaving the quotes. -/
theorem follow_escape (cs : List Char) : plain.follow (escape cs) = some plain := by
  induction cs with
  | nil => rfl
  | cons c cs ih => rw [escape, follow_append, follow_escapeChar, Option.bind_some, ih]

end Escape

end TestTelemetry.Json
