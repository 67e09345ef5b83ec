/-
Texts come in the order of their bytes.

The first byte of a character says how many there are, and more for longer ones, so a character with
a smaller code has smaller bytes, whatever follows.

* `Text.utf8EncodeChar_lt` — the bytes of a smaller character;
* `Text.encode_lt` — the bytes of a smaller text.
-/
import TestTelemetry.Proofs.Text.Utf8

namespace TestTelemetry.Text

variable {l r : List UInt8}

/-- Bytes come before others with a larger byte in front, or with the same and a larger rest. -/
theorem byte_cons_lt {m n : Nat} (hn : n < 256) (hle : m ≤ n) (hrest : m = n → l < r) :
    UInt8.ofNat m :: l < UInt8.ofNat n :: r := by
  rw [List.cons_lt_cons_iff]
  rcases Nat.lt_or_eq_of_le hle with hlt | rfl
  · left
    rw [UInt8.lt_iff_toNat_lt, UInt8.toNat_ofNat', UInt8.toNat_ofNat']
    omega
  · exact .inr ⟨rfl, hrest rfl⟩

theorem byte_lt {m n : Nat} (hn : n < 256) (hlt : m < n) :
    UInt8.ofNat m :: l < UInt8.ofNat n :: r :=
  byte_cons_lt hn hlt.le fun heq => absurd heq hlt.ne

/-- The bytes of a smaller character come before, whatever follows. -/
theorem utf8EncodeChar_lt {c d : Char} (h : c < d) (l r : List UInt8) :
    String.utf8EncodeChar c ++ l < String.utf8EncodeChar d ++ r := by
  have hvalid : d.toNat < 0x110000 := by
    have hd : d.toNat < 0xD800 ∨ (0xDFFF < d.toNat ∧ d.toNat < 0x110000) := d.valid
    omega
  have hlt : c.toNat < d.toNat := h
  rw [String.utf8EncodeChar, String.utf8EncodeChar, show c.val.toNat = c.toNat from rfl,
    show d.val.toNat = d.toNat from rfl]
  generalize c.toNat = v at hlt ⊢
  generalize d.toNat = w at hlt hvalid ⊢
  -- Characters with as many bytes are compared byte by byte; else the first byte decides.
  split
  case isTrue hv =>
    split
    case isTrue hw => exact byte_lt (by omega) (by omega)
    case isFalse hw =>
      split
      · exact byte_lt (by omega) (by omega)
      · split <;> exact byte_lt (by omega) (by omega)
  case isFalse hv =>
    rw [if_neg (by omega : ¬ w ≤ 127)]
    split
    case isTrue hv' =>
      split
      case isTrue hw =>
        exact byte_cons_lt (by omega) (by omega) fun _ => byte_lt (by omega) (by omega)
      case isFalse hw => split <;> exact byte_lt (by omega) (by omega)
    case isFalse hv' =>
      rw [if_neg (by omega : ¬ w ≤ 2047)]
      split
      case isTrue hv'' =>
        split
        case isTrue hw =>
          exact byte_cons_lt (by omega) (by omega) fun _ =>
            byte_cons_lt (by omega) (by omega) fun _ => byte_lt (by omega) (by omega)
        case isFalse hw => exact byte_lt (by omega) (by omega)
      case isFalse hv'' =>
        rw [if_neg (by omega : ¬ w ≤ 65535)]
        exact byte_cons_lt (by omega) (by omega) fun _ =>
          byte_cons_lt (by omega) (by omega) fun _ =>
            byte_cons_lt (by omega) (by omega) fun _ => byte_lt (by omega) (by omega)

/-- **The bytes of a smaller text come before.** -/
theorem encode_lt {s t : String} (h : s < t) : encode s < encode t := by
  have hlex : List.Lex (· < ·) s.toList t.toList := String.lt_iff.mp h
  rw [← String.ofList_toList (s := s), ← String.ofList_toList (s := t), encode_ofList, encode_ofList]
  generalize s.toList = cs at hlex ⊢
  generalize t.toList = ds at hlex ⊢
  induction hlex with
  | nil =>
    rw [List.flatMap_nil, List.flatMap_cons]
    cases hbytes : String.utf8EncodeChar _ with
    | nil => exact absurd hbytes String.utf8EncodeChar_ne_nil
    | cons b bytes => exact List.nil_lt_cons ..
  | cons _ ih =>
    rw [List.flatMap_cons, List.flatMap_cons]
    exact List.append_left_lt ih
  | rel hlt =>
    rw [List.flatMap_cons, List.flatMap_cons]
    exact utf8EncodeChar_lt hlt ..

end TestTelemetry.Text
