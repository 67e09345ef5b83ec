/-
Text survives its bytes.

* `Text.encode_ofList` — the bytes of a text are those of its characters, one after the other;
* `Text.decodePieces_encodeChar` — the bytes of a character are read as that character;
* `Text.decode?_encode` — the bytes of a text are read as that text;
* `Text.ascii_mem_encodeChar`, `Text.endedPieces_encode` — a byte of ASCII is only in its own
  character, so bytes are cut into lines as the text is.
-/
import TestTelemetry.Proofs.Data.Pieces
import TestTelemetry.Text.Utf8
import Mathlib.Tactic.IntervalCases

namespace TestTelemetry.Text

/-! ### The bytes of a text -/

/-- The bytes that are still to be gathered come after those that were. -/
theorem toList_loop_eq (bytes : ByteArray) (i : Nat) (gathered : List UInt8) :
    ByteArray.toList.loop bytes i gathered = gathered.reverse ++ bytes.data.toList.drop i := by
  fun_induction ByteArray.toList.loop bytes i gathered with
  | case1 i gathered hi ih =>
    have hlength : i < bytes.data.toList.length := by simpa using hi
    rw [ih, List.drop_eq_getElem_cons hlength]
    simp [ByteArray.get!, hi]
  | case2 i gathered hi =>
    rw [List.drop_eq_nil_of_le (by simpa using Nat.le_of_not_lt hi)]
    simp

theorem encode_ofList (cs : List Char) :
    encode (String.ofList cs) = cs.flatMap String.utf8EncodeChar := by
  rw [encode, String.toByteArray_ofList, ByteArray.toList, toList_loop_eq, List.utf8Encode,
    List.toList_data_toByteArray]
  rfl

theorem encode_append (cs ds : List Char) :
    encode (String.ofList (cs ++ ds)) = encode (String.ofList cs) ++ encode (String.ofList ds) := by
  simp only [encode_ofList, List.flatMap_append]

/-! ### One character -/

section Bytes

variable {n value : Nat} {low high : UInt8} (rest : List UInt8)

theorem startByte_two (hlow : 2 ≤ n) (hhigh : n < 32) :
    startByte (UInt8.ofNat (n + 0xC0)) = ([], some ⟨1, n, 0x80, 0xBF⟩) := by
  interval_cases n <;> rfl

theorem startByte_three (hn : n < 16) :
    startByte (UInt8.ofNat (n + 0xE0)) =
      ([], some ⟨2, n, if n = 0 then 0xA0 else 0x80, if n = 0xD then 0x9F else 0xBF⟩) := by
  interval_cases n <;> rfl

theorem startByte_four (hn : n < 5) :
    startByte (UInt8.ofNat (n + 0xF0)) =
      ([], some ⟨3, n, if n = 0 then 0x90 else 0x80, if n = 4 then 0x8F else 0xBF⟩) := by
  interval_cases n <;> rfl

theorem decodePieces_lead {b : UInt8} {p : Pending} (h : startByte b = ([], some p)) :
    decodePieces none (b :: rest) = decodePieces (some p) rest := by
  rw [decodePieces, readByte, h]
  rfl

/-- A byte in the range that is wanted adds six bits. -/
theorem inRange (hn : n < 64) (hlow : low.toNat ≤ n + 0x80) (hhigh : n + 0x80 ≤ high.toNat) :
    (low ≤ UInt8.ofNat (n + 0x80) && UInt8.ofNat (n + 0x80) ≤ high) = true ∧
      (UInt8.ofNat (n + 0x80)).toNat - 0x80 = n := by
  have hbyte : (UInt8.ofNat (n + 0x80)).toNat = n + 0x80 := by
    rw [UInt8.toNat_ofNat']
    omega
  rw [Bool.and_eq_true, decide_eq_true_eq, decide_eq_true_eq, UInt8.le_iff_toNat_le,
    UInt8.le_iff_toNat_le, hbyte]
  omega

theorem decodePieces_last (hn : n < 64) (hlow : low.toNat ≤ n + 0x80)
    (hhigh : n + 0x80 ≤ high.toNat) :
    decodePieces (some ⟨1, value, low, high⟩) (UInt8.ofNat (n + 0x80) :: rest) =
      some (Char.ofNat (value * 64 + n)) :: decodePieces none rest := by
  obtain ⟨hrange, hbits⟩ := inRange hn hlow hhigh
  rw [decodePieces, readByte]
  simp only [hrange, hbits]
  rfl

theorem decodePieces_more {missing : Nat} (hn : n < 64) (hlow : low.toNat ≤ n + 0x80)
    (hhigh : n + 0x80 ≤ high.toNat) :
    decodePieces (some ⟨missing + 2, value, low, high⟩) (UInt8.ofNat (n + 0x80) :: rest) =
      decodePieces (some ⟨missing + 1, value * 64 + n, 0x80, 0xBF⟩) rest := by
  obtain ⟨hrange, hbits⟩ := inRange hn hlow hhigh
  rw [decodePieces, readByte]
  simp only [hrange, hbits]
  rfl

/-! Each of the four lengths reads back the number that was cut into six-bit parts. -/

theorem decodePieces_one {v : Nat} (h : v ≤ 0x7f) :
    decodePieces none (UInt8.ofNat v :: rest) = some (Char.ofNat v) :: decodePieces none rest := by
  have hbyte : (UInt8.ofNat v).toNat = v := by
    rw [UInt8.toNat_ofNat']
    omega
  have hsmall : UInt8.ofNat v < 0x80 := by
    rw [UInt8.lt_iff_toNat_lt, hbyte]
    exact Nat.lt_succ_of_le h
  rw [decodePieces, readByte, startByte, if_pos hsmall, hbyte]
  rfl

theorem decodePieces_two {v : Nat} (hlow : 0x7f < v) (hhigh : v ≤ 0x7ff) :
    decodePieces none
        (UInt8.ofNat (v / 64 % 0x20 + 0xc0) :: UInt8.ofNat (v % 0x40 + 0x80) :: rest) =
      some (Char.ofNat v) :: decodePieces none rest := by
  rw [decodePieces_lead _ (startByte_two (by omega) (by omega)),
    decodePieces_last _ (by omega) (by simp) (show _ ≤ 0xBF by omega)]
  congr 3
  omega

theorem decodePieces_three {v : Nat} (hlow : 0x7ff < v) (hhigh : v ≤ 0xffff)
    (hvalid : v < 0xD800 ∨ 0xDFFF < v) :
    decodePieces none
        (UInt8.ofNat (v / 4096 % 0x10 + 0xe0) :: UInt8.ofNat (v / 64 % 0x40 + 0x80) ::
          UInt8.ofNat (v % 0x40 + 0x80) :: rest) =
      some (Char.ofNat v) :: decodePieces none rest := by
  have hfrom : (if v / 4096 % 16 = 0 then 0xA0 else 0x80 : UInt8).toNat ≤ v / 64 % 64 + 0x80 := by
    by_cases h : v / 4096 % 16 = 0
    · rw [if_pos h]
      show 0xA0 ≤ _
      omega
    · rw [if_neg h]
      exact Nat.le_add_left ..
  have hto : v / 64 % 64 + 0x80 ≤ (if v / 4096 % 16 = 0xD then 0x9F else 0xBF : UInt8).toNat := by
    by_cases h : v / 4096 % 16 = 0xD
    · rw [if_pos h]
      show _ ≤ 0x9F
      omega
    · rw [if_neg h]
      show _ ≤ 0xBF
      omega
  rw [decodePieces_lead _ (startByte_three (by omega)),
    decodePieces_more _ (by omega) hfrom hto,
    decodePieces_last _ (by omega) (by simp) (show _ ≤ 0xBF by omega)]
  congr 3
  omega

theorem decodePieces_four {v : Nat} (hlow : 0xffff < v) (hhigh : v < 0x110000) :
    decodePieces none
        (UInt8.ofNat (v / 262144 % 0x08 + 0xf0) :: UInt8.ofNat (v / 4096 % 0x40 + 0x80) ::
          UInt8.ofNat (v / 64 % 0x40 + 0x80) :: UInt8.ofNat (v % 0x40 + 0x80) :: rest) =
      some (Char.ofNat v) :: decodePieces none rest := by
  have hfrom : (if v / 262144 % 8 = 0 then 0x90 else 0x80 : UInt8).toNat ≤
      v / 4096 % 64 + 0x80 := by
    by_cases h : v / 262144 % 8 = 0
    · rw [if_pos h]
      show 0x90 ≤ _
      omega
    · rw [if_neg h]
      exact Nat.le_add_left ..
  have hto : v / 4096 % 64 + 0x80 ≤
      (if v / 262144 % 8 = 4 then 0x8F else 0xBF : UInt8).toNat := by
    by_cases h : v / 262144 % 8 = 4
    · rw [if_pos h]
      show _ ≤ 0x8F
      omega
    · rw [if_neg h]
      show _ ≤ 0xBF
      omega
  rw [decodePieces_lead _ (startByte_four (by omega)),
    decodePieces_more _ (by omega) hfrom hto,
    decodePieces_more _ (by omega) (by simp) (show _ ≤ 0xBF by omega),
    decodePieces_last _ (by omega) (by simp) (show _ ≤ 0xBF by omega)]
  congr 3
  omega

end Bytes

/-- The bytes of a character are read as that character. -/
theorem decodePieces_encodeChar (c : Char) (rest : List UInt8) :
    decodePieces none (String.utf8EncodeChar c ++ rest) = some c :: decodePieces none rest := by
  have hvalid : c.toNat < 0xD800 ∨ (0xDFFF < c.toNat ∧ c.toNat < 0x110000) := c.valid
  have hc : Char.ofNat c.toNat = c := Char.ofNat_toNat c
  rw [String.utf8EncodeChar, show c.val.toNat = c.toNat from rfl]
  generalize c.toNat = v at hvalid hc ⊢
  subst hc
  split
  case isTrue h => exact decodePieces_one rest h
  case isFalse h =>
    split
    case isTrue h' => exact decodePieces_two rest (by omega) h'
    case isFalse h' =>
      split
      case isTrue h'' => exact decodePieces_three rest (by omega) h'' (by omega)
      case isFalse h'' => exact decodePieces_four rest (by omega) (by omega)

/-! ### Texts -/

theorem decodePieces_encode (cs : List Char) :
    decodePieces none (encode (String.ofList cs)) = cs.map some := by
  rw [encode_ofList]
  induction cs with
  | nil => rfl
  | cons c cs ih => rw [List.flatMap_cons, decodePieces_encodeChar, ih, List.map_cons]

/-- **The bytes of a text are read as that text.** -/
theorem decode?_encode (cs : List Char) : decode? (encode (String.ofList cs)) = some cs :=
  decode?_eq_some_iff.mpr (decodePieces_encode cs)

theorem ne_ofNat_of_ascii {b : UInt8} (hb : b.toNat < 0x80) {n : Nat} (hlow : 0x80 ≤ n)
    (hhigh : n < 256) : b ≠ UInt8.ofNat n := by
  rw [Ne, ← UInt8.toNat_inj, UInt8.toNat_ofNat']
  omega

/-- A byte of ASCII is only in its own character. -/
theorem ascii_mem_encodeChar {b : UInt8} (hb : b.toNat < 0x80) {c : Char} :
    b ∈ String.utf8EncodeChar c ↔ c.toNat = b.toNat := by
  rw [String.utf8EncodeChar, show c.val.toNat = c.toNat from rfl]
  generalize c.toNat = v
  split
  case isTrue h =>
    rw [List.mem_singleton, ← UInt8.toNat_inj, UInt8.toNat_ofNat']
    omega
  case isFalse h =>
    -- The bytes of all longer characters are above those of ASCII.
    refine ⟨fun hmem => ?_, fun hv => absurd hv (by omega)⟩
    split at hmem
    case isTrue =>
      simp only [List.mem_cons, List.not_mem_nil, or_false] at hmem
      rcases hmem with h | h <;> exact absurd h (ne_ofNat_of_ascii hb (by omega) (by omega))
    case isFalse =>
      split at hmem
      case isTrue =>
        simp only [List.mem_cons, List.not_mem_nil, or_false] at hmem
        rcases hmem with h | h | h <;>
          exact absurd h (ne_ofNat_of_ascii hb (by omega) (by omega))
      case isFalse =>
        simp only [List.mem_cons, List.not_mem_nil, or_false] at hmem
        rcases hmem with h | h | h | h <;>
          exact absurd h (ne_ofNat_of_ascii hb (by omega) (by omega))

/-- Only a newline has a newline among its bytes. -/
theorem newline_mem_encodeChar {c : Char} : 10 ∈ String.utf8EncodeChar c ↔ c = '\n' :=
  (ascii_mem_encodeChar (by decide)).trans (Char.toNat_inj (d := '\n'))

/-- There is a slash among the bytes of a text if there is one in the text. -/
theorem slash_mem_encode {s : String} : 47 ∈ encode s ↔ '/' ∈ s.toList := by
  have hslash : ∀ c : Char, 47 ∈ String.utf8EncodeChar c ↔ c = '/' :=
    fun c => (ascii_mem_encodeChar (by decide)).trans (Char.toNat_inj (d := '/'))
  rw [← String.ofList_toList (s := s), encode_ofList, String.toList_ofList]
  simp only [List.mem_flatMap, hslash, exists_eq_right]

/-- The lines of a text, read from its bytes. -/
theorem endedPieces_encode (cs : List Char) :
    endedPieces 10 (encode (String.ofList cs)) =
      (endedPieces '\n' cs).map fun l => encode (String.ofList l) := by
  simp only [encode_ofList]
  exact endedPieces_flatMap (f := String.utf8EncodeChar) rfl
    (fun c hc h => hc (newline_mem_encodeChar.mp h)) (fun _ => String.utf8EncodeChar_ne_nil) cs

end TestTelemetry.Text
