/-
Ill-formed text is cut into lines as its bytes are.

A newline is a single byte.  No longer character has it among its bytes, and a character that is not
complete when it comes is ill-formed before it.  So the lines of a text that is read lossily are read
from the lines of its bytes, each for itself.

* `Sound` — what holds of a code point whose last bytes have not been read;
* `newline_mem_decodePieces` — only a newline is read as one;
* `decodeLossy_append` — what is before a newline is read apart from what is behind it;
* `pieces_decodeLossy` — the lines of a text are read from those of its bytes.
-/
import TestTelemetry.Proofs.Data.Pieces
import TestTelemetry.Text.Utf8
import Mathlib.Tactic.SplitIfs

namespace TestTelemetry.Text

variable {b : UInt8} {p : Option Pending} {q : Pending}

/-- What holds of a code point that is read: no newline can come next, and it cannot become one. -/
structure Sound (q : Pending) : Prop where
  low : 0x80 ≤ q.low.toNat
  /-- The value with the next six bits is above that of a newline. -/
  above : 0x8B ≤ q.value * 64 + q.low.toNat

theorem ofNat_eq_newline {v : Nat} (h : Char.ofNat v = '\n') : v = 10 := by
  have hv : (Char.ofNat v).toNat = 10 := by rw [h]; rfl
  by_cases hvalid : v.isValidChar
  · rw [Char.ofNat, dif_pos hvalid] at hv
    exact hv
  · rw [Char.ofNat, dif_neg hvalid] at hv
    cases hv

/-- Nothing is pending at the start. -/
theorem sound_none : ∀ q, none = some q → Sound q := by
  intro q h
  cases h

/-! ### One byte -/

theorem sound_startByte (h : (startByte b).2 = some q) : Sound q := by
  simp only [startByte, Bool.and_eq_true, decide_eq_true_eq, UInt8.le_iff_toNat_le,
    UInt8.reduceToNat] at h
  split_ifs at h <;> obtain rfl := Option.some_inj.mp h <;> constructor <;>
    simp only [UInt8.reduceToNat] <;> omega

theorem newline_of_startByte (h : some '\n' ∈ (startByte b).1) : b = 10 := by
  rw [startByte] at h
  split_ifs at h
  · rw [List.mem_singleton, Option.some_inj] at h
    exact UInt8.toNat_inj.mp (ofNat_eq_newline h.symm)
  all_goals simp at h

/-- A byte that continues a code point leaves its value above that of a newline. -/
theorem Sound.above_next (h : Sound q) (hb : (q.low ≤ b && b ≤ q.high) = true) :
    11 ≤ q.value * 64 + (b.toNat - 0x80) := by
  have hlow : q.low.toNat ≤ b.toNat := by
    rw [Bool.and_eq_true, decide_eq_true_eq, UInt8.le_iff_toNat_le] at hb
    exact hb.1
  have h80 := h.low
  have h8B := h.above
  omega

theorem sound_readByte (hp : ∀ q, p = some q → Sound q) (h : (readByte p b).2 = some q) :
    Sound q := by
  cases p with
  | none => exact sound_startByte h
  | some r =>
    rw [readByte] at h
    split at h
    case isTrue hb =>
      have habove := (hp r rfl).above_next hb
      split at h
      · cases h
      · cases h
      · obtain rfl := Option.some_inj.mp h
        constructor <;> simp only [UInt8.reduceToNat] <;> omega
    case isFalse => exact sound_startByte h

/-- Only a newline is read as one. -/
theorem newline_of_readByte (hp : ∀ q, p = some q → Sound q)
    (h : some '\n' ∈ (readByte p b).1) : b = 10 := by
  cases p with
  | none => exact newline_of_startByte h
  | some r =>
    rw [readByte] at h
    split at h
    case isTrue hb =>
      have habove := (hp r rfl).above_next hb
      have hlast : some '\n' ∉ [some (Char.ofNat (r.value * 64 + (b.toNat - 0x80)))] := by
        rw [List.mem_singleton, Option.some_inj]
        intro heq
        have hten := ofNat_eq_newline heq.symm
        omega
      split at h
      · exact absurd h hlast
      · exact absurd h hlast
      · cases h
    case isFalse =>
      rcases List.mem_cons.mp h with h | h
      · cases h
      · exact newline_of_startByte h

/-- A newline ends what is pending. -/
theorem readByte_newline (hp : ∀ q, p = some q → Sound q) :
    readByte p 10 = ((if p.isSome then [none] else []) ++ [some '\n'], none) := by
  cases p with
  | none => rfl
  | some q =>
    have hlow := (hp q rfl).low
    have hrange : (q.low ≤ 10 && 10 ≤ q.high) = false := by
      rw [Bool.and_eq_false_iff]
      refine .inl (decide_eq_false fun hle => ?_)
      have hten : q.low.toNat ≤ 10 := UInt8.le_iff_toNat_le.mp hle
      omega
    rw [readByte, hrange]
    rfl

/-! ### Lines -/

theorem decodePieces_cons (p : Option Pending) (b : UInt8) (bytes : List UInt8) :
    decodePieces p (b :: bytes) = (readByte p b).1 ++ decodePieces (readByte p b).2 bytes := rfl

theorem newline_mem_decodePieces (hp : ∀ q, p = some q → Sound q) {bytes : List UInt8}
    (h : some '\n' ∈ decodePieces p bytes) : 10 ∈ bytes := by
  induction bytes generalizing p with
  | nil =>
    rw [decodePieces] at h
    split at h <;> simp at h
  | cons b bytes ih =>
    rw [decodePieces_cons] at h
    rcases List.mem_append.mp h with h | h
    · exact newline_of_readByte hp h ▸ List.mem_cons_self ..
    · exact List.mem_cons_of_mem _ (ih (fun q hq => sound_readByte hp hq) h)

/-- What is pending at a newline is ill-formed, and nothing of it is behind the newline. -/
theorem decodePieces_append (hp : ∀ q, p = some q → Sound q) (l rest : List UInt8) :
    decodePieces p (l ++ 10 :: rest) = decodePieces p l ++ some '\n' :: decodePieces none rest := by
  induction l generalizing p with
  | nil =>
    rw [List.nil_append, decodePieces_cons, readByte_newline hp, decodePieces, List.append_assoc,
      List.singleton_append]
  | cons b l ih =>
    rw [List.cons_append, decodePieces_cons, ih (fun q hq => sound_readByte hp hq),
      decodePieces_cons, List.append_assoc]

/-- What is before a newline is read apart from what is behind it. -/
theorem decodeLossy_append (l rest : List UInt8) :
    decodeLossy (l ++ 10 :: rest) = decodeLossy l ++ '\n' :: decodeLossy rest := by
  rw [decodeLossy, decodePieces_append sound_none, List.map_append, List.map_cons]
  rfl

theorem newline_not_mem_decodeLossy {l : List UInt8} (h : 10 ∉ l) : '\n' ∉ decodeLossy l := by
  intro hmem
  obtain ⟨piece, hpiece, heq⟩ := List.mem_map.mp hmem
  cases piece with
  | none => exact absurd heq (by decide)
  | some c =>
    obtain rfl : c = '\n' := heq
    exact h (newline_mem_decodePieces sound_none hpiece)

/-- Lossy reading neither makes a newline nor swallows one. -/
theorem newline_mem_decodeLossy_iff {l : List UInt8} : '\n' ∈ decodeLossy l ↔ 10 ∈ l := by
  refine ⟨fun h => ?_, fun h => ?_⟩
  · by_contra hl
    exact newline_not_mem_decodeLossy hl h
  · obtain ⟨before, rest, rfl⟩ := List.append_of_mem h
    rw [decodeLossy_append]
    exact List.mem_append_right _ (List.mem_cons_self ..)

/-- **The lines of a text are read from those of its bytes.** -/
theorem pieces_decodeLossy (bytes : List UInt8) :
    pieces '\n' (decodeLossy bytes) = (pieces 10 bytes).map decodeLossy := by
  induction hn : bytes.length using Nat.strongRecOn generalizing bytes with
  | _ n ih =>
    by_cases h : 10 ∈ bytes
    · obtain ⟨l, rest, rfl⟩ := List.append_of_mem h
      -- Each side of the newline is shorter.
      rw [List.length_append, List.length_cons] at hn
      rw [decodeLossy_append, pieces_append_cons, pieces_append_cons, List.map_append,
        ih l.length (by omega) l rfl, ih rest.length (by omega) rest rfl]
    · rw [pieces_of_not_mem h, pieces_of_not_mem (newline_not_mem_decodeLossy h)]
      rfl

end TestTelemetry.Text
