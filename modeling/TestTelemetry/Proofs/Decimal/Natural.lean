/-
Natural numbers survive their decimal texts.

* `Decimal.number?_natural` — the decimal text of a natural number of 64 bits has its value;
* `Decimal.naturalPhase` — the phase in which its scan stays after the first digit;
* `Decimal.scan_natural` — how it is scanned.
-/
import Mathlib.Data.List.TakeWhile
import TestTelemetry.Decimal.Numeral

namespace TestTelemetry.Decimal

variable {n : Nat} {c : Char}

theorem isDigit_of_mem (hc : c ∈ Nat.toDigits 10 n) : c.isDigit = true :=
  Nat.isDigit_of_mem_toDigits (by decide) (by decide) hc

/-! ### The value -/

theorem le_ofDigitChars (cs : List Char) (m : Nat) : m ≤ Nat.ofDigitChars 10 cs m := by
  induction cs generalizing m with
  | nil => exact Nat.le_refl m
  | cons c cs ih =>
    rw [Nat.ofDigitChars_cons]
    have hnext := ih (10 * m + (c.toNat - '0'.toNat))
    omega

/-- Digits whose value fits are all absorbed. -/
theorem absorb_eq {cs : List Char} {m : Nat} (h : Nat.ofDigitChars 10 cs m ≤ significandMax) :
    absorb m cs = (Nat.ofDigitChars 10 cs m, []) := by
  induction cs generalizing m with
  | nil => rfl
  | cons c cs ih =>
    rw [Nat.ofDigitChars_cons] at h ⊢
    have hnext : m * 10 + (c.toNat - '0'.toNat) ≤ significandMax := by
      have := le_ofDigitChars cs (10 * m + (c.toNat - '0'.toNat))
      omega
    rw [absorb, if_pos hnext, Nat.mul_comm m 10]
    exact ih h

/-- Digits alone are an integer. -/
theorem ofChars_digits {cs : List Char} (h : ∀ c ∈ cs, c.isDigit = true) :
    Numeral.ofChars cs = ⟨false, cs, [], none⟩ := by
  have hminus : cs.head? ≠ some '-' := by
    intro hhead
    exact absurd (h '-' (List.mem_of_mem_head? hhead)) (by decide)
  have htake : cs.takeWhile Char.isDigit = cs := List.takeWhile_eq_self_iff.mpr h
  have hdrop : cs.dropWhile Char.isDigit = [] := List.dropWhile_eq_nil_iff.mpr h
  simp only [Numeral.ofChars, hminus, decide_false, if_false, htake, hdrop]

/-- **The decimal text of a natural number of 64 bits has its value.** -/
theorem number?_natural (h : n ≤ significandMax) :
    number? (Nat.toDigits 10 n) = some (.natural n) := by
  have hvalue : Nat.ofDigitChars 10 (Nat.toDigits 10 n) 0 = n := Nat.ofDigitChars_ten_toDigits
  rw [number?, ofChars_digits fun c => isDigit_of_mem, Numeral.number?,
    absorb_eq (by rw [hvalue]; exact h), hvalue]
  rfl

/-! ### The scan -/

/-- The phase in which the scan of a natural number stays after its first digit. -/
def naturalPhase (n : Nat) : Phase := if n = 0 then .zero else .integer

/-- No natural number but zero is written with a zero first. -/
theorem head_toDigits (hn : 0 < n) : ∀ rest, Nat.toDigits 10 n ≠ '0' :: rest := by
  induction n using Nat.strongRecOn with
  | ind n ih =>
    intro rest hrest
    rcases Nat.lt_or_ge n 10 with hlt | hge
    · rw [Nat.toDigits_of_lt_base hlt] at hrest
      have hdigit : ∀ m < 10, 0 < m → Nat.digitChar m ≠ '0' := by decide
      exact hdigit n hlt hn (List.cons.inj hrest).1
    · rw [Nat.toDigits_of_base_le (by decide) hge] at hrest
      cases hfirst : Nat.toDigits 10 (n / 10) with
      | nil => exact absurd hfirst Nat.toDigits_ne_nil
      | cons c cs =>
        rw [hfirst] at hrest
        obtain rfl : c = '0' := (List.cons.inj hrest).1
        exact ih (n / 10) (by omega) (by omega) cs hfirst

/-- The text of a natural number begins in its phase and stays in it. -/
theorem scan_natural (n : Nat) :
    ∃ c cs, Nat.toDigits 10 n = c :: cs ∧ Phase.first? c = some (naturalPhase n) ∧
      ∀ d ∈ cs, (naturalPhase n).next d = .more (naturalPhase n) := by
  by_cases hn : n = 0
  · subst hn
    exact ⟨'0', [], Nat.toDigits_zero 10, rfl, fun d hd => absurd hd List.not_mem_nil⟩
  · cases hdigits : Nat.toDigits 10 n with
    | nil => exact absurd hdigits Nat.toDigits_ne_nil
    | cons c cs =>
      have hall : ∀ d ∈ c :: cs, d.isDigit = true := fun d hd => isDigit_of_mem (hdigits ▸ hd)
      have hzero : c ≠ '0' := fun hc => head_toDigits (Nat.pos_of_ne_zero hn) cs (hc ▸ hdigits)
      have hminus : c ≠ '-' := by
        rintro rfl
        exact absurd (hall '-' (List.mem_cons_self ..)) (by decide)
      rw [naturalPhase, if_neg hn]
      refine ⟨c, cs, rfl, ?_, fun d hd => ?_⟩
      · rw [Phase.first?, if_neg hminus, if_neg hzero, if_pos (hall c (List.mem_cons_self ..))]
      · rw [Phase.next, if_pos (hall d (List.mem_cons_of_mem c hd))]

/-- A natural number ends before what belongs to no numeral. -/
theorem naturalPhase_next (n : Nat) (hdigit : c.isDigit = false)
    (hother : c ≠ '.' ∧ c ≠ 'e' ∧ c ≠ 'E') : (naturalPhase n).next c = .stop := by
  obtain ⟨hpoint, he, hE⟩ := hother
  rw [naturalPhase]
  split <;> simp [Phase.next, hdigit, hpoint, he, hE]

theorem complete_naturalPhase (n : Nat) : (naturalPhase n).complete = true := by
  rw [naturalPhase]
  split <;> rfl

end TestTelemetry.Decimal
