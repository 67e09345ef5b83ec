/-
The numbers that variables spell.

A number is spelled in decimal digits, with one plus sign before them or without, and with blanks
around it.  Zeros may stand before the digits that count, so that a number has many spellings, but a text
spells one number at most.

* `IsNumeral`, `Spells` — digits, and the text of a variable;
* `readNumber?_eq_some_iff`, `Width.read?_eq_some_iff` — what is read is what is spelled;
* `spells_natural` — the decimal digits of a number spell it;
* `value_getNat_natural`, `value_getNat_eq` — what a number within bounds is read as.
-/
import TestTelemetry.Proofs.Decimal.Natural
import TestTelemetry.Proofs.Environment.Getters
import TestTelemetry.Proofs.Text.Trim

namespace TestTelemetry.Environment

open Text (isBlank trim)

/-- A number in decimal digits, with a plus sign or without. -/
inductive IsNumeral : List Char → Nat → Prop
  | digits {ds : List Char} (hne : ds ≠ []) (hdigits : ∀ c ∈ ds, c.isDigit = true) :
      IsNumeral ds (Nat.ofDigitChars 10 ds 0)
  | plus {ds : List Char} (hne : ds ≠ []) (hdigits : ∀ c ∈ ds, c.isDigit = true) :
      IsNumeral ('+' :: ds) (Nat.ofDigitChars 10 ds 0)

/-- A text is a number between blanks. -/
def Spells (text : String) (n : Nat) : Prop :=
  ∃ before cs after, text.toList = before ++ (cs ++ after) ∧
    (∀ c ∈ before, isBlank c = true) ∧ (∀ c ∈ after, isBlank c = true) ∧ IsNumeral cs n

variable {cs : List Char} {text : String} {n : Nat}

/-! ### Reading -/

theorem readNumber?_of_digits (hne : cs ≠ []) (hdigits : ∀ c ∈ cs, c.isDigit = true) :
    readNumber? cs = some (Nat.ofDigitChars 10 cs 0) := by
  have hplus : cs.head? ≠ some '+' := fun h =>
    absurd (hdigits '+' (List.mem_of_mem_head? h)) (by decide)
  rw [readNumber?, if_neg hplus]
  exact if_pos ⟨hne, List.all_eq_true.mpr hdigits⟩

theorem readNumber?_eq_some_iff : readNumber? cs = some n ↔ IsNumeral cs n := by
  constructor
  · intro h
    rw [readNumber?] at h
    split at h
    case isTrue hplus =>
      obtain ⟨ds, rfl⟩ := List.head?_eq_some_iff.mp hplus
      obtain ⟨⟨hne, hdigits⟩, hvalue⟩ := Option.ite_none_right_eq_some.mp h
      exact Option.some_inj.mp hvalue ▸ .plus hne (List.all_eq_true.mp hdigits)
    case isFalse =>
      obtain ⟨⟨hne, hdigits⟩, hvalue⟩ := Option.ite_none_right_eq_some.mp h
      exact Option.some_inj.mp hvalue ▸ .digits hne (List.all_eq_true.mp hdigits)
  · intro h
    cases h with
    | digits hne hdigits => exact readNumber?_of_digits hne hdigits
    | plus hne hdigits => exact if_pos ⟨hne, List.all_eq_true.mpr hdigits⟩

theorem isBlank_of_isDigit {c : Char} (h : c.isDigit = true) : isBlank c = false := by
  have hrange : 48 ≤ c.toNat ∧ c.toNat ≤ 57 := by
    simpa [Char.isDigit, UInt32.le_iff_toNat_le] using h
  simp [isBlank]
  omega

theorem IsNumeral.not_blank (h : IsNumeral cs n) : ∀ c ∈ cs, isBlank c = false := by
  cases h with
  | digits hne hdigits => exact fun c hc => isBlank_of_isDigit (hdigits c hc)
  | plus hne hdigits =>
    intro c hc
    rcases List.mem_cons.mp hc with rfl | hc
    · rfl
    · exact isBlank_of_isDigit (hdigits c hc)

theorem readNumber?_trim_iff : readNumber? (trim text.toList) = some n ↔ Spells text n := by
  rw [readNumber?_eq_some_iff]
  constructor
  · intro h
    obtain ⟨before, after, htext, hbefore, hafter⟩ := Text.exists_trim text.toList
    exact ⟨before, trim text.toList, after, htext, hbefore, hafter, h⟩
  · -- The blanks that trimming takes away are all there are, since no numeral has one.
    rintro ⟨before, cs, after, htext, hbefore, hafter, h⟩
    rw [htext, Text.trim_append_left hbefore, Text.trim_append_right hafter,
      Text.trim_of_not_blank h.not_blank]
    exact h

theorem Width.read?_eq_some_iff {w : Width} : w.read? text = some n ↔ Spells text n ∧ n ≤ w.max := by
  rw [Width.read?, Option.filter_eq_some_iff, readNumber?_trim_iff, decide_eq_true_iff]

/-- A text spells one number at most. -/
theorem Spells.unique {m : Nat} (hn : Spells text n) (hm : Spells text m) : n = m :=
  Option.some_inj.mp ((readNumber?_trim_iff.mpr hn).symm.trans (readNumber?_trim_iff.mpr hm))

/-- The decimal digits of a number spell it. -/
theorem spells_natural (n : Nat) : Spells (toString n) n := by
  have hvalue : Nat.ofDigitChars 10 (Nat.toDigits 10 n) 0 = n := Nat.ofDigitChars_ten_toDigits
  have hdigits : (toString n).toList = Nat.toDigits 10 n := Nat.toList_repr
  have hnumeral : IsNumeral (Nat.toDigits 10 n) (Nat.ofDigitChars 10 (Nat.toDigits 10 n) 0) :=
    .digits Nat.toDigits_ne_nil fun c hc => Decimal.isDigit_of_mem hc
  rw [hvalue] at hnumeral
  exact ⟨[], _, [], by rw [hdigits, List.nil_append, List.append_nil], by simp, by simp, hnumeral⟩

/-! ### A number within bounds -/

section Bounds

variable {env : Environment} {name : String} {w : Width} (dflt : Nat)

/-- A number that was written is read again. -/
theorem value_getNat_natural {n min max : Nat} (hset : env.get? (variableName name) = some (toString n))
    (hwidth : n ≤ w.max) (hinside : min ≤ n ∧ n ≤ max) :
    (env.getNat w name dflt min max).value = n := by
  have hread := Width.read?_eq_some_iff.mpr ⟨spells_natural n, hwidth⟩
  rw [getNat_of_inside dflt hset hread hinside]
  rfl

variable (min max : Nat)

/-- A number is taken if it is spelled, has the width and is within the bounds. -/
theorem value_getNat_eq : (env.getNat w name dflt min max).value =
    (((env.get? (variableName name)).bind w.read?).filter fun n => min ≤ n ∧ n ≤ max).getD dflt := by
  cases hset : env.get? (variableName name) with
  | none => rw [getNat_of_unset dflt hset]; rfl
  | some text =>
    rw [Option.bind_some]
    cases hread : w.read? text with
    | none => rw [getNat_of_unread dflt hset hread]; rfl
    | some n =>
      by_cases hinside : min ≤ n ∧ n ≤ max
      · rw [getNat_of_inside dflt hset hread hinside, Option.filter, if_pos (by simpa using hinside)]
        rfl
      · rw [getNat_of_outside dflt hset hread hinside, Option.filter,
          if_neg (by simpa using hinside)]
        rfl

/-- A number has the width if the default has it. -/
theorem value_getNat_le (hdflt : dflt ≤ w.max) : (env.getNat w name dflt min max).value ≤ w.max := by
  rw [value_getNat_eq]
  cases hvalue : ((env.get? (variableName name)).bind w.read?).filter fun n => min ≤ n ∧ n ≤ max with
  | none => exact hdflt
  | some n =>
    obtain ⟨text, -, hread⟩ := Option.bind_eq_some_iff.mp (Option.filter_eq_some_iff.mp hvalue).1
    exact le_max_of_read? hread

end Bounds

end TestTelemetry.Environment
