/-
Counting who has opened what.

Several parties open and close the same thing; only the first opening and the
last closing matter.  A key is in the table as long as it is open.

* `Activations.start`, `Activations.finish` — one opening and one closing;
* `Activations.depth_start`, `Activations.depth_finish` — what they do to the depth
  of every key.
-/
import TestTelemetry.Data.Keyed

namespace TestTelemetry

/-- How often each key is open; keys that are not open have no entry. -/
structure Activations (κ : Type) [DecidableEq κ] where
  table : Keyed κ Nat
  positive : ∀ k n, table.find? k = some n → 0 < n

namespace Activations

variable {κ : Type} [DecidableEq κ]

def empty : Activations κ := ⟨.empty, by simp⟩

instance : Inhabited (Activations κ) := ⟨empty⟩

/-- How often a key is open. -/
def depth (a : Activations κ) (k : κ) : Nat := (a.table.find? k).getD 0

/-- How many keys are open. -/
def active (a : Activations κ) : Nat := a.table.size

/-- Open a key once more. -/
def start (a : Activations κ) (k : κ) : Activations κ :=
  ⟨a.table.set k (a.depth k + 1), by
    intro j n h
    rw [Keyed.find?_set] at h
    split at h
    · cases h; exact Nat.succ_pos _
    · exact a.positive j n h⟩

/-- Close a key once; closing what is not open does nothing. -/
def finish (a : Activations κ) (k : κ) : Activations κ :=
  if h : a.depth k ≤ 1 then
    ⟨a.table.erase k, by
      intro j n hj
      rw [Keyed.find?_erase] at hj
      split at hj
      · cases hj
      · exact a.positive j n hj⟩
  else
    ⟨a.table.set k (a.depth k - 1), by
      intro j n hj
      rw [Keyed.find?_set] at hj
      split at hj
      · cases hj; omega
      · exact a.positive j n hj⟩

/-- Whether opening a key now is its first opening. -/
def isFirst (a : Activations κ) (k : κ) : Bool := a.depth k = 0

/-- Whether closing a key now is its last closing. -/
def isLast (a : Activations κ) (k : κ) : Bool := a.depth k = 1

/-- Close a key for good. -/
def clear (a : Activations κ) (k : κ) : Activations κ :=
  ⟨a.table.erase k, by
    intro j n hj
    rw [Keyed.find?_erase] at hj
    split at hj
    · cases hj
    · exact a.positive j n hj⟩

theorem depth_start (a : Activations κ) (k j : κ) :
    (a.start k).depth j = a.depth j + if k = j then 1 else 0 := by
  simp only [depth, start, Keyed.find?_set]
  by_cases h : k = j
  · subst h; simp
  · simp [h]

theorem depth_finish (a : Activations κ) (k j : κ) :
    (a.finish k).depth j = a.depth j - if k = j then 1 else 0 := by
  by_cases hk : a.depth k ≤ 1
  · simp only [finish, hk, dif_pos]
    simp only [depth, Keyed.find?_erase] at hk ⊢
    by_cases h : k = j
    · subst h; simp; omega
    · simp [h]
  · simp only [finish, hk, dif_neg, not_false_eq_true]
    simp only [depth, Keyed.find?_set]
    by_cases h : k = j
    · subst h; simp
    · simp [h]

theorem depth_clear (a : Activations κ) (k j : κ) :
    (a.clear k).depth j = if k = j then 0 else a.depth j := by
  simp only [depth, clear, Keyed.find?_erase]
  by_cases h : k = j <;> simp [h]

end Activations

end TestTelemetry
