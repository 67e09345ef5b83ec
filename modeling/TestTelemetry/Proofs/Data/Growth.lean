/-
Lists that change in place and grow at their end.

A list grows if every entry keeps its place, whatever becomes of it there, and new entries come
after the old ones.

* `Grows` — the relation, with what may become of an entry, and the new entries;
* `Grows.same`, `Grows.modify`, `Grows.concat` — the three ways in which one step makes a list grow;
* `Grows.map_eq` — what of the entries does not change.
-/
import TestTelemetry.Proofs.Data.Modify

namespace TestTelemetry

variable {α β : Type}

/-- A list keeps its entries in their places, where they become what `R` allows, and gets new
entries. -/
structure Grows (R : Nat → α → α → Prop) (l new l' : List α) : Prop where
  kept : ∀ (n : Nat) a, l[n]? = some a → ∃ b, l'[n]? = some b ∧ R n a b
  rest : l'.drop l.length = new

namespace Grows

variable {R : Nat → α → α → Prop} {l new l' : List α}

theorem same (h : ∀ (n : Nat) a, l[n]? = some a → R n a a) : Grows R l [] l where
  kept := fun n a ha => ⟨a, ha, h n a ha⟩
  rest := List.drop_length

theorem modify (m : Nat) {f : α → α} (hm : ∀ a, l[m]? = some a → R m a (f a))
    (hrest : ∀ (n : Nat) a, m ≠ n → l[n]? = some a → R n a a) : Grows R l [] (l.modify m f) where
  kept := by
    intro n a ha
    refine ⟨_, getElem?_modify_of_eq_some ha m f, ?_⟩
    by_cases h : m = n
    · subst h
      rw [if_pos rfl]
      exact hm a ha
    · rw [if_neg h]
      exact hrest n a h ha
  rest := List.drop_eq_nil_of_le (Nat.le_of_eq (List.length_modify ..))

theorem concat (b : α) (h : ∀ (n : Nat) a, l[n]? = some a → R n a a) :
    Grows R l [b] (l ++ [b]) where
  kept := by
    intro n a ha
    have hn : n < l.length := (List.getElem?_eq_some_iff.mp ha).1
    exact ⟨a, (List.getElem?_append_left hn).trans ha, h n a ha⟩
  rest := List.drop_left

theorem length_le (h : Grows R l new l') : l.length ≤ l'.length := by
  by_contra hlt
  have hlast : l'.length < l.length := Nat.lt_of_not_le hlt
  obtain ⟨b, hb, -⟩ := h.kept l'.length _ (List.getElem?_eq_getElem hlast)
  rw [List.getElem?_eq_none (Nat.le_refl _)] at hb
  cases hb

/-- What is found where nothing was found before is new. -/
theorem mem_new (h : Grows R l new l') {n : Nat} {b : α} (hnone : l[n]? = none)
    (hb : l'[n]? = some b) : b ∈ new := by
  have hn : l.length ≤ n := List.getElem?_eq_none_iff.mp hnone
  rw [← h.rest]
  refine List.mem_of_getElem? (i := n - l.length) ?_
  rw [List.getElem?_drop, Nat.add_sub_cancel' hn, hb]

/-- What does not change of the old entries, and then the new ones. -/
theorem map_eq (h : Grows R l new l') {g : α → β} (hg : ∀ n a b, R n a b → g b = g a) :
    l'.map g = l.map g ++ new.map g := by
  have hfirst : (l'.take l.length).map g = l.map g := by
    refine List.ext_getElem? fun n => ?_
    rw [List.getElem?_map, List.getElem?_map]
    by_cases hn : n < l.length
    · obtain ⟨b, hb, hR⟩ := h.kept n _ (List.getElem?_eq_getElem hn)
      rw [List.getElem?_take_of_lt hn, hb, List.getElem?_eq_getElem hn]
      exact congrArg some (hg n _ b hR)
    · rw [List.getElem?_eq_none (by simp; omega), List.getElem?_eq_none (by omega)]
  rw [← hfirst, ← h.rest, ← List.map_append, List.take_append_drop]

end Grows

end TestTelemetry
