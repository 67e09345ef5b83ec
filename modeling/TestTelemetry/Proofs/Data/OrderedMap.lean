/-
Keys, values and sums of ordered maps.

Writing one entry changes a sum over the values by the value written and by the one that it
replaces, if it replaces one.

* `OrderedMap.sum_values_insert` — the sum after a write;
* `OrderedMap.mem_keys_iff`, `OrderedMap.mem_values_iff` — keys and values by what a map answers;
* `OrderedMap.size_insert_le` — a write adds at most one entry;
* `OrderedMap.forall₂_entries` — maps of the same keys, compared entry by entry.
-/
import TestTelemetry.Data.OrderedMap
import TestTelemetry.Proofs.Data.Sorting
import Mathlib.Algebra.BigOperators.Group.List.Basic
import Mathlib.Algebra.Ring.Nat

namespace TestTelemetry

namespace OrderedMap

variable {κ α : Type} [Ord κ] [Std.TransOrd κ] [Std.LawfulEqOrd κ]

/-- A key that comes before all keys of a map is not bound. -/
theorem find?_eq_none_of_lt {m : OrderedMap κ α} {k : κ}
    (h : ∀ e ∈ m.entries, compare k e.1 = .lt) : m.find? k = none := by
  classical
  refine Option.eq_none_iff_forall_ne_some.mpr fun v hv => ?_
  have hlt := h _ (find?_eq_some_iff.mp hv)
  rw [Std.ReflOrd.compare_self] at hlt
  cases hlt

omit [Std.TransOrd κ] in
theorem find?_cons_of_ne {k k' : κ} {v : α} {rest : List (κ × α)}
    (h : compare k' k ≠ .eq) (hl : ((k', v) :: rest).Pairwise fun a b => compare a.1 b.1 = .lt) :
    find? ⟨(k', v) :: rest, hl⟩ k = find? ⟨rest, (List.pairwise_cons.mp hl).2⟩ k := by
  rw [find?, find?, List.find?_cons_of_neg (by simpa using h)]

/-- A sum over the values changes by the value that is written, and by the one that it replaces. -/
theorem sum_values_insert (m : OrderedMap κ α) (k : κ) (v : α) (f : α → Nat) :
    ((m.insert k v).values.map f).sum + (m.find? k).elim 0 f = (m.values.map f).sum + f v := by
  obtain ⟨l, hl⟩ := m
  induction l with
  | nil =>
    show f v + 0 + 0 = 0 + f v
    omega
  | cons e rest ih =>
    obtain ⟨k', v'⟩ := e
    have hlater := ih (List.pairwise_cons.mp hl).2
    simp only [insert, values, insertEntry] at hlater ⊢
    cases hk : compare k k' with
    | lt =>
      have hfresh : find? ⟨(k', v') :: rest, hl⟩ k = none := by
        refine find?_eq_none_of_lt fun e he => ?_
        rcases List.mem_cons.mp he with rfl | he
        · exact hk
        · exact Std.TransCmp.lt_trans hk ((List.pairwise_cons.mp hl).1 e he)
      rw [hfresh]
      simp only [List.map_cons, List.sum_cons, Option.elim_none]
      omega
    | eq =>
      have hfound : find? ⟨(k', v') :: rest, hl⟩ k = some v' := by
        rw [find?, List.find?_cons_of_pos (by simp [Std.OrientedCmp.eq_symm hk])]
        rfl
      rw [hfound]
      simp only [List.map_cons, List.sum_cons, Option.elim_some]
      omega
    | gt =>
      have hne : compare k' k ≠ .eq := by
        intro heq
        rw [Std.OrientedCmp.eq_symm heq] at hk
        cases hk
      rw [find?_cons_of_ne hne hl]
      simp only [List.map_cons, List.sum_cons]
      omega

/-- The keys of a map are those that it answers. -/
theorem mem_keys_iff [DecidableEq κ] {m : OrderedMap κ α} {k : κ} :
    k ∈ m.keys ↔ ∃ v, m.find? k = some v := by
  simp only [keys, List.mem_map, find?_eq_some_iff]
  constructor
  · rintro ⟨e, he, rfl⟩
    exact ⟨e.2, he⟩
  · rintro ⟨v, hv⟩
    exact ⟨(k, v), hv, rfl⟩

theorem find?_eq_none_iff [DecidableEq κ] {m : OrderedMap κ α} {k : κ} :
    m.find? k = none ↔ k ∉ m.keys := by
  rw [mem_keys_iff, ← Option.isSome_iff_exists, Option.not_isSome_iff_eq_none]

/-- The keys of a map that was built from a list are those of the list. -/
theorem mem_keys_ofList [DecidableEq κ] {l : List (κ × α)} {k : κ} :
    k ∈ (ofList l).keys ↔ ∃ e ∈ l, e.1 = k := by
  have hfound : k ∈ (ofList l).keys ↔ (l.reverse.find? fun e => e.1 = k).isSome = true := by
    rw [mem_keys_iff, ← Option.isSome_iff_exists, find?_ofList, Option.isSome_map]
  rw [hfound, List.find?_isSome]
  simp

/-- The values of a map are its answers. -/
theorem mem_values_iff [DecidableEq κ] {m : OrderedMap κ α} {v : α} :
    v ∈ m.values ↔ ∃ k, m.find? k = some v := by
  simp only [values, List.mem_map, find?_eq_some_iff]
  constructor
  · rintro ⟨e, he, rfl⟩
    exact ⟨e.1, he⟩
  · rintro ⟨k, hk⟩
    exact ⟨(k, v), hk, rfl⟩

/-- A write adds at most one entry. -/
theorem size_insert_le (m : OrderedMap κ α) (k : κ) (v : α) : (m.insert k v).size ≤ m.size + 1 := by
  obtain ⟨l, hl⟩ := m
  show (insertEntry k v l).length ≤ l.length + 1
  clear hl
  induction l with
  | nil => exact Nat.le_refl _
  | cons e rest ih =>
    obtain ⟨k', v'⟩ := e
    rw [insertEntry]
    cases compare k k' with
    | lt => exact Nat.le_refl _
    | eq => exact Nat.le_succ _
    | gt => exact Nat.succ_le_succ ih

/-- Two maps of the same keys have them in the same order. -/
theorem keys_eq_of_mem_iff {β : Type} {m : OrderedMap κ α} {n : OrderedMap κ β}
    (h : ∀ k, k ∈ m.keys ↔ k ∈ n.keys) : m.keys = n.keys := by
  have hfirst : m.keys.Pairwise fun j k => compare j k = .lt := List.pairwise_map.mpr m.ascending
  have hsecond : n.keys.Pairwise fun j k => compare j k = .lt := List.pairwise_map.mpr n.ascending
  refine eq_of_ascending (fun j k hjk hkj => ?_) hfirst hsecond h
  have hlt := Std.TransCmp.lt_trans hjk hkj
  rw [Std.ReflOrd.compare_self] at hlt
  cases hlt

/-- Two maps of the same keys, whose answers are related, are related entry by entry. -/
theorem forall₂_entries [DecidableEq κ] {β : Type} {m : OrderedMap κ α} {n : OrderedMap κ β}
    {R : α → β → Prop} (hkeys : ∀ k, k ∈ m.keys ↔ k ∈ n.keys)
    (h : ∀ k x y, m.find? k = some x → n.find? k = some y → R x y) :
    List.Forall₂ (fun e f => f.1 = e.1 ∧ R e.2 f.2) m.entries n.entries := by
  have hsame : m.entries.map (·.1) = n.entries.map (·.1) := keys_eq_of_mem_iff hkeys
  have hlength := congrArg List.length hsame
  rw [List.length_map, List.length_map] at hlength
  refine List.forall₂_iff_get.mpr ⟨hlength, fun i h₁ h₂ => ?_⟩
  have hkey : n.entries[i].1 = m.entries[i].1 := by
    have hat := congrArg (fun l => l[i]?) hsame
    simpa [h₁, h₂] using hat.symm
  refine ⟨hkey, h m.entries[i].1 _ _ ?_ ?_⟩
  · exact find?_eq_some_iff.mpr (List.getElem_mem h₁)
  · rw [← hkey]
    exact find?_eq_some_iff.mpr (List.getElem_mem h₂)

end OrderedMap

end TestTelemetry
