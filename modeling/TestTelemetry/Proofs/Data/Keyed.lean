/-
Dictionaries as sets of entries.

* `Keyed.find?_eq_some_iff` — a dictionary answers what stands in it;
* `Keyed.mem_erase` — what stands in it after a removal;
* `Keyed.erase_comm` — two removals can change places;
* `Keyed.countP_values_set` — how many values are of a kind after a write.
-/
import TestTelemetry.Data.Keyed

namespace TestTelemetry

namespace Keyed

variable {κ α : Type} [DecidableEq κ] {d : Keyed κ α} {k : κ} {v : α}

/-- A dictionary answers what stands in it. -/
theorem find?_eq_some_iff : d.find? k = some v ↔ (k, v) ∈ d.entries := by
  obtain ⟨l, hl⟩ := d
  simp only [find?]
  induction l with
  | nil => simp
  | cons e rest ih =>
    obtain ⟨k', v'⟩ := e
    simp only [List.map_cons, List.nodup_cons] at hl
    by_cases hk : k' = k
    · subst hk
      have hrest : (k', v) ∉ rest := fun h => hl.1 (List.mem_map_of_mem h)
      simp [hrest, eq_comm]
    · rw [List.find?_cons_of_neg (by simpa using hk), ih hl.2, List.mem_cons, Prod.mk.injEq]
      exact ⟨Or.inr, fun h => h.resolve_left fun h => hk h.1.symm⟩

theorem find?_eq_none_iff : d.find? k = none ↔ ∀ v, (k, v) ∉ d.entries := by
  rw [Option.eq_none_iff_forall_ne_some]
  exact forall_congr' fun v => not_congr find?_eq_some_iff

theorem mem_erase {e : κ × α} : e ∈ (d.erase k).entries ↔ e ∈ d.entries ∧ e.1 ≠ k := by
  rw [erase, List.mem_filter, decide_eq_true_eq]

/-- What stands in a dictionary after some removals. -/
theorem mem_foldl_erase {keys : List κ} {e : κ × α} :
    e ∈ (keys.foldl erase d).entries ↔ e ∈ d.entries ∧ e.1 ∉ keys := by
  induction keys generalizing d with
  | nil => simp
  | cons k rest ih =>
    rw [List.foldl_cons, ih, mem_erase, List.mem_cons, not_or, and_assoc]

/-- Nothing stands in a dictionary once all its keys were removed. -/
theorem entries_foldl_erase_eq_nil {l : List (κ × α)} (h : l.Perm d.entries) :
    ((l.map (·.1)).foldl erase d).entries = [] := by
  rw [List.eq_nil_iff_forall_not_mem]
  intro e he
  obtain ⟨hin, hout⟩ := mem_foldl_erase.mp he
  exact hout (List.mem_map_of_mem (h.mem_iff.mpr hin))

/-- Two removals can change places. -/
theorem erase_comm (d : Keyed κ α) (j k : κ) : (d.erase j).erase k = (d.erase k).erase j := by
  simp only [erase, List.filter_filter, Bool.and_comm]

/-- Where nothing of a kind stood, a write adds one of this kind exactly if it writes one. -/
theorem countP_values_set {P : α → Bool} (h : ∀ old, d.find? k = some old → P old = false) :
    (d.set k v).values.countP P = d.values.countP P + if P v then 1 else 0 := by
  have hold : ∀ old, (k, old) ∈ d.entries → P old = false :=
    fun old hmem => h old (find?_eq_some_iff.mpr hmem)
  show ((setEntry k v d.entries).map (·.2)).countP P = (d.entries.map (·.2)).countP P + _
  clear h
  revert hold
  generalize d.entries = l
  intro hold
  induction l with
  | nil => simp [setEntry, List.countP_cons]
  | cons e rest ih =>
    obtain ⟨k', v'⟩ := e
    by_cases hk : k' = k
    · subst hk
      have hv' : P v' = false := hold v' (List.mem_cons_self ..)
      rw [setEntry, if_pos rfl, List.map_cons, List.map_cons, List.countP_cons, List.countP_cons,
        hv', if_neg Bool.false_ne_true, Nat.add_zero]
    · rw [setEntry, if_neg hk, List.map_cons, List.map_cons, List.countP_cons, List.countP_cons,
        ih fun old hmem => hold old (List.mem_cons_of_mem _ hmem)]
      omega

end Keyed

end TestTelemetry
