/-
Merging coverage records.

What a merge holds of a class is said class by class.  Records are compatible if they agree on the
name and on the number of probes of every class that both hold; compatible records can be merged in
any order.

* `CoverageStore.get_merge` — a merge, class by class;
* `CoverageStore.Compatible` — records that agree on the classes that they share;
* `CoverageStore.merge_right_comm` — two merges can change places.
-/
import TestTelemetry.Coverage.Store

namespace TestTelemetry

namespace ClassHits

variable {a b c : ClassHits}

theorem compatible_iff :
    a.compatible b = true ↔ a.name = b.name ∧ a.probes.length = b.probes.length := by
  rw [compatible, decide_eq_true_eq]

theorem compatible_refl (a : ClassHits) : a.compatible a = true := compatible_iff.mpr ⟨rfl, rfl⟩

theorem compatible_symm (h : a.compatible b = true) : b.compatible a = true := by
  obtain ⟨hn, hl⟩ := compatible_iff.mp h
  exact compatible_iff.mpr ⟨hn.symm, hl.symm⟩

/-- A union is of the class that its parts are of. -/
theorem compatible_union_left (h : a.compatible b = true) :
    (a.union b).compatible c = a.compatible c := by
  have hlength : (a.union b).probes.length = a.probes.length := by
    simp only [union, List.length_zipWith, ← (compatible_iff.mp h).2, Nat.min_self]
  simp only [compatible, hlength]
  rfl

/-- Hits of one class can be united in either order. -/
theorem union_comm (h : a.compatible b = true) : a.union b = b.union a := by
  obtain ⟨na, pa⟩ := a
  obtain ⟨nb, pb⟩ := b
  obtain ⟨rfl, -⟩ := compatible_iff.mp h
  simp only [union, ClassHits.mk.injEq, true_and]
  exact List.zipWith_comm_of_comm Bool.or_comm

/-- Two unions can change places. -/
theorem union_right_comm (a b c : ClassHits) : (a.union b).union c = (a.union c).union b := by
  simp only [union, ClassHits.mk.injEq, true_and]
  refine List.ext_getElem ?_ fun i h₁ h₂ => ?_
  · simp only [List.length_zipWith]
    omega
  · simp only [List.getElem_zipWith]
    exact Bool.or_right_comm ..

end ClassHits

namespace CoverageStore

variable {s t x y : CoverageStore}

/-- A record is determined by what it holds of every class. -/
theorem ext_get (h : ∀ id, s.get id = t.get id) : s = t := by
  obtain ⟨m⟩ := s
  obtain ⟨n⟩ := t
  exact congrArg CoverageStore.mk (OrderedMap.ext_find? h)

/-- What a record holds once data of different classes was put into it. -/
theorem get_putAll (s : CoverageStore) {l : List ExecutionData}
    (hnodup : (l.map ExecutionData.id).Nodup) (id : UInt64) :
    (s.putAll l).get id = match l.find? (fun d => d.id = id) with
      | none => s.get id
      | some d => some (combine (s.get id) d.hits) := by
  induction l generalizing s with
  | nil => rfl
  | cons d rest ih =>
    rw [List.map_cons, List.nodup_cons] at hnodup
    show ((s.put d).putAll rest).get id = _
    rw [ih (s.put d) hnodup.2, get_put]
    by_cases hd : d.id = id
    · -- No other data is of this class.
      have hrest : rest.find? (fun d => d.id = id) = none := by
        rw [List.find?_eq_none]
        intro e he heq
        rw [decide_eq_true_eq] at heq
        exact hnodup.1 (List.mem_map.mpr ⟨e, he, heq.trans hd.symm⟩)
      rw [hrest, List.find?_cons_of_pos (by simpa using hd)]
      exact if_pos hd
    · rw [if_neg hd, List.find?_cons_of_neg (by simpa using hd)]

/-- A merge, class by class. -/
theorem get_merge (s t : CoverageStore) (id : UInt64) :
    (s.merge t).get id = match t.get id with
      | none => s.get id
      | some c => some (combine (s.get id) c) := by
  have hnodup : (t.toList.map ExecutionData.id).Nodup := by
    rw [toList, List.map_map, List.nodup_iff_pairwise_ne, List.pairwise_map]
    refine t.classes.ascending.imp fun {a b} hlt heq => ?_
    rw [show a.1 = b.1 from heq, Std.ReflOrd.compare_self] at hlt
    cases hlt
  have hget : t.get id = (t.classes.entries.find? fun e => e.1 = id).map (·.2) := by
    simp only [get, OrderedMap.find?, OrderedMap.compare_beq_eq]
  rw [merge, get_putAll s hnodup, toList, List.find?_map, hget]
  simp only [Function.comp_def]
  cases t.classes.entries.find? (fun e => decide (e.1 = id)) <;> rfl

/-- Records that agree on the names and the numbers of probes of the classes that both hold. -/
def Compatible (s t : CoverageStore) : Prop :=
  ∀ id c d, s.get id = some c → t.get id = some d → c.compatible d = true

namespace Compatible

theorem refl (s : CoverageStore) : s.Compatible s := by
  intro id c d hc hd
  rw [hc, Option.some_inj] at hd
  exact hd ▸ c.compatible_refl

theorem empty_left (t : CoverageStore) : CoverageStore.empty.Compatible t := by
  intro id c d hc
  cases hc

/-- A merge of compatible records is compatible with what both are compatible with. -/
theorem merge_left (hx : s.Compatible x) (hy : s.Compatible y) (hxy : x.Compatible y) :
    (s.merge x).Compatible y := by
  intro id c d hc hd
  rw [get_merge] at hc
  cases hxid : x.get id with
  | none =>
    rw [hxid] at hc
    exact hy id c d hc hd
  | some e =>
    rw [hxid] at hc
    obtain rfl := Option.some_inj.mp hc
    cases hsid : s.get id with
    | none => exact hxy id e d hxid hd
    | some h =>
      have hhe := hx id h e hsid hxid
      simp only [combine, hhe, if_true, ClassHits.compatible_union_left hhe]
      exact hy id h d hsid hd

end Compatible

/-- Two merges of compatible records can change places. -/
theorem merge_right_comm (hx : s.Compatible x) (hy : s.Compatible y) (hxy : x.Compatible y) :
    (s.merge x).merge y = (s.merge y).merge x := by
  refine ext_get fun id => ?_
  rw [get_merge, get_merge, get_merge, get_merge]
  -- Only a class that both records hold could tell the two orders apart.
  cases hxid : x.get id with
  | none => cases y.get id <;> rfl
  | some c =>
    cases hyid : y.get id with
    | none => rfl
    | some d =>
      have hcd := hxy id c d hxid hyid
      cases hsid : s.get id with
      | none =>
        simp only [combine, hcd, ClassHits.compatible_symm hcd, if_true, Option.some_inj]
        exact ClassHits.union_comm hcd
      | some h =>
        have hhc := hx id h c hsid hxid
        have hhd := hy id h d hsid hyid
        simp only [combine, hhc, hhd, ClassHits.compatible_union_left, if_true, Option.some_inj]
        exact ClassHits.union_right_comm h c d

end CoverageStore

end TestTelemetry
