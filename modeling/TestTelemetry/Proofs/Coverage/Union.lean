/-
What a union of coverage records holds.

However many records are merged, and however they contradict each other, what comes of them can be
read off class by class.  The first data of a class decides its name and the number of its probes;
all data that fits the first adds its hits, and the rest is left out.

* `ClassHits.Within`, `CoverageStore.Within` — hits that are all among others;
* `CoverageStore.combineAll` — the data of one class, put together one after the other;
* `CoverageStore.Gathers` — a record that holds what the data of every class comes to;
* `CoverageStore.Clash`, `CoverageStore.mergeCounting_eq` — what a merge leaves out, and its count;
* `CoverageStore.merge_exact` — lists and merges of any length, a single merge, and the list form.
-/
import TestTelemetry.Proofs.Coverage.Algebra

namespace TestTelemetry

namespace ClassHits

variable {a b c : ClassHits}

/-- A probe of a union was hit if it was hit in one of the parts. -/
theorem hit_union (h : a.compatible b = true) (i : Nat) :
    (a.union b).probes[i]? = some true ↔ a.probes[i]? = some true ∨ b.probes[i]? = some true := by
  obtain ⟨-, hlength⟩ := compatible_iff.mp h
  rw [union, List.getElem?_zipWith]
  by_cases hi : i < a.probes.length
  · rw [List.getElem?_eq_getElem hi, List.getElem?_eq_getElem (hlength ▸ hi)]
    simp
  · rw [List.getElem?_eq_none (Nat.not_lt.mp hi),
      List.getElem?_eq_none (hlength ▸ Nat.not_lt.mp hi)]
    simp

/-- Hits of the same class, all of which are among others. -/
structure Within (a b : ClassHits) : Prop where
  name : b.name = a.name
  length : b.probes.length = a.probes.length
  hit : ∀ i : Nat, a.probes[i]? = some true → b.probes[i]? = some true

namespace Within

theorem refl (a : ClassHits) : a.Within a := ⟨rfl, rfl, fun _ h => h⟩

theorem trans (hab : a.Within b) (hbc : b.Within c) : a.Within c where
  name := hbc.name.trans hab.name
  length := hbc.length.trans hab.length
  hit i h := hbc.hit i (hab.hit i h)

theorem compatible (h : a.Within b) : a.compatible b = true :=
  compatible_iff.mpr ⟨h.name.symm, h.length.symm⟩

end Within

/-- Data that fits what is held of a class is united with it. -/
theorem combine_of_compatible (h : a.compatible b = true) :
    CoverageStore.combine (some a) b = a.union b := if_pos h

/-- Data that does not fit is left out. -/
theorem combine_of_not_compatible (h : ¬ a.compatible b = true) :
    CoverageStore.combine (some a) b = a := if_neg h

/-- What is held of a class stays, whatever data comes to it. -/
theorem within_combine (a b : ClassHits) : a.Within (CoverageStore.combine (some a) b) := by
  by_cases h : a.compatible b
  · rw [combine_of_compatible h]
    have hsame : (a.union b).compatible a = true :=
      (compatible_union_left h).trans a.compatible_refl
    obtain ⟨hname, hlength⟩ := compatible_iff.mp hsame
    exact ⟨hname, hlength, fun i hi => (hit_union h i).mpr (.inl hi)⟩
  · rw [combine_of_not_compatible h]
    exact .refl a

end ClassHits

namespace CoverageStore

variable {s t : CoverageStore}

/-! ### No hit is lost -/

/-- A record that is all in another: the other holds its classes with their names and numbers of
probes, and no probe that was hit in the first is not hit in the other. -/
def Within (s t : CoverageStore) : Prop :=
  ∀ id c, s.get id = some c → ∃ d, t.get id = some d ∧ c.Within d

namespace Within

theorem refl (s : CoverageStore) : s.Within s := fun _ c hc => ⟨c, hc, .refl c⟩

theorem trans {x : CoverageStore} (hst : s.Within t) (htx : t.Within x) : s.Within x := by
  intro id c hc
  obtain ⟨d, hd, hcd⟩ := hst id c hc
  obtain ⟨e, he, hde⟩ := htx id d hd
  exact ⟨e, he, hcd.trans hde⟩

end Within

theorem within_put (s : CoverageStore) (d : ExecutionData) : s.Within (s.put d) := by
  intro id c hc
  rw [get_put]
  by_cases hid : d.id = id
  · rw [if_pos hid, hc]
    exact ⟨_, rfl, c.within_combine d.hits⟩
  · rw [if_neg hid]
    exact ⟨c, hc, .refl c⟩

theorem within_putAll (s : CoverageStore) (l : List ExecutionData) : s.Within (s.putAll l) := by
  induction l generalizing s with
  | nil => exact .refl s
  | cons d rest ih => exact (s.within_put d).trans (ih (s.put d))

theorem within_merge (s t : CoverageStore) : s.Within (s.merge t) := s.within_putAll t.toList

theorem within_foldl_merge (s : CoverageStore) (rs : List CoverageStore) :
    s.Within (rs.foldl merge s) := by
  induction rs generalizing s with
  | nil => exact .refl s
  | cons r rest ih => exact (s.within_merge r).trans (ih (s.merge r))

/-! ### Data of one class -/

/-- What is held of a class when several data of it come to what was held before. -/
def combineAll (held : Option ClassHits) (parts : List ClassHits) : Option ClassHits :=
  parts.foldl (fun held p => some (combine held p)) held

/-- Whatever fits what was held first adds its hits. -/
theorem combineAll_some (c : ClassHits) (parts : List ClassHits) :
    ∃ d, combineAll (some c) parts = some d ∧
      d.name = c.name ∧ d.probes.length = c.probes.length ∧
      ∀ i : Nat, d.probes[i]? = some true ↔
        ∃ p ∈ c :: parts, c.compatible p = true ∧ p.probes[i]? = some true := by
  induction parts generalizing c with
  | nil => exact ⟨c, rfl, rfl, rfl, fun i => by simp [c.compatible_refl]⟩
  | cons p rest ih =>
    rw [combineAll, List.foldl_cons, ← combineAll]
    by_cases hp : c.compatible p
    · -- What has been united is still of the class of the first.
      obtain ⟨d, hd, hname, hlength, hhit⟩ := ih (c.union p)
      have hwithin := c.within_combine p
      rw [ClassHits.combine_of_compatible hp] at hwithin ⊢
      refine ⟨d, hd, hname, hlength.trans hwithin.length, fun i => ?_⟩
      simp only [hhit, List.mem_cons, exists_eq_or_imp, ClassHits.compatible_union_left hp,
        ClassHits.hit_union hp, hp, hwithin.compatible, c.compatible_refl, true_and, or_assoc]
    · obtain ⟨d, hd, hname, hlength, hhit⟩ := ih c
      rw [ClassHits.combine_of_not_compatible hp]
      refine ⟨d, hd, hname, hlength, fun i => ?_⟩
      simp only [hhit, List.mem_cons, exists_eq_or_imp, hp, false_and, false_or,
        Bool.false_eq_true]

/-- What a record holds of a class once a list of data was put into it. -/
theorem get_putAll_eq_combineAll (s : CoverageStore) (l : List ExecutionData) (id : UInt64) :
    (s.putAll l).get id =
      combineAll (s.get id) ((l.filter fun d => d.id = id).map ExecutionData.hits) := by
  induction l generalizing s with
  | nil => rfl
  | cons d rest ih =>
    show ((s.put d).putAll rest).get id = _
    rw [ih (s.put d), get_put]
    by_cases hd : d.id = id
    · rw [if_pos hd, List.filter_cons_of_pos (by simpa using hd)]
      rfl
    · rw [if_neg hd, List.filter_cons_of_neg (by simpa using hd)]

/-- What a record holds of a class once other records were merged into it. -/
theorem get_foldl_merge (s : CoverageStore) (rs : List CoverageStore) (id : UInt64) :
    (rs.foldl merge s).get id = combineAll (s.get id) (rs.filterMap fun r => r.get id) := by
  induction rs generalizing s with
  | nil => rfl
  | cons r rest ih =>
    rw [List.foldl_cons, ih (s.merge r), get_merge]
    rw [List.filterMap_cons]
    cases r.get id <;> rfl

/-- A record holds what the data that came of each class comes to: nothing of a class of which none
came, and else a class with the name and the number of probes of the data that came first, in which
a probe was hit if it was hit in some data with this name and number. -/
structure Gathers (s : CoverageStore) (came : UInt64 → List ClassHits) : Prop where
  absent : ∀ id, s.get id = none ↔ came id = []
  present : ∀ id first, (came id).head? = some first → ∃ c, s.get id = some c ∧
    c.name = first.name ∧ c.probes.length = first.probes.length ∧
    ∀ i : Nat, c.probes[i]? = some true ↔
      ∃ d ∈ came id, first.compatible d = true ∧ d.probes[i]? = some true

/-- A record holds what the data of each class comes to if it was put together in its order. -/
theorem gathers_of_combineAll {came : UInt64 → List ClassHits}
    (h : ∀ id, s.get id = combineAll none (came id)) : s.Gathers came where
  absent id := by
    rw [h id]
    cases came id with
    | nil => exact iff_of_true rfl rfl
    | cons c rest =>
      obtain ⟨d, hd, -⟩ := combineAll_some c rest
      exact iff_of_false (fun hnone => by cases hd.symm.trans hnone) nofun
  present id first hfirst := by
    rw [h id]
    cases hcame : came id with
    | nil =>
      rw [hcame] at hfirst
      cases hfirst
    | cons c rest =>
      rw [hcame, List.head?_cons, Option.some_inj] at hfirst
      subst hfirst
      exact combineAll_some c rest

/-! ### What a merge leaves out -/

/-- Two records disagree on the name or on the number of probes of a class. -/
def Clash (s t : CoverageStore) (id : UInt64) : Prop :=
  ∃ c d, s.get id = some c ∧ t.get id = some d ∧ c.compatible d = false

/-- Data comes to a record, and is counted if it is left out. -/
def putCounting (x : CoverageStore × Nat) (d : ExecutionData) : CoverageStore × Nat :=
  (x.1.put d, if x.1.accepts d then x.2 else x.2 + 1)

/-- A merge that counts the data which it leaves out. -/
def mergeCounting (s t : CoverageStore) : CoverageStore × Nat := t.toList.foldl putCounting (s, 0)

theorem mem_toList_iff {d : ExecutionData} : d ∈ s.toList ↔ s.get d.id = some d.hits := by
  rw [get, OrderedMap.find?_eq_some_iff, toList, List.mem_map]
  constructor
  · rintro ⟨e, he, rfl⟩
    exact he
  · intro hd
    exact ⟨_, hd, rfl⟩

/-- The list form ascends by the identifiers. -/
theorem toList_ascending (s : CoverageStore) : s.toList.Pairwise fun d e => d.id < e.id := by
  rw [toList, List.pairwise_map]
  exact s.classes.ascending.imp fun h => Std.compare_eq_lt.mp h

/-- No identifier comes twice in the list form. -/
theorem nodup_ids (s : CoverageStore) : (s.toList.map ExecutionData.id).Nodup := by
  rw [List.nodup_iff_pairwise_ne, List.pairwise_map]
  exact s.toList_ascending.imp fun h => UInt64.ne_of_lt h

theorem accepts_eq_false_iff {d : ExecutionData} :
    s.accepts d = false ↔ ∃ c, s.get d.id = some c ∧ c.compatible d.hits = false := by
  rw [accepts]
  cases s.get d.id <;> simp

/-- Data of other classes does not change whether data fits. -/
theorem accepts_put_of_ne {d e : ExecutionData} (h : d.id ≠ e.id) :
    (s.put d).accepts e = s.accepts e := by
  rw [accepts, accepts, get_put, if_neg h]

/-- Of data of different classes as much is left out as does not fit what was held before. -/
theorem foldl_putCounting (s : CoverageStore) (n : Nat) {l : List ExecutionData}
    (hnodup : (l.map ExecutionData.id).Nodup) :
    l.foldl putCounting (s, n) = (s.putAll l, n + l.countP fun d => !s.accepts d) := by
  induction l generalizing s n with
  | nil => rfl
  | cons d rest ih =>
    rw [List.map_cons, List.nodup_cons] at hnodup
    have hrest : (rest.countP fun e => !(s.put d).accepts e) = rest.countP fun e => !s.accepts e := by
      refine List.countP_congr fun e he => ?_
      have hne : d.id ≠ e.id := fun heq => hnodup.1 (heq ▸ List.mem_map_of_mem he)
      rw [accepts_put_of_ne hne]
    rw [List.foldl_cons, putCounting, ih _ _ hnodup.2, hrest, List.countP_cons]
    refine congrArg (Prod.mk _) ?_
    cases s.accepts d with
    | true => rfl
    | false =>
      show n + 1 + _ = n + (_ + 1)
      omega

/-- A merge leaves out as much as does not fit the first record. -/
theorem mergeCounting_eq (s t : CoverageStore) : s.mergeCounting t = (s.merge t, s.conflicts t) := by
  rw [mergeCounting, foldl_putCounting s 0 t.nodup_ids, Nat.zero_add, List.countP_eq_length_filter]
  rfl

/-- The classes on which two records disagree are those that a merge leaves out and counts. -/
theorem conflicts_eq (s t : CoverageStore) : ∃ ids : List UInt64, ids.Nodup ∧
    (∀ id, id ∈ ids ↔ s.Clash t id) ∧ s.conflicts t = ids.length := by
  refine ⟨(t.toList.filter fun d => !s.accepts d).map ExecutionData.id,
    (List.filter_sublist.map _).nodup t.nodup_ids, fun id => ?_, (List.length_map ..).symm⟩
  rw [List.mem_map]
  constructor
  · rintro ⟨d, hd, rfl⟩
    obtain ⟨hmem, hfits⟩ := List.mem_filter.mp hd
    obtain ⟨c, hc, hclash⟩ := accepts_eq_false_iff.mp (by simpa using hfits)
    exact ⟨c, d.hits, hc, mem_toList_iff.mp hmem, hclash⟩
  · rintro ⟨c, d, hc, hd, hclash⟩
    refine ⟨⟨id, d.name, d.probes⟩, List.mem_filter.mpr ⟨mem_toList_iff.mpr hd, ?_⟩, rfl⟩
    have hfits : s.accepts ⟨id, d.name, d.probes⟩ = false :=
      accepts_eq_false_iff.mpr ⟨c, hc, hclash⟩
    rw [hfits, Bool.not_false]

/-- A merge leaves what it does not fit as it was. -/
theorem get_merge_of_clash {id : UInt64} (h : s.Clash t id) : (s.merge t).get id = s.get id := by
  obtain ⟨c, d, hc, hd, hclash⟩ := h
  rw [get_merge, hd, hc]
  exact congrArg some (ClassHits.combine_of_not_compatible (Bool.eq_false_iff.mp hclash))

/-! ### All together -/

/-- **What merging comes to, exactly.**  A record made from a list, and a record merged from any
number of records, holds of each class what the data that came of it comes to.  A single merge counts
the classes on which the records disagree and leaves them as they were, and no hit that was held is
ever lost.  The list form of a record has one entry for each class, ascends by the identifiers, and
gives the record back. -/
theorem merge_exact :
    (∀ l : List ExecutionData, (ofList l).Gathers fun id =>
        (l.filter fun d => d.id = id).map ExecutionData.hits) ∧
      (∀ rs : List CoverageStore, (rs.foldl merge empty).Gathers fun id =>
        rs.filterMap fun r => r.get id) ∧
      (∀ s t : CoverageStore, (s.mergeCounting t).1 = s.merge t ∧
        (∃ ids : List UInt64, ids.Nodup ∧ (∀ id, id ∈ ids ↔ s.Clash t id) ∧
          (s.mergeCounting t).2 = ids.length) ∧
        ∀ id, s.Clash t id → (s.merge t).get id = s.get id) ∧
      (∀ (s : CoverageStore) (l : List ExecutionData), s.Within (s.putAll l)) ∧
      (∀ (s : CoverageStore) (rs : List CoverageStore), s.Within (rs.foldl merge s)) ∧
      ∀ s : CoverageStore, (∀ d, d ∈ s.toList ↔ s.get d.id = some d.hits) ∧
        s.toList.Pairwise (fun d e => d.id < e.id) ∧ ofList s.toList = s := by
  refine ⟨fun l => gathers_of_combineAll (get_putAll_eq_combineAll empty l),
    fun rs => gathers_of_combineAll (get_foldl_merge empty rs), fun s t => ?_, within_putAll,
    within_foldl_merge, fun s => ⟨fun _ => mem_toList_iff, s.toList_ascending, s.empty_merge⟩⟩
  rw [mergeCounting_eq]
  exact ⟨rfl, s.conflicts_eq t, fun _ => get_merge_of_clash⟩

/-- The second data of class 7 has another name and is left out. -/
example : (ofList [⟨7, "A", [true, false]⟩, ⟨7, "B", [true, true]⟩, ⟨7, "A", [false, true]⟩]).toList =
    [⟨7, "A", [true, true]⟩] := by decide

end CoverageStore

end TestTelemetry
