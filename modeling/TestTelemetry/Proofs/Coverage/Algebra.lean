/-
The laws of merging coverage records.

Merging is a union only as far as the records fit.  Of a class on which two records disagree the
first record is kept, so the two orders of a merge differ exactly there.  What was merged once is
absorbed: whether its data was taken or left out, merging it again changes nothing.

* `CoverageStore.merge_comm_iff` — which two records can be merged in either order;
* `CoverageStore.merge_assoc` — merges can be grouped as one likes if the first two records fit;
* `CoverageStore.Absorbs` — a record to which another has nothing to add;
* `CoverageStore.merge_laws` — all laws together.
-/
import TestTelemetry.Proofs.Coverage.Merge

namespace TestTelemetry

namespace ClassHits

variable {a b c : ClassHits}

theorem union_assoc (a b c : ClassHits) : (a.union b).union c = a.union (b.union c) := by
  simp only [union, ClassHits.mk.injEq, true_and]
  refine List.ext_getElem ?_ fun i h₁ h₂ => ?_
  · simp only [List.length_zipWith]
    omega
  · simp only [List.getElem_zipWith]
    exact Bool.or_assoc ..

theorem union_self (a : ClassHits) : a.union a = a := by
  obtain ⟨name, probes⟩ := a
  simp only [union, ClassHits.mk.injEq, true_and, List.zipWith_self, Bool.or_self]
  exact List.map_id' probes

/-- What fits one of two hits of a class fits the other. -/
theorem compatible_congr (h : a.compatible b = true) : a.compatible c = b.compatible c := by
  obtain ⟨hn, hl⟩ := compatible_iff.mp h
  rw [compatible, compatible, hn, hl]

end ClassHits

namespace CoverageStore

variable {s t x : CoverageStore} {h c d : ClassHits}

/-! ### One class -/

/-- Data that comes a second time adds nothing. -/
theorem combine_combine_self (held : Option ClassHits) (c : ClassHits) :
    combine (some (combine held c)) c = combine held c := by
  cases held with
  | none =>
    simp only [combine, c.compatible_refl, if_true]
    exact c.union_self
  | some h =>
    by_cases hc : h.compatible c
    · simp only [combine, hc, if_true, ClassHits.compatible_union_left hc, ClassHits.union_assoc,
        ClassHits.union_self]
    · simp only [combine, hc, if_false, Bool.false_eq_true]

/-- Data that adds nothing still adds nothing when other data has come. -/
theorem combine_combine_of_absorbed (habs : combine (some h) c = h) (d : ClassHits) :
    combine (some (combine (some h) d)) c = combine (some h) d := by
  by_cases hd : h.compatible d
  · by_cases hc : h.compatible c
    · have hunion : h.union c = h := by
        simpa only [combine, hc, if_true] using habs
      simp only [combine, hd, if_true, ClassHits.compatible_union_left hd, hc]
      rw [ClassHits.union_right_comm, hunion]
    · simp only [combine, hd, if_true, ClassHits.compatible_union_left hd, hc, if_false,
        Bool.false_eq_true]
  · simpa only [combine, hd, if_false, Bool.false_eq_true] using habs

/-- Data that fits what is held can be put together first with whatever comes next. -/
theorem combine_assoc (hhc : h.compatible c = true) (d : ClassHits) :
    combine (some (combine (some h) c)) d = combine (some h) (combine (some c) d) := by
  have hhd : h.compatible d = c.compatible d := ClassHits.compatible_congr hhc
  by_cases hcd : c.compatible d
  · have hunion : h.compatible (c.union d) = true := by
      refine ClassHits.compatible_symm ?_
      rw [ClassHits.compatible_union_left hcd]
      exact ClassHits.compatible_symm hhc
    simp only [combine, hhc, hcd, hunion, if_true, ClassHits.compatible_union_left hhc,
      hhd, ClassHits.union_assoc]
  · simp only [combine, hhc, hcd, hhd, if_true, if_false, ClassHits.compatible_union_left hhc,
      Bool.false_eq_true]

/-- Data of one class comes to the same in both orders only if it fits. -/
theorem compatible_of_combine_comm (hcomm : combine (some h) c = combine (some c) h) :
    h.compatible c = true := by
  by_cases hhc : h.compatible c
  · exact hhc
  · -- Neither takes the other in, so each order keeps its first.
    have hch : ¬ c.compatible h = true := fun hch => hhc (ClassHits.compatible_symm hch)
    simp only [combine, hhc, hch, if_false, Bool.false_eq_true] at hcomm
    exact hcomm ▸ h.compatible_refl

/-! ### Two and three records -/

theorem empty_merge (s : CoverageStore) : empty.merge s = s := by
  refine ext_get fun id => ?_
  rw [get_merge]
  cases s.get id with
  | none => rfl
  | some c => rfl

theorem merge_empty (s : CoverageStore) : s.merge empty = s := rfl

/-- **Two records can be merged in either order exactly if they agree** on the names and the
numbers of probes of the classes that both hold. -/
theorem merge_comm_iff (s t : CoverageStore) : s.merge t = t.merge s ↔ s.Compatible t := by
  constructor
  · intro hcomm id c d hc hd
    have hget := congrArg (fun x => x.get id) hcomm
    simp only [get_merge, hc, hd, Option.some_inj] at hget
    exact compatible_of_combine_comm hget
  · intro hst
    calc s.merge t = (empty.merge s).merge t := by rw [empty_merge]
      _ = (empty.merge t).merge s := merge_right_comm (.empty_left s) (.empty_left t) hst
      _ = t.merge s := by rw [empty_merge]

/-- Merges can be grouped as one likes if the first two records fit, whatever the third holds. -/
theorem merge_assoc (hst : s.Compatible t) (x : CoverageStore) :
    (s.merge t).merge x = s.merge (t.merge x) := by
  refine ext_get fun id => ?_
  rw [get_merge, get_merge, get_merge, get_merge]
  -- Only a class that all three records hold could tell the two groupings apart.
  cases hx : x.get id with
  | none => rfl
  | some e =>
    cases ht : t.get id with
    | none => rfl
    | some d =>
      cases hs : s.get id with
      | none => rfl
      | some c => exact congrArg some (combine_assoc (hst id c d hs ht) e)

/-! ### Records that come again -/

/-- A record to which another has nothing to add: each class of the other is held, and its data
either is in what is held or does not fit it. -/
def Absorbs (s t : CoverageStore) : Prop :=
  ∀ id c, t.get id = some c → ∃ h, s.get id = some h ∧ combine (some h) c = h

namespace Absorbs

/-- What has been merged is absorbed. -/
theorem of_merge (s t : CoverageStore) : (s.merge t).Absorbs t := by
  intro id c hc
  refine ⟨combine (s.get id) c, ?_, combine_combine_self (s.get id) c⟩
  rw [get_merge, hc]

/-- What is absorbed stays absorbed when another record is merged. -/
theorem merge (hst : s.Absorbs t) (x : CoverageStore) : (s.merge x).Absorbs t := by
  intro id c hc
  obtain ⟨h, hh, habs⟩ := hst id c hc
  cases hx : x.get id with
  | none => exact ⟨h, by rw [get_merge, hx, hh], habs⟩
  | some d =>
    refine ⟨combine (some h) d, ?_, combine_combine_of_absorbed habs d⟩
    rw [get_merge, hx, hh]

/-- What is absorbed stays absorbed however many records are merged. -/
theorem foldl_merge (hst : s.Absorbs t) (rs : List CoverageStore) :
    (rs.foldl CoverageStore.merge s).Absorbs t := by
  induction rs generalizing s with
  | nil => exact hst
  | cons r rest ih => exact ih (hst.merge r)

/-- Merging a record that is absorbed changes nothing. -/
theorem merge_eq (hst : s.Absorbs t) : s.merge t = s := by
  refine ext_get fun id => ?_
  rw [get_merge]
  cases ht : t.get id with
  | none => rfl
  | some c =>
    obtain ⟨h, hh, habs⟩ := hst id c ht
    rw [hh]
    exact congrArg some habs

end Absorbs

/-- A record that was merged once can come again any time later. -/
theorem foldl_merge_of_mem (s : CoverageStore) {rs : List CoverageStore} {r : CoverageStore}
    (hr : r ∈ rs) : (rs.foldl merge s).merge r = rs.foldl merge s := by
  obtain ⟨before, after, rfl⟩ := List.append_of_mem hr
  rw [List.foldl_append, List.foldl_cons]
  exact ((Absorbs.of_merge (before.foldl merge s) r).foldl_merge after).merge_eq

/-! ### All laws -/

/-- **The laws of merging.**  Two records can be merged in either order exactly if they are
compatible; merges can be grouped as one likes if the first two records are; merging with the empty
record changes nothing; and after any merges, compatible or not, a record that was among them is
absorbed. -/
theorem merge_laws :
    (∀ s t : CoverageStore, s.merge t = t.merge s ↔ s.Compatible t) ∧
      (∀ s t x : CoverageStore, s.Compatible t →
        (s.merge t).merge x = s.merge (t.merge x)) ∧
      (∀ s : CoverageStore, s.merge empty = s ∧ empty.merge s = s) ∧
      ∀ (s : CoverageStore) (rs : List CoverageStore), ∀ r ∈ rs,
        (rs.foldl merge s).merge r = rs.foldl merge s :=
  ⟨merge_comm_iff, fun _ _ x hst => merge_assoc hst x,
    fun s => ⟨merge_empty s, empty_merge s⟩, fun s _ _ hr => foldl_merge_of_mem s hr⟩

/-- A record of another class under the same identifier fits neither of two records that fit each
other: it cannot change places with them, but it can be grouped with them, and it can come again. -/
theorem renamed_class_is_absorbed :
    let s := ofList [⟨7, "A", [true, false]⟩]
    let t := ofList [⟨7, "A", [false, true]⟩]
    let x := ofList [⟨7, "B", [true]⟩, ⟨8, "C", [true]⟩]
    s.merge t = t.merge s ∧ ¬ s.Compatible x ∧
      (s.merge t).merge x = s.merge (t.merge x) ∧
      ((s.merge x).merge t).merge x = (s.merge x).merge t := by
  intro s t x
  obtain ⟨hcomm, hassoc, -, hagain⟩ := merge_laws
  have hst : s.Compatible t := (hcomm s t).mp (by decide)
  have hsx : ¬ s.Compatible x := fun h => absurd ((hcomm s x).mpr h) (by decide)
  exact ⟨(hcomm s t).mpr hst, hsx, hassoc s t x hst, hagain s [x, t] x (by simp)⟩

end CoverageStore

end TestTelemetry
