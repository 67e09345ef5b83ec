/-
Which classes coverage is credited to.

A merge takes two data for those of one class if they agree on its name and on its number of probes.
A bundle asks of the data that is held under the identifier of an analysed class only that there are
as many bits as probes.  So a class can be credited with hits that were recorded under another name.

* `ClassCoverage.Credited`, `ClassCoverage.Counts.credited_iff` — when a counter of a class shows
  something covered;
* `CoverageStore.HoldsDataOf` — a record holds data of an analysed class, in the sense of merging;
* `buildBundle_credits_iff` — when a class of a bundle is credited, and when all of them are credited
  only with their own data;
* `renamed_class_is_credited` — a class that is credited with the hits of another one.
-/
import TestTelemetry.Proofs.Coverage.Merge
import TestTelemetry.Proofs.Coverage.Counters

namespace TestTelemetry

theorem instructionCount_pos_iff {l : List ProbeInfo} :
    0 < instructionCount l ↔ ∃ p ∈ l, 0 < p.instructions.toNat := by
  simp only [instructionCount, List.sum_pos_iff_exists_pos_nat, List.mem_map,
    exists_exists_and_eq_and]

theorem ClassAnalysis.mem_hitProbes_iff {a : ClassAnalysis} {hit : Nat → Bool} {p : ProbeInfo} :
    p ∈ a.hitProbes hit ↔ ∃ i : Nat, a.probes[i]? = some p ∧ hit i = true := by
  rw [hitProbes, List.mem_map]
  constructor
  · rintro ⟨x, hx, rfl⟩
    obtain ⟨hmem, hhit⟩ := List.mem_filter.mp hx
    exact ⟨x.2, List.mem_zipIdx_iff_getElem?.mp hmem, hhit⟩
  · rintro ⟨i, hp, hhit⟩
    exact ⟨(p, i), List.mem_filter.mpr ⟨List.mem_zipIdx_iff_getElem?.mpr hp, hhit⟩, rfl⟩

namespace ClassCoverage

/-- Some counter of a class shows something covered: that of its instructions, that of its lines, or
that of one line. -/
def Credited (c : ClassCoverage) : Prop :=
  0 < c.instructions.covered ∨ 0 < c.lineCounter.covered ∨ ∃ x ∈ c.lines.values, 0 < x.covered

/-- The counters of a class show something covered all at once, and they do when a probe that stands
for instructions was hit. -/
theorem Counts.credited_iff {c : ClassCoverage} {a : ClassAnalysis} {hit : Nat → Bool}
    (h : c.Counts a hit) : c.Credited ↔
      ∃ (i : Nat) (p : ProbeInfo), a.probes[i]? = some p ∧ hit i = true ∧ 0 < p.instructions.toNat := by
  have hline : 0 < c.instructions.covered ↔ ∃ x ∈ c.lines.values, 0 < x.covered := by
    simp only [← h.covered_lines, List.sum_pos_iff_exists_pos_nat, List.mem_map,
      exists_exists_and_eq_and]
  have hlines : 0 < c.lineCounter.covered ↔ ∃ x ∈ c.lines.values, 0 < x.covered := by
    rw [lineCounter, List.countP_pos_iff]
    simp only [decide_eq_true_eq, gt_iff_lt]
  have hprobe : 0 < c.instructions.covered ↔ ∃ p ∈ a.hitProbes hit, 0 < p.instructions.toNat := by
    rw [h.instructions]
    exact instructionCount_pos_iff
  rw [Credited, hlines, ← hline, or_self, or_self, hprobe]
  constructor
  · rintro ⟨p, hp, hpos⟩
    obtain ⟨i, hat, hhit⟩ := ClassAnalysis.mem_hitProbes_iff.mp hp
    exact ⟨i, p, hat, hhit, hpos⟩
  · rintro ⟨i, p, hat, hhit, hpos⟩
    exact ⟨p, ClassAnalysis.mem_hitProbes_iff.mpr ⟨i, hat, hhit⟩, hpos⟩

end ClassCoverage

/-! ### Data of an analysed class -/

/-- What a record would hold of an analysed class of which no probe was hit. -/
def ClassAnalysis.unhit (a : ClassAnalysis) : ClassHits := ⟨a.name, a.probes.map fun _ => false⟩

/-- A record holds data under the identifier of an analysed class, and it is of this class as a
merge sees it. -/
def CoverageStore.HoldsDataOf (s : CoverageStore) (a : ClassAnalysis) : Prop :=
  ∃ d, s.get a.id = some d ∧ d.compatible a.unhit = true

/-- Data has a hit that counts for an analysed class: it has as many bits as the class has probes,
and a probe that stands for instructions was hit. -/
def ClassHits.HitsIn (d : ClassHits) (a : ClassAnalysis) : Prop :=
  d.probes.length = a.probes.length ∧ ∃ (i : Nat) (p : ProbeInfo),
    a.probes[i]? = some p ∧ d.probes[i]? = some true ∧ 0 < p.instructions.toNat

theorem ClassHits.compatible_unhit_iff {d : ClassHits} {a : ClassAnalysis} :
    d.compatible a.unhit = true ↔ d.name = a.name ∧ d.probes.length = a.probes.length := by
  rw [compatible_iff, ClassAnalysis.unhit, List.length_map]

theorem CoverageStore.hits_eq_true_iff {s : CoverageStore} {a : ClassAnalysis} {i : Nat} :
    s.hits a i = true ↔
      ∃ d, s.get a.id = some d ∧ d.probes.length = a.probes.length ∧ d.probes[i]? = some true := by
  simp only [hits, Option.any_eq_true, Bool.and_eq_true, decide_eq_true_eq]

/-- A class is credited when the data under its identifier has a hit that counts for it. -/
theorem ClassCoverage.Counts.credited_iff_hitsIn {c : ClassCoverage} {a : ClassAnalysis}
    {s : CoverageStore} (h : c.Counts a (s.hits a)) :
    c.Credited ↔ ∃ d, s.get a.id = some d ∧ d.HitsIn a := by
  rw [h.credited_iff]
  constructor
  · rintro ⟨i, p, hat, hhit, hpos⟩
    obtain ⟨d, hd, hlength, hbit⟩ := CoverageStore.hits_eq_true_iff.mp hhit
    exact ⟨d, hd, hlength, i, p, hat, hbit, hpos⟩
  · rintro ⟨d, hd, hlength, i, p, hat, hbit, hpos⟩
    exact ⟨i, p, hat, CoverageStore.hits_eq_true_iff.mpr ⟨d, hd, hlength, hbit⟩, hpos⟩

/-- A class that is credited is credited with its own data exactly if the data under its identifier
has its name. -/
theorem ClassCoverage.Counts.own_iff {c : ClassCoverage} {a : ClassAnalysis} {s : CoverageStore}
    (h : c.Counts a (s.hits a)) : (c.Credited → s.HoldsDataOf a) ↔
      ∀ d, s.get a.id = some d → d.HitsIn a → d.name = a.name := by
  rw [h.credited_iff_hitsIn]
  constructor
  · intro hown d hd hhits
    obtain ⟨d', hd', hfits⟩ := hown ⟨d, hd, hhits⟩
    obtain rfl : d = d' := Option.some_inj.mp (hd.symm.trans hd')
    exact (ClassHits.compatible_unhit_iff.mp hfits).1
  · rintro hname ⟨d, hd, hhits⟩
    exact ⟨d, hd, ClassHits.compatible_unhit_iff.mpr ⟨hname d hd hhits, hhits.1⟩⟩

theorem forall₂_iff_forall_mem {α β : Type} {R S : α → β → Prop} {P : α → Prop} {l : List α}
    {r : List β} (h : List.Forall₂ S l r) (hS : ∀ a b, S a b → (R a b ↔ P a)) :
    List.Forall₂ R l r ↔ ∀ a ∈ l, P a := by
  induction h with
  | nil => exact iff_of_true .nil nofun
  | cons hab _ ih => rw [List.forall₂_cons, List.forall_mem_cons, hS _ _ hab, ih]

/-- **What a bundle credits its classes with.**  A class is credited exactly when the data under its
identifier has as many bits as the class has probes and a probe with instructions was hit; on the name
under which this was recorded nothing depends.  So all classes of a bundle are credited only with
their own data if and only if no such data has another name. -/
theorem buildBundle_credits_iff {t : FileTree} {store : CoverageStore} {dirs : List Path}
    {b : CoverageBundle} (h : buildBundle t store dirs = .ok (some b)) :
    ∃ analyses, loadAnalyses t dirs = .ok analyses ∧
      List.Forall₂ (fun a c => c.name = a.name ∧
        (c.Credited ↔ ∃ d, store.get a.id = some d ∧ d.HitsIn a)) analyses b.classes ∧
      (List.Forall₂ (fun a c => c.Credited → store.HoldsDataOf a) analyses b.classes ↔
        ∀ a ∈ analyses, ∀ d, store.get a.id = some d → d.HitsIn a → d.name = a.name) := by
  obtain ⟨analyses, hload, hcounts, -⟩ := (buildBundle_counts t store dirs).2.2 b h
  refine ⟨analyses, hload, hcounts.imp fun a c hc => ?_, ?_⟩
  · exact ⟨hc.name, hc.credited_iff_hitsIn⟩
  · exact forall₂_iff_forall_mem hcounts fun a c hc => hc.own_iff

/-- Under the identifier of `A` its own hits are held, and under that of `B` data of an older build
with one bit too many.  Only `A` is credited. -/
theorem buildBundle_credits_own_data :
    let a : ClassAnalysis := ⟨1, "A", none, [⟨10, 4⟩, ⟨11, 6⟩]⟩
    let b : ClassAnalysis := ⟨2, "B", none, [⟨5, 8⟩]⟩
    let t : FileTree := ⟨["w"], [(["w", "o", "A.probes.json"], Text.encode a.toJson.text),
      (["w", "o", "B.probes.json"], Text.encode b.toJson.text)], [], []⟩
    let store := CoverageStore.ofList [⟨1, "A", [false, true]⟩, ⟨2, "B", [true, true]⟩]
    ∃ bundle, buildBundle t store ["o"] = .ok (some bundle) ∧
      List.Forall₂ (fun a c => c.Credited → store.HoldsDataOf a) [a, b] bundle.classes ∧
      bundle.instructions = ⟨6, 18⟩ := by
  intro a b t store
  have hload : loadAnalyses t ["o"] = .ok [a, b] := by
    rw [loadAnalyses_of_ascending (by decide +kernel)]
    decide +kernel
  have hbuild : buildBundle t store ["o"] = .ok (some (.ofClasses bundleName
      ([a, b].map fun a => .ofAnalysis a (usableHits store a)))) :=
    buildBundle_eq_some_iff.mpr ⟨by decide, by decide, _, hload, rfl⟩
  obtain ⟨analyses, hanalyses, -, hown⟩ := buildBundle_credits_iff hbuild
  obtain rfl : [a, b] = analyses := Except.ok.inj (hload.symm.trans hanalyses)
  refine ⟨_, hbuild, hown.mpr fun x hx d hd hhits => ?_, by decide +kernel⟩
  rcases List.mem_pair.mp hx with rfl | rfl
  · obtain rfl : (⟨"A", [false, true]⟩ : ClassHits) = d := Option.some_inj.mp hd
    rfl
  · obtain rfl : (⟨"B", [true, true]⟩ : ClassHits) = d := Option.some_inj.mp hd
    rfl

/-- Class 7 was recorded as `Old` and is now `New`, with as many probes.  A merge would leave data of
`New` out, but the bundle credits `New` with the hits of `Old`. -/
theorem renamed_class_is_credited :
    let a : ClassAnalysis := ⟨7, "New", none, [⟨3, 5⟩]⟩
    let t : FileTree := ⟨["w"], [(["w", "o", "New.probes.json"], Text.encode a.toJson.text)], [], []⟩
    let store := CoverageStore.ofList [⟨7, "Old", [true]⟩]
    store.accepts ⟨7, "New", [true]⟩ = false ∧ ¬ store.HoldsDataOf a ∧
      loadAnalyses t ["o"] = .ok [a] ∧ ∃ c : ClassCoverage,
        buildBundle t store ["o"] = .ok (some (.ofClasses bundleName [c])) ∧
          c.name = "New" ∧ c.instructions.covered = 5 ∧ c.Credited := by
  intro a t store
  have hload : loadAnalyses t ["o"] = .ok [a] := by
    rw [loadAnalyses_of_ascending (by decide +kernel)]
    decide +kernel
  refine ⟨by decide, ?_, hload, .ofAnalysis a (usableHits store a), ?_, rfl, by decide, ?_⟩
  · rintro ⟨d, hd, hfits⟩
    obtain rfl : (⟨"Old", [true]⟩ : ClassHits) = d := Option.some_inj.mp hd
    exact absurd (ClassHits.compatible_unhit_iff.mp hfits).1 (by decide)
  · exact buildBundle_eq_some_iff.mpr ⟨by decide, by decide, _, hload, rfl⟩
  · exact .inl (by decide)

end TestTelemetry
