/-
The coverage of modules that share no class.

Two modules were run on their own, each with a record and with folders for its classes.  If neither
record knows a class of the other module, the bundle of both together adds up those of the two,
wherever the files of the one stand among those of the other.

* `CoverageStore.get_merge_left`, `CoverageStore.get_merge_right` — classes that only one of two
  records holds;
* `CoverageBundle.IsSumOf` — the classes of two bundles in some order, and their counters added up;
* `CoverageBundle.ofClasses_isSumOf` — a bundle of classes that are those of two bundles;
* `buildBundle_disjoint` — the bundle of two modules that share no class.
-/
import TestTelemetry.Proofs.Coverage.Analyses
import TestTelemetry.Proofs.Coverage.Monotone

namespace TestTelemetry

/-! ### Records of different classes -/

namespace CoverageStore

variable {s x : CoverageStore} {id : UInt64}

/-- A class that only the first of two records holds. -/
theorem get_merge_left (h : x.get id = none) : (s.merge x).get id = s.get id := by
  rw [get_merge, h]

/-- A class that only the second of two records holds. -/
theorem get_merge_right (h : s.get id = none) : (s.merge x).get id = x.get id := by
  rw [get_merge, h]
  cases x.get id <;> rfl

end CoverageStore

theorem usableHits_congr {s x : CoverageStore} {a : ClassAnalysis} (h : s.get a.id = x.get a.id) :
    usableHits s a = usableHits x a := by
  rw [usableHits, usableHits, h]

/-! ### Bundles that add up -/

/-- Counters add up to the same in any order. -/
theorem Counter.sum_perm {l r : List Counter} (h : l.Perm r) : sum l = sum r := by
  rw [sum_eq, sum_eq, (h.map covered).sum_nat, (h.map total).sum_nat]

theorem Counter.sum_map_of_perm {l l₁ l₂ : List ClassCoverage} (h : l.Perm (l₁ ++ l₂))
    (f : ClassCoverage → Counter) : sum (l.map f) = (sum (l₁.map f)).add (sum (l₂.map f)) := by
  rw [sum_perm (h.map f), List.map_append, sum_append]

/-- A bundle has the classes of two others, in some order, and counts what these count together. -/
structure CoverageBundle.IsSumOf (d b c : CoverageBundle) : Prop where
  classes : d.classes.Perm (b.classes ++ c.classes)
  instructions : d.instructions = b.instructions.add c.instructions
  lines : d.lines = b.lines.add c.lines

theorem CoverageBundle.ofClasses_isSumOf (name : String) {l l₁ l₂ : List ClassCoverage}
    (h : l.Perm (l₁ ++ l₂)) :
    (ofClasses name l).IsSumOf (ofClasses name l₁) (ofClasses name l₂) where
  classes := h
  instructions := Counter.sum_map_of_perm h _
  lines := Counter.sum_map_of_perm h _

/-- **Modules that share no class add up.**  Of two records neither is empty, and neither holds a
class that was analysed for the other; the analyses below the folders of both can be loaded and are
of different classes.  Then there are bundles of the two modules and of both together, and the last
one has the classes of the first two and counts what they count together.  Nothing is asked of
classes that were not analysed: the records may disagree on these. -/
theorem buildBundle_disjoint {t : FileTree} {s x : CoverageStore} {dirs dirs' : List Path}
    {as bs : List ClassAnalysis} (hs : s ≠ .empty) (hx : x ≠ .empty) (hdirs : dirs ≠ [])
    (hdirs' : dirs' ≠ []) (has : loadAnalyses t dirs = .ok as)
    (hbs : loadAnalyses t dirs' = .ok bs) (hids : ∀ a ∈ as, ∀ b ∈ bs, a.id ≠ b.id)
    (hsb : ∀ b ∈ bs, s.get b.id = none) (hxa : ∀ a ∈ as, x.get a.id = none) :
    ∃ b c d, buildBundle t s dirs = .ok (some b) ∧ buildBundle t x dirs' = .ok (some c) ∧
      buildBundle t (s.merge x) (dirs ++ dirs') = .ok (some d) ∧ d.IsSumOf b c := by
  obtain ⟨cs, hcs, hfirst, hsecond⟩ := loadAnalyses_append has hbs hids
  have hclasses : cs.Perm (as ++ bs) := by
    have hsplit := List.filter_append_perm (fun c => decide (c.id ∈ as.map ClassAnalysis.id)) cs
    rw [hfirst, hsecond] at hsplit
    exact hsplit.symm
  have hleft : as.map (fun a => ClassCoverage.ofAnalysis a (usableHits (s.merge x) a)) =
      as.map fun a => .ofAnalysis a (usableHits s a) :=
    List.map_congr_left fun a ha => by
      rw [usableHits_congr (CoverageStore.get_merge_left (hxa a ha))]
  have hright : bs.map (fun a => ClassCoverage.ofAnalysis a (usableHits (s.merge x) a)) =
      bs.map fun a => .ofAnalysis a (usableHits x a) :=
    List.map_congr_left fun b hb => by
      rw [usableHits_congr (CoverageStore.get_merge_right (hsb b hb))]
  have hcovered := hclasses.map fun a => ClassCoverage.ofAnalysis a (usableHits (s.merge x) a)
  rw [List.map_append, hleft, hright] at hcovered
  exact ⟨_, _, _, buildBundle_eq_some_iff.mpr ⟨hdirs, hs, as, has, rfl⟩,
    buildBundle_eq_some_iff.mpr ⟨hdirs', hx, bs, hbs, rfl⟩,
    buildBundle_eq_some_iff.mpr ⟨by simp [hdirs], (s.within_merge x).ne_empty hs, cs, hcs, rfl⟩,
    CoverageBundle.ofClasses_isSumOf bundleName hcovered⟩

/-- The file of the second module stands between those of the first.  What the two records say of
class 9, which is not analysed, does not fit. -/
theorem buildBundle_disjoint_interleaved :
    let a : ClassAnalysis := ⟨1, "A", none, [⟨10, 4⟩, ⟨11, 6⟩]⟩
    let b : ClassAnalysis := ⟨2, "B", none, [⟨5, 8⟩]⟩
    let c : ClassAnalysis := ⟨3, "C", none, [⟨7, 3⟩]⟩
    let t : FileTree := ⟨["w"], [(["w", "a", "A.probes.json"], Text.encode a.toJson.text),
      (["w", "b", "B.probes.json"], Text.encode b.toJson.text),
      (["w", "c", "C.probes.json"], Text.encode c.toJson.text)], [], []⟩
    let s := CoverageStore.ofList
      [⟨1, "A", [true, false]⟩, ⟨3, "C", [false]⟩, ⟨9, "D", [true]⟩]
    let x := CoverageStore.ofList [⟨2, "B", [true]⟩, ⟨9, "E", [true]⟩]
    ∃ first second both, buildBundle t s ["a", "c"] = .ok (some first) ∧
      buildBundle t x ["b"] = .ok (some second) ∧
      buildBundle t (s.merge x) ["a", "c", "b"] = .ok (some both) ∧ both.IsSumOf first second ∧
      first.instructions = ⟨4, 13⟩ ∧ second.instructions = ⟨8, 8⟩ ∧
      both.instructions = ⟨12, 21⟩ := by
  intro a b c t s x
  have hfirst : loadAnalyses t ["a", "c"] = .ok [a, c] := by
    rw [loadAnalyses_of_ascending (by decide +kernel)]
    decide +kernel
  have hsecond : loadAnalyses t ["b"] = .ok [b] := by
    rw [loadAnalyses_of_ascending (by decide +kernel)]
    decide +kernel
  obtain ⟨first, second, both, hb, hc, hd, hsum⟩ :=
    buildBundle_disjoint (s := s) (x := x) (by decide) (by decide) (by decide) (by decide)
      hfirst hsecond (by decide) (by decide) (by decide)
  obtain ⟨-, -, analyses, hload, rfl⟩ := buildBundle_eq_some_iff.mp hb
  obtain rfl : [a, c] = analyses := Except.ok.inj (hfirst.symm.trans hload)
  obtain ⟨-, -, analyses, hload, rfl⟩ := buildBundle_eq_some_iff.mp hc
  obtain rfl : [b] = analyses := Except.ok.inj (hsecond.symm.trans hload)
  refine ⟨_, _, both, hb, hc, hd, hsum, by decide +kernel, by decide +kernel, ?_⟩
  rw [hsum.instructions]
  decide +kernel

end TestTelemetry
