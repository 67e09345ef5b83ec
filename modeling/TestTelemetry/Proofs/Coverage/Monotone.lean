/-
More coverage never lowers a report.

A merge loses no hit, so every probe that a record says was hit is still hit when another record has
been merged into it, whether the two fit or not.  The bundle of the merged record counts the same
classes and lines and the same totals, and of each at least as much as covered.

* `Counter.Below`, `ClassCoverage.Below`, `CoverageBundle.Below` — the same in all, and at least as
  much of it covered;
* `CoverageStore.Within.hits` — what was hit in a record is hit in every record that it is all in;
* `ClassCoverage.Counts.below` — the counters of a class when more of its probes were hit;
* `buildBundle_merge_below` — the bundles before and after a merge.
-/
import TestTelemetry.Proofs.Coverage.Union
import TestTelemetry.Proofs.Coverage.Counters

namespace TestTelemetry

/-- As much in all, and at least as much of it covered. -/
structure Counter.Below (x y : Counter) : Prop where
  total : y.total = x.total
  covered : x.covered ≤ y.covered

/-- The same class with the same lines, and at least as much of each covered. -/
structure ClassCoverage.Below (c d : ClassCoverage) : Prop where
  name : d.name = c.name
  sourceFile : d.sourceFile = c.sourceFile
  instructions : c.instructions.Below d.instructions
  /-- The lines are the same one by one. -/
  lines : List.Forall₂ (fun x y => y.1 = x.1 ∧ x.2.Below y.2) c.lines.entries d.lines.entries

/-- The same classes in their order, and at least as much of each, and of all, covered. -/
structure CoverageBundle.Below (b c : CoverageBundle) : Prop where
  name : c.name = b.name
  classes : List.Forall₂ ClassCoverage.Below b.classes c.classes
  instructions : b.instructions.Below c.instructions
  lines : b.lines.Below c.lines

/-! ### One class -/

namespace ClassAnalysis

variable {a : ClassAnalysis} {hit hit' : Nat → Bool}

/-- If more probes were hit, those that were hit before are among them. -/
theorem hitProbes_sublist (h : ∀ i, hit i = true → hit' i = true) :
    (a.hitProbes hit).Sublist (a.hitProbes hit') :=
  (List.monotone_filter_right _ fun p hp => h p.2 hp).map _

end ClassAnalysis

namespace ClassCoverage

variable {a : ClassAnalysis} {c d : ClassCoverage} {hit hit' : Nat → Bool}

/-- The counters of a class of which more probes were hit. -/
theorem Counts.below (hc : c.Counts a hit) (hd : d.Counts a hit')
    (h : ∀ i, hit i = true → hit' i = true) : c.Below d where
  name := hd.name.trans hc.name.symm
  sourceFile := hd.sourceFile.trans hc.sourceFile.symm
  instructions := by
    rw [hc.instructions, hd.instructions]
    exact ⟨rfl, instructionCount_le_of_sublist (ClassAnalysis.hitProbes_sublist h)⟩
  lines := by
    refine OrderedMap.forall₂_entries (fun n => (hc.lines n).trans (hd.lines n).symm)
      fun n x y hx hy => ?_
    rw [hc.line n x hx, hd.line n y hy]
    exact ⟨rfl, instructionCount_le_of_sublist ((ClassAnalysis.hitProbes_sublist h).filter _)⟩

/-- No line that has a covered instruction loses it. -/
theorem Below.lineCounter (h : c.Below d) : c.lineCounter.Below d.lineCounter where
  total := h.lines.length_eq.symm
  covered := by
    have hcount : ∀ l r : List (UInt32 × Counter),
        List.Forall₂ (fun x y => y.1 = x.1 ∧ x.2.Below y.2) l r →
        (l.map (·.2)).countP (fun x => x.covered > 0) ≤
          (r.map (·.2)).countP fun x => x.covered > 0 := by
      intro l r hlr
      induction hlr with
      | nil => exact Nat.le_refl _
      | cons hxy _ ih =>
        have hcovered := hxy.2.covered
        simp only [List.map_cons, List.countP_cons, decide_eq_true_eq]
        split <;> split <;> omega
    exact hcount _ _ h.lines

end ClassCoverage

/-! ### A bundle -/

theorem Counter.Below.add {x y u v : Counter} (hxy : x.Below y) (huv : u.Below v) :
    (x.add u).Below (y.add v) where
  total := by rw [Counter.add, Counter.add, hxy.total, huv.total]
  covered := Nat.add_le_add hxy.covered huv.covered

/-- Counters that are below others one by one add up to a counter below. -/
theorem Counter.sum_below {l r : List Counter} (h : List.Forall₂ Counter.Below l r) :
    (sum l).Below (sum r) := by
  induction h with
  | nil => exact ⟨rfl, Nat.le_refl _⟩
  | cons hxy _ ih =>
    rw [sum_cons, sum_cons]
    exact hxy.add ih

theorem CoverageBundle.ofClasses_below {name : String} {l r : List ClassCoverage}
    (h : List.Forall₂ ClassCoverage.Below l r) : (ofClasses name l).Below (ofClasses name r) where
  name := rfl
  classes := h
  instructions := Counter.sum_below (by
    rw [List.forall₂_map_left_iff, List.forall₂_map_right_iff]
    exact h.imp fun _ _ hcd => hcd.instructions)
  lines := Counter.sum_below (by
    rw [List.forall₂_map_left_iff, List.forall₂_map_right_iff]
    exact h.imp fun _ _ hcd => hcd.lineCounter)

/-- What was hit in a record is hit in every record that it is all in. -/
theorem CoverageStore.Within.hits {s t : CoverageStore} (h : s.Within t) {a : ClassAnalysis}
    {i : Nat} (hi : s.hits a i = true) : t.hits a i = true := by
  rw [CoverageStore.hits, Option.any_eq_true] at hi ⊢
  obtain ⟨c, hc, hbit⟩ := hi
  obtain ⟨d, hd, hcd⟩ := h a.id c hc
  rw [Bool.and_eq_true, decide_eq_true_eq, decide_eq_true_eq] at hbit
  refine ⟨d, hd, ?_⟩
  rw [Bool.and_eq_true, decide_eq_true_eq, decide_eq_true_eq]
  exact ⟨hcd.length.trans hbit.1, hcd.hit i hbit.2⟩

theorem CoverageStore.Within.ne_empty {s t : CoverageStore} (h : s.Within t) (hs : s ≠ .empty) :
    t ≠ .empty := by
  rintro rfl
  refine hs (CoverageStore.ext_get fun id => ?_)
  cases hid : s.get id with
  | none => rfl
  | some c =>
    obtain ⟨d, hd, -⟩ := h id c hid
    cases hd

/-- The classes of a bundle when more was hit. -/
theorem classes_below {s s' : CoverageStore} (h : s.Within s') (analyses : List ClassAnalysis) :
    List.Forall₂ ClassCoverage.Below
      (analyses.map fun a => .ofAnalysis a (usableHits s a))
      (analyses.map fun a => .ofAnalysis a (usableHits s' a)) := by
  rw [List.forall₂_map_left_iff, List.forall₂_map_right_iff, List.forall₂_same]
  intro a _
  exact (ClassCoverage.ofAnalysis_counts a _ (usableHits_getD s a)).below
    (ClassCoverage.ofAnalysis_counts a _ (usableHits_getD s' a)) fun _ => h.hits

/-- **More coverage never lowers a report.**  If folders are accepted for a record that is not empty,
they are accepted for what any other record merged into it comes to, and there is a bundle of the
one just if there is a bundle of the other.  The two bundles count the same classes in the same
order, the same lines of each and the same totals, and every counter of the second says that at
least as much is covered. -/
theorem buildBundle_merge_below {t : FileTree} {s : CoverageStore} {dirs : List Path}
    {b : Option CoverageBundle} (hs : s ≠ .empty) (hb : buildBundle t s dirs = .ok b)
    (x : CoverageStore) :
    ∃ c, buildBundle t (s.merge x) dirs = .ok c ∧ Option.Rel CoverageBundle.Below b c := by
  have hwithin := s.within_merge x
  by_cases hdirs : dirs = []
  · rw [buildBundle_of_nothing t (.inl hdirs)] at hb ⊢
    obtain rfl := Except.ok.inj hb
    exact ⟨none, rfl, .none⟩
  · rw [buildBundle_of_something t (not_or.mpr ⟨hdirs, hs⟩)] at hb
    rw [buildBundle_of_something t (not_or.mpr ⟨hdirs, hwithin.ne_empty hs⟩)]
    cases hload : loadAnalyses t dirs with
    | error e =>
      rw [hload] at hb
      cases hb
    | ok analyses =>
      rw [hload] at hb
      obtain rfl := Except.ok.inj hb
      exact ⟨_, rfl, .some (CoverageBundle.ofClasses_below (classes_below hwithin analyses))⟩

/-- The hits of `A` are joined, and those of `B` are left out, since a record of another number of
probes came first: of 20 instructions 4 are covered before the merge and 6 after it. -/
theorem buildBundle_merge_below_clash :
    let a : ClassAnalysis := ⟨1, "A", none, [⟨10, 4⟩, ⟨11, 6⟩, ⟨11, 2⟩, ⟨11, 0⟩]⟩
    let b : ClassAnalysis := ⟨2, "B", none, [⟨5, 8⟩]⟩
    let t : FileTree := ⟨["w"], [(["w", "o", "A.probes.json"], Text.encode a.toJson.text),
      (["w", "o", "B.probes.json"], Text.encode b.toJson.text)], [], []⟩
    let s := CoverageStore.ofList
      [⟨1, "A", [true, false, false, false]⟩, ⟨2, "B", [true, true]⟩]
    let x := CoverageStore.ofList [⟨1, "A", [false, false, true, false]⟩, ⟨2, "B", [true]⟩]
    ∃ before after, buildBundle t s ["o"] = .ok (some before) ∧
      buildBundle t (s.merge x) ["o"] = .ok (some after) ∧ before.Below after ∧
      before.instructions = ⟨4, 20⟩ ∧ after.instructions = ⟨6, 20⟩ := by
  intro a b t s x
  have hload : loadAnalyses t ["o"] = .ok [a, b] := by
    rw [loadAnalyses_of_ascending (by decide +kernel)]
    decide +kernel
  have hs : s ≠ .empty := by decide
  have hbefore := buildBundle_eq_some_iff.mpr
    ⟨by simp, hs, [a, b], hload, rfl⟩
  obtain ⟨_, hafter, @⟨_, after, hbelow⟩⟩ := buildBundle_merge_below hs hbefore x
  refine ⟨_, after, hbefore, hafter, hbelow, by decide +kernel, ?_⟩
  obtain ⟨-, -, analyses, hanalyses, rfl⟩ := buildBundle_eq_some_iff.mp hafter
  obtain rfl : [a, b] = analyses := Except.ok.inj (hload.symm.trans hanalyses)
  decide +kernel

end TestTelemetry
