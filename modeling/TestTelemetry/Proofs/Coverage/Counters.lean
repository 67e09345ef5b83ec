/-
What the counters of a bundle count.

The probes of a class are counted twice, once for the class and once for the line on which each of
them sits.  Both counts add up to the instructions of the same probes, so that no line and no class
of a bundle gains or loses any.

* `ClassAnalysis.hitProbes`, `CoverageStore.hits` — the probes that were hit, as a record says;
* `ClassCoverage.Counts`, `ClassCoverage.ofAnalysis_counts` — the counters of a class and its lines;
* `CoverageBundle.AddsUp`, `CoverageBundle.ofClasses_addsUp` — the counters of a bundle;
* `buildBundle_counts` — when there is a bundle, and what its counters are.
-/
import TestTelemetry.Proofs.Data.OrderedMap
import TestTelemetry.Coverage.Bundle
import Mathlib.Algebra.Order.BigOperators.Group.List
import Mathlib.Algebra.Order.Group.Nat
import Mathlib.Data.List.Induction

namespace TestTelemetry

/-- How many instructions some probes stand for. -/
def instructionCount (probes : List ProbeInfo) : Nat :=
  (probes.map fun p => p.instructions.toNat).sum

/-- The probes of an analysed class that were hit. -/
def ClassAnalysis.hitProbes (a : ClassAnalysis) (hit : Nat → Bool) : List ProbeInfo :=
  (a.probes.zipIdx.filter fun p => hit p.2).map (·.1)

/-- Whether a record says that a probe of an analysed class was hit: it holds one bit for each probe
of the class, and the bit of this probe is set. -/
def CoverageStore.hits (s : CoverageStore) (a : ClassAnalysis) (i : Nat) : Bool :=
  (s.get a.id).any fun c => c.probes.length = a.probes.length && c.probes[i]? = some true

theorem instructionCount_cons (p : ProbeInfo) (l : List ProbeInfo) :
    instructionCount (p :: l) = p.instructions.toNat + instructionCount l := List.sum_cons

theorem instructionCount_le_of_sublist {l r : List ProbeInfo} (h : l.Sublist r) :
    instructionCount l ≤ instructionCount r :=
  (h.map _).sum_le_sum fun _ _ => Nat.zero_le _

/-- A probe stands for fewer than 2^32 instructions. -/
theorem instructionCount_le (l : List ProbeInfo) : instructionCount l ≤ l.length * (2 ^ 32 - 1) := by
  induction l with
  | nil => exact Nat.zero_le _
  | cons p l ih =>
    have hp := p.instructions.toNat_lt
    rw [instructionCount_cons, List.length_cons]
    omega

namespace Counter

theorem covered_foldl_add (l : List Counter) (c : Counter) :
    (l.foldl add c).covered = c.covered + (l.map covered).sum := by
  induction l generalizing c with
  | nil => rfl
  | cons d l ih =>
    rw [List.foldl_cons, ih, List.map_cons, List.sum_cons]
    exact Nat.add_assoc ..

theorem total_foldl_add (l : List Counter) (c : Counter) :
    (l.foldl add c).total = c.total + (l.map total).sum := by
  induction l generalizing c with
  | nil => rfl
  | cons d l ih =>
    rw [List.foldl_cons, ih, List.map_cons, List.sum_cons]
    exact Nat.add_assoc ..

/-- Counters are added up covered by covered and total by total. -/
theorem sum_eq (l : List Counter) : sum l = ⟨(l.map covered).sum, (l.map total).sum⟩ := by
  have hcovered := (covered_foldl_add l zero).trans (Nat.zero_add _)
  have htotal := (total_foldl_add l zero).trans (Nat.zero_add _)
  rw [← hcovered, ← htotal]
  rfl

theorem sum_concat (l : List Counter) (c : Counter) : sum (l ++ [c]) = (sum l).add c :=
  List.foldl_concat ..

theorem sum_cons (c : Counter) (l : List Counter) : sum (c :: l) = c.add (sum l) := by
  rw [sum_eq, sum_eq, List.map_cons, List.map_cons, List.sum_cons, List.sum_cons]
  rfl

theorem sum_append (l r : List Counter) : sum (l ++ r) = (sum l).add (sum r) := by
  rw [sum_eq, sum_eq, sum_eq, List.map_append, List.map_append, List.sum_append, List.sum_append]
  rfl

end Counter

/-! ### One class -/

namespace ClassCoverage

/-- Every probe is paired with the bit at its place. -/
theorem pairHits_eq (probes : List ProbeInfo) (bits : List Bool) :
    pairHits probes bits = probes.mapIdx fun i p => (p, bits[i]?.getD false) := by
  induction probes generalizing bits with
  | nil => rfl
  | cons p probes ih =>
    rw [List.mapIdx_cons]
    cases bits with
    | nil =>
      rw [pairHits, ih]
      simp
    | cons b bits =>
      rw [pairHits, ih]
      simp

/-- The instructions of those of some probes that were hit, and of all of them. -/
def countOf (l : List (ProbeInfo × Bool)) : Counter :=
  ⟨instructionCount ((l.filter (·.2)).map (·.1)), instructionCount (l.map (·.1))⟩

theorem countOf_concat (l : List (ProbeInfo × Bool)) (p : ProbeInfo × Bool) :
    countOf (l ++ [p]) = (countOf l).add (probeCounter p.1 p.2) := by
  obtain ⟨p, hit⟩ := p
  cases hit <;> simp [countOf, probeCounter, Counter.add, instructionCount]

theorem countOf_covered_le (l : List (ProbeInfo × Bool)) :
    (countOf l).covered ≤ (countOf l).total :=
  instructionCount_le_of_sublist (List.filter_sublist.map _)

theorem sum_probeCounter (l : List (ProbeInfo × Bool)) :
    Counter.sum (l.map fun p => probeCounter p.1 p.2) = countOf l := by
  induction l using List.reverseRecOn with
  | nil => rfl
  | append_singleton l p ih =>
    rw [List.map_append, List.map_singleton, Counter.sum_concat, ih, countOf_concat]

/-- The probes on a line. -/
def onLine (n : UInt32) (l : List (ProbeInfo × Bool)) : List (ProbeInfo × Bool) :=
  l.filter fun p => p.1.line = n

/-- The lines of some probes. -/
def linesOf (l : List (ProbeInfo × Bool)) : OrderedMap UInt32 Counter := l.foldl addToLine .empty

theorem linesOf_concat (l : List (ProbeInfo × Bool)) (p : ProbeInfo × Bool) :
    linesOf (l ++ [p]) = addToLine (linesOf l) p := List.foldl_concat ..

/-- A line is counted if there is a probe on it, and its counter counts these probes. -/
theorem find?_linesOf (l : List (ProbeInfo × Bool)) (n : UInt32) :
    (linesOf l).find? n = if onLine n l = [] then none else some (countOf (onLine n l)) := by
  induction l using List.reverseRecOn generalizing n with
  | nil => rfl
  | append_singleton l p ih =>
    have hbefore : ((linesOf l).find? p.1.line).getD .zero = countOf (onLine p.1.line l) := by
      rw [ih]
      by_cases hnone : onLine p.1.line l = []
      · rw [if_pos hnone, hnone]
        rfl
      · rw [if_neg hnone]
        rfl
    rw [linesOf_concat, addToLine, OrderedMap.find?_insert, hbefore]
    by_cases hn : p.1.line = n
    · subst hn
      have hmore : onLine p.1.line (l ++ [p]) = onLine p.1.line l ++ [p] := by
        rw [onLine, List.filter_append, List.filter_singleton, decide_eq_true rfl]
        rfl
      rw [if_pos rfl, hmore, if_neg (by simp), countOf_concat]
    · have hsame : onLine n (l ++ [p]) = onLine n l := by
        rw [onLine, List.filter_append, List.filter_singleton, decide_eq_false hn]
        exact List.append_nil _
      rw [if_neg hn, hsame, ih]

/-- The lines of some probes are those on which there is a probe. -/
theorem mem_keys_linesOf (l : List (ProbeInfo × Bool)) (n : UInt32) :
    n ∈ (linesOf l).keys ↔ ∃ p ∈ l.map (·.1), p.line = n := by
  rw [OrderedMap.mem_keys_iff, find?_linesOf]
  constructor
  · rintro ⟨x, hx⟩
    obtain ⟨hsome, -⟩ := Option.ite_none_left_eq_some.mp hx
    obtain ⟨p, hp⟩ := List.exists_mem_of_ne_nil _ hsome
    obtain ⟨hmem, hline⟩ := List.mem_filter.mp hp
    exact ⟨p.1, List.mem_map_of_mem hmem, of_decide_eq_true hline⟩
  · rintro ⟨q, hq, hline⟩
    obtain ⟨p, hp, rfl⟩ := List.mem_map.mp hq
    have hmem : p ∈ onLine n l := List.mem_filter.mpr ⟨hp, decide_eq_true hline⟩
    exact ⟨_, if_neg (List.ne_nil_of_mem hmem)⟩

/-- The counters of the lines add up to what all the probes count. -/
theorem sum_linesOf {f : Counter → Nat} (hzero : f .zero = 0)
    (hadd : ∀ a b, f (a.add b) = f a + f b) (l : List (ProbeInfo × Bool)) :
    ((linesOf l).values.map f).sum = f (countOf l) := by
  induction l using List.reverseRecOn with
  | nil => exact hzero.symm
  | append_singleton l p ih =>
    have hwrite := (linesOf l).sum_values_insert p.1.line
      ((((linesOf l).find? p.1.line).getD .zero).add (probeCounter p.1 p.2)) f
    have hbefore : f (((linesOf l).find? p.1.line).getD .zero) =
        ((linesOf l).find? p.1.line).elim 0 f := by
      cases (linesOf l).find? p.1.line with
      | none => exact hzero
      | some c => rfl
    rw [linesOf_concat, addToLine, countOf_concat, hadd]
    rw [hadd, hbefore, ih] at hwrite
    omega

theorem size_linesOf_le (l : List (ProbeInfo × Bool)) : (linesOf l).size ≤ l.length := by
  induction l using List.reverseRecOn with
  | nil => exact Nat.zero_le _
  | append_singleton l p ih =>
    have hwrite := (linesOf l).size_insert_le p.1.line
      ((((linesOf l).find? p.1.line).getD .zero).add (probeCounter p.1 p.2))
    rw [linesOf_concat, addToLine, List.length_append, List.length_singleton]
    omega

/-- The probes on a line, counted: those that were hit, and all of them. -/
theorem countOf_onLine (n : UInt32) (l : List (ProbeInfo × Bool)) :
    countOf (onLine n l) =
      ⟨instructionCount (((l.filter (·.2)).map (·.1)).filter fun p => p.line = n),
        instructionCount ((l.map (·.1)).filter fun p => p.line = n)⟩ := by
  rw [countOf, List.filter_map, List.filter_map, onLine, List.filter_filter, List.filter_filter]
  simp only [Function.comp_def, Bool.and_comm]

/-- What the counters of a class count: the probes of an analysis, and of these the ones that were
hit. -/
structure Counts (c : ClassCoverage) (a : ClassAnalysis) (hit : Nat → Bool) : Prop where
  name : c.name = a.name
  sourceFile : c.sourceFile = a.sourceFile
  instructions : c.instructions =
    ⟨instructionCount (a.hitProbes hit), instructionCount a.probes⟩
  /-- The lines are those of the probes. -/
  lines : ∀ n, n ∈ c.lines.keys ↔ ∃ p ∈ a.probes, p.line = n
  /-- Each line counts the probes on it. -/
  line : ∀ n x, c.lines.find? n = some x → x =
    ⟨instructionCount ((a.hitProbes hit).filter fun p => p.line = n),
      instructionCount (a.probes.filter fun p => p.line = n)⟩
  covered_lines : (c.lines.values.map Counter.covered).sum = c.instructions.covered
  total_lines : (c.lines.values.map Counter.total).sum = c.instructions.total
  line_le : ∀ x ∈ c.lines.values, x.covered ≤ x.total
  le : c.instructions.covered ≤ c.instructions.total
  size_lines_le : c.lines.size ≤ a.probes.length

/-- The counters of an analysed class count its probes. -/
theorem ofAnalysis_counts (a : ClassAnalysis) (bits : Option (List Bool)) {hit : Nat → Bool}
    (hbits : ∀ i, (bits.getD [])[i]?.getD false = hit i) : (ofAnalysis a bits).Counts a hit := by
  have hpairs : pairHits a.probes (bits.getD []) = a.probes.zipIdx.map fun p => (p.1, hit p.2) := by
    rw [pairHits_eq, List.mapIdx_eq_zipIdx_map]
    simp only [hbits]
  have hall : (pairHits a.probes (bits.getD [])).map (·.1) = a.probes := by
    rw [hpairs, List.map_map]
    exact List.zipIdx_map_fst ..
  have hhit : ((pairHits a.probes (bits.getD [])).filter (·.2)).map (·.1) = a.hitProbes hit := by
    rw [hpairs, List.filter_map, List.map_map]
    rfl
  have hcount : countOf (pairHits a.probes (bits.getD [])) =
      ⟨instructionCount (a.hitProbes hit), instructionCount a.probes⟩ := by
    rw [countOf, hhit, hall]
  have hclass : (ofAnalysis a bits).instructions = countOf (pairHits a.probes (bits.getD [])) :=
    sum_probeCounter _
  have hlines : (ofAnalysis a bits).lines = linesOf (pairHits a.probes (bits.getD [])) := rfl
  have hfound : ∀ n x, (ofAnalysis a bits).lines.find? n = some x →
      x = countOf (onLine n (pairHits a.probes (bits.getD []))) := by
    intro n x hx
    rw [hlines, find?_linesOf] at hx
    exact (Option.some_inj.mp (Option.ite_none_left_eq_some.mp hx).2).symm
  exact
    { name := rfl
      sourceFile := rfl
      instructions := hclass.trans hcount
      lines := by
        intro n
        rw [hlines, mem_keys_linesOf, hall]
      line := by
        intro n x hx
        rw [hfound n x hx, countOf_onLine, hhit, hall]
      covered_lines := by
        rw [hlines, hclass]
        exact sum_linesOf rfl (fun _ _ => rfl) _
      total_lines := by
        rw [hlines, hclass]
        exact sum_linesOf rfl (fun _ _ => rfl) _
      line_le := by
        intro x hx
        obtain ⟨n, hn⟩ := OrderedMap.mem_values_iff.mp hx
        rw [hfound n x hn]
        exact countOf_covered_le _
      le := by
        rw [hclass]
        exact countOf_covered_le _
      size_lines_le := by
        have hsize := size_linesOf_le (pairHits a.probes (bits.getD []))
        rw [← hlines, ← List.length_map (f := Prod.fst), hall] at hsize
        exact hsize }

end ClassCoverage

/-! ### A bundle -/

/-- The counters of a bundle add up those of its classes: their instructions, and their lines, of
which those count as covered that have a covered instruction. -/
structure CoverageBundle.AddsUp (b : CoverageBundle) : Prop where
  instructions : b.instructions = ⟨(b.classes.map fun c => c.instructions.covered).sum,
    (b.classes.map fun c => c.instructions.total).sum⟩
  lines : b.lines = ⟨(b.classes.map fun c => c.lines.values.countP fun x => 0 < x.covered).sum,
    (b.classes.map fun c => c.lines.size).sum⟩

theorem CoverageBundle.ofClasses_addsUp (name : String) (classes : List ClassCoverage) :
    (ofClasses name classes).AddsUp where
  instructions := (Counter.sum_eq _).trans (by rw [List.map_map, List.map_map]; rfl)
  lines := (Counter.sum_eq _).trans (by rw [List.map_map, List.map_map]; rfl)

/-- The sums over the classes of some analyses: no more is covered than there is, and there are no
more lines than probes, each of which stands for fewer than 2^32 instructions. -/
theorem ClassCoverage.sums_le {analyses : List ClassAnalysis} {classes : List ClassCoverage}
    {hit : ClassAnalysis → Nat → Bool}
    (h : List.Forall₂ (fun a c => Counts c a (hit a)) analyses classes) :
    (classes.map fun c => c.instructions.covered).sum ≤
        (classes.map fun c => c.instructions.total).sum ∧
      (classes.map fun c => c.instructions.total).sum ≤
        (analyses.map fun a => a.probes.length).sum * (2 ^ 32 - 1) ∧
      (classes.map fun c => c.lines.size).sum ≤ (analyses.map fun a => a.probes.length).sum := by
  induction h with
  | nil => exact ⟨Nat.zero_le _, Nat.zero_le _, Nat.zero_le _⟩
  | @cons a c analyses classes hcounts _ ih =>
    have hle := hcounts.le
    have hsize := hcounts.size_lines_le
    have htotal : c.instructions.total ≤ a.probes.length * (2 ^ 32 - 1) := by
      rw [hcounts.instructions]
      exact instructionCount_le a.probes
    simp only [List.map_cons, List.sum_cons]
    omega

/-- Not more lines are covered than there are. -/
theorem CoverageBundle.AddsUp.lines_le {b : CoverageBundle} (h : b.AddsUp) :
    b.lines.covered ≤ b.lines.total := by
  have hle : ∀ c ∈ b.classes, (c.lines.values.countP fun x => 0 < x.covered) ≤ c.lines.size := by
    intro c _
    exact List.countP_le_length.trans_eq (List.length_map _)
  rw [h.lines]
  exact List.sum_le_sum hle

/-- The usable bits of a record are those that say of a probe that it was hit. -/
theorem usableHits_getD (store : CoverageStore) (a : ClassAnalysis) (i : Nat) :
    ((usableHits store a).getD [])[i]?.getD false = store.hits a i := by
  rw [usableHits, CoverageStore.hits]
  cases store.get a.id with
  | none => rfl
  | some c =>
    by_cases hlength : c.probes.length = a.probes.length
    · cases hbit : c.probes[i]? with
      | none => simp [hlength, hbit]
      | some bit => simp [hlength, hbit]
    · simp [hlength]

theorem CoverageStore.isEmpty_iff {s : CoverageStore} : s.isEmpty = true ↔ s = .empty := by
  obtain ⟨m⟩ := s
  rw [isEmpty, OrderedMap.isEmpty, List.isEmpty_iff]
  constructor
  · intro h
    exact congrArg CoverageStore.mk (OrderedMap.eq_of_entries h)
  · intro h
    rw [CoverageStore.mk.inj h]
    rfl

theorem buildBundle_of_nothing (t : FileTree) {store : CoverageStore} {dirs : List Path}
    (h : dirs = [] ∨ store = .empty) : buildBundle t store dirs = .ok none :=
  if_pos (h.imp_right CoverageStore.isEmpty_iff.mpr)

theorem buildBundle_of_something (t : FileTree) {store : CoverageStore} {dirs : List Path}
    (h : ¬ (dirs = [] ∨ store = .empty)) :
    buildBundle t store dirs = (loadAnalyses t dirs).map fun analyses =>
      some (.ofClasses bundleName (analyses.map fun a => .ofAnalysis a (usableHits store a))) := by
  rw [buildBundle, if_neg (mt (Or.imp_right CoverageStore.isEmpty_iff.mp) h)]
  cases loadAnalyses t dirs <;> rfl

/-- The bundle of a record that is not empty, over folders whose analyses can be loaded. -/
theorem buildBundle_eq_some_iff {t : FileTree} {store : CoverageStore} {dirs : List Path}
    {b : CoverageBundle} : buildBundle t store dirs = .ok (some b) ↔
      dirs ≠ [] ∧ store ≠ .empty ∧ ∃ analyses, loadAnalyses t dirs = .ok analyses ∧
        b = .ofClasses bundleName
          (analyses.map fun a => .ofAnalysis a (usableHits store a)) := by
  by_cases hnone : dirs = [] ∨ store = .empty
  · rw [buildBundle_of_nothing t hnone]
    exact iff_of_false nofun fun h => hnone.elim h.1 h.2.1
  · rw [buildBundle_of_something t hnone, ← and_assoc, ← not_or, and_iff_right hnone]
    cases loadAnalyses t dirs with
    | error e => exact iff_of_false nofun fun ⟨_, h, _⟩ => nomatch h
    | ok analyses => simp [Except.map, eq_comm]

/-- **What a bundle counts.**  There is no bundle exactly when there are no folders or the record is
empty; otherwise there is one as soon as the analyses can be loaded.  Its classes are the analysed
classes in their order, each with the counters of its probes and lines.  Its own counters add up
those of its classes, nowhere is more covered than there is, and with fewer than 2^32 probes every
sum fits into 64 bits. -/
theorem buildBundle_counts (t : FileTree) (store : CoverageStore) (dirs : List Path) :
    (buildBundle t store dirs = .ok none ↔ dirs = [] ∨ store = .empty) ∧
      (∀ analyses, dirs ≠ [] → store ≠ .empty → loadAnalyses t dirs = .ok analyses →
        ∃ b, buildBundle t store dirs = .ok (some b)) ∧
      ∀ b, buildBundle t store dirs = .ok (some b) →
        ∃ analyses, loadAnalyses t dirs = .ok analyses ∧
          List.Forall₂ (fun a c => c.Counts a (store.hits a)) analyses b.classes ∧ b.AddsUp ∧
          b.instructions.covered ≤ b.instructions.total ∧ b.lines.covered ≤ b.lines.total ∧
          ((analyses.map fun a => a.probes.length).sum < 2 ^ 32 →
            b.instructions.total < 2 ^ 64 ∧ b.lines.total < 2 ^ 64) := by
  by_cases hnone : dirs = [] ∨ store = .empty
  · have hnothing := buildBundle_of_nothing t hnone
    refine ⟨iff_of_true hnothing hnone, fun _ hdirs hstore => ?_, fun b hb => ?_⟩
    · exact absurd hnone (not_or.mpr ⟨hdirs, hstore⟩)
    · rw [hnothing] at hb
      cases hb
  · have hbuild := buildBundle_of_something t hnone
    cases hload : loadAnalyses t dirs with
    | error e =>
      rw [hload] at hbuild
      refine ⟨iff_of_false (fun h => ?_) hnone, fun _ _ _ => nofun, fun b hb => ?_⟩
      · rw [hbuild] at h
        cases h
      · rw [hbuild] at hb
        cases hb
    | ok analyses =>
      rw [hload] at hbuild
      refine ⟨iff_of_false (fun h => ?_) hnone, fun _ _ _ _ => ⟨_, hbuild⟩, fun b hb => ?_⟩
      · rw [hbuild] at h
        cases h
      · rw [hbuild] at hb
        obtain rfl := Option.some_inj.mp (Except.ok.inj hb)
        have hadds := CoverageBundle.ofClasses_addsUp bundleName
          (analyses.map fun a => .ofAnalysis a (usableHits store a))
        have hclasses : List.Forall₂ (fun a c => ClassCoverage.Counts c a (store.hits a)) analyses
            (analyses.map fun a => ClassCoverage.ofAnalysis a (usableHits store a)) := by
          rw [List.forall₂_map_right_iff, List.forall₂_same]
          intro a _
          exact ClassCoverage.ofAnalysis_counts a _ (usableHits_getD store a)
        obtain ⟨hle, htotal, hsize⟩ := ClassCoverage.sums_le hclasses
        refine ⟨analyses, rfl, hclasses, hadds, ?_, hadds.lines_le, fun hprobes => ?_⟩
        · rw [hadds.instructions]
          exact hle
        · rw [hadds.instructions, hadds.lines]
          exact ⟨htotal.trans_lt (by omega), hsize.trans_lt (by omega)⟩

/-- The class `A` has two probes on one line, one of which was hit, and a probe without instructions
there; of the class `B` there are more bits than probes.  Of 20 instructions 6 are covered. -/
theorem buildBundle_counts_two_classes :
    let a : ClassAnalysis := ⟨1, "A", none, [⟨10, 4⟩, ⟨11, 6⟩, ⟨11, 2⟩, ⟨11, 0⟩]⟩
    let b : ClassAnalysis := ⟨2, "B", none, [⟨5, 8⟩]⟩
    let t : FileTree := ⟨["w"], [(["w", "o", "A.probes.json"], Text.encode a.toJson.text),
      (["w", "o", "B.probes.json"], Text.encode b.toJson.text)], [], []⟩
    let store := CoverageStore.ofList
      [⟨1, "A", [true, false, true, true]⟩, ⟨2, "B", [true, true]⟩]
    store ≠ .empty ∧ loadAnalyses t ["o"] = .ok [a, b] ∧ ∃ bundle,
      buildBundle t store ["o"] = .ok (some bundle) ∧ bundle.AddsUp ∧
        bundle.instructions = ⟨6, 20⟩ ∧ bundle.lines.covered ≤ bundle.lines.total ∧
        bundle.lines.total < 2 ^ 64 := by
  intro a b t store
  have hstore : store ≠ .empty := by decide
  have hload : loadAnalyses t ["o"] = .ok [a, b] := by
    rw [loadAnalyses_of_ascending (by decide +kernel)]
    decide +kernel
  obtain ⟨-, hsome, hcounts⟩ := buildBundle_counts t store ["o"]
  obtain ⟨bundle, hbundle⟩ := hsome [a, b] (by decide) hstore hload
  obtain ⟨analyses, hanalyses, hclasses, hadds, -, hlines, hfits⟩ := hcounts bundle hbundle
  obtain rfl : [a, b] = analyses := Except.ok.inj (hload.symm.trans hanalyses)
  refine ⟨hstore, hload, bundle, hbundle, hadds, ?_, hlines, (hfits (by decide)).2⟩
  rw [hadds.instructions]
  obtain ⟨c, cs, ha, hrest, hall⟩ := List.forall₂_cons_left_iff.mp hclasses
  obtain ⟨d, ds, hb, hnone, hlast⟩ := List.forall₂_cons_left_iff.mp hrest
  rw [hall, hlast, List.forall₂_nil_left_iff.mp hnone]
  simp only [List.map_cons, ha.instructions, hb.instructions]
  decide +kernel

end TestTelemetry
