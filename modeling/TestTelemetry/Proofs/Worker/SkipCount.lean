/-
How often a skipped test is counted.

Every skip that the settings allow is counted when it hits a running test, also if the test was
skipped before.  So a test that is reported as skipped by two listeners counts twice, and a module
can report more skipped tests than it has started.

* `startsIn` — the tests that a script starts, each of them once;
* `skipsOf` — how often a script skips a test because the settings allow it;
* `sum_skipsOf` — all skips are skips of tests that were started;
* `Handler.tests_applyAll` — the tests of a handler are those that its script starts;
* `Handler.skipped_once_iff` — what the module of a handler reports, and when every skipped test is
  counted once.
-/
import TestTelemetry.Proofs.Lifecycle.Sites
import TestTelemetry.Proofs.Worker.Operations
import TestTelemetry.Proofs.Worker.Report
import Mathlib.Algebra.BigOperators.Group.Finset.Basic
import Mathlib.Algebra.Ring.Nat

namespace TestTelemetry

/-! ### Started tests -/

/-- The test that starts, if this is what happens. -/
def Occurrence.started? : Occurrence → Option (Span TestKey)
  | started x _ => some x
  | _ => none

/-- The tests that start, in their order. -/
def startsIn (os : List Occurrence) : List (Span TestKey) := os.filterMap Occurrence.started?

/-- What a test is called, with its parameters. -/
def calledAs (x : Span TestKey) : String × Option String := (x.key.name, x.key.parameters)

variable {os : List Occurrence} {es : List WorkerEvent} {e : WorkerEvent} {x : Span TestKey}

theorem started?_eq_some_iff {o : Occurrence} :
    o.started? = some x ↔ ∃ home, o = .started x home := by
  cases o <;> simp [Occurrence.started?]

theorem mem_startsIn : x ∈ startsIn os ↔ ∃ home, .started x home ∈ os := by
  simp only [startsIn, List.mem_filterMap, started?_eq_some_iff]
  constructor
  · rintro ⟨o, ho, home, rfl⟩
    exact ⟨home, ho⟩
  · rintro ⟨home, ho⟩
    exact ⟨_, ho, home, rfl⟩

theorem startsIn_concat (es : List WorkerEvent) (e : WorkerEvent) :
    startsIn (occurrences (es ++ [e])) = startsIn (occurrences es) ++
      ((occurrence? es e).bind Occurrence.started?).toList :=
  filterMap_occurrences_concat Occurrence.started? es e

/-- No test starts twice. -/
theorem nodup_startsIn (es : List WorkerEvent) : (startsIn (occurrences es)).Nodup := by
  induction es using List.reverseRecOn with
  | nil => exact List.nodup_nil
  | append_singleton es e ih =>
    rw [startsIn_concat]
    refine List.nodup_append'.mpr ⟨ih, ?_, fun x hold hnew => ?_⟩
    · cases (occurrence? es e).bind Occurrence.started? <;> simp
    · obtain ⟨home, hold⟩ := mem_startsIn.mp hold
      obtain ⟨o, ho, hx⟩ := Option.bind_eq_some_iff.mp (Option.mem_toList.mp hnew)
      obtain ⟨home', rfl⟩ := started?_eq_some_iff.mp hx
      exact not_started_of_occurrence ho hold

theorem starts_nothing (h : ∀ t, e ≠ .testStart t) :
    (occurrence? es e).bind Occurrence.started? = none := by
  refine Option.bind_eq_none_iff.mpr fun o ho => ?_
  refine Option.eq_none_iff_forall_ne_some.mpr fun x hx => ?_
  obtain ⟨home, rfl⟩ := started?_eq_some_iff.mp hx
  exact h _ (occurrence?_eq_some_iff.mp ho).1

/-! ### Skips of started tests -/

/-- The running test that an event skips because the settings allow it. -/
def impactSpan? (before : List WorkerEvent) (e : WorkerEvent) : Option (Span TestKey) :=
  (impactSkip? before e).bind (testSpan? before)

/-- How often a script skips a test because the settings allow it. -/
def skipsOf (es : List WorkerEvent) (x : Span TestKey) : Nat := (gather impactSpan? es).count x

/-- What is skipped runs. -/
theorem isSome_impactSpan? : (impactSpan? es e).isSome = (impactSkip? es e).isSome := by
  rw [impactSpan?]
  cases hskip : impactSkip? es e with
  | none => rfl
  | some t =>
    cases e with
    | testSkip t' reason =>
      obtain ⟨⟨-, hruns⟩, ht⟩ := Option.ite_none_right_eq_some.mp hskip
      exact Option.some_inj.mp ht ▸ hruns
    | _ => cases hskip

theorem length_impactSpans (es : List WorkerEvent) :
    (gather impactSpan? es).length = impactSkips es := by
  induction es using List.reverseRecOn with
  | nil => rfl
  | append_singleton es e ih =>
    rw [impactSkips_concat, gather_concat, List.length_append, ih, Option.length_toList,
      isSome_impactSpan?]

/-- What is skipped was started. -/
theorem started_of_skipped (h : x ∈ gather impactSpan? es) : x ∈ startsIn (occurrences es) := by
  obtain ⟨before, e, after, rfl, he⟩ := mem_gather.mp h
  obtain ⟨t, -, hruns⟩ := Option.bind_eq_some_iff.mp he
  obtain ⟨home, hstart⟩ := started_of_testSpan? hruns
  exact mem_startsIn.mpr ⟨home, (prefix_gather_append before (e :: after)).subset hstart⟩

/-- The skips of a script are those of the tests that it starts. -/
theorem sum_skipsOf (es : List WorkerEvent) :
    ((startsIn (occurrences es)).map (skipsOf es)).sum = impactSkips es := by
  have hstarted : ∀ x ∈ Multiset.ofList (gather impactSpan? es),
      x ∈ (startsIn (occurrences es)).toFinset :=
    fun x hx => List.mem_toFinset.mpr (started_of_skipped hx)
  rw [← List.sum_toFinset _ (nodup_startsIn es), ← length_impactSpans]
  have hcount := Multiset.sum_count_eq_card hstarted
  simp only [Multiset.coe_count, Multiset.coe_card] at hcount
  exact hcount

section Sum

variable {α : Type} (f : α → Nat) (l : List α)

/-- Numbers add up to at least how many of them are positive. -/
theorem countP_pos_le_sum : l.countP (fun a => decide (0 < f a)) ≤ (l.map f).sum := by
  induction l with
  | nil => exact Nat.le_refl 0
  | cons a l ih =>
    simp only [List.countP_cons, List.map_cons, List.sum_cons, decide_eq_true_eq]
    split <;> omega

/-- Numbers add up to how many of them are positive exactly if none is above one. -/
theorem sum_eq_countP_pos_iff :
    (l.map f).sum = l.countP (fun a => decide (0 < f a)) ↔ ∀ a ∈ l, f a ≤ 1 := by
  induction l with
  | nil => simp
  | cons a l ih =>
    have hrest := countP_pos_le_sum f l
    simp only [List.countP_cons, List.map_cons, List.sum_cons, List.forall_mem_cons,
      decide_eq_true_eq, ← ih]
    split <;> omega

end Sum

namespace Handler

variable {h : Handler}

/-! ### The tests of a handler -/

/-- The number of an open suite is that of a suite of the run. -/
theorem Tracks.suite_lt (ht : h.Tracks es) {s : SuiteKey} {n : Nat}
    (hn : h.suites.find? s = some n) : n < h.run.suites.length := by
  cases hs : suiteSpan? es s with
  | none =>
    rw [ht.keeps.suite_eq_none hs] at hn
    cases hn
  | some a =>
    obtain rfl := Clock.key_of_span? hs
    exact ht.reflects.suite_lt (suite_numbering_iff.mpr ⟨hs, hn⟩)

/-- Only the start of a test starts a test. -/
theorem startedTests_of_ne (he : ∀ t, e ≠ .testStart t) :
    h.run.startedTests (h.operations (.event e)) = [] := by
  have hnone : canStart (.event e) = false → h.run.startedTests (h.operations (.event e)) = [] :=
    fun hx => Run.startedTests_eq_nil
      (fun _ hy r => (starts_nothing_of_mem_operations hx hy r).2) h.run
  cases e with
  | testStart t => exact absurd rfl (he t)
  | suiteStart s parallelized =>
    simp only [operations]
    split <;> rfl
  | _ => exact hnone rfl

/-- An event starts the test that starts in the script. -/
theorem startedTests_operations (ht : h.Tracks es) (e : WorkerEvent) :
    (h.run.startedTests (h.operations (.event e))).map Prod.snd =
      ((occurrence? es e).bind Occurrence.started?).toList.map calledAs := by
  by_cases he : ∃ t, e = .testStart t
  · obtain ⟨t, rfl⟩ := he
    rw [operations]
    by_cases hl : (testClock es t).level = 0
    · have hnew : ¬ h.tests.contains t = true := fun hc => (ht.keeps.contains_iff t).mp hc hl
      have hstart : occurrence? es (.testStart t) = some (.started _ _) := if_pos hl
      rw [if_neg hnew, hstart]
      cases hs : h.suites.find? t.suite with
      | some n =>
        show (((if n < h.run.suites.length then _ else none).toList ++ []).map Prod.snd) = _
        rw [if_pos (ht.suite_lt hs)]
        rfl
      | none =>
        -- The suite of the test is the one that was started just before.
        simp [Run.startedTests, Run.newTest?, Run.step, Run.startDetached, Occurrence.started?,
          calledAs]
    · have hstart : occurrence? es (.testStart t) = none := if_neg hl
      rw [if_pos ((ht.keeps.contains_iff t).mpr hl), hstart]
      rfl
  · have hne : ∀ t, e ≠ .testStart t := fun t ht => he ⟨t, ht⟩
    rw [startedTests_of_ne hne, starts_nothing hne]
    rfl

/-- The tests of a handler are those that its script starts. -/
theorem tests_applyAll (d : ModuleDescriptor) (settings : ExecutionSettings)
    (es : List WorkerEvent) :
    ((start d settings).applyAll es).run.tests.map (fun t => (t.name, t.parameters)) =
      (startsIn (occurrences es)).map calledAs := by
  have hsites : ∀ r : Run, r.tests.map (fun t => (t.name, t.parameters)) =
      (r.tests.map TestRun.site).map Prod.snd := fun r => by
    rw [List.map_map]
    rfl
  induction es using List.reverseRecOn with
  | nil => rfl
  | append_singleton es e ih =>
    have ht := tracks_applyAll d settings es
    have hstep : ((start d settings).applyAll (es ++ [e])).run =
        ((start d settings).applyAll es).run.follow
          (((start d settings).applyAll es).operations (.event e)) := by
      rw [applyAll, List.foldl_append, ← run_step]
      rfl
    rw [hstep, hsites, Run.testSites_follow, List.map_append, ← hsites, ih,
      startedTests_operations ht, startsIn_concat, List.map_append]

/-- **A skipped test is counted as often as it is skipped.**  The end of the module hands on one
result, in whatever order it ends what still runs.  It tells a number of skipped tests to which
each test that was started contributes how often it was skipped because the settings allow it.
This is the number of the tests that were skipped so exactly if none was skipped more than once
while it ran, and then it is at most the number of the tests that were started. -/
theorem skipped_once_iff (d : ModuleDescriptor) (settings : ExecutionSettings)
    (es : List WorkerEvent) :
    let h := (start d settings).applyAll es
    let started := startsIn (occurrences es)
    ∃ r : ModuleResult,
      (∀ tests suites, tests.Perm h.tests.entries → suites.Perm h.suites.entries →
        (h.finishInOrder tests suites).2 = some r ∧
        (h.finishInOrder tests suites).1.finishModule.2 = none) ∧
      started.Nodup ∧
      h.run.tests.map (fun t => (t.name, t.parameters)) = started.map calledAs ∧
      r.testsSkipped = UInt64.ofNat (started.map (skipsOf es)).sum ∧
      ((started.map (skipsOf es)).sum = started.countP (fun x => decide (0 < skipsOf es x)) ↔
        ∀ x ∈ started, skipsOf es x ≤ 1) ∧
      ((∀ x ∈ started, skipsOf es x ≤ 1) → r.testsSkipped.toNat ≤ started.length) := by
  intro h started
  have ht : h.Tracks es := tracks_applyAll d settings es
  obtain ⟨m, hm, hended, hskipped, -⟩ := exists_module_applyAll d settings es
  obtain ⟨hresult, honce⟩ := finishInOrder_result ht hm hended (.refl _) (.refl _)
  obtain ⟨r, hr, hcount⟩ : ∃ r, h.finishModule.2 = some r ∧
      r.testsSkipped = UInt64.ofNat (impactSkips es) := ⟨_, hresult, hskipped⟩
  rw [← sum_skipsOf] at hcount
  refine ⟨r, fun tests suites htests hsuites => ?_, nodup_startsIn es, tests_applyAll d settings es,
    hcount, sum_eq_countP_pos_iff _ _, fun hsingle => ?_⟩
  · rw [finishInOrder_eq h htests hsuites]
    exact ⟨hr, honce⟩
  · rw [hcount, (sum_eq_countP_pos_iff _ _).mpr hsingle, UInt64.toNat_ofNat']
    exact (Nat.mod_le _ _).trans List.countP_le_length

/-- A test is skipped, finished, and skipped once more after it was started again: it has run twice,
and it counts once for each time. -/
theorem restarted_test_counts_again :
    let test : TestKey := ⟨⟨"S", none⟩, "t", none, none⟩
    let other : TestKey := ⟨⟨"S", none⟩, "u", none, none⟩
    let skip : WorkerEvent := .testSkip test (some Tag.skippedByImpact)
    let es : List WorkerEvent := [.testStart test, skip, .testFinish test, .testStart other,
      .testStart test, skip]
    let h := (start default .initial).applyAll es
    (∀ x ∈ startsIn (occurrences es), skipsOf es x ≤ 1) ∧
      ∃ r, (h.finishInOrder h.tests.entries.reverse h.suites.entries.reverse).2 = some r ∧
        r.testsSkipped = 2 ∧ (startsIn (occurrences es)).length = 3 ∧ r.testsSkipped.toNat ≤ 3 := by
  intro test other skip es h
  have hsingle : ∀ x ∈ startsIn (occurrences es), skipsOf es x ≤ 1 := by decide
  obtain ⟨r, hr, -, -, hcount, -, hle⟩ := skipped_once_iff default .initial es
  have hsum : ((startsIn (occurrences es)).map (skipsOf es)).sum = 2 := by decide
  rw [hsum] at hcount
  exact ⟨hsingle, r, (hr _ _ (List.reverse_perm _) (List.reverse_perm _)).1, hcount, by decide,
    hle hsingle⟩

/-- Two listeners report the same skip of a running test: one test was started, and two skipped
tests are reported. -/
theorem repeated_skip_counts_twice :
    let test : TestKey := ⟨⟨"S", none⟩, "t", none, none⟩
    let skip : WorkerEvent := .testSkip test (some Tag.skippedByImpact)
    let es : List WorkerEvent := [.suiteStart test.suite false, .testStart test, skip, skip]
    let h := (start default .initial).applyAll es
    h.run.tests.length = 1 ∧
      ∃ r, h.finishModule.2 = some r ∧ r.testsSkipped = 2 ∧
        ¬ r.testsSkipped.toNat ≤ h.run.tests.length := by
  intro test skip es h
  have hresult : h.finishModule.2.map (·.testsSkipped) = some 2 := by decide
  obtain ⟨r, hr, hcount⟩ := Option.map_eq_some_iff.mp hresult
  refine ⟨by decide, r, hr, hcount, ?_⟩
  rw [hcount]
  decide

end Handler

end TestTelemetry
