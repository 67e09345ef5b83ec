/-
Which failures a module reports.

A failed test fails its module through the span of the suite in which it started.  That span tells
its status when it is closed, so only tests that were finished by then count: a module reports a
failure exactly if a suite failed, or a test that failed was not overtaken by the closing of its
suite.

* `FailsInTime` — the failures of a script that count;
* `Handler.finishInOrder_fails_iff` — they decide whether the module fails;
* `Handler.overtaken_failure_is_lost` — a failure that comes too late.
-/
import TestTelemetry.Proofs.Worker.Report

namespace TestTelemetry

/-- A suite failed while it was open; or a test failed that started in an open suite, and it was
finished before that suite was closed, if the script closes it at all. -/
def FailsInTime (es : List WorkerEvent) : Prop :=
  (∃ a, .suiteFailed a ∈ occurrences es) ∨
    ∃ x a, .started x (some a) ∈ occurrences es ∧ .testFailed x ∈ occurrences es ∧
      ∀ c ∈ closings (occurrences es), c.2 = a → .finished x ∈ c.1

variable {es es' : List WorkerEvent} {finishes closes : List Occurrence}

/-- A script without events that skip a suite skips no span of a suite. -/
theorem not_suiteSkipped (hskip : ∀ s reason, .suiteSkip s reason ∉ es) (a : Span SuiteKey) :
    .suiteSkipped a ∉ occurrences es := by
  intro h
  obtain ⟨before, e, after, rfl, he⟩ := mem_gather.mp h
  obtain ⟨⟨reason, rfl⟩, -⟩ := occurrence?_eq_some_iff.mp he
  exact hskip a.key reason (by simp)

namespace Completes

/-- A test is finished when its suite is closed if the script did not close the suite before. -/
theorem finished_of_closing (h : Completes es es' finishes closes)
    {c : List Occurrence × Span SuiteKey} (hc : c ∈ closings (occurrences es'))
    {x : Span TestKey} (hx : .started x (some c.2) ∈ occurrences es)
    (htime : ∀ c' ∈ closings (occurrences es), c'.2 = c.2 → .finished x ∈ c'.1) :
    .finished x ∈ c.1 := by
  rcases h.closing_cases hc with hc | ⟨before, hbefore⟩
  · exact htime c hc rfl
  · rw [hbefore]
    exact List.mem_append_left _ (h.finished x (some c.2) hx)

/-- Some suite is closed as failed exactly if something failed in time. -/
theorem fail_mem_closedStatuses_iff (h : Completes es es' finishes closes)
    (hskip : ∀ s reason, .suiteSkip s reason ∉ es) :
    .fail ∈ closedStatuses (occurrences es') ↔ FailsInTime es := by
  rw [closedStatuses, List.mem_map]
  constructor
  · rintro ⟨c, hc, hfail⟩
    rw [h.statusAt_closing hc, Status.ofMarks_eq_fail_iff, decide_eq_true_eq] at hfail
    rcases hfail with hfail | ⟨-, hfail⟩
    · exact Or.inl ⟨c.2, hfail⟩
    · obtain ⟨x, hstart, hfinish, hfail⟩ := (h.mem_outcomesIn_closing hc).mp hfail
      refine Or.inr ⟨x, c.2, hstart, testOutcome_eq_fail_iff.mp hfail, fun c' hc' heq => ?_⟩
      -- A span is closed once, so the script closed this one at the same place.
      obtain ⟨after, hwhole⟩ := mem_closings.mp hc
      obtain ⟨after', hwhole'⟩ := mem_closings.mp (h.closing_of_closing hc')
      rw [heq] at hwhole'
      rwa [closing_unique hwhole' hwhole]
  · rintro (⟨a, ha⟩ | ⟨x, a, hstart, hfail, htime⟩)
    · obtain ⟨seen, hc⟩ := h.exists_closing (opened_of_suite? ha rfl)
      refine ⟨(seen, a), hc, ?_⟩
      rw [h.statusAt_closing hc, Status.ofMarks_eq_fail_iff, decide_eq_true_eq]
      exact Or.inl ha
    · obtain ⟨seen, hc⟩ := h.exists_closing (opened_of_suite? hstart rfl)
      have hfinish : .finished x ∈ seen := h.finished_of_closing hc hstart htime
      refine ⟨(seen, a), hc, ?_⟩
      rw [h.statusAt_closing hc, Status.ofMarks_eq_fail_iff, decide_eq_true_eq]
      refine Or.inr ⟨by simpa using not_suiteSkipped hskip a, ?_⟩
      exact (h.mem_outcomesIn_closing hc).mpr
        ⟨x, hstart, hfinish, testOutcome_eq_fail_iff.mpr hfail⟩

end Completes

namespace Handler

/-- **Which failures reach the session.**  A module whose script skips no suite hands on one
result, in whatever order its end ends what still runs.  The result is a failure exactly if a
suite failed, or a test failed that had started in an open suite and was not overtaken by the
closing of that suite. -/
theorem finishInOrder_fails_iff (d : ModuleDescriptor) (settings : ExecutionSettings)
    (es : List WorkerEvent) (hskip : ∀ s reason, .suiteSkip s reason ∉ es)
    {tests : List (TestKey × Nat)} {suites : List (SuiteKey × Nat)}
    (htests : tests.Perm ((start d settings).applyAll es).tests.entries)
    (hsuites : suites.Perm ((start d settings).applyAll es).suites.entries) :
    let last := ((start d settings).applyAll es).finishInOrder tests suites
    ∃ r, last.2 = some r ∧ last.1.finishModule.2 = none ∧
      (r.status = some Status.fail.name ↔ FailsInTime es) := by
  have ht := tracks_applyAll d settings es
  obtain ⟨m, hm, hended, -⟩ := exists_module_applyAll d settings es
  obtain ⟨finishes, closes, hdone⟩ := exists_completion ht htests hsuites
  obtain ⟨hresult, honce⟩ := finishInOrder_result ht hm hended htests hsuites
  refine ⟨_, hresult, honce, ?_⟩
  rw [← hdone.fail_mem_closedStatuses_iff hskip, Option.some_inj]
  constructor
  · intro hstatus
    simpa using Status.ofParts_eq_fail_iff.mp (Status.name_injective hstatus)
  · intro hfail
    rw [Status.ofParts_eq_fail_iff.mpr (Or.inr hfail)]

/-- A suite and its two tests run when the module ends, and one test has failed: the module fails,
also when everything ends in the reverse order. -/
theorem running_failure_is_reported :
    let suite : SuiteKey := ⟨"S", none⟩
    let es : List WorkerEvent := [.suiteStart suite false, .testStart ⟨suite, "t", none, none⟩,
      .testStart ⟨suite, "u", none, none⟩, .testFailure ⟨suite, "t", none, none⟩ ⟨none, "boom"⟩]
    let h := (start default .initial).applyAll es
    ∃ r, (h.finishInOrder h.tests.entries.reverse h.suites.entries.reverse).2 = some r ∧
      r.status = some Status.fail.name := by
  intro suite es h
  obtain ⟨r, hr, -, hstatus⟩ := finishInOrder_fails_iff default .initial es
    (by simp [es]) (List.reverse_perm h.tests.entries) (List.reverse_perm h.suites.entries)
  refine ⟨r, hr, hstatus.mpr (Or.inr ⟨⟨⟨suite, "t", none, none⟩, 1⟩, ⟨suite, 1⟩, ?_⟩)⟩
  decide

/-- A suite is closed while a test of it runs, and the test fails after that.  No skip is
reported, and the failure hits a running test that had started in an open suite; the module
passes nevertheless. -/
theorem overtaken_failure_is_lost :
    let suite : SuiteKey := ⟨"S", none⟩
    let test : TestKey := ⟨suite, "t", none, none⟩
    let es : List WorkerEvent := [.suiteStart suite false, .testStart test, .suiteFinish suite,
      .testFailure test ⟨none, "boom"⟩, .testFinish test]
    (∀ s reason, .suiteSkip s reason ∉ es) ∧
      .started ⟨test, 1⟩ (some ⟨suite, 1⟩) ∈ occurrences es ∧
      .testFailed ⟨test, 1⟩ ∈ occurrences es ∧
      ∃ r, ((start default .initial).applyAll es).finishModule.2 = some r ∧
        r.status = some Status.pass.name := by
  intro suite test es
  have hresult : (((start default .initial).applyAll es).finishModule.2.bind (·.status)) =
      some Status.pass.name := by decide
  exact ⟨by simp [es], by decide, by decide, Option.bind_eq_some_iff.mp hresult⟩

end Handler

end TestTelemetry
