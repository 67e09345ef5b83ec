/-
The outcome of a module, computed from its script alone.

Every span of a suite has an outcome by what happened in it: any failure comes first, then a skip.
The module rolls up the outcomes of the spans.  The handler reports just this, provided that tests
are finished within the span in which they started, and that no skip covers a failed test.

* `suiteOutcome`, `moduleOutcome` — the roll-up of a script;
* `Nested`, `NoFailureSkipped` — what is asked of a script;
* `Handler.finishInOrder_eq_rollUp` — the handler reports the roll-up.
-/
import TestTelemetry.Proofs.Worker.Report

namespace TestTelemetry

/-- The spans of suites, in the order in which they were opened. -/
def spansIn (os : List Occurrence) : List (Span SuiteKey) :=
  os.filterMap fun
    | .opened a => some a
    | _ => none

/-- The tests that started in a span of a suite, in their order. -/
def testsIn (os : List Occurrence) (a : Span SuiteKey) : List (Span TestKey) :=
  os.filterMap fun
    | .started x home => if home = some a then some x else none
    | _ => none

/-- How a span of a suite turned out: it failed if it was marked so or a test of it failed, else it
was skipped if it was marked so or it had tests and all were skipped. -/
def suiteOutcome (os : List Occurrence) (a : Span SuiteKey) : Status :=
  Status.ofParts (.suiteFailed a ∈ os) (.suiteSkipped a ∈ os) ((testsIn os a).map (testOutcome os))

/-- How a module turned out, by the outcomes of the spans of its suites. -/
def moduleOutcome (es : List WorkerEvent) : Status :=
  Status.ofParts false false ((spansIn (occurrences es)).map (suiteOutcome (occurrences es)))

/-- Tests that start in an open suite are finished before that suite is closed, if the script
closes it at all. -/
def Nested (es : List WorkerEvent) : Prop :=
  ∀ c ∈ closings (occurrences es), ∀ x ∈ testsIn (occurrences es) c.2, .finished x ∈ c.1

/-- No suite is skipped in a span in which a test failed. -/
def NoFailureSkipped (es : List WorkerEvent) : Prop :=
  ∀ a ∈ spansIn (occurrences es), .suiteSkipped a ∈ occurrences es →
    ∀ x ∈ testsIn (occurrences es) a, .testFailed x ∉ occurrences es

instance (es : List WorkerEvent) : Decidable (Nested es) :=
  inferInstanceAs (Decidable (∀ c ∈ closings (occurrences es),
    ∀ x ∈ testsIn (occurrences es) c.2, .finished x ∈ c.1))

instance (es : List WorkerEvent) : Decidable (NoFailureSkipped es) :=
  inferInstanceAs (Decidable (∀ a ∈ spansIn (occurrences es), .suiteSkipped a ∈ occurrences es →
    ∀ x ∈ testsIn (occurrences es) a, .testFailed x ∉ occurrences es))

variable {os : List Occurrence} {es es' : List WorkerEvent} {finishes closes : List Occurrence}

theorem mem_spansIn {a : Span SuiteKey} : a ∈ spansIn os ↔ .opened a ∈ os := by
  rw [spansIn, List.mem_filterMap]
  constructor
  · rintro ⟨o, ho, h⟩
    cases o <;> cases h
    exact ho
  · intro h
    exact ⟨.opened a, h, rfl⟩

theorem mem_testsIn {a : Span SuiteKey} {x : Span TestKey} :
    x ∈ testsIn os a ↔ .started x (some a) ∈ os := by
  rw [testsIn, List.mem_filterMap]
  constructor
  · rintro ⟨o, ho, h⟩
    cases o with
    | started y home =>
      obtain ⟨rfl, hyx⟩ := Option.ite_none_right_eq_some.mp h
      cases hyx
      exact ho
    | _ => cases h
  · intro h
    exact ⟨.started x (some a), h, if_pos rfl⟩

namespace Completes

/-- A span is closed with its outcome. -/
theorem statusAt_eq_suiteOutcome (h : Completes es es' finishes closes) (hnested : Nested es)
    (hskip : NoFailureSkipped es) {c : List Occurrence × Span SuiteKey}
    (hc : c ∈ closings (occurrences es')) :
    statusAt c.1 c.2 = suiteOutcome (occurrences es) c.2 := by
  -- All tests of the span were finished when it was closed.
  have hfinish : ∀ x, .started x (some c.2) ∈ occurrences es → .finished x ∈ c.1 := by
    intro x hx
    rcases h.closing_cases hc with hc | ⟨before, hbefore⟩
    · exact hnested c hc x (mem_testsIn.mpr hx)
    · rw [hbefore]
      exact List.mem_append_left _ (h.finished x (some c.2) hx)
  have hparts : ∀ s, s ∈ outcomesIn c.1 c.2 ↔
      s ∈ (testsIn (occurrences es) c.2).map (testOutcome (occurrences es)) := by
    intro s
    rw [h.mem_outcomesIn_closing hc, List.mem_map]
    refine exists_congr fun x => ?_
    rw [mem_testsIn]
    exact ⟨fun ⟨hx, _, hs⟩ => ⟨hx, hs⟩, fun ⟨hx, hs⟩ => ⟨hx, hfinish x hx, hs⟩⟩
  rw [h.statusAt_closing hc, Status.ofMarks_congr hparts, suiteOutcome,
    Status.ofMarks_eq_ofParts_iff]
  rintro ⟨hskipped, -, hfail⟩
  obtain ⟨x, hx, hxfail⟩ := List.mem_map.mp hfail
  exact hskip c.2 (mem_spansIn.mpr (h.opened_of_closing hc)) (of_decide_eq_true hskipped) x hx
    (testOutcome_eq_fail_iff.mp hxfail)

/-- The statuses with which spans are closed are their outcomes. -/
theorem mem_closedStatuses_iff (h : Completes es es' finishes closes) (hnested : Nested es)
    (hskip : NoFailureSkipped es) (s : Status) :
    s ∈ closedStatuses (occurrences es') ↔
      s ∈ (spansIn (occurrences es)).map (suiteOutcome (occurrences es)) := by
  rw [closedStatuses, List.mem_map, List.mem_map]
  constructor
  · rintro ⟨c, hc, rfl⟩
    exact ⟨c.2, mem_spansIn.mpr (h.opened_of_closing hc),
      (h.statusAt_eq_suiteOutcome hnested hskip hc).symm⟩
  · rintro ⟨a, ha, rfl⟩
    obtain ⟨seen, hc⟩ := h.exists_closing (mem_spansIn.mp ha)
    exact ⟨(seen, a), hc, h.statusAt_eq_suiteOutcome hnested hskip hc⟩

end Completes

namespace Handler

/-- **The reported result is the roll-up of the script.**  If tests are finished within the spans
in which they started, and no skip covers a failed test, then the end of the module hands on one
result, the same in whatever order it ends what still runs.  Its status is the roll-up, and it
tells the skips that the settings allow and the coverage of the whole script. -/
theorem finishInOrder_eq_rollUp (d : ModuleDescriptor) (settings : ExecutionSettings)
    (es : List WorkerEvent) (hnested : Nested es) (hskip : NoFailureSkipped es) :
    let h := (start d settings).applyAll es
    ∃ r : ModuleResult,
      (h.finishModule.2 = some r ∧
        ∀ tests suites, tests.Perm h.tests.entries → suites.Perm h.suites.entries →
          (h.finishInOrder tests suites).2 = some r ∧
          (h.finishInOrder tests suites).1.finishModule.2 = none) ∧
      r.status = some (moduleOutcome es).name ∧
      r.testsSkipped = UInt64.ofNat (impactSkips es) ∧
      r.coverage = if (coverageOf es).isEmpty then none else some (coverageOf es) := by
  intro h
  have ht : h.Tracks es := tracks_applyAll d settings es
  obtain ⟨m, hm, hended, hskipped, hcoverage⟩ := exists_module_applyAll d settings es
  -- The status is the same for every order.
  have hall : ∀ tests suites, tests.Perm h.tests.entries → suites.Perm h.suites.entries →
      (h.finishInOrder tests suites).2 =
          some { m.result with status := some (moduleOutcome es).name } ∧
        (h.finishInOrder tests suites).1.finishModule.2 = none := by
    intro tests suites htests hsuites
    obtain ⟨finishes, closes, hdone⟩ := exists_completion ht htests hsuites
    have hresult := finishInOrder_result ht hm hended htests hsuites
    rwa [Status.ofParts_congr (hdone.mem_closedStatuses_iff hnested hskip)] at hresult
  exact ⟨_, ⟨(hall _ _ (.refl _) (.refl _)).1, hall⟩, rfl, hskipped, hcoverage⟩

/-- A suite is opened twice over and closed, with a test that the settings allow to skip; then it
is opened again, and a test of it fails and still runs when the module ends.  A test outside of
any suite counts for nothing. -/
theorem reopened_suite_rolls_up :
    let suite : SuiteKey := ⟨"S", none⟩
    let es : List WorkerEvent := [.suiteStart suite false, .suiteStart suite true,
      .testStart ⟨suite, "t", none, none⟩,
      .testSkip ⟨suite, "t", none, none⟩ (some Tag.skippedByImpact),
      .testFinish ⟨suite, "t", none, none⟩, .suiteFinish suite, .suiteFinish suite,
      .testStart ⟨suite, "o", none, none⟩, .testSkip ⟨suite, "o", none, none⟩ none,
      .suiteStart suite false, .testStart ⟨suite, "u", none, none⟩,
      .testFailure ⟨suite, "u", none, none⟩ ⟨none, "boom"⟩,
      .coverage (.ofList [⟨7, "A", [true, false]⟩]), .coverage (.ofList [⟨7, "A", [false, true]⟩])]
    Nested es ∧ NoFailureSkipped es ∧
      ∃ r, ((start default .initial).applyAll es).finishModule.2 = some r ∧
        r.status = some Status.fail.name ∧ r.testsSkipped = 1 ∧
        r.coverage = some (.ofList [⟨7, "A", [true, true]⟩]) := by
  intro suite es
  have hnested : Nested es := by decide
  have hskip : NoFailureSkipped es := by decide
  obtain ⟨r, ⟨hr, -⟩, hstatus, hskipped, hcoverage⟩ :=
    finishInOrder_eq_rollUp default .initial es hnested hskip
  have hmodule : moduleOutcome es = .fail := by decide
  have hskips : impactSkips es = 1 := by decide
  have hmerged : coverageOf es = .ofList [⟨7, "A", [true, true]⟩] := by decide
  rw [hmodule] at hstatus
  rw [hskips] at hskipped
  rw [hmerged] at hcoverage
  exact ⟨hnested, hskip, r, hr, hstatus, hskipped, hcoverage⟩

end Handler

end TestTelemetry
