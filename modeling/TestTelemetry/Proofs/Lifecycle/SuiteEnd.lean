/-
The status a suite ends with.

Whatever happens between the start of a suite and its end, what the end records is
decided by three things: whether the suite itself failed, whether it was marked as
skipped, and how its tests ended in the meantime.

* `SuiteRun.Open` — a suite that has not ended, and what was said of it so far;
* `Run.step_open` — what one step adds to that;
* `Run.endsSuiteWith_ofParts_iff` — any failure comes first in the status recorded,
  except where a skip covers a failed test.
-/
import TestTelemetry.Proofs.Data.Modify
import TestTelemetry.Proofs.Lifecycle.Step
import TestTelemetry.Proofs.Outcome.RollUp
import TestTelemetry.Proofs.Outcome.TagLog

namespace TestTelemetry

/-- A suite that has not ended, with what was said of it: whether it failed, whether it was
skipped, and with which statuses its tests ended. -/
structure SuiteRun.Open (s : SuiteRun) (failed skipped : Bool) (ended : List Status) : Prop where
  running : s.ended = false
  unlocked : s.tags.closed = false
  failed_eq : s.verdict.failure.isSome = failed
  skipped_eq : s.verdict.skipReason.isSome = skipped
  tests_eq : s.tests = StatusCounts.ofList ended

namespace SuiteRun

variable {s : SuiteRun} {failed skipped : Bool} {ended : List Status}

theorem open_start (name : String) (codeUnit : Option String) (parallelized : Bool)
    (module : Option (Nat × String)) :
    (start name codeUnit parallelized module).Open false false [] where
  running := rfl
  unlocked := by
    show (TagLog.empty.setAll _).closed = false
    rw [TagLog.closed_setAll]
    rfl
  failed_eq := rfl
  skipped_eq := rfl
  tests_eq := rfl

theorem Open.recordTest (h : s.Open failed skipped ended) (status : Status) :
    (s.recordTest status).Open failed skipped (ended ++ [status]) where
  running := h.running
  unlocked := h.unlocked
  failed_eq := h.failed_eq
  skipped_eq := h.skipped_eq
  tests_eq := by
    rw [StatusCounts.ofList_concat, ← h.tests_eq]
    rfl

theorem Open.mark_skipped (h : s.Open failed skipped ended) (reason : String) :
    SuiteRun.Open { s with verdict := { s.verdict with skipReason := some reason } }
      failed true ended where
  running := h.running
  unlocked := h.unlocked
  failed_eq := h.failed_eq
  skipped_eq := rfl
  tests_eq := h.tests_eq

theorem Open.mark_failed (h : s.Open failed skipped ended) (f : Failure) :
    SuiteRun.Open { s with verdict := { s.verdict with failure := some f } } true skipped ended where
  running := h.running
  unlocked := h.unlocked
  failed_eq := rfl
  skipped_eq := h.skipped_eq
  tests_eq := h.tests_eq

theorem Open.tag (h : s.Open failed skipped ended) (key : String) (value : TagValue) :
    SuiteRun.Open { s with tags := s.tags.set key value } failed skipped ended where
  running := h.running
  unlocked := by rw [TagLog.closed_set, h.unlocked]
  failed_eq := h.failed_eq
  skipped_eq := h.skipped_eq
  tests_eq := h.tests_eq

/-- The status of an open suite, by what was said of it. -/
theorem Open.status_eq (h : s.Open failed skipped ended) :
    s.status = Status.ofMarks failed skipped ended := by
  rw [SuiteRun.status, h.tests_eq, Verdict.status_eq_ofMarks, h.failed_eq, h.skipped_eq]

/-- The tag of a suite that ends tells the status that it had. -/
theorem Open.status_tag_finish (h : s.Open failed skipped ended) :
    s.finish.tags.get Tag.status = some (.str s.status.name) := by
  show ((s.tags.setAll s.verdict.tags).set Tag.status _).close.get Tag.status = _
  rw [TagLog.get_close, TagLog.get_set_self]
  rw [TagLog.closed_setAll, h.unlocked]

end SuiteRun

namespace Run

/-- A run ends a suite with a status: the suite had not ended before, its tag tells that status,
and its module, if it has one, counts it. -/
def EndsSuiteWith (r : Run) (n : Nat) (status : Status) : Prop :=
  ∃ s s', r.suites[n]? = some s ∧ s.ended = false ∧
    (r.endSuite n).suites[n]? = some s' ∧ s'.ended = true ∧
    s'.tags.get Tag.status = some (.str status.name) ∧
    (r.endSuite n).modules = match s.module with
      | some m => r.modules.modify m (·.recordSuite status)
      | none => r.modules

variable {r : Run} {n : Nat} {s : SuiteRun} {failed skipped : Bool} {ended : List Status}

/-- An open suite ends with the status that it has. -/
theorem endsSuiteWith_status (hs : r.suites[n]? = some s) (ho : s.Open failed skipped ended) :
    r.EndsSuiteWith n s.status := by
  refine ⟨s, s.finish, hs, ho.running, ?_, rfl, ho.status_tag_finish, ?_⟩
  · simp [endSuite, hs, ho.running]
  · simp only [endSuite, hs, ho.running]
    rfl

/-- A suite ends with one status only. -/
theorem EndsSuiteWith.unique {a b : Status} (ha : r.EndsSuiteWith n a) (hb : r.EndsSuiteWith n b) :
    a = b := by
  obtain ⟨_, s, _, _, hs, _, ta, _⟩ := ha
  obtain ⟨_, t, _, _, ht, _, tb, _⟩ := hb
  rw [hs, Option.some_inj] at ht
  subst ht
  rw [ta, Option.some_inj, TagValue.str.injEq] at tb
  exact Status.name_injective tb

/-- What one step adds to what was said of an open suite, as long as it does not end it. -/
theorem step_open (hs : r.suites[n]? = some s) (ho : s.Open failed skipped ended) {step : RunStep}
    (hstep : step.endsSuite n = false) :
    ∃ s', (r.step step).suites[n]? = some s' ∧
      s'.Open (failed || step.failsSuite n) (skipped || step.skipsSuite n)
        (ended ++ (r.ending? n step).toList) := by
  have hn : n < r.suites.length := (List.getElem?_eq_some_iff.mp hs).choose
  -- Most steps leave the suite as it is.
  have keep : ∀ {r' : Run}, r'.suites[n]? = r.suites[n]? →
      ∃ s', r'.suites[n]? = some s' ∧ s'.Open (failed || false) (skipped || false) (ended ++ []) :=
    fun h => ⟨s, h.trans hs, by simpa using ho⟩
  cases step with
  | startModule d settings => exact keep rfl
  | startSuite m name codeUnit parallelized => exact keep (List.getElem?_append_left hn)
  | startDetached name codeUnit => exact keep (List.getElem?_append_left hn)
  | startTest m name parameters =>
    refine keep ?_
    simp only [Run.step, startTest]
    split <;> rfl
  | skipTest t reason => exact keep rfl
  | failTest t f => exact keep rfl
  | skipSuite m reason =>
    refine ⟨_, getElem?_modify_of_eq_some hs m _, ?_⟩
    by_cases h : m = n
    · subst h
      simpa [RunStep.failsSuite, RunStep.skipsSuite, ending?] using ho.mark_skipped (reason.getD "")
    · simpa [h, RunStep.failsSuite, RunStep.skipsSuite, ending?] using ho
  | failSuite m f =>
    refine ⟨_, getElem?_modify_of_eq_some hs m _, ?_⟩
    by_cases h : m = n
    · subst h
      simpa [RunStep.failsSuite, RunStep.skipsSuite, ending?] using ho.mark_failed f
    · simpa [h, RunStep.failsSuite, RunStep.skipsSuite, ending?] using ho
  | tag i key value =>
    cases i with
    | module m => exact keep rfl
    | test t => exact keep rfl
    | suite m =>
      refine ⟨_, getElem?_modify_of_eq_some hs m _, ?_⟩
      by_cases h : m = n
      · subst h
        simpa [RunStep.failsSuite, RunStep.skipsSuite, ending?] using ho.tag key value
      · simpa [h, RunStep.failsSuite, RunStep.skipsSuite, ending?] using ho
  | countSkipped m => exact keep rfl
  | addCoverage m c => exact keep rfl
  | endTest t =>
    cases ht : r.tests[t]? with
    | none =>
      rw [show r.ending? n (.endTest t) = none by simp [ending?, ht],
        show r.step (.endTest t) = r by simp [Run.step, endTest, ht]]
      exact keep rfl
    | some x =>
      by_cases hx : x.ended
      · rw [show r.ending? n (.endTest t) = none by simp [ending?, ht, hx],
          show r.step (.endTest t) = r by simp [Run.step, endTest, ht, hx]]
        exact keep rfl
      · refine ⟨_, by simpa [Run.step, endTest, ht, hx] using
          getElem?_modify_of_eq_some hs x.suite _, ?_⟩
        by_cases h : x.suite = n
        · simpa [ending?, ht, hx, h, RunStep.failsSuite, RunStep.skipsSuite] using
            ho.recordTest x.status
        · simpa [ending?, ht, hx, h, RunStep.failsSuite, RunStep.skipsSuite] using ho
  | endSuite m =>
    have hm : m ≠ n := by simpa [RunStep.endsSuite] using hstep
    refine keep ?_
    simp only [Run.step, Run.endSuite]
    split
    · rfl
    · split
      · rfl
      · exact List.getElem?_modify_ne _ _ hm
  | endModule m =>
    refine keep ?_
    simp only [Run.step, endModule]
    split
    · rfl
    · split <;> rfl
  | endModuleWith m result => exact keep rfl

/-- What some steps add to what was said of an open suite, as long as none of them ends it. -/
theorem follow_open (hs : r.suites[n]? = some s) (ho : s.Open failed skipped ended)
    (steps : List RunStep) (hsteps : ∀ step ∈ steps, step.endsSuite n = false) :
    ∃ s', (r.follow steps).suites[n]? = some s' ∧
      s'.Open (failed || steps.any (·.failsSuite n)) (skipped || steps.any (·.skipsSuite n))
        (ended ++ r.endings n steps) := by
  induction steps generalizing r s failed skipped ended with
  | nil => exact ⟨s, hs, by simpa [endings] using ho⟩
  | cons step rest ih =>
    obtain ⟨s₁, hs₁, ho₁⟩ := step_open hs ho (hsteps step (List.mem_cons_self ..))
    obtain ⟨s₂, hs₂, ho₂⟩ := ih hs₁ ho₁ fun t ht => hsteps t (List.mem_cons_of_mem _ ht)
    refine ⟨s₂, hs₂, ?_⟩
    simpa only [List.any_cons, endings, Bool.or_assoc, List.append_assoc] using ho₂

/-- A step that starts a suite puts it at the end, with nothing said of it. -/
theorem step_starts (r : Run) {opening : RunStep} (h : opening.startsSuite) :
    ∃ s, (r.step opening).suites[r.suites.length]? = some s ∧ s.Open false false [] := by
  cases opening with
  | startSuite m name codeUnit parallelized =>
    exact ⟨_, List.getElem?_concat_length, SuiteRun.open_start ..⟩
  | startDetached name codeUnit =>
    exact ⟨_, List.getElem?_concat_length, SuiteRun.open_start ..⟩
  | _ => cases h

/-- **Any failure comes first in the status of a suite, unless a skip covers it.**  A suite is
started, in a module or detached, and some steps follow that do not end it.  The status that its
end records and hands to its module is a failure if the suite failed or any of its tests ended
with one, else a skip if the suite was skipped or it had tests and all were, else a pass — except
where the suite was skipped, did not fail itself, and a test of it failed: then the end records a
skip. -/
theorem endsSuiteWith_ofParts_iff (r : Run) (opening : RunStep) (steps : List RunStep)
    (hopening : opening.startsSuite)
    (hsteps : ∀ step ∈ steps, step.endsSuite r.suites.length = false) :
    let n := r.suites.length
    let failed := steps.any (·.failsSuite n)
    let skipped := steps.any (·.skipsSuite n)
    let ended := (r.step opening).endings n steps
    let covered := skipped ∧ ¬ failed ∧ .fail ∈ ended
    let last := (r.step opening).follow steps
    (last.EndsSuiteWith n (Status.ofParts failed skipped ended) ↔ ¬ covered) ∧
      (covered → last.EndsSuiteWith n .skip) := by
  intro n failed skipped ended covered last
  obtain ⟨s₀, hs₀, ho₀⟩ := r.step_starts hopening
  obtain ⟨s, hs, ho⟩ := follow_open hs₀ ho₀ steps hsteps
  simp only [Bool.false_or, List.nil_append] at ho
  have hend : last.EndsSuiteWith n s.status := endsSuiteWith_status hs ho
  constructor
  · rw [← Status.ofMarks_eq_ofParts_iff, ← ho.status_eq]
    exact ⟨fun h => hend.unique h, fun h => h ▸ hend⟩
  · rintro ⟨hskipped, hfailed, -⟩
    have hskip : s.status = .skip := by
      rw [ho.status_eq, Status.ofMarks, if_neg hfailed, if_pos hskipped]
    exact hskip ▸ hend

/-- A test that fails in a suite which nobody skipped is what the suite ends with. -/
theorem failed_test_fails_suite :
    RunStep.startsSuite (.startDetached "S" none) ∧
    (∀ step ∈ [.startTest 0 "t" none, .failTest 0 ⟨none, "boom"⟩, .endTest 0],
      RunStep.endsSuite 0 step = false) ∧
    ((empty.step (.startDetached "S" none)).follow
      [.startTest 0 "t" none, .failTest 0 ⟨none, "boom"⟩, .endTest 0]).EndsSuiteWith 0 .fail :=
  ⟨rfl, by decide,
    (endsSuiteWith_ofParts_iff empty (.startDetached "S" none)
      [.startTest 0 "t" none, .failTest 0 ⟨none, "boom"⟩, .endTest 0] rfl (by decide)).1.mpr
      (by decide)⟩

/-- A suite of a module is skipped, and its only test fails: the suite ends as skipped, and
not as failed. -/
theorem skip_covers_failed_test :
    let r := empty.step (.startModule default .initial)
    let opening := RunStep.startSuite 0 "FooTest" none false
    let steps := [RunStep.startTest 0 "bad" none, .skipSuite 0 (some "disabled"),
      .failTest 0 ⟨none, "boom"⟩, .endTest 0]
    let last := (r.step opening).follow steps
    Status.ofParts (steps.any (·.failsSuite 0)) (steps.any (·.skipsSuite 0))
        ((r.step opening).endings 0 steps) = .fail ∧
      ¬ last.EndsSuiteWith 0 .fail := by
  intro r opening steps last
  have hskip : last.EndsSuiteWith 0 .skip := ⟨_, _, rfl, rfl, rfl, rfl, rfl, rfl⟩
  refine ⟨by decide, fun hfail => ?_⟩
  cases hfail.unique hskip

end Run

end TestTelemetry
