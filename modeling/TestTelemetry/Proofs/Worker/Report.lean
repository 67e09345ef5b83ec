/-
The result that a module hands on at its end.

* `Handler.finishInOrder_result` — one result is handed on, and its status is that of the spans
  as they were closed;
* `Handler.exists_module_applyAll` — what else stands in the result after a script.
-/
import TestTelemetry.Proofs.Worker.Completion

namespace TestTelemetry

namespace Handler

variable {h : Handler} {es : List WorkerEvent} {tests : List (TestKey × Nat)}
  {suites : List (SuiteKey × Nat)} {m : ModuleRun}

/-- Ending what still runs changes what the module counted of its suites, and nothing else. -/
theorem withoutSuites_drained (h : Handler) (tests : List (TestKey × Nat))
    (suites : List (SuiteKey × Nat)) :
    (h.drained tests suites).modules.map ModuleRun.withoutSuites =
      h.run.modules.map ModuleRun.withoutSuites := by
  have htests : ∀ (l : List Nat) (r : Run), (l.foldl Run.endTest r).modules = r.modules := by
    intro l
    induction l with
    | nil => exact fun _ => rfl
    | cons n rest ih => exact fun r => (ih (r.endTest n)).trans (Run.modules_endTest n)
  have hsuites : ∀ (l : List Nat) (r : Run),
      (l.foldl Run.endSuite r).modules.map ModuleRun.withoutSuites =
        r.modules.map ModuleRun.withoutSuites := by
    intro l
    induction l with
    | nil => exact fun _ => rfl
    | cons n rest ih => exact fun r => (ih (r.endSuite n)).trans (Run.withoutSuites_endSuite n)
  rw [drained, hsuites, htests]

/-- A module that ends hands on one result.  Its status is that of the spans of its suites as they
were closed; everything else is as before what still ran was ended. -/
theorem finishInOrder_result (ht : h.Tracks es) (hm : h.run.modules = [m])
    (hended : m.ended = false) (htests : tests.Perm h.tests.entries)
    (hsuites : suites.Perm h.suites.entries) :
    (h.finishInOrder tests suites).2 = some { m.result with
        status := some (Status.ofParts false false
          (closedStatuses (occurrences (es ++ h.finishing tests suites)))).name } ∧
      (h.finishInOrder tests suites).1.finishModule.2 = none := by
  have hcounted := (ht.applyAll (h.finishing tests suites)).reflects.counted
  rw [(applyAll_finishing ht.keeps htests hsuites).1] at hcounted
  obtain ⟨last, hlast⟩ : ∃ last, (h.drained tests suites).modules = [last] :=
    List.length_eq_one_iff.mp (by simpa using congrArg List.length hcounted)
  have hrest : last.withoutSuites = m.withoutSuites := by
    simpa [hlast, hm] using withoutSuites_drained h tests suites
  have hstatus : last.status = Status.ofParts false false
      (closedStatuses (occurrences (es ++ h.finishing tests suites))) := by
    rw [hlast, List.map_singleton, List.singleton_inj] at hcounted
    rw [ModuleRun.status, hcounted, StatusCounts.status_ofList]
  have hrunning : last.ended = false := (congrArg ModuleRun.ended hrest).trans hended
  have hresult : last.result = { m.result with status := some last.status.name } := by
    show { last.withoutSuites.result with status := some last.status.name } = _
    rw [hrest]
    rfl
  have hend : (h.drained tests suites).endModule moduleNumber =
      ((h.drained tests suites).endModuleWith moduleNumber last.result, some last.result) := by
    simp [Run.endModule, hlast, moduleNumber, hrunning]
  constructor
  · rw [← hstatus, ← hresult]
    simp only [finishInOrder, hend]
  · -- The module has ended, so there is nothing left to hand on.
    show (Run.endModule _ moduleNumber).2 = none
    simp only [finishInOrder, hend]
    simp [endTests, endSuites, Keyed.empty, Keyed.values, Run.endModule, Run.endModuleWith, hlast,
      moduleNumber, hrunning, ModuleRun.finish]

/-- The module of a handler after a script: it has not ended, and its result tells the skips that
were counted and the coverage that was merged. -/
theorem exists_module_applyAll (d : ModuleDescriptor) (settings : ExecutionSettings)
    (es : List WorkerEvent) : ∃ m : ModuleRun,
      ((start d settings).applyAll es).run.modules = [m] ∧ m.ended = false ∧
      m.result.testsSkipped = UInt64.ofNat (impactSkips es) ∧
      m.result.coverage = if (coverageOf es).isEmpty then none else some (coverageOf es) := by
  obtain ⟨m, hm⟩ := (tracks_applyAll d settings es).reflects.one_module
  have haccount := account_applyAll d settings es
  rw [Run.accounts, hm, List.map_singleton, List.singleton_inj] at haccount
  have hskipped : m.testsSkipped = impactSkips es := congrArg Account.testsSkipped haccount
  have hcoverage : m.coverage = coverageOf es := congrArg Account.coverage haccount
  refine ⟨m, hm, congrArg Account.ended haccount, ?_, ?_⟩
  · rw [← hskipped]
    rfl
  · rw [← hcoverage]
    rfl

end Handler

end TestTelemetry
