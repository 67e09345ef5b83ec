/-
One result for each worker.

The first end of the module of a handler hands on a result, which is fixed by the state at that
moment.  Neither an event nor a further end of the module hands on anything.

* `Handler.endAnswers` — what the ends of the module are answered with;
* `Handler.results_events`, `Handler.results_after` — before and after the first end;
* `Handler.one_result` — the handler, and any module that is ended in either way.
-/
import TestTelemetry.Proofs.Lifecycle.Handover
import TestTelemetry.Proofs.Worker.Tables

namespace TestTelemetry

/-- Whether a step of a handler is the end of its module. -/
def HandlerStep.isFinish : HandlerStep → Bool
  | .finish => true
  | .event _ => false

namespace Handler

/-- What the ends of the module are answered with: whether the module still runs once everything
else has ended. -/
def endAnswers (h : Handler) : List HandlerStep → List Bool
  | [] => []
  | .event e :: rest => (h.apply e).endAnswers rest
  | .finish :: rest =>
    h.endTests.endSuites.run.isRunning (.module moduleNumber) :: h.finishModule.1.endAnswers rest

variable {h : Handler} {x : HandlerStep}

theorem follow_events (h : Handler) (events : List WorkerEvent) :
    h.follow (events.map .event) = h.applyAll events := List.foldl_map

theorem work_append (h : Handler) (l l' : List HandlerStep) :
    h.work (l ++ l') = h.work l ++ (h.follow l).work l' := by
  induction l generalizing h with
  | nil => rfl
  | cons x rest ih =>
    rw [List.cons_append, work, work, ih, List.append_assoc]
    rfl

/-- What is handed on along two lists of steps, one after the other. -/
theorem results_append (h : Handler) (l l' : List HandlerStep) :
    h.run.results (h.work (l ++ l')) =
      h.run.results (h.work l) ++ (h.follow l).run.results ((h.follow l).work l') := by
  rw [work_append, Run.results_append, run_follow]

theorem endAnswers_append_events (h : Handler) (events : List WorkerEvent)
    (rest : List HandlerStep) :
    h.endAnswers (events.map .event ++ rest) = (h.applyAll events).endAnswers rest := by
  induction events generalizing h with
  | nil => rfl
  | cons e events ih => exact ih (h.apply e)

/-! ### Before the end -/

/-- Only the module of the handler is ended. -/
theorem module_of_mem_work {steps : List HandlerStep} {y : RunStep} {m : Nat}
    (hy : y ∈ h.work steps) (hends : y.ends? = some (.module m)) :
    m = moduleNumber ∧ .finish ∈ steps := by
  induction steps generalizing h with
  | nil => cases hy
  | cons x rest ih =>
    rcases List.mem_append.mp hy with hy | hy
    · obtain ⟨hm, rfl⟩ := ends_of_mem_operations hy hends
      exact ⟨hm, List.mem_cons_self ..⟩
    · obtain ⟨hm, hfinish⟩ := ih hy
      exact ⟨hm, List.mem_cons_of_mem _ hfinish⟩

/-- No event ends the module. -/
theorem quiet_events (h : Handler) (events : List WorkerEvent) (m : Nat) :
    ∀ y ∈ h.work (events.map .event), y.ends? ≠ some (.module m) := by
  intro y hy hends
  obtain ⟨e, -, he⟩ := List.mem_map.mp (module_of_mem_work hy hends).2
  cases he

/-- Before the module ends, nothing is handed on. -/
theorem results_events (h : Handler) (events : List WorkerEvent) :
    h.run.results (h.work (events.map .event)) = [] :=
  Run.results_eq_nil fun y hy k hends => absurd hends (quiet_events h events k y hy)

/-- The module runs as long as there are only events. -/
theorem isRunning_events (hrun : h.run.isRunning (.module moduleNumber) = true)
    (events : List WorkerEvent) :
    (h.applyAll events).run.isRunning (.module moduleNumber) = true := by
  rw [← follow_events, run_follow]
  exact Run.isRunning_follow hrun (quiet_events h events moduleNumber)

/-! ### The first end -/

/-- What a module ends before itself. -/
def leftovers (h : Handler) : List RunStep :=
  h.tests.values.map .endTest ++ h.suites.values.map .endSuite

theorem run_leftovers (h : Handler) : h.endTests.endSuites.run = h.run.follow h.leftovers := by
  simp only [leftovers, Run.follow, List.foldl_append, List.foldl_map]
  rfl

theorem quiet_leftovers (h : Handler) (m : Nat) :
    ∀ y ∈ h.leftovers, y.ends? ≠ some (.module m) := by
  intro y hy
  rcases List.mem_append.mp hy with hy | hy
  · obtain ⟨t, -, rfl⟩ := List.mem_map.mp hy
    exact nofun
  · obtain ⟨n, -, rfl⟩ := List.mem_map.mp hy
    exact nofun

/-- The first end of the module hands on the result that the module has once everything else has
ended. -/
theorem results_finish (hrun : h.run.isRunning (.module moduleNumber) = true) :
    ∃ result, h.finishModule.2 = some result ∧
      h.endTests.endSuites.run.isRunning (.module moduleNumber) = true ∧
      h.run.results (h.work [.finish]) = [(moduleNumber, result)] ∧
      h.finishModule.1.run.hasEnded (.module moduleNumber) = true := by
  have hlast : h.endTests.endSuites.run.isRunning (.module moduleNumber) = true := by
    rw [run_leftovers]
    exact Run.isRunning_follow hrun (h.quiet_leftovers moduleNumber)
  obtain ⟨a, ha, hended⟩ := Run.isRunning_module_iff.mp hlast
  have hquiet : h.run.results h.leftovers = [] :=
    Run.results_eq_nil fun y hy k hends => absurd hends (h.quiet_leftovers k y hy)
  refine ⟨a.result, ?_, hlast, ?_, Run.hasEnded_of_ends (x := .endModule moduleNumber) hlast rfl⟩
  · show (h.endTests.endSuites.run.endModule moduleNumber).2 = _
    simp [Run.endModule, ha, hended]
  · show h.run.results (h.leftovers ++ [.endModule moduleNumber] ++ []) = _
    rw [List.append_nil, Run.results_append, hquiet, ← run_leftovers, Run.results,
      Run.handed?_endModule ha hended]
    rfl

/-! ### After the end -/

theorem results_after (hended : h.run.hasEnded (.module moduleNumber) = true)
    (steps : List HandlerStep) : h.run.results (h.work steps) = [] :=
  Run.results_eq_nil fun _ hy _ hends => (module_of_mem_work hy hends).1 ▸ hended

/-- Once the module has ended, every end of it is answered with no. -/
theorem endAnswers_after (hended : h.run.hasEnded (.module moduleNumber) = true)
    (steps : List HandlerStep) :
    h.endAnswers steps = List.replicate (steps.countP HandlerStep.isFinish) false := by
  induction steps generalizing h with
  | nil => rfl
  | cons x rest ih =>
    have hstep : (h.step x).run.hasEnded (.module moduleNumber) = true := by
      rw [run_step]
      exact Run.hasEnded_follow hended _
    cases x with
    | event e => exact ih hstep
    | finish =>
      have hlast : h.endTests.endSuites.run.hasEnded (.module moduleNumber) = true := by
        rw [run_leftovers]
        exact Run.hasEnded_follow hended _
      rw [endAnswers, (Run.endItem_of_hasEnded hlast).1, List.countP_cons_of_pos rfl,
        List.replicate_succ]
      exact congrArg _ (ih hstep)

/-- **One result.**  Whatever events come before it, the first end of the module of a handler is
answered with yes and hands on a result, which does not depend on the order in which the tests and
suites that still run are ended.  Whatever events and ends come after it, nothing else is ever
handed on, and every other end is answered with no.

A module that is ended directly, with or without a result that was reported for it, answers only
the first of these ends with yes.  It hands on the result that it has at this moment if this end
comes without one, and nothing else; and no module ever hands on more than one result. -/
theorem one_result (d : ModuleDescriptor) (settings : ExecutionSettings) :
    let first := start d settings
    (∀ events : List WorkerEvent,
      first.run.results (first.work (events.map .event)) = [] ∧
      ∃ result,
        (∀ tests suites, tests.Perm (first.applyAll events).tests.entries →
          suites.Perm (first.applyAll events).suites.entries →
          ((first.applyAll events).finishInOrder tests suites).2 = some result) ∧
        ∀ rest, first.run.results (first.work (events.map .event ++ .finish :: rest)) =
            [(moduleNumber, result)] ∧
          first.endAnswers (events.map .event ++ .finish :: rest) =
            true :: List.replicate (rest.countP HandlerStep.isFinish) false) ∧
      (∀ (r : Run) m quiet x rest, r.isRunning (.module m) = true →
        (∀ y ∈ quiet, y.ends? ≠ some (.module m)) → x.ends? = some (.module m) →
        r.answers (.module m) (quiet ++ x :: rest) =
            true :: List.replicate (RunStep.endCount (.module m) rest) false ∧
          ∃ a, (r.follow quiet).modules[m]? = some a ∧
            (r.results (quiet ++ x :: rest)).filter (fun e => e.1 = m) = match x with
              | .endModule _ => [(m, a.result)]
              | _ => []) ∧
      ∀ (r : Run) steps m, ((r.results steps).filter fun e => e.1 = m).length ≤ 1 := by
  intro first
  refine ⟨fun events => ⟨results_events first events, ?_⟩, ?_, Run.length_results_le⟩
  · have hrun : first.run.isRunning (.module moduleNumber) = true := rfl
    obtain ⟨result, hresult, hanswer, hfinish, hended⟩ :=
      results_finish (isRunning_events hrun events)
    refine ⟨result, fun tests suites htests hsuites => ?_, fun rest => ⟨?_, ?_⟩⟩
    · rw [finishInOrder_eq _ htests hsuites, hresult]
    · -- Three parts: the events, the end of the module, and whatever comes after it.
      have hafter : ((first.applyAll events).follow [.finish]).run.results
          (((first.applyAll events).follow [.finish]).work rest) = [] := results_after hended rest
      rw [results_append, results_events, follow_events, List.nil_append, ← List.singleton_append,
        results_append, hfinish, hafter, List.append_nil]
    · rw [endAnswers_append_events, endAnswers, hanswer, endAnswers_after hended]
  · intro r m quiet x rest hrun hquiet hx
    obtain ⟨hanswers, hresults⟩ := Run.first_end hrun hquiet hx rest
    obtain ⟨a, ha, hended⟩ := Run.isRunning_module_iff.mp (Run.isRunning_follow hrun hquiet)
    refine ⟨hanswers, a, ha, hresults.trans ?_⟩
    cases x with
    | endModule k =>
      cases hx
      rw [Run.handed?_endModule ha hended]
      rfl
    | _ => rfl

/-- A suite is opened, the module is ended, and the suite is opened again before the module is ended
once more: there is one result.  A module that is ended with a reported result hands on none. -/
theorem second_end_hands_on_nothing :
    let d : ModuleDescriptor := ⟨"session", 0, "module", [], none⟩
    let first := start d .initial
    let suite : SuiteKey := ⟨"S", none⟩
    let steps := [.event (.suiteStart suite false), .finish, .event (.suiteStart suite false),
      .event (.suiteFinish suite), .finish]
    let reported := (ModuleRun.start d .initial).result
    let calls := [RunStep.endModuleWith 0 reported, .endModule 0]
    (∃ result, first.run.results (first.work steps) = [(moduleNumber, result)]) ∧
      first.endAnswers steps = [true, false] ∧
      first.run.answers (.module 0) calls = [true, false] ∧
      (first.run.results calls).filter (fun e => e.1 = 0) = [] := by
  intro d first suite steps reported calls
  obtain ⟨hevents, hmodule, -⟩ := one_result d .initial
  obtain ⟨-, result, -, hrest⟩ := hevents [.suiteStart suite false]
  obtain ⟨hresults, hanswers⟩ := hrest [.event (.suiteStart suite false),
    .event (.suiteFinish suite), .finish]
  obtain ⟨hcalls, a, -, hnone⟩ := hmodule first.run 0 [] (.endModuleWith 0 reported) [.endModule 0]
    rfl (fun _ hy => absurd hy List.not_mem_nil) rfl
  exact ⟨⟨result, hresults⟩, hanswers, hcalls, hnone⟩

end Handler

end TestTelemetry
