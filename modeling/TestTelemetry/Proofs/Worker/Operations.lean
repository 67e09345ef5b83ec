/-
What a handler does to its run.

A handler gets events, and at any time its module can be ended, also more than once.  Each of these
is some steps of the run of the handler, and the run changes in no other way.

* `HandlerStep`, `Handler.step`, `Handler.follow` — events and ends of the module, in any order;
* `Handler.operations` — the steps of the run that one of them stands for;
* `Handler.run_follow` — the run is the one after these steps;
* `Handler.starts_nothing_of_mem_operations` — what starts no suite and no test;
* `Handler.keeps_follow` — depths and tables agree, also after ends of the module;
* `Handler.finishInOrder_eq` — the order in which a module ends what still runs does not matter.
-/
import TestTelemetry.Proofs.Lifecycle.EndOrder
import TestTelemetry.Proofs.Worker.Drain

namespace TestTelemetry

/-- What can happen to a handler. -/
inductive HandlerStep
  | event (e : WorkerEvent)
  | finish

namespace Handler

/-- A handler after an event, or after the end of its module. -/
def step (h : Handler) : HandlerStep → Handler
  | .event e => h.apply e
  | .finish => h.finishModule.1

/-- A handler after some events and ends of its module. -/
def follow (h : Handler) (steps : List HandlerStep) : Handler := steps.foldl step h

/-- What an event, or the end of the module, does to the run of a handler. -/
def operations (h : Handler) : HandlerStep → List RunStep
  | .event (.suiteStart s parallelized) =>
    if h.activations.isFirst s then [.startSuite moduleNumber s.name s.codeUnit parallelized]
    else []
  | .event (.suiteSkip s reason) => (h.suites.find? s).toList.map (.skipSuite · reason)
  | .event (.suiteFailure s f) => (h.suites.find? s).toList.map (.failSuite · f)
  | .event (.suiteFinish s) =>
    if h.activations.isLast s then (h.suites.find? s).toList.map .endSuite else []
  | .event (.testStart t) =>
    if h.tests.contains t then []
    else
      match h.suites.find? t.suite with
      | some n => [.startTest n t.name t.parameters]
      | none => [.startDetached t.suite.name t.suite.codeUnit,
          .startTest h.run.suites.length t.name t.parameters]
  | .event (.testSkip t reason) =>
    match h.tests.find? t with
    | some n =>
      (if reason = some Tag.skippedByImpact then [.countSkipped moduleNumber] else []) ++
        [.skipTest n reason]
    | none => []
  | .event (.testFailure t f) => (h.tests.find? t).toList.map (.failTest · f)
  | .event (.testFinish t) => (h.tests.find? t).toList.map .endTest
  | .event (.coverage c) => [.addCoverage moduleNumber c]
  | .finish => h.tests.values.map .endTest ++ h.suites.values.map .endSuite ++
      [.endModule moduleNumber]

/-- What some events and ends of the module do to the run of a handler. -/
def work (h : Handler) : List HandlerStep → List RunStep
  | [] => []
  | x :: rest => h.operations x ++ (h.step x).work rest

variable {h : Handler} {x : HandlerStep}

/-! ### The run -/

theorem run_onSuite (s : SuiteKey) (f : Run → Nat → Run) :
    (h.onSuite s f).run = (h.suites.find? s).elim h.run (f h.run) := by
  unfold onSuite
  cases h.suites.find? s <;> rfl

theorem run_onTest (t : TestKey) (f : Run → Nat → Run) :
    (h.onTest t f).run = (h.tests.find? t).elim h.run (f h.run) := by
  unfold onTest
  cases h.tests.find? t <;> rfl

/-- The run after one step is the one after its operations. -/
theorem run_step (h : Handler) (x : HandlerStep) :
    (h.step x).run = h.run.follow (h.operations x) := by
  cases x with
  | finish =>
    simp only [operations, Run.follow, List.foldl_append, List.foldl_map]
    rfl
  | event e =>
    show (h.apply e).run = _
    cases e with
    | suiteStart s parallelized =>
      simp only [apply, openSuite, operations]
      split <;> rfl
    | suiteSkip s reason =>
      simp only [apply, run_onSuite, operations]
      cases h.suites.find? s <;> rfl
    | suiteFailure s f =>
      simp only [apply, run_onSuite, operations]
      cases h.suites.find? s <;> rfl
    | suiteFinish s =>
      simp only [apply, closeSuite, operations]
      split
      · cases h.suites.find? s <;> rfl
      · rfl
    | testStart t =>
      simp only [apply, openTest, operations]
      split
      · rfl
      · cases h.suites.find? t.suite <;> rfl
    | testSkip t reason =>
      simp only [apply, skipTest, run_onTest, operations]
      cases h.tests.find? t with
      | none => rfl
      | some n =>
        by_cases hr : reason = some Tag.skippedByImpact
        · simp only [Option.elim_some, if_pos hr]
          rfl
        · simp only [Option.elim_some, if_neg hr]
          rfl
    | testFailure t f =>
      simp only [apply, run_onTest, operations]
      cases h.tests.find? t <;> rfl
    | testFinish t =>
      simp only [apply, closeTest, operations]
      cases h.tests.find? t <;> rfl
    | coverage c => rfl

theorem follow_concat (h : Handler) (steps : List HandlerStep) (x : HandlerStep) :
    h.follow (steps ++ [x]) = (h.follow steps).step x := List.foldl_append

theorem work_concat (h : Handler) (steps : List HandlerStep) (x : HandlerStep) :
    h.work (steps ++ [x]) = h.work steps ++ (h.follow steps).operations x := by
  induction steps generalizing h with
  | nil => exact List.append_nil _
  | cons y rest ih =>
    rw [List.cons_append, work, work, ih, List.append_assoc]
    rfl

/-- The run of a handler is the one after all of its operations. -/
theorem run_follow (h : Handler) (steps : List HandlerStep) :
    (h.follow steps).run = h.run.follow (h.work steps) := by
  induction steps generalizing h with
  | nil => rfl
  | cons x rest ih =>
    show ((h.step x).follow rest).run = _
    rw [ih, run_step, work, Run.follow, Run.follow, Run.follow, List.foldl_append]

/-! ### What is started -/

/-- Whether a step can start a suite or a test. -/
def canStart : HandlerStep → Bool
  | .event (.suiteStart ..) => true
  | .event (.testStart _) => true
  | _ => false

/-- No other step starts a suite or a test. -/
theorem starts_nothing_of_mem_operations (hx : canStart x = false) {y : RunStep}
    (hy : y ∈ h.operations x) (r : Run) : r.newSuite? y = none ∧ r.newTest? y = none := by
  cases x with
  | finish =>
    simp only [operations, List.mem_append, List.mem_map, List.mem_singleton] at hy
    rcases hy with (⟨n, -, rfl⟩ | ⟨n, -, rfl⟩) | rfl <;> exact ⟨rfl, rfl⟩
  | event e =>
    cases e with
    | suiteStart s parallelized => cases hx
    | testStart t => cases hx
    | suiteFinish s =>
      obtain ⟨-, hy⟩ := List.mem_ite_nil_right.mp hy
      obtain ⟨n, -, rfl⟩ := List.mem_map.mp hy
      exact ⟨rfl, rfl⟩
    | suiteSkip s reason =>
      obtain ⟨n, -, rfl⟩ := List.mem_map.mp hy
      exact ⟨rfl, rfl⟩
    | suiteFailure s f =>
      obtain ⟨n, -, rfl⟩ := List.mem_map.mp hy
      exact ⟨rfl, rfl⟩
    | testSkip t reason =>
      simp only [operations] at hy
      split at hy
      · rcases List.mem_append.mp hy with hy | hy
        · obtain ⟨-, hy⟩ := List.mem_ite_nil_right.mp hy
          rw [List.mem_singleton.mp hy]
          exact ⟨rfl, rfl⟩
        · rw [List.mem_singleton.mp hy]
          exact ⟨rfl, rfl⟩
      · cases hy
    | testFailure t f =>
      obtain ⟨n, -, rfl⟩ := List.mem_map.mp hy
      exact ⟨rfl, rfl⟩
    | testFinish t =>
      obtain ⟨n, -, rfl⟩ := List.mem_map.mp hy
      exact ⟨rfl, rfl⟩
    | coverage c =>
      rw [List.mem_singleton.mp hy]
      exact ⟨rfl, rfl⟩

/-! ### Depths and tables -/

end Handler

namespace Activations

variable {κ : Type} [DecidableEq κ]

theorem depth_foldl_clear (a : Activations κ) (keys : List κ) (j : κ) :
    (keys.foldl clear a).depth j = if j ∈ keys then 0 else a.depth j := by
  induction keys generalizing a with
  | nil => simp
  | cons k rest ih =>
    rw [List.foldl_cons, ih, depth_clear]
    by_cases hj : j ∈ rest
    · simp [hj]
    · by_cases hk : k = j
      · simp [hk]
      · simp [hj, hk, Ne.symm hk]

/-- A tracker without any open key is the empty one. -/
theorem eq_empty_of_depth {a : Activations κ} (h : ∀ k, a.depth k = 0) : a = empty := by
  obtain ⟨⟨entries, hnodup⟩, hpos⟩ := a
  have hnil : entries = [] := by
    refine List.eq_nil_iff_forall_not_mem.mpr fun e he => ?_
    have hfind := Keyed.find?_eq_some_iff (d := ⟨entries, hnodup⟩).mpr he
    have hdepth := h e.1
    rw [depth, hfind, Option.getD_some] at hdepth
    exact Nat.lt_irrefl 0 (hdepth ▸ hpos _ _ hfind)
  subst hnil
  rfl

theorem finish_empty (k : κ) : (empty : Activations κ).finish k = empty :=
  eq_empty_of_depth fun j => by rw [depth_finish]; exact Nat.zero_sub _

/-- Some keys can be closed for good in any order. -/
theorem foldl_clear_perm (a : Activations κ) {l l' : List κ} (h : l.Perm l') :
    l.foldl clear a = l'.foldl clear a := by
  refine h.foldl_eq' (fun j _ k _ a => ?_) a
  simp only [clear, Activations.mk.injEq]
  exact Keyed.erase_comm ..

end Activations

namespace Handler

variable {h : Handler} {x : HandlerStep}

/-- The end of the module leaves nothing open. -/
theorem keeps_finishModule {es : List WorkerEvent} (hk : h.Keeps es) :
    h.finishModule.1.Keeps [] where
  depth := by
    intro s
    show (h.suites.keys.foldl Activations.clear h.activations).depth s = 0
    rw [Activations.depth_foldl_clear]
    by_cases hs : s ∈ h.suites.keys
    · rw [if_pos hs]
    · have hnone : h.suites.find? s = none := by
        refine Keyed.find?_eq_none_iff.mpr fun n hn => hs ?_
        exact List.mem_map.mpr ⟨(s, n), hn, rfl⟩
      -- A key that is not in the table is not open either.
      rw [if_neg hs, hk.depth]
      exact (hk.suite s).mp hnone
  suite := fun _ => ⟨fun _ => rfl, fun _ => rfl⟩
  test := fun _ => ⟨fun _ => rfl, fun _ => rfl⟩

/-- Whatever happens, the depths and the tables are what the events since the last end of the
module leave open. -/
theorem keeps_follow (d : ModuleDescriptor) (settings : ExecutionSettings)
    (steps : List HandlerStep) : ∃ es, ((start d settings).follow steps).Keeps es := by
  induction steps using List.reverseRecOn with
  | nil => exact ⟨[], keeps_start d settings⟩
  | append_singleton steps x ih =>
    obtain ⟨es, hk⟩ := ih
    rw [follow_concat]
    cases x with
    | event e => exact ⟨es ++ [e], keeps_apply hk e⟩
    | finish => exact ⟨[], keeps_finishModule hk⟩

/-- **The order of the last ends does not matter.**  In whatever order a module ends the tests and
the suites that still run, it leaves the same handler and hands on the same result. -/
theorem finishInOrder_eq (h : Handler) {tests : List (TestKey × Nat)}
    {suites : List (SuiteKey × Nat)} (htests : tests.Perm h.tests.entries)
    (hsuites : suites.Perm h.suites.entries) : h.finishInOrder tests suites = h.finishModule := by
  have hrun : h.drained tests suites = h.drained h.tests.entries h.suites.entries := by
    rw [drained, drained, Run.foldl_endTest_perm _ (htests.map _),
      Run.foldl_endSuite_perm _ (hsuites.map _)]
  rw [finishModule_eq_finishInOrder, finishInOrder, finishInOrder, hrun,
    Activations.foldl_clear_perm _ (hsuites.map _)]

end Handler

end TestTelemetry
