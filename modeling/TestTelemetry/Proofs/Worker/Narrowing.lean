/-
A worker does not see that its settings are narrowed.

What is said about other modules is left out of the settings of a worker.  Everything that a worker
reads is there as before, so that a handler with all settings and one with those of its module go
the same way.

* `ModuleRun.isNew_narrowed`, `ModuleRun.result_narrowed` — a module with only its own settings says
  the same;
* `Run.narrowed` — a run of such modules, which every operation of a worker leaves one;
* `Handler.step_narrowed`, `Handler.finishInOrder_narrowed` — a handler takes every step as before;
* `Handler.narrowing_is_invisible` — what can be seen of the two handlers is the same.
-/
import TestTelemetry.Proofs.Settings.Narrow
import TestTelemetry.Proofs.Worker.Operations

namespace TestTelemetry

/-! ### Modules -/

namespace ModuleRun

/-- A module with only its own settings. -/
def narrowed (m : ModuleRun) : ModuleRun := { m with settings := m.settings.narrow m.name }

variable (m : ModuleRun)

theorem isNew_narrowed (t : TestIdentifier) : m.narrowed.isNew t = m.isNew t := by
  have hknown : m.narrowed.settings.knownTests m.narrowed.name = m.settings.knownTests m.name :=
    m.settings.knownTests_narrow m.name
  rw [isNew, hknown, isNew]

theorem result_narrowed : m.narrowed.result = m.result := by
  have hdetects : m.narrowed.detectsFlakes = m.detectsFlakes :=
    m.settings.detectsFlakes_narrow m.name
  have hfaulty : m.narrowed.isFaulty = m.isFaulty := by
    rw [isFaulty, hdetects, isFaulty]
    rfl
  rw [result, hdetects, hfaulty, result]
  rfl

theorem addCoverage_narrowed (c : CoverageStore) :
    (m.addCoverage c).narrowed = m.narrowed.addCoverage c := by
  rw [addCoverage, addCoverage]
  show _ = if m.ended then _ else _
  split <;> rfl

end ModuleRun

/-! ### Runs -/

namespace Run

/-- A run whose modules have only their own settings. -/
def narrowed (r : Run) : Run := { r with modules := r.modules.map ModuleRun.narrowed }

variable (r : Run)

@[simp]
theorem suites_narrowed : r.narrowed.suites = r.suites := rfl

@[simp]
theorem tests_narrowed : r.narrowed.tests = r.tests := rfl

theorem modules_narrowed (m : Nat) :
    r.narrowed.modules[m]? = r.modules[m]?.map ModuleRun.narrowed := List.getElem?_map ..

theorem moduleOf_narrowed (s : SuiteRun) :
    r.narrowed.moduleOf s = (r.moduleOf s).map fun m => (m.1, m.2.narrowed) := by
  rw [moduleOf, moduleOf]
  cases s.module with
  | none => rfl
  | some m =>
    rw [Option.bind_some, Option.bind_some, modules_narrowed, Option.map_map, Option.map_map]
    rfl

/-- A change of one module that does not look at the settings. -/
theorem narrowed_modify (f : ModuleRun → ModuleRun) (hf : ∀ m, (f m).narrowed = f m.narrowed)
    (m : Nat) (suites : List SuiteRun) (tests : List TestRun) :
    (Run.mk (r.modules.modify m f) suites tests).narrowed =
      ⟨r.narrowed.modules.modify m f, suites, tests⟩ :=
  congrArg (Run.mk · suites tests) (map_modify hf)

theorem startSuite_narrowed (m : Nat) (name : String) (codeUnit : Option String)
    (parallelized : Bool) :
    (r.startSuite m name codeUnit parallelized).narrowed =
      r.narrowed.startSuite m name codeUnit parallelized := by
  have howner : (r.narrowed.modules[m]?.map fun a => (m, a.name)) =
      r.modules[m]?.map fun a => (m, a.name) := by
    rw [modules_narrowed, Option.map_map]
    rfl
  rw [startSuite, startSuite, howner]
  rfl

theorem startTest_narrowed (n : Nat) (name : String) (parameters : Option String) :
    (r.startTest n name parameters).narrowed = r.narrowed.startTest n name parameters := by
  cases hs : r.suites[n]? with
  | none => simp only [startTest, suites_narrowed, hs]
  | some s =>
    simp only [startTest, suites_narrowed, hs, moduleOf_narrowed]
    cases r.moduleOf s with
    | none => rfl
    | some owner =>
      -- The module says the same of the test, and counts it as before.
      simp only [Option.map_some, Option.any_some, ModuleRun.isNew_narrowed]
      exact r.narrowed_modify (·.countTest (owner.2.isNew ⟨s.name, name, parameters⟩))
        (fun _ => rfl) ..

theorem endSuite_narrowed (n : Nat) : (r.endSuite n).narrowed = r.narrowed.endSuite n := by
  cases hs : r.suites[n]? with
  | none => simp only [endSuite, suites_narrowed, hs]
  | some s =>
    simp only [endSuite, suites_narrowed, hs]
    by_cases hended : s.ended = true
    · rw [if_pos hended, if_pos hended]
    · rw [if_neg hended, if_neg hended]
      cases s.module with
      | none => rfl
      | some m => exact r.narrowed_modify (·.recordSuite s.status) (fun _ => rfl) ..

theorem endTest_narrowed (t : Nat) : (r.endTest t).narrowed = r.narrowed.endTest t := by
  cases ha : r.tests[t]? with
  | none => simp only [endTest, tests_narrowed, ha]
  | some a =>
    simp only [endTest, tests_narrowed, ha]
    by_cases hended : a.ended = true
    · rw [if_pos hended, if_pos hended]
    · rw [if_neg hended, if_neg hended]
      rfl

theorem endModuleWith_narrowed (m : Nat) (result : ModuleResult) :
    (r.endModuleWith m result).narrowed = r.narrowed.endModuleWith m result := by
  refine r.narrowed_modify _ (fun a => ?_) ..
  show _ = if a.ended then _ else _
  split <;> rfl

/-- The end of a module hands on the same result. -/
theorem endModule_narrowed (m : Nat) :
    r.narrowed.endModule m = ((r.endModule m).1.narrowed, (r.endModule m).2) := by
  rw [endModule, endModule, modules_narrowed]
  cases r.modules[m]? with
  | none => rfl
  | some a =>
    rw [Option.map_some]
    show (if a.ended then _ else _) = _
    by_cases hended : a.ended = true
    · simp only [if_pos hended]
    · simp only [if_neg hended, ModuleRun.result_narrowed, endModuleWith_narrowed]

theorem countSkipped_narrowed (m : Nat) :
    (r.countSkipped m).narrowed = r.narrowed.countSkipped m :=
  r.narrowed_modify ModuleRun.countSkipped (fun _ => rfl) ..

theorem addCoverage_narrowed (m : Nat) (c : CoverageStore) :
    (r.addCoverage m c).narrowed = r.narrowed.addCoverage m c :=
  r.narrowed_modify (·.addCoverage c) (fun a => a.addCoverage_narrowed c) ..

end Run

/-! ### Handlers -/

namespace Handler

/-- A handler with only the settings of its module. -/
def narrowed (h : Handler) : Handler :=
  { h with settings := h.settings.narrow h.descriptor.name, run := h.run.narrowed }

variable (h : Handler)

theorem start_narrow (d : ModuleDescriptor) (s : ExecutionSettings) :
    start d (s.narrow d.name) = (start d s).narrowed := rfl

theorem module_narrowed : h.narrowed.module = h.module.narrowed := by
  rw [module, module]
  show (h.run.narrowed.modules[moduleNumber]?).getD _ = _
  rw [Run.modules_narrowed]
  cases h.run.modules[moduleNumber]? <;> rfl

theorem isSkippable_narrowed (t : TestKey) : h.narrowed.isSkippable t = h.isSkippable t := by
  have htests : h.narrowed.settings.skippableTests h.narrowed.descriptor.name =
      h.settings.skippableTests h.descriptor.name :=
    h.settings.skippableTests_narrow h.descriptor.name
  rw [isSkippable, htests, isSkippable]
  rfl

theorem onSuite_narrowed (s : SuiteKey) {f : Run → Nat → Run}
    (hf : ∀ r n, (f r n).narrowed = f r.narrowed n) :
    (h.onSuite s f).narrowed = h.narrowed.onSuite s f := by
  simp only [onSuite, narrowed]
  cases h.suites.find? s with
  | none => rfl
  | some n => simp only [hf]

theorem onTest_narrowed (t : TestKey) {f : Run → Nat → Run}
    (hf : ∀ r n, (f r n).narrowed = f r.narrowed n) :
    (h.onTest t f).narrowed = h.narrowed.onTest t f := by
  simp only [onTest, narrowed]
  cases h.tests.find? t with
  | none => rfl
  | some n => simp only [hf]

theorem openSuite_narrowed (s : SuiteKey) (parallelized : Bool) :
    (h.openSuite s parallelized).narrowed = h.narrowed.openSuite s parallelized := by
  -- Whether the suite is opened depends on the depths, which both handlers share.
  by_cases hfirst : h.activations.isFirst s = true
  · have hfirst' : h.narrowed.activations.isFirst s = true := hfirst
    simp only [openSuite, if_pos hfirst, if_pos hfirst']
    simp only [narrowed, Run.startSuite_narrowed, Run.suites_narrowed]
  · have hfirst' : ¬ h.narrowed.activations.isFirst s = true := hfirst
    simp only [openSuite, if_neg hfirst, if_neg hfirst']
    rfl

theorem closeSuite_narrowed (s : SuiteKey) :
    (h.closeSuite s).narrowed = h.narrowed.closeSuite s := by
  by_cases hlast : h.activations.isLast s = true
  · have hlast' : h.narrowed.activations.isLast s = true := hlast
    simp only [closeSuite, if_pos hlast, if_pos hlast']
    simp only [narrowed]
    cases h.suites.find? s with
    | none => rfl
    | some n => simp only [Run.endSuite_narrowed]
  · have hlast' : ¬ h.narrowed.activations.isLast s = true := hlast
    simp only [closeSuite, if_neg hlast, if_neg hlast']
    rfl

theorem openTest_narrowed (t : TestKey) : (h.openTest t).narrowed = h.narrowed.openTest t := by
  by_cases hruns : h.tests.contains t = true
  · have hruns' : h.narrowed.tests.contains t = true := hruns
    rw [openTest, if_pos hruns, openTest, if_pos hruns']
  · have hruns' : ¬ h.narrowed.tests.contains t = true := hruns
    rw [openTest, if_neg hruns, openTest, if_neg hruns']
    simp only [narrowed, Run.startTest_narrowed]
    cases h.suites.find? t.suite <;> rfl

theorem closeTest_narrowed (t : TestKey) : (h.closeTest t).narrowed = h.narrowed.closeTest t := by
  simp only [closeTest, narrowed]
  cases h.tests.find? t with
  | none => rfl
  | some n => simp only [Run.endTest_narrowed]

theorem apply_narrowed (e : WorkerEvent) : (h.apply e).narrowed = h.narrowed.apply e := by
  cases e with
  | suiteStart s parallelized => exact h.openSuite_narrowed s parallelized
  | suiteSkip s reason => exact h.onSuite_narrowed s fun _ _ => rfl
  | suiteFailure s f => exact h.onSuite_narrowed s fun _ _ => rfl
  | suiteFinish s => exact h.closeSuite_narrowed s
  | testStart t => exact h.openTest_narrowed t
  | testSkip t reason =>
    refine h.onTest_narrowed t fun r n => ?_
    by_cases hreason : reason = some Tag.skippedByImpact
    · rw [if_pos hreason, if_pos hreason, ← Run.countSkipped_narrowed]
      rfl
    · rw [if_neg hreason, if_neg hreason]
      rfl
  | testFailure t f => exact h.onTest_narrowed t fun _ _ => rfl
  | testFinish t => exact h.closeTest_narrowed t
  | coverage c =>
    show { h.narrowed with run := (h.run.addCoverage moduleNumber c).narrowed } = _
    rw [Run.addCoverage_narrowed]
    rfl

/-- The tests and the suites that still run may be ended in any order. -/
theorem finishInOrder_narrowed (tests : List (TestKey × Nat)) (suites : List (SuiteKey × Nat)) :
    h.narrowed.finishInOrder tests suites =
      ((h.finishInOrder tests suites).1.narrowed, (h.finishInOrder tests suites).2) := by
  have hdrained : h.narrowed.drained tests suites = (h.drained tests suites).narrowed := by
    rw [drained, drained, ← List.foldl_hom Run.narrowed fun r n => (r.endSuite_narrowed n).symm,
      ← List.foldl_hom Run.narrowed fun r n => (r.endTest_narrowed n).symm]
    rfl
  rw [finishInOrder, hdrained, Run.endModule_narrowed]
  rfl

theorem finishModule_narrowed :
    h.narrowed.finishModule = (h.finishModule.1.narrowed, h.finishModule.2) :=
  h.finishInOrder_narrowed _ _

/-- What the ends of the module hand on. -/
def reports (h : Handler) : List HandlerStep → List (Option ModuleResult)
  | [] => []
  | .event e :: rest => (h.apply e).reports rest
  | .finish :: rest => h.finishModule.2 :: h.finishModule.1.reports rest

/-- A handler with only the settings of its module takes every step as before. -/
theorem step_narrowed (x : HandlerStep) : (h.step x).narrowed = h.narrowed.step x := by
  cases x with
  | event e => exact h.apply_narrowed e
  | finish => exact congrArg Prod.fst h.finishModule_narrowed.symm

theorem follow_narrowed (steps : List HandlerStep) :
    (h.follow steps).narrowed = h.narrowed.follow steps := by
  induction steps generalizing h with
  | nil => rfl
  | cons x rest ih =>
    show ((h.step x).follow rest).narrowed = (h.narrowed.step x).follow rest
    rw [ih, step_narrowed]

theorem reports_narrowed (steps : List HandlerStep) :
    h.narrowed.reports steps = h.reports steps := by
  induction steps generalizing h with
  | nil => rfl
  | cons x rest ih =>
    cases x with
    | event e => rw [reports, reports, ← apply_narrowed, ih]
    | finish => rw [reports, reports, finishModule_narrowed, ih]

/-- What can be seen of two handlers is the same. -/
structure LooksLike (h h' : Handler) : Prop where
  skippable : ∀ t, h.isSkippable t = h'.isSkippable t
  /-- The tests, whether they are new, and their tags. -/
  tests : h.run.tests = h'.run.tests
  suites : h.run.suites = h'.run.suites
  /-- The tags of the module. -/
  tags : h.module.tags = h'.module.tags
  status : h.module.status = h'.module.status
  describe : h.describe = h'.describe
  /-- The result that the module would hand on at once. -/
  result : h.module.result = h'.module.result
  /-- The result it hands on at its end, in whatever order each of the two ends what still runs. -/
  handed : ∀ tests suites tests' suites', tests.Perm h.tests.entries →
    suites.Perm h.suites.entries → tests'.Perm h'.tests.entries →
    suites'.Perm h'.suites.entries →
    (h.finishInOrder tests suites).2 = (h'.finishInOrder tests' suites').2

theorem looksLike_narrowed : h.narrowed.LooksLike h where
  skippable := h.isSkippable_narrowed
  tests := rfl
  suites := rfl
  tags := by rw [module_narrowed]; rfl
  status := by rw [module_narrowed]; rfl
  describe := rfl
  result := by rw [module_narrowed, ModuleRun.result_narrowed]
  handed tests suites tests' suites' ht hs ht' hs' := by
    rw [h.finishInOrder_eq ht' hs', h.narrowed.finishInOrder_eq ht hs, finishModule_narrowed]

/-- **Narrowing is invisible.**  After the same events and ends of the module, a handler that has
only the settings of its module cannot be told from one that has them all, and each end has handed
on the same. -/
theorem narrowing_is_invisible (d : ModuleDescriptor) (s : ExecutionSettings)
    (steps : List HandlerStep) :
    ((start d (s.narrow d.name)).follow steps).LooksLike ((start d s).follow steps) ∧
      (start d (s.narrow d.name)).reports steps = (start d s).reports steps := by
  rw [start_narrow, ← follow_narrowed]
  exact ⟨looksLike_narrowed _, reports_narrowed _ steps⟩

end Handler

end TestTelemetry
