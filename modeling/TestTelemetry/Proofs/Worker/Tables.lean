/-
The tables of a handler and its run, step by step.

A handler keeps a depth and a number for every open suite, and a number for every running test.
What one step makes of the tables is said here once, key by key, and so is what it ends.

* `Handler.Registers` — what is found in the run under the numbers in the tables;
* `Handler.depth_step`, `Handler.find?_suites_step`, `Handler.find?_tests_step` — the tables after
  one step;
* `Handler.ends_of_mem_operations`, `Handler.endCount_suite` — what one step ends, and how often.
-/
import TestTelemetry.Proofs.Lifecycle.Sites
import TestTelemetry.Proofs.Worker.Operations
import Mathlib.Data.List.Nodup

namespace TestTelemetry

/-- The key of a suite. -/
def SuiteRun.key (s : SuiteRun) : SuiteKey := ⟨s.name, s.codeUnit⟩

namespace Run

/-- The suite with a number runs, is attached to the module of a handler, and was started for a
key. -/
def HoldsSuite (r : Run) (key : SuiteKey) (n : Nat) : Prop :=
  ∃ s, r.suites[n]? = some s ∧ s.ended = false ∧ s.module = some Handler.moduleNumber ∧ s.key = key

/-- The test with a number runs and was started for a key. -/
def HoldsTest (r : Run) (key : TestKey) (n : Nat) : Prop :=
  ∃ t s, r.tests[n]? = some t ∧ t.ended = false ∧ t.name = key.name ∧
    t.parameters = key.parameters ∧ r.suites[t.suite]? = some s ∧ s.name = key.suite.name

variable {r : Run} {steps : List RunStep} {n : Nat}

theorem HoldsSuite.follow {key : SuiteKey} (h : r.HoldsSuite key n)
    (hsteps : RunStep.endCount (.suite n) steps = 0) : (r.follow steps).HoldsSuite key n := by
  obtain ⟨a, ha, hrunning, hmodule, hkey⟩ := h
  obtain ⟨b, hb, hsite, hended⟩ := suite_follow ha steps
  simp only [SuiteRun.site, Prod.mk.injEq] at hsite
  obtain ⟨hbm, hbn, hbc⟩ := hsite
  refine ⟨b, hb, by simp [hended, hrunning, hsteps], hbm.trans hmodule, ?_⟩
  rw [← hkey, SuiteRun.key, SuiteRun.key, hbn, hbc]

theorem HoldsTest.follow {key : TestKey} (h : r.HoldsTest key n)
    (hsteps : RunStep.endCount (.test n) steps = 0) : (r.follow steps).HoldsTest key n := by
  obtain ⟨a, s, ha, hrunning, hname, hparameters, hs, hsname⟩ := h
  obtain ⟨b, hb, hsite, hended⟩ := test_follow ha steps
  obtain ⟨s', hs', hssite, -⟩ := suite_follow hs steps
  simp only [TestRun.site, SuiteRun.site, Prod.mk.injEq] at hsite hssite
  obtain ⟨hbs, hbn, hbp⟩ := hsite
  refine ⟨b, s', hb, by simp [hended, hrunning, hsteps], hbn.trans hname,
    hbp.trans hparameters, ?_, hssite.2.1.trans hsname⟩
  rw [hbs]
  exact hs'

end Run

namespace Handler

/-- What is found in the run under the numbers that a handler keeps. -/
structure Registers (h : Handler) : Prop where
  /-- The module has been started. -/
  module : moduleNumber < h.run.modules.length
  /-- Every suite in the table runs, belongs to the module, and has the name and code unit of its
  key. -/
  suite : ∀ key n, h.suites.find? key = some n → h.run.HoldsSuite key n
  /-- Every test in the table runs, and has the suite, the name and the parameters of its key. -/
  test : ∀ key n, h.tests.find? key = some n → h.run.HoldsTest key n
  /-- No test is in the table twice. -/
  test_unique : ∀ j k n, h.tests.find? j = some n → h.tests.find? k = some n → j = k

variable {h : Handler} {x : HandlerStep} {n : Nat}

/-- No suite is in the table twice, as it has the name and code unit of its key. -/
theorem Registers.suite_unique (hr : h.Registers) {j k : SuiteKey}
    (hj : h.suites.find? j = some n) (hk : h.suites.find? k = some n) : j = k := by
  obtain ⟨a, ha, -, -, hja⟩ := hr.suite j n hj
  obtain ⟨b, hb, -, -, hkb⟩ := hr.suite k n hk
  obtain rfl : a = b := Option.some_inj.mp (ha.symm.trans hb)
  exact hja.symm.trans hkb

/-! ### One step -/

/-- The key of the suite that a step starts for the module. -/
def opens? (h : Handler) : HandlerStep → Option SuiteKey
  | .event (.suiteStart s _) => if h.activations.isFirst s then some s else none
  | _ => none

/-- Whether a step closes a key for good. -/
def closes (h : Handler) (key : SuiteKey) : HandlerStep → Bool
  | .event (.suiteFinish s) => h.activations.isLast s && decide (s = key)
  | .finish => true
  | _ => false

/-- Whether a step starts a test. -/
def startsTest (h : Handler) (key : TestKey) : HandlerStep → Bool
  | .event (.testStart t) => !h.tests.contains t && decide (t = key)
  | _ => false

/-- Whether a step finishes a test if it runs. -/
def finishesTest (key : TestKey) : HandlerStep → Bool
  | .event (.testFinish t) => decide (t = key)
  | .finish => true
  | _ => false

theorem of_opens? {key : SuiteKey} (hx : h.opens? x = some key) :
    ∃ parallelized, x = .event (.suiteStart key parallelized) ∧
      h.activations.isFirst key = true := by
  cases x with
  | finish => cases hx
  | event e =>
    cases e with
    | suiteStart s parallelized =>
      obtain ⟨hfirst, hs⟩ := Option.ite_none_right_eq_some.mp hx
      obtain rfl := Option.some_inj.mp hs
      exact ⟨parallelized, rfl, hfirst⟩
    | _ => cases hx

/-- A step starts one test at most. -/
theorem startsTest_unique {j k : TestKey} (hj : h.startsTest j x = true)
    (hk : h.startsTest k x = true) : j = k := by
  cases x with
  | finish => cases hj
  | event e =>
    cases e with
    | testStart t =>
      simp only [startsTest, Bool.and_eq_true, decide_eq_true_eq] at hj hk
      exact hj.2.symm.trans hk.2
    | _ => cases hj

theorem tables_onSuite (s : SuiteKey) (f : Run → Nat → Run) :
    (h.onSuite s f).activations = h.activations ∧ (h.onSuite s f).suites = h.suites ∧
      (h.onSuite s f).tests = h.tests := by
  unfold onSuite
  split <;> exact ⟨rfl, rfl, rfl⟩

theorem tables_onTest (t : TestKey) (f : Run → Nat → Run) :
    (h.onTest t f).activations = h.activations ∧ (h.onTest t f).suites = h.suites ∧
      (h.onTest t f).tests = h.tests := by
  unfold onTest
  split <;> exact ⟨rfl, rfl, rfl⟩

/-- How deep a key is open after one step. -/
theorem depth_step (h : Handler) (x : HandlerStep) (key : SuiteKey) :
    (h.step x).activations.depth key = match x with
      | .event (.suiteStart s _) => h.activations.depth key + if s = key then 1 else 0
      | .event (.suiteFinish s) => h.activations.depth key - if s = key then 1 else 0
      | .finish => if key ∈ h.suites.keys then 0 else h.activations.depth key
      | _ => h.activations.depth key := by
  cases x with
  | finish => exact Activations.depth_foldl_clear ..
  | event e =>
    show (h.apply e).activations.depth key = _
    cases e with
    | suiteStart s parallelized =>
      simp only [apply, openSuite]
      split <;> exact Activations.depth_start ..
    | suiteFinish s =>
      simp only [apply, closeSuite]
      split
      · split <;> exact Activations.depth_finish ..
      · exact Activations.depth_finish ..
    | suiteSkip s reason => simp only [apply, tables_onSuite]
    | suiteFailure s f => simp only [apply, tables_onSuite]
    | testSkip t reason => simp only [apply, skipTest, tables_onTest]
    | testFailure t f => simp only [apply, tables_onTest]
    | testStart t =>
      simp only [apply, openTest]
      split <;> rfl
    | testFinish t =>
      simp only [apply, closeTest]
      split <;> rfl
    | coverage c => rfl

/-- The suites in the table after one step. -/
theorem find?_suites_step (h : Handler) (x : HandlerStep) (key : SuiteKey) :
    (h.step x).suites.find? key =
      if h.opens? x = some key then some h.run.suites.length
      else if h.closes key x then none else h.suites.find? key := by
  cases x with
  | finish => rfl
  | event e =>
    show (h.apply e).suites.find? key = _
    cases e with
    | suiteStart s parallelized =>
      simp only [apply, openSuite, opens?, closes]
      by_cases hfirst : h.activations.isFirst s = true
      · simp [hfirst, Keyed.find?_set]
      · simp [hfirst]
    | suiteFinish s =>
      simp only [apply, closeSuite, opens?, closes]
      by_cases hlast : h.activations.isLast s = true
      · rw [if_pos hlast]
        cases hs : h.suites.find? s with
        | some m => simp [hlast, Keyed.find?_erase]
        | none =>
          -- Nothing to erase: the key was not in the table before.
          by_cases hkey : s = key
          · subst hkey
            simp [hlast, hs]
          · simp [hkey]
      · simp [hlast]
    | suiteSkip s reason => simp only [apply, tables_onSuite]; rfl
    | suiteFailure s f => simp only [apply, tables_onSuite]; rfl
    | testSkip t reason => simp only [apply, skipTest, tables_onTest]; rfl
    | testFailure t f => simp only [apply, tables_onTest]; rfl
    | testStart t =>
      simp only [apply, openTest]
      split <;> rfl
    | testFinish t =>
      simp only [apply, closeTest]
      split <;> rfl
    | coverage c => rfl

/-- A suite in the table was there before, or it was started just now. -/
theorem of_find?_suites_step {key : SuiteKey} (hn : (h.step x).suites.find? key = some n) :
    h.suites.find? key = some n ∨ n = h.run.suites.length := by
  rw [find?_suites_step] at hn
  split at hn
  case isTrue => exact Or.inr (Option.some_inj.mp hn).symm
  case isFalse => exact Or.inl (Option.ite_none_left_eq_some.mp hn).2

/-- The tests in the table after one step. -/
theorem find?_tests_step (h : Handler) (x : HandlerStep) (key : TestKey) :
    (h.step x).tests.find? key =
      if h.startsTest key x then some h.run.tests.length
      else if finishesTest key x then none else h.tests.find? key := by
  cases x with
  | finish => rfl
  | event e =>
    show (h.apply e).tests.find? key = _
    cases e with
    | suiteStart s parallelized =>
      simp only [apply, openSuite]
      split <;> rfl
    | suiteFinish s =>
      simp only [apply, closeSuite]
      split
      · split <;> rfl
      · rfl
    | suiteSkip s reason => simp only [apply, tables_onSuite]; rfl
    | suiteFailure s f => simp only [apply, tables_onSuite]; rfl
    | testSkip t reason => simp only [apply, skipTest, tables_onTest]; rfl
    | testFailure t f => simp only [apply, tables_onTest]; rfl
    | testStart t =>
      simp only [apply, openTest, startsTest, finishesTest]
      by_cases hruns : h.tests.contains t = true
      · simp [hruns]
      · cases h.suites.find? t.suite <;> simp [hruns, Keyed.find?_set, Run.startDetached]
    | testFinish t =>
      simp only [apply, closeTest, startsTest, finishesTest]
      cases ht : h.tests.find? t with
      | some m => simp [Keyed.find?_erase]
      | none =>
        by_cases hkey : t = key
        · subst hkey
          simp [ht]
        · simp [hkey]
    | coverage c => rfl

/-- What a step of a handler ends: suites whose keys it closes, tests that it finishes, and the
module at its end. -/
def Ends (h : Handler) (x : HandlerStep) : RunItem → Prop
  | .suite n => ∃ key, h.suites.find? key = some n ∧ h.closes key x = true
  | .test n => ∃ key, h.tests.find? key = some n ∧ finishesTest key x = true
  | .module m => m = moduleNumber ∧ x = .finish

/-- No operation ends anything else. -/
theorem ends_of_mem_operations {y : RunStep} {i : RunItem} (hy : y ∈ h.operations x)
    (hends : y.ends? = some i) : h.Ends x i := by
  cases x with
  | finish =>
    simp only [operations, List.mem_append, List.mem_map, List.mem_singleton] at hy
    rcases hy with (⟨m, hm, rfl⟩ | ⟨m, hm, rfl⟩) | rfl
    · cases hends
      obtain ⟨e, he, rfl⟩ := List.mem_map.mp hm
      exact ⟨e.1, Keyed.find?_eq_some_iff.mpr he, rfl⟩
    · cases hends
      obtain ⟨e, he, rfl⟩ := List.mem_map.mp hm
      exact ⟨e.1, Keyed.find?_eq_some_iff.mpr he, rfl⟩
    · cases hends
      exact ⟨rfl, rfl⟩
  | event e =>
    cases e with
    | suiteStart s parallelized =>
      obtain ⟨-, hy⟩ := List.mem_ite_nil_right.mp hy
      rw [List.mem_singleton.mp hy] at hends
      cases hends
    | suiteFinish s =>
      obtain ⟨hlast, hy⟩ := List.mem_ite_nil_right.mp hy
      obtain ⟨m, hm, rfl⟩ := List.mem_map.mp hy
      cases hends
      exact ⟨s, Option.mem_toList.mp hm, by simp [closes, hlast]⟩
    | suiteSkip s reason =>
      obtain ⟨m, -, rfl⟩ := List.mem_map.mp hy
      cases hends
    | suiteFailure s f =>
      obtain ⟨m, -, rfl⟩ := List.mem_map.mp hy
      cases hends
    | testStart t =>
      obtain ⟨-, hy⟩ := List.mem_ite_nil_left.mp hy
      split at hy
      · rw [List.mem_singleton.mp hy] at hends
        cases hends
      · simp only [List.mem_cons, List.not_mem_nil, or_false] at hy
        rcases hy with rfl | rfl <;> cases hends
    | testSkip t reason =>
      simp only [operations] at hy
      split at hy
      · rcases List.mem_append.mp hy with hy | hy
        · obtain ⟨-, hy⟩ := List.mem_ite_nil_right.mp hy
          rw [List.mem_singleton.mp hy] at hends
          cases hends
        · rw [List.mem_singleton.mp hy] at hends
          cases hends
      · cases hy
    | testFailure t f =>
      obtain ⟨m, -, rfl⟩ := List.mem_map.mp hy
      cases hends
    | testFinish t =>
      obtain ⟨m, hm, rfl⟩ := List.mem_map.mp hy
      cases hends
      exact ⟨t, Option.mem_toList.mp hm, by simp [finishesTest]⟩
    | coverage c =>
      rw [List.mem_singleton.mp hy] at hends
      cases hends

theorem endCount_of_not_ends {i : RunItem} (hi : ¬ h.Ends x i) :
    RunStep.endCount i (h.operations x) = 0 :=
  RunStep.endCount_eq_zero fun _ hy hends => hi (ends_of_mem_operations hy hends)

/-- A suite that is not in the table is not ended. -/
theorem endCount_of_unknown (hn : ∀ key, h.suites.find? key ≠ some n) (x : HandlerStep) :
    RunStep.endCount (.suite n) (h.operations x) = 0 :=
  endCount_of_not_ends fun ⟨key, hkey, _⟩ => hn key hkey

theorem Registers.unknown_of_none (hr : h.Registers) (hn : h.run.suites[n]? = none)
    (key : SuiteKey) : h.suites.find? key ≠ some n := by
  intro hkey
  obtain ⟨a, ha, -⟩ := hr.suite key n hkey
  rw [hn] at ha
  cases ha

/-- A suite is found in the table by its key, if at all. -/
theorem Registers.unknown_of_ne (hr : h.Registers) {a : SuiteRun} (ha : h.run.suites[n]? = some a)
    (hn : h.suites.find? a.key ≠ some n) (key : SuiteKey) : h.suites.find? key ≠ some n := by
  intro hkey
  obtain ⟨b, hb, -, -, hbk⟩ := hr.suite key n hkey
  obtain rfl : b = a := Option.some_inj.mp (hb.symm.trans ha)
  exact hn (hbk ▸ hkey)

/-- A suite in the table is ended once by the step that closes its key, and by no other. -/
theorem endCount_suite (hr : h.Registers) {key : SuiteKey} (hn : h.suites.find? key = some n)
    (x : HandlerStep) :
    RunStep.endCount (.suite n) (h.operations x) = if h.closes key x then 1 else 0 := by
  by_cases hcloses : h.closes key x = true
  · rw [if_pos hcloses]
    cases x with
    | finish =>
      -- The numbers in the table differ, as the keys do.
      have hnodup : h.suites.values.Nodup := by
        refine List.Nodup.map_on (fun a ha b hb hab => ?_) (List.Nodup.of_map _ h.suites.nodup)
        have hkey : a.1 = b.1 := hr.suite_unique (Keyed.find?_eq_some_iff.mpr ha)
          (Keyed.find?_eq_some_iff.mpr (hab ▸ hb))
        exact Prod.ext hkey hab
      have hmem : n ∈ h.suites.values :=
        List.mem_map.mpr ⟨(key, n), Keyed.find?_eq_some_iff.mp hn, rfl⟩
      have htests : RunStep.endCount (.suite n) (h.tests.values.map .endTest) = 0 := by
        refine RunStep.endCount_eq_zero fun y hy => ?_
        obtain ⟨t, -, rfl⟩ := List.mem_map.mp hy
        exact nofun
      rw [operations, RunStep.endCount_append, RunStep.endCount_append, htests,
        RunStep.endCount_endSuites, List.count_eq_one_of_mem hnodup hmem]
      rfl
    | event e =>
      cases e with
      | suiteFinish s =>
        simp only [closes, Bool.and_eq_true, decide_eq_true_eq] at hcloses
        obtain ⟨hlast, rfl⟩ := hcloses
        simp [operations, hlast, hn, RunStep.endCount, RunStep.ends?]
      | _ => cases hcloses
  · rw [if_neg hcloses]
    refine endCount_of_not_ends ?_
    rintro ⟨j, hj, hcj⟩
    obtain rfl := hr.suite_unique hj hn
    exact hcloses hcj

end Handler

end TestTelemetry
