/-
How the items of a run go on.

One step keeps every item in its place and as what it was started, and makes of each what an item
can become; new items come after the old ones.

* `Run.modules_evolve`, `Run.suites_evolve`, `Run.tests_evolve` — one step, said of the items of
  each kind;
* `Run.state?_step`, `Run.fresh_step` — one step, said of one item;
* `Run.state?_follow` — several steps, said of one item;
* `Run.closed_eq_ended` — the log of tags is closed exactly when the item has ended.
-/
import TestTelemetry.Proofs.Data.Growth
import TestTelemetry.Proofs.Lifecycle.ItemState

namespace TestTelemetry

namespace Run

variable {r : Run} {x : RunStep} {i : RunItem} {v : ItemState}

/-! ### One step -/

/-- One step keeps the items of one kind in their places and as what they were started, and makes
of each what it can become; the new ones are fresh. -/
structure Evolves {α : Type} (r : Run) (x : RunStep) (item : Nat → RunItem) (state : α → ItemState)
    (keeps : Nat → α → α → Prop) (l new l' : List α) : Prop where
  grows : Grows (fun n a b => (state a).Next r x (item n) (state b) ∧ keeps n a b) l new l'
  fresh : ∀ b ∈ new, (state b).Fresh

section Kinds

variable {α : Type} {item : Nat → RunItem} {state : α → ItemState} {keeps : Nat → α → α → Prop}
  {l : List α}

theorem Evolves.same (hp : ∀ n, r.partsOf (item n) (r.outcome? x).toList = [])
    (hk : ∀ n a, keeps n a a := by intros; rfl)
    (hx : ∀ n, x.target? ≠ some (item n) := by intro _ h; cases h) :
    r.Evolves x item state keeps l [] l where
  grows := .same fun n a _ => ⟨.stay (hx n) (hp n), hk n a⟩
  fresh := fun _ hb => absurd hb List.not_mem_nil

theorem Evolves.concat (b : α) (hx : x.target? = none) (he : x.ends? = none)
    (hb : (state b).Fresh) (hk : ∀ n a, keeps n a a := by intros; rfl) :
    r.Evolves x item state keeps l [b] (l ++ [b]) where
  grows := .concat b fun n a _ =>
    ⟨.stay (by rw [hx]; exact (Option.some_ne_none _).symm) (partsOf_outcome?_of_none he), hk n a⟩
  fresh := by
    intro c hc
    rwa [List.mem_singleton.mp hc]

theorem Evolves.modify (m : Nat) {f : α → α}
    (hm : ∀ a, (state a).Next r x (item m) (state (f a)) ∧ keeps m a (f a))
    (hp : ∀ n, m ≠ n → r.partsOf (item n) (r.outcome? x).toList = [])
    (hk : ∀ n a, keeps n a a := by intros; rfl)
    (hx : ∀ n, m ≠ n → x.target? ≠ some (item n) := by intro _ hne h; cases h <;> exact hne rfl) :
    r.Evolves x item state keeps l [] (l.modify m f) where
  grows := .modify m (fun a _ => hm a) fun n a hn _ => ⟨.stay (hx n hn) (hp n hn), hk n a⟩
  fresh := fun _ hb => absurd hb List.not_mem_nil

end Kinds

/-- The end of a test, said of all tests. -/
theorem tests_endTest (r : Run) (t : Nat) : (r.endTest t).tests =
    r.tests.modify t fun a => if a.ended then a else a.finish := by
  unfold endTest
  cases ha : r.tests[t]? with
  | none => exact (modify_of_eq_none ha _).symm
  | some a =>
    by_cases hended : a.ended = true
    · simp only [if_pos hended]
      refine (modify_of_eq ha ?_).symm
      exact if_pos hended
    · simp only [if_neg hended]
      refine modify_congr ha ?_
      exact (if_neg hended).symm

/-- The end of a suite, said of all suites. -/
theorem suites_endSuite (r : Run) (n : Nat) : (r.endSuite n).suites =
    r.suites.modify n fun a => if a.ended then a else a.finish := by
  unfold endSuite
  cases ha : r.suites[n]? with
  | none => exact (modify_of_eq_none ha _).symm
  | some a =>
    by_cases hended : a.ended = true
    · simp only [if_pos hended]
      refine (modify_of_eq ha ?_).symm
      exact if_pos hended
    · simp only [if_neg hended]
      refine modify_congr ha ?_
      exact (if_neg hended).symm

/-- The end of a module, said of all modules. -/
theorem modules_endModule (r : Run) (m : Nat) : (r.endModule m).1.modules =
    r.modules.modify m fun a => if a.ended then a else a.finish a.result := by
  unfold endModule
  cases ha : r.modules[m]? with
  | none => exact (modify_of_eq_none ha _).symm
  | some a =>
    by_cases hended : a.ended = true
    · simp only [if_pos hended]
      refine (modify_of_eq ha ?_).symm
      exact if_pos hended
    · simp only [if_neg hended]
      exact modify_congr ha rfl

/-- The end of a suite or a module is not told to its parts. -/
theorem tests_endSuite (r : Run) (n : Nat) : (r.endSuite n).tests = r.tests := by
  unfold endSuite
  split
  · rfl
  · split <;> rfl

theorem tests_endModule (r : Run) (m : Nat) : (r.endModule m).1.tests = r.tests := by
  unfold endModule
  split
  · rfl
  · split <;> rfl

theorem suites_endModule (r : Run) (m : Nat) : (r.endModule m).1.suites = r.suites := by
  unfold endModule
  split
  · rfl
  · split <;> rfl

theorem isRunning_test_iff {t : Nat} :
    r.isRunning (.test t) = true ↔ ∃ a, r.tests[t]? = some a ∧ a.ended = false := by
  simp only [isRunning, Option.any_eq_true, Bool.not_eq_true']

theorem isRunning_suite_iff {n : Nat} :
    r.isRunning (.suite n) = true ↔ ∃ a, r.suites[n]? = some a ∧ a.ended = false := by
  simp only [isRunning, Option.any_eq_true, Bool.not_eq_true']

theorem isRunning_module_iff {m : Nat} :
    r.isRunning (.module m) = true ↔ ∃ a, r.modules[m]? = some a ∧ a.ended = false := by
  simp only [isRunning, Option.any_eq_true, Bool.not_eq_true']

/-- The end of a test that runs. -/
theorem endTest_of_running {t : Nat} {a : TestRun} (ha : r.tests[t]? = some a)
    (hended : a.ended = false) : r.endTest t = { r with
      tests := r.tests.modify t TestRun.finish
      suites := r.suites.modify a.suite (·.recordTest a.status) } := by
  simp only [endTest, ha, hended]
  rfl

/-- The end of what does not run changes nothing. -/
theorem endTest_of_not_running {t : Nat} (h : ¬ r.isRunning (.test t) = true) :
    r.endTest t = r := by
  unfold endTest
  cases ha : r.tests[t]? with
  | none => rfl
  | some a =>
    have hended : a.ended = true := by
      by_contra hne
      exact h (isRunning_test_iff.mpr ⟨a, ha, Bool.eq_false_iff.mpr hne⟩)
    exact if_pos hended

/-- The end of a suite that runs. -/
theorem endSuite_of_running {n : Nat} {a : SuiteRun} (ha : r.suites[n]? = some a)
    (hended : a.ended = false) : r.endSuite n = { r with
      suites := r.suites.modify n SuiteRun.finish
      modules := match a.module with
        | some m => r.modules.modify m (·.recordSuite a.status)
        | none => r.modules } := by
  simp only [endSuite, ha, hended]
  rfl

theorem endSuite_of_not_running {n : Nat} (h : ¬ r.isRunning (.suite n) = true) :
    r.endSuite n = r := by
  unfold endSuite
  cases ha : r.suites[n]? with
  | none => rfl
  | some a =>
    have hended : a.ended = true := by
      by_contra hne
      exact h (isRunning_suite_iff.mpr ⟨a, ha, Bool.eq_false_iff.mpr hne⟩)
    exact if_pos hended

theorem whole?_test_ne_module (r : Run) {t m : Nat} : r.whole? (.test t) ≠ some (.module m) := by
  simp only [whole?, ne_eq, Option.map_eq_some_iff]
  rintro ⟨a, -, h⟩
  cases h

theorem whole?_suite_ne_suite (r : Run) {n k : Nat} : r.whole? (.suite n) ≠ some (.suite k) := by
  simp only [whole?, ne_eq, Option.bind_eq_some_iff, Option.map_eq_some_iff]
  rintro ⟨s, -, m, -, h⟩
  cases h

/-- What one step makes of the tests. -/
theorem tests_evolve (r : Run) (x : RunStep) :
    ∃ new, r.Evolves x .test TestRun.state (fun _ a b => b.origin = a.origin) r.tests new
        (r.step x).tests ∧
      new.map TestRun.site = (r.newTest? x).toList := by
  have hp : ∀ t, r.partsOf (.test t) (r.outcome? x).toList = [] := fun t => partsOf_test ..
  cases x with
  | startModule d settings => exact ⟨[], .same hp, rfl⟩
  | startSuite m name codeUnit parallelized => exact ⟨[], .same hp, rfl⟩
  | startDetached name codeUnit => exact ⟨[], .same hp, rfl⟩
  | skipSuite n reason => exact ⟨[], .same hp, rfl⟩
  | failSuite n f => exact ⟨[], .same hp, rfl⟩
  | countSkipped m => exact ⟨[], .same hp, rfl⟩
  | addCoverage m c => exact ⟨[], .same hp, rfl⟩
  | endModuleWith m result => exact ⟨[], .same hp, rfl⟩
  | startTest n name parameters =>
    simp only [step, startTest, newTest?]
    cases hn : r.suites[n]? with
    | none =>
      rw [if_neg (Nat.not_lt.mpr (List.getElem?_eq_none_iff.mp hn))]
      exact ⟨[], .same hp, rfl⟩
    | some s =>
      rw [if_pos (List.getElem?_eq_some_iff.mp hn).1]
      exact ⟨_, .concat _ rfl rfl ⟨rfl, rfl, TagLog.closed_setAll _, rfl⟩, rfl⟩
  | skipTest t reason =>
    exact ⟨[], .modify t (fun a => ⟨.skip _ rfl (decide_eq_true rfl) rfl, rfl⟩) fun u _ => hp u,
      rfl⟩
  | failTest t f =>
    exact ⟨[], .modify t (fun a => ⟨.fail f (decide_eq_true rfl) rfl rfl, rfl⟩) fun u _ => hp u,
      rfl⟩
  | tag i key value =>
    cases i with
    | module m => exact ⟨[], .same hp, rfl⟩
    | suite n => exact ⟨[], .same hp, rfl⟩
    | test t =>
      exact ⟨[], .modify t (fun a => ⟨.tag key value rfl rfl, rfl⟩) fun u _ => hp u, rfl⟩
  | endSuite n =>
    rw [show (r.step (.endSuite n)).tests = _ from r.tests_endSuite n]
    exact ⟨[], .same hp, rfl⟩
  | endModule m =>
    rw [show (r.step (.endModule m)).tests = _ from r.tests_endModule m]
    exact ⟨[], .same hp, rfl⟩
  | endTest t =>
    rw [show (r.step (.endTest t)).tests = _ from r.tests_endTest t]
    refine ⟨[], .modify t (fun a => ?_) fun u _ => hp u, rfl⟩
    by_cases ha : a.ended = true
    · rw [if_pos ha]
      exact ⟨.stay_ended ha rfl (hp t), rfl⟩
    · rw [if_neg ha]
      exact ⟨.finish (Bool.eq_false_iff.mpr ha) rfl (hp t) (fun hc => a.tags_finish hc) rfl, rfl⟩

/-- What one step makes of the suites. -/
theorem suites_evolve (r : Run) (x : RunStep) :
    ∃ new, r.Evolves x .suite SuiteRun.state (fun _ a b => b.origin = a.origin) r.suites new
        (r.step x).suites ∧
      new.map SuiteRun.site = (r.newSuite? x).toList := by
  -- Only the end of a test counts for a suite.
  have hp : x.ends? = none → ∀ n, r.partsOf (.suite n) (r.outcome? x).toList = [] :=
    fun he _ => partsOf_outcome?_of_none he
  cases x with
  | startModule d settings => exact ⟨[], .same (hp rfl), rfl⟩
  | startSuite m name codeUnit parallelized =>
    refine ⟨_, .concat _ rfl rfl ⟨rfl, rfl, TagLog.closed_setAll _, rfl⟩, ?_⟩
    by_cases hm : m < r.modules.length <;> simp [SuiteRun.start, SuiteRun.site, newSuite?, hm]
  | startDetached name codeUnit =>
    exact ⟨_, .concat _ rfl rfl ⟨rfl, rfl, TagLog.closed_setAll _, rfl⟩, rfl⟩
  | startTest n name parameters =>
    have hsuites : (r.step (.startTest n name parameters)).suites = r.suites := by
      simp only [step, startTest]
      split <;> rfl
    rw [hsuites]
    exact ⟨[], .same (hp rfl), rfl⟩
  | skipTest t reason => exact ⟨[], .same (hp rfl), rfl⟩
  | failTest t f => exact ⟨[], .same (hp rfl), rfl⟩
  | countSkipped m => exact ⟨[], .same (hp rfl), rfl⟩
  | addCoverage m c => exact ⟨[], .same (hp rfl), rfl⟩
  | skipSuite n reason =>
    exact ⟨[], .modify n (fun a => ⟨.skip _ rfl (decide_eq_true rfl) rfl, rfl⟩)
      fun k _ => hp rfl k, rfl⟩
  | failSuite n f =>
    exact ⟨[], .modify n (fun a => ⟨.fail f (decide_eq_true rfl) rfl rfl, rfl⟩)
      fun k _ => hp rfl k, rfl⟩
  | tag i key value =>
    cases i with
    | module m => exact ⟨[], .same (hp rfl), rfl⟩
    | suite n =>
      exact ⟨[], .modify n (fun a => ⟨.tag key value rfl rfl, rfl⟩) fun k _ => hp rfl k, rfl⟩
    | test t => exact ⟨[], .same (hp rfl), rfl⟩
  | endModule m =>
    rw [show (r.step (.endModule m)).suites = _ from r.suites_endModule m]
    exact ⟨[], .same fun n => partsOf_outcome?_of_ne rfl (Option.some_ne_none _).symm, rfl⟩
  | endModuleWith m result =>
    exact ⟨[], .same fun n => partsOf_outcome?_of_ne rfl (Option.some_ne_none _).symm, rfl⟩
  | endSuite n =>
    have hp : ∀ k, r.partsOf (.suite k) (r.outcome? (.endSuite n)).toList = [] :=
      fun k => partsOf_outcome?_of_ne rfl r.whole?_suite_ne_suite
    rw [show (r.step (.endSuite n)).suites = _ from r.suites_endSuite n]
    refine ⟨[], .modify n (fun a => ?_) fun k _ => hp k, rfl⟩
    by_cases ha : a.ended = true
    · rw [if_pos ha]
      exact ⟨.stay_ended ha rfl (hp n), rfl⟩
    · rw [if_neg ha]
      exact ⟨.finish (Bool.eq_false_iff.mpr ha) rfl (hp n) (fun hc => a.tags_finish hc) rfl, rfl⟩
  | endTest t =>
    by_cases hrun : r.isRunning (.test t) = true
    · obtain ⟨a, ha, hended⟩ := isRunning_test_iff.mp hrun
      have hsuites : (r.step (.endTest t)).suites =
          r.suites.modify a.suite (·.recordTest a.status) :=
        congrArg suites (endTest_of_running ha hended)
      have hwhole : r.whole? (.test t) = some (.suite a.suite) := by simp [whole?, ha]
      have hstatus : r.statusOf (.test t) = some a.status := by simp [statusOf, ha]
      rw [hsuites]
      refine ⟨[], .modify a.suite (fun b => ⟨.count (fun h => by cases h) ?_, rfl⟩)
        fun k hk => ?_, rfl⟩
      · exact partsOf_outcome?_of_whole rfl hrun hstatus hwhole
      · refine partsOf_outcome?_of_ne rfl ?_
        rw [hwhole]
        exact fun h => hk (by cases h; rfl)
    · have hsuites : (r.step (.endTest t)).suites = r.suites :=
        congrArg suites (endTest_of_not_running hrun)
      have hp : ∀ n, r.partsOf (.suite n) (r.outcome? (.endTest t)).toList = [] :=
        fun n => partsOf_outcome?_of_not_running rfl (Bool.eq_false_iff.mpr hrun)
      rw [hsuites]
      exact ⟨[], .same hp, rfl⟩

/-- A module keeps what it was started with, and counts the test that a step starts if its suite is
attached to the module. -/
def Numbered (r : Run) (x : RunStep) (m : Nat) (a b : ModuleRun) : Prop :=
  b.origin = a.origin ∧ a.Counts ((r.newTest? x).toList.filterMap (r.nameIn? m)) b

/-- Only the start of a test changes how many tests were started. -/
theorem Numbered.of_none (hnone : r.newTest? x = none) {m : Nat} {a b : ModuleRun}
    (horigin : b.origin = a.origin) (htotal : b.testsTotal = a.testsTotal)
    (hnew : b.newTests = a.newTests) : r.Numbered x m a b := by
  refine ⟨horigin, ?_⟩
  rw [hnone]
  exact ⟨htotal, hnew⟩

/-- The start of a test, said of the modules: it counts for the module of its suite. -/
theorem modules_startTest (r : Run) (n : Nat) (name : String) (parameters : Option String) :
    r.Evolves (.startTest n name parameters) .module ModuleRun.state
      (r.Numbered (.startTest n name parameters)) r.modules []
      (r.startTest n name parameters).modules := by
  have hp : ∀ m, r.partsOf (.module m) (r.outcome? (.startTest n name parameters)).toList = [] :=
    fun _ => partsOf_outcome?_of_none rfl
  have hstay : ∀ (m : Nat) (a b : ModuleRun), b.state = a.state →
      a.state.Next r (.startTest n name parameters) (.module m) b.state := fun m a b h =>
    h ▸ .stay (Option.some_ne_none _).symm (hp m)
  have hnil : ∀ b ∈ ([] : List ModuleRun), b.state.Fresh := fun _ hb => absurd hb List.not_mem_nil
  cases hn : r.suites[n]? with
  | none =>
    have hmodules : (r.startTest n name parameters).modules = r.modules := by
      simp only [startTest, hn]
    have hnone : r.newTest? (.startTest n name parameters) = none :=
      if_neg (Nat.not_lt.mpr (List.getElem?_eq_none_iff.mp hn))
    rw [hmodules]
    exact .same hp fun _ _ => .of_none hnone rfl rfl rfl
  | some s =>
    -- The new test is named in the module of its suite and in no other.
    have hnames : ∀ m, (r.newTest? (.startTest n name parameters)).toList.filterMap
        (r.nameIn? m) = if s.module = some m then [⟨s.name, name, parameters⟩] else [] := by
      intro m
      rw [show r.newTest? (.startTest n name parameters) = some (n, name, parameters) from
        if_pos (List.getElem?_eq_some_iff.mp hn).1]
      by_cases hm : s.module = some m <;> simp [nameIn?, hn, hm]
    have hother : ∀ (m : Nat) (a : ModuleRun), s.module ≠ some m →
        r.Numbered (.startTest n name parameters) m a a := by
      intro m a hm
      refine ⟨rfl, ?_⟩
      rw [hnames, if_neg hm]
      exact ⟨rfl, rfl⟩
    cases howner : r.moduleOf s with
    | none =>
      have hmodules : (r.startTest n name parameters).modules = r.modules := by
        simp only [startTest, hn, howner]
      rw [hmodules]
      refine ⟨.same fun m a ha => ⟨hstay m a a rfl, hother m a fun hm => ?_⟩, hnil⟩
      simp [moduleOf, hm, ha] at howner
    | some y =>
      obtain ⟨k, y⟩ := y
      obtain ⟨hmodule, hy⟩ : s.module = some k ∧ r.modules[k]? = some y := by
        simp only [moduleOf, Option.bind_eq_some_iff, Option.map_eq_some_iff, Prod.mk.injEq]
          at howner
        obtain ⟨k', hk', y', hy', rfl, rfl⟩ := howner
        exact ⟨hk', hy'⟩
      have hmodules : (r.startTest n name parameters).modules =
          r.modules.modify k (·.countTest (y.isNew ⟨s.name, name, parameters⟩)) := by
        simp only [startTest, hn, howner, Option.any_some]
      rw [hmodules]
      refine ⟨.modify k (fun a ha => ⟨hstay k a _ rfl, rfl, ?_⟩)
        fun m a hkm _ => ⟨hstay m a a rfl, hother m a fun hm => ?_⟩, hnil⟩
      · obtain rfl : y = a := Option.some_inj.mp (hy.symm.trans ha)
        rw [hnames, if_pos hmodule]
        exact ⟨rfl, by rw [List.countP_singleton]; rfl⟩
      · exact hkm (Option.some_inj.mp (hmodule.symm.trans hm))

/-- The end of a suite, said of the modules: it counts for the module of the suite. -/
theorem modules_endSuite (r : Run) (n : Nat) :
    r.Evolves (.endSuite n) .module ModuleRun.state (r.Numbered (.endSuite n)) r.modules []
      (r.endSuite n).modules := by
  by_cases hrun : r.isRunning (.suite n) = true
  · obtain ⟨a, ha, hended⟩ := isRunning_suite_iff.mp hrun
    have hstatus : r.statusOf (.suite n) = some a.status := by simp [statusOf, ha]
    have hwhole : r.whole? (.suite n) = a.module.map .module := by simp [whole?, ha]
    rw [endSuite_of_running ha hended]
    cases hm : a.module with
    | none =>
      have hne : ∀ k, r.whole? (.suite n) ≠ some (.module k) := fun k h => by
        rw [hwhole, hm] at h
        cases h
      exact .same (fun k => partsOf_outcome?_of_ne rfl (hne k)) fun _ _ => .of_none rfl rfl rfl rfl
    | some m =>
      rw [hm] at hwhole
      refine .modify m (fun b => ⟨.count (fun h => by cases h) ?_, .of_none rfl rfl rfl rfl⟩)
        (fun k hkm => partsOf_outcome?_of_ne rfl ?_) fun _ _ => .of_none rfl rfl rfl rfl
      · exact partsOf_outcome?_of_whole rfl hrun hstatus hwhole
      · rw [hwhole]
        exact fun h => hkm (by cases h; rfl)
  · rw [endSuite_of_not_running hrun]
    exact .same (fun m => partsOf_outcome?_of_not_running rfl (Bool.eq_false_iff.mpr hrun))
      fun _ _ => .of_none rfl rfl rfl rfl

/-- The end of a module, with whatever result it ends. -/
theorem modules_finish (m : Nat) (result : ModuleRun → ModuleResult)
    (he : x.ends? = some (.module m)) (hx : x.target? = some (.module m))
    (hnone : r.newTest? x = none) : r.Evolves x .module ModuleRun.state (r.Numbered x) r.modules []
      (r.modules.modify m fun a => if a.ended then a else a.finish (result a)) := by
  have hp : ∀ k, r.partsOf (.module k) (r.outcome? x).toList = [] :=
    fun k => partsOf_outcome?_of_ne he (Option.some_ne_none _).symm
  refine .modify m (fun a => ?_) (fun k _ => hp k) (fun _ _ => .of_none hnone rfl rfl rfl)
    fun k hkm h => hkm ?_
  · by_cases ha : a.ended = true
    · rw [if_pos ha]
      exact ⟨.stay_ended ha he (hp m), .of_none hnone rfl rfl rfl⟩
    · rw [if_neg ha]
      exact ⟨.finish (Bool.eq_false_iff.mpr ha) he (hp m) (fun hc => a.tags_finish _ hc) rfl,
        .of_none hnone rfl rfl rfl⟩
  · rw [hx] at h
    cases h
    rfl

/-- What one step makes of the modules. -/
theorem modules_evolve (r : Run) (x : RunStep) :
    ∃ new, r.Evolves x .module ModuleRun.state (r.Numbered x) r.modules new (r.step x).modules ∧
      ∀ b ∈ new, b.testsTotal = 0 ∧ b.newTests = 0 := by
  -- Only the end of a suite counts for a module.
  have hp : x.ends? = none → ∀ m, r.partsOf (.module m) (r.outcome? x).toList = [] :=
    fun he _ => partsOf_outcome?_of_none he
  have hk : r.newTest? x = none → ∀ (m : Nat) (a : ModuleRun), r.Numbered x m a a :=
    fun hnone _ _ => .of_none hnone rfl rfl rfl
  have hnew : ∀ b ∈ ([] : List ModuleRun), b.testsTotal = 0 ∧ b.newTests = 0 :=
    fun _ hb => absurd hb List.not_mem_nil
  cases x with
  | startModule d settings =>
    refine ⟨_, .concat _ rfl rfl ⟨rfl, rfl, rfl, rfl⟩ (hk rfl), fun b hb => ?_⟩
    rw [List.mem_singleton.mp hb]
    exact ⟨rfl, rfl⟩
  | startSuite m name codeUnit parallelized => exact ⟨[], .same (hp rfl) (hk rfl), hnew⟩
  | startDetached name codeUnit => exact ⟨[], .same (hp rfl) (hk rfl), hnew⟩
  | startTest n name parameters => exact ⟨[], r.modules_startTest n name parameters, hnew⟩
  | skipTest t reason => exact ⟨[], .same (hp rfl) (hk rfl), hnew⟩
  | failTest t f => exact ⟨[], .same (hp rfl) (hk rfl), hnew⟩
  | skipSuite n reason => exact ⟨[], .same (hp rfl) (hk rfl), hnew⟩
  | failSuite n f => exact ⟨[], .same (hp rfl) (hk rfl), hnew⟩
  | tag i key value =>
    cases i with
    | module m =>
      exact ⟨[], .modify m (fun a => ⟨.tag key value rfl rfl, .of_none rfl rfl rfl rfl⟩)
        (fun k _ => hp rfl k) (hk rfl), hnew⟩
    | suite n => exact ⟨[], .same (hp rfl) (hk rfl), hnew⟩
    | test t => exact ⟨[], .same (hp rfl) (hk rfl), hnew⟩
  | countSkipped m =>
    have hstay : ∀ a : ModuleRun, a.state.Next r (.countSkipped m) (.module m) a.state :=
      fun a => .stay (Option.some_ne_none _).symm (hp rfl m)
    exact ⟨[], .modify m (fun a => ⟨hstay a, .of_none rfl rfl rfl rfl⟩) (fun k _ => hp rfl k)
      (hk rfl), hnew⟩
  | addCoverage m c =>
    have hstay : ∀ a : ModuleRun, a.state.Next r (.addCoverage m c) (.module m) a.state :=
      fun a => .stay (Option.some_ne_none _).symm (hp rfl m)
    refine ⟨[], .modify m (fun a => ?_) (fun k _ => hp rfl k) (hk rfl), hnew⟩
    unfold ModuleRun.addCoverage
    split <;> exact ⟨hstay a, .of_none rfl rfl rfl rfl⟩
  | endTest t =>
    have hmodules : (r.step (.endTest t)).modules = r.modules := by
      simp only [step, endTest]
      split
      · rfl
      · split <;> rfl
    rw [hmodules]
    exact ⟨[], .same (fun m => partsOf_outcome?_of_ne rfl r.whole?_test_ne_module) (hk rfl), hnew⟩
  | endSuite n => exact ⟨[], r.modules_endSuite n, hnew⟩
  | endModule m =>
    rw [show (r.step (.endModule m)).modules = _ from r.modules_endModule m]
    exact ⟨[], modules_finish m ModuleRun.result rfl rfl rfl, hnew⟩
  | endModuleWith m result => exact ⟨[], modules_finish m (fun _ => result) rfl rfl rfl, hnew⟩

/-- What one step makes of an item that was there before. -/
theorem state?_step (hv : r.state? i = some v) (x : RunStep) :
    ∃ v', (r.step x).state? i = some v' ∧ v.Next r x i v' := by
  cases i with
  | module n =>
    obtain ⟨a, ha, rfl⟩ := Option.map_eq_some_iff.mp hv
    obtain ⟨new, hev, -⟩ := r.modules_evolve x
    obtain ⟨b, hb, hnext, -⟩ := hev.grows.kept n a ha
    exact ⟨_, congrArg (Option.map _) hb, hnext⟩
  | suite n =>
    obtain ⟨a, ha, rfl⟩ := Option.map_eq_some_iff.mp hv
    obtain ⟨new, hev, -⟩ := r.suites_evolve x
    obtain ⟨b, hb, hnext, -⟩ := hev.grows.kept n a ha
    exact ⟨_, congrArg (Option.map _) hb, hnext⟩
  | test n =>
    obtain ⟨a, ha, rfl⟩ := Option.map_eq_some_iff.mp hv
    obtain ⟨new, hev, -⟩ := r.tests_evolve x
    obtain ⟨b, hb, hnext, -⟩ := hev.grows.kept n a ha
    exact ⟨_, congrArg (Option.map _) hb, hnext⟩

/-- An item that one step starts is fresh. -/
theorem fresh_step (hnone : r.state? i = none) (hv : (r.step x).state? i = some v) : v.Fresh := by
  cases i with
  | module n =>
    obtain ⟨b, hb, rfl⟩ := Option.map_eq_some_iff.mp hv
    obtain ⟨new, hev, -⟩ := r.modules_evolve x
    exact hev.fresh b (hev.grows.mem_new (Option.map_eq_none_iff.mp hnone) hb)
  | suite n =>
    obtain ⟨b, hb, rfl⟩ := Option.map_eq_some_iff.mp hv
    obtain ⟨new, hev, -⟩ := r.suites_evolve x
    exact hev.fresh b (hev.grows.mem_new (Option.map_eq_none_iff.mp hnone) hb)
  | test n =>
    obtain ⟨b, hb, rfl⟩ := Option.map_eq_some_iff.mp hv
    obtain ⟨new, hev, -⟩ := r.tests_evolve x
    exact hev.fresh b (hev.grows.mem_new (Option.map_eq_none_iff.mp hnone) hb)

/-! ### What an item is a part of -/

/-- An item that was there before is a part of what it was a part of. -/
theorem whole?_step (hi : (r.state? i).isSome) (x : RunStep) :
    (r.step x).whole? i = r.whole? i := by
  obtain ⟨v, hv⟩ := Option.isSome_iff_exists.mp hi
  cases i with
  | module m => rfl
  | suite n =>
    obtain ⟨a, ha, -⟩ := Option.map_eq_some_iff.mp hv
    obtain ⟨new, hev, -⟩ := r.suites_evolve x
    obtain ⟨b, hb, -, horigin⟩ := hev.grows.kept n a ha
    have hmodule : b.origin.module = a.origin.module := by rw [horigin]
    simp only [whole?, ha, hb, Option.bind_some]
    exact congrArg _ hmodule
  | test t =>
    obtain ⟨a, ha, -⟩ := Option.map_eq_some_iff.mp hv
    obtain ⟨new, hev, -⟩ := r.tests_evolve x
    obtain ⟨b, hb, -, horigin⟩ := hev.grows.kept t a ha
    have hsuite : b.origin.suite = a.origin.suite := by rw [horigin]
    simp only [whole?, ha, hb, Option.map_some]
    exact congrArg (fun n => some (RunItem.suite n)) hsuite

theorem isSome_step (hi : (r.state? i).isSome) (x : RunStep) : ((r.step x).state? i).isSome := by
  obtain ⟨v, hv⟩ := Option.isSome_iff_exists.mp hi
  obtain ⟨v', hv', -⟩ := state?_step hv x
  rw [hv']
  rfl

theorem whole?_follow (hi : (r.state? i).isSome) (steps : List RunStep) :
    (r.follow steps).whole? i = r.whole? i := by
  induction steps generalizing r with
  | nil => rfl
  | cons x rest ih => exact (ih (isSome_step hi x)).trans (whole?_step hi x)

/-- What a step ends was there before. -/
theorem isSome_of_outcome? {e : RunItem × Status} (he : r.outcome? x = some e) :
    (r.state? e.1).isSome := by
  obtain ⟨j, hj, he⟩ := Option.bind_eq_some_iff.mp he
  obtain ⟨hrun, he⟩ := Option.ite_none_right_eq_some.mp he
  obtain ⟨s, -, rfl⟩ := Option.map_eq_some_iff.mp he
  obtain ⟨v, hv, -⟩ := isRunning_iff.mp hrun
  rw [hv]
  rfl

/-- The parts that a step ends, told apart after more steps. -/
theorem partsOf_follow_outcome? (r : Run) (x : RunStep) (i : RunItem) (steps : List RunStep) :
    (r.follow steps).partsOf i (r.outcome? x).toList = r.partsOf i (r.outcome? x).toList := by
  cases he : r.outcome? x with
  | none => rfl
  | some e =>
    rw [Option.toList_some, partsOf, partsOf, List.filterMap_cons, List.filterMap_cons,
      whole?_follow (isSome_of_outcome? he)]
    rfl

end Run

/-! ### Several steps -/

/-- What some steps make of an item: whether one of them marks it as failed or skipped, which of its
parts they end, and whether one of them ends it. -/
structure ItemState.Later (r : Run) (steps : List RunStep) (i : RunItem) (v v' : ItemState) :
    Prop where
  failed : v'.verdict.failure.isSome = (v.verdict.failure.isSome || steps.any (·.fails i))
  skipped : v'.verdict.skipReason.isSome = (v.verdict.skipReason.isSome || steps.any (·.skips i))
  parts : v'.parts =
    ((r.follow steps).partsOf i (r.outcomes steps)).foldl StatusCounts.record v.parts
  ended : v'.ended = (v.ended || steps.any fun x => decide (x.ends? = some i))
  frozen : v.tags.closed = true → v'.tags = v.tags

namespace Run

variable {r : Run} {x : RunStep} {i : RunItem} {v : ItemState}

theorem partsOf_append (r : Run) (i : RunItem) (l l' : List (RunItem × Status)) :
    r.partsOf i (l ++ l') = r.partsOf i l ++ r.partsOf i l' := List.filterMap_append

/-- What several steps make of an item that was there before. -/
theorem state?_follow (hv : r.state? i = some v) (steps : List RunStep) :
    ∃ v', (r.follow steps).state? i = some v' ∧ v.Later r steps i v' := by
  induction steps generalizing r v with
  | nil =>
    exact ⟨v, hv, (Bool.or_false _).symm, (Bool.or_false _).symm, rfl, (Bool.or_false _).symm,
      fun _ => rfl⟩
  | cons x rest ih =>
    obtain ⟨v₁, hv₁, hnext⟩ := state?_step hv x
    obtain ⟨v₂, hv₂, hlater⟩ := ih hv₁
    refine ⟨v₂, hv₂, ?_, ?_, ?_, ?_, fun hclosed => ?_⟩
    · rw [hlater.failed, hnext.failed, List.any_cons, Bool.or_assoc]
    · rw [hlater.skipped, hnext.skipped, List.any_cons, Bool.or_assoc]
    · -- The parts are told apart in the last run, where they are what they were before.
      rw [hlater.parts, hnext.parts, outcomes, partsOf_append, List.foldl_append]
      rw [show (r.follow (x :: rest)).partsOf i (r.outcome? x).toList = _ from
        partsOf_follow_outcome? r x i (x :: rest)]
      rfl
    · rw [hlater.ended, hnext.ended, List.any_cons, Bool.or_assoc]
    · have htags : v₁.tags = v.tags := hnext.frozen hclosed
      rw [hlater.frozen (by rw [htags, hclosed]), htags]

/-- The log of tags of an item is closed exactly when the item has ended. -/
theorem closed_eq_ended (steps : List RunStep) (hv : (empty.follow steps).state? i = some v) :
    v.tags.closed = v.ended := by
  -- From the last step back: the run before it is one that is reached, too.
  induction steps using List.reverseRecOn generalizing v with
  | nil => cases i <;> simp [follow, empty, state?] at hv
  | append_singleton steps x ih =>
    rw [follow, List.foldl_append] at hv
    cases hbefore : (empty.follow steps).state? i with
    | none =>
      obtain ⟨-, -, hunlocked, hrunning⟩ := fresh_step (x := x) hbefore hv
      rw [hunlocked, hrunning]
    | some u =>
      obtain ⟨v', hv', hnext⟩ := state?_step hbefore x
      obtain rfl : v' = v := Option.some_inj.mp (hv'.symm.trans hv)
      exact hnext.closed (ih hbefore)

end Run

end TestTelemetry
