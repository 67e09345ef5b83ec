/-
Items keep their places.

Several steps leave every suite and every test where it was started and as what, and end it if one
of them says so.  The suites and the tests that they start are found behind the old ones.

* `Run.suite_follow`, `Run.test_follow` — one suite or one test after several steps;
* `Run.sites_follow`, `Run.testSites_follow` — all suites and all tests after several steps.
-/
import TestTelemetry.Proofs.Lifecycle.Evolution

namespace TestTelemetry

namespace RunStep

variable {i : RunItem}

theorem endCount_append (l l' : List RunStep) :
    endCount i (l ++ l') = endCount i l + endCount i l' := List.countP_append

theorem endCount_cons (x : RunStep) (l : List RunStep) :
    endCount i (x :: l) = (if x.ends? = some i then 1 else 0) + endCount i l := by
  rw [endCount, List.countP_cons, Nat.add_comm]
  simp only [decide_eq_true_eq]
  rfl

/-- Steps that end nothing of the kind do not end an item. -/
theorem endCount_eq_zero {l : List RunStep} (h : ∀ x ∈ l, x.ends? ≠ some i) :
    endCount i l = 0 :=
  List.countP_eq_zero.mpr fun x hx => by simpa using h x hx

theorem endCount_endSuites (l : List Nat) (n : Nat) :
    endCount (.suite n) (l.map .endSuite) = l.count n := by
  rw [endCount, List.countP_map, List.count]
  exact List.countP_congr fun m _ => by simp [ends?]

/-- Whether one of several steps ends an item, one after the others. -/
theorem or_endCount_cons (b : Bool) (x : RunStep) (l : List RunStep) :
    (b || decide (0 < endCount i (x :: l))) =
      ((b || decide (x.ends? = some i)) || decide (0 < endCount i l)) := by
  rw [endCount_cons, Bool.or_assoc]
  by_cases hx : x.ends? = some i
  · have hpos : 0 < 1 + endCount i l := Nat.lt_of_lt_of_le Nat.zero_lt_one (Nat.le_add_right ..)
    rw [if_pos hx, decide_eq_true hx, decide_eq_true hpos, Bool.true_or]
  · simp [hx]

end RunStep

namespace Run

variable {r : Run}

/-- A suite after several steps. -/
theorem suite_follow {n : Nat} {a : SuiteRun} (ha : r.suites[n]? = some a)
    (steps : List RunStep) : ∃ b, (r.follow steps).suites[n]? = some b ∧ b.site = a.site ∧
      b.ended = (a.ended || decide (0 < RunStep.endCount (.suite n) steps)) := by
  induction steps generalizing r a with
  | nil => exact ⟨a, ha, rfl, (Bool.or_false _).symm⟩
  | cons x rest ih =>
    obtain ⟨new, hev, -⟩ := r.suites_evolve x
    obtain ⟨b, hb, hnext, horigin⟩ := hev.grows.kept n a ha
    obtain ⟨c, hc, hsite, hended⟩ := ih hb
    refine ⟨c, hc, hsite.trans (SuiteRun.site_eq_of_origin horigin), ?_⟩
    rw [hended, RunStep.or_endCount_cons, show b.ended = _ from hnext.ended]
    rfl

/-- A test after several steps. -/
theorem test_follow {n : Nat} {a : TestRun} (ha : r.tests[n]? = some a)
    (steps : List RunStep) : ∃ b, (r.follow steps).tests[n]? = some b ∧ b.site = a.site ∧
      b.ended = (a.ended || decide (0 < RunStep.endCount (.test n) steps)) := by
  induction steps generalizing r a with
  | nil => exact ⟨a, ha, rfl, (Bool.or_false _).symm⟩
  | cons x rest ih =>
    obtain ⟨new, hev, -⟩ := r.tests_evolve x
    obtain ⟨b, hb, hnext, horigin⟩ := hev.grows.kept n a ha
    obtain ⟨c, hc, hsite, hended⟩ := ih hb
    refine ⟨c, hc, hsite.trans (TestRun.site_eq_of_origin horigin), ?_⟩
    rw [hended, RunStep.or_endCount_cons, show b.ended = _ from hnext.ended]
    rfl

/-- All suites after several steps. -/
theorem sites_follow (r : Run) (steps : List RunStep) :
    (r.follow steps).suites.map SuiteRun.site =
      r.suites.map SuiteRun.site ++ r.startedSuites steps := by
  induction steps generalizing r with
  | nil => exact (List.append_nil _).symm
  | cons x rest ih =>
    obtain ⟨new, hev, hnew⟩ := r.suites_evolve x
    have hstep : (r.step x).suites.map SuiteRun.site =
        r.suites.map SuiteRun.site ++ (r.newSuite? x).toList := by
      rw [hev.grows.map_eq fun _ _ _ h => SuiteRun.site_eq_of_origin h.2, hnew]
    show ((r.step x).follow rest).suites.map SuiteRun.site = _
    rw [ih, hstep, startedSuites, List.append_assoc]

/-- All tests after several steps. -/
theorem testSites_follow (r : Run) (steps : List RunStep) :
    (r.follow steps).tests.map TestRun.site =
      r.tests.map TestRun.site ++ r.startedTests steps := by
  induction steps generalizing r with
  | nil => exact (List.append_nil _).symm
  | cons x rest ih =>
    obtain ⟨new, hev, hnew⟩ := r.tests_evolve x
    have hstep : (r.step x).tests.map TestRun.site =
        r.tests.map TestRun.site ++ (r.newTest? x).toList := by
      rw [hev.grows.map_eq fun _ _ _ h => TestRun.site_eq_of_origin h.2, hnew]
    show ((r.step x).follow rest).tests.map TestRun.site = _
    rw [ih, hstep, startedTests, List.append_assoc]

/-- The number of modules does not go down. -/
theorem length_modules_follow (r : Run) (steps : List RunStep) :
    r.modules.length ≤ (r.follow steps).modules.length := by
  induction steps generalizing r with
  | nil => exact Nat.le_refl _
  | cons x rest ih =>
    obtain ⟨new, hev, -⟩ := r.modules_evolve x
    exact Nat.le_trans hev.grows.length_le (ih (r.step x))

/-- Steps that start no suite leave the suites that there are. -/
theorem startedSuites_eq_nil {steps : List RunStep}
    (h : ∀ x ∈ steps, ∀ r : Run, r.newSuite? x = none) (r : Run) : r.startedSuites steps = [] := by
  induction steps generalizing r with
  | nil => rfl
  | cons x rest ih =>
    rw [startedSuites, h x (List.mem_cons_self ..) r, ih fun y hy => h y (List.mem_cons_of_mem _ hy)]
    rfl

/-- Steps that start no test leave the tests that there are. -/
theorem startedTests_eq_nil {steps : List RunStep}
    (h : ∀ x ∈ steps, ∀ r : Run, r.newTest? x = none) (r : Run) : r.startedTests steps = [] := by
  induction steps generalizing r with
  | nil => rfl
  | cons x rest ih =>
    rw [startedTests, h x (List.mem_cons_self ..) r, ih fun y hy => h y (List.mem_cons_of_mem _ hy)]
    rfl

end Run

end TestTelemetry
