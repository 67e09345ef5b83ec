/-
The order in which items end.

The end of a test reads the test and counts in its suite; no other test is looked at.  So two tests
can end in either order, also in one suite, and so can two suites.

* `Run.endTest_comm`, `Run.endSuite_comm` — two ends change places;
* `Run.foldl_endTest_perm`, `Run.foldl_endSuite_perm` — any number of tests or suites.
-/
import TestTelemetry.Proofs.Lifecycle.Evolution
import TestTelemetry.Proofs.Outcome.RollUp

namespace TestTelemetry

namespace Run

variable {r : Run}

/-- A test looks the same after the end of another one. -/
theorem getElem?_tests_endTest {m n : Nat} (h : m ≠ n) :
    (r.endTest m).tests[n]? = r.tests[n]? := by
  rw [tests_endTest, List.getElem?_modify_ne _ _ h]

theorem getElem?_suites_endSuite {m n : Nat} (h : m ≠ n) :
    (r.endSuite m).suites[n]? = r.suites[n]? := by
  rw [suites_endSuite, List.getElem?_modify_ne _ _ h]

theorem recordTest_right_comm (s : SuiteRun) (x y : Status) :
    (s.recordTest x).recordTest y = (s.recordTest y).recordTest x :=
  congrArg (fun tests => { s with tests }) (s.tests.record_right_comm x y)

theorem recordSuite_right_comm (m : ModuleRun) (x y : Status) :
    (m.recordSuite x).recordSuite y = (m.recordSuite y).recordSuite x :=
  congrArg (fun suites => { m with suites }) (m.suites.record_right_comm x y)

/-- Two tests can end in either order. -/
theorem endTest_comm (r : Run) (m n : Nat) :
    (r.endTest m).endTest n = (r.endTest n).endTest m := by
  by_cases hmn : m = n
  · rw [hmn]
  have htestm : (r.endTest n).tests[m]? = r.tests[m]? := getElem?_tests_endTest (Ne.symm hmn)
  have htestn : (r.endTest m).tests[n]? = r.tests[n]? := getElem?_tests_endTest hmn
  by_cases hm : r.isRunning (.test m) = true
  · by_cases hn : r.isRunning (.test n) = true
    · obtain ⟨a, ha, hea⟩ := isRunning_test_iff.mp hm
      obtain ⟨b, hb, heb⟩ := isRunning_test_iff.mp hn
      rw [endTest_of_running (htestn.trans hb) heb, endTest_of_running (htestm.trans ha) hea,
        endTest_of_running ha hea, endTest_of_running hb heb]
      -- Both may count in one suite, where the counters do not see the order.
      simp only [Run.mk.injEq, true_and]
      exact ⟨modify_comm fun s => recordTest_right_comm s _ _, List.modify_modify_ne _ _ _ hmn⟩
    · have hn' : ¬ (r.endTest m).isRunning (.test n) = true := by rwa [isRunning, htestn]
      rw [endTest_of_not_running hn, endTest_of_not_running hn']
  · have hm' : ¬ (r.endTest n).isRunning (.test m) = true := by rwa [isRunning, htestm]
    rw [endTest_of_not_running hm, endTest_of_not_running hm']

/-- Two suites can end in either order. -/
theorem endSuite_comm (r : Run) (m n : Nat) :
    (r.endSuite m).endSuite n = (r.endSuite n).endSuite m := by
  by_cases hmn : m = n
  · rw [hmn]
  have hsuitem : (r.endSuite n).suites[m]? = r.suites[m]? :=
    getElem?_suites_endSuite (Ne.symm hmn)
  have hsuiten : (r.endSuite m).suites[n]? = r.suites[n]? := getElem?_suites_endSuite hmn
  by_cases hm : r.isRunning (.suite m) = true
  · by_cases hn : r.isRunning (.suite n) = true
    · obtain ⟨a, ha, hea⟩ := isRunning_suite_iff.mp hm
      obtain ⟨b, hb, heb⟩ := isRunning_suite_iff.mp hn
      rw [endSuite_of_running (hsuiten.trans hb) heb, endSuite_of_running (hsuitem.trans ha) hea,
        endSuite_of_running ha hea, endSuite_of_running hb heb]
      simp only [Run.mk.injEq, and_true]
      refine ⟨?_, List.modify_modify_ne _ _ _ hmn⟩
      cases a.module with
      | none => rfl
      | some k =>
        cases b.module with
        | none => rfl
        | some l => exact modify_comm fun x => recordSuite_right_comm x _ _
    · have hn' : ¬ (r.endSuite m).isRunning (.suite n) = true := by rwa [isRunning, hsuiten]
      rw [endSuite_of_not_running hn, endSuite_of_not_running hn']
  · have hm' : ¬ (r.endSuite n).isRunning (.suite m) = true := by rwa [isRunning, hsuitem]
    rw [endSuite_of_not_running hm, endSuite_of_not_running hm']

/-- Some tests can end in any order. -/
theorem foldl_endTest_perm (r : Run) {l l' : List Nat} (h : l.Perm l') :
    l.foldl endTest r = l'.foldl endTest r :=
  h.foldl_eq' (fun m _ n _ r => endTest_comm r m n) r

/-- Some suites can end in any order. -/
theorem foldl_endSuite_perm (r : Run) {l l' : List Nat} (h : l.Perm l') :
    l.foldl endSuite r = l'.foldl endSuite r :=
  h.foldl_eq' (fun m _ n _ r => endSuite_comm r m n) r

end Run

end TestTelemetry
