/-
The end of a module ends what is still running.

Tests and suites that are still running end in whatever order a table gives them.  That is as
if the script had gone on: every test is finished, and every suite is closed as often as it is
still open.

* `Handler.finishInOrder` — the end of a module, with the orders as parameters;
* `Handler.finishing` — the events that it stands for;
* `Handler.drained_eq_applyAll` — the run is the same.
-/
import TestTelemetry.Proofs.Data.Keyed
import TestTelemetry.Proofs.Worker.Account

namespace TestTelemetry

namespace Handler

/-- The run once some tests have ended, and some suites after them. -/
def drained (h : Handler) (tests : List (TestKey × Nat)) (suites : List (SuiteKey × Nat)) : Run :=
  (suites.map (·.2)).foldl Run.endSuite ((tests.map (·.2)).foldl Run.endTest h.run)

/-- End what is still running, the tests and the suites each in an order that is given, and the
module last. -/
def finishInOrder (h : Handler) (tests : List (TestKey × Nat)) (suites : List (SuiteKey × Nat)) :
    Handler × Option ModuleResult :=
  let (run, result) := (h.drained tests suites).endModule moduleNumber
  ({ h with
      run
      activations := (suites.map (·.1)).foldl Activations.clear h.activations
      suites := .empty
      tests := .empty }, result)

/-- A module ends what is still running in the order in which it was started. -/
theorem finishModule_eq_finishInOrder (h : Handler) :
    h.finishModule = h.finishInOrder h.tests.entries h.suites.entries := rfl

/-- The events that finish some tests. -/
def finishingTests (tests : List (TestKey × Nat)) : List WorkerEvent :=
  tests.map fun t => .testFinish t.1

/-- The events that close some suites as often as they are open. -/
def finishingSuites (depth : SuiteKey → Nat) (suites : List (SuiteKey × Nat)) : List WorkerEvent :=
  suites.flatMap fun s => List.replicate (depth s.1) (.suiteFinish s.1)

variable {h : Handler} {es : List WorkerEvent}

theorem applyAll_append (h : Handler) (l r : List WorkerEvent) :
    h.applyAll (l ++ r) = (h.applyAll l).applyAll r := List.foldl_append

/-- Finishing some running tests ends them, and touches nothing else. -/
theorem applyAll_finishingTests (tests : List (TestKey × Nat))
    (hmem : ∀ t ∈ tests, t ∈ h.tests.entries) (hnodup : (tests.map (·.1)).Nodup) :
    h.applyAll (finishingTests tests) = { h with
      run := (tests.map (·.2)).foldl Run.endTest h.run
      tests := (tests.map (·.1)).foldl Keyed.erase h.tests } := by
  induction tests generalizing h with
  | nil => rfl
  | cons t rest ih =>
    obtain ⟨k, n⟩ := t
    rw [List.map_cons, List.nodup_cons] at hnodup
    have hfind : h.tests.find? k = some n :=
      Keyed.find?_eq_some_iff.mpr (hmem _ (List.mem_cons_self ..))
    have hstep : h.apply (.testFinish k) =
        { h with run := h.run.endTest n, tests := h.tests.erase k } := by
      show h.closeTest k = _
      unfold closeTest
      rw [hfind]
    have hrest : ∀ t ∈ rest, t ∈ (h.tests.erase k).entries := by
      intro t ht
      refine Keyed.mem_erase.mpr ⟨hmem t (List.mem_cons_of_mem _ ht), fun hkey => ?_⟩
      exact hnodup.1 (List.mem_map.mpr ⟨t, ht, hkey⟩)
    show (h.apply (.testFinish k)).applyAll (finishingTests rest) = _
    rw [hstep, ih hrest hnodup.2]
    rfl

/-- Closing a suite as often as it is open ends it, and touches nothing else. -/
theorem applyAll_replicate_suiteFinish {s : SuiteKey} {n : Nat}
    (hfind : h.suites.find? s = some n) (d : Nat) (hd : h.activations.depth s = d + 1) :
    ∃ activations, h.applyAll (List.replicate (d + 1) (.suiteFinish s)) = { h with
        activations, run := h.run.endSuite n, suites := h.suites.erase s } ∧
      ∀ j, s ≠ j → activations.depth j = h.activations.depth j := by
  have hdepth : ∀ j, s ≠ j → (h.activations.finish s).depth j = h.activations.depth j := by
    intro j hj
    rw [Activations.depth_finish, if_neg hj, Nat.sub_zero]
  induction d generalizing h with
  | zero =>
    refine ⟨h.activations.finish s, ?_, hdepth⟩
    show h.closeSuite s = _
    unfold closeSuite
    simp [Activations.isLast, hd, hfind]
  | succ d ih =>
    -- Every closing but the last only counts down.
    have hstep : h.apply (.suiteFinish s) =
        { h with activations := h.activations.finish s } := by
      show h.closeSuite s = _
      unfold closeSuite
      simp [Activations.isLast, hd]
    have hd' : (h.activations.finish s).depth s = d + 1 := by
      rw [Activations.depth_finish, if_pos rfl, hd, Nat.add_sub_cancel]
    obtain ⟨activations, hall, hothers⟩ :=
      ih (h := { h with activations := h.activations.finish s }) hfind hd' fun j hj => by
        rw [Activations.depth_finish, if_neg hj, Nat.sub_zero]
    refine ⟨activations, ?_, fun j hj => (hothers j hj).trans (hdepth j hj)⟩
    show (h.apply (.suiteFinish s)).applyAll (List.replicate (d + 1) _) = _
    rw [hstep, hall]

/-- Closing some open suites as often as they are open ends them, and touches nothing else. -/
theorem applyAll_finishingSuites (depth : SuiteKey → Nat) (suites : List (SuiteKey × Nat))
    (hmem : ∀ s ∈ suites, s ∈ h.suites.entries) (hnodup : (suites.map (·.1)).Nodup)
    (hdepth : ∀ s ∈ suites, h.activations.depth s.1 = depth s.1 ∧ 0 < depth s.1) :
    ∃ activations, h.applyAll (finishingSuites depth suites) = { h with
      activations
      run := (suites.map (·.2)).foldl Run.endSuite h.run
      suites := (suites.map (·.1)).foldl Keyed.erase h.suites } := by
  induction suites generalizing h with
  | nil => exact ⟨h.activations, rfl⟩
  | cons s rest ih =>
    obtain ⟨k, n⟩ := s
    rw [List.map_cons, List.nodup_cons] at hnodup
    have hfind : h.suites.find? k = some n :=
      Keyed.find?_eq_some_iff.mpr (hmem _ (List.mem_cons_self ..))
    obtain ⟨hk, hpos⟩ := hdepth _ (List.mem_cons_self ..)
    obtain ⟨d, hd⟩ : ∃ d, depth k = d + 1 := ⟨depth k - 1, by dsimp only at hpos; omega⟩
    obtain ⟨activations, hall, hothers⟩ :=
      applyAll_replicate_suiteFinish hfind d (hk.trans hd)
    have hne : ∀ s ∈ rest, k ≠ s.1 := by
      intro s hs hkey
      exact hnodup.1 (List.mem_map.mpr ⟨s, hs, hkey.symm⟩)
    have hrest : ∀ s ∈ rest, s ∈ (h.suites.erase k).entries := fun s hs =>
      Keyed.mem_erase.mpr ⟨hmem s (List.mem_cons_of_mem _ hs), (hne s hs).symm⟩
    have hrestdepth : ∀ s ∈ rest, activations.depth s.1 = depth s.1 ∧ 0 < depth s.1 := by
      intro s hs
      rw [hothers s.1 (hne s hs)]
      exact hdepth s (List.mem_cons_of_mem _ hs)
    obtain ⟨last, hlast⟩ := ih
      (h := { h with activations, run := h.run.endSuite n, suites := h.suites.erase k })
      hrest hnodup.2 hrestdepth
    refine ⟨last, ?_⟩
    rw [finishingSuites, List.flatMap_cons, applyAll_append, hd, hall]
    exact hlast

/-- The events that the end of a module stands for. -/
def finishing (h : Handler) (tests : List (TestKey × Nat)) (suites : List (SuiteKey × Nat)) :
    List WorkerEvent :=
  finishingTests tests ++ finishingSuites h.activations.depth suites

theorem applyAll_finishingTests_of_perm {tests : List (TestKey × Nat)}
    (htests : tests.Perm h.tests.entries) :
    h.applyAll (finishingTests tests) = { h with
      run := (tests.map (·.2)).foldl Run.endTest h.run
      tests := (tests.map (·.1)).foldl Keyed.erase h.tests } :=
  applyAll_finishingTests tests (fun _ => htests.mem_iff.mp)
    ((htests.map _).nodup_iff.mpr h.tests.nodup)

/-- **Ending what is still running is finishing it.**  The run that is left is the one after the
events that finish the running tests and close the open suites, and no suite is open any more. -/
theorem applyAll_finishing (hk : h.Keeps es) {tests : List (TestKey × Nat)}
    {suites : List (SuiteKey × Nat)} (htests : tests.Perm h.tests.entries)
    (hsuites : suites.Perm h.suites.entries) :
    (h.applyAll (h.finishing tests suites)).run = h.drained tests suites ∧
      (h.applyAll (h.finishing tests suites)).suites.entries = [] := by
  have hsnodup : (suites.map (·.1)).Nodup := (hsuites.map _).nodup_iff.mpr h.suites.nodup
  have hpos : ∀ s ∈ suites, 0 < h.activations.depth s.1 := by
    intro s hs
    have hfind : h.suites.find? s.1 = some s.2 :=
      Keyed.find?_eq_some_iff.mpr (hsuites.mem_iff.mp hs)
    rw [hk.depth]
    refine Nat.pos_of_ne_zero (mt (hk.suite s.1).mpr ?_)
    rw [hfind]
    exact Option.some_ne_none _
  -- The tests go first, which leaves the table of suites and their depths alone.
  have hfirst := applyAll_finishingTests_of_perm htests
  obtain ⟨activations, hlast⟩ := applyAll_finishingSuites
    (h := h.applyAll (finishingTests tests)) h.activations.depth suites
    (by rw [hfirst]; exact fun s => hsuites.mem_iff.mp) hsnodup
    (by rw [hfirst]; exact fun s hs => ⟨rfl, hpos s hs⟩)
  rw [finishing, applyAll_append, hlast, hfirst]
  exact ⟨rfl, Keyed.entries_foldl_erase_eq_nil hsuites⟩

end Handler

end TestTelemetry
