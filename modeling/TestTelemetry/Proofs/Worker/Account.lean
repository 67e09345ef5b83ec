/-
What a module counts besides its suites and tests.

* `impactSkips` — how many running tests a script skips because the settings allow it;
* `coverageOf` — the coverage that a script reports, merged in its order;
* `Handler.account_applyAll` — the module of a handler has counted just these.
-/
import TestTelemetry.Proofs.Worker.Tracking

namespace TestTelemetry

/-- A skip that the settings allow, of a test that runs. -/
def impactSkip? (before : List WorkerEvent) : WorkerEvent → Option TestKey
  | .testSkip t reason =>
    if reason = some Tag.skippedByImpact ∧ (testSpan? before t).isSome then some t else none
  | _ => none

/-- How often a script skips a running test because the settings allow it. -/
def impactSkips (es : List WorkerEvent) : Nat := (gather impactSkip? es).length

/-- The coverage that an event reports. -/
def reportedCoverage? : WorkerEvent → Option CoverageStore
  | .coverage c => some c
  | _ => none

/-- The coverage that a script reports, merged from the first report to the last. -/
def coverageOf (es : List WorkerEvent) : CoverageStore :=
  (es.filterMap reportedCoverage?).foldl CoverageStore.merge .empty

/-- A module without what it counted of its suites. -/
def ModuleRun.withoutSuites (m : ModuleRun) : ModuleRun := { m with suites := .zero }

/-- Whether a module has ended, and what it has counted besides its suites and tests. -/
structure Account where
  ended : Bool
  testsSkipped : Nat
  coverage : CoverageStore

def ModuleRun.account (m : ModuleRun) : Account := ⟨m.ended, m.testsSkipped, m.coverage⟩

namespace Run

/-- The accounts of the modules of a run. -/
def accounts (r : Run) : List Account := r.modules.map ModuleRun.account

variable {r : Run}

/-- The end of a test is not told to the modules. -/
theorem modules_endTest (n : Nat) : (r.endTest n).modules = r.modules := by
  unfold endTest
  split
  · rfl
  · split <;> rfl

/-- The end of a suite changes what its module counted of its suites, and nothing else. -/
theorem withoutSuites_endSuite (n : Nat) :
    (r.endSuite n).modules.map ModuleRun.withoutSuites =
      r.modules.map ModuleRun.withoutSuites := by
  unfold endSuite
  split
  · rfl
  · split
    · rfl
    · dsimp only
      split
      · exact map_modify_of_eq fun _ => rfl
      · rfl

theorem accounts_startTest (n : Nat) (name : String) (parameters : Option String) :
    (r.startTest n name parameters).accounts = r.accounts := by
  unfold startTest accounts
  split
  · rfl
  · dsimp only
    split
    · exact map_modify_of_eq fun _ => rfl
    · rfl

theorem accounts_endTest (n : Nat) : (r.endTest n).accounts = r.accounts := by
  rw [accounts, modules_endTest, accounts]

theorem accounts_endSuite (n : Nat) : (r.endSuite n).accounts = r.accounts := by
  have hpast : ∀ r : Run, r.accounts =
      (r.modules.map ModuleRun.withoutSuites).map ModuleRun.account := by
    intro r
    rw [List.map_map]
    rfl
  rw [hpast, hpast, withoutSuites_endSuite]

/-- Coverage is merged into what a running module holds. -/
theorem accounts_addCoverage {a : Account} (hr : r.accounts = [a]) (hrunning : a.ended = false)
    (c : CoverageStore) : (r.addCoverage Handler.moduleNumber c).accounts =
      [{ a with coverage := a.coverage.merge c }] := by
  obtain ⟨m, hm, rfl⟩ := List.map_eq_singleton_iff.mp hr
  have hended : ¬ m.ended = true := by
    rw [show m.ended = false from hrunning]
    exact Bool.false_ne_true
  show (r.modules.modify Handler.moduleNumber _).map ModuleRun.account = _
  rw [hm]
  show [(m.addCoverage c).account] = _
  rw [ModuleRun.addCoverage, if_neg hended]
  rfl

theorem accounts_countSkipped {a : Account} (hr : r.accounts = [a]) :
    (r.countSkipped Handler.moduleNumber).accounts =
      [{ a with testsSkipped := a.testsSkipped + 1 }] := by
  obtain ⟨m, hm, rfl⟩ := List.map_eq_singleton_iff.mp hr
  show (r.modules.modify Handler.moduleNumber _).map ModuleRun.account = _
  rw [hm]
  rfl

end Run

/-! ### What an event adds -/

variable {es : List WorkerEvent} {e : WorkerEvent}

theorem impactSkips_concat (es : List WorkerEvent) (e : WorkerEvent) :
    impactSkips (es ++ [e]) = impactSkips es + if (impactSkip? es e).isSome then 1 else 0 := by
  rw [impactSkips, gather_concat, List.length_append, impactSkips]
  cases impactSkip? es e <;> rfl

theorem coverageOf_concat (es : List WorkerEvent) (e : WorkerEvent) :
    coverageOf (es ++ [e]) = (reportedCoverage? e).elim (coverageOf es) (coverageOf es).merge := by
  rw [coverageOf, List.filterMap_append, List.foldl_append, coverageOf]
  cases h : reportedCoverage? e <;> simp [h]

namespace Handler

variable {h : Handler}

/-- Only skips of tests and coverage are counted. -/
theorem accounts_apply_of_ne (hskip : ∀ t reason, e ≠ .testSkip t reason)
    (hcover : ∀ c, e ≠ .coverage c) : (h.apply e).run.accounts = h.run.accounts := by
  cases e with
  | suiteStart s parallelized =>
    show (h.openSuite s parallelized).run.accounts = _
    unfold openSuite
    split <;> rfl
  | suiteFinish s =>
    show (h.closeSuite s).run.accounts = _
    unfold closeSuite
    split
    · split
      · exact Run.accounts_endSuite _
      · rfl
    · rfl
  | suiteSkip s reason =>
    show (h.onSuite s _).run.accounts = _
    unfold onSuite
    split <;> rfl
  | suiteFailure s f =>
    show (h.onSuite s _).run.accounts = _
    unfold onSuite
    split <;> rfl
  | testStart t =>
    show (h.openTest t).run.accounts = _
    unfold openTest
    split
    · rfl
    · refine (Run.accounts_startTest ..).trans ?_
      split <;> rfl
  | testFinish t =>
    show (h.closeTest t).run.accounts = _
    unfold closeTest
    split
    · exact Run.accounts_endTest _
    · rfl
  | testFailure t f =>
    show (h.onTest t _).run.accounts = _
    unfold onTest
    split <;> rfl
  | testSkip t reason => exact absurd rfl (hskip t reason)
  | coverage c => exact absurd rfl (hcover c)

/-- A skip is counted if the settings allow it and the test runs. -/
theorem accounts_skipTest (hk : h.Keeps es) {a : Account} (hm : h.run.accounts = [a])
    (t : TestKey) (reason : Option String) : (h.skipTest t reason).run.accounts =
      [if reason = some Tag.skippedByImpact ∧ (testSpan? es t).isSome
        then { a with testsSkipped := a.testsSkipped + 1 } else a] := by
  unfold skipTest onTest
  cases hx : testSpan? es t with
  | none =>
    rw [hk.test_eq_none hx, if_neg (fun h => Bool.false_ne_true h.2)]
    exact hm
  | some x =>
    obtain rfl := Clock.key_of_span? hx
    obtain ⟨n, hfind, -⟩ := hk.exists_test hx
    rw [hfind]
    by_cases hreason : reason = some Tag.skippedByImpact
    · rw [if_pos ⟨hreason, rfl⟩]
      show (Run.skipTest (if reason = _ then _ else h.run) n reason).accounts = _
      rw [if_pos hreason]
      exact Run.accounts_countSkipped hm
    · rw [if_neg (fun h => hreason h.1)]
      show (Run.skipTest (if reason = _ then _ else h.run) n reason).accounts = _
      rw [if_neg hreason]
      exact hm

/-- What an event counts, besides suites and tests. -/
theorem account_apply (hk : h.Keeps es) (e : WorkerEvent)
    (hm : h.run.accounts = [⟨false, impactSkips es, coverageOf es⟩]) :
    (h.apply e).run.accounts =
      [⟨false, impactSkips (es ++ [e]), coverageOf (es ++ [e])⟩] := by
  rw [impactSkips_concat, coverageOf_concat]
  cases e with
  | testSkip t reason =>
    refine (accounts_skipTest hk hm t reason).trans ?_
    rw [impactSkip?]
    split <;> rfl
  | coverage c => exact Run.accounts_addCoverage hm rfl c
  | _ => exact (accounts_apply_of_ne (by simp) (by simp)).trans hm

/-- The module of a handler has counted the skips that the settings allow, and merged the
coverage that was reported. -/
theorem account_applyAll (d : ModuleDescriptor) (settings : ExecutionSettings)
    (es : List WorkerEvent) : ((start d settings).applyAll es).run.accounts =
      [⟨false, impactSkips es, coverageOf es⟩] := by
  induction es using List.reverseRecOn with
  | nil => rfl
  | append_singleton es e ih =>
    have hk := (tracks_applyAll d settings es).keeps
    rw [applyAll, List.foldl_append]
    exact account_apply hk e ih

end Handler

end TestTelemetry
