/-
Items that are concluded, and items that are left open.

An item is concluded once it has ended and its tags tell with which status.  The end of a suite or
a test writes this tag itself, so that nothing else is asked of a run that was started empty.  As
long as a suite runs, only somebody who tags it can give it a status.

* `Run.Concluded`, `Run.LeftOpen` — what may be found of an item once all is done;
* `Run.concluded_of_hasEnded` — the suites and tests that have ended are concluded;
* `Run.untold_follow` — the suites that run tell no status, if nobody writes tags;
* `Run.running_of_new` — a suite that was started and not ended runs.
-/
import TestTelemetry.Proofs.Lifecycle.Conservation
import TestTelemetry.Proofs.Lifecycle.Sites

namespace TestTelemetry

/-- Whether a step writes a tag. -/
def RunStep.tags : RunStep → Bool
  | tag .. => true
  | _ => false

/-- A suite that runs tells no status. -/
def SuiteRun.Untold (s : SuiteRun) : Prop := s.ended = false → s.tags.get Tag.status = none

theorem SuiteRun.untold_start (name : String) (codeUnit : Option String) (parallelized : Bool)
    (module : Option (Nat × String)) : (start name codeUnit parallelized module).Untold := by
  intro _
  have hkeys : ∀ t ∈ (Tag.suite, TagValue.str name) ::
      (module.toList.map fun m => (Tag.module, TagValue.str m.2)), t.1 ≠ Tag.status := by
    intro t ht
    rcases List.mem_cons.mp ht with rfl | ht
    · exact show Tag.suite ≠ Tag.status by decide
    · obtain ⟨m, -, rfl⟩ := List.mem_map.mp ht
      exact show Tag.module ≠ Tag.status by decide
  exact (TagLog.get_setAll_of_ne hkeys).trans rfl

namespace Run

/-- An item has ended, and its tags tell with which status. -/
def Concluded (r : Run) (i : RunItem) : Prop :=
  r.hasEnded i = true ∧
    ∃ (tags : TagLog) (status : Status), r.tagsOf i = some tags ∧
      tags.get Tag.status = some (.str status.name)

/-- An item runs, and its tags tell no status. -/
def LeftOpen (r : Run) (i : RunItem) : Prop :=
  r.isRunning i = true ∧ ∃ tags, r.tagsOf i = some tags ∧ tags.get Tag.status = none

variable {r : Run} {i : RunItem} {x : RunStep}

/-- What has ended does not run. -/
theorem LeftOpen.not_concluded (h : r.LeftOpen i) : ¬ r.Concluded i := by
  rintro ⟨hended, -⟩
  obtain ⟨v, hv, hrunning⟩ := isRunning_iff.mp h.1
  obtain ⟨w, hw, hended⟩ := hasEnded_iff.mp hended
  obtain rfl : v = w := Option.some_inj.mp (hv.symm.trans hw)
  rw [hrunning] at hended
  cases hended

/-- The first end of a suite or a test is in the log, and its status in the tags. -/
theorem concluded_of_hasEnded {steps : List RunStep} (hi : ∀ m, i ≠ .module m)
    (h : (empty.follow steps).hasEnded i = true) : (empty.follow steps).Concluded i := by
  have hc := conserves_follow steps
  obtain ⟨⟨j, status⟩, hmem, rfl⟩ := List.mem_map.mp ((hc.mem_iff i).mpr h)
  obtain ⟨tags, htags, hstatus⟩ := hc.recorded j status hmem hi
  exact ⟨h, tags, status, htags, hstatus⟩

/-! ### Suites that run -/

/-- A step that writes no tag gives no running suite a status. -/
theorem untold_step (h : ∀ s ∈ r.suites, s.Untold) (hx : x.tags = false) :
    ∀ s ∈ (r.step x).suites, s.Untold := by
  -- A new suite tells no status either.
  have hnew : ∀ (s : SuiteRun), s.Untold → ∀ a ∈ r.suites ++ [s], a.Untold := fun s hs a ha =>
    (List.mem_append.mp ha).elim (h a) fun ha => List.mem_singleton.mp ha ▸ hs
  cases x with
  | startModule d settings => exact h
  | startSuite m name codeUnit parallelized => exact hnew _ (SuiteRun.untold_start _ _ _ _)
  | startDetached name codeUnit => exact hnew _ (SuiteRun.untold_start _ _ _ _)
  | startTest n name parameters =>
    simp only [step, startTest]
    split <;> exact h
  | skipTest t reason => exact h
  | failTest t f => exact h
  | skipSuite n reason => exact forall_mem_modify h fun _ hs => hs
  | failSuite n f => exact forall_mem_modify h fun _ hs => hs
  | tag i key value => cases hx
  | countSkipped m => exact h
  | addCoverage m c => exact h
  | endTest t =>
    simp only [step, endTest]
    split
    · exact h
    · split
      · exact h
      · exact forall_mem_modify h fun _ hs => hs
  | endSuite n =>
    rw [show (r.step (.endSuite n)).suites = _ from r.suites_endSuite n]
    refine forall_mem_modify h fun s hs => ?_
    split
    · exact hs
    · -- The tag is written by the step that ends the suite.
      exact fun hrunning => by cases hrunning
  | endModule m =>
    rw [show (r.step (.endModule m)).suites = _ from r.suites_endModule m]
    exact h
  | endModuleWith m result => exact h

theorem untold_follow {steps : List RunStep} (hsteps : ∀ x ∈ steps, x.tags = false)
    (h : ∀ s ∈ r.suites, s.Untold) : ∀ s ∈ (r.follow steps).suites, s.Untold := by
  induction steps generalizing r with
  | nil => exact h
  | cons x rest ih =>
    obtain ⟨hx, hrest⟩ := List.forall_mem_cons.mp hsteps
    exact ih hrest (untold_step h hx)

/-- A suite that some steps start and do not end runs after them. -/
theorem running_of_new {n : Nat} {s : SuiteRun} {steps : List RunStep}
    (hnone : r.suites[n]? = none) (hs : (r.follow steps).suites[n]? = some s)
    (hends : RunStep.endCount (.suite n) steps = 0) : s.ended = false := by
  induction steps generalizing r with
  | nil => exact absurd (hnone.symm.trans hs) (Option.some_ne_none s).symm
  | cons x rest ih =>
    rw [RunStep.endCount_cons] at hends
    have hrest : RunStep.endCount (.suite n) rest = 0 := (Nat.add_eq_zero_iff.mp hends).2
    cases ha : (r.step x).suites[n]? with
    | none => exact ih ha hs hrest
    | some a =>
      have hfresh : a.state.Fresh := by
        refine fresh_step (r := r) (x := x) (i := .suite n) ?_ ?_
        · rw [state?, hnone, Option.map_none]
        · rw [state?, ha, Option.map_some]
      obtain ⟨b, hb, -, hended⟩ := suite_follow ha rest
      obtain rfl : b = s := Option.some_inj.mp (hb.symm.trans hs)
      rw [hended, show a.ended = false from hfresh.running, hrest]
      rfl

end Run

end TestTelemetry
