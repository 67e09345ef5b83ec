/-
Items that have ended.

The first end of an item records its status as a tag and hands it on: a test to its suite, a suite
to its module, a module to its parent.  From then on the item stays ended and its tags stay as they
are.  Its status, however, is read off what was said of the item and what its parts counted, and
neither is closed by the end.

* `Run.HandsOn` — where the status of an item goes when it ends;
* `Run.ended_item_frozen` — what stays of an ended item, and what its status becomes;
* `Run.late_failure_changes_status` — a failure that is reported after the end.
-/
import TestTelemetry.Proofs.Lifecycle.Evolution

namespace TestTelemetry

/-! ### The tag of the status -/

theorem TestRun.status_tag_finish (t : TestRun) (h : t.tags.closed = false) :
    t.finish.tags.get Tag.status = some (.str t.status.name) := by
  show ((t.tags.setAll t.verdict.tags).set Tag.status _).close.get Tag.status = _
  rw [TagLog.get_close, TagLog.get_set_self]
  rw [TagLog.closed_setAll, h]

theorem SuiteRun.status_tag_finish (s : SuiteRun) (h : s.tags.closed = false) :
    s.finish.tags.get Tag.status = some (.str s.status.name) := by
  show ((s.tags.setAll s.verdict.tags).set Tag.status _).close.get Tag.status = _
  rw [TagLog.get_close, TagLog.get_set_self]
  rw [TagLog.closed_setAll, h]

/-- The status is the first tag of a result, and no other tag of it has its key. -/
theorem ModuleResult.tags_of_status {r : ModuleResult} {name : String} (h : r.status = some name) :
    ∃ rest, r.tags = (Tag.status, .str name) :: rest ∧ ∀ t ∈ rest, t.1 ≠ Tag.status := by
  unfold tags
  rw [h]
  simp only [Option.toList_some, List.map_cons, List.map_nil, List.cons_append, List.nil_append]
  refine ⟨_, rfl, fun t ht => ?_⟩
  have hkey : t.1 ∈ [Tag.coverageEnabled, Tag.skippingEnabled, Tag.skippingCount,
      Tag.earlyFlakeEnabled, Tag.earlyFlakeAbortReason] := by
    grind
  rintro heq
  rw [heq] at hkey
  revert hkey
  decide

theorem ModuleRun.status_tag_finish (m : ModuleRun) (h : m.tags.closed = false) :
    (m.finish m.result).tags.get Tag.status = some (.str m.status.name) := by
  obtain ⟨rest, hrest, hne⟩ := ModuleResult.tags_of_status (show m.result.status = _ from rfl)
  show (m.tags.setAll m.result.tags).close.get Tag.status = _
  rw [TagLog.get_close, hrest]
  show ((m.tags.set Tag.status _).setAll rest).get Tag.status = _
  rw [TagLog.get_setAll_of_ne hne, TagLog.get_set_self h]

namespace ItemState

/-- The status of an item once more was said of it, and once more of its parts have ended. -/
def statusAfter (v : ItemState) (failed skipped : Bool) (parts : List Status) : Status :=
  if v.verdict.failure.isSome || failed then .fail
  else if v.verdict.skipReason.isSome || skipped then .skip
  else (parts.foldl StatusCounts.record v.parts).status

/-- When an item still has the status that it had.  A late failure leaves only what had failed as it
was, a late skip only what was marked as failed or had been skipped, and late outcomes of parts
change nothing of what was marked. -/
def KeepsStatus (v : ItemState) (failed skipped : Bool) (parts : List Status) : Prop :=
  if failed then v.status = .fail
  else if skipped then v.verdict.failure.isSome ∨ v.status = .skip
  else v.verdict.failure.isSome ∨ v.verdict.skipReason.isSome ∨
    (parts.foldl StatusCounts.record v.parts).status = v.parts.status

theorem statusAfter_eq_status_iff {v : ItemState} {failed skipped : Bool} {parts : List Status} :
    v.statusAfter failed skipped parts = v.status ↔ v.KeepsStatus failed skipped parts := by
  unfold statusAfter KeepsStatus status Verdict.status
  cases failed with
  | true =>
    simp only [Bool.or_true, if_true]
    exact eq_comm
  | false =>
    cases hf : v.verdict.failure.isSome with
    | true => cases skipped <;> simp
    | false =>
      cases hs : v.verdict.skipReason.isSome with
      | true => cases skipped <;> simp
      | false => cases skipped <;> simp [eq_comm]

theorem Later.status_eq {r : Run} {steps : List RunStep} {i : RunItem} {v v' : ItemState}
    (h : v.Later r steps i v') : v'.status = v.statusAfter (steps.any (·.fails i))
      (steps.any (·.skips i)) ((r.follow steps).partsOf i (r.outcomes steps)) := by
  unfold statusAfter status Verdict.status
  rw [h.failed, h.skipped, h.parts]

end ItemState

namespace Run

variable {r : Run} {i : RunItem} {v : ItemState}

/-- Where the status of an item goes when it ends: a test tells its suite, a suite its module if
it has one, and a module tells its parent in its result. -/
def HandsOn (r : Run) (status : Status) : RunItem → Prop
  | .test t => ∃ a, r.tests[t]? = some a ∧
      (r.endTest t).suites = r.suites.modify a.suite (·.recordTest status)
  | .suite n => ∃ a, r.suites[n]? = some a ∧
      (r.endSuite n).modules = match a.module with
        | some m => r.modules.modify m (·.recordSuite status)
        | none => r.modules
  | .module m => ∃ result, (r.endModule m).2 = some result ∧ result.status = some status.name

/-- An item that runs hands on the status that it has. -/
theorem handsOn_status (hv : r.state? i = some v) (hrunning : v.ended = false) :
    r.HandsOn v.status i := by
  cases i with
  | test t =>
    obtain ⟨a, ha, rfl⟩ := Option.map_eq_some_iff.mp hv
    exact ⟨a, ha, congrArg suites (endTest_of_running ha hrunning)⟩
  | suite n =>
    obtain ⟨a, ha, rfl⟩ := Option.map_eq_some_iff.mp hv
    exact ⟨a, ha, congrArg modules (endSuite_of_running ha hrunning)⟩
  | module m =>
    obtain ⟨a, ha, rfl⟩ := Option.map_eq_some_iff.mp hv
    have hended : a.ended = false := hrunning
    refine ⟨a.result, ?_, rfl⟩
    simp only [endModule, ha, hended]
    rfl

/-- The end of an item that runs writes the status that it has into its tags. -/
theorem status_tag_endItem (hv : r.state? i = some v) (hrunning : v.ended = false)
    (hopen : v.tags.closed = false) : ∃ tags, (r.endItem i).1.tagsOf i = some tags ∧
      tags.get Tag.status = some (.str v.status.name) := by
  cases i with
  | test t =>
    obtain ⟨a, ha, rfl⟩ := Option.map_eq_some_iff.mp hv
    have hended : ¬ a.ended = true := Bool.eq_false_iff.mp hrunning
    refine ⟨a.finish.tags, ?_, a.status_tag_finish hopen⟩
    show (r.endTest t).tests[t]?.map _ = _
    rw [tests_endTest, getElem?_modify_of_eq_some ha, if_pos rfl, if_neg hended]
    rfl
  | suite n =>
    obtain ⟨a, ha, rfl⟩ := Option.map_eq_some_iff.mp hv
    have hended : ¬ a.ended = true := Bool.eq_false_iff.mp hrunning
    refine ⟨a.finish.tags, ?_, a.status_tag_finish hopen⟩
    show (r.endSuite n).suites[n]?.map _ = _
    rw [suites_endSuite, getElem?_modify_of_eq_some ha, if_pos rfl, if_neg hended]
    rfl
  | module m =>
    obtain ⟨a, ha, rfl⟩ := Option.map_eq_some_iff.mp hv
    have hended : ¬ a.ended = true := Bool.eq_false_iff.mp hrunning
    refine ⟨(a.finish a.result).tags, ?_, a.status_tag_finish hopen⟩
    show (r.endModule m).1.modules[m]?.map _ = _
    rw [modules_endModule, getElem?_modify_of_eq_some ha, if_pos rfl, if_neg hended]
    rfl

/-- No item is a part of itself. -/
theorem whole?_ne_self (r : Run) (i : RunItem) : r.whole? i ≠ some i := by
  cases i with
  | module m => exact nofun
  | suite n => exact r.whole?_suite_ne_suite
  | test t =>
    simp only [whole?, ne_eq, Option.map_eq_some_iff]
    rintro ⟨a, -, h⟩
    cases h

/-- The end of an item that runs leaves what was said of it and what its parts counted. -/
theorem state?_endItem (hv : r.state? i = some v) :
    ∃ v', (r.endItem i).1.state? i = some v' ∧ v'.ended = true ∧
      (v.tags.closed = v.ended → v'.tags.closed = true) ∧
      ∀ failed skipped parts, v'.statusAfter failed skipped parts =
        v.statusAfter failed skipped parts := by
  have hends : i.ending.ends? = some i := by cases i <;> rfl
  obtain ⟨v', hv', hnext⟩ := state?_step hv i.ending
  obtain ⟨hfails, hskips⟩ := RunStep.marks_of_ends hends
  have hparts : v'.parts = v.parts := by
    rw [hnext.parts, partsOf_outcome?_of_ne hends (r.whole?_ne_self i), List.foldl_nil]
  have hended : v'.ended = true := by
    rw [hnext.ended, hends, decide_eq_true rfl, Bool.or_true]
  refine ⟨v', by rw [fst_endItem, hv'], hended, fun h => (hnext.closed h).trans hended, ?_⟩
  intro failed skipped parts
  unfold ItemState.statusAfter
  rw [hnext.failed, hnext.skipped, hfails, hskips, hparts, Bool.or_false, Bool.or_false]

/-- **What an end fixes.**  The first end of a module, a suite or a test records the status that the
item has as its tag, and hands on the same status.  Whatever happens after that, the item stays
ended and its tags stay what they are.  The failures, the skips and the outcomes of parts that come
late, however, count for the status that it reports as if it had not ended; `KeepsStatus` says when
that status still is the recorded one. -/
theorem ended_item_frozen (before : List RunStep) (i : RunItem)
    (hrun : (empty.follow before).isRunning i = true) :
    let r := empty.follow before
    let last := (r.endItem i).1
    ∃ v tags, r.state? i = some v ∧ r.statusOf i = some v.status ∧
      last.tagsOf i = some tags ∧ tags.get Tag.status = some (.str v.status.name) ∧
      r.HandsOn v.status i ∧
      ∀ later, (last.follow later).hasEnded i = true ∧ (last.follow later).tagsOf i = some tags ∧
        let failed := later.any (·.fails i)
        let skipped := later.any (·.skips i)
        let parts := (last.follow later).partsOf i (last.outcomes later)
        (last.follow later).statusOf i = some (v.statusAfter failed skipped parts) ∧
          ((last.follow later).statusOf i = some v.status ↔
            v.KeepsStatus failed skipped parts) := by
  intro r last
  obtain ⟨v, hv, hrunning⟩ := isRunning_iff.mp hrun
  have hlog : v.tags.closed = v.ended := closed_eq_ended before hv
  obtain ⟨tags, htags, htag⟩ := status_tag_endItem hv hrunning (hlog.trans hrunning)
  obtain ⟨u, hu, hended, hclosed, hsame⟩ := state?_endItem hv
  have hutags : u.tags = tags := by
    have htags' : last.tagsOf i = some tags := htags
    rw [tagsOf_eq, show last.state? i = some u from hu, Option.map_some, Option.some_inj] at htags'
    exact htags'
  refine ⟨v, tags, hv, by rw [statusOf_eq, hv]; rfl, htags, htag, handsOn_status hv hrunning, ?_⟩
  intro later
  obtain ⟨w, hw, hlater⟩ := state?_follow hu later
  have hstatus : (last.follow later).statusOf i = some (v.statusAfter (later.any (·.fails i))
      (later.any (·.skips i)) ((last.follow later).partsOf i (last.outcomes later))) := by
    rw [statusOf_eq, hw, Option.map_some, hlater.status_eq, hsame]
  refine ⟨?_, ?_, hstatus, ?_⟩
  · rw [hasEnded_eq, hw, Option.any_some, hlater.ended, hended, Bool.true_or]
  · rw [tagsOf_eq, hw, Option.map_some, hlater.frozen (hclosed hlog), hutags]
  · rw [hstatus, Option.some_inj, ItemState.statusAfter_eq_status_iff]

/-- A suite ends while one of its two tests runs, which fails after that: the suite had recorded
a skip and keeps the tag, but reports a failure. -/
theorem suite_ends_before_test :
    let before := [RunStep.startDetached "S" none, .startTest 0 "t" none, .startTest 0 "u" none,
      .skipTest 0 none, .endTest 0]
    let last := ((empty.follow before).endItem (.suite 0)).1
    let later := [RunStep.failTest 1 ⟨none, "boom"⟩, .endTest 1]
    (empty.follow before).isRunning (.suite 0) = true ∧
      ∃ tags, (last.follow later).tagsOf (.suite 0) = some tags ∧
        tags.get Tag.status = some (.str Status.skip.name) ∧
        (last.follow later).statusOf (.suite 0) = some .fail := by
  intro before last later
  obtain ⟨v, tags, hv, -, -, htag, -, hlater⟩ := ended_item_frozen before (.suite 0) (by decide)
  obtain ⟨-, htags, hstatus, -⟩ := hlater later
  obtain rfl := Option.some_inj.mp hv
  exact ⟨by decide, tags, htags, htag, hstatus⟩

/-- A test passes and ends; a failure that is reported after that leaves the tag of the test, but
not its status. -/
theorem late_failure_changes_status :
    let r := empty.follow [.startDetached "S" none, .startTest 0 "t" none]
    let last := (r.endItem (.test 0)).1
    r.isRunning (.test 0) = true ∧
      (last.tagsOf (.test 0)).bind (·.get Tag.status) = some (.str Status.pass.name) ∧
      last.statusOf (.test 0) = some .pass ∧
      (last.follow [.failTest 0 ⟨none, "boom"⟩]).statusOf (.test 0) = some .fail :=
  ⟨by decide, rfl, by decide, by decide⟩

end Run

end TestTelemetry
