/-
What steps do to an item.

Modules, suites and tests have much in common: something was said of them, outcomes of their parts
were counted, they have tags, and they end once.  Seen as that, all of them go through a run in
the same way.

* `ItemState`, `Run.state?` — what modules, suites and tests have in common;
* `ItemState.Fresh` — an item that was just started;
* `ItemState.Next` — what one step can make of an item: it stays, or is marked, tagged, counted
  into, or ended.
-/
import TestTelemetry.Proofs.Lifecycle.Step
import TestTelemetry.Proofs.Outcome.TagLog

namespace TestTelemetry

/-- What modules, suites and tests have in common. -/
structure ItemState where
  verdict : Verdict
  parts : StatusCounts
  tags : TagLog
  ended : Bool

def TestRun.state (t : TestRun) : ItemState := ⟨t.verdict, .zero, t.tags, t.ended⟩

def SuiteRun.state (s : SuiteRun) : ItemState := ⟨s.verdict, s.tests, s.tags, s.ended⟩

def ModuleRun.state (m : ModuleRun) : ItemState := ⟨.none, m.suites, m.tags, m.ended⟩

/-- A test as what it was started, without what happens to it. -/
def TestRun.origin (t : TestRun) : TestRun :=
  { t with tags := .empty, verdict := .none, ended := false }

/-- Where a test was started, and as what. -/
def TestRun.site (t : TestRun) : Nat × String × Option String := (t.suite, t.name, t.parameters)

/-- A suite as what it was started, without what happens to it. -/
def SuiteRun.origin (s : SuiteRun) : SuiteRun :=
  { s with tags := .empty, tests := .zero, verdict := .none, ended := false }

/-- Where a suite was started, and as what. -/
def SuiteRun.site (s : SuiteRun) : Option Nat × String × Option String :=
  (s.module, s.name, s.codeUnit)

theorem TestRun.site_eq_of_origin {a b : TestRun} (h : b.origin = a.origin) : b.site = a.site := by
  have hsite : b.origin.site = a.origin.site := by rw [h]
  exact hsite

theorem SuiteRun.site_eq_of_origin {a b : SuiteRun} (h : b.origin = a.origin) :
    b.site = a.site := by
  have hsite : b.origin.site = a.origin.site := by rw [h]
  exact hsite

/-- What a module was started with. -/
def ModuleRun.origin (m : ModuleRun) : ModuleDescriptor × ExecutionSettings :=
  (m.descriptor, m.settings)

/-- The item that a step marks as failed or skipped, or ends. -/
def RunStep.target? : RunStep → Option RunItem
  | failSuite n _ => some (.suite n)
  | failTest t _ => some (.test t)
  | skipSuite n _ => some (.suite n)
  | skipTest t _ => some (.test t)
  | x => x.ends?

/-- A module counts some tests that were started, and those of them that are new to it. -/
structure ModuleRun.Counts (a : ModuleRun) (names : List TestIdentifier) (b : ModuleRun) :
    Prop where
  total : b.testsTotal = a.testsTotal + names.length
  new : b.newTests = a.newTests + names.countP a.isNew

namespace ItemState

/-- The status of an item as it stands. -/
def status (v : ItemState) : Status := v.verdict.status v.parts.status

/-- An item that was just started. -/
structure Fresh (v : ItemState) : Prop where
  verdict : v.verdict = .none
  parts : v.parts = .zero
  unlocked : v.tags.closed = false
  running : v.ended = false

/-- What one step makes of an item. -/
structure Next (r : Run) (x : RunStep) (i : RunItem) (v v' : ItemState) : Prop where
  failed : v'.verdict.failure.isSome = (v.verdict.failure.isSome || x.fails i)
  skipped : v'.verdict.skipReason.isSome = (v.verdict.skipReason.isSome || x.skips i)
  parts : v'.parts = (r.partsOf i (r.outcome? x).toList).foldl StatusCounts.record v.parts
  ended : v'.ended = (v.ended || decide (x.ends? = some i))
  frozen : v.tags.closed = true → v'.tags = v.tags
  closed : v.tags.closed = v.ended → v'.tags.closed = v'.ended

end ItemState

namespace Run

variable {r : Run} {x : RunStep} {i : RunItem} {v : ItemState}

/-- An item by what it has in common with the others. -/
def state? (r : Run) : RunItem → Option ItemState
  | .module n => r.modules[n]?.map ModuleRun.state
  | .suite n => r.suites[n]?.map SuiteRun.state
  | .test n => r.tests[n]?.map TestRun.state

theorem statusOf_eq (r : Run) (i : RunItem) : r.statusOf i = (r.state? i).map ItemState.status := by
  cases i <;> simp only [statusOf, state?, Option.map_map] <;> rfl

theorem tagsOf_eq (r : Run) (i : RunItem) : r.tagsOf i = (r.state? i).map ItemState.tags := by
  cases i <;> simp only [tagsOf, state?, Option.map_map] <;> rfl

theorem hasEnded_eq (r : Run) (i : RunItem) : r.hasEnded i = (r.state? i).any ItemState.ended := by
  cases i <;> simp only [hasEnded, state?, Option.any_map] <;> rfl

theorem isRunning_eq (r : Run) (i : RunItem) :
    r.isRunning i = (r.state? i).any (!·.ended) := by
  cases i <;> simp only [isRunning, state?, Option.any_map] <;> rfl

theorem isRunning_iff : r.isRunning i = true ↔ ∃ v, r.state? i = some v ∧ v.ended = false := by
  rw [isRunning_eq, Option.any_eq_true]
  simp only [Bool.not_eq_true']

theorem hasEnded_iff : r.hasEnded i = true ↔ ∃ v, r.state? i = some v ∧ v.ended = true := by
  rw [hasEnded_eq, Option.any_eq_true]

/-! ### The parts that a step ends -/

theorem partsOf_outcome?_of_none (h : x.ends? = none) :
    r.partsOf i (r.outcome? x).toList = [] := by
  rw [outcome?, h]
  rfl

theorem partsOf_outcome?_of_not_running {j : RunItem} (he : x.ends? = some j)
    (hj : r.isRunning j = false) : r.partsOf i (r.outcome? x).toList = [] := by
  simp [outcome?, he, hj, partsOf]

/-- What ends counts for nothing that it is no part of. -/
theorem partsOf_outcome?_of_ne {j : RunItem} (he : x.ends? = some j) (hw : r.whole? j ≠ some i) :
    r.partsOf i (r.outcome? x).toList = [] := by
  refine List.filterMap_eq_nil_iff.mpr fun e hmem => if_neg ?_
  rw [Option.mem_toList, outcome?, he, Option.bind_some,
    Option.ite_none_right_eq_some, Option.map_eq_some_iff] at hmem
  obtain ⟨-, s, -, rfl⟩ := hmem
  exact hw

/-- What ends counts for the item that it is a part of. -/
theorem partsOf_outcome?_of_whole {j : RunItem} {s : Status} (he : x.ends? = some j)
    (hj : r.isRunning j = true) (hs : r.statusOf j = some s) (hw : r.whole? j = some i) :
    r.partsOf i (r.outcome? x).toList = [s] := by
  simp [outcome?, he, hj, hs, partsOf, hw]

/-- Tests have no parts. -/
theorem partsOf_test (r : Run) (t : Nat) (ends : List (RunItem × Status)) :
    r.partsOf (.test t) ends = [] := by
  refine List.filterMap_eq_nil_iff.mpr fun e _ => if_neg ?_
  cases e.1 with
  | module m => exact fun h => by cases h
  | suite n =>
    simp only [whole?, Option.bind_eq_some_iff, Option.map_eq_some_iff]
    rintro ⟨s, -, m, -, h⟩
    cases h
  | test u =>
    simp only [whole?, Option.map_eq_some_iff]
    rintro ⟨y, -, h⟩
    cases h

end Run

theorem TestRun.tags_finish (t : TestRun) (h : t.tags.closed = true) : t.finish.tags = t.tags := by
  show ((t.tags.setAll _).set _ _).close = t.tags
  rw [TagLog.setAll_of_closed h, TagLog.set_of_closed h, TagLog.close_of_closed h]

theorem SuiteRun.tags_finish (s : SuiteRun) (h : s.tags.closed = true) :
    s.finish.tags = s.tags := by
  show ((s.tags.setAll _).set _ _).close = s.tags
  rw [TagLog.setAll_of_closed h, TagLog.set_of_closed h, TagLog.close_of_closed h]

theorem ModuleRun.tags_finish (m : ModuleRun) (result : ModuleResult) (h : m.tags.closed = true) :
    (m.finish result).tags = m.tags := by
  show (m.tags.setAll _).close = m.tags
  rw [TagLog.setAll_of_closed h, TagLog.close_of_closed h]

/-! ### What may become of an item -/

theorem RunStep.spares_of_target {x : RunStep} {i : RunItem} (h : x.target? ≠ some i) :
    x.fails i = false ∧ x.skips i = false ∧ x.ends? ≠ some i := by
  cases x <;> simp_all [fails, skips, ends?, target?, eq_comm]

theorem RunStep.marks_of_ends {x : RunStep} {i : RunItem} (h : x.ends? = some i) :
    x.fails i = false ∧ x.skips i = false := by
  cases x <;> simp_all [fails, skips, ends?]

namespace ItemState.Next

variable {r : Run} {x : RunStep} {i : RunItem} {v : ItemState}

/-- A step that does not concern an item leaves it as it is. -/
theorem stay (hx : x.target? ≠ some i) (hp : r.partsOf i (r.outcome? x).toList = []) :
    v.Next r x i v where
  failed := by rw [(x.spares_of_target hx).1, Bool.or_false]
  skipped := by rw [(x.spares_of_target hx).2.1, Bool.or_false]
  parts := by rw [hp, List.foldl_nil]
  ended := by rw [decide_eq_false (x.spares_of_target hx).2.2, Bool.or_false]
  frozen := fun _ => rfl
  closed := id

/-- A step that ends an item which has ended leaves it as it is. -/
theorem stay_ended (hv : v.ended = true) (he : x.ends? = some i)
    (hp : r.partsOf i (r.outcome? x).toList = []) : v.Next r x i v where
  failed := by rw [(x.marks_of_ends he).1, Bool.or_false]
  skipped := by rw [(x.marks_of_ends he).2, Bool.or_false]
  parts := by rw [hp, List.foldl_nil]
  ended := by rw [hv, Bool.true_or]
  frozen := fun _ => rfl
  closed := id

/-- An item ends, and its log of tags is closed with it. -/
theorem finish {tags : TagLog} (hv : v.ended = false) (he : x.ends? = some i)
    (hp : r.partsOf i (r.outcome? x).toList = []) (hfrozen : v.tags.closed = true → tags = v.tags)
    (hclosed : tags.closed = true) : v.Next r x i { v with tags, ended := true } where
  failed := by rw [(x.marks_of_ends he).1, Bool.or_false]
  skipped := by rw [(x.marks_of_ends he).2, Bool.or_false]
  parts := by rw [hp, List.foldl_nil]
  ended := by rw [hv, he, decide_eq_true rfl, Bool.or_true]
  frozen := hfrozen
  closed := fun _ => hclosed

/-- An item is marked as skipped, whether it has ended or not. -/
theorem skip (reason : String) (hf : x.fails i = false) (hs : x.skips i = true)
    (he : x.ends? = none) :
    v.Next r x i { v with verdict := { v.verdict with skipReason := some reason } } where
  failed := by rw [hf, Bool.or_false]
  skipped := by rw [hs, Bool.or_true]; rfl
  parts := by rw [Run.partsOf_outcome?_of_none he, List.foldl_nil]
  ended := by rw [he, decide_eq_false nofun, Bool.or_false]
  frozen := fun _ => rfl
  closed := id

/-- An item is marked as failed, whether it has ended or not. -/
theorem fail (f : Failure) (hf : x.fails i = true) (hs : x.skips i = false)
    (he : x.ends? = none) :
    v.Next r x i { v with verdict := { v.verdict with failure := some f } } where
  failed := by rw [hf, Bool.or_true]; rfl
  skipped := by rw [hs, Bool.or_false]
  parts := by rw [Run.partsOf_outcome?_of_none he, List.foldl_nil]
  ended := by rw [he, decide_eq_false nofun, Bool.or_false]
  frozen := fun _ => rfl
  closed := id

/-- An item is tagged, unless its log of tags is closed. -/
theorem tag (key : String) (value : TagValue) (hx : x.target? = none) (he : x.ends? = none) :
    v.Next r x i { v with tags := v.tags.set key value } where
  failed := by rw [(x.spares_of_target (i := i) (by rw [hx]; nofun)).1, Bool.or_false]
  skipped := by rw [(x.spares_of_target (i := i) (by rw [hx]; nofun)).2.1, Bool.or_false]
  parts := by rw [Run.partsOf_outcome?_of_none he, List.foldl_nil]
  ended := by rw [he, decide_eq_false nofun, Bool.or_false]
  frozen := fun h => TagLog.set_of_closed h
  closed := fun h => TagLog.closed_set.trans h

/-- A part of an item ends, and its status is counted, whether the item has ended or not. -/
theorem count {status : Status} (hx : x.target? ≠ some i)
    (hp : r.partsOf i (r.outcome? x).toList = [status]) :
    v.Next r x i { v with parts := v.parts.record status } where
  failed := by rw [(x.spares_of_target hx).1, Bool.or_false]
  skipped := by rw [(x.spares_of_target hx).2.1, Bool.or_false]
  parts := by rw [hp]; rfl
  ended := by rw [decide_eq_false (x.spares_of_target hx).2.2, Bool.or_false]
  frozen := fun _ => rfl
  closed := id

end ItemState.Next

end TestTelemetry
