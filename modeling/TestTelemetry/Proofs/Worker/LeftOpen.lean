/-
What the end of a module leaves open.

The end of a module ends every test and every suite in the tables of its handler.  A test that runs
is in the table, and so is a suite of the module.  The suite that a test gets when its own is not
running belongs to no module and is in no table: nothing ever ends it.

* `createdIn`, `Handler.suites_applyAll` — the suites that a script starts are those of the handler;
* `Handler.Covers` — what still runs is in the tables or belongs to no module, kept by every step;
* `Handler.settled_finish` — what the end of a module ends, and what it does not;
* `Handler.only_detached_left_open` — what a script leaves open, and when it is nothing.
-/
import TestTelemetry.Proofs.Lifecycle.Conclusion
import TestTelemetry.Proofs.Worker.Balance
import TestTelemetry.Proofs.Worker.OneResult
import TestTelemetry.Proofs.Worker.SkipCount

namespace TestTelemetry

/-! ### Started suites -/

/-- The suite that starts, if this is what happens: an opened suite belongs to the module, and a
test outside of its suite gets one that belongs to no module. -/
def Occurrence.created? : Occurrence → Option (Option Nat × String × Option String)
  | opened a => some (some Handler.moduleNumber, a.key.name, a.key.codeUnit)
  | started x none => some (none, x.key.suite.name, x.key.suite.codeUnit)
  | _ => none

/-- The suites that start, in their order. -/
def createdIn (os : List Occurrence) : List (Option Nat × String × Option String) :=
  os.filterMap Occurrence.created?

variable {os : List Occurrence} {es : List WorkerEvent} {e : WorkerEvent}
  {site : Option Nat × String × Option String}

theorem created?_eq_some_iff {o : Occurrence} : o.created? = some site ↔
    (∃ a, o = .opened a ∧ site = (some Handler.moduleNumber, a.key.name, a.key.codeUnit)) ∨
      ∃ x, o = .started x none ∧ site = (none, x.key.suite.name, x.key.suite.codeUnit) := by
  cases o with
  | opened a => simp [Occurrence.created?, eq_comm]
  | started x home => cases home <;> simp [Occurrence.created?, eq_comm]
  | _ => simp [Occurrence.created?]

/-- A suite that starts belongs to the module or to none. -/
theorem module_of_mem_createdIn (h : site ∈ createdIn os) :
    site.1 = some Handler.moduleNumber ∨ site.1 = none := by
  obtain ⟨o, -, ho⟩ := List.mem_filterMap.mp h
  rcases created?_eq_some_iff.mp ho with ⟨a, -, rfl⟩ | ⟨x, -, rfl⟩
  · exact Or.inl rfl
  · exact Or.inr rfl

/-- A suite without a module starts with each test whose own suite is not open, and only then. -/
theorem exists_detached_iff :
    (∃ site ∈ createdIn os, site.1 = none) ↔ ∃ x, .started x none ∈ os := by
  constructor
  · rintro ⟨site, hmem, hsite⟩
    obtain ⟨o, ho, hcreated⟩ := List.mem_filterMap.mp hmem
    rcases created?_eq_some_iff.mp hcreated with ⟨a, -, rfl⟩ | ⟨x, rfl, -⟩
    · cases hsite
    · exact ⟨x, ho⟩
  · rintro ⟨x, hx⟩
    exact ⟨_, List.mem_filterMap.mpr ⟨_, hx, rfl⟩, rfl⟩

theorem createdIn_concat (es : List WorkerEvent) (e : WorkerEvent) :
    createdIn (occurrences (es ++ [e])) = createdIn (occurrences es) ++
      ((occurrence? es e).bind Occurrence.created?).toList :=
  filterMap_occurrences_concat Occurrence.created? es e

namespace Handler

variable {h : Handler} {x : HandlerStep} {n : Nat}

theorem creates_nothing (he : canStart (.event e) = false) :
    (occurrence? es e).bind Occurrence.created? = none := by
  refine Option.bind_eq_none_iff.mpr fun o ho => ?_
  refine Option.eq_none_iff_forall_ne_some.mpr fun site hsite => ?_
  have harises := occurrence?_eq_some_iff.mp ho
  rcases created?_eq_some_iff.mp hsite with ⟨a, rfl, -⟩ | ⟨x, rfl, -⟩
  · obtain ⟨⟨parallelized, rfl⟩, -⟩ := harises
    cases he
  · obtain ⟨rfl, -⟩ := harises
    cases he

/-- An event starts the suite that starts in the script. -/
theorem startedSuites_event (ht : h.Tracks es) (hm : moduleNumber < h.run.modules.length)
    (e : WorkerEvent) : h.run.startedSuites (h.operations (.event e)) =
      ((occurrence? es e).bind Occurrence.created?).toList := by
  have hnone : canStart (.event e) = false → h.run.startedSuites (h.operations (.event e)) =
      ((occurrence? es e).bind Occurrence.created?).toList := fun he => by
    rw [creates_nothing he]
    exact Run.startedSuites_eq_nil
      (fun _ hy r => (starts_nothing_of_mem_operations he hy r).1) h.run
  cases e with
  | suiteStart s parallelized =>
    have hfirst := ht.keeps.isFirst_iff s
    by_cases hl : (suiteClock es s).level = 0
    · rw [operations, if_pos (hfirst.mpr hl), occurrence?, if_pos hl]
      simp [Run.startedSuites, Run.newSuite?, hm, Occurrence.created?]
    · rw [operations, if_neg (mt hfirst.mp hl), occurrence?, if_neg hl]
      rfl
  | testStart t =>
    have hcontains := ht.keeps.contains_iff t
    by_cases hl : (testClock es t).level = 0
    · rw [operations, if_neg (fun hc => hcontains.mp hc hl), occurrence?, if_pos hl]
      cases hs : suiteSpan? es t.suite with
      | none =>
        rw [ht.keeps.suite_eq_none hs]
        rfl
      | some a =>
        have hkey : a.key = t.suite := Clock.key_of_span? hs
        obtain ⟨m, hfind, -⟩ := ht.keeps.exists_suite (hkey ▸ hs)
        rw [← hkey, hfind]
        rfl
    · rw [operations, if_pos (hcontains.mpr hl), occurrence?, if_neg hl]
      rfl
  | _ => exact hnone rfl

/-- The suites of a handler are those that its script starts. -/
theorem suites_applyAll (d : ModuleDescriptor) (settings : ExecutionSettings)
    (es : List WorkerEvent) :
    ((start d settings).applyAll es).run.suites.map SuiteRun.site =
      createdIn (occurrences es) := by
  induction es using List.reverseRecOn with
  | nil => rfl
  | append_singleton es e ih =>
    have ht := tracks_applyAll d settings es
    have hr : ((start d settings).applyAll es).Registers :=
      follow_events (start d settings) es ▸ registers_follow d settings (es.map .event)
    have hstep : (start d settings).applyAll (es ++ [e]) =
        ((start d settings).applyAll es).step (.event e) := List.foldl_append
    rw [hstep, sites_step, ih, startedSuites_event ht hr.module, createdIn_concat]

/-! ### What still runs -/

/-- A step starts no test, or one that was not in the table. -/
theorem startedTests_cases (h : Handler) (x : HandlerStep) :
    h.run.startedTests (h.operations x) = [] ∨
      ∃ key, h.startsTest key x = true ∧
        (h.run.startedTests (h.operations x)).length ≤ 1 := by
  have hnone : canStart x = false → h.run.startedTests (h.operations x) = [] := fun hx =>
    Run.startedTests_eq_nil (fun _ hy r => (starts_nothing_of_mem_operations hx hy r).2) h.run
  cases x with
  | finish => exact Or.inl (hnone rfl)
  | event e =>
    cases e with
    | testStart t =>
      rw [operations]
      by_cases hruns : h.tests.contains t = true
      · rw [if_pos hruns]
        exact Or.inl rfl
      · rw [if_neg hruns]
        refine Or.inr ⟨t, by simp [startsTest, hruns], ?_⟩
        cases h.suites.find? t.suite <;> simp [Run.startedTests, Run.newTest?]
    | suiteStart s parallelized =>
      rw [operations]
      split <;> exact Or.inl rfl
    | _ => exact Or.inl (hnone rfl)

/-- A test that one step starts is in the table after it. -/
theorem find?_of_new (hnone : h.run.tests[n]? = none) {t : TestRun}
    (ht : (h.step x).run.tests[n]? = some t) :
    ∃ key, (h.step x).tests.find? key = some n := by
  have hlen : (h.step x).run.tests.length =
      h.run.tests.length + (h.run.startedTests (h.operations x)).length := by
    have hsites := congrArg List.length (h.run.testSites_follow (h.operations x))
    rwa [← run_step, List.length_append, List.length_map, List.length_map] at hsites
  have hold : h.run.tests.length ≤ n := List.getElem?_eq_none_iff.mp hnone
  have hlt : n < (h.step x).run.tests.length := (List.getElem?_eq_some_iff.mp ht).1
  obtain hnil | ⟨key, hstarts, hone⟩ := h.startedTests_cases x
  · rw [hlen, hnil] at hlt
    exact absurd hlt (Nat.not_lt.mpr hold)
  · have hn : h.run.tests.length = n := by omega
    exact ⟨key, by rw [find?_tests_step, if_pos hstarts, hn]⟩

/-- A test in the table is not started again. -/
theorem not_startsTest {key : TestKey} (hn : h.tests.find? key = some n) (x : HandlerStep) :
    ¬ h.startsTest key x = true := by
  intro hstarts
  cases x with
  | finish => cases hstarts
  | event e =>
    cases e with
    | testStart t =>
      simp only [startsTest, Bool.and_eq_true, Bool.not_eq_true', decide_eq_true_eq] at hstarts
      obtain ⟨hnew, rfl⟩ := hstarts
      rw [Keyed.contains, hn] at hnew
      cases hnew
    | _ => cases hstarts

/-- A step that finishes a test ends it if it is in the table. -/
theorem endCount_test_pos {key : TestKey} (hn : h.tests.find? key = some n)
    (hx : finishesTest key x = true) : 0 < RunStep.endCount (.test n) (h.operations x) := by
  have hmem : .endTest n ∈ h.operations x := by
    cases x with
    | finish =>
      have hvalue : n ∈ h.tests.values :=
        List.mem_map.mpr ⟨(key, n), Keyed.find?_eq_some_iff.mp hn, rfl⟩
      exact List.mem_append_left _ (List.mem_append_left _ (List.mem_map_of_mem hvalue))
    | event e =>
      cases e with
      | testFinish t =>
        obtain rfl := of_decide_eq_true hx
        rw [operations, hn]
        exact List.mem_singleton.mpr rfl
      | _ => cases hx
  exact List.countP_pos_iff.mpr ⟨_, hmem, decide_eq_true rfl⟩

/-- What of a run has not ended: every such test is in the table of the handler, and every suite
that belongs to no module runs. -/
structure Covers (h : Handler) : Prop where
  test : ∀ (n : Nat) t, h.run.tests[n]? = some t → t.ended = false →
    ∃ key, h.tests.find? key = some n
  detached : ∀ (n : Nat) s, h.run.suites[n]? = some s → s.module = none → s.ended = false

/-- A suite that belongs to no module is in no table, so that no step ends it. -/
theorem endCount_detached (hr : h.Registers) {a : SuiteRun} (ha : h.run.suites[n]? = some a)
    (hdetached : a.module = none) (x : HandlerStep) :
    RunStep.endCount (.suite n) (h.operations x) = 0 := by
  refine endCount_of_unknown (fun key hkey => ?_) x
  obtain ⟨b, hb, -, hmodule, -⟩ := hr.suite key n hkey
  obtain rfl : b = a := Option.some_inj.mp (hb.symm.trans ha)
  rw [hdetached] at hmodule
  cases hmodule

theorem covers_start (d : ModuleDescriptor) (settings : ExecutionSettings) :
    (start d settings).Covers where
  test := fun _ _ ht => absurd ht.symm (Option.some_ne_none _)
  detached := fun _ _ hs => absurd hs.symm (Option.some_ne_none _)

/-- One step keeps what still runs in the tables, except for suites without a module. -/
theorem Covers.step (hh : h.Covers) (hr : h.Registers) (x : HandlerStep) :
    (h.step x).Covers where
  test := by
    intro n t ht hrunning
    cases ha : h.run.tests[n]? with
    | none => exact find?_of_new ha ht
    | some a =>
      obtain ⟨b, hb, -, hended⟩ := Run.test_follow ha (h.operations x)
      rw [← run_step] at hb
      obtain rfl : b = t := Option.some_inj.mp (hb.symm.trans ht)
      rw [hrunning, eq_comm, Bool.or_eq_false_iff, decide_eq_false_iff_not] at hended
      obtain ⟨key, hkey⟩ := hh.test n a ha hended.1
      -- The test was in the table, where it is neither started again nor finished.
      have hfinishes : ¬ finishesTest key x = true := fun hx =>
        hended.2 (endCount_test_pos hkey hx)
      exact ⟨key, by rw [find?_tests_step, if_neg (not_startsTest hkey x), if_neg hfinishes, hkey]⟩
  detached := by
    intro n s hs hmodule
    cases ha : h.run.suites[n]? with
    | none =>
      have hends : RunStep.endCount (.suite n) (h.operations x) = 0 :=
        endCount_of_unknown (hr.unknown_of_none ha) x
      exact Run.running_of_new ha (run_step h x ▸ hs) hends
    | some a =>
      obtain ⟨b, hb, hsite, hended⟩ := Run.suite_follow ha (h.operations x)
      rw [← run_step] at hb
      obtain rfl : b = s := Option.some_inj.mp (hb.symm.trans hs)
      have hamodule : a.module = none := (congrArg Prod.fst hsite).symm.trans hmodule
      rw [hended, hh.detached n a ha hamodule, endCount_detached hr ha hamodule]
      rfl

theorem covers_follow (d : ModuleDescriptor) (settings : ExecutionSettings)
    (steps : List HandlerStep) : ((start d settings).follow steps).Covers := by
  induction steps using List.reverseRecOn with
  | nil => exact covers_start d settings
  | append_singleton steps x ih =>
    exact follow_concat .. ▸ ih.step (registers_follow d settings steps) x

/-! ### Tags -/

/-- A handler writes no tags: they are written when something starts and when it ends. -/
theorem tags_of_mem_operations {y : RunStep} (hy : y ∈ h.operations x) : y.tags = false := by
  cases x with
  | finish => simp only [operations] at hy; grind [RunStep.tags]
  | event e => cases e <;> simp only [operations] at hy <;> grind [RunStep.tags]

theorem tags_of_mem_work {steps : List HandlerStep} {y : RunStep} (hy : y ∈ h.work steps) :
    y.tags = false := by
  induction steps generalizing h with
  | nil => cases hy
  | cons x rest ih => exact (List.mem_append.mp hy).elim tags_of_mem_operations ih

/-! ### After the end of the module -/

/-- The end of a module starts nothing. -/
theorem sites_finishModule (h : Handler) :
    h.finishModule.1.run.suites.map SuiteRun.site = h.run.suites.map SuiteRun.site ∧
      h.finishModule.1.run.tests.map TestRun.site = h.run.tests.map TestRun.site := by
  have hstep : h.finishModule.1.run = h.run.follow (h.operations .finish) := run_step h .finish
  have hnothing : ∀ y ∈ h.operations .finish, ∀ r : Run, r.newSuite? y = none ∧
      r.newTest? y = none := fun y hy => starts_nothing_of_mem_operations rfl hy
  rw [hstep, Run.sites_follow, Run.testSites_follow,
    Run.startedSuites_eq_nil fun y hy r => (hnothing y hy r).1,
    Run.startedTests_eq_nil fun y hy r => (hnothing y hy r).2, List.append_nil, List.append_nil]
  exact ⟨rfl, rfl⟩

/-- The run of a handler comes about from nothing without any tag being written. -/
theorem exists_follow_empty (d : ModuleDescriptor) (settings : ExecutionSettings)
    (steps : List HandlerStep) : ∃ work, ((start d settings).follow steps).run =
      Run.empty.follow work ∧ ∀ y ∈ work, y.tags = false :=
  ⟨.startModule d settings :: (start d settings).work steps, run_follow _ steps,
    List.forall_mem_cons.mpr ⟨rfl, fun _ hy => tags_of_mem_work hy⟩⟩

/-- What has become of the tests and the suites when the last thing that happened is the end of the
module. -/
structure Settled (r : Run) : Prop where
  test : ∀ n < r.tests.length, r.Concluded (.test n)
  attached : ∀ (n : Nat) s, r.suites[n]? = some s → s.module = some moduleNumber →
    r.Concluded (.suite n)
  detached : ∀ (n : Nat) s, r.suites[n]? = some s → s.module = none → r.LeftOpen (.suite n)

theorem settled_finish (d : ModuleDescriptor) (settings : ExecutionSettings)
    (steps : List HandlerStep) :
    Settled ((start d settings).follow steps).finishModule.1.run := by
  have hlast : ((start d settings).follow steps).finishModule.1 =
      (start d settings).follow (steps ++ [.finish]) :=
    (follow_concat (start d settings) steps .finish).symm
  obtain ⟨work, hrun, htags⟩ := exists_follow_empty d settings (steps ++ [.finish])
  have hcovers := covers_follow d settings (steps ++ [.finish])
  have hbalanced := balanced_follow d settings (steps ++ [.finish])
  have hconcluded : ∀ i : RunItem, (∀ m, i ≠ .module m) →
      (Run.empty.follow work).hasEnded i = true → (Run.empty.follow work).Concluded i :=
    fun i hi => Run.concluded_of_hasEnded hi
  have huntold : ∀ s ∈ (Run.empty.follow work).suites, s.Untold :=
    Run.untold_follow htags fun s hs => absurd hs List.not_mem_nil
  rw [← hlast] at hrun hcovers hbalanced
  rw [← hrun] at hconcluded huntold
  -- The tables are empty, so that what they cover has ended.
  constructor
  case test =>
    intro n hn
    have ht := List.getElem?_eq_getElem hn
    refine hconcluded _ (fun _ hi => by cases hi) ?_
    rw [Run.hasEnded, ht, Option.any_some]
    by_contra hrunning
    obtain ⟨key, hkey⟩ := hcovers.test n _ ht (Bool.eq_false_iff.mpr hrunning)
    cases hkey
  case attached =>
    intro n s hs hmodule
    refine hconcluded _ (fun _ hi => by cases hi) ?_
    rw [Run.hasEnded, hs, Option.any_some]
    exact (if_neg (Option.some_ne_none n).symm ▸ hbalanced.suite n s hs hmodule).1
  case detached =>
    intro n s hs hmodule
    have hrunning : s.ended = false := hcovers.detached n s hs hmodule
    refine ⟨Run.isRunning_suite_iff.mpr ⟨s, hs, hrunning⟩, s.tags, ?_,
      huntold s (List.mem_of_getElem? hs) hrunning⟩
    rw [Run.tagsOf, hs, Option.map_some]

/-- **The end of a module leaves open just the suites without a module.**  Whatever events come, and
in whatever order the end of the module ends what still runs: the tests and the suites that there
are then are those that the script starts, every test and every suite of the module has ended and
tells its status, and every suite that belongs to no module runs and tells none.  So nothing is left
open if and only if no test was started while its suite was not open. -/
theorem only_detached_left_open (d : ModuleDescriptor) (settings : ExecutionSettings)
    (es : List WorkerEvent) (tests : List (TestKey × Nat)) (suites : List (SuiteKey × Nat))
    (htests : tests.Perm ((start d settings).applyAll es).tests.entries)
    (hsuites : suites.Perm ((start d settings).applyAll es).suites.entries) :
    let run := (((start d settings).applyAll es).finishInOrder tests suites).1.run
    run.tests.map (fun t => (t.name, t.parameters)) =
        (startsIn (occurrences es)).map calledAs ∧
      run.suites.map SuiteRun.site = createdIn (occurrences es) ∧
      (∀ n < run.tests.length, run.Concluded (.test n)) ∧
      (∀ (n : Nat) s, run.suites[n]? = some s →
        if s.module = none then run.LeftOpen (.suite n) else run.Concluded (.suite n)) ∧
      (((∀ n < run.tests.length, run.Concluded (.test n)) ∧
          ∀ n < run.suites.length, run.Concluded (.suite n)) ↔
        ∀ x, .started x none ∉ occurrences es) := by
  intro run
  have hrun : run = ((start d settings).applyAll es).finishModule.1.run :=
    congrArg (fun e => e.1.run) (finishInOrder_eq _ htests hsuites)
  obtain ⟨hsuiteSites, htestSites⟩ := sites_finishModule ((start d settings).applyAll es)
  have hsettled : Settled run := by
    rw [hrun, ← follow_events]
    exact settled_finish d settings (es.map .event)
  have hsites : run.suites.map SuiteRun.site = createdIn (occurrences es) := by
    rw [hrun, hsuiteSites, suites_applyAll]
  have hnames : run.tests.map (fun t => (t.name, t.parameters)) =
      (startsIn (occurrences es)).map calledAs := by
    rw [← tests_applyAll d settings es]
    have hsnd := congrArg (List.map Prod.snd) htestSites
    rw [List.map_map, List.map_map, ← hrun] at hsnd
    exact hsnd
  have hsuite : ∀ (n : Nat) s, run.suites[n]? = some s →
      if s.module = none then run.LeftOpen (.suite n) else run.Concluded (.suite n) := by
    intro n s hs
    have hmem : s.site ∈ createdIn (occurrences es) :=
      hsites ▸ List.mem_map_of_mem (List.mem_of_getElem? hs)
    split
    case isTrue hmodule => exact hsettled.detached n s hs hmodule
    case isFalse hmodule =>
      exact hsettled.attached n s hs ((module_of_mem_createdIn hmem).resolve_right hmodule)
  refine ⟨hnames, hsites, hsettled.test, hsuite, ?_⟩
  have hdetached : (∃ s ∈ run.suites, s.module = none) ↔ ∃ x, .started x none ∈ occurrences es := by
    rw [← exists_detached_iff, ← hsites]
    simp only [List.mem_map, exists_exists_and_eq_and]
    rfl
  rw [← not_exists, ← hdetached, not_exists]
  constructor
  · rintro ⟨-, hall⟩ s ⟨hs, hmodule⟩
    obtain ⟨n, hn, rfl⟩ := List.mem_iff_getElem.mp hs
    exact (hsettled.detached n _ (List.getElem?_eq_getElem hn) hmodule).not_concluded (hall n hn)
  · refine fun hnone => ⟨hsettled.test, fun n hn => ?_⟩
    have hs := hsuite n _ (List.getElem?_eq_getElem hn)
    rwa [if_neg fun hmodule => hnone _ ⟨List.getElem_mem hn, hmodule⟩] at hs

/-- A suite with two running tests is open when the module ends, which ends them in another order
than they were started in.  A test outside of any suite was finished before, and its suite is the
one that is left open. -/
theorem open_suite_ends_with_module :
    let suite : SuiteKey := ⟨"S", none⟩
    let t : TestKey := ⟨suite, "t", none, none⟩
    let u : TestKey := ⟨suite, "u", none, none⟩
    let lone : TestKey := ⟨⟨"O", none⟩, "o", none, none⟩
    let es : List WorkerEvent := [.testStart lone, .testFinish lone, .suiteStart suite false,
      .testStart t, .testStart u]
    let run := (((start default .initial).applyAll es).finishInOrder [(u, 2), (t, 1)]
      [(suite, 1)]).1.run
    run.suites.map SuiteRun.site = [(none, "O", none), (some 0, "S", none)] ∧
      run.LeftOpen (.suite 0) ∧ run.Concluded (.suite 1) ∧
      ∀ n < 3, run.Concluded (.test n) := by
  intro suite t u lone es
  obtain ⟨hnames, hsites, htests, hsuites, -⟩ := only_detached_left_open default .initial es
    [(u, 2), (t, 1)] [(suite, 1)] (by decide) (by decide)
  have hcreated : createdIn (occurrences es) = [(none, "O", none), (some 0, "S", none)] := by
    decide
  have hstarted : (startsIn (occurrences es)).length = 3 := by decide
  have hcount := congrArg List.length hnames
  rw [List.length_map, List.length_map, hstarted] at hcount
  rw [hcount] at htests
  rw [hcreated] at hsites
  obtain ⟨a, rest, hrun, ha, hrest⟩ := List.map_eq_cons_iff.mp hsites
  obtain ⟨b, hb, hbsite⟩ := List.map_eq_singleton_iff.mp hrest
  have hamodule : a.module = none := congrArg Prod.fst ha
  have hbmodule : b.module ≠ none := by
    rw [show b.module = some 0 from congrArg Prod.fst hbsite]
    exact Option.some_ne_none 0
  have hopen := hsuites 0 a (by rw [hrun]; rfl)
  have hended := hsuites 1 b (by rw [hrun, hb]; rfl)
  rw [if_pos hamodule] at hopen
  rw [if_neg hbmodule] at hended
  exact ⟨hsites, hopen, hended, htests⟩

/-- A test whose suite is not open starts and finishes: once the module has ended, the suite that
the test got still runs, and its tags tell no status. -/
theorem suite_of_lone_test_stays_open :
    let test : TestKey := ⟨⟨"S", none⟩, "t", none, none⟩
    let es : List WorkerEvent := [.testStart test, .testFinish test]
    let run := ((start default .initial).applyAll es).finishModule.1.run
    run.tests.length = 1 ∧ run.hasEnded (.test 0) = true ∧ run.hasEnded (.module 0) = true ∧
      run.suites.length = 1 ∧ run.hasEnded (.suite 0) = false ∧
      (run.tagsOf (.suite 0)).map (·.get Tag.status) = some none ∧
      ¬ ∀ n < run.suites.length, run.Concluded (.suite n) := by
  intro test es run
  have hrunning : run.hasEnded (.suite 0) = false := by decide
  refine ⟨by decide, by decide, by decide, by decide, hrunning, rfl, fun hall => ?_⟩
  obtain ⟨hended, -⟩ := hall 0 (by decide)
  rw [hrunning] at hended
  cases hended

end Handler

end TestTelemetry
