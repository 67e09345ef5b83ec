/-
What is open, and what was ended.

Whatever events come, and however often the module is ended in between, the tables of a handler say
what is open: every number in them stands for what its key says, and every suite that was started
for a key ends once, when the depth of the key comes back to zero.

* `Handler.Registers.step` — the numbers in the tables stay good;
* `Handler.rises`, `Handler.started_follow` — a key has started as many suites as its depth has
  left zero;
* `Handler.Balanced` — every suite that was started is in the table, or it was ended once;
* `Handler.tables_agree` — all of it, for every handler that is reached.
-/
import TestTelemetry.Proofs.Worker.Tables

namespace TestTelemetry

namespace Run

variable {r : Run}

/-- A suite that was just started in the module of a handler. -/
theorem holdsSuite_startSuite (hm : Handler.moduleNumber < r.modules.length) (key : SuiteKey)
    (parallelized : Bool) :
    (r.startSuite Handler.moduleNumber key.name key.codeUnit parallelized).HoldsSuite key
      r.suites.length := by
  have hmodule : r.modules[Handler.moduleNumber]? = some r.modules[Handler.moduleNumber] :=
    List.getElem?_eq_getElem hm
  refine ⟨_, List.getElem?_concat_length, rfl, ?_, rfl⟩
  rw [hmodule]
  rfl

/-- A test that was just started in a suite. -/
theorem holdsTest_startTest {key : TestKey} {n : Nat} {s : SuiteRun} (hs : r.suites[n]? = some s)
    (hname : s.name = key.suite.name) :
    (r.startTest n key.name key.parameters).HoldsTest key r.tests.length := by
  simp only [startTest, hs]
  exact ⟨_, s, List.getElem?_concat_length, rfl, rfl, rfl, hs, hname⟩

end Run

namespace Handler

variable {h : Handler} {x : HandlerStep} {n : Nat} {es : List WorkerEvent}

/-! ### Depths -/

/-- A key is in the table if and only if it is open. -/
theorem Keeps.depth_eq_zero_iff (hk : h.Keeps es) (key : SuiteKey) :
    h.activations.depth key = 0 ↔ h.suites.find? key = none := by
  rw [hk.depth, hk.suite]

theorem Keeps.opens?_eq_none (hk : h.Keeps es) {key : SuiteKey}
    (hn : h.suites.find? key = some n) (x : HandlerStep) : h.opens? x ≠ some key := by
  intro hopens
  obtain ⟨parallelized, -, hfirst⟩ := of_opens? hopens
  rw [(hk.depth_eq_zero_iff key).mp (of_decide_eq_true hfirst)] at hn
  cases hn

/-- A step closes a key of the table if and only if the depth of the key is zero after it. -/
theorem closes_iff (hk : h.Keeps es) {es' : List WorkerEvent} (hk' : (h.step x).Keeps es')
    {key : SuiteKey} (hn : h.suites.find? key = some n) :
    h.closes key x = true ↔ (h.step x).activations.depth key = 0 := by
  rw [hk'.depth_eq_zero_iff, find?_suites_step, if_neg (hk.opens?_eq_none hn x)]
  by_cases hc : h.closes key x = true
  · simp [hc]
  · simp [hc, hn]

/-- A step starts a suite for a key if and only if the depth of the key goes from zero to one. -/
theorem opens?_iff {key : SuiteKey} : h.opens? x = some key ↔
    h.activations.depth key = 0 ∧ (h.step x).activations.depth key = 1 := by
  rw [depth_step]
  cases x with
  | finish =>
    refine iff_of_false (Option.some_ne_none _).symm ?_
    rintro ⟨hzero, hone⟩
    simp [hzero] at hone
  | event e =>
    cases e with
    | suiteStart s parallelized =>
      simp only [opens?, Activations.isFirst, decide_eq_true_eq, Option.ite_none_right_eq_some,
        Option.some_inj]
      constructor
      · rintro ⟨hzero, rfl⟩
        exact ⟨hzero, by rw [hzero, if_pos rfl]⟩
      · rintro ⟨hzero, hone⟩
        by_cases hs : s = key
        · exact ⟨hs ▸ hzero, hs⟩
        · rw [hzero, if_neg hs] at hone
          cases hone
    | _ =>
      refine iff_of_false (Option.some_ne_none _).symm ?_
      rintro ⟨hzero, hone⟩
      simp [hzero] at hone

/-! ### The numbers in the tables -/

theorem registers_start (d : ModuleDescriptor) (settings : ExecutionSettings) :
    (start d settings).Registers where
  module := Nat.zero_lt_one
  suite := fun _ _ hn => absurd hn.symm (Option.some_ne_none _)
  test := fun _ _ hn => absurd hn.symm (Option.some_ne_none _)
  test_unique := fun _ _ _ hn => absurd hn.symm (Option.some_ne_none _)

/-- One step keeps the numbers in the tables good. -/
theorem Registers.step (hr : h.Registers) (x : HandlerStep) : (h.step x).Registers where
  module := by
    rw [run_step]
    exact Nat.lt_of_lt_of_le hr.module (h.run.length_modules_follow _)
  suite := by
    intro key n hn
    rw [find?_suites_step] at hn
    split at hn
    case isTrue hopens =>
      obtain rfl := Option.some_inj.mp hn
      obtain ⟨parallelized, rfl, hfirst⟩ := of_opens? hopens
      rw [run_step, operations, if_pos hfirst]
      exact Run.holdsSuite_startSuite hr.module key parallelized
    case isFalse =>
      -- The suite was in the table before, and only the step that takes it out ends it.
      obtain ⟨hopen, hn⟩ := Option.ite_none_left_eq_some.mp hn
      rw [run_step]
      refine (hr.suite key n hn).follow ?_
      rw [endCount_suite hr hn, if_neg hopen]
  test := by
    intro key n hn
    rw [find?_tests_step] at hn
    split at hn
    case isTrue hstarts =>
      obtain rfl := Option.some_inj.mp hn
      cases x with
      | finish => cases hstarts
      | event e =>
        cases e with
        | testStart t =>
          simp only [startsTest, Bool.and_eq_true, Bool.not_eq_true', decide_eq_true_eq] at hstarts
          obtain ⟨hnew, rfl⟩ := hstarts
          rw [run_step, operations, if_neg (Bool.eq_false_iff.mp hnew)]
          cases hs : h.suites.find? t.suite with
          | some m =>
            obtain ⟨s, hfind, -, -, hkey⟩ := hr.suite _ _ hs
            exact Run.holdsTest_startTest hfind (congrArg SuiteKey.name hkey)
          | none =>
            -- The test has a suite of its own, which was started just before.
            exact Run.holdsTest_startTest (r := h.run.startDetached t.suite.name t.suite.codeUnit)
              List.getElem?_concat_length rfl
        | _ => cases hstarts
    case isFalse =>
      obtain ⟨hruns, hn⟩ := Option.ite_none_left_eq_some.mp hn
      rw [run_step]
      refine (hr.test key n hn).follow (endCount_of_not_ends ?_)
      rintro ⟨j, hj, hfinishes⟩
      obtain rfl := hr.test_unique j key n hj hn
      exact hruns hfinishes
  test_unique := by
    intro j k n hj hk
    -- A new test gets a number that no test in the table has.
    have hnew : ∀ key, h.tests.find? key ≠ some h.run.tests.length := by
      intro key hkey
      obtain ⟨t, -, ht, -⟩ := hr.test _ _ hkey
      exact Nat.lt_irrefl _ (List.getElem?_eq_some_iff.mp ht).1
    have hcases : ∀ key, (h.step x).tests.find? key = some n →
        (h.startsTest key x = true ∧ n = h.run.tests.length) ∨ h.tests.find? key = some n := by
      intro key hn
      rw [find?_tests_step] at hn
      split at hn
      case isTrue hstarts => exact Or.inl ⟨hstarts, (Option.some_inj.mp hn).symm⟩
      case isFalse => exact Or.inr (Option.ite_none_left_eq_some.mp hn).2
    rcases hcases j hj with ⟨hjs, rfl⟩ | hj
    · rcases hcases k hk with ⟨hks, -⟩ | hk
      · exact startsTest_unique hjs hks
      · exact absurd hk (hnew k)
    · rcases hcases k hk with ⟨-, rfl⟩ | hk
      · exact absurd hj (hnew j)
      · exact hr.test_unique j k n hj hk

/-! ### The suites that were started -/

/-- How many suites of the module were started for a key. -/
def started (h : Handler) (key : SuiteKey) : Nat :=
  h.run.suites.countP fun s => decide (s.site = (some moduleNumber, key.name, key.codeUnit))

/-- How often the depth of a key goes from zero to one along some steps. -/
def rises (h : Handler) (key : SuiteKey) : List HandlerStep → Nat
  | [] => 0
  | x :: rest =>
    (if h.activations.depth key = 0 ∧ (h.step x).activations.depth key = 1 then 1 else 0) +
      (h.step x).rises key rest

/-- One step starts a suite of the module if it opens a key, and no other. -/
theorem startedSuites_operations (hm : moduleNumber < h.run.modules.length) (x : HandlerStep) :
    (h.run.startedSuites (h.operations x)).filter (fun s => decide (s.1 = some moduleNumber)) =
      (h.opens? x).toList.map fun key => (some moduleNumber, key.name, key.codeUnit) := by
  have hnone : canStart x = false → h.run.startedSuites (h.operations x) = [] := fun hx =>
    Run.startedSuites_eq_nil (fun _ hy r => (starts_nothing_of_mem_operations hx hy r).1) h.run
  cases x with
  | finish =>
    rw [hnone rfl]
    rfl
  | event e =>
    cases e with
    | suiteStart s parallelized =>
      by_cases hfirst : h.activations.isFirst s = true
      · simp [operations, opens?, hfirst, Run.startedSuites, Run.newSuite?, hm]
      · simp [operations, opens?, hfirst, Run.startedSuites]
    | testStart t =>
      -- A suite that a test gets for itself belongs to no module.
      simp only [operations]
      split
      · rfl
      · cases h.suites.find? t.suite <;> rfl
    | _ =>
      rw [hnone rfl]
      rfl

/-- The suites after one step. -/
theorem sites_step (h : Handler) (x : HandlerStep) :
    (h.step x).run.suites.map SuiteRun.site =
      h.run.suites.map SuiteRun.site ++ h.run.startedSuites (h.operations x) := by
  rw [run_step, Run.sites_follow]

/-- One step starts one suite for a key if it opens the key, and none else. -/
theorem started_step (hm : moduleNumber < h.run.modules.length) (x : HandlerStep)
    (key : SuiteKey) : (h.step x).started key =
      h.started key + if h.opens? x = some key then 1 else 0 := by
  have hcount : ∀ h : Handler, h.started key = (h.run.suites.map SuiteRun.site).countP
      fun site => decide (site = (some moduleNumber, key.name, key.codeUnit)) := by
    intro h
    rw [List.countP_map]
    rfl
  -- Detached suites may have the same name, but they are not counted.
  have hattached : ∀ sites : List (Option Nat × String × Option String),
      sites.countP (fun site => decide (site = (some moduleNumber, key.name, key.codeUnit))) =
        (sites.filter fun site => decide (site.1 = some moduleNumber)).countP
          fun site => decide (site = (some moduleNumber, key.name, key.codeUnit)) := by
    intro sites
    rw [List.countP_filter]
    refine List.countP_congr fun site _ => ?_
    simp only [decide_eq_true_eq, Bool.and_eq_true]
    exact ⟨fun hsite => ⟨hsite, congrArg Prod.fst hsite⟩, And.left⟩
  rw [hcount, hcount, sites_step, List.countP_append, hattached (h.run.startedSuites _),
    startedSuites_operations hm]
  cases hopens : h.opens? x with
  | none => rfl
  | some j =>
    by_cases hj : j = key
    · simp [hj]
    · have hne : ¬ (j.name = key.name ∧ j.codeUnit = key.codeUnit) := by
        rintro ⟨hname, hcodeUnit⟩
        exact hj (by cases j; cases key; simp_all)
      simp [hj, hne]

/-- A key has started as many suites as its depth has gone from zero to one. -/
theorem started_follow (hm : moduleNumber < h.run.modules.length) (steps : List HandlerStep)
    (key : SuiteKey) : (h.follow steps).started key = h.started key + h.rises key steps := by
  induction steps generalizing h with
  | nil => rfl
  | cons x rest ih =>
    have hm' : moduleNumber < (h.step x).run.modules.length := by
      rw [run_step]
      exact Nat.lt_of_lt_of_le hm (h.run.length_modules_follow _)
    show ((h.step x).follow rest).started key = _
    rw [ih hm', started_step hm, rises, Nat.add_assoc]
    simp only [opens?_iff]

/-! ### How often suites were ended -/

/-- Every suite of the module is in the table and was not ended, or it was ended once and is not in
the table any more. -/
structure Balanced (h : Handler) (work : List RunStep) : Prop where
  suite : ∀ (n : Nat) s, h.run.suites[n]? = some s → s.module = some moduleNumber →
    if h.suites.find? s.key = some n then s.ended = false ∧ RunStep.endCount (.suite n) work = 0
    else s.ended = true ∧ RunStep.endCount (.suite n) work = 1
  later : ∀ n, h.run.suites[n]? = none → RunStep.endCount (.suite n) work = 0

/-- A suite of the module that one step starts is in the table after it. -/
theorem find?_of_started (hr : h.Registers) {s : SuiteRun} (hnone : h.run.suites[n]? = none)
    (hs : (h.step x).run.suites[n]? = some s) (hmodule : s.module = some moduleNumber) :
    (h.step x).suites.find? s.key = some n := by
  have hlen : h.run.suites.length ≤ n := List.getElem?_eq_none_iff.mp hnone
  -- What is behind the old suites was started by this step.
  have hsite : s.site ∈ h.run.startedSuites (h.operations x) := by
    have hmap : ((h.step x).run.suites.map SuiteRun.site)[n]? = some s.site := by
      rw [List.getElem?_map, hs]
      rfl
    rw [sites_step, List.getElem?_append_right (by rwa [List.length_map])] at hmap
    exact List.mem_of_getElem? hmap
  have hopened : s.site ∈ (h.opens? x).toList.map
      fun key => (some moduleNumber, key.name, key.codeUnit) := by
    rw [← startedSuites_operations hr.module]
    exact List.mem_filter.mpr ⟨hsite, decide_eq_true hmodule⟩
  obtain ⟨key, hkey, heq⟩ := List.mem_map.mp hopened
  have hopens : h.opens? x = some key := Option.mem_toList.mp hkey
  have hskey : s.key = key := by
    simp only [SuiteRun.site, Prod.mk.injEq] at heq
    rw [SuiteRun.key, ← heq.2.1, ← heq.2.2]
  obtain ⟨parallelized, rfl, hfirst⟩ := of_opens? hopens
  have hlast : n < h.run.suites.length + 1 := by
    have hlt : n < _ := (List.getElem?_eq_some_iff.mp hs).1
    rw [run_step, operations, if_pos hfirst] at hlt
    exact Nat.lt_of_lt_of_eq hlt List.length_append
  rw [find?_suites_step, hskey, if_pos hopens, Nat.le_antisymm hlen (Nat.le_of_lt_succ hlast)]

theorem balanced_start (d : ModuleDescriptor) (settings : ExecutionSettings) :
    (start d settings).Balanced [] where
  suite := fun _ _ hs => absurd hs.symm (Option.some_ne_none _)
  later := fun _ _ => rfl

/-- A suite that was there before the step. -/
theorem Balanced.suite_step {work : List RunStep} (hb : h.Balanced work) (hr : h.Registers)
    (hk : h.Keeps es) {a s : SuiteRun} (ha : h.run.suites[n]? = some a)
    (hs : (h.step x).run.suites[n]? = some s) (hmodule : s.module = some moduleNumber) :
    if (h.step x).suites.find? s.key = some n then
      s.ended = false ∧ RunStep.endCount (.suite n) (work ++ h.operations x) = 0
    else s.ended = true ∧ RunStep.endCount (.suite n) (work ++ h.operations x) = 1 := by
  obtain ⟨b, hb', hsite, hended⟩ := Run.suite_follow ha (h.operations x)
  rw [← run_step] at hb'
  obtain rfl : b = s := Option.some_inj.mp (hb'.symm.trans hs)
  simp only [SuiteRun.site, Prod.mk.injEq] at hsite
  obtain ⟨hsm, hsn, hsc⟩ := hsite
  have hkey : b.key = a.key := by rw [SuiteRun.key, SuiteRun.key, hsn, hsc]
  have hbefore := hb.suite n a ha (hsm.symm.trans hmodule)
  rw [hkey, hended, RunStep.endCount_append]
  by_cases hn : h.suites.find? a.key = some n
  · -- The suite was in the table, and stays there unless its key is closed.
    rw [if_pos hn] at hbefore
    rw [find?_suites_step, if_neg (hk.opens?_eq_none hn x), endCount_suite hr hn, hbefore.1,
      hbefore.2]
    by_cases hc : h.closes a.key x = true
    · simp [hc]
    · simp [hc, hn]
  · -- The suite was ended before, and its number does not come back.
    rw [if_neg hn] at hbefore
    have hout : (h.step x).suites.find? a.key ≠ some n := by
      intro hin
      rcases of_find?_suites_step hin with hin | rfl
      · exact hn hin
      · exact Nat.lt_irrefl _ (List.getElem?_eq_some_iff.mp ha).1
    rw [if_neg hout, hbefore.1, hbefore.2, endCount_of_unknown (hr.unknown_of_ne ha hn)]
    exact ⟨rfl, rfl⟩

/-- One step keeps the account of the ends. -/
theorem Balanced.step {work : List RunStep} (hb : h.Balanced work) (hr : h.Registers)
    (hk : h.Keeps es) (x : HandlerStep) : (h.step x).Balanced (work ++ h.operations x) where
  suite := by
    intro n s hs hmodule
    cases ha : h.run.suites[n]? with
    | some a => exact hb.suite_step hr hk ha hs hmodule
    | none =>
      have hfind : (h.step x).suites.find? s.key = some n := find?_of_started hr ha hs hmodule
      obtain ⟨s', hs', hrunning, -⟩ := (hr.step x).suite _ _ hfind
      obtain rfl : s' = s := Option.some_inj.mp (hs'.symm.trans hs)
      rw [if_pos hfind, RunStep.endCount_append, hb.later n ha,
        endCount_of_unknown (hr.unknown_of_none ha)]
      exact ⟨hrunning, rfl⟩
  later := by
    intro n hn
    have ha : h.run.suites[n]? = none := by
      refine Option.eq_none_iff_forall_ne_some.mpr fun a ha => ?_
      obtain ⟨b, hb', -⟩ := Run.suite_follow ha (h.operations x)
      rw [← run_step, hn] at hb'
      cases hb'
    rw [RunStep.endCount_append, hb.later n ha, endCount_of_unknown (hr.unknown_of_none ha)]

/-! ### All steps -/

theorem registers_follow (d : ModuleDescriptor) (settings : ExecutionSettings)
    (steps : List HandlerStep) : ((start d settings).follow steps).Registers := by
  induction steps using List.reverseRecOn with
  | nil => exact registers_start d settings
  | append_singleton steps x ih => exact follow_concat .. ▸ ih.step x

theorem balanced_follow (d : ModuleDescriptor) (settings : ExecutionSettings)
    (steps : List HandlerStep) :
    ((start d settings).follow steps).Balanced ((start d settings).work steps) := by
  induction steps using List.reverseRecOn with
  | nil => exact balanced_start d settings
  | append_singleton steps x ih =>
    obtain ⟨es, hk⟩ := keeps_follow d settings steps
    rw [follow_concat, work_concat]
    exact ih.step (registers_follow d settings steps) hk x

/-- A handler whose module has just ended has empty tables. -/
theorem finishModule_empty (hk : h.Keeps es) :
    h.finishModule.1.activations = .empty ∧ h.finishModule.1.suites = .empty ∧
      h.finishModule.1.tests = .empty :=
  ⟨Activations.eq_empty_of_depth (keeps_finishModule hk).depth, rfl, rfl⟩

/-- What is closed or finished late changes nothing. -/
theorem apply_late (ha : h.activations = .empty) (hs : h.suites = .empty) (ht : h.tests = .empty) :
    (∀ key, h.apply (.suiteFinish key) = h) ∧ ∀ key, h.apply (.testFinish key) = h := by
  obtain ⟨d, settings, run, activations, suites, tests⟩ := h
  subst ha hs ht
  refine ⟨fun key => ?_, fun key => rfl⟩
  show Handler.mk d settings run (Activations.empty.finish key) .empty .empty = _
  rw [Activations.finish_empty]

/-- **The tables say what is open.**  After any events and ends of the module: the keys with a
positive depth are the keys of the suites in the table; every suite and every test in the tables
runs and is what its key says; every key has started as many suites as its depth has gone from zero
to one; each of these suites is in the table and was not ended, or it was ended once.  A step ends
the suites in the table whose depth is zero after it, and no others.  An end of the module leaves
everything empty, so that late closings and finishes do nothing, and it does not matter in which
order it ends what still runs. -/
theorem tables_agree (d : ModuleDescriptor) (settings : ExecutionSettings)
    (steps : List HandlerStep) :
    let first := start d settings
    let h := first.follow steps
    (∀ key, 0 < h.activations.depth key ↔ (h.suites.find? key).isSome) ∧
      h.Registers ∧
      (∀ key, h.started key = first.rises key steps) ∧
      (h.run = first.run.follow (first.work steps) ∧ h.Balanced (first.work steps)) ∧
      (∀ x key n, h.suites.find? key = some n → RunStep.endCount (.suite n) (h.operations x) =
        if (h.step x).activations.depth key = 0 then 1 else 0) ∧
      (∀ x n, (∀ key, h.suites.find? key ≠ some n) →
        RunStep.endCount (.suite n) (h.operations x) = 0) ∧
      let last := h.finishModule.1
      (last.activations = .empty ∧ last.suites = .empty ∧ last.tests = .empty) ∧
        (∀ key, last.apply (.suiteFinish key) = last) ∧
        (∀ key, last.apply (.testFinish key) = last) ∧
        ∀ tests suites, tests.Perm h.tests.entries → suites.Perm h.suites.entries →
          h.finishInOrder tests suites = h.finishModule := by
  intro first h
  obtain ⟨es, hk⟩ := keeps_follow d settings steps
  have hr : h.Registers := registers_follow d settings steps
  obtain ⟨ha, hs, ht⟩ := finishModule_empty hk
  obtain ⟨hclosed, hfinished⟩ := apply_late ha hs ht
  refine ⟨fun key => ?_, hr, fun key => ?_,
    ⟨run_follow first steps, balanced_follow d settings steps⟩, fun x key n hn => ?_,
    fun x n hn => endCount_of_unknown hn x, ⟨ha, hs, ht⟩, hclosed, hfinished,
    fun tests suites htests hsuites => h.finishInOrder_eq htests hsuites⟩
  · rw [Nat.pos_iff_ne_zero, Option.isSome_iff_ne_none]
    exact not_congr (hk.depth_eq_zero_iff key)
  · have hstarted := started_follow (registers_start d settings).module steps key
    exact hstarted.trans (Nat.zero_add _)
  · obtain ⟨es', hk'⟩ : ∃ es', (h.step x).Keeps es' :=
      follow_concat first steps x ▸ keeps_follow d settings (steps ++ [x])
    rw [endCount_suite hr hn]
    exact if_congr (closes_iff hk hk' hn) rfl rfl

end Handler

end TestTelemetry
