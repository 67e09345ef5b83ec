/-
No outcome of a run is lost, and none is counted twice.

Every first end is written down with the status that the item has at that moment, and every test
when it starts.  What suites and modules count is what these two logs say of their parts, in
whatever order the items end.

* `Run.Grounded` — what an item is a part of was started;
* `Run.Conserves` — the counters agree with the log of first ends, kept by every step;
* `Run.Numbers` — the modules agree with the log of started tests, kept by every step;
* `Run.outcomes_conserved` — both, for every run that is reached.
-/
import TestTelemetry.Proofs.Lifecycle.Ended
import TestTelemetry.Proofs.Outcome.RollUp
import Mathlib.Data.List.Nodup

namespace TestTelemetry

namespace Run

variable {r : Run} {x : RunStep} {i j : RunItem} {v : ItemState}

/-! ### Logs along some steps -/

theorem follow_concat (r : Run) (steps : List RunStep) (x : RunStep) :
    r.follow (steps ++ [x]) = (r.follow steps).step x := List.foldl_append

theorem outcomes_concat (r : Run) (steps : List RunStep) (x : RunStep) :
    r.outcomes (steps ++ [x]) = r.outcomes steps ++ ((r.follow steps).outcome? x).toList := by
  induction steps generalizing r with
  | nil => exact List.append_nil _
  | cons y rest ih =>
    rw [List.cons_append, outcomes, outcomes, ih, List.append_assoc]
    rfl

theorem startedTests_concat (r : Run) (steps : List RunStep) (x : RunStep) :
    r.startedTests (steps ++ [x]) =
      r.startedTests steps ++ ((r.follow steps).newTest? x).toList := by
  induction steps generalizing r with
  | nil => exact List.append_nil _
  | cons y rest ih =>
    rw [List.cons_append, startedTests, startedTests, ih, List.append_assoc]
    rfl

/-! ### What an item is a part of -/

/-- What an item is a part of was started. -/
def Grounded (r : Run) : Prop := ∀ i j, r.whole? i = some j → (r.state? j).isSome

theorem isSome_module_iff {m : Nat} : (r.state? (.module m)).isSome ↔ m < r.modules.length := by
  rw [state?, Option.isSome_map, isSome_getElem?]

theorem isSome_suite_iff {n : Nat} : (r.state? (.suite n)).isSome ↔ n < r.suites.length := by
  rw [state?, Option.isSome_map, isSome_getElem?]

theorem lt_of_newTest? {t : Nat × String × Option String} (h : r.newTest? x = some t) :
    t.1 < r.suites.length := by
  cases x with
  | startTest n name parameters =>
    obtain ⟨hn, ht⟩ := Option.ite_none_right_eq_some.mp h
    exact Option.some_inj.mp ht ▸ hn
  | _ => cases h

theorem lt_of_newSuite? {s : Option Nat × String × Option String} {m : Nat}
    (h : r.newSuite? x = some s) (hm : s.1 = some m) : m < r.modules.length := by
  cases x with
  | startSuite k name codeUnit parallelized =>
    cases h
    obtain ⟨hk, hkm⟩ := Option.ite_none_right_eq_some.mp hm
    exact Option.some_inj.mp hkm ▸ hk
  | startDetached name codeUnit =>
    cases h
    cases hm
  | _ => cases h

theorem Grounded.step (hr : r.Grounded) (x : RunStep) : (r.step x).Grounded := by
  intro i j hwhole
  by_cases hi : (r.state? i).isSome
  · rw [whole?_step hi] at hwhole
    exact isSome_step (hr i j hwhole) x
  · have hnone : r.state? i = none := Option.not_isSome_iff_eq_none.mp hi
    cases i with
    | module m => cases hwhole
    | suite n =>
      obtain ⟨new, hev, hnew⟩ := r.suites_evolve x
      obtain ⟨b, hb, hj⟩ := Option.bind_eq_some_iff.mp hwhole
      obtain ⟨m, hm, rfl⟩ := Option.map_eq_some_iff.mp hj
      have hmem : b ∈ new := hev.grows.mem_new (Option.map_eq_none_iff.mp hnone) hb
      have hsite : b.site ∈ (r.newSuite? x).toList := hnew ▸ List.mem_map_of_mem hmem
      exact isSome_step (isSome_module_iff.mpr (lt_of_newSuite? (Option.mem_toList.mp hsite) hm)) x
    | test t =>
      obtain ⟨new, hev, hnew⟩ := r.tests_evolve x
      obtain ⟨b, hb, rfl⟩ := Option.map_eq_some_iff.mp hwhole
      have hmem : b ∈ new := hev.grows.mem_new (Option.map_eq_none_iff.mp hnone) hb
      have hsite : b.site ∈ (r.newTest? x).toList := hnew ▸ List.mem_map_of_mem hmem
      exact isSome_step (isSome_suite_iff.mpr (lt_of_newTest? (Option.mem_toList.mp hsite))) x

theorem grounded_follow (steps : List RunStep) : (empty.follow steps).Grounded := by
  induction steps using List.reverseRecOn with
  | nil =>
    intro i j h
    cases i <;> simp [follow, empty, whole?] at h
  | append_singleton steps x ih => exact follow_concat .. ▸ ih.step x

/-! ### The log of first ends -/

/-- The counters of suites and modules agree with a log of first ends. -/
structure Conserves (r : Run) (ends : List (RunItem × Status)) : Prop where
  nodup : (ends.map (·.1)).Nodup
  mem_iff : ∀ i, i ∈ ends.map (·.1) ↔ r.hasEnded i = true
  parts : ∀ i v, r.state? i = some v → v.parts = .ofList (r.partsOf i ends)
  recorded : ∀ i status, (i, status) ∈ ends → (∀ m, i ≠ .module m) →
    ∃ tags, r.tagsOf i = some tags ∧ tags.get Tag.status = some (.str status.name)

/-- A step that ends an item finds it running, with the status that is written down. -/
theorem outcome?_eq_some_iff {status : Status} : r.outcome? x = some (i, status) ↔
    x.ends? = some i ∧ r.isRunning i = true ∧ r.statusOf i = some status := by
  constructor
  · intro h
    obtain ⟨j, hends, h⟩ := Option.bind_eq_some_iff.mp h
    obtain ⟨hrun, h⟩ := Option.ite_none_right_eq_some.mp h
    obtain ⟨s, hs, h⟩ := Option.map_eq_some_iff.mp h
    cases h
    exact ⟨hends, hrun, hs⟩
  · rintro ⟨hends, hrun, hstatus⟩
    rw [outcome?, hends, Option.bind_some, if_pos hrun, hstatus]
    rfl

/-- The step that ends a suite or a test is the end of it. -/
theorem eq_ending_of_ends? (h : x.ends? = some i) (hi : ∀ m, i ≠ .module m) : x = i.ending := by
  cases x <;> cases h
  case endTest => rfl
  case endSuite => rfl
  case endModule m => exact absurd rfl (hi m)
  case endModuleWith m _ => exact absurd rfl (hi m)

theorem isSome_of_hasEnded (h : r.hasEnded i = true) : (r.state? i).isSome := by
  obtain ⟨v, hv, -⟩ := hasEnded_iff.mp h
  rw [hv]
  rfl

/-- An item has ended after a step if it had ended before, or if the step is its first end. -/
theorem hasEnded_step : (r.step x).hasEnded i = true ↔
    r.hasEnded i = true ∨ i ∈ (r.outcome? x).toList.map (·.1) := by
  have hmem : i ∈ (r.outcome? x).toList.map (·.1) ↔ x.ends? = some i ∧ r.isRunning i = true := by
    simp only [List.mem_map, Option.mem_toList, Prod.exists, exists_and_right, exists_eq_right,
      outcome?_eq_some_iff]
    refine ⟨fun ⟨_, hends, hrun, _⟩ => ⟨hends, hrun⟩, fun ⟨hends, hrun⟩ => ?_⟩
    obtain ⟨v, hv, -⟩ := isRunning_iff.mp hrun
    exact ⟨v.status, hends, hrun, by rw [statusOf_eq, hv]; rfl⟩
  rw [hmem]
  cases hv : r.state? i with
  | none =>
    have hbefore : r.hasEnded i = false := by rw [hasEnded_eq, hv]; rfl
    have hrun : r.isRunning i = false := by rw [isRunning_eq, hv]; rfl
    have hafter : (r.step x).hasEnded i = false := by
      rw [hasEnded_eq]
      cases hv' : (r.step x).state? i with
      | none => rfl
      | some v' => exact (fresh_step hv hv').running
    simp [hbefore, hrun, hafter]
  | some v =>
    obtain ⟨v', hv', hnext⟩ := state?_step hv x
    rw [hasEnded_eq, hasEnded_eq, isRunning_eq, hv, hv', Option.any_some, Option.any_some,
      Option.any_some, hnext.ended]
    cases v.ended <;> simp

/-- The parts of an item that have ended stay its parts. -/
theorem partsOf_step {ends : List (RunItem × Status)}
    (h : ∀ e ∈ ends, (r.state? e.1).isSome) (x : RunStep) (i : RunItem) :
    (r.step x).partsOf i ends = r.partsOf i ends :=
  List.filterMap_congr fun e he => by rw [whole?_step (h e he)]

/-- One step keeps the counters in agreement with the log. -/
theorem Conserves.step {ends : List (RunItem × Status)} (hc : r.Conserves ends)
    (hr : r.Grounded) (hclosed : ∀ i v, r.state? i = some v → v.tags.closed = v.ended)
    (x : RunStep) : (r.step x).Conserves (ends ++ (r.outcome? x).toList) where
  nodup := by
    rw [List.map_append, List.nodup_append']
    refine ⟨hc.nodup, ?_, fun i hi hnew => ?_⟩
    · cases r.outcome? x <;> simp
    · obtain ⟨e, he, rfl⟩ := List.mem_map.mp hnew
      obtain ⟨-, hrun, -⟩ := outcome?_eq_some_iff.mp (Option.mem_toList.mp he)
      obtain ⟨v, hv, hrunning⟩ := isRunning_iff.mp hrun
      -- What is in the log has ended, and what is written down now was running.
      obtain ⟨w, hw, hended⟩ := hasEnded_iff.mp ((hc.mem_iff _).mp hi)
      obtain rfl : v = w := Option.some_inj.mp (hv.symm.trans hw)
      rw [hrunning] at hended
      cases hended
  mem_iff := fun i => by
    rw [List.map_append, List.mem_append, hc.mem_iff, hasEnded_step]
  parts := by
    intro i v' hv'
    have hold : ∀ e ∈ ends, (r.state? e.1).isSome := fun e he =>
      isSome_of_hasEnded ((hc.mem_iff _).mp (List.mem_map_of_mem he))
    rw [partsOf_append, partsOf_step hold, show (r.step x).partsOf i (r.outcome? x).toList = _ from
      partsOf_follow_outcome? r x i [x]]
    cases hv : r.state? i with
    | some v =>
      obtain ⟨w, hw, hnext⟩ := state?_step hv x
      obtain rfl : w = v' := Option.some_inj.mp (hw.symm.trans hv')
      rw [hnext.parts, hc.parts i v hv, StatusCounts.ofList, StatusCounts.ofList,
        List.foldl_append]
    | none =>
      -- Nothing that was there before is a part of what the step starts.
      have hnil : ∀ l, r.partsOf i l = [] := fun l => by
        refine List.filterMap_eq_nil_iff.mpr fun e _ => if_neg fun hwhole => ?_
        have hi : (r.state? i).isSome := hr e.1 i hwhole
        rw [hv] at hi
        cases hi
      rw [hnil, hnil]
      exact (fresh_step hv hv').parts
  recorded := by
    intro i status hmem hi
    rcases List.mem_append.mp hmem with hold | hnew
    · -- The tags of what has ended are closed, so the status that was written stays.
      have hended : r.hasEnded i = true := (hc.mem_iff i).mp (List.mem_map_of_mem hold)
      obtain ⟨v, hv, hended⟩ := hasEnded_iff.mp hended
      obtain ⟨v', hv', hnext⟩ := state?_step hv x
      obtain ⟨tags, htags, hget⟩ := hc.recorded i status hold hi
      refine ⟨tags, ?_, hget⟩
      rw [tagsOf_eq, hv] at htags
      rw [tagsOf_eq, hv', Option.map_some, hnext.frozen ((hclosed i v hv).trans hended)]
      exact htags
    · obtain ⟨hends, hrun, hstatus⟩ := outcome?_eq_some_iff.mp (Option.mem_toList.mp hnew)
      obtain ⟨v, hv, hrunning⟩ := isRunning_iff.mp hrun
      obtain rfl : v.status = status := by
        rw [statusOf_eq, hv, Option.map_some, Option.some_inj] at hstatus
        exact hstatus
      have htag := status_tag_endItem hv hrunning ((hclosed i v hv).trans hrunning)
      rwa [fst_endItem, ← eq_ending_of_ends? hends hi] at htag

theorem conserves_follow (steps : List RunStep) :
    (empty.follow steps).Conserves (empty.outcomes steps) := by
  induction steps using List.reverseRecOn with
  | nil =>
    refine ⟨List.nodup_nil, fun i => ?_, fun i v hv => ?_, nofun⟩
    · cases i <;> simp [follow, outcomes, empty, hasEnded]
    · cases i <;> simp [follow, empty, state?] at hv
  | append_singleton steps x ih =>
    rw [follow_concat, outcomes_concat]
    exact ih.step (grounded_follow steps) (fun _ _ hv => closed_eq_ended steps hv) x

/-! ### The log of started tests -/

/-- The tests and the modules agree with a log of started tests. -/
structure Numbers (r : Run) (started : List (Nat × String × Option String)) : Prop where
  sites : r.tests.map TestRun.site = started
  suites : ∀ t ∈ started, t.1 < r.suites.length
  counts : ∀ (m : Nat) a, r.modules[m]? = some a →
    a.testsTotal = (r.namesIn m started).length ∧
      a.newTests = (r.namesIn m started).countP a.isNew

/-- What a test is known by does not change. -/
theorem nameIn?_step {t : Nat × String × Option String} (ht : t.1 < r.suites.length) (x : RunStep)
    (m : Nat) : (r.step x).nameIn? m t = r.nameIn? m t := by
  obtain ⟨new, hev, -⟩ := r.suites_evolve x
  have ha : r.suites[t.1]? = some r.suites[t.1] := List.getElem?_eq_getElem ht
  obtain ⟨b, hb, -, horigin⟩ := hev.grows.kept t.1 _ ha
  obtain ⟨hmodule, hrest⟩ := Prod.mk.inj (SuiteRun.site_eq_of_origin horigin)
  simp only [nameIn?, ha, hb, Option.bind_some, hmodule, (Prod.mk.inj hrest).1]

/-- No test is in a module that was not started. -/
theorem nameIn?_eq_none {m : Nat} (hr : r.Grounded) (hm : r.modules[m]? = none)
    (t : Nat × String × Option String) : r.nameIn? m t = none := by
  refine Option.eq_none_iff_forall_ne_some.mpr fun name h => ?_
  obtain ⟨s, hs, h⟩ := Option.bind_eq_some_iff.mp h
  obtain ⟨hmodule, -⟩ := Option.ite_none_right_eq_some.mp h
  have hwhole : r.whole? (.suite t.1) = some (.module m) := by
    rw [whole?, hs, Option.bind_some, hmodule]
    rfl
  have hlt : m < r.modules.length := isSome_module_iff.mp (hr _ _ hwhole)
  exact Nat.not_lt.mpr (List.getElem?_eq_none_iff.mp hm) hlt

/-- One step keeps the tests and the modules in agreement with the log. -/
theorem Numbers.step {started : List (Nat × String × Option String)} (hn : r.Numbers started)
    (hr : r.Grounded) (x : RunStep) :
    (r.step x).Numbers (started ++ (r.newTest? x).toList) := by
  -- The suite of every test in the log was there before the step, so that the step keeps the name
  -- of the test and the module of its suite.
  have hlt : ∀ t ∈ started ++ (r.newTest? x).toList, t.1 < r.suites.length := by
    intro t ht
    rcases List.mem_append.mp ht with hold | hnew
    · exact hn.suites t hold
    · exact lt_of_newTest? (Option.mem_toList.mp hnew)
  have hnames : ∀ m, (r.step x).namesIn m (started ++ (r.newTest? x).toList) =
      r.namesIn m started ++ r.namesIn m (r.newTest? x).toList := fun m => by
    rw [namesIn, List.filterMap_congr fun t ht => nameIn?_step (hlt t ht) x m,
      List.filterMap_append]
    rfl
  refine ⟨?_, fun t ht => ?_, fun m b hb => ?_⟩
  · obtain ⟨new, hev, hnew⟩ := r.tests_evolve x
    rw [hev.grows.map_eq fun _ _ _ h => TestRun.site_eq_of_origin h.2, hn.sites, hnew]
  · obtain ⟨new, hev, -⟩ := r.suites_evolve x
    exact Nat.lt_of_lt_of_le (hlt t ht) hev.grows.length_le
  · obtain ⟨new, hev, hnew⟩ := r.modules_evolve x
    rw [hnames]
    cases ha : r.modules[m]? with
    | some a =>
      obtain ⟨b', hb', -, horigin, hcount⟩ := hev.grows.kept m a ha
      obtain rfl : b' = b := Option.some_inj.mp (hb'.symm.trans hb)
      obtain ⟨htotal, hnewTests⟩ := hn.counts m a ha
      have hisNew : b'.isNew = a.isNew := by
        obtain ⟨hd, hs⟩ := Prod.mk.inj horigin
        funext t
        rw [ModuleRun.isNew, ModuleRun.isNew, ModuleRun.name, ModuleRun.name, hd, hs]
      rw [hcount.total, hcount.new, htotal, hnewTests, List.length_append, List.countP_append,
        hisNew]
      exact ⟨rfl, rfl⟩
    | none =>
      -- The module is new, and no suite could be attached to it.
      have hnil : ∀ l, r.namesIn m l = [] := fun l =>
        List.filterMap_eq_nil_iff.mpr fun t _ => nameIn?_eq_none hr ha t
      obtain ⟨htotal, hnewTests⟩ := hnew b (hev.grows.mem_new ha hb)
      rw [hnil, hnil, htotal, hnewTests]
      exact ⟨rfl, rfl⟩

theorem numbers_follow (steps : List RunStep) :
    (empty.follow steps).Numbers (empty.startedTests steps) := by
  induction steps using List.reverseRecOn with
  | nil =>
    refine ⟨rfl, fun t ht => absurd ht List.not_mem_nil, fun m a ha => ?_⟩
    simp [follow, empty] at ha
  | append_singleton steps x ih =>
    rw [follow_concat, startedTests_concat]
    exact ih.step (grounded_follow steps) x

/-! ### Both -/

/-- An end after the first is answered with no, and changes nothing. -/
theorem endItem_of_hasEnded (h : r.hasEnded i = true) :
    r.isRunning i = false ∧ r.endItem i = (r, none) := by
  cases i with
  | module m =>
    obtain ⟨a, ha, hended⟩ := (Option.any_eq_true ..).mp h
    simp [isRunning, endItem, endModule, ha, hended]
  | suite n =>
    obtain ⟨a, ha, hended⟩ := (Option.any_eq_true ..).mp h
    simp [isRunning, endItem, endSuite, ha, hended]
  | test t =>
    obtain ⟨a, ha, hended⟩ := (Option.any_eq_true ..).mp h
    simp [isRunning, endItem, endTest, ha, hended]

theorem endModuleWith_of_hasEnded {m : Nat} (h : r.hasEnded (.module m) = true)
    (result : ModuleResult) : r.endModuleWith m result = r := by
  obtain ⟨a, ha, hended⟩ := (Option.any_eq_true ..).mp h
  have hsame : r.modules.modify m (fun m => if m.ended then m else m.finish result) = r.modules :=
    modify_of_eq ha (if_pos hended)
  rw [endModuleWith, hsame]

/-- The new tests of a module are those that are not known, if known tests were computed. -/
theorem countP_isNew (a : ModuleRun) (names : List TestIdentifier) :
    names.countP a.isNew = match a.settings.knownTests a.name with
      | none => 0
      | some known => names.countP (fun t => decide (t ∉ known)) := by
  unfold ModuleRun.isNew
  cases a.settings.knownTests a.name with
  | none => exact List.countP_eq_zero.mpr fun _ _ => Bool.false_ne_true
  | some known => exact List.countP_congr fun t _ => by simp

/-- **Conservation.**  In every run that is reached, every item that has ended is in the log of
first ends exactly once.  What a suite counts is how often each status came up at the first ends of its
tests, and what a module counts is how often it came up at the first ends of the suites that are
attached to it.  A module counts the tests that were started in these suites, and those of them that
it does not know.  Tests and suites that have ended carry the status that was counted as a tag.
Any further end is answered with no and changes nothing. -/
theorem outcomes_conserved (steps : List RunStep) :
    let r := empty.follow steps
    let ends := empty.outcomes steps
    let started := empty.startedTests steps
    ((ends.map (·.1)).Nodup ∧ ∀ i, i ∈ ends.map (·.1) ↔ r.hasEnded i = true) ∧
      r.tests.map TestRun.site = started ∧
      (∀ (n : Nat) s, r.suites[n]? = some s →
        ∀ status, s.tests.count status = (r.partsOf (.suite n) ends).count status) ∧
      (∀ (m : Nat) a, r.modules[m]? = some a →
        (∀ status, a.suites.count status = (r.partsOf (.module m) ends).count status) ∧
        a.testsTotal = (r.namesIn m started).length ∧
        a.newTests = match a.settings.knownTests a.name with
          | none => 0
          | some known => (r.namesIn m started).countP (fun t => decide (t ∉ known))) ∧
      (∀ i status, (i, status) ∈ ends → (∀ m, i ≠ .module m) →
        ∃ tags, r.tagsOf i = some tags ∧ tags.get Tag.status = some (.str status.name)) ∧
      ∀ i, r.hasEnded i = true → r.isRunning i = false ∧ r.endItem i = (r, none) ∧
        ∀ m result, i = .module m → r.endModuleWith m result = r := by
  intro r ends started
  have hends : r.Conserves ends := conserves_follow steps
  have hstarted : r.Numbers started := numbers_follow steps
  refine ⟨⟨hends.nodup, hends.mem_iff⟩, hstarted.sites, fun n s hs status => ?_,
    fun m a ha => ⟨fun status => ?_, ?_⟩, hends.recorded, fun i hi => ?_⟩
  · have hparts : s.tests = .ofList _ := hends.parts (.suite n) s.state (by rw [state?, hs]; rfl)
    rw [hparts, StatusCounts.count_ofList]
  · have hparts : a.suites = .ofList _ := hends.parts (.module m) a.state (by rw [state?, ha]; rfl)
    rw [hparts, StatusCounts.count_ofList]
  · obtain ⟨htotal, hnew⟩ := hstarted.counts m a ha
    exact ⟨htotal, hnew.trans (countP_isNew a _)⟩
  · obtain ⟨hanswer, hsame⟩ := endItem_of_hasEnded hi
    refine ⟨hanswer, hsame, fun m result hm => ?_⟩
    subst hm
    exact endModuleWith_of_hasEnded hi result

/-- A suite ends before its test, which fails after that: the suite counts the failure all the same,
and its module the suite as it was.  The test of a detached suite counts for no module. -/
theorem late_end_is_counted :
    let steps := [RunStep.startModule ⟨"s", 0, "m", [], none⟩ .initial,
      .startSuite 0 "S" none false, .startDetached "D" none, .startTest 0 "t" none,
      .startTest 1 "u" none, .endSuite 0, .failTest 0 ⟨none, "boom"⟩, .endTest 0, .endTest 1,
      .endTest 0]
    let r := empty.follow steps
    ∃ s a, r.suites[0]? = some s ∧ s.tests.count .fail = 1 ∧ r.modules[0]? = some a ∧
      a.suites.count .pass = 1 ∧ a.testsTotal = 1 := by
  intro steps r
  obtain ⟨-, -, hsuites, hmodules, -⟩ := outcomes_conserved steps
  obtain ⟨hcount, htotal, -⟩ := hmodules 0 _ rfl
  exact ⟨_, _, rfl, hsuites 0 _ rfl .fail, rfl, hcount .pass, htotal⟩

end Run

end TestTelemetry
