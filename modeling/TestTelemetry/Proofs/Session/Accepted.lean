/-
The results that a session takes in.

Results come to a session from its workers, from the modules that end in its own process, and from
those that are still active when it ends.  Until it has ended, all of them are taken in one after
the other, and what it counts is what they say together.

* `Session.brought`, `Session.accepted` — the results of a call, and those taken in along calls;
* `Totals.foldl_add` — what some results say together;
* `Aggregator.Tallies` — what is read off an aggregator and changed by results alone;
* `Session.tally_callAll`, `Session.tally_finish` — what is read after calls, and at the end;
* `Session.totals_callAll`, `Session.totals_finish` — what is counted.
-/
import Mathlib.Algebra.Order.BigOperators.Group.List
import Mathlib.Algebra.Order.Group.Nat
import Mathlib.Algebra.Ring.Nat
import TestTelemetry.Proofs.Session.EndsOnce

namespace TestTelemetry

/-! ### What results say together -/

/-- How many skipped tests some results report together. -/
def skippedSum (rs : List ModuleResult) : Nat := (rs.map fun r => r.testsSkipped.toNat).sum

theorem skippedSum_cons (r : ModuleResult) (rs : List ModuleResult) :
    skippedSum (r :: rs) = r.testsSkipped.toNat + skippedSum rs := rfl

theorem skippedSum_append (rs more : List ModuleResult) :
    skippedSum (rs ++ more) = skippedSum rs + skippedSum more := by
  rw [skippedSum, List.map_append, List.sum_append]
  rfl

/-- A flag is up when any result has it, numbers of skipped tests are added up in 64 bits, and a
status counts when it is one. -/
theorem Totals.foldl_add (t : Totals) (rs : List ModuleResult) :
    rs.foldl add t =
      { coverageEnabled := t.coverageEnabled || rs.any (·.coverageEnabled)
        skipEnabled := t.skipEnabled || rs.any (·.skipEnabled)
        flakeDetectionEnabled := t.flakeDetectionEnabled || rs.any (·.flakeDetectionEnabled)
        faulty := t.faulty || rs.any (·.faulty)
        testsSkipped := t.testsSkipped + UInt64.ofNat (skippedSum rs)
        modules := (rs.filterMap statusOf).foldl StatusCounts.record t.modules
        results := t.results + rs.length } := by
  induction rs generalizing t with
  | nil => simp [skippedSum]
  | cons r rest ih =>
    have hskipped : t.testsSkipped + r.testsSkipped + UInt64.ofNat (skippedSum rest) =
        t.testsSkipped + UInt64.ofNat (skippedSum (r :: rest)) := by
      rw [skippedSum_cons, UInt64.ofNat_add, UInt64.ofNat_toNat, UInt64.add_assoc]
    have hmodules : (rest.filterMap statusOf).foldl StatusCounts.record (t.add r).modules =
        ((r :: rest).filterMap statusOf).foldl StatusCounts.record t.modules := by
      rw [List.filterMap_cons, add]
      cases statusOf r <;> rfl
    rw [List.foldl_cons, ih, hmodules]
    simp only [add, hskipped, List.any_cons, Bool.or_assoc, List.length_cons, Nat.add_assoc,
      Nat.add_comm 1]

namespace Aggregator

/-- What is read off an aggregator is changed only by the results that it accepts. -/
structure Tallies {β : Type} (read : Aggregator → β) (add : β → ModuleResult → β) : Prop where
  accept : ∀ {a : Aggregator}, a.closed = false → ∀ r, read (a.accept r).2 = add (read a) r
  ignores : ∀ (a : Aggregator) registry outputDirs closed,
    read { a with registry, outputDirs, closed } = read a

theorem accept_of_open {a : Aggregator} (hopen : a.closed = false) (r : ModuleResult) :
    (a.accept r).2 = { a with
      totals := a.totals.add r
      coverage := match r.coverage with
        | some c => a.coverage.merge c
        | none => a.coverage
      registry := (a.registry.onResult r).2 } := by
  have hclosed : ¬ a.closed = true := Bool.eq_false_iff.mp hopen
  unfold accept
  exact congrArg Prod.snd (if_neg hclosed)

theorem Tallies.totals : Tallies (·.totals) Totals.add where
  accept hopen r := by rw [accept_of_open hopen r]
  ignores _ _ _ _ := rfl

/-- The coverage of an aggregator with that of one more result. -/
def addCoverage (c : CoverageStore) (r : ModuleResult) : CoverageStore :=
  r.coverage.elim c c.merge

theorem Tallies.coverage : Tallies (·.coverage) addCoverage where
  accept hopen r := by
    rw [accept_of_open hopen r, addCoverage]
    cases r.coverage <;> rfl
  ignores _ _ _ _ := rfl

end Aggregator

namespace Session

variable {s : Session} {calls : List SessionCall}

/-- The results that a call brings to a session. -/
def brought (s : Session) : SessionCall → List ModuleResult
  | .step (.signal _ (.moduleResult r)) => [r]
  | .step (.endModule place) => (s.run.endModule place).2.toList
  | .finish _ => s.registry.active.map (·.2.result)
  | _ => []

/-- The results that are taken in along some calls. -/
def accepted (s : Session) : List SessionCall → List ModuleResult
  | [] => []
  | c :: rest =>
    (if s.aggregator.closed then [] else s.brought c) ++ (s.call c).accepted rest

theorem accepted_append (s : Session) (calls later : List SessionCall) :
    s.accepted (calls ++ later) = s.accepted calls ++ (s.callAll calls).accepted later := by
  induction calls generalizing s with
  | nil => rfl
  | cons c rest ih =>
    rw [List.cons_append, accepted, accepted, ih, List.append_assoc]
    rfl

theorem accepted_of_open (hopen : s.aggregator.closed = false) (c : SessionCall) :
    s.accepted [c] = s.brought c := by
  rw [accepted, accepted, hopen, List.append_nil]
  rfl

/-- Until a session is asked to end, every call brings at most one result. -/
theorem brought_of_quiet {c : SessionCall} (hquiet : c.isFinish = false) :
    s.brought c = [] ∨ ∃ r, s.brought c = [r] := by
  cases c with
  | finish t => cases hquiet
  | tag key value => exact .inl rfl
  | step x =>
    cases x with
    | startModule t name outputDirs => exact .inl rfl
    | work w keeps => exact .inl rfl
    | endModule place =>
      show (s.run.endModule place).2.toList = [] ∨ ∃ r, (s.run.endModule place).2.toList = [r]
      cases (s.run.endModule place).2 with
      | none => exact .inl rfl
      | some r => exact .inr ⟨r, rfl⟩
    | signal t signal =>
      cases signal with
      | moduleResult r => exact .inr ⟨r, rfl⟩
      | moduleSettings q => exact .inl rfl
      | repoIndex => exact .inl rfl

/-! ### The end of a module -/

/-- The end of a module leaves the other modules as they are. -/
theorem modules_endModule_of_ne (h : s.Sound) {place other : Nat} (hne : place ≠ other) :
    (s.endModule place).2.run.modules[other]? = s.run.modules[other]? := by
  by_cases hrunning : ∃ m, s.run.modules[place]? = some m ∧ m.ended = false
  · obtain ⟨m, hm, hended⟩ := hrunning
    let after := s.mapRun fun _ => s.run.endModuleWith place m.result
    have hstill : after.aggregator.closed = false := h.isOpen
    have hregistry := (acceptResult_eq hstill m.result).2.1
    rw [Registry.onResult, owner?_endModuleWith h.roster hm hended] at hregistry
    -- It is ended once by itself, and once more when its result comes back.
    have hrun : (after.acceptResult m.result).2.run =
        (s.run.endModuleWith place m.result).endModuleWith place m.result :=
      congrArg Registry.run hregistry
    have hkeeps : ∀ r : Run,
        (r.endModuleWith place m.result).modules[other]? = r.modules[other]? :=
      fun r => List.getElem?_modify_ne _ _ hne
    rw [endModule_of_running hm hended]
    show (after.acceptResult m.result).2.run.modules[other]? = _
    rw [hrun, hkeeps, hkeeps]
  · have hended : ∀ m, s.run.modules[place]? = some m → m.ended = true := fun m hm =>
      Bool.eq_true_of_not_eq_false fun hended => hrunning ⟨m, hm, hended⟩
    rw [endModule_of_ended hended]

/-- The active modules stand at different places. -/
theorem nodup_active_places (h : s.Sound) : (s.registry.active.map (·.1)).Nodup := by
  have hnames := Registry.nodup_active h.roster
  rw [List.nodup_iff_pairwise_ne, List.pairwise_map] at hnames ⊢
  refine hnames.imp_of_mem fun {m n} hm hn hne heq => hne ?_
  obtain ⟨hm, -⟩ := (Registry.mem_active_iff h.roster).mp hm
  obtain ⟨hn, -⟩ := (Registry.mem_active_iff h.roster).mp hn
  rw [heq, hn] at hm
  exact congrArg ModuleRun.name (Option.some_inj.mp hm).symm

/-! ### Calls -/

section Tally

variable {β : Type} {read : Aggregator → β} {add : β → ModuleResult → β}
  (ht : Aggregator.Tallies read add)

include ht

/-- A module that ends brings its result, if it has not ended before. -/
theorem tally_endModule (hopen : s.aggregator.closed = false) (place : Nat) :
    read (s.endModule place).2.aggregator =
      (s.run.endModule place).2.toList.foldl add (read s.aggregator) := by
  have hrun : ∀ run, read (s.mapRun fun _ => run).aggregator = read s.aggregator :=
    fun run => ht.ignores ..
  rw [endModule]
  cases s.run.endModule place with
  | mk run result =>
    cases result with
    | none => exact hrun run
    | some r =>
      have haccept := ht.accept (a := (s.mapRun fun _ => run).aggregator) hopen r
      rw [hrun] at haccept
      exact haccept

/-- Modules at different places end one after the other, each with its own result. -/
theorem tally_endModules (h : s.Sound) {l : List (Nat × ModuleRun)}
    (hplaces : (l.map (·.1)).Nodup)
    (hrunning : ∀ m ∈ l, s.run.modules[m.1]? = some m.2 ∧ m.2.ended = false) :
    read (s.follow (l.map fun m => .endModule m.1)).aggregator =
      (l.map (·.2.result)).foldl add (read s.aggregator) := by
  induction l generalizing s with
  | nil => rfl
  | cons m rest ih =>
    rw [List.map_cons, List.nodup_cons] at hplaces
    obtain ⟨hm, hended⟩ := hrunning m (List.mem_cons_self ..)
    have hresult : (s.run.endModule m.1).2 = some m.2.result := by
      rw [Run.endModule, hm]
      exact congrArg Prod.snd (if_neg (by rw [hended]; exact Bool.false_ne_true))
    have hfirst : read (s.step (.endModule m.1)).aggregator =
        add (read s.aggregator) m.2.result := by
      show read (s.endModule m.1).2.aggregator = _
      rw [tally_endModule ht h.isOpen, hresult]
      rfl
    have hrest : ∀ n ∈ rest,
        (s.step (.endModule m.1)).run.modules[n.1]? = some n.2 ∧ n.2.ended = false := by
      intro n hn
      have hne : m.1 ≠ n.1 := fun heq => hplaces.1 (heq ▸ List.mem_map_of_mem hn)
      obtain ⟨hn, hstill⟩ := hrunning n (List.mem_cons_of_mem _ hn)
      exact ⟨(modules_endModule_of_ne h hne).trans hn, hstill⟩
    rw [List.map_cons, List.map_cons, List.foldl_cons, ← hfirst]
    exact ih (h.step _) hplaces.2 hrest

/-- The end of a session takes in the results of the modules that are still active. -/
theorem tally_finish (h : s.Sound) (hphase : s.phase = .running) (t : FileTree) :
    read (s.finish t).2.1.aggregator =
      (s.registry.active.map (·.2.result)).foldl add (read s.aggregator) := by
  have hending : Sound { s with phase := .ending } := ⟨h.isOpen, h.roster⟩
  rw [(finish_spec hphase t).1, endActive_eq_follow]
  refine (ht.ignores ..).trans ?_
  exact tally_endModules ht hending (nodup_active_places hending) fun m hm =>
    (Registry.mem_active_iff h.roster).mp hm

/-- A module that is started brings nothing. -/
theorem tally_startModule (s : Session) (t : FileTree) (name : String) (outputDirs : List Path) :
    read (s.startModule t name outputDirs).2.aggregator = read s.aggregator := by
  have hlocal : (s.localSettings t name).2.aggregator = s.aggregator := by
    unfold localSettings
    cases s.settings.moduleSettings s.provider t s.options.localIdentity name with
    | mk answer settings => cases answer <;> rfl
  have henter : ∀ (s : Session) d settings,
      read (s.enterModule d settings).2.aggregator = read s.aggregator := by
    intro s d settings
    unfold enterModule
    dsimp only
    split
    · rfl
    · exact ht.ignores s.aggregator ..
  rw [startModule]
  split
  · rfl
  · rw [← hlocal]
    cases s.localSettings t name with
    | mk answer after =>
      cases answer with
      | error e => rfl
      | ok settings => exact henter after _ settings

/-- What is read changes with the results that a call brings. -/
theorem tally_call (h : s.Sound) (hphase : s.phase = .running) (c : SessionCall) :
    read (s.call c).aggregator = (s.brought c).foldl add (read s.aggregator) := by
  cases c with
  | tag key value => rfl
  | finish t => exact tally_finish ht h hphase t
  | step x =>
    cases x with
    | startModule t name outputDirs => exact tally_startModule ht s t name outputDirs
    | endModule place => exact tally_endModule ht h.isOpen place
    | work w keeps => exact ht.ignores ..
    | signal t signal =>
      cases signal with
      | moduleResult r => exact ht.accept h.isOpen r
      | moduleSettings q => rfl
      | repoIndex => rfl

/-- What is read of a running session is what the results that it has taken in make of it. -/
theorem tally_callAll (h : s.Sound) (hphase : s.phase = .running)
    (hquiet : ∀ c ∈ calls, SessionCall.isFinish c = false) :
    read (s.callAll calls).aggregator = (s.accepted calls).foldl add (read s.aggregator) := by
  induction calls using List.reverseRecOn with
  | nil => rfl
  | append_singleton before c ih =>
    -- The last call comes to a session that still runs.
    have hbefore : ∀ c ∈ before, SessionCall.isFinish c = false :=
      fun d hd => hquiet d (List.mem_append_left _ hd)
    obtain ⟨hsound, hrunning, -⟩ := running_callAll h hphase hbefore
    rw [callAll_append, accepted_append, List.foldl_append, ← ih hbefore,
      accepted_of_open hsound.isOpen]
    exact tally_call ht hsound hrunning c

end Tally

/-- The end of a session counts the results of the modules that are still active. -/
theorem totals_finish (h : s.Sound) (hphase : s.phase = .running) (t : FileTree) :
    (s.finish t).2.1.totals =
      (s.registry.active.map (·.2.result)).foldl Totals.add s.totals :=
  tally_finish .totals h hphase t

/-- A running session counts the results that it has taken in. -/
theorem totals_callAll (h : s.Sound) (hphase : s.phase = .running)
    (hquiet : ∀ c ∈ calls, SessionCall.isFinish c = false) :
    (s.callAll calls).totals = (s.accepted calls).foldl Totals.add s.totals :=
  tally_callAll .totals h hphase hquiet

end Session

end TestTelemetry
