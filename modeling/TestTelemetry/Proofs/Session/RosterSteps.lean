/-
What results, ends and starts do to the roster of a session.

A module enters the roster when it is started under a free name.  It leaves when a worker's result
carries its name and number, or when it ends in the session's own process: its result comes back to
the registry, which finds it under its name.

* `Run.standings_step` — nothing else does;
* `Session.roster_acceptResult` — a worker's result;
* `Session.endModule_cases` — the end of a module;
* `Session.startModule_cases` — a start, which may be refused.
-/
import TestTelemetry.Proofs.Session.Roster
import TestTelemetry.Proofs.Session.Signals
import TestTelemetry.Proofs.Session.Step
import TestTelemetry.Proofs.Session.Outline

namespace TestTelemetry

theorem ModuleRun.standing_endWith (m : ModuleRun) (result : ModuleResult) :
    (if m.ended then m else m.finish result).standing = m.standing.end := by
  by_cases hended : m.ended
  · rw [if_pos hended]
    simp [standing, Standing.end, hended]
  · rw [if_neg hended]
    rfl

theorem Run.standings_endModuleWith (r : Run) (place : Nat) (result : ModuleResult) :
    (r.endModuleWith place result).modules.map ModuleRun.standing =
      (r.modules.map ModuleRun.standing).modify place Standing.end :=
  map_modify fun m => m.standing_endWith result

/-! ### Suites and tests -/

namespace Run

variable (r : Run)

theorem standings_startTest (suite : Nat) (name : String) (parameters : Option String) :
    (r.startTest suite name parameters).modules.map ModuleRun.standing =
      r.modules.map ModuleRun.standing := by
  unfold startTest
  cases r.suites[suite]? with
  | none => rfl
  | some found =>
    dsimp only
    cases r.moduleOf found with
    | none => rfl
    | some m => exact map_modify_of_eq fun _ => rfl

theorem standings_endTest (test : Nat) :
    (r.endTest test).modules.map ModuleRun.standing = r.modules.map ModuleRun.standing := by
  unfold endTest
  split
  case h_1 => rfl
  case h_2 => split <;> rfl

theorem standings_endSuite (suite : Nat) :
    (r.endSuite suite).modules.map ModuleRun.standing = r.modules.map ModuleRun.standing := by
  unfold endSuite
  split
  case h_1 => rfl
  case h_2 found _ =>
    by_cases hended : found.ended
    · rw [if_pos hended]
    · rw [if_neg hended]
      cases found.module with
      | none => rfl
      | some m => exact map_modify_of_eq fun _ => rfl

theorem standings_addCoverage (module : Nat) (c : CoverageStore) :
    (r.addCoverage module c).modules.map ModuleRun.standing = r.modules.map ModuleRun.standing := by
  refine map_modify_of_eq fun m => ?_
  unfold ModuleRun.addCoverage
  split <;> rfl

/-- What happens to suites and tests starts no module and ends none. -/
theorem standings_step {w : RunStep} (hkeeps : w.keepsModules = true) :
    (r.step w).modules.map ModuleRun.standing = r.modules.map ModuleRun.standing := by
  cases w with
  | startModule d settings => cases hkeeps
  | endModule m => cases hkeeps
  | endModuleWith m result => cases hkeeps
  | startSuite m name codeUnit parallelized => rfl
  | startDetached name codeUnit => rfl
  | startTest n name parameters => exact r.standings_startTest n name parameters
  | skipTest t reason => rfl
  | failTest t f => rfl
  | skipSuite n reason => rfl
  | failSuite n f => rfl
  | tag i key value =>
    cases i with
    | module m => exact map_modify_of_eq fun _ => rfl
    | suite n => rfl
    | test t => rfl
  | countSkipped m => exact map_modify_of_eq fun _ => rfl
  | addCoverage m c => exact r.standings_addCoverage m c
  | endTest t => exact r.standings_endTest t
  | endSuite n => exact r.standings_endSuite n

end Run

/-! ### Results -/

namespace Registry

variable {r : Registry} {result : ModuleResult} {place : Nat}

/-- A result belongs to the active module with its name and number. -/
theorem owner?_eq_some_iff (h : r.roster.Sound) :
    r.owner? result = some place ↔ ∃ m, (place, m) ∈ r.active ∧
      m.name = result.moduleName ∧ m.descriptor.id = result.moduleId := by
  simp only [mem_active_iff h]
  unfold owner?
  constructor
  · intro howner
    split at howner
    case h_1 p m hfind =>
      obtain ⟨hid, hp⟩ := Option.ite_none_right_eq_some.mp howner
      obtain rfl : p = place := Option.some_inj.mp hp
      obtain ⟨hm, hended, hname⟩ := (find?_eq_some_iff h).mp hfind
      exact ⟨m, ⟨hm, hended⟩, hname, hid⟩
    case h_2 => cases howner
  · rintro ⟨m, ⟨hm, hended⟩, hname, hid⟩
    rw [(find?_eq_some_iff h).mpr ⟨hm, hended, hname⟩]
    exact if_pos hid

theorem fst_onResult (r : Registry) (result : ModuleResult) :
    (r.onResult result).1 = (r.owner? result).isSome := by
  unfold onResult
  cases r.owner? result <;> rfl

/-- The module that a result belongs to leaves the roster. -/
theorem roster_onResult (h : r.roster.Sound) (result : ModuleResult) :
    (r.onResult result).2.roster = (r.owner? result).elim r.roster r.roster.leave := by
  unfold onResult
  cases howner : r.owner? result with
  | none => rfl
  | some place =>
    obtain ⟨m, hmem, hname, -⟩ := (owner?_eq_some_iff h).mp howner
    obtain ⟨hm, hended⟩ := (mem_active_iff h).mp hmem
    have hrun : r.roster.runningAt? place = some m.descriptor :=
      runningAt?_roster.mpr ⟨m, hm, hended, rfl⟩
    rw [Option.elim_some, Roster.leave_of_some hrun]
    show Roster.mk _ _ = Roster.mk _ _
    rw [Run.standings_endModuleWith, ← hname]
    rfl

end Registry

namespace Totals

/-- A result is counted under the status that it names. -/
theorem total_add (t : Totals) (r : ModuleResult) :
    (t.add r).modules.total = t.modules.total + if (statusOf r).isSome then 1 else 0 := by
  unfold add
  cases statusOf r with
  | none => rfl
  | some status => exact StatusCounts.total_record ..

/-- The result of a module's own names its status. -/
theorem statusOf_result (m : ModuleRun) : statusOf m.result = some m.status :=
  Status.ofName?_name m.status

end Totals

namespace Session

variable {s : Session} {t : FileTree} {place : Nat} {r : ModuleResult}

def roster (s : Session) : Roster := s.registry.roster

theorem acceptResult_eq (hopen : s.aggregator.closed = false) (r : ModuleResult) :
    (s.acceptResult r).1 = (s.registry.owner? r).isSome ∧
      (s.acceptResult r).2.registry = (s.registry.onResult r).2 ∧
      (s.acceptResult r).2.totals = s.totals.add r := by
  rw [← Registry.fst_onResult]
  unfold acceptResult Aggregator.accept
  rw [if_neg (by rw [hopen]; exact Bool.false_ne_true)]
  exact ⟨rfl, rfl, rfl⟩

theorem roster_acceptResult (hopen : s.aggregator.closed = false) (hsound : s.roster.Sound)
    (r : ModuleResult) :
    (s.acceptResult r).2.roster = (s.registry.owner? r).elim s.roster s.roster.leave := by
  rw [roster, (acceptResult_eq hopen r).2.1]
  exact Registry.roster_onResult hsound r

theorem closed_acceptResult (hopen : s.aggregator.closed = false) (r : ModuleResult) :
    (s.acceptResult r).2.aggregator.closed = false := by
  unfold acceptResult Aggregator.accept
  rw [if_neg (by rw [hopen]; exact Bool.false_ne_true)]
  exact hopen

/-! ### Ends -/

/-- A module that does not run any more does not end again. -/
theorem endModule_of_ended (h : ∀ m, s.run.modules[place]? = some m → m.ended = true) :
    s.endModule place = (false, s) := by
  have hend : s.run.endModule place = (s.run, none) := by
    unfold Run.endModule
    cases hm : s.run.modules[place]? with
    | none => rfl
    | some m => exact if_pos (h m hm)
  rw [endModule, hend]
  rfl

/-- A module that still runs ends, and its result comes back to the session. -/
theorem endModule_of_running {m : ModuleRun} (hm : s.run.modules[place]? = some m)
    (hended : m.ended = false) : s.endModule place =
      (true, ((s.mapRun fun _ => s.run.endModuleWith place m.result).acceptResult m.result).2) := by
  have hend : s.run.endModule place = (s.run.endModuleWith place m.result, some m.result) := by
    unfold Run.endModule
    rw [hm]
    exact if_neg (by rw [hended]; exact Bool.false_ne_true)
  rw [endModule, hend]

/-- The registry finds a module that has just ended, since it still stands under its name. -/
theorem owner?_endModuleWith (hsound : s.roster.Sound) {m : ModuleRun}
    (hm : s.run.modules[place]? = some m) (hended : m.ended = false) :
    (s.mapRun fun _ => s.run.endModuleWith place m.result).registry.owner? m.result =
      some place := by
  have hfound : (s.run.endModuleWith place m.result).modules[place]? =
      some (m.finish m.result) := by
    rw [Run.endModuleWith, getElem?_modify_of_eq_some hm, if_pos rfl,
      if_neg (by rw [hended]; exact Bool.false_ne_true)]
  have hname : s.registry.places.find? m.name = some place :=
    (hsound m.name place).mpr
      ⟨m.descriptor, Registry.runningAt?_roster.mpr ⟨m, hm, hended, rfl⟩, rfl⟩
  have hfind : (s.mapRun fun _ => s.run.endModuleWith place m.result).registry.find?
      m.result.moduleName = some (place, m.finish m.result) := by
    show (s.registry.places.find? m.name).bind _ = _
    rw [hname, Option.bind_some]
    exact congrArg (Option.map (place, ·)) hfound
  unfold Registry.owner?
  rw [hfind]
  exact if_pos rfl

/-- A module that ends in the session's own process leaves the roster: its result comes back to the
registry, which finds it under its name. -/
theorem endModule_cases (hopen : s.aggregator.closed = false) (hsound : s.roster.Sound)
    (place : Nat) :
    ∃ a, (s.endModule place).2 = { s with aggregator := a } ∧ a.closed = false ∧
      a.registry.roster = s.roster.leave place ∧
      a.totals.modules.total =
        s.totals.modules.total + if (s.roster.runningAt? place).isSome then 1 else 0 := by
  cases hrun : s.roster.runningAt? place with
  | none =>
    have hended : ∀ m, s.run.modules[place]? = some m → m.ended = true := by
      intro m hm
      by_contra hrunning
      rw [Bool.not_eq_true] at hrunning
      have hsome := Registry.runningAt?_roster.mpr ⟨m, hm, hrunning, rfl⟩
      exact absurd (hrun.symm.trans hsome) (by simp)
    exact ⟨s.aggregator, congrArg Prod.snd (endModule_of_ended hended), hopen,
      (Roster.leave_of_none hrun).symm, rfl⟩
  | some d =>
    obtain ⟨m, hm, hended, rfl⟩ := Registry.runningAt?_roster.mp hrun
    let after := s.mapRun fun _ => s.run.endModuleWith place m.result
    have howner : after.registry.owner? m.result = some place :=
      owner?_endModuleWith hsound hm hended
    have hstill : after.aggregator.closed = false := hopen
    obtain ⟨-, hregistry, htotals⟩ := acceptResult_eq hstill m.result
    refine ⟨(after.acceptResult m.result).2.aggregator, ?_, closed_acceptResult hstill m.result,
      ?_, ?_⟩
    · rw [endModule_of_running hm hended]
      rfl
    · rw [show (after.acceptResult m.result).2.aggregator.registry = _ from hregistry,
        Registry.onResult, howner, Roster.leave_of_some hrun]
      show Roster.mk _ _ = Roster.mk _ _
      -- The module is ended a second time, which changes nothing.
      have htwice : after.run.modules.map ModuleRun.standing =
          s.roster.modules.modify place Standing.end :=
        s.run.standings_endModuleWith place m.result
      rw [Run.standings_endModuleWith, show after.registry.run = after.run from rfl, htwice,
        List.modify_modify_eq]
      rfl
    · rw [show (after.acceptResult m.result).2.aggregator.totals = _ from htotals,
        Totals.total_add, Totals.statusOf_result]
      rfl

/-! ### Starts -/

/-- A name that is taken is refused; the number that was given is used up. -/
theorem enterModule_of_taken {d : ModuleDescriptor} {found : Nat × ModuleRun}
    (htaken : s.registry.find? d.name = some found) (settings : ExecutionSettings) :
    s.enterModule d settings =
      (.error (.registry (.alreadyActive d.name found.2.descriptor.id)),
        { s with nextModuleId := s.nextModuleId + 1 }) := by
  have hconflict : Registry.conflict? (registry { s with nextModuleId := s.nextModuleId + 1 })
      d.name = some (.alreadyActive d.name found.2.descriptor.id) := by
    exact congrArg (Option.map _) (show Registry.find? (registry s) d.name = _ from htaken)
  unfold enterModule
  dsimp only
  rw [hconflict]

/-- A module whose name is free enters the roster. -/
theorem enterModule_of_free {d : ModuleDescriptor} (hfree : s.registry.find? d.name = none)
    (settings : ExecutionSettings) :
    ∃ a, s.enterModule d settings = (.ok s.roster.modules.length,
        { s with nextModuleId := s.nextModuleId + 1, aggregator := a }) ∧
      a.closed = s.aggregator.closed ∧ a.totals = s.totals ∧
      a.registry.roster = s.roster.enter d := by
  have hconflict : Registry.conflict? (registry { s with nextModuleId := s.nextModuleId + 1 })
      d.name = none := by
    exact congrArg (Option.map _) (show Registry.find? (registry s) d.name = _ from hfree)
  have hplace : s.roster.modules.length = s.run.modules.length := List.length_map ..
  unfold enterModule
  dsimp only
  rw [hconflict, hplace]
  refine ⟨_, rfl, rfl, rfl, ?_⟩
  show Roster.mk (s.registry.places.set d.name s.run.modules.length)
    ((s.run.modules ++ [ModuleRun.start d settings]).map ModuleRun.standing) = _
  rw [List.map_append, ← hplace]
  rfl

/-- What asking for a module can come to.  If it is refused, only the settings that were computed
for it and the number that was given to it are left of it; else the module enters the roster under
its name, which was free, and the next number. -/
theorem startModule_cases (s : Session) (t : FileTree) (name : String) (outputDirs : List Path) :
    (∃ e settings n, s.startModule t name outputDirs =
        (.error e, { s with settings := settings, nextModuleId := n }) ∧
      (n = s.nextModuleId ∨ n = s.nextModuleId + 1)) ∨
    ∃ settings a d, s.startModule t name outputDirs =
        (.ok s.roster.modules.length,
          { s with settings := settings, nextModuleId := s.nextModuleId + 1, aggregator := a }) ∧
      d.name = name ∧ d.id = s.nextModuleId ∧ s.registry.find? name = none ∧
      a.closed = s.aggregator.closed ∧ a.totals = s.totals ∧
      a.registry.roster = s.roster.enter d := by
  by_cases hphase : s.phase = .running
  · obtain ⟨settings, hlocal⟩ :
        ∃ settings, (s.localSettings t name).2 = { s with settings := settings } := by
      unfold localSettings
      cases s.settings.moduleSettings s.provider t s.options.localIdentity name with
      | mk answer settings => cases answer <;> exact ⟨settings, rfl⟩
    rw [startModule, if_neg (not_not_intro hphase)]
    cases hanswer : s.localSettings t name with
    | mk answer after =>
      rw [hanswer] at hlocal
      obtain rfl : after = { s with settings := settings } := hlocal
      cases answer with
      | error e => exact .inl ⟨e, settings, s.nextModuleId, rfl, .inl rfl⟩
      | ok given =>
        let asked := { s with settings := settings }
        let d := asked.nextDescriptor name outputDirs
        cases hfind : s.registry.find? name with
        | some found =>
          exact .inl ⟨_, settings, s.nextModuleId + 1,
            enterModule_of_taken (s := asked) (d := d) hfind given, .inr rfl⟩
        | none =>
          obtain ⟨a, ha, hclosed, htotals, hroster⟩ :=
            enterModule_of_free (s := asked) (d := d) hfind given
          exact .inr ⟨settings, a, d, ha, rfl, rfl, rfl, hclosed, htotals, hroster⟩
  · exact .inl ⟨.notRunning s.phase, s.settings, s.nextModuleId, if_pos hphase, .inl rfl⟩

end Session

end TestTelemetry
