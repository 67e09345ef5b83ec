/-
A session ends once.

A session that was started runs until its first end.  This end takes in what is still open, and from
then on the session has ended: it starts no modules and takes no results, and every other end is
answered with nothing.  The first end has a summary unless its coverage breaks off, and once there
is a summary, what it was built from does not change any more.

* `SessionCall`, `Session.callAll`, `Session.ends` — what can be asked of a session in any order;
* `Session.finish_cases` — the two ways in which a running session ends;
* `Session.Over`, `Session.basis` — a session that has ended, and what a summary is built from;
* `Session.Over.call`, `Session.Over.basis_call` — nothing that is asked of it later changes these;
* `Session.ends_once` — the life of every session, whatever is asked of it.
-/
import TestTelemetry.Proofs.Session.ModuleAccount
import TestTelemetry.Proofs.Outcome.TagLog

namespace TestTelemetry

/-- What can be asked of a session. -/
inductive SessionCall
  | step (x : SessionStep)
  | tag (key : String) (value : TagValue)
  | finish (t : FileTree)

/-- Whether a session is asked to end. -/
def SessionCall.isFinish : SessionCall → Bool
  | finish _ => true
  | _ => false

namespace Session

/-- The session after a call. -/
def call (s : Session) : SessionCall → Session
  | .step x => s.step x
  | .tag key value => s.setTag key value
  | .finish t => (s.finish t).2.1

/-- The session after some calls. -/
def callAll (s : Session) (calls : List SessionCall) : Session := calls.foldl call s

/-- What the ends among some calls are answered with. -/
def ends (s : Session) : List SessionCall → List (Option Summary)
  | [] => []
  | .finish t :: rest => (s.finish t).1 :: (s.finish t).2.1.ends rest
  | c :: rest => (s.call c).ends rest

variable {s s₀ : Session} {t : FileTree} {c : SessionCall}

theorem callAll_append (s : Session) (calls later : List SessionCall) :
    s.callAll (calls ++ later) = (s.callAll calls).callAll later := List.foldl_append

theorem ends_append (s : Session) (calls later : List SessionCall) :
    s.ends (calls ++ later) = s.ends calls ++ (s.callAll calls).ends later := by
  induction calls generalizing s with
  | nil => rfl
  | cons c rest ih =>
    cases c with
    | finish t => exact congrArg (List.cons _) (ih _)
    | step x => exact ih _
    | tag key value => exact ih _

/-! ### The end -/

/-- A session that is about to end, once its modules have ended and no result counts any more. -/
def gathered (s : Session) : Session := { s with phase := .ending }.endActive.closeResults

/-- Whether the coverage of a session breaks off: there is a report to write, and the index that it
needs breaks off. -/
def BreaksOff (s : Session) (t : FileTree) : Prop :=
  (s.bundle? t).isSome ∧ s.options.reportDumpDir.isSome ∧
    ∃ text, (s.index.get t).1 = .brokeOff text

theorem phase_gathered (s : Session) : s.gathered.phase = .ending := by
  obtain ⟨a, ha, -⟩ := outline_endActive { s with phase := .ending }
  rw [gathered, ha]
  rfl

/-- Resolving the coverage changes the index at most.  It has an answer unless it breaks off, and
then the share is that of the bundle. -/
theorem resolveCoverage_cases (s : Session) (t : FileTree) :
    (s.BreaksOff t ∧ ∃ index, s.resolveCoverage t = (none, { s with index := index }, t)) ∨
      ¬ s.BreaksOff t ∧ ∃ c index tree,
        s.resolveCoverage t = (some c, { s with index := index }, tree) ∧
          c.percentage = (s.bundle? t).bind CoverageBundle.percentage := by
  unfold resolveCoverage BreaksOff
  cases s.bundle? t with
  | none => exact .inr ⟨by simp, .none, s.index, t, rfl, rfl⟩
  | some b =>
    cases s.options.reportDumpDir with
    | none => exact .inr ⟨by simp, ⟨b.percentage, none⟩, s.index, t, rfl, rfl⟩
    | some dumpDir =>
      -- An index that fails costs the report its source names, one that breaks off the answer.
      obtain ⟨answer, index⟩ := s.index.get t
      cases answer with
      | brokeOff text => exact .inl ⟨⟨rfl, rfl, text, rfl⟩, index, rfl⟩
      | done x => exact .inr ⟨by simp, _, index, _, rfl, rfl⟩
      | failed causes => exact .inr ⟨by simp, _, index, _, rfl, rfl⟩

/-- The two ways in which a running session ends: without a summary, if its coverage breaks off, and
else with one, after its tags were closed. -/
theorem finish_cases (hphase : s.phase = .running) (t : FileTree) :
    (s.gathered.BreaksOff t ∧ ∃ index tags,
        s.finish t = (none, { s.gathered with phase := .ended, index, tags }, t)) ∨
      ¬ s.gathered.BreaksOff t ∧ ∃ (c : SessionCoverage) (last : Session) (tree : FileTree),
        s.finish t = (some (last.summary c), last, tree) ∧
          last.phase = .ended ∧ last.aggregator = s.gathered.aggregator ∧
          last.id = s.id ∧ last.options = s.options ∧ last.tags.closed = true ∧
          c.percentage = (s.gathered.bundle? t).bind CoverageBundle.percentage := by
  obtain ⟨a, ha, -⟩ := outline_endActive { s with phase := .ending }
  have hgathered : s.gathered = { s with phase := .ending, aggregator := a.close.2 } :=
    congrArg closeResults ha
  rw [finish_eq_of_endActive hphase ha, hgathered]
  obtain ⟨hbreaks, index, hresolve⟩ | ⟨hwhole, c, index, tree, hresolve, hshare⟩ :=
    resolveCoverage_cases { s with
      phase := .ending
      aggregator := a.close.2
      tags := s.tags.setAll (finalTags a.totals) } t
  · rw [hresolve]
    exact .inl ⟨hbreaks, index, _, rfl⟩
  · rw [hresolve]
    exact .inr ⟨hwhole, c, _, tree, rfl, rfl, rfl, rfl, rfl, rfl, hshare⟩

/-! ### A session that has ended -/

/-- A session that has ended, with all of its modules, and takes no results. -/
structure Over (s : Session) : Prop where
  phase : s.phase = .ended
  closed : s.aggregator.closed = true
  modules : ∀ m ∈ s.run.modules, m.ended = true

/-- What the summary of a session is built from. -/
structure Basis where
  id : String
  options : SessionOptions
  totals : Totals
  coverage : CoverageStore
  outputDirs : FolderSet
  /-- The modules that are registered. -/
  places : Keyed String Nat
  tags : TagLog

def basis (s : Session) : Basis where
  id := s.id
  options := s.options
  totals := s.totals
  coverage := s.aggregator.coverage
  outputDirs := s.aggregator.outputDirs
  places := s.registry.places
  tags := s.tags

/-- The summary of a session is built from nothing else. -/
theorem summary_of_basis {s s' : Session} (h : s.basis = s'.basis) (c : SessionCoverage) :
    s.summary c = s'.summary c := by
  obtain ⟨hid, hoptions, htotals, -, -, -, htags⟩ := Basis.mk.inj h
  rw [summary, summary, status, status, hid, hoptions, htotals, htags]

/-- The bundle is built from the coverage and the output folders. -/
theorem bundle?_of_basis {s s' : Session} {tags : TagLog}
    (h : s.basis = { s'.basis with tags }) (t : FileTree) : s.bundle? t = s'.bundle? t := by
  obtain ⟨-, -, -, hcoverage, hdirs, -, -⟩ := Basis.mk.inj h
  rw [bundle?, bundle?, hcoverage, hdirs]
  rfl

theorem active_of_isEmpty {r : Registry} (h : r.isEmpty = true) : r.active = [] := by
  rw [Registry.isEmpty, Keyed.isEmpty, List.isEmpty_iff] at h
  rw [Registry.active, Keyed.values, h]
  exact List.mergeSort_nil

namespace Over

theorem startModule (h : s.Over) (t : FileTree) (name : String) (outputDirs : List Path) :
    s.startModule t name outputDirs = (.error (.notRunning .ended), s) := by
  rw [Session.startModule, h.phase]
  rfl

theorem acceptResult (h : s.Over) (r : ModuleResult) : s.acceptResult r = (false, s) := by
  rw [Session.acceptResult, Aggregator.accept, if_pos h.closed]

/-- All modules have ended before. -/
theorem endModule (h : s.Over) (place : Nat) : s.endModule place = (false, s) :=
  endModule_of_ended fun m hm => h.modules m (List.mem_of_getElem? hm)

theorem finish (h : s.Over) (t : FileTree) : s.finish t = (none, s, t) := by
  rw [Session.finish, h.phase]
  rfl

/-- What happens to suites and tests wakes no module. -/
theorem work (h : s.Over) {w : RunStep} (keeps : w.keepsModules = true) :
    (s.mapRun (·.step w)).Over where
  phase := h.phase
  closed := h.closed
  modules m hm := by
    have hstanding : m.standing ∈ s.run.modules.map ModuleRun.standing := by
      rw [← s.run.standings_step keeps]
      exact List.mem_map_of_mem hm
    obtain ⟨m', hm', heq⟩ := List.mem_map.mp hstanding
    exact (congrArg Standing.ended heq).symm.trans (h.modules m' hm')

/-- A session that has ended stays so. -/
theorem call (h : s.Over) (c : SessionCall) : (s.call c).Over := by
  cases c with
  | tag key value => exact ⟨h.phase, h.closed, h.modules⟩
  | finish t =>
    show (s.finish t).2.1.Over
    rw [h.finish]
    exact h
  | step x =>
    cases x with
    | startModule t name outputDirs =>
      show (s.startModule t name outputDirs).2.Over
      rw [h.startModule]
      exact h
    | endModule place =>
      show (s.endModule place).2.Over
      rw [h.endModule]
      exact h
    | signal t signal =>
      cases signal with
      | moduleResult r =>
        show (s.acceptResult r).2.Over
        rw [h.acceptResult]
        exact h
      | moduleSettings q => exact ⟨h.phase, h.closed, h.modules⟩
      | repoIndex => exact ⟨h.phase, h.closed, h.modules⟩
    | work w keeps => exact h.work keeps

/-- What its summary was built from stays, if its tags are closed. -/
theorem basis_call (h : s.Over) (htags : s.tags.closed = true) (c : SessionCall) :
    (s.call c).basis = s.basis := by
  cases c with
  | tag key value =>
    show { s with tags := s.tags.set key value }.basis = s.basis
    rw [TagLog.set_of_closed htags]
  | finish t =>
    show (s.finish t).2.1.basis = s.basis
    rw [h.finish]
  | step x =>
    cases x with
    | startModule t name outputDirs =>
      show (s.startModule t name outputDirs).2.basis = s.basis
      rw [h.startModule]
    | endModule place =>
      show (s.endModule place).2.basis = s.basis
      rw [h.endModule]
    | signal t signal =>
      cases signal with
      | moduleResult r =>
        show (s.acceptResult r).2.basis = s.basis
        rw [h.acceptResult]
      | moduleSettings q => rfl
      | repoIndex => rfl
    | work w keeps => rfl

theorem callAll (h : s.Over) (calls : List SessionCall) : (s.callAll calls).Over := by
  induction calls generalizing s with
  | nil => exact h
  | cons c rest ih => exact ih (h.call c)

theorem basis_callAll (h : s.Over) (htags : s.tags.closed = true) (calls : List SessionCall) :
    (s.callAll calls).basis = s.basis := by
  induction calls generalizing s with
  | nil => rfl
  | cons c rest ih =>
    have hbasis := h.basis_call htags c
    have hclosed : (s.call c).tags.closed = true := by
      rw [(Basis.mk.inj hbasis).2.2.2.2.2.2]
      exact htags
    exact (ih (h.call c) hclosed).trans hbasis

/-- Every further end is answered with nothing. -/
theorem ends (h : s.Over) (calls : List SessionCall) :
    s.ends calls = List.replicate (calls.countP SessionCall.isFinish) none := by
  induction calls generalizing s with
  | nil => rfl
  | cons c rest ih =>
    have hrest := ih (h.call c)
    cases c with
    | finish t =>
      rw [Session.ends, List.countP_cons_of_pos rfl, List.replicate_succ]
      exact congr (congrArg List.cons (congrArg Prod.fst (h.finish t))) hrest
    | step x => exact hrest
    | tag key value => exact hrest

end Over

/-! ### From the start -/

/-- Until it is asked to end, a session runs. -/
theorem running_callAll (h : s.Sound) (hphase : s.phase = .running) {calls : List SessionCall}
    (hquiet : ∀ c ∈ calls, c.isFinish = false) :
    (s.callAll calls).Sound ∧ (s.callAll calls).phase = .running ∧ s.ends calls = [] := by
  induction calls generalizing s with
  | nil => exact ⟨h, hphase, rfl⟩
  | cons c rest ih =>
    have hrest : ∀ c ∈ rest, c.isFinish = false := fun d hd => hquiet d (List.mem_cons_of_mem _ hd)
    cases c with
    | step x => exact ih (h.step x) ((step_spec h x).2.1.trans hphase) hrest
    | tag key value => exact ih (s := s.setTag key value) ⟨h.isOpen, h.roster⟩ hphase hrest
    | finish t => cases hquiet _ (List.mem_cons_self ..)

/-- The first end ends a session, with a summary or without. -/
theorem over_finish (h : s.Sound) (hphase : s.phase = .running) (t : FileTree) :
    (s.finish t).2.1.Over := by
  obtain ⟨-, -, -, hmodules, -⟩ := finish_account h hphase t
  have haggregator := (finish_spec hphase t).1
  refine ⟨?_, ?_, hmodules⟩
  · obtain ⟨-, index, tags, hfinish⟩ | ⟨-, c, last, tree, hfinish, hlast, -⟩ :=
      finish_cases hphase t
    · rw [hfinish]
    · rw [hfinish]
      exact hlast
  · rw [haggregator]
    rfl

/-- How far a session is after some calls depends only on whether it was asked to end. -/
theorem phase_callAll (h : s.Sound) (hphase : s.phase = .running) (calls : List SessionCall) :
    (s.callAll calls).phase = if calls.any SessionCall.isFinish then .ended else .running := by
  induction calls generalizing s with
  | nil => exact hphase
  | cons c rest ih =>
    cases c with
    | step x => exact ih (h.step x) ((step_spec h x).2.1.trans hphase)
    | tag key value => exact ih (s := s.setTag key value) ⟨h.isOpen, h.roster⟩ hphase
    | finish t => exact ((over_finish h hphase t).callAll rest).phase

/-- What a session goes through is in the order of its life. -/
theorem rank_callAll (h : s.Sound) (hphase : s.phase = .running) (calls later : List SessionCall) :
    (s.callAll calls).phase.rank ≤ (s.callAll (calls ++ later)).phase.rank := by
  rw [phase_callAll h hphase, phase_callAll h hphase, List.any_append]
  cases calls.any SessionCall.isFinish with
  | true => exact Nat.le_refl _
  | false => cases later.any SessionCall.isFinish <;> decide

theorem fst_localSettings_ne (s : Session) (t : FileTree) (name : String) (p : SessionPhase) :
    (s.localSettings t name).1 ≠ .error (.notRunning p) := by
  unfold localSettings
  cases s.settings.moduleSettings s.provider t s.options.localIdentity name with
  | mk answer settings => cases answer <;> exact nofun

theorem fst_enterModule_ne (s : Session) (d : ModuleDescriptor) (settings : ExecutionSettings)
    (p : SessionPhase) : (s.enterModule d settings).1 ≠ .error (.notRunning p) := by
  unfold enterModule
  dsimp only
  split <;> exact nofun

/-- A session that runs refuses no module for its phase. -/
theorem startModule_of_running (hphase : s.phase = .running) (t : FileTree) (name : String)
    (outputDirs : List Path) (p : SessionPhase) :
    (s.startModule t name outputDirs).1 ≠ .error (.notRunning p) := by
  have hne := s.fst_localSettings_ne t name p
  rw [startModule, if_neg (not_not_intro hphase)]
  cases hlocal : s.localSettings t name with
  | mk answer after =>
    rw [hlocal] at hne
    cases answer with
    | error e => exact fun he => hne (congrArg Except.error (Except.error.inj he))
    | ok settings => exact after.fst_enterModule_ne _ settings p

/-- What holds of a session that is asked to end for the first time, and is asked for other things
later. -/
structure EndsOnce (before : Session) (t : FileTree) (later : Session) : Prop where
  /-- Before, it runs and refuses no module for its phase. -/
  running : before.phase = .running
  accepting : ∀ t' name outputDirs p,
    (before.startModule t' name outputDirs).1 ≠ .error (.notRunning p)
  /-- While its modules end it is ending, and then it has ended. -/
  ending : before.gathered.phase = .ending
  ended : later.phase = .ended
  /-- It has a summary unless its coverage breaks off. -/
  summed : (before.finish t).1 = none ↔ before.gathered.BreaksOff t
  /-- From then on no module is started, no result is taken in and no module ends; -/
  refused : ∀ t' name outputDirs,
    later.startModule t' name outputDirs = (.error (.notRunning .ended), later)
  ignored : ∀ t' r, handle (handlers t') (.moduleResult r) later = (.moduleAck false, later)
  unmoved : ∀ place, later.endModule place = (false, later)
  /-- once there is a summary, no tag is written; -/
  sealed : ∀ summary, (before.finish t).1 = some summary →
    later.tags.accepts = false ∧ ∀ key value, later.setTag key value = later
  /-- no module is registered, the totals, the coverage and the output folders are those of the
  session when everything had been taken in, and the tags are those that its end has left; -/
  kept : ∀ summary, (before.finish t).1 = some summary →
    later.registry.active = [] ∧
      later.basis = { before.gathered.basis with tags := (before.finish t).2.1.tags }
  /-- and this is what the summary says. -/
  told : ∀ summary, (before.finish t).1 = some summary →
    Summary.phase = later.phase ∧
      summary = later.summary ⟨summary.coveragePercentage, summary.reportFolder⟩ ∧
      summary.coveragePercentage = (later.bundle? t).bind CoverageBundle.percentage

/-- A session that has a summary keeps what it was built from, whatever is asked of it later: all of
it stands as it did when everything had been taken in, up to the last tags. -/
theorem kept_of_summary (h : s.Sound) (hphase : s.phase = .running) {summary : Summary}
    (hsome : (s.finish t).1 = some summary) (rest : List SessionCall) :
    (s.finish t).2.1.tags.closed = true ∧
      ((s.finish t).2.1.callAll rest).basis = (s.finish t).2.1.basis ∧
      (s.finish t).2.1.basis = { s.gathered.basis with tags := (s.finish t).2.1.tags } ∧
      summary = (s.finish t).2.1.summary ⟨summary.coveragePercentage, summary.reportFolder⟩ ∧
      summary.coveragePercentage = (s.gathered.bundle? t).bind CoverageBundle.percentage := by
  have hover := over_finish h hphase t
  obtain ⟨-, index, tags, hfinish⟩ | ⟨-, c, last, tree, hfinish, -, haggregator, hid, hoptions,
    htags, hshare⟩ := finish_cases hphase t
  · rw [hfinish] at hsome
    cases hsome
  · rw [hfinish] at hsome hover ⊢
    obtain rfl := Option.some_inj.mp hsome
    refine ⟨htags, hover.basis_callAll htags rest, ?_, rfl, hshare⟩
    obtain ⟨a, ha, -⟩ := outline_endActive { s with phase := .ending }
    rw [basis, registry, totals, haggregator, hid, hoptions, gathered, ha]
    rfl

/-- The first end of a session that runs, and whatever comes later. -/
theorem endsOnce (h : s.Sound) (hphase : s.phase = .running) (t : FileTree)
    (rest : List SessionCall) : s.EndsOnce t ((s.finish t).2.1.callAll rest) := by
  have hlater := (over_finish h hphase t).callAll rest
  refine
    { running := hphase
      accepting := startModule_of_running hphase
      ending := s.phase_gathered
      ended := hlater.phase
      summed := ?summed
      refused := hlater.startModule
      ignored := ?ignored
      unmoved := hlater.endModule
      sealed := ?sealed
      kept := ?kept
      told := ?told }
  case summed =>
    obtain ⟨hbreaks, index, tags, hfinish⟩ | ⟨hwhole, c, last, tree, hfinish, -⟩ :=
      finish_cases hphase t
    · exact iff_of_true (congrArg Prod.fst hfinish) hbreaks
    · refine iff_of_false (fun hnone => ?_) hwhole
      rw [hfinish] at hnone
      cases hnone
  case ignored =>
    intro t' r
    rw [handle_moduleResult, hlater.acceptResult]
  case sealed =>
    intro summary hsome
    obtain ⟨htags, hbasis, -⟩ := kept_of_summary h hphase hsome rest
    have hclosed : ((s.finish t).2.1.callAll rest).tags.closed = true := by
      rw [(Basis.mk.inj hbasis).2.2.2.2.2.2]
      exact htags
    refine ⟨?_, fun key value => ?_⟩
    · rw [TagLog.accepts, hclosed, Bool.not_true]
    · rw [setTag, TagLog.set_of_closed hclosed]
  case kept =>
    intro summary hsome
    obtain ⟨-, hbasis, hgathered, -⟩ := kept_of_summary h hphase hsome rest
    have hplaces : ((s.finish t).2.1.callAll rest).registry.places =
        (s.finish t).2.1.registry.places := (Basis.mk.inj hbasis).2.2.2.2.2.1
    obtain ⟨-, hempty, -⟩ := finish_account h hphase t
    refine ⟨active_of_isEmpty ?_, hbasis.trans hgathered⟩
    rw [Registry.isEmpty, hplaces]
    exact hempty
  case told =>
    intro summary hsome
    obtain ⟨-, hbasis, hgathered, hsummary, hshare⟩ := kept_of_summary h hphase hsome rest
    refine ⟨hlater.phase.symm, ?_, ?_⟩
    · rw [summary_of_basis hbasis]
      exact hsummary
    · rw [bundle?_of_basis (hbasis.trans hgathered)]
      exact hshare

/-- **A session ends once.**  It runs until it is first asked to end, and has ended from then on,
whatever it is asked for in between.  Every other end is answered with nothing. -/
theorem ends_once {id : String} {options : SessionOptions} {provider : SettingsProvider}
    {index : IndexSource} {got : Option SocketAddress}
    (hstart : Session.start id options provider index got = .ok s₀) :
    (∀ calls, (s₀.callAll calls).phase =
        if calls.any SessionCall.isFinish then .ended else .running) ∧
      (∀ calls later,
        (s₀.callAll calls).phase.rank ≤ (s₀.callAll (calls ++ later)).phase.rank) ∧
      ∀ quiet, (∀ c ∈ quiet, SessionCall.isFinish c = false) → s₀.ends quiet = [] ∧
        ∀ t rest, s₀.ends (quiet ++ .finish t :: rest) =
            ((s₀.callAll quiet).finish t).1 ::
              List.replicate (rest.countP SessionCall.isFinish) none ∧
          (s₀.callAll quiet).EndsOnce t (s₀.callAll (quiet ++ .finish t :: rest)) := by
  obtain ⟨h₀, hphase₀, -⟩ := sound_start hstart
  refine ⟨phase_callAll h₀ hphase₀, rank_callAll h₀ hphase₀, fun quiet hquiet => ?_⟩
  obtain ⟨h, hphase, hsilent⟩ := running_callAll h₀ hphase₀ hquiet
  refine ⟨hsilent, fun t rest => ⟨?_, ?_⟩⟩
  · rw [ends_append, hsilent, ends, (over_finish h hphase t).ends, List.nil_append]
  · rw [callAll_append]
    exact endsOnce h hphase t rest

/-- A module is still active when its session ends.  A result that arrives for it later, another
module, a tag and a second end change nothing. -/
theorem late_calls_change_nothing :
    let s₀ : Session := ⟨"s", .initial "project" "build", .running,
      TagLog.empty.set Tag.command (.str "build"), .empty, .always .initial, .empty,
      .given (.failed []), 1, SignalServer.anyPort⟩
    let t : FileTree := ⟨[], [], [], []⟩
    let r : ModuleResult := ⟨"s", 1, "core", true, false, false, false, some "fail", 3, none⟩
    let quiet : List SessionCall := [.step (.startModule t "core" []), .tag "owner" (.str "ci")]
    let rest : List SessionCall := [.step (.signal t (.moduleResult r)),
      .step (.startModule t "api" []), .tag "owner" (.str "cd"), .finish t]
    Session.start "s" (.initial "project" "build") (.always .initial) (.given (.failed []))
        (some SignalServer.anyPort) = .ok s₀ ∧
      (∀ c ∈ quiet, SessionCall.isFinish c = false) ∧
      ∃ summary, s₀.ends (quiet ++ .finish t :: rest) = [some summary, none] ∧
        summary = (s₀.callAll (quiet ++ .finish t :: rest)).summary
          ⟨summary.coveragePercentage, summary.reportFolder⟩ ∧
        summary.modules.total = 1 ∧
        (s₀.callAll (quiet ++ .finish t :: rest)).tags.accepts = false := by
  intro s₀ t r quiet rest
  have hstart : Session.start "s" (.initial "project" "build") (.always .initial)
      (.given (.failed [])) (some SignalServer.anyPort) = .ok s₀ := rfl
  have hquiet : ∀ c ∈ quiet, SessionCall.isFinish c = false := by simp [quiet, SessionCall.isFinish]
  obtain ⟨-, -, hlife⟩ := ends_once hstart
  obtain ⟨-, hends⟩ := hlife quiet hquiet
  obtain ⟨hanswers, honce⟩ := hends t rest
  have hended : ((s₀.callAll quiet).finish t).1.isSome = true := by decide +kernel
  obtain ⟨summary, hsummary⟩ := Option.isSome_iff_exists.mp hended
  have hcount : (((s₀.callAll quiet).finish t).1.any fun x => x.modules.total == 1) = true := by
    decide +kernel
  rw [hsummary, Option.any_some, beq_iff_eq] at hcount
  rw [hsummary] at hanswers
  exact ⟨hstart, hquiet, summary, hanswers, (honce.told summary hsummary).2.1, hcount,
    (honce.sealed summary hsummary).1⟩

/-- The index breaks off while the report of a session is written: its first end has no summary,
though the session ran and has ended then. -/
theorem broken_index_leaves_no_summary :
    let options : SessionOptions :=
      { SessionOptions.initial "p" "c" with reportDumpDir := some "rep", repoRoot := "r/" }
    let settings : ExecutionSettings := { ExecutionSettings.initial with coverageEnabled := true }
    let s₀ : Session := ⟨"s", options, .running, TagLog.empty.set Tag.command (.str "c"), .empty,
      .always settings, .empty, .given (.brokeOff (some "boom")), 1, SignalServer.anyPort⟩
    let a : ClassAnalysis := ⟨1, "x.A", none, [⟨1, 1⟩, ⟨1, 2⟩, ⟨3, 0⟩]⟩
    let t : FileTree := ⟨["w"], [(["w", "o", "A.probes.json"], Text.encode a.toJson.text)], [], []⟩
    let quiet : List SessionCall := [.step (.startModule t "core" ["o/"]),
      .step (.work (.addCoverage 0 (.ofList [⟨1, "x.A", [true, false, false]⟩])) rfl),
      .step (.endModule 0)]
    Session.start "s" options (.always settings) (.given (.brokeOff (some "boom")))
        (some SignalServer.anyPort) = .ok s₀ ∧
      (s₀.callAll quiet).phase = .running ∧ s₀.ends (quiet ++ [.finish t]) = [none] ∧
      (s₀.callAll (quiet ++ [.finish t])).phase = .ended := by
  intro options settings s₀ a t quiet
  have hstart : Session.start "s" options (.always settings) (.given (.brokeOff (some "boom")))
      (some SignalServer.anyPort) = .ok s₀ := rfl
  obtain ⟨h₀, hphase₀, -⟩ := sound_start hstart
  have hends : s₀.ends (quiet ++ [.finish t]) = [((s₀.callAll quiet).finish t).1] := rfl
  have hnone : ((s₀.callAll quiet).finish t).1.isNone = true := by decide +kernel
  refine ⟨hstart, phase_callAll h₀ hphase₀ quiet, ?_,
    phase_callAll h₀ hphase₀ (quiet ++ [.finish t])⟩
  rw [hends, Option.isNone_iff_eq_none.mp hnone]

end Session

end TestTelemetry
