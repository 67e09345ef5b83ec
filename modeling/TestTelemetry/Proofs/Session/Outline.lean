/-
What of a session can still matter for its outcome.

A module that has ended keeps the tags of the result that ended it, and nothing reads them again.
An *outline* forgets them: of a module that has ended it keeps what the module is known by.  What
results do to a session, and what its end makes of them, can be said of outlines.

* `Outline`, `Aggregator.outline` — the state as far as it matters;
* `Aggregator.outline_accept`, `Session.outline_endModule` — results and ends of modules, seen on
  outlines;
* `Session.finish_of_outline` — the summary depends on the outline only.
-/
import TestTelemetry.Proofs.Data.Keyed
import TestTelemetry.Proofs.Data.Modify
import TestTelemetry.Session.Summary

namespace TestTelemetry

/-- A module by what it is known by, with all of it while it runs. -/
structure ModuleOutline where
  descriptor : ModuleDescriptor
  running : Option ModuleRun

/-- The module once it has ended. -/
def ModuleOutline.seal (m : ModuleOutline) : ModuleOutline := { m with running := none }

def ModuleRun.outline (m : ModuleRun) : ModuleOutline :=
  ⟨m.descriptor, if m.ended then none else some m⟩

/-- The state of a session as far as results change it and its end looks at it. -/
structure Outline where
  totals : Totals
  coverage : CoverageStore
  outputDirs : FolderSet
  places : Keyed String Nat
  modules : List ModuleOutline
  closed : Bool

def Aggregator.outline (a : Aggregator) : Outline where
  totals := a.totals
  coverage := a.coverage
  outputDirs := a.outputDirs
  places := a.registry.places
  modules := a.registry.run.modules.map ModuleRun.outline
  closed := a.closed

namespace Outline

/-- The place of the module that a result belongs to. -/
def owner? (o : Outline) (r : ModuleResult) : Option Nat :=
  (o.places.find? r.moduleName).bind fun place =>
    o.modules[place]?.bind fun m => if m.descriptor.id = r.moduleId then some place else none

/-- What a result adds to what the session has counted and merged. -/
def gain (o : Outline) (r : ModuleResult) : Outline :=
  { o with
    totals := o.totals.add r
    coverage := match r.coverage with
      | some c => o.coverage.merge c
      | none => o.coverage }

/-- The module that a result belongs to ends, and is active no more. -/
def release (o : Outline) (r : ModuleResult) : Outline :=
  match o.owner? r with
  | none => o
  | some place =>
    { o with
      places := o.places.erase r.moduleName
      modules := o.modules.modify place ModuleOutline.seal }

/-- A result arrives. -/
def accept (o : Outline) (r : ModuleResult) : Outline :=
  if o.closed then o else (o.gain r).release r

/-- The module at a place ends by itself, and its result arrives. -/
def endModule (o : Outline) (place : Nat) : Outline :=
  match o.modules[place]?.bind ModuleOutline.running with
  | none => o
  | some m => { o with modules := o.modules.modify place ModuleOutline.seal }.accept m.result

/-- The active modules with their places, in the order of their numbers. -/
def active (o : Outline) : List (Nat × ModuleOutline) :=
  (o.places.values.filterMap fun place => o.modules[place]?.map (place, ·)).mergeSort
    fun m n => m.2.descriptor.id ≤ n.2.descriptor.id

/-- End the modules that are still active, in the order of their numbers. -/
def endActive (o : Outline) : Outline := (o.active.map (·.1)).foldl endModule o

end Outline

/-! ### Results and ends, seen on outlines -/

namespace ModuleRun

/-- A module that ends is sealed, whatever result it ends with. -/
theorem outline_endWith (m : ModuleRun) (r : ModuleResult) :
    (if m.ended then m else m.finish r).outline = m.outline.seal := by
  unfold outline ModuleOutline.seal
  by_cases h : m.ended
  · simp [h]
  · simp [h, finish]

theorem running_outline {m m' : ModuleRun} :
    m.outline.running = some m' ↔ m.ended = false ∧ m = m' := by
  unfold outline
  cases m.ended <;> simp

end ModuleRun

theorem Run.outlines_endModuleWith (r : Run) (place : Nat) (result : ModuleResult) :
    (r.endModuleWith place result).modules.map ModuleRun.outline =
      (r.modules.map ModuleRun.outline).modify place ModuleOutline.seal :=
  map_modify fun m => m.outline_endWith result

/-- A result belongs to a module of the registry as it does on the outline. -/
theorem Aggregator.owner?_outline (a : Aggregator) (r : ModuleResult) :
    a.outline.owner? r = a.registry.owner? r := by
  unfold Outline.owner? Registry.owner? Registry.find? Registry.moduleAt? outline
  cases a.registry.places.find? r.moduleName with
  | none => rfl
  | some place =>
    simp only [Option.bind_some, List.getElem?_map]
    cases a.registry.run.modules[place]? <;> rfl

/-- A result that arrives, seen on the outline. -/
theorem Aggregator.outline_accept (a : Aggregator) (r : ModuleResult) :
    (a.accept r).2.outline = a.outline.accept r := by
  unfold Aggregator.accept Outline.accept
  by_cases hclosed : a.closed
  · rw [if_pos hclosed, if_pos (show a.outline.closed = true from hclosed)]
  · have howner : (a.outline.gain r).owner? r = a.registry.owner? r := a.owner?_outline r
    rw [if_neg hclosed, if_neg (show ¬ a.outline.closed = true from hclosed), Outline.release,
      howner, Registry.onResult]
    cases a.registry.owner? r with
    | none => rfl
    | some place =>
      -- Both sides gain the same; what is left is the module that ends.
      exact congrArg (fun modules => { a.outline.gain r with
        places := a.registry.places.erase r.moduleName, modules })
        (a.registry.run.outlines_endModuleWith place r)

/-- The active modules, seen on the outline. -/
theorem Aggregator.active_outline (a : Aggregator) :
    a.outline.active = a.registry.active.map fun m => (m.1, m.2.outline) := by
  unfold Outline.active Registry.active
  have hsort : ∀ l : List (Nat × ModuleRun),
      (l.mergeSort fun m n => m.2.descriptor.id ≤ n.2.descriptor.id).map
          (fun m => (m.1, m.2.outline)) =
        (l.map fun m => (m.1, m.2.outline)).mergeSort fun m n =>
          m.2.descriptor.id ≤ n.2.descriptor.id := by
    intro l
    exact List.map_mergeSort (by intros; rfl)
  rw [hsort, List.map_filterMap]
  have hplace : ∀ place, (a.outline.modules[place]?.map (place, ·)) =
      ((a.registry.moduleAt? place).map (place, ·)).map fun m => (m.1, m.2.outline) := by
    intro place
    simp only [outline, Registry.moduleAt?, List.getElem?_map, Option.map_map]
    rfl
  simp only [hplace]
  rfl

namespace Session

variable {s : Session} {a b : Aggregator}

/-- The end of a module of the session, seen on the outline.  Nothing else changes. -/
theorem outline_endModule (s : Session) (place : Nat) :
    ∃ a, (s.endModule place).2 = { s with aggregator := a } ∧
      a.outline = s.aggregator.outline.endModule place := by
  have hplace : s.aggregator.outline.modules[place]? =
      s.run.modules[place]?.map ModuleRun.outline := List.getElem?_map ..
  unfold endModule Outline.endModule Run.endModule
  rw [hplace]
  cases hm : s.run.modules[place]? with
  | none => exact ⟨s.aggregator, rfl, rfl⟩
  | some m =>
    cases hended : m.ended with
    | true =>
      -- A module ends once.
      have hsealed : m.outline.running = none := by
        rw [ModuleRun.outline, hended]
        rfl
      simp only [Option.map_some, Option.bind_some, hsealed, hended, if_true]
      exact ⟨s.aggregator, rfl, rfl⟩
    | false =>
      have hrunning : m.outline.running = some m := ModuleRun.running_outline.mpr ⟨hended, rfl⟩
      simp only [Option.map_some, Option.bind_some, hrunning, hended, Bool.false_eq_true, if_false]
      refine ⟨_, rfl, ?_⟩
      show (Aggregator.accept _ _).2.outline = _
      rw [Aggregator.outline_accept]
      show Outline.accept _ _ = Outline.accept _ _
      congr 1
      simp only [Aggregator.outline, mapRun, Aggregator.mapRun, Run.outlines_endModuleWith]
      rfl

/-- The end of the active modules, seen on the outline.  Nothing else changes. -/
theorem outline_endActive (s : Session) :
    ∃ a, s.endActive = { s with aggregator := a } ∧
      a.outline = s.aggregator.outline.endActive := by
  have hfold : ∀ (l : List (Nat × ModuleRun)) (s : Session),
      ∃ a, l.foldl (fun s m => (s.endModule m.1).2) s = { s with aggregator := a } ∧
        a.outline = (l.map (·.1)).foldl Outline.endModule s.aggregator.outline := by
    intro l
    induction l with
    | nil => exact fun s => ⟨s.aggregator, rfl, rfl⟩
    | cons m rest ih =>
      intro s
      obtain ⟨a, ha, hao⟩ := s.outline_endModule m.1
      obtain ⟨b, hb, hbo⟩ := ih { s with aggregator := a }
      refine ⟨b, ?_, ?_⟩
      · rw [List.foldl_cons, ha, hb]
      · rw [hbo, List.map_cons, List.foldl_cons, ← hao]
  obtain ⟨a, ha, hao⟩ := hfold s.registry.active s
  refine ⟨a, ha, ?_⟩
  rw [hao, Outline.endActive, Aggregator.active_outline, List.map_map]
  rfl

/-- The report of a bundle has nothing to do with results. -/
theorem writeReportOf_eq (s : Session) (a b : Aggregator) (t : FileTree) (bundle : CoverageBundle)
    (index : Option RepoIndex) (dumpDir : Path) :
    { s with aggregator := b }.writeReportOf t bundle index dumpDir =
      { s with aggregator := a }.writeReportOf t bundle index dumpDir := by
  unfold writeReportOf reportFolder
  with_reducible rfl

/-- What results have done to a session stays when its coverage is resolved. -/
theorem aggregator_resolveCoverage (s : Session) (t : FileTree) :
    (s.resolveCoverage t).2.1.aggregator = s.aggregator := by
  unfold resolveCoverage
  cases s.bundle? t with
  | none => rfl
  | some bundle =>
    cases s.options.reportDumpDir with
    | none => rfl
    | some dumpDir =>
      obtain ⟨answer, index⟩ := s.index.get t
      cases answer <;> rfl

/-- The coverage of a session is resolved from the merged record and the folders. -/
theorem resolveCoverage_of_eq (s : Session) (hc : a.coverage = b.coverage)
    (hd : a.outputDirs = b.outputDirs) (t : FileTree) :
    { s with aggregator := b }.resolveCoverage t =
      let answer := { s with aggregator := a }.resolveCoverage t
      (answer.1, { answer.2.1 with aggregator := b }, answer.2.2) := by
  have hbundle : Session.bundle? { s with aggregator := b } t =
      Session.bundle? { s with aggregator := a } t := by
    unfold bundle?
    rw [hc, hd]
  unfold resolveCoverage
  rw [hbundle]
  cases Session.bundle? { s with aggregator := a } t with
  | none => rfl
  | some bundle =>
    cases s.options.reportDumpDir with
    | none => rfl
    | some dumpDir =>
      obtain ⟨answer, index⟩ := s.index.get t
      cases answer with
      | brokeOff text => rfl
      | done x =>
        dsimp only
        rw [writeReportOf_eq { s with index } a b]
      | failed causes =>
        dsimp only
        rw [writeReportOf_eq { s with index } a b]

/-- The end of a running session, once its active modules have ended. -/
theorem finish_eq_of_endActive (hphase : s.phase = .running)
    (ha : { s with phase := .ending }.endActive = { s with phase := .ending, aggregator := a })
    (t : FileTree) :
    s.finish t = match { s with
        phase := .ending
        aggregator := a.close.2
        tags := s.tags.setAll (finalTags a.totals) }.resolveCoverage t with
      | (none, s, t) => (none, { s with phase := .ended }, t)
      | (some c, s, t) => (some ((s.conclude c).summary c), s.conclude c, t) := by
  unfold finish
  rw [if_neg (by rw [hphase]; exact not_not_intro rfl), ha]
  rfl

/-- **The summary of a session depends on its outline only**, and so does the report that its end
writes. -/
theorem finish_of_outline (s : Session) (h : a.outline = b.outline) (t : FileTree) :
    ({ s with aggregator := a }.finish t).1 = ({ s with aggregator := b }.finish t).1 ∧
      ({ s with aggregator := a }.finish t).2.2 = ({ s with aggregator := b }.finish t).2.2 := by
  by_cases hphase : s.phase = .running
  · obtain ⟨a', ha, hao⟩ := outline_endActive { s with aggregator := a, phase := .ending }
    obtain ⟨b', hb, hbo⟩ := outline_endActive { s with aggregator := b, phase := .ending }
    have hout : a'.outline = b'.outline := by
      rw [hao, hbo]
      exact congrArg Outline.endActive h
    have htotals : a'.totals = b'.totals := congrArg Outline.totals hout
    have hcover := resolveCoverage_of_eq (a := a'.close.2) (b := b'.close.2)
      { s with phase := .ending, tags := s.tags.setAll (finalTags a'.totals) }
      (congrArg Outline.coverage hout) (congrArg Outline.outputDirs hout) t
    have hkeep := aggregator_resolveCoverage { s with
      phase := .ending, aggregator := a'.close.2, tags := s.tags.setAll (finalTags a'.totals) } t
    rw [finish_eq_of_endActive (s := { s with aggregator := a }) hphase ha,
      finish_eq_of_endActive (s := { s with aggregator := b }) hphase hb]
    simp only [← htotals, hcover]
    generalize Session.resolveCoverage _ t = answer at hkeep ⊢
    obtain ⟨c, last, tree⟩ := answer
    cases c with
    | none => exact ⟨rfl, rfl⟩
    | some c =>
      -- Both sessions end with the same totals, so with the same status.
      have hlast : last.aggregator.totals = b'.close.2.totals := by
        rw [show last.aggregator = a'.close.2 from hkeep]
        exact htotals
      refine ⟨?_, rfl⟩
      simp only [summary, conclude, status, totals, hlast]
  · have hstays : ∀ c : Aggregator, { s with aggregator := c }.finish t =
        (none, { s with aggregator := c }, t) := fun c => if_pos hphase
    rw [hstays, hstays]
    exact ⟨rfl, rfl⟩

end Session

end TestTelemetry
