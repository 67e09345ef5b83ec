/-
A session step by step.

While a session runs, modules are started and ended in its own process, workers send their signals,
and the suites and tests of its modules go their way.

* `SessionStep` — one thing that can happen to a running session;
* `Session.step`, `Session.follow` — the session after one step, and after several;
* `Session.starts`, `Session.removals` — the modules that were started along some steps, and those
  that ended because a worker's result removed them.
-/
import TestTelemetry.Proofs.Lifecycle.Step
import TestTelemetry.Session.Summary

namespace TestTelemetry

/-- Whether a step of a run neither starts nor ends a module. -/
def RunStep.keepsModules : RunStep → Bool
  | startModule .. => false
  | endModule _ => false
  | endModuleWith .. => false
  | _ => true

/-- One thing that can happen to a running session. -/
inductive SessionStep
  | startModule (t : FileTree) (name : String) (outputDirs : List Path)
  | endModule (place : Nat)
  /-- A worker's signal comes to its handler. -/
  | signal (t : FileTree) (signal : Signal)
  /-- Something happens to the suites and tests of a module, or to its tags and counts. -/
  | work (w : RunStep) (keeps : w.keepsModules = true)

/-- Whether a step asks for a module to be started. -/
def SessionStep.asksForModule : SessionStep → Bool
  | startModule .. => true
  | _ => false

namespace Session

/-- The session after one step. -/
def step (s : Session) : SessionStep → Session
  | .startModule t name outputDirs => (s.startModule t name outputDirs).2
  | .endModule place => (s.endModule place).2
  | .signal t signal => (handle (handlers t) signal s).2
  | .work w _ => s.mapRun (·.step w)

/-- The session after some steps. -/
def follow (s : Session) (steps : List SessionStep) : Session := steps.foldl step s

/-- What some steps yield, each asked of the session that it happens to. -/
def along {β : Type} (f : Session → SessionStep → Option β) (s : Session) :
    List SessionStep → List β
  | [] => []
  | x :: rest => (f s x).toList ++ along f (s.step x) rest

/-- The place of the module that a step starts, if it starts one. -/
def started? (s : Session) : SessionStep → Option Nat
  | .startModule t name outputDirs => (s.startModule t name outputDirs).1.toOption
  | _ => none

/-- The places of the modules that are started along some steps. -/
def starts (s : Session) (steps : List SessionStep) : List Nat := s.along started? steps

/-- The place of the module that a worker's result is said to have removed, if it is. -/
def removal? (s : Session) : SessionStep → Option Nat
  | .signal t (.moduleResult r) =>
    if (handle (handlers t) (.moduleResult r) s).1 = .moduleAck true then s.registry.owner? r
    else none
  | _ => none

/-- The places of the modules that workers' results remove along some steps. -/
def removals (s : Session) (steps : List SessionStep) : List Nat := s.along removal? steps

/-- A step that is no worker's result, or one that removes a module and names a status. -/
def Counts (s : Session) : SessionStep → Prop
  | .signal t (.moduleResult r) =>
    (handle (handlers t) (.moduleResult r) s).1 = .moduleAck true ∧ (Totals.statusOf r).isSome
  | _ => True

/-- Every worker's result among some steps removes a module and names a status. -/
def EachResultCounts (s : Session) (steps : List SessionStep) : Prop :=
  ∀ before x after, steps = before ++ x :: after → (s.follow before).Counts x

theorem eachResultCounts_nil (s : Session) : s.EachResultCounts [] :=
  fun _ _ _ heq => absurd heq (by simp)

theorem eachResultCounts_cons {s : Session} {x : SessionStep} {rest : List SessionStep} :
    s.EachResultCounts (x :: rest) ↔ s.Counts x ∧ (s.step x).EachResultCounts rest := by
  constructor
  · intro h
    refine ⟨h [] x rest rfl, fun before y after heq => ?_⟩
    exact h (x :: before) y after (by rw [heq]; rfl)
  · rintro ⟨hx, hrest⟩ (_ | ⟨z, before⟩) y after heq
    · obtain ⟨rfl, -⟩ := List.cons.inj heq
      exact hx
    · obtain ⟨rfl, hlater⟩ := List.cons.inj heq
      exact hrest before y after hlater

end Session

end TestTelemetry
