/-
Replaying a script of events.

A script has one event a line; blank lines are skipped.  The events before the
first line that is no event are applied, and that line is named by its number.

* `ScriptError` — the first line that is no event;
* `replay` — a handler after a script.
-/
import TestTelemetry.Worker.Handler
import TestTelemetry.Text.Lines
import TestTelemetry.Text.Blank

namespace TestTelemetry

/-- A line of a script that is no event, counted from one. -/
structure ScriptError where
  line : Nat
  cause : Json.DecodeError
deriving DecidableEq, Repr

/-- A handler after some lines, the number of events applied, and the fault that ended
the replay, if one did. -/
structure Replayed where
  handler : Handler
  applied : Nat
  fault : Option ScriptError

/-- Apply lines from a given number on. -/
def replayLines (number : Nat) (done : Replayed) : List (List Char) → Replayed
  | [] => done
  | line :: rest =>
    if line.all Text.isBlank then replayLines (number + 1) done rest
    else
      match WorkerEvent.ofLine line with
      | .ok event =>
        replayLines (number + 1)
          { done with handler := done.handler.apply event, applied := done.applied + 1 } rest
      | .error e => { done with fault := some ⟨number, e⟩ }

/-- Apply a script. -/
def replay (h : Handler) (script : List Char) : Replayed :=
  replayLines 1 ⟨h, 0, none⟩ (Text.lines script)

end TestTelemetry
