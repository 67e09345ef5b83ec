/-
Outcomes and their roll-up.

* `Status` — how a test, a suite, a module or a session went;
* `StatusCounts` — the outcomes of the parts; any failure fails the whole, and
  the whole is skipped when it has parts and all of them were skipped;
* `Failure` — what a test framework says of a failure.
-/
import TestTelemetry.Json.Decoder

namespace TestTelemetry

/-- How something went. -/
inductive Status
  | pass
  | fail
  | skip
deriving DecidableEq, Repr, Inhabited

namespace Status

def name : Status → String
  | pass => "pass"
  | fail => "fail"
  | skip => "skip"

/-- The status with a given name. -/
def ofName? (s : String) : Option Status :=
  if s = "pass" then some pass
  else if s = "fail" then some fail
  else if s = "skip" then some skip
  else none

@[simp]
theorem ofName?_name (s : Status) : ofName? s.name = some s := by cases s <;> rfl

def toJson (s : Status) : Json := .str s.name

def decoder : Json.Decoder Status := Json.Decoder.variant ofName?

end Status

/-- How often each status came up. -/
structure StatusCounts where
  passed : Nat
  failed : Nat
  skipped : Nat
deriving DecidableEq, Repr

namespace StatusCounts

def zero : StatusCounts := ⟨0, 0, 0⟩

instance : Inhabited StatusCounts := ⟨zero⟩

def record (c : StatusCounts) : Status → StatusCounts
  | .pass => { c with passed := c.passed + 1 }
  | .fail => { c with failed := c.failed + 1 }
  | .skip => { c with skipped := c.skipped + 1 }

def total (c : StatusCounts) : Nat := c.passed + c.failed + c.skipped

/-- The status of the whole. -/
def status (c : StatusCounts) : Status :=
  if c.failed > 0 then .fail
  else if c.total > 0 ∧ c.skipped = c.total then .skip
  else .pass

/-- How often a status was recorded. -/
def count (c : StatusCounts) : Status → Nat
  | .pass => c.passed
  | .fail => c.failed
  | .skip => c.skipped

@[simp]
theorem count_record (c : StatusCounts) (s t : Status) :
    (c.record s).count t = c.count t + if s = t then 1 else 0 := by
  cases s <;> cases t <;> rfl

@[simp]
theorem total_record (c : StatusCounts) (s : Status) : (c.record s).total = c.total + 1 := by
  cases s <;> simp only [record, total] <;> omega

def toJson (c : StatusCounts) : Json :=
  .obj [("passed", .int c.passed), ("failed", .int c.failed), ("skipped", .int c.skipped)]

end StatusCounts

/-- A failure, as the test framework reports it. -/
structure Failure where
  kind : Option String
  message : String
deriving DecidableEq, Repr

namespace Failure

def toJson (f : Failure) : Json :=
  .obj [("kind", Json.ofOption .str f.kind), ("message", .str f.message)]

def record : Json.Record Failure :=
  Failure.mk <$> Json.Record.optional "kind" Json.Decoder.string
    <*> Json.Record.required "message" Json.Decoder.string

def decoder : Json.Decoder Failure := record.decoder

end Failure

end TestTelemetry
