/-
Events that a test framework reports.

An event names a suite, and a test of it, by a key.  Keys are compared as a
whole: two suites of one name with different code units are different suites.

* `SuiteKey`, `TestKey` — what suites and tests are told apart by;
* `WorkerEvent` — the events, and their JSON form.
-/
import TestTelemetry.Coverage.Store
import TestTelemetry.Outcome.Status

namespace TestTelemetry

open Json (Decoder Record)

/-- A suite, as a framework names it. -/
structure SuiteKey where
  name : String
  codeUnit : Option String
deriving DecidableEq, Repr

/-- A test, as a framework names it; the qualifier tells repeated runs apart. -/
structure TestKey where
  suite : SuiteKey
  name : String
  parameters : Option String
  qualifier : Option String
deriving DecidableEq, Repr

/-- The name of the test in all processes. -/
def TestKey.identifier (t : TestKey) : TestIdentifier := ⟨t.suite.name, t.name, t.parameters⟩

/-- What a framework reports. -/
inductive WorkerEvent
  | suiteStart (suite : SuiteKey) (parallelized : Bool)
  | suiteSkip (suite : SuiteKey) (reason : Option String)
  | suiteFailure (suite : SuiteKey) (failure : Failure)
  | suiteFinish (suite : SuiteKey)
  | testStart (test : TestKey)
  | testSkip (test : TestKey) (reason : Option String)
  | testFailure (test : TestKey) (failure : Failure)
  | testFinish (test : TestKey)
  | coverage (classes : CoverageStore)
deriving DecidableEq

def SuiteKey.record : Record SuiteKey :=
  SuiteKey.mk <$> Record.required "suite" Decoder.string
    <*> Record.optional "code_unit" Decoder.string

def TestKey.record : Record TestKey :=
  TestKey.mk <$> SuiteKey.record
    <*> Record.required "name" Decoder.string
    <*> Record.optional "parameters" Decoder.string
    <*> Record.optional "qualifier" Decoder.string

/-- The members that name a suite. -/
def SuiteKey.members (s : SuiteKey) : List (String × Json) :=
  [("suite", .str s.name), ("code_unit", Json.ofOption .str s.codeUnit)]

/-- The members that name a test. -/
def TestKey.members (t : TestKey) : List (String × Json) :=
  t.suite.members ++ [("name", .str t.name), ("parameters", Json.ofOption .str t.parameters),
    ("qualifier", Json.ofOption .str t.qualifier)]

namespace WorkerEvent

/-- The member that names the kind of an event. -/
def kindMember : String := "event"

def reason : Record (Option String) := Record.optional "reason" Decoder.string

def failure : Record Failure := Record.required "error" Failure.decoder

def recordOf? (name : String) : Option (Record WorkerEvent) :=
  if name = "suite_start" then
    some (suiteStart <$> SuiteKey.record <*> Record.withDefault "parallelized" Decoder.bool false)
  else if name = "suite_skip" then some (suiteSkip <$> SuiteKey.record <*> reason)
  else if name = "suite_failure" then some (suiteFailure <$> SuiteKey.record <*> failure)
  else if name = "suite_finish" then some (suiteFinish <$> SuiteKey.record)
  else if name = "test_start" then some (testStart <$> TestKey.record)
  else if name = "test_skip" then some (testSkip <$> TestKey.record <*> reason)
  else if name = "test_failure" then some (testFailure <$> TestKey.record <*> failure)
  else if name = "test_finish" then some (testFinish <$> TestKey.record)
  else if name = "coverage" then
    some (coverage <$> Record.required "classes" CoverageStore.decoder)
  else none

/-- What kind of event it is, and its other members. -/
def parts : WorkerEvent → String × List (String × Json)
  | suiteStart s parallelized => ("suite_start", s.members ++ [("parallelized", .bool parallelized)])
  | suiteSkip s reason => ("suite_skip", s.members ++ [("reason", Json.ofOption .str reason)])
  | suiteFailure s failure => ("suite_failure", s.members ++ [("error", failure.toJson)])
  | suiteFinish s => ("suite_finish", s.members)
  | testStart t => ("test_start", t.members)
  | testSkip t reason => ("test_skip", t.members ++ [("reason", Json.ofOption .str reason)])
  | testFailure t failure => ("test_failure", t.members ++ [("error", failure.toJson)])
  | testFinish t => ("test_finish", t.members)
  | coverage classes => ("coverage", [("classes", classes.toJson)])

/-- An event as an object; what is absent is `null`. -/
def toJson (e : WorkerEvent) : Json := .obj ((kindMember, .str e.parts.1) :: e.parts.2)

def decoder : Decoder WorkerEvent :=
  Json.tagged kindMember fun name => (recordOf? name).map Record.decoder

/-- Read an event from a line. -/
def ofLine (line : List Char) : Except Json.DecodeError WorkerEvent :=
  Json.decodeText decoder line

end WorkerEvent

end TestTelemetry
