/-
Execution settings.

The settings of a worker are computed once for the runtime it tests on.  They
hold three lists of tests for each module: tests that may be skipped, tests known
to be flaky, and tests known at all.  No list of known tests is not the same as
an empty one: without it no test is new.

* `WorkerIdentity`, `TestIdentifier` — what runtimes and tests are told apart by;
* `ExecutionSettings` — the settings;
* `ExecutionSettings.narrow` — the settings as one module gets them.
-/
import TestTelemetry.Data.OrderedMap

namespace TestTelemetry

/-- The runtime that a worker executes tests on. -/
structure WorkerIdentity where
  name : String
  version : String
  vendor : String
deriving DecidableEq, Repr, Inhabited

/-- Name and version, and the vendor in parentheses if there is one. -/
def WorkerIdentity.display (w : WorkerIdentity) : String :=
  if w.vendor = "" then w.name ++ " " ++ w.version
  else w.name ++ " " ++ w.version ++ " (" ++ w.vendor ++ ")"

/-- A test, as it is named in all processes. -/
structure TestIdentifier where
  suite : String
  name : String
  parameters : Option String
deriving DecidableEq, Repr, Inhabited

/-- Suite and name with a dot between them, then the parameters. -/
def TestIdentifier.display (t : TestIdentifier) : String :=
  t.suite ++ "." ++ t.name ++ t.parameters.getD ""

/-- How often a new test is repeated that takes no longer than a given time. -/
structure ExecutionThreshold where
  maxDurationMs : UInt64
  executions : UInt32
deriving DecidableEq, Repr

/-- The policy of early flake detection. -/
structure FlakeDetection where
  enabled : Bool
  thresholds : List ExecutionThreshold
  /-- A module is faulty when more than this share of its tests is new, in percent. -/
  faultyThreshold : UInt32
deriving DecidableEq, Repr

/-- The policy when nothing is said about it. -/
def FlakeDetection.initial : FlakeDetection := ⟨false, [], 30⟩

/-- Tests of each module. -/
abbrev TestLists := OrderedMap String (List TestIdentifier)

/-- Execution settings of one worker identity. -/
structure ExecutionSettings where
  coverageEnabled : Bool
  skipEnabled : Bool
  flakyRetriesEnabled : Bool
  flakeDetection : FlakeDetection
  systemProperties : OrderedMap String String
  skipCorrelationId : Option String
  skippable : TestLists
  flaky : TestLists
  known : Option TestLists
  coveragePackages : List String
deriving DecidableEq

namespace ExecutionSettings

/-- The settings when nothing is said. -/
def initial : ExecutionSettings where
  coverageEnabled := false
  skipEnabled := false
  flakyRetriesEnabled := false
  flakeDetection := .initial
  systemProperties := .empty
  skipCorrelationId := none
  skippable := .empty
  flaky := .empty
  known := none
  coveragePackages := []

instance : Inhabited ExecutionSettings := ⟨initial⟩

/-- The tests of a module that may be skipped. -/
def skippableTests (s : ExecutionSettings) (module : String) : List TestIdentifier :=
  (s.skippable.find? module).getD []

/-- The flaky tests of a module. -/
def flakyTests (s : ExecutionSettings) (module : String) : List TestIdentifier :=
  (s.flaky.find? module).getD []

/-- The known tests of a module, unless they were not computed for it. -/
def knownTests (s : ExecutionSettings) (module : String) : Option (List TestIdentifier) :=
  s.known.bind (·.find? module)

/-- Whether early flake detection can run for a module. -/
def detectsFlakes (s : ExecutionSettings) (module : String) : Bool :=
  s.flakeDetection.enabled && (s.knownTests module).isSome

/-- The list of one module alone; an empty list leaves nothing. -/
def onlyModule (module : String) (tests : List TestIdentifier) : TestLists :=
  if tests = [] then .empty else .single module tests

/-- The settings without what is said about other modules. -/
def narrow (s : ExecutionSettings) (module : String) : ExecutionSettings :=
  { s with
    skippable := onlyModule module (s.skippableTests module)
    flaky := onlyModule module (s.flakyTests module)
    known := (s.knownTests module).map (OrderedMap.single module) }

end ExecutionSettings

end TestTelemetry
