/-
Modules, suites and tests while they run.

A run holds all modules, suites and tests that were ever started, each under its
number.  Every one of them ends once; when it ends, its tags are closed and its
status is counted by the suite or module that it belongs to.

* `Verdict` — what was said of a test or a suite besides its parts;
* `Run` — the state, with one operation for each thing that can happen;
* `Run.endModule` — ends a module and gives the result it hands on.
-/
import TestTelemetry.Outcome.ModuleResult
import TestTelemetry.Network.Address
import TestTelemetry.Files.Path

namespace TestTelemetry

/-- What was said of a test or a suite besides its parts. -/
structure Verdict where
  skipReason : Option String
  failure : Option Failure
deriving DecidableEq

namespace Verdict

def none : Verdict := ⟨.none, .none⟩

/-- A failure comes before a skip, and a skip before what the parts say. -/
def status (v : Verdict) (parts : Status) : Status :=
  if v.failure.isSome then .fail
  else if v.skipReason.isSome then .skip
  else parts

/-- The tags of a reason that is not empty and of a failure. -/
def tags (v : Verdict) : List (String × TagValue) :=
  ((v.skipReason.filter (· ≠ "")).toList.map fun r => (Tag.skipReason, .str r)) ++
    (v.failure.toList.flatMap Failure.tags)

end Verdict

/-- What a module is known by. -/
structure ModuleDescriptor where
  sessionId : String
  id : UInt64
  name : String
  outputDirs : List Path
  /-- Where the session listens, if it does. -/
  address : Option SocketAddress

/-- A test that was started. -/
structure TestRun where
  suite : Nat
  name : String
  parameters : Option String
  isNew : Bool
  tags : TagLog
  verdict : Verdict
  ended : Bool

/-- A suite that was started; a detached one belongs to no module. -/
structure SuiteRun where
  module : Option Nat
  name : String
  codeUnit : Option String
  parallelized : Bool
  tags : TagLog
  tests : StatusCounts
  verdict : Verdict
  ended : Bool

/-- A module that was started. -/
structure ModuleRun where
  descriptor : ModuleDescriptor
  settings : ExecutionSettings
  tags : TagLog
  suites : StatusCounts
  testsTotal : Nat
  newTests : Nat
  testsSkipped : Nat
  coverage : CoverageStore
  ended : Bool

instance : Inhabited ModuleDescriptor := ⟨⟨"", 0, "", [], none⟩⟩

/-! ### One test -/

namespace TestRun

def status (t : TestRun) : Status := t.verdict.status .pass

/-- The tags that a test starts with. -/
def initialTags (suite name : String) (module parameters : Option String) (isNew : Bool) : TagLog :=
  TagLog.empty.setAll <|
    [(Tag.suite, .str suite), (Tag.name, .str name)] ++
      (module.toList.map fun m => (Tag.module, .str m)) ++
      (parameters.toList.map fun p => (Tag.parameters, .str p)) ++
      (if isNew then [(Tag.isNew, .bool true)] else [])

/-- The test once it has ended. -/
def finish (t : TestRun) : TestRun :=
  { t with
    tags := ((t.tags.setAll t.verdict.tags).set Tag.status (.str t.status.name)).close
    ended := true }

end TestRun

/-! ### One suite -/

namespace SuiteRun

def status (s : SuiteRun) : Status := s.verdict.status s.tests.status

def start (name : String) (codeUnit : Option String) (parallelized : Bool)
    (module : Option (Nat × String)) : SuiteRun where
  module := module.map (·.1)
  name := name
  codeUnit := codeUnit
  parallelized := parallelized
  tags := TagLog.empty.setAll <|
    (Tag.suite, .str name) :: (module.toList.map fun m => (Tag.module, .str m.2))
  tests := .zero
  verdict := .none
  ended := false

/-- Count a test that ended. -/
def recordTest (s : SuiteRun) (status : Status) : SuiteRun :=
  { s with tests := s.tests.record status }

/-- The suite once it has ended. -/
def finish (s : SuiteRun) : SuiteRun :=
  { s with
    tags := ((s.tags.setAll s.verdict.tags).set Tag.status (.str s.status.name)).close
    ended := true }

end SuiteRun

/-! ### One module -/

namespace ModuleRun

def name (m : ModuleRun) : String := m.descriptor.name

def start (d : ModuleDescriptor) (settings : ExecutionSettings) : ModuleRun where
  descriptor := d
  settings := settings
  tags := TagLog.empty.set Tag.module (.str d.name)
  suites := .zero
  testsTotal := 0
  newTests := 0
  testsSkipped := 0
  coverage := .empty
  ended := false

def status (m : ModuleRun) : Status := m.suites.status

/-- Whether a test is new: known tests were computed for the module and this is none. -/
def isNew (m : ModuleRun) (t : TestIdentifier) : Bool :=
  match m.settings.knownTests m.name with
  | some known => !known.contains t
  | none => false

/-- Count a test that was started. -/
def countTest (m : ModuleRun) (isNew : Bool) : ModuleRun :=
  { m with
    testsTotal := m.testsTotal + 1
    newTests := m.newTests + if isNew then 1 else 0 }

/-- Count a suite that ended. -/
def recordSuite (m : ModuleRun) (status : Status) : ModuleRun :=
  { m with suites := m.suites.record status }

/-- Count a test that was skipped because the settings allow it. -/
def countSkipped (m : ModuleRun) : ModuleRun := { m with testsSkipped := m.testsSkipped + 1 }

/-- Take up coverage, unless the module has ended. -/
def addCoverage (m : ModuleRun) (c : CoverageStore) : ModuleRun :=
  if m.ended then m else { m with coverage := m.coverage.merge c }

def detectsFlakes (m : ModuleRun) : Bool := m.settings.detectsFlakes m.name

/-- Whether the share of new tests, in whole percent, is above the threshold. -/
def isFaulty (m : ModuleRun) : Bool :=
  m.detectsFlakes && m.testsTotal > 0 &&
    m.newTests * 100 / m.testsTotal > m.settings.flakeDetection.faultyThreshold.toNat

/-- The result of the module as it stands. -/
def result (m : ModuleRun) : ModuleResult where
  sessionId := m.descriptor.sessionId
  moduleId := m.descriptor.id
  moduleName := m.name
  coverageEnabled := m.settings.coverageEnabled
  skipEnabled := m.settings.skipEnabled
  flakeDetectionEnabled := m.detectsFlakes
  faulty := m.isFaulty
  status := some m.status.name
  testsSkipped := UInt64.ofNat m.testsSkipped
  coverage := if m.coverage.isEmpty then none else some m.coverage

/-- The module once it has ended with a result. -/
def finish (m : ModuleRun) (r : ModuleResult) : ModuleRun :=
  { m with tags := (m.tags.setAll r.tags).close, ended := true }

end ModuleRun

/-! ### All of them -/

/-- All modules, suites and tests, each under its number. -/
structure Run where
  modules : List ModuleRun
  suites : List SuiteRun
  tests : List TestRun

namespace Run

def empty : Run := ⟨[], [], []⟩

instance : Inhabited Run := ⟨empty⟩

def startModule (r : Run) (d : ModuleDescriptor) (settings : ExecutionSettings) : Run :=
  { r with modules := r.modules ++ [ModuleRun.start d settings] }

/-- Start a suite in a module, whether the module has ended or not. -/
def startSuite (r : Run) (module : Nat) (name : String) (codeUnit : Option String)
    (parallelized : Bool) : Run :=
  let owner := r.modules[module]?.map fun m => (module, m.name)
  { r with suites := r.suites ++ [SuiteRun.start name codeUnit parallelized owner] }

/-- Start a suite that belongs to no module. -/
def startDetached (r : Run) (name : String) (codeUnit : Option String) : Run :=
  { r with suites := r.suites ++ [SuiteRun.start name codeUnit false none] }

/-- The module of a suite with its number. -/
def moduleOf (r : Run) (s : SuiteRun) : Option (Nat × ModuleRun) :=
  s.module.bind fun m => r.modules[m]?.map (m, ·)

/-- Start a test in a suite; its module counts it. -/
def startTest (r : Run) (suite : Nat) (name : String) (parameters : Option String) : Run :=
  match r.suites[suite]? with
  | none => r
  | some s =>
    let owner := r.moduleOf s
    let isNew := owner.any fun m => m.2.isNew ⟨s.name, name, parameters⟩
    let test : TestRun :=
      { suite, name, parameters, isNew
        tags := TestRun.initialTags s.name name (owner.map (·.2.name)) parameters isNew
        verdict := .none
        ended := false }
    { r with
      modules := match owner with
        | some (m, _) => r.modules.modify m (·.countTest isNew)
        | none => r.modules
      tests := r.tests ++ [test] }

/-! #### Remarks -/

def skipTest (r : Run) (test : Nat) (reason : Option String) : Run :=
  { r with tests := r.tests.modify test fun t =>
      { t with verdict := { t.verdict with skipReason := some (reason.getD "") } } }

def failTest (r : Run) (test : Nat) (f : Failure) : Run :=
  { r with tests := r.tests.modify test fun t =>
      { t with verdict := { t.verdict with failure := some f } } }

def skipSuite (r : Run) (suite : Nat) (reason : Option String) : Run :=
  { r with suites := r.suites.modify suite fun s =>
      { s with verdict := { s.verdict with skipReason := some (reason.getD "") } } }

def failSuite (r : Run) (suite : Nat) (f : Failure) : Run :=
  { r with suites := r.suites.modify suite fun s =>
      { s with verdict := { s.verdict with failure := some f } } }

def tagTest (r : Run) (test : Nat) (key : String) (value : TagValue) : Run :=
  { r with tests := r.tests.modify test fun t => { t with tags := t.tags.set key value } }

def tagSuite (r : Run) (suite : Nat) (key : String) (value : TagValue) : Run :=
  { r with suites := r.suites.modify suite fun s => { s with tags := s.tags.set key value } }

def tagModule (r : Run) (module : Nat) (key : String) (value : TagValue) : Run :=
  { r with modules := r.modules.modify module fun m => { m with tags := m.tags.set key value } }

def countSkipped (r : Run) (module : Nat) : Run :=
  { r with modules := r.modules.modify module ModuleRun.countSkipped }

def addCoverage (r : Run) (module : Nat) (c : CoverageStore) : Run :=
  { r with modules := r.modules.modify module (·.addCoverage c) }

/-! #### Ends -/

/-- End a test and count its status in its suite; a test that has ended stays as it is. -/
def endTest (r : Run) (test : Nat) : Run :=
  match r.tests[test]? with
  | none => r
  | some t =>
    if t.ended then r
    else
      { r with
        tests := r.tests.modify test TestRun.finish
        suites := r.suites.modify t.suite (·.recordTest t.status) }

/-- End a suite and count its status in its module; a suite that has ended stays as it is. -/
def endSuite (r : Run) (suite : Nat) : Run :=
  match r.suites[suite]? with
  | none => r
  | some s =>
    if s.ended then r
    else
      { r with
        suites := r.suites.modify suite SuiteRun.finish
        modules := match s.module with
          | some m => r.modules.modify m (·.recordSuite s.status)
          | none => r.modules }

/-- End a module with a result that was reported for it. -/
def endModuleWith (r : Run) (module : Nat) (result : ModuleResult) : Run :=
  { r with modules := r.modules.modify module fun m => if m.ended then m else m.finish result }

/-- End a module.  The first time its own result is handed on. -/
def endModule (r : Run) (module : Nat) : Run × Option ModuleResult :=
  match r.modules[module]? with
  | none => (r, none)
  | some m =>
    if m.ended then (r, none)
    else (r.endModuleWith module m.result, some m.result)

end Run

end TestTelemetry
