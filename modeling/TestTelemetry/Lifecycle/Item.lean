/-
Modules, suites and tests alike.

What can be done to all three is said of an item: it can be tagged until it has
ended, it has a status, and it ends once.

* `RunItem` — a module, a suite or a test by its number;
* `Run.endItem` — ends an item, with the result that a module hands on;
* `Run.describe` — an item as a text for people.
-/
import TestTelemetry.Lifecycle.Run
import TestTelemetry.Text.Quoted

namespace TestTelemetry

/-- A module, a suite or a test, by its number. -/
inductive RunItem
  | module (number : Nat)
  | suite (number : Nat)
  | test (number : Nat)
deriving DecidableEq, Repr

def ModuleRun.describe (m : ModuleRun) : String :=
  Text.described "Module" [("id", toString m.descriptor.id.toNat), ("name", Text.quoted m.name),
    ("ended", Text.truth m.ended)]

def SuiteRun.describe (s : SuiteRun) : String :=
  Text.described "Suite" [("name", Text.quoted s.name),
    ("code_unit", Text.quotedOption s.codeUnit), ("ended", Text.truth s.ended)]

def TestRun.describe (t : TestRun) (suite : String) : String :=
  Text.described "Test" [("suite", Text.quoted suite), ("name", Text.quoted t.name),
    ("parameters", Text.quotedOption t.parameters), ("ended", Text.truth t.ended)]

namespace Run

/-- The suite of a test. -/
def suiteOf (r : Run) (t : TestRun) : Option SuiteRun := r.suites[t.suite]?

/-- The name of the suite of a test. -/
def suiteName (r : Run) (t : TestRun) : String := ((r.suiteOf t).map SuiteRun.name).getD ""

/-- The status of an item as it stands. -/
def statusOf (r : Run) : RunItem → Option Status
  | .module n => r.modules[n]?.map ModuleRun.status
  | .suite n => r.suites[n]?.map SuiteRun.status
  | .test n => r.tests[n]?.map TestRun.status

def tagsOf (r : Run) : RunItem → Option TagLog
  | .module n => r.modules[n]?.map ModuleRun.tags
  | .suite n => r.suites[n]?.map SuiteRun.tags
  | .test n => r.tests[n]?.map TestRun.tags

def hasEnded (r : Run) : RunItem → Bool
  | .module n => r.modules[n]?.any ModuleRun.ended
  | .suite n => r.suites[n]?.any SuiteRun.ended
  | .test n => r.tests[n]?.any TestRun.ended

/-- Whether an item was started and has not ended.  This is what ending it answers: the first end
of an item is answered with yes, and every later one with no. -/
def isRunning (r : Run) : RunItem → Bool
  | .module n => r.modules[n]?.any (!·.ended)
  | .suite n => r.suites[n]?.any (!·.ended)
  | .test n => r.tests[n]?.any (!·.ended)

/-- Whether an item takes tags. -/
def acceptsTags (r : Run) (i : RunItem) : Bool := (r.tagsOf i).any TagLog.accepts

def tagItem (r : Run) (key : String) (value : TagValue) : RunItem → Run
  | .module n => r.tagModule n key value
  | .suite n => r.tagSuite n key value
  | .test n => r.tagTest n key value

/-- End an item.  A module that ends for the first time hands on its result. -/
def endItem (r : Run) : RunItem → Run × Option ModuleResult
  | .module n => r.endModule n
  | .suite n => (r.endSuite n, none)
  | .test n => (r.endTest n, none)

/-- Mark a suite or a test as skipped; modules are not skipped. -/
def skipItem? (r : Run) (reason : Option String) : RunItem → Option Run
  | .module _ => none
  | .suite n => some (r.skipSuite n reason)
  | .test n => some (r.skipTest n reason)

/-- Mark a suite or a test as failed; modules fail only by their suites. -/
def failItem? (r : Run) (f : Failure) : RunItem → Option Run
  | .module _ => none
  | .suite n => some (r.failSuite n f)
  | .test n => some (r.failTest n f)

def describe (r : Run) : RunItem → Option String
  | .module n => r.modules[n]?.map ModuleRun.describe
  | .suite n => r.suites[n]?.map SuiteRun.describe
  | .test n => r.tests[n]?.map fun t => t.describe (r.suiteName t)

end Run

end TestTelemetry
