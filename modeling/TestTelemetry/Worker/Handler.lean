/-
The module of a worker, driven by events.

Frameworks report a suite more than once, so its openings are counted: the first
starts the suite and the last closing ends it.  A test that is reported outside a
running suite gets a suite of its own that belongs to no module.

* `Handler` — the state;
* `Handler.apply` — one event;
* `Handler.finishModule` — ends what is still running, then the module.
-/
import TestTelemetry.Worker.Event
import TestTelemetry.Lifecycle.Run
import TestTelemetry.Lifecycle.Activation
import TestTelemetry.Text.Quoted

namespace TestTelemetry

/-- A worker's module with its suites and tests.  The module has number 0; `suites` and
`tests` hold the numbers of those that are running. -/
structure Handler where
  descriptor : ModuleDescriptor
  settings : ExecutionSettings
  run : Run
  activations : Activations SuiteKey
  suites : Keyed SuiteKey Nat
  tests : Keyed TestKey Nat

namespace Handler

/-- The number of the module. -/
def moduleNumber : Nat := 0

/-- A handler without any event.  Its module is started at once: nothing is told of a module before
it ends, so that nobody can see whether it was started at its first use. -/
def start (d : ModuleDescriptor) (settings : ExecutionSettings) : Handler where
  descriptor := d
  settings := settings
  run := Run.empty.startModule d settings
  activations := .empty
  suites := .empty
  tests := .empty

/-- The module as it stands. -/
def module (h : Handler) : ModuleRun :=
  (h.run.modules[moduleNumber]?).getD (ModuleRun.start h.descriptor h.settings)

/-- The module and how many suites are open. -/
def describe (h : Handler) : String :=
  Text.described "TestEventsHandler" [("module", Text.quoted h.descriptor.name),
    ("suites", toString h.activations.active)]

/-- Whether the settings allow to skip a test. -/
def isSkippable (h : Handler) (t : TestKey) : Bool :=
  h.settings.skipEnabled &&
    (h.settings.skippableTests h.descriptor.name).contains t.identifier

def openSuite (h : Handler) (suite : SuiteKey) (parallelized : Bool) : Handler :=
  let activations := h.activations.start suite
  if h.activations.isFirst suite then
    { h with
      activations
      run := h.run.startSuite moduleNumber suite.name suite.codeUnit parallelized
      suites := h.suites.set suite h.run.suites.length }
  else { h with activations }

def closeSuite (h : Handler) (suite : SuiteKey) : Handler :=
  let activations := h.activations.finish suite
  if h.activations.isLast suite then
    match h.suites.find? suite with
    | some s => { h with activations, run := h.run.endSuite s, suites := h.suites.erase suite }
    | none => { h with activations }
  else { h with activations }

/-- Do something to a running suite. -/
def onSuite (h : Handler) (suite : SuiteKey) (f : Run → Nat → Run) : Handler :=
  match h.suites.find? suite with
  | some s => { h with run := f h.run s }
  | none => h

/-- Do something to a running test. -/
def onTest (h : Handler) (test : TestKey) (f : Run → Nat → Run) : Handler :=
  match h.tests.find? test with
  | some t => { h with run := f h.run t }
  | none => h

/-- Start a test in its suite, or in one of its own if the suite is not running. -/
def openTest (h : Handler) (test : TestKey) : Handler :=
  if h.tests.contains test then h
  else
    let (run, suite) := match h.suites.find? test.suite with
      | some s => (h.run, s)
      | none => (h.run.startDetached test.suite.name test.suite.codeUnit, h.run.suites.length)
    { h with
      run := run.startTest suite test.name test.parameters
      tests := h.tests.set test run.tests.length }

/-- Mark a running test as skipped; a skip that the settings allow counts for the module. -/
def skipTest (h : Handler) (test : TestKey) (reason : Option String) : Handler :=
  h.onTest test fun run t =>
    let run := if reason = some Tag.skippedByImpact then run.countSkipped moduleNumber else run
    run.skipTest t reason

def closeTest (h : Handler) (test : TestKey) : Handler :=
  match h.tests.find? test with
  | some t => { h with run := h.run.endTest t, tests := h.tests.erase test }
  | none => h

/-- One event. -/
def apply (h : Handler) : WorkerEvent → Handler
  | .suiteStart s parallelized => h.openSuite s parallelized
  | .suiteSkip s reason => h.onSuite s fun run n => run.skipSuite n reason
  | .suiteFailure s f => h.onSuite s fun run n => run.failSuite n f
  | .suiteFinish s => h.closeSuite s
  | .testStart t => h.openTest t
  | .testSkip t reason => h.skipTest t reason
  | .testFailure t f => h.onTest t fun run n => run.failTest n f
  | .testFinish t => h.closeTest t
  | .coverage c => { h with run := h.run.addCoverage moduleNumber c }

/-- A list of events. -/
def applyAll (h : Handler) (events : List WorkerEvent) : Handler := events.foldl apply h

/-- End the tests that are still running. -/
def endTests (h : Handler) : Handler :=
  { h with run := h.tests.values.foldl Run.endTest h.run, tests := .empty }

/-- End the suites that are still running. -/
def endSuites (h : Handler) : Handler :=
  { h with
    run := h.suites.values.foldl Run.endSuite h.run
    activations := h.suites.keys.foldl Activations.clear h.activations
    suites := .empty }

/-- End everything, and the module last.  The first time the result is handed on. -/
def finishModule (h : Handler) : Handler × Option ModuleResult :=
  let h := h.endTests.endSuites
  let (run, result) := h.run.endModule moduleNumber
  ({ h with run }, result)

end Handler

end TestTelemetry
