/-
A run step by step.

* `RunStep` — one thing that can happen to the modules, suites and tests of a run;
* `Run.step`, `Run.follow` — the run after one step, and after several;
* `Run.endings` — with which statuses the tests of a suite end along some steps;
* `Run.outcomes` — which items end along some steps, each at its first end;
* `Run.startedSuites`, `Run.startedTests` — which suites and tests are started along some steps.
-/
import TestTelemetry.Lifecycle.Item

namespace TestTelemetry

/-- One thing that can happen to a run. -/
inductive RunStep
  | startModule (d : ModuleDescriptor) (settings : ExecutionSettings)
  | startSuite (module : Nat) (name : String) (codeUnit : Option String) (parallelized : Bool)
  | startDetached (name : String) (codeUnit : Option String)
  | startTest (suite : Nat) (name : String) (parameters : Option String)
  | skipTest (test : Nat) (reason : Option String)
  | failTest (test : Nat) (failure : Failure)
  | skipSuite (suite : Nat) (reason : Option String)
  | failSuite (suite : Nat) (failure : Failure)
  | tag (item : RunItem) (key : String) (value : TagValue)
  | countSkipped (module : Nat)
  | addCoverage (module : Nat) (classes : CoverageStore)
  | endTest (test : Nat)
  | endSuite (suite : Nat)
  | endModule (module : Nat)
  | endModuleWith (module : Nat) (result : ModuleResult)

namespace RunStep

/-- Whether a step starts a suite, in a module or detached. -/
def startsSuite : RunStep → Bool
  | startSuite .. => true
  | startDetached .. => true
  | _ => false

/-- Whether a step sets a failure on a suite. -/
def failsSuite (n : Nat) : RunStep → Bool
  | failSuite m _ => decide (m = n)
  | _ => false

/-- Whether a step sets a skip reason on a suite. -/
def skipsSuite (n : Nat) : RunStep → Bool
  | skipSuite m _ => decide (m = n)
  | _ => false

/-- Whether a step ends a suite, or tries to. -/
def endsSuite (n : Nat) : RunStep → Bool
  | endSuite m => decide (m = n)
  | _ => false

/-- Whether a step sets a failure on an item. -/
def fails (i : RunItem) : RunStep → Bool
  | failSuite n _ => decide (i = .suite n)
  | failTest t _ => decide (i = .test t)
  | _ => false

/-- Whether a step sets a skip reason on an item. -/
def skips (i : RunItem) : RunStep → Bool
  | skipSuite n _ => decide (i = .suite n)
  | skipTest t _ => decide (i = .test t)
  | _ => false

/-- The item that a step ends, or tries to. -/
def ends? : RunStep → Option RunItem
  | endTest t => some (.test t)
  | endSuite n => some (.suite n)
  | endModule m => some (.module m)
  | endModuleWith m _ => some (.module m)
  | _ => none

/-- How often some steps end an item, or try to. -/
def endCount (i : RunItem) (steps : List RunStep) : Nat :=
  steps.countP fun x => decide (x.ends? = some i)

end RunStep

/-- The step that ends an item. -/
def RunItem.ending : RunItem → RunStep
  | .module m => .endModule m
  | .suite n => .endSuite n
  | .test t => .endTest t

namespace Run

/-- The run after one step. -/
def step (r : Run) : RunStep → Run
  | .startModule d settings => r.startModule d settings
  | .startSuite m name codeUnit parallelized => r.startSuite m name codeUnit parallelized
  | .startDetached name codeUnit => r.startDetached name codeUnit
  | .startTest n name parameters => r.startTest n name parameters
  | .skipTest t reason => r.skipTest t reason
  | .failTest t f => r.failTest t f
  | .skipSuite n reason => r.skipSuite n reason
  | .failSuite n f => r.failSuite n f
  | .tag i key value => r.tagItem key value i
  | .countSkipped m => r.countSkipped m
  | .addCoverage m c => r.addCoverage m c
  | .endTest t => r.endTest t
  | .endSuite n => r.endSuite n
  | .endModule m => (r.endModule m).1
  | .endModuleWith m result => r.endModuleWith m result

/-- The run after some steps. -/
def follow (r : Run) (steps : List RunStep) : Run := steps.foldl step r

/-- The status with which a step ends a test of a suite, if that is what it does. -/
def ending? (r : Run) (n : Nat) : RunStep → Option Status
  | .endTest t => r.tests[t]?.bind fun x =>
      if x.ended = false ∧ x.suite = n then some x.status else none
  | _ => none

/-- The statuses with which tests of a suite end along some steps, in their order. -/
def endings (r : Run) (n : Nat) : List RunStep → List Status
  | [] => []
  | s :: rest => (r.ending? n s).toList ++ (r.step s).endings n rest

theorem fst_endItem (r : Run) (i : RunItem) : (r.endItem i).1 = r.step i.ending := by
  cases i <;> rfl

/-- The item that an item is a part of. -/
def whole? (r : Run) : RunItem → Option RunItem
  | .module _ => none
  | .suite n => r.suites[n]?.bind fun s => s.module.map .module
  | .test t => r.tests[t]?.map fun x => .suite x.suite

/-- The suite that a step starts: its module if it has one, its name and its code unit. -/
def newSuite? (r : Run) : RunStep → Option (Option Nat × String × Option String)
  | .startSuite m name codeUnit _ =>
    some (if m < r.modules.length then some m else none, name, codeUnit)
  | .startDetached name codeUnit => some (none, name, codeUnit)
  | _ => none

/-- The test that a step starts: its suite, its name and its parameters. -/
def newTest? (r : Run) : RunStep → Option (Nat × String × Option String)
  | .startTest n name parameters =>
    if n < r.suites.length then some (n, name, parameters) else none
  | _ => none

/-- The suites that some steps start, in their order. -/
def startedSuites (r : Run) : List RunStep → List (Option Nat × String × Option String)
  | [] => []
  | x :: rest => (r.newSuite? x).toList ++ (r.step x).startedSuites rest

/-- The tests that some steps start, in their order. -/
def startedTests (r : Run) : List RunStep → List (Nat × String × Option String)
  | [] => []
  | x :: rest => (r.newTest? x).toList ++ (r.step x).startedTests rest

/-- What a test of a module is known by, if its suite is attached to the module. -/
def nameIn? (r : Run) (m : Nat) (t : Nat × String × Option String) : Option TestIdentifier :=
  r.suites[t.1]?.bind fun s => if s.module = some m then some ⟨s.name, t.2.1, t.2.2⟩ else none

/-- What those of some tests are known by whose suites are attached to a module. -/
def namesIn (r : Run) (m : Nat) (tests : List (Nat × String × Option String)) :
    List TestIdentifier := tests.filterMap (r.nameIn? m)

/-- The item that a step ends for the first time, with the status that it has then. -/
def outcome? (r : Run) (x : RunStep) : Option (RunItem × Status) :=
  x.ends?.bind fun i => if r.isRunning i then (r.statusOf i).map (i, ·) else none

/-- The first ends along some steps, in their order. -/
def outcomes (r : Run) : List RunStep → List (RunItem × Status)
  | [] => []
  | x :: rest => (r.outcome? x).toList ++ (r.step x).outcomes rest

/-- The statuses of the parts of an item, as some ends tell them. -/
def partsOf (r : Run) (i : RunItem) (ends : List (RunItem × Status)) : List Status :=
  ends.filterMap fun e => if r.whole? e.1 = some i then some e.2 else none

end Run

end TestTelemetry
