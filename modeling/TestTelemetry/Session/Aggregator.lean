/-
What all results of a session say together.

Flags add up to whether any result has them, counts are summed, statuses are
counted and coverage is merged.  Once the aggregator is closed nothing is taken
any more.

* `Totals.add` — what one result adds;
* `Aggregator.accept` — a result arrives, and goes on to the registry;
* `Aggregator.close` — nothing is taken from here on.
-/
import TestTelemetry.Session.Registry

namespace TestTelemetry

/-- Flags and counts over all results. -/
structure Totals where
  coverageEnabled : Bool
  skipEnabled : Bool
  flakeDetectionEnabled : Bool
  faulty : Bool
  /-- Skipped tests; the sum is taken in 64 bits. -/
  testsSkipped : UInt64
  modules : StatusCounts
  results : Nat
deriving DecidableEq

namespace Totals

def zero : Totals := ⟨false, false, false, false, 0, .zero, 0⟩

instance : Inhabited Totals := ⟨zero⟩

/-- The status that a result names, if it names one. -/
def statusOf (r : ModuleResult) : Option Status := r.status.bind Status.ofName?

/-- The totals with one more result. -/
def add (t : Totals) (r : ModuleResult) : Totals where
  coverageEnabled := t.coverageEnabled || r.coverageEnabled
  skipEnabled := t.skipEnabled || r.skipEnabled
  flakeDetectionEnabled := t.flakeDetectionEnabled || r.flakeDetectionEnabled
  faulty := t.faulty || r.faulty
  testsSkipped := t.testsSkipped + r.testsSkipped
  modules := (statusOf r).elim t.modules t.modules.record
  results := t.results + 1

end Totals

/-- Folders that are told apart by their parts; each is kept as it was first written. -/
abbrev FolderSet := OrderedMap (List (List Nat)) Path

namespace FolderSet

def insert (s : FolderSet) (p : Path) : FolderSet :=
  if s.contains p.key then s else OrderedMap.insert s p.key p

/-- The folders in the order of their parts. -/
def toList (s : FolderSet) : List Path := s.values

end FolderSet

/-- The state of a session as far as results change it. -/
structure Aggregator where
  totals : Totals
  coverage : CoverageStore
  outputDirs : FolderSet
  registry : Registry
  closed : Bool

namespace Aggregator

def empty : Aggregator := ⟨.zero, .empty, .empty, .empty, false⟩

instance : Inhabited Aggregator := ⟨empty⟩

/-- Remember where the classes of a module lie. -/
def addOutputDirs (a : Aggregator) (dirs : List Path) : Aggregator :=
  { a with outputDirs := dirs.foldl FolderSet.insert a.outputDirs }

/-- A result arrives.  The answer says whether it ended an active module. -/
def accept (a : Aggregator) (r : ModuleResult) : Bool × Aggregator :=
  if a.closed then (false, a)
  else
    let (removed, registry) := a.registry.onResult r
    (removed,
      { a with
        totals := a.totals.add r
        coverage := match r.coverage with
          | some c => a.coverage.merge c
          | none => a.coverage
        registry })

/-- Take nothing from here on.  The answer says whether anything was taken before. -/
def close (a : Aggregator) : Bool × Aggregator := (!a.closed, { a with closed := true })

/-- Change the modules, suites and tests. -/
def mapRun (a : Aggregator) (f : Run → Run) : Aggregator :=
  { a with registry := { a.registry with run := f a.registry.run } }

def run (a : Aggregator) : Run := a.registry.run

end Aggregator

end TestTelemetry
