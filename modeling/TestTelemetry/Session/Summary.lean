/-
The end of a session.

Ending a session ends the modules that are still active, takes in their results,
and from then on no result counts.  What was reported becomes the session's tags,
and the coverage of all modules its report.

* `Session.finish` — ends a session; only the first end has a summary;
* `finalTags` — what results say as tags;
* `Session.resolveCoverage` — the coverage of all modules, and its report;
* `Summary` — what an ended session reports.
-/
import TestTelemetry.Session.Basic
import TestTelemetry.Coverage.Report

namespace TestTelemetry

/-- What an ended session reports. -/
structure Summary where
  id : String
  projectName : String
  status : Status
  modules : StatusCounts
  testsSkipped : UInt64
  coveragePercentage : Option Nat
  reportFolder : Option Path
  tags : OrderedMap String TagValue

namespace Summary

/-- A session is summed up when it has ended. -/
def phase : SessionPhase := .ended

/-- The summary as an object; the time when the session started comes from outside. -/
def toJson (s : Summary) (startedAt : String) : Json :=
  .obj [("id", .str s.id), ("project_name", .str s.projectName), ("state", phase.toJson),
    ("status", s.status.toJson), ("started_at", .str startedAt), ("modules", s.modules.toJson),
    ("tests_skipped", .nat s.testsSkipped.toNat),
    ("coverage_percentage", Json.ofOption .nat s.coveragePercentage),
    ("report_folder", Json.ofOption (.str ·.display) s.reportFolder),
    ("tags", .obj (s.tags.entries.map fun e => (e.1, e.2.toJson)))]

end Summary

/-- What is skipped when tests are skipped. -/
def skippingUnit : String := "test"

/-- The tags that the results of a session put on it. -/
def finalTags (t : Totals) : List (String × TagValue) :=
  (if t.coverageEnabled then [(Tag.coverageEnabled, .bool true)] else []) ++
  (if t.skipEnabled then
    [(Tag.skippingEnabled, .bool true), (Tag.skippingType, .str skippingUnit),
      (Tag.skippingCount, .count t.testsSkipped.toNat)] ++
      (if t.testsSkipped > 0 then [(Tag.testsSkipped, .bool true)] else [])
  else []) ++
  (if t.flakeDetectionEnabled then
    (Tag.earlyFlakeEnabled, .bool true) ::
      (if t.faulty then [(Tag.earlyFlakeAbortReason, .str ModuleResult.faultyReason)] else [])
  else [])

/-- The coverage of a session: its share in percent, and where the report was written. -/
structure SessionCoverage where
  percentage : Option Nat
  folder : Option Path
deriving DecidableEq

namespace SessionCoverage

def none : SessionCoverage := ⟨.none, .none⟩

/-- The tag for the share of covered instructions. -/
def tags (c : SessionCoverage) : List (String × TagValue) :=
  c.percentage.toList.map fun n => (Tag.coverageLinesPct, .count n)

end SessionCoverage

namespace Session

/-- The folder of the report of a session. -/
def reportFolder (s : Session) (dumpDir : Path) : Path :=
  Path.join (Path.join dumpDir (.ofText ("session-" ++ s.id))) bundleName

/-- The coverage of all modules; none if it cannot be resolved. -/
def bundle? (s : Session) (t : FileTree) : Option CoverageBundle :=
  match buildBundle t s.aggregator.coverage s.aggregator.outputDirs.toList with
  | .ok b => b
  | .error _ => none

/-- Write the report of a bundle.  Without an index the sources are named as the analyses name
them, and a report that cannot be written has no folder. -/
def writeReportOf (s : Session) (t : FileTree) (b : CoverageBundle) (index : Option RepoIndex)
    (dumpDir : Path) : Option Path × FileTree :=
  let folder := s.reportFolder dumpDir
  match writeReport t b index s.options.repoRoot folder with
  | .ok t => (some folder, t)
  | .error _ => (none, t)

/-- Resolve the coverage of all modules and write its report.  Only when the index breaks off is
there no answer. -/
def resolveCoverage (s : Session) (t : FileTree) :
    Option SessionCoverage × Session × FileTree :=
  match s.bundle? t with
  | none => (some .none, s, t)
  | some b =>
    match s.options.reportDumpDir with
    | none => (some ⟨b.percentage, none⟩, s, t)
    | some dumpDir =>
      let (answer, index) := s.index.get t
      let s := { s with index }
      match answer with
      | .brokeOff _ => (none, s, t)
      | answer =>
        let (folder, t) := s.writeReportOf t b answer.value? dumpDir
        (some ⟨b.percentage, folder⟩, s, t)

/-- End the modules that are still active, in the order of their numbers. -/
def endActive (s : Session) : Session :=
  s.registry.active.foldl (fun s m => (s.endModule m.1).2) s

/-- Take no results from here on. -/
def closeResults (s : Session) : Session := { s with aggregator := s.aggregator.close.2 }

def totals (s : Session) : Totals := s.aggregator.totals

/-- The status of the whole. -/
def status (s : Session) : Status := s.totals.modules.status

/-- The session with its last tags. -/
def conclude (s : Session) (c : SessionCoverage) : Session :=
  { s with
    phase := .ended
    tags := ((s.tags.setAll c.tags).set Tag.status (.str s.status.name)).close }

def summary (s : Session) (c : SessionCoverage) : Summary where
  id := s.id
  projectName := s.options.projectName
  status := s.status
  modules := s.totals.modules
  testsSkipped := s.totals.testsSkipped
  coveragePercentage := c.percentage
  reportFolder := c.folder
  tags := s.tags.snapshot

/-- End a session.  Only a running one has a summary, unless its coverage breaks off. -/
def finish (s : Session) (t : FileTree) : Option Summary × Session × FileTree :=
  if s.phase ≠ .running then (none, s, t)
  else
    let s := { s with phase := .ending }.endActive.closeResults
    let s := { s with tags := s.tags.setAll (finalTags s.totals) }
    match s.resolveCoverage t with
    | (none, s, t) => (none, { s with phase := .ended }, t)
    | (some c, s, t) =>
      let s := s.conclude c
      (some (s.summary c), s, t)

end Session

end TestTelemetry
