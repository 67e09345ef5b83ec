/-
The result of a module.

When a module ends, its outcome goes to the session: what was enabled, whether
too many of its tests were new, its status, how many tests were skipped, and the
coverage of its tests if there is any.
-/
import TestTelemetry.Coverage.Store
import TestTelemetry.Outcome.Tags

namespace TestTelemetry

/-- The outcome of a module. -/
structure ModuleResult where
  sessionId : String
  moduleId : UInt64
  moduleName : String
  coverageEnabled : Bool
  skipEnabled : Bool
  flakeDetectionEnabled : Bool
  faulty : Bool
  status : Option String
  testsSkipped : UInt64
  coverage : Option CoverageStore
deriving DecidableEq

namespace ModuleResult

/-- The members of a result; an absent status or coverage is left out. -/
def members (r : ModuleResult) : List (String × Json) :=
  [("session_id", .str r.sessionId), ("module_id", .nat r.moduleId.toNat),
    ("module_name", .str r.moduleName), ("coverage_enabled", .bool r.coverageEnabled),
    ("skip_enabled", .bool r.skipEnabled), ("early_flake_enabled", .bool r.flakeDetectionEnabled),
    ("early_flake_faulty", .bool r.faulty)] ++
  Json.optionalMember "status" .str r.status ++
  [("tests_skipped_total", .nat r.testsSkipped.toNat)] ++
  Json.optionalMember "coverage" CoverageStore.toJson r.coverage

def toJson (r : ModuleResult) : Json := .obj r.members

def record : Json.Record ModuleResult :=
  ModuleResult.mk <$> Json.Record.required "session_id" Json.Decoder.string
    <*> Json.Record.required "module_id" Json.Decoder.uint64
    <*> Json.Record.required "module_name" Json.Decoder.string
    <*> Json.Record.withDefault "coverage_enabled" Json.Decoder.bool false
    <*> Json.Record.withDefault "skip_enabled" Json.Decoder.bool false
    <*> Json.Record.withDefault "early_flake_enabled" Json.Decoder.bool false
    <*> Json.Record.withDefault "early_flake_faulty" Json.Decoder.bool false
    <*> Json.Record.optional "status" Json.Decoder.string
    <*> Json.Record.withDefault "tests_skipped_total" Json.Decoder.uint64 0
    <*> Json.Record.optional "coverage" CoverageStore.decoder

def decoder : Json.Decoder ModuleResult := record.decoder

/-- What a faulty module is tagged with. -/
def faultyReason : String := "faulty"

/-- The tags that a result puts on its module. -/
def tags (r : ModuleResult) : List (String × TagValue) :=
  (r.status.toList.map fun s => (Tag.status, .str s)) ++
  (if r.coverageEnabled then [(Tag.coverageEnabled, .bool true)] else []) ++
  (if r.skipEnabled then
    [(Tag.skippingEnabled, .bool true), (Tag.skippingCount, .count r.testsSkipped.toNat)]
  else []) ++
  (if r.flakeDetectionEnabled then
    (Tag.earlyFlakeEnabled, .bool true) ::
      (if r.faulty then [(Tag.earlyFlakeAbortReason, .str faultyReason)] else [])
  else [])

end ModuleResult

end TestTelemetry
