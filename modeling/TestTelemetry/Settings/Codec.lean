/-
The JSON form of identities, tests and settings.

Members stand in the order of the fields.  A test without parameters and settings
without a correlation id leave that member out; absent lists of known tests are
`null`.
-/
import TestTelemetry.Settings.Basic
import TestTelemetry.Json.Decoder

namespace TestTelemetry

open Json (Decoder Record)

/-- A list of strings. -/
def Json.ofStrings (l : List String) : Json := .arr (l.map .str)

/-- A natural number. -/
def Json.nat (n : Nat) : Json := .int n

namespace WorkerIdentity

def toJson (w : WorkerIdentity) : Json :=
  .obj [("name", .str w.name), ("version", .str w.version), ("vendor", .str w.vendor)]

def record : Record WorkerIdentity :=
  WorkerIdentity.mk <$> Record.required "name" Decoder.string
    <*> Record.required "version" Decoder.string
    <*> Record.withDefault "vendor" Decoder.string ""

def decoder : Decoder WorkerIdentity := record.decoder

end WorkerIdentity

namespace TestIdentifier

def toJson (t : TestIdentifier) : Json :=
  .obj ([("suite", .str t.suite), ("name", .str t.name)] ++
    Json.optionalMember "parameters" .str t.parameters)

def record : Record TestIdentifier :=
  TestIdentifier.mk <$> Record.required "suite" Decoder.string
    <*> Record.required "name" Decoder.string
    <*> Record.optional "parameters" Decoder.string

def decoder : Decoder TestIdentifier := record.decoder

end TestIdentifier

namespace ExecutionThreshold

def toJson (t : ExecutionThreshold) : Json :=
  .obj [("max_duration_ms", .nat t.maxDurationMs.toNat), ("executions", .nat t.executions.toNat)]

def record : Record ExecutionThreshold :=
  ExecutionThreshold.mk <$> Record.required "max_duration_ms" Decoder.uint64
    <*> Record.required "executions" Decoder.uint32

def decoder : Decoder ExecutionThreshold := record.decoder

end ExecutionThreshold

namespace FlakeDetection

def toJson (f : FlakeDetection) : Json :=
  .obj [("enabled", .bool f.enabled),
    ("execution_thresholds", .arr (f.thresholds.map ExecutionThreshold.toJson)),
    ("faulty_session_threshold", .nat f.faultyThreshold.toNat)]

def record : Record FlakeDetection :=
  FlakeDetection.mk <$> Record.withDefault "enabled" Decoder.bool FlakeDetection.initial.enabled
    <*> Record.withDefault "execution_thresholds" ExecutionThreshold.decoder.list
      FlakeDetection.initial.thresholds
    <*> Record.withDefault "faulty_session_threshold" Decoder.uint32
      FlakeDetection.initial.faultyThreshold

def decoder : Decoder FlakeDetection := record.decoder

end FlakeDetection

/-- The lists of all modules as an object. -/
def TestLists.toJson (l : TestLists) : Json :=
  .obj (l.entries.map fun e => (e.1, .arr (e.2.map TestIdentifier.toJson)))

def TestLists.decoder : Decoder TestLists := Decoder.map Decoder.nameKey TestIdentifier.decoder.list

namespace ExecutionSettings

def toJson (s : ExecutionSettings) : Json :=
  .obj ([("code_coverage_enabled", .bool s.coverageEnabled),
      ("skip_enabled", .bool s.skipEnabled),
      ("flaky_test_retries_enabled", .bool s.flakyRetriesEnabled),
      ("early_flake_detection", s.flakeDetection.toJson),
      ("system_properties", .obj (s.systemProperties.entries.map fun e => (e.1, .str e.2)))] ++
    Json.optionalMember "skip_correlation_id" .str s.skipCorrelationId ++
    [("skippable_tests", s.skippable.toJson),
      ("flaky_tests", s.flaky.toJson),
      ("known_tests", Json.ofOption TestLists.toJson s.known),
      ("coverage_enabled_packages", Json.ofStrings s.coveragePackages)])

def record : Record ExecutionSettings :=
  ExecutionSettings.mk <$> Record.withDefault "code_coverage_enabled" Decoder.bool false
    <*> Record.withDefault "skip_enabled" Decoder.bool false
    <*> Record.withDefault "flaky_test_retries_enabled" Decoder.bool false
    <*> Record.withDefault "early_flake_detection" FlakeDetection.decoder FlakeDetection.initial
    <*> Record.withDefault "system_properties"
      (Decoder.map Decoder.nameKey Decoder.string) OrderedMap.empty
    <*> Record.optional "skip_correlation_id" Decoder.string
    <*> Record.withDefault "skippable_tests" TestLists.decoder OrderedMap.empty
    <*> Record.withDefault "flaky_tests" TestLists.decoder OrderedMap.empty
    <*> Record.optional "known_tests" TestLists.decoder
    <*> Record.withDefault "coverage_enabled_packages" Decoder.string.list []

def decoder : Decoder ExecutionSettings := record.decoder

end ExecutionSettings

end TestTelemetry
