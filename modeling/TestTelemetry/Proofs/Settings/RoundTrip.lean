/-
Settings survive their JSON form.

* `WorkerIdentity.undoes`, `TestIdentifier.undoes`, `TestLists.undoes` — what settings are made of;
* `ExecutionSettings.undoes` — settings, with the members that are left out or `null`;
* `ExecutionSettings.plain_toJson` — what is written of settings is plain.
-/
import TestTelemetry.Proofs.Json.RoundTrip
import TestTelemetry.Settings.Codec

namespace TestTelemetry

open Json (Undoes plain)
open Json.Record (Member Writes)

namespace Json

/-- A string is not written as `null`. -/
theorem str_ne_null (s : String) : Node.ofJson (.str s) ≠ .null := by
  rw [Node.ofJson]
  exact Node.noConfusion

theorem plain_uint64 (depth : Nat) (n : UInt64) : plain depth (.nat n.toNat) = true :=
  plain_nat (Nat.le_pred_of_lt n.toNat_lt)

theorem plain_uint32 (depth : Nat) (n : UInt32) : plain depth (.nat n.toNat) = true :=
  plain_nat (Nat.le_trans (Nat.le_of_lt n.toNat_lt) (by decide))

theorem undoes_strings : Undoes Decoder.string.list ofStrings := Undoes.string.list

end Json

namespace WorkerIdentity

theorem undoes : Undoes decoder toJson := fun src w =>
  (((Writes.first src mk (.required .string "name" w.name)).seq
    (.required .string "version" w.version) (by simp)).seq
    (.withDefault .string "vendor" "" w.vendor) (by simp)).decoder

theorem plain_toJson (depth : Nat) (w : WorkerIdentity) : plain (depth + 1) w.toJson = true := by
  simp [toJson, Json.plainMembers]

end WorkerIdentity

namespace TestIdentifier

theorem undoes : Undoes decoder toJson := fun src t =>
  (((Writes.first src mk (.required .string "suite" t.suite)).seq
    (.required .string "name" t.name) (by simp)).seq
    (.optional .string Json.str_ne_null "parameters" t.parameters) (by simp)).decoder

theorem plain_toJson (depth : Nat) (t : TestIdentifier) : plain (depth + 1) t.toJson = true := by
  simp [toJson, Json.plainMembers, Json.plainMembers_optionalMember (Json.plain_str depth)]

end TestIdentifier

namespace ExecutionThreshold

theorem undoes : Undoes decoder toJson := fun src t =>
  ((Writes.first src mk (.required .uint64 "max_duration_ms" t.maxDurationMs)).seq
    (.required .uint32 "executions" t.executions) (by simp)).decoder

theorem plain_toJson (depth : Nat) (t : ExecutionThreshold) :
    plain (depth + 1) t.toJson = true := by
  simp [toJson, Json.plainMembers, Json.plain_uint64, Json.plain_uint32]

end ExecutionThreshold

namespace FlakeDetection

theorem undoes : Undoes decoder toJson := fun src f =>
  (((Writes.first src mk (.withDefault .bool "enabled" initial.enabled f.enabled)).seq
    (.withDefault ExecutionThreshold.undoes.list "execution_thresholds" initial.thresholds
      f.thresholds) (by simp)).seq
    (.withDefault .uint32 "faulty_session_threshold" initial.faultyThreshold f.faultyThreshold)
    (by simp)).decoder

theorem plain_toJson (depth : Nat) (f : FlakeDetection) : plain (depth + 3) f.toJson = true := by
  simp [toJson, Json.plainMembers, Json.plain_uint32,
    Json.plainItems_map (ExecutionThreshold.plain_toJson depth)]

end FlakeDetection

namespace TestLists

theorem undoes : Undoes decoder toJson := TestIdentifier.undoes.list.map

theorem ne_null (l : TestLists) : Json.Node.ofJson l.toJson ≠ .null := by
  rw [toJson, Json.Node.ofJson]
  exact Json.Node.noConfusion

theorem plain_toJson (depth : Nat) (l : TestLists) : plain (depth + 3) l.toJson = true := by
  have htests : ∀ tests : List TestIdentifier,
      plain (depth + 2) (.arr (tests.map TestIdentifier.toJson)) = true :=
    fun tests => (Json.plain_arr ..).trans
      (Json.plainItems_map (TestIdentifier.plain_toJson depth) tests)
  exact (Json.plain_obj ..).trans (Json.plainMembers_map htests l.entries)

end TestLists

namespace ExecutionSettings

theorem undoes : Undoes decoder toJson := by
  intro src s
  have hswitches := ((Writes.first src mk
    (.withDefault .bool "code_coverage_enabled" false s.coverageEnabled)).seq
    (.withDefault .bool "skip_enabled" false s.skipEnabled) (by simp)).seq
    (.withDefault .bool "flaky_test_retries_enabled" false s.flakyRetriesEnabled) (by simp)
  have hpolicy := ((hswitches.seq
    (.withDefault FlakeDetection.undoes "early_flake_detection" .initial s.flakeDetection)
      (by simp)).seq
    (.withDefault Undoes.string.map "system_properties" .empty s.systemProperties) (by simp)).seq
    (.optional .string Json.str_ne_null "skip_correlation_id" s.skipCorrelationId) (by simp)
  have htests := ((hpolicy.seq
    (.withDefault TestLists.undoes "skippable_tests" .empty s.skippable) (by simp)).seq
    (.withDefault TestLists.undoes "flaky_tests" .empty s.flaky) (by simp)).seq
    (.nullable TestLists.undoes TestLists.ne_null "known_tests" s.known) (by simp)
  have hread := (htests.seq (.withDefault Json.undoes_strings "coverage_enabled_packages" []
    s.coveragePackages) (by simp)).decoder
  simp only [List.append_assoc, List.cons_append, List.nil_append] at hread
  simp only [toJson, List.cons_append, List.nil_append]
  exact hread

theorem plain_toJson (depth : Nat) (s : ExecutionSettings) : plain (depth + 4) s.toJson = true := by
  simp [toJson, Json.plainMembers, Json.plainMembers_append, Json.ofStrings,
    Json.plainMembers_optionalMember (Json.plain_str (depth + 3)), FlakeDetection.plain_toJson,
    Json.plainMembers_map (Json.plain_str (depth + 2)), TestLists.plain_toJson,
    Json.plain_ofOption (TestLists.plain_toJson depth),
    Json.plainItems_map (Json.plain_str (depth + 2))]

end ExecutionSettings

end TestTelemetry
