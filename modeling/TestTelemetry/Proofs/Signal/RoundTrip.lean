/-
Signals and responses survive their JSON form.

* `CoverageStore.undoes`, `ModuleResult.writes_members`, `RepoIndex.undoes` — what they carry;
* `Signal.undoes`, `Response.undoes` — whole signals and responses;
* `Signal.plain_toJson`, `Response.plain_toJson` — what is written of them is plain.
-/
import TestTelemetry.Proofs.Coverage.Algebra
import TestTelemetry.Proofs.Settings.RoundTrip
import TestTelemetry.Signal.Codec

namespace TestTelemetry

open Json (Source Undoes plain plainMembers)
open Json.Record (Member Writes)

namespace ExecutionData

theorem undoes : Undoes decoder toJson := fun src d =>
  (((Writes.first src mk (.required .uint64 "id" d.id)).seq (.required .string "name" d.name)
    (by simp)).seq (.required Undoes.bool.list "probes" d.probes) (by simp)).decoder

theorem plain_toJson (depth : Nat) (d : ExecutionData) : plain (depth + 2) d.toJson = true := by
  simp [toJson, plainMembers, Json.plain_uint64, Json.plainItems_map (Json.plain_bool depth)]

end ExecutionData

namespace CoverageStore

theorem undoes : Undoes decoder toJson := fun src s => by
  rw [toJson, decoder, ExecutionData.undoes.list src s.toList]
  exact congrArg Except.ok s.empty_merge

theorem ne_null (s : CoverageStore) : Json.Node.ofJson s.toJson ≠ .null := by
  rw [toJson, Json.Node.ofJson]
  exact Json.Node.noConfusion

theorem plain_toJson (depth : Nat) (s : CoverageStore) : plain (depth + 3) s.toJson = true :=
  (Json.plain_arr ..).trans (Json.plainItems_map (ExecutionData.plain_toJson depth) s.toList)

end CoverageStore

namespace ModuleResult

theorem writes_members (src : Source) (r : ModuleResult) :
    ∃ names, Writes record src names r.members r := by
  have hmodule := ((Writes.first src mk (.required .string "session_id" r.sessionId)).seq
    (.required .uint64 "module_id" r.moduleId) (by simp)).seq
    (.required .string "module_name" r.moduleName) (by simp)
  have hswitches := (((hmodule.seq
    (.withDefault .bool "coverage_enabled" false r.coverageEnabled) (by simp)).seq
    (.withDefault .bool "skip_enabled" false r.skipEnabled) (by simp)).seq
    (.withDefault .bool "early_flake_enabled" false r.flakeDetectionEnabled) (by simp)).seq
    (.withDefault .bool "early_flake_faulty" false r.faulty) (by simp)
  have hall := ((hswitches.seq (.optional .string Json.str_ne_null "status" r.status) (by simp)).seq
    (.withDefault .uint64 "tests_skipped_total" 0 r.testsSkipped) (by simp)).seq
    (.optional CoverageStore.undoes CoverageStore.ne_null "coverage" r.coverage) (by simp)
  exact ⟨_, hall⟩

theorem plain_members (depth : Nat) (r : ModuleResult) :
    plainMembers (depth + 3) r.members = true := by
  simp [members, plainMembers, Json.plainMembers_append, Json.plain_uint64,
    Json.plainMembers_optionalMember (Json.plain_str (depth + 3)),
    Json.plainMembers_optionalMember (CoverageStore.plain_toJson depth)]

end ModuleResult

namespace RepoIndex

theorem undoes : Undoes decoder toJson := fun src i =>
  ((Writes.first src mk (.required Json.undoes_strings "source_roots" i.sourceRoots)).seq
    (.required Undoes.string.map "sources" i.sources) (by simp)).decoder

theorem plain_toJson (depth : Nat) (i : RepoIndex) : plain (depth + 2) i.toJson = true := by
  simp [toJson, plainMembers, Json.ofStrings, Json.plainItems_map (Json.plain_str depth),
    Json.plainMembers_map (Json.plain_str depth)]

end RepoIndex

namespace SettingsRequest

theorem writes_members (src : Source) (q : SettingsRequest) :
    ∃ names, Writes record src names q.members q :=
  ⟨_, (Writes.first src mk (.required WorkerIdentity.undoes "worker_identity" q.identity)).seq
    (.required .string "module_name" q.moduleName) (by simp)⟩

end SettingsRequest

namespace Signal

theorem decoderOf_members (src : Source) (s : Signal) :
    decoderOf s.kind src (Json.Node.ofJson (.obj s.members)) = .ok s := by
  cases s with
  | moduleResult r =>
    obtain ⟨names, hwrites⟩ := r.writes_members src
    exact (hwrites.map moduleResult).decoder
  | repoIndex => exact (Writes.pure repoIndex).decoder
  | moduleSettings q =>
    obtain ⟨names, hwrites⟩ := q.writes_members src
    exact (hwrites.map moduleSettings).decoder

theorem plain_members (depth : Nat) (s : Signal) : plainMembers (depth + 3) s.members = true := by
  cases s with
  | moduleResult r => exact r.plain_members depth
  | repoIndex => rw [members, plainMembers]
  | moduleSettings q =>
    simp [members, SettingsRequest.members, plainMembers, WorkerIdentity.plain_toJson]

theorem plain_toJson (depth : Nat) (s : Signal) : plain (depth + 4) s.toJson = true := by
  simp [toJson, plainMembers, plain_members]

/-- No member of a signal is named as the one that names its kind. -/
theorem members_fresh (s : Signal) : ∀ m ∈ s.members, m.1 ≠ kindMember := by
  cases s with
  | moduleResult r =>
    rw [members, ModuleResult.members]
    cases r.status <;> cases r.coverage <;> simp [Json.optionalMember, kindMember]
  | repoIndex => simp [members]
  | moduleSettings q => simp [members, SettingsRequest.members, kindMember]

theorem undoes : Undoes decoder toJson := by
  intro src s
  have hkind : (SignalKind.ofName? s.kind.name).map decoderOf = some (decoderOf s.kind) := by
    cases s <;> rfl
  rw [toJson, decoder, Json.tagged_eq hkind s.members_fresh (s.plain_members 123)]
  exact s.decoderOf_members .buffer

end Signal

namespace Response

theorem decoderOf?_members (r : Response) : ∃ d, decoderOf? r.kindName = some d ∧
    ∀ src, d src (Json.Node.ofJson (.obj r.members)) = .ok r := by
  cases r with
  | moduleAck removed =>
    exact ⟨_, rfl, fun src =>
      (Writes.first src moduleAck (.required .bool "module_removed" removed)).decoder⟩
  | moduleSettings s =>
    exact ⟨_, rfl, fun src =>
      (Writes.first src moduleSettings (.required ExecutionSettings.undoes "settings" s)).decoder⟩
  | repoIndex i =>
    exact ⟨_, rfl, fun src =>
      (Writes.first src repoIndex (.required RepoIndex.undoes "index" i)).decoder⟩
  | error message =>
    exact ⟨_, rfl, fun src =>
      (Writes.first src error (.required .string "message" message)).decoder⟩

theorem plain_members (depth : Nat) (r : Response) :
    plainMembers (depth + 4) r.members = true := by
  cases r with
  | moduleAck removed => simp [members, plainMembers]
  | moduleSettings s => simp [members, plainMembers, ExecutionSettings.plain_toJson]
  | repoIndex i => simp [members, plainMembers, RepoIndex.plain_toJson]
  | error message => simp [members, plainMembers]

theorem plain_toJson (depth : Nat) (r : Response) : plain (depth + 5) r.toJson = true := by
  simp [toJson, plainMembers, plain_members]

theorem members_fresh (r : Response) : ∀ m ∈ r.members, m.1 ≠ kindMember := by
  cases r <;> simp [members, kindMember]

theorem undoes : Undoes decoder toJson := by
  intro src r
  obtain ⟨d, hkind, hread⟩ := r.decoderOf?_members
  rw [toJson, decoder, Json.tagged_eq hkind r.members_fresh (r.plain_members 122)]
  exact hread .buffer

end Response

end TestTelemetry
