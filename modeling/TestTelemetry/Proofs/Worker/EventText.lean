/-
Every event has a line.

* `SuiteKey.writes`, `TestKey.writes` — the members that name a suite or a test;
* `WorkerEvent.undoes` — an event is read back from its object, whichever kind it is of;
* `WorkerEvent.ofLine_compact` — and from its line.
-/
import TestTelemetry.Proofs.Signal.Wire
import TestTelemetry.Worker.Event

namespace TestTelemetry

open Json (Source Undoes plain plainMembers)
open Json.Record (Member Writes)

theorem SuiteKey.writes (src : Source) (s : SuiteKey) :
    Writes record src ["code_unit", "suite"] s.members s :=
  (Writes.first src mk (.required .string "suite" s.name)).seq
    (.nullable .string Json.str_ne_null "code_unit" s.codeUnit) (by simp)

theorem TestKey.writes (src : Source) (t : TestKey) :
    Writes record src ["qualifier", "parameters", "name", "code_unit", "suite"] t.members t := by
  have hname := ((t.suite.writes src).map mk).seq (.required .string "name" t.name) (by simp)
  have hall := (hname.seq
    (.nullable .string Json.str_ne_null "parameters" t.parameters) (by simp)).seq
    (.nullable .string Json.str_ne_null "qualifier" t.qualifier) (by simp)
  rw [List.append_assoc, List.append_assoc] at hall
  exact hall

namespace Failure

theorem undoes : Undoes decoder toJson := fun src f =>
  ((Writes.first src mk (.nullable .string Json.str_ne_null "kind" f.kind)).seq
    (.required .string "message" f.message) (by simp)).decoder

theorem plain_toJson (depth : Nat) (f : Failure) : plain (depth + 1) f.toJson = true := by
  simp [toJson, plainMembers, Json.plain_ofOption (Json.plain_str depth)]

end Failure

namespace WorkerEvent

/-- Every kind of event has a record of its own, which its members fill. -/
theorem recordOf?_parts (e : WorkerEvent) : ∃ r, recordOf? e.parts.1 = some r ∧
    ∀ src, ∃ names, Writes r src names e.parts.2 e := by
  cases e with
  | suiteStart s parallelized =>
    exact ⟨_, rfl, fun src => ⟨_, ((s.writes src).map suiteStart).seq
      (.withDefault .bool "parallelized" false parallelized) (by simp)⟩⟩
  | suiteSkip s reason =>
    exact ⟨_, rfl, fun src => ⟨_, ((s.writes src).map suiteSkip).seq
      (.nullable .string Json.str_ne_null "reason" reason) (by simp)⟩⟩
  | suiteFailure s failure =>
    exact ⟨_, rfl, fun src => ⟨_, ((s.writes src).map suiteFailure).seq
      (.required Failure.undoes "error" failure) (by simp)⟩⟩
  | suiteFinish s => exact ⟨_, rfl, fun src => ⟨_, (s.writes src).map suiteFinish⟩⟩
  | testStart t => exact ⟨_, rfl, fun src => ⟨_, (t.writes src).map testStart⟩⟩
  | testSkip t reason =>
    exact ⟨_, rfl, fun src => ⟨_, ((t.writes src).map testSkip).seq
      (.nullable .string Json.str_ne_null "reason" reason) (by simp)⟩⟩
  | testFailure t failure =>
    exact ⟨_, rfl, fun src => ⟨_, ((t.writes src).map testFailure).seq
      (.required Failure.undoes "error" failure) (by simp)⟩⟩
  | testFinish t => exact ⟨_, rfl, fun src => ⟨_, (t.writes src).map testFinish⟩⟩
  | coverage classes =>
    exact ⟨_, rfl, fun src =>
      ⟨_, Writes.first src coverage (.required CoverageStore.undoes "classes" classes)⟩⟩

theorem plain_members (depth : Nat) (e : WorkerEvent) :
    plainMembers (depth + 3) e.parts.2 = true := by
  have hsuite : ∀ s : SuiteKey, plainMembers (depth + 3) s.members = true := fun s => by
    simp [SuiteKey.members, plainMembers, Json.plain_ofOption (Json.plain_str _)]
  have htest : ∀ t : TestKey, plainMembers (depth + 3) t.members = true := fun t => by
    simp [TestKey.members, plainMembers, Json.plainMembers_append, hsuite,
      Json.plain_ofOption (Json.plain_str _)]
  cases e <;>
    simp [parts, Json.plainMembers_append, plainMembers, hsuite, htest,
      Json.plain_ofOption (Json.plain_str _), Failure.plain_toJson, CoverageStore.plain_toJson]

theorem plain_toJson (depth : Nat) (e : WorkerEvent) : plain (depth + 4) e.toJson = true := by
  simp [toJson, plainMembers, plain_members]

/-- No member of an event is named as the one that names its kind. -/
theorem members_fresh (e : WorkerEvent) : ∀ m ∈ e.parts.2, m.1 ≠ kindMember := by
  cases e <;> simp [parts, TestKey.members, SuiteKey.members, kindMember]

/-- An event is read back from its object. -/
theorem undoes : Undoes decoder toJson := by
  intro src e
  obtain ⟨r, hrecord, hwrites⟩ := e.recordOf?_parts
  obtain ⟨names, hfill⟩ := hwrites .buffer
  have hkind : (recordOf? e.parts.1).map Json.Record.decoder = some r.decoder := by
    rw [hrecord, Option.map_some]
  rw [toJson, decoder, Json.tagged_eq hkind e.members_fresh (e.plain_members 123)]
  exact hfill.decoder

/-- **An event is read back from its line.** -/
theorem ofLine_compact (e : WorkerEvent) : ofLine e.toJson.compact = .ok e := by
  rw [ofLine, Json.decodeText, Json.read_compact (e.plain_toJson 0), Json.Document.decode,
    undoes .stream e]
  rfl

theorem compact_not_blank (e : WorkerEvent) : e.toJson.compact.all Text.isBlank = false := by
  obtain ⟨body, hbody⟩ := Json.compact_obj ((kindMember, .str e.parts.1) :: e.parts.2)
  rw [toJson, hbody]
  rfl

end WorkerEvent

end TestTelemetry
