/-
The wire form of signals and responses.

Each is a JSON object on a line of its own; the member `type` names its kind.

* `Signal.toJson`, `Response.toJson` — the objects;
* `encodeLine` — an object as a line;
* `decodeLine` — a line read, blanks around it left out.
-/
import TestTelemetry.Signal.Basic
import TestTelemetry.Text.Blank

namespace TestTelemetry

open Json (Decoder Record)

/-- The member that names the kind. -/
def kindMember : String := "type"

namespace SettingsRequest

def members (q : SettingsRequest) : List (String × Json) :=
  [("worker_identity", q.identity.toJson), ("module_name", .str q.moduleName)]

def record : Record SettingsRequest :=
  SettingsRequest.mk <$> Record.required "worker_identity" WorkerIdentity.decoder
    <*> Record.required "module_name" Decoder.string

end SettingsRequest

namespace Signal

def members : Signal → List (String × Json)
  | moduleResult r => r.members
  | repoIndex => []
  | moduleSettings q => q.members

def toJson (s : Signal) : Json := .obj ((kindMember, .str s.kind.name) :: s.members)

def decoderOf : SignalKind → Decoder Signal
  | .moduleResult => (moduleResult <$> ModuleResult.record).decoder
  | .repoIndex => Record.decoder (pure repoIndex)
  | .moduleSettings => (moduleSettings <$> SettingsRequest.record).decoder

def decoder : Decoder Signal :=
  Json.tagged kindMember fun name => (SignalKind.ofName? name).map decoderOf

end Signal

namespace Response

def kindName : Response → String
  | moduleAck _ => "module_ack"
  | moduleSettings _ => "module_settings"
  | repoIndex _ => "repo_index"
  | error _ => "error"

def members : Response → List (String × Json)
  | moduleAck removed => [("module_removed", .bool removed)]
  | moduleSettings s => [("settings", s.toJson)]
  | repoIndex i => [("index", i.toJson)]
  | error message => [("message", .str message)]

def toJson (r : Response) : Json := .obj ((kindMember, .str r.kindName) :: r.members)

def decoderOf? (name : String) : Option (Decoder Response) :=
  if name = "module_ack" then
    some (moduleAck <$> Record.required "module_removed" Decoder.bool).decoder
  else if name = "module_settings" then
    some (moduleSettings <$> Record.required "settings" ExecutionSettings.decoder).decoder
  else if name = "repo_index" then
    some (repoIndex <$> Record.required "index" RepoIndex.decoder).decoder
  else if name = "error" then
    some (error <$> Record.required "message" Decoder.string).decoder
  else none

def decoder : Decoder Response := Json.tagged kindMember decoderOf?

end Response

/-- Why a line is no message. -/
inductive LineError
  | empty
  | malformed (cause : Json.DecodeError)
deriving DecidableEq, Repr

def LineError.message : LineError → String
  | empty => "empty message"
  | malformed cause => "malformed message: " ++ cause.message

/-- A value as a line. -/
def encodeLine (v : Json) : List Char := v.compact ++ ['\n']

/-- Read a line; blanks around it do not count. -/
def decodeLine {α : Type} (d : Decoder α) (line : List Char) : Except LineError α :=
  let trimmed := Text.trim line
  if trimmed = [] then .error .empty
  else
    match Json.decodeText d trimmed with
    | .ok x => .ok x
    | .error e => .error (.malformed e)

end TestTelemetry
