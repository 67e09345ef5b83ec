/-
Signals between workers and the session.

A worker reports the result of a module, or asks for the index of the repository
or for the settings of a module.  Each signal gets one response.

* `Signal`, `Response` — what goes each way;
* `Signal.kind` — what a handler is chosen by.
-/
import TestTelemetry.Outcome.ModuleResult
import TestTelemetry.Repository.Index

namespace TestTelemetry

/-- The kinds of signals. -/
inductive SignalKind
  | moduleResult
  | repoIndex
  | moduleSettings
deriving DecidableEq, Repr

namespace SignalKind

/-- The name on the wire. -/
def name : SignalKind → String
  | moduleResult => "module_execution_result"
  | repoIndex => "repo_index_request"
  | moduleSettings => "module_settings_request"

/-- The name in descriptions. -/
def title : SignalKind → String
  | moduleResult => "ModuleExecutionResult"
  | repoIndex => "RepoIndexRequest"
  | moduleSettings => "ModuleSettingsRequest"

def ofName? (s : String) : Option SignalKind :=
  if s = moduleResult.name then some moduleResult
  else if s = repoIndex.name then some repoIndex
  else if s = moduleSettings.name then some moduleSettings
  else none

def toJson (k : SignalKind) : Json := .str k.name

def decoder : Json.Decoder SignalKind := Json.Decoder.variant ofName?

end SignalKind

/-- A question for the settings of a module, for the runtime of the one who asks. -/
structure SettingsRequest where
  identity : WorkerIdentity
  moduleName : String
deriving DecidableEq

/-- What a worker sends. -/
inductive Signal
  | moduleResult (r : ModuleResult)
  | repoIndex
  | moduleSettings (q : SettingsRequest)
deriving DecidableEq

/-- What a worker gets back. -/
inductive Response
  | moduleAck (removed : Bool)
  | moduleSettings (s : ExecutionSettings)
  | repoIndex (i : RepoIndex)
  | error (message : String)
deriving DecidableEq

namespace Signal

def kind : Signal → SignalKind
  | moduleResult _ => .moduleResult
  | repoIndex => .repoIndex
  | moduleSettings _ => .moduleSettings

end Signal

def Response.isError : Response → Bool
  | error _ => true
  | _ => false

end TestTelemetry
