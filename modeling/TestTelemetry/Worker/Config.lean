/-
The configuration of a worker.

A session starts its workers with variables that say which module they run and
where the session listens.  All variables are read before anything is reported,
so that every fault shows at once.

* `WorkerConfig.ofEnvironment` — the configuration, or all faults;
* `WorkerConfig.client` — the client of the session, if it listens;
* `ModuleDescriptor.environment` — the variables that a module's worker gets.
-/
import TestTelemetry.Signal.Client
import TestTelemetry.Lifecycle.Run

namespace TestTelemetry

/-- What a worker has to know. -/
structure WorkerConfig where
  sessionId : String
  moduleId : UInt64
  moduleName : String
  host : Option String
  port : Nat
  timeoutMs : Nat
  identity : WorkerIdentity

/-- Several errors as one message. -/
def configMessage (errors : List EnvError) : String :=
  "invalid worker environment: " ++ String.intercalate "; " (errors.map EnvError.message)

namespace WorkerConfig

/-- The configuration that the environment describes, or all that is wrong with it. -/
def ofEnvironment (env : Environment) : Except (List EnvError) WorkerConfig :=
  let sessionId := env.require Variable.sessionId
  let moduleName := env.require Variable.moduleName
  let moduleId := env.getNat Environment.width64 Variable.moduleId 0 0 Environment.width64.max
  let host := env.getOptional Variable.serverHost
  let port := env.getNat Environment.width16 Variable.serverPort 0 0 65535
  let timeout := env.getNat Environment.width64 Variable.clientTimeout Client.defaultTimeoutMs 1
    Client.maxTimeoutMs
  let errors := sessionId.errors ++ moduleName.errors ++ moduleId.errors ++ port.errors ++
    timeout.errors
  match sessionId.value, moduleName.value, errors with
  | some session, some module, [] =>
    .ok
      { sessionId := session
        moduleId := UInt64.ofNat moduleId.value
        moduleName := module
        host := host.value
        port := port.value
        timeoutMs := timeout.value
        identity :=
          ⟨(env.getString Variable.runtimeName "unknown").value,
            (env.getString Variable.runtimeVersion "").value,
            (env.getString Variable.runtimeVendor "").value⟩ }
  | _, _, _ => .error errors

/-- The client of the session, if a host and a port are named. -/
def client (c : WorkerConfig) (resolver : Client.Resolver := resolve?) :
    Except ClientError (Option Client) :=
  match c.host with
  | some host =>
    if c.port = 0 then .ok none else (Client.connectTo host c.port c.timeoutMs resolver).map some
  | none => .ok none

/-- The module that the worker runs. -/
def descriptor (c : WorkerConfig) : ModuleDescriptor :=
  ⟨c.sessionId, c.moduleId, c.moduleName, [], none⟩

end WorkerConfig

/-- The variables that a module's worker is started with. -/
def ModuleDescriptor.environment (d : ModuleDescriptor) : List (String × String) :=
  [(Environment.variableName Variable.sessionId, d.sessionId),
    (Environment.variableName Variable.moduleId, toString d.id.toNat),
    (Environment.variableName Variable.moduleName, d.name)] ++
  match d.address with
  | some a =>
    [(Environment.variableName Variable.serverHost, a.ip.display),
      (Environment.variableName Variable.serverPort, toString a.port.toNat)]
  | none => []

end TestTelemetry
