/-
The worker's side of a connection.

A client opens a connection, sends one signal and reads one line.  What the other
side writes is a sequence of bytes, or nothing at all when nobody listens.

* `Client.send?` — the response to a signal;
* `Client.request?` — the same, where an error is a failure;
* `Client.ofEnvironment` — the client of the session that the environment names.
-/
import TestTelemetry.Signal.Codec
import TestTelemetry.Environment.Getters
import TestTelemetry.Network.Address

namespace TestTelemetry

/-- Why a signal got no response that can be used. -/
inductive ClientError
  | connect
  | resolve (target : String)
  | io
  | line (cause : LineError)
  | closed
  | rejected (signal message : String)
  | unexpected (request : String) (response : Response)
deriving DecidableEq

namespace ClientError

def message : ClientError → String
  | connect => "failed to connect to signal server"
  | resolve target => "signal server address '" ++ target ++ "' could not be resolved"
  | io => "i/o error talking to signal server"
  | line cause => cause.message
  | closed => "signal server closed the connection without responding"
  | rejected signal message => "signal server rejected " ++ signal ++ ": " ++ message
  | unexpected request _ => "unexpected response to " ++ request

end ClientError

/-- Where a client sends to and how long it waits. -/
structure Client where
  address : SocketAddress
  timeoutMs : Nat
deriving DecidableEq

/-- The bytes of the first line, with its newline. -/
def firstLine : List UInt8 → List UInt8
  | [] => []
  | b :: bs => if b = 10 then [b] else b :: firstLine bs

namespace Client

/-- How long a client waits when nothing is said. -/
def defaultTimeoutMs : Nat := 30000

def maxTimeoutMs : Nat := 3600000

/-- The response that a peer's bytes hold; no bytes can come from where nobody listens. -/
def readResponse (reply : Option (List UInt8)) : Except ClientError Response :=
  match reply with
  | none => .error .connect
  | some [] => .error .closed
  | some bytes =>
    match Text.decode? (firstLine bytes) with
    | none => .error .io
    | some line =>
      match decodeLine Response.decoder line with
      | .ok r => .ok r
      | .error e => .error (.line e)

/-- The line that a signal is sent as. -/
def requestLine (s : Signal) : List Char := encodeLine s.toJson

/-- The response to a signal, from what the peer answers to a line. -/
def send? (peer : List Char → Option (List UInt8)) (s : Signal) : Except ClientError Response :=
  readResponse (peer (requestLine s))

/-- The response to a signal; an error is a failure. -/
def request? (peer : List Char → Option (List UInt8)) (s : Signal) : Except ClientError Response :=
  match send? peer s with
  | .ok (.error message) => .error (.rejected s.kind.name message)
  | r => r

/-- Ask for the settings of a module. -/
def requestSettings (peer : List Char → Option (List UInt8)) (identity : WorkerIdentity)
    (module : String) : Except ClientError ExecutionSettings :=
  match request? peer (.moduleSettings ⟨identity, module⟩) with
  | .error e => .error e
  | .ok (.moduleSettings s) => .ok s
  | .ok r => .error (.unexpected "module settings request" r)

/-- Ask for the index of the repository. -/
def requestRepoIndex (peer : List Char → Option (List UInt8)) : Except ClientError RepoIndex :=
  match request? peer .repoIndex with
  | .error e => .error e
  | .ok (.repoIndex i) => .ok i
  | .ok r => .error (.unexpected "repo index request" r)

/-- What tells the address that a host and a port joined by a colon stand for. -/
abbrev Resolver : Type := List Char → Option SocketAddress

/-- A client for a host and a port. -/
def connectTo (host : String) (port : Nat) (timeoutMs : Nat) (resolver : Resolver := resolve?) :
    Except ClientError Client :=
  let target := host ++ ":" ++ toString port
  match resolver target.toList with
  | some address => .ok ⟨address, timeoutMs⟩
  | none => .error (.resolve target)

/-- The client that the environment names, if it names one. -/
def ofEnvironment (env : Environment) (resolver : Resolver := resolve?) :
    Except ClientError (Option Client) :=
  let host := (env.getOptional Variable.serverHost).value
  let port := (env.getNat Environment.width16 Variable.serverPort 0 1 65535).value
  let timeout :=
    (env.getNat Environment.width64 Variable.clientTimeout defaultTimeoutMs 1 maxTimeoutMs).value
  match host with
  | some host => if port = 0 then .ok none else (connectTo host port timeout resolver).map some
  | none => .ok none

end Client

end TestTelemetry
