/-
The worker program.

A worker finds its session in its environment.  Whoever listens at the address
there is its peer.

* `Surroundings`, `Outcome` — what a program finds, and what it leaves;
* `WorkerCommand.run` — what a worker does.
-/
import TestTelemetry.CommandLine.Command
import TestTelemetry.Session.Server
import TestTelemetry.Signal.Peer
import TestTelemetry.Worker.Replay
import TestTelemetry.Worker.Config

namespace TestTelemetry.CommandLine

/-- What a program finds when it is started. -/
structure Surroundings where
  environment : Environment
  files : FileTree
  /-- What can be read from standard input. -/
  input : List UInt8

/-- How a program ends. -/
inductive Ending
  | success
  | failure (message : Option String)
  /-- The command line is none of the program's. -/
  | misuse
deriving DecidableEq, Repr

def Ending.code : Ending → UInt8
  | success => 0
  | failure _ => 1
  | misuse => 2

/-- What a program has printed, what the programs it started complained about, and how it
ended. -/
structure Outcome where
  output : String
  complaints : List String
  ending : Ending
deriving DecidableEq, Repr

namespace Outcome

def printed (text : String) : Outcome := ⟨text ++ "\n", [], .success⟩

def silent : Outcome := ⟨"", [], .success⟩

def failed (message : String) : Outcome := ⟨"", [], .failure (some message)⟩

/-- A program that ends badly without a word. -/
def failedSilently : Outcome := ⟨"", [], .failure none⟩

/-- What a program complains about at its end. -/
def complaint? (o : Outcome) : Option String :=
  match o.ending with
  | .failure message => message
  | _ => none

end Outcome

/-- The end of a program whose command line is not carried out. -/
def stopped (programName version usage : String) : Stop → Outcome
  | .wrong => ⟨"", [], .misuse⟩
  | .help => .printed usage
  | .version => .printed (programName ++ " " ++ version)

/-- What is said when something is asked of a session that is not there. -/
def noSessionMessage : String := "no build session advertised in the environment"

/-- What is said of a script that cannot be opened. -/
def openingMessage (script : Path) : String := "opening " ++ script.display

/-- What is said of a line that is no event. -/
def invalidEventMessage (script : Path) (line : Nat) : String :=
  script.display ++ ":" ++ toString line ++ ": invalid event"

/-- What is said of a client that got no response.  Where nobody listens there is no network
either. -/
def clientMessage (client : Client) : ClientError → String
  | .connect =>
    ClientError.connect.message ++ " at " ++ client.address.display ++
      ": Network is unreachable (os error 101)"
  | e => e.message

/-- The path that stands for standard input. -/
def standardInput : Path := "-"

namespace WorkerCommand

variable {σ : Type} (peer : Peer σ) (s : σ)

/-- Print what the session answered. -/
def printAnswer {α : Type} (client : Client) (toJson : α → Json) :
    Except ClientError α × σ → Outcome × σ
  | (.ok x, s) => (.printed (toJson x).pretty, s)
  | (.error e, s) => (.failed (clientMessage client e), s)

/-- Replay a script up to its first fault. -/
def replayScript (h : Handler) (script : Path) (content : List UInt8) : Except String Handler :=
  let lines := byteLines content
  let texts := textLines lines
  let done := replayLines 1 ⟨h, 0, none⟩ texts
  match done.fault with
  | some e => .error (invalidEventMessage script e.line)
  | none =>
    if texts.length < lines.length then .error ReadFault.noText.message else .ok done.handler

/-- The content of a script. -/
def scriptContent? (w : Surroundings) (script : Path) : Option (List UInt8) :=
  if script = standardInput then some w.input else w.files.read? script

/-- Replay a script, end the module and hand its result to the session.  A worker without a
session, or without an answer from it, has the settings that hold when nothing is said. -/
def runScript (w : Surroundings) (c : WorkerConfig) (client : Option Client) (script : Path) :
    Outcome × σ :=
  let (given, s) : ExecutionSettings × σ :=
    match client with
    | none => (.initial, s)
    | some _ =>
      let (answer, s) := peer.settings s c.identity c.moduleName
      ((answer.toOption).getD .initial, s)
  match scriptContent? w script with
  | none =>
    -- a folder can be opened, but not read
    let fault := if w.files.isFolder script then ReadFault.folder.message else openingMessage script
    (.failed fault, s)
  | some content =>
    match replayScript (.start c.descriptor given) script content with
    | .error message => (.failed message, s)
    | .ok h =>
      match h.finishModule.2, client with
      | some result, some _ => (.silent, peer.deliver s result)
      | _, _ => (.silent, s)

/-- What a worker does. -/
def run (w : Surroundings) (command : WorkerCommand) : Outcome × σ :=
  match WorkerConfig.ofEnvironment w.environment with
  | .error errors => (.failed (configMessage errors), s)
  | .ok c =>
    match c.client with
    | .error e => (.failed e.message, s)
    | .ok client =>
      match command, client with
      | .replay script, client => runScript peer s w c client script
      | _, none => (.failed noSessionMessage, s)
      | .settings, some client =>
        printAnswer client ExecutionSettings.toJson (peer.settings s c.identity c.moduleName)
      | .repoIndex, some client => printAnswer client RepoIndex.toJson (peer.repoIndex s)

/-- How the worker program is called. -/
def usage : String :=
  "Usage: " ++ programName ++ " [-v] settings | repo-index | replay <EVENTS>"

/-- The worker program. -/
def call (version : String) (w : Surroundings) (words : List String) : Outcome × σ :=
  match read words with
  | .error stop => (stopped programName version usage stop, s)
  | .ok command => run peer s w command

end WorkerCommand

end TestTelemetry.CommandLine
