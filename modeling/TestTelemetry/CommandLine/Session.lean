/-
The session program.

The program starts a session and every module, then runs a worker for each module
in turn.  A worker finds the session in its environment, and its lines go to the
session's server.  At the end the session is summed up, whatever the workers did.

* `WorkerProgram` — the programs that a worker can be;
* `SessionCommand.run` — a session from its start to its summary.
-/
import TestTelemetry.CommandLine.Worker
import TestTelemetry.CommandLine.Circumstances
import TestTelemetry.Session.Config
import TestTelemetry.Session.Summary

namespace TestTelemetry

namespace CommandLine

/-- The programs that a worker can be.  They run as part of the session program; others are not
known to it. -/
inductive WorkerProgram
  | agent
  /-- Does nothing, and ends well or not. -/
  | idle (succeeds : Bool)
  /-- Prints its arguments. -/
  | echo
  /-- Prints the values of variables, all of which must be set. -/
  | variableValues
deriving DecidableEq, Repr

namespace WorkerProgram

/-- The programs besides the agent by their names. -/
def named : List (String × WorkerProgram) :=
  [("true", idle true), ("false", idle false), ("echo", echo), ("printenv", variableValues)]

/-- The folders that those programs are in, and none for a name that is looked up. -/
def folders : List String := ["", "/bin/", "/usr/bin/"]

def ofName? (name : String) : Option WorkerProgram :=
  if name = WorkerCommand.programName then some agent
  else (named.find? fun p => folders.any fun folder => folder ++ p.1 = name).map (·.2)

/-- Run a worker with a session as its peer, if it reaches it. -/
def run (p : WorkerProgram) (reachable : Bool) (w : Surroundings) (arguments : List String)
    (s : Session) : Outcome × Session :=
  match p with
  | agent =>
    let peer := if reachable then Session.peer w.files else Peer.nobody
    WorkerCommand.call peer s programVersion w arguments
  | idle succeeds => (if succeeds then .silent else .failedSilently, s)
  | echo => (.printed (String.intercalate " " arguments), s)
  | variableValues =>
    let values := arguments.map w.environment.get?
    let output := String.join (values.filterMap fun v => v.map (· ++ "\n"))
    (⟨output, [], if values.all Option.isSome then .success else .failure none⟩, s)

end WorkerProgram

namespace SessionCommand

/-- A session with its files, what was printed, what workers complained about, and how many
of them failed. -/
structure Progress where
  session : Session
  files : FileTree
  output : String
  complaints : List String
  failed : Nat

/-- A session whose workers have not run. -/
def Progress.start (session : Session) (files : FileTree) : Progress :=
  ⟨session, files, "", [], 0⟩

def startingMessage : String := "starting build session"

def startingModuleMessage (name : String) : String := "starting module " ++ name

def spawningMessage (name : String) : String := "spawning worker for module " ++ name

def failedMessage (n : Nat) : String := toString n ++ " worker(s) failed"

def writingMessage (path : Path) : String := "writing " ++ path.display

/-- Start modules one after the other.  The first that has no worker ends this. -/
def startModules (program : String) (t : FileTree) :
    List ModuleSpec → Session → Except String (List Nat) × Session
  | [], s => (.ok [], s)
  | m :: rest, s =>
    match s.startModule t m.name m.outputDirs with
    | (.error _, s) => (.error (startingModuleMessage m.name), s)
    | (.ok place, s) =>
      if (WorkerProgram.ofName? program).isNone then (.error (spawningMessage m.name), s)
      else
        let (places, s) := startModules program t rest s
        (places.map (place :: ·), s)

/-- What a worker of a module finds. -/
def surroundings (w : Surroundings) (d : ModuleDescriptor) : Surroundings where
  environment := 
    ⟨(Environment.ofTexts d.environment).bindings ++ w.environment.bindings, w.environment.home⟩
  files := w.files
  input := []

/-- Run the worker of the module at a place. -/
def runWorker (c : Circumstances) (w : Surroundings) (p : WorkerProgram)
    (arguments : List String) (g : Progress) (place : Nat) : Progress :=
  match g.session.run.modules[place]? with
  | none => g
  | some m =>
    let (outcome, session) := p.run c.reachable (surroundings w m.descriptor) arguments g.session
    { g with
      session
      output := g.output ++ outcome.output
      complaints := g.complaints ++ outcome.complaint?.toList
      failed := if outcome.ending = .success then g.failed else g.failed + 1 }

/-- End the session, and print its summary or write it to a file.  Says what went wrong with
that. -/
def conclude (c : Circumstances) (summaryPath : Option Path) (g : Progress) :
    Progress × Option String :=
  match g.session.finish g.files with
  | (none, session, files) => ({ g with session, files }, none)
  | (some summary, session, files) =>
    let g := { g with session, files }
    let text := (summary.toJson c.startedAt).pretty
    match summaryPath with
    | none => ({ g with output := g.output ++ text ++ "\n" }, none)
    | some path =>
      match files.write? path (Text.encode text) with
      | some files => ({ g with files }, none)
      | none => (g, some (writingMessage path))

/-- The outcome of a session with the files that it leaves.  A summary that cannot be written is
said before what happened earlier. -/
def outcome (concluded : Progress × Option String) (fault : Option String) : Outcome × FileTree :=
  let (g, writing) := concluded
  let failed := if g.failed > 0 then some (failedMessage g.failed) else none
  let ending := ((writing.or (fault.or failed)).map fun m => .failure (some m)).getD .success
  (⟨g.output, g.complaints, ending⟩, g.files)

/-- Run a session that was started. -/
def runSession (c : Circumstances) (w : Surroundings) (command : SessionCommand) (s : Session) :
    Outcome × FileTree :=
  match startModules command.program w.files command.modules s,
    WorkerProgram.ofName? command.program with
  | (.error message, s), _ =>
    outcome (conclude c command.summary (.start s w.files)) (some message)
  | (.ok places, s), program =>
    let g := places.foldl (fun g place =>
      (program.map fun p => runWorker c w p command.arguments g place).getD g) (.start s w.files)
    outcome (conclude c command.summary g) none

/-- The command as the session's tag shows it. -/
def commandText (command : SessionCommand) : String :=
  String.intercalate " " (command.program :: command.arguments)

/-- A session from its start to its summary. -/
def run (c : Circumstances) (w : Surroundings) (command : SessionCommand) : Outcome × FileTree :=
  match SessionConfig.load w.files command.config with
  | .error e => (.failed e.message, w.files)
  | .ok config =>
    let (config, _) := config.overlay w.environment w.files
    match config.options w.files command.projectName command.commandText with
    | .error e => (.failed e.message, w.files)
    | .ok options =>
      match Session.start c.id options config.provider (config.indexSource w.files)
        (c.granted options.bind) with
      | .error _ => (.failed startingMessage, w.files)
      | .ok s => runSession c w command s

/-- The paths besides its own folder that a session reads or writes. -/
def paths (w : Surroundings) (command : SessionCommand) : List Path :=
  let configured : List Path :=
    match SessionConfig.load w.files command.config with
    | .error _ => []
    | .ok config =>
      let (config, _) := config.overlay w.environment w.files
      config.settingsFile.toList ++ config.repoRoot.toList
  configured ++ command.modules.flatMap (·.outputDirs)

/-- How the session program is called. -/
def usage : String :=
  "Usage: " ++ programName ++ " [-v] [-c <CONFIG>] run [--project-name <NAME>] " ++
    "-m <NAME[=DIR]>... [--summary <FILE>] -- <COMMAND>..."

/-- The variable for the configuration file. -/
def configVariable : String := Environment.variableName "CONFIG"

/-- The session program. -/
def call (c : Circumstances) (w : Surroundings) (words : List String) : Outcome × FileTree :=
  match read (w.environment.get? configVariable) words with
  | .error stop => (stopped programName programVersion usage stop, w.files)
  | .ok command => run c w command

end SessionCommand

end CommandLine

end TestTelemetry
