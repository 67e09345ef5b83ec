/-
A build session.

One session runs from when its server listens until it has ended.  It starts
modules, answers the signals of workers and takes in the results of modules,
whether they ended in its own process or in a worker's.

* `SessionPhase` — how far a session has come;
* `Session.start` — a session that runs;
* `Session.startModule`, `Session.endModule` — modules of the session's own process;
* `Session.serve` — what the session's server answers on a connection;
* `Session.peer` — the same as its workers see it.
-/
import TestTelemetry.Session.Aggregator
import TestTelemetry.Session.SettingsCache
import TestTelemetry.Session.Server
import TestTelemetry.Signal.Peer
import TestTelemetry.Repository.Scan

namespace TestTelemetry

/-- How far a session has come. -/
inductive SessionPhase
  | created
  | running
  | ending
  | ended
deriving DecidableEq, Repr

namespace SessionPhase

def name : SessionPhase → String
  | created => "created"
  | running => "running"
  | ending => "ending"
  | ended => "ended"

/-- The name with a capital letter. -/
def title : SessionPhase → String
  | created => "Created"
  | running => "Running"
  | ending => "Ending"
  | ended => "Ended"

def toJson (p : SessionPhase) : Json := .str p.name

/-- The place of a phase in the life of a session. -/
def rank : SessionPhase → Nat
  | created => 0
  | running => 1
  | ending => 2
  | ended => 3

/-- All phases in the order in which a session goes through them. -/
def all : List SessionPhase := [created, running, ending, ended]

end SessionPhase

/-- Why a session refuses to start a module. -/
inductive SessionError
  | registry (cause : RegistryError)
  | notRunning (phase : SessionPhase)
  | settingsBrokeOff (text : Option String)
deriving DecidableEq

def SessionError.message : SessionError → String
  | registry cause => cause.message
  | notRunning phase => "session is " ++ phase.name ++ ", not running"
  | settingsBrokeOff text => text.getD unknownBreak

/-- The version of this program. -/
def programVersion : String := "0.4.2"

/-- What a session is started with. -/
structure SessionOptions where
  projectName : String
  command : String
  repoRoot : Path
  bind : SocketAddress
  /-- Where reports go; no report is written without it. -/
  reportDumpDir : Option Path
  /-- Who the settings of modules in the session's own process are for. -/
  localIdentity : WorkerIdentity

namespace SessionOptions

/-- Who runs the modules of the session's own process. -/
def ownIdentity : WorkerIdentity := ⟨"civisd", programVersion, "civis"⟩

/-- The options when only project and command are named. -/
def initial (projectName command : String) : SessionOptions where
  projectName := projectName
  command := command
  repoRoot := "."
  bind := SignalServer.anyPort
  reportDumpDir := none
  localIdentity := ownIdentity

end SessionOptions

/-- Where the index of the repository comes from. -/
inductive IndexSource
  | scanned (cache : IndexCache)
  | given (answer : Attempt RepoIndex)

/-- The index. -/
def IndexSource.get (i : IndexSource) (t : FileTree) : Attempt RepoIndex × IndexSource :=
  match i with
  | scanned cache =>
    match cache.get t with
    | (some index, cache) => (.done index, scanned cache)
    | (none, cache) => (.failed [walkingMessage cache.root], scanned cache)
  | given answer => (answer, i)

/-- A session. -/
structure Session where
  id : String
  options : SessionOptions
  phase : SessionPhase
  tags : TagLog
  aggregator : Aggregator
  provider : SettingsProvider
  settings : SettingsCache
  index : IndexSource
  nextModuleId : UInt64
  /-- Where workers reach the session. -/
  address : SocketAddress

namespace Session

/-- A session whose server listens; there is none when its address is taken. -/
def start (id : String) (options : SessionOptions) (provider : SettingsProvider)
    (index : IndexSource) (got : Option SocketAddress) : Except ServerError Session :=
  match got with
  | none => .error (.bind options.bind)
  | some address =>
    .ok
      { id, options, provider, index, address
        phase := .running
        tags := TagLog.empty.set Tag.command (.str options.command)
        aggregator := .empty
        settings := .empty
        nextModuleId := 1 }

def describe (s : Session) : String :=
  Text.described "BuildSession" [("id", Text.quoted s.id),
    ("project", Text.quoted s.options.projectName), ("state", s.phase.title)]

/-! ### Modules of the session's own process -/

def run (s : Session) : Run := s.aggregator.run

/-- Change the modules, suites and tests. -/
def mapRun (s : Session) (f : Run → Run) : Session :=
  { s with aggregator := s.aggregator.mapRun f }

def registry (s : Session) : Registry := s.aggregator.registry

/-- The settings of a module in the session's own process; when they cannot be computed
those that hold when nothing is said. -/
def localSettings (s : Session) (t : FileTree) (module : String) :
    Except SessionError ExecutionSettings × Session :=
  let (answer, settings) :=
    s.settings.moduleSettings s.provider t s.options.localIdentity module
  let s := { s with settings }
  match answer with
  | .done x => (.ok x, s)
  | .failed _ => (.ok .initial, s)
  | .brokeOff text => (.error (.settingsBrokeOff text), s)

/-- What the next module is known by. -/
def nextDescriptor (s : Session) (name : String) (outputDirs : List Path) : ModuleDescriptor :=
  ⟨s.id, s.nextModuleId, name, outputDirs, some s.address⟩

/-- Take up a module under the next number, which is used up even if its name is taken.  The
answer is the place of the module. -/
def enterModule (s : Session) (d : ModuleDescriptor) (settings : ExecutionSettings) :
    Except SessionError Nat × Session :=
  let s := { s with nextModuleId := s.nextModuleId + 1 }
  match s.registry.conflict? d.name with
  | some e => (.error (.registry e), s)
  | none =>
    let place := s.run.modules.length
    let registry : Registry :=
      ⟨s.run.startModule d settings, s.registry.places.set d.name place⟩
    (.ok place,
      { s with aggregator := { s.aggregator with registry }.addOutputDirs d.outputDirs })

/-- Start a module.  Only a running session starts modules. -/
def startModule (s : Session) (t : FileTree) (name : String) (outputDirs : List Path) :
    Except SessionError Nat × Session :=
  if s.phase ≠ .running then (.error (.notRunning s.phase), s)
  else
    match s.localSettings t name with
    | (.error e, s) => (.error e, s)
    | (.ok settings, s) => s.enterModule (s.nextDescriptor name outputDirs) settings

/-- A result arrives. -/
def acceptResult (s : Session) (r : ModuleResult) : Bool × Session :=
  let (removed, aggregator) := s.aggregator.accept r
  (removed, { s with aggregator })

/-- End the module at a place and take in its result.  The answer says whether it ended now. -/
def endModule (s : Session) (place : Nat) : Bool × Session :=
  match s.run.endModule place with
  | (run, some result) => (true, ((s.mapRun fun _ => run).acceptResult result).2)
  | (run, none) => (false, s.mapRun fun _ => run)

def setTag (s : Session) (key : String) (value : TagValue) : Session :=
  { s with tags := s.tags.set key value }

/-! ### Signals of workers -/

def settingsContext : String := "Error while getting module execution settings"

def indexContext : String := "Error while building repo index"

/-- The failure of a handler that gets a signal of another kind. -/
def misrouted (signal : Signal) (k : SignalKind) : Attempt Response :=
  .failed [signal.kind.name ++ " signal routed to the " ++ k.name ++ " handler"]

def onResult : SignalHandler Session
  | .moduleResult r, s =>
    let (removed, s) := s.acceptResult r
    (.done (.moduleAck removed), s)
  | other, s => (misrouted other .moduleResult, s)

def onSettingsRequest (t : FileTree) : SignalHandler Session
  | .moduleSettings q, s =>
    let (answer, settings) := s.settings.moduleSettings s.provider t q.identity q.moduleName
    ((answer.map .moduleSettings).within settingsContext, { s with settings })
  | other, s => (misrouted other .moduleSettings, s)

def onIndexRequest (t : FileTree) : SignalHandler Session
  | .repoIndex, s =>
    let (answer, index) := s.index.get t
    ((answer.map .repoIndex).within indexContext, { s with index })
  | other, s => (misrouted other .repoIndex, s)

/-- The handlers of a session, one for each kind of signal. -/
def handlers (t : FileTree) : SignalHandlers Session :=
  ((Keyed.empty.set .moduleResult onResult).set .moduleSettings (onSettingsRequest t)).set
    .repoIndex (onIndexRequest t)

/-- What is answered on a connection; nobody listens unless the session runs. -/
def serve (s : Session) (t : FileTree) (bytes : List UInt8) : Option (List Response) × Session :=
  if s.phase = .running then
    let (responses, s) := TestTelemetry.serve (handlers t) bytes s
    (some responses, s)
  else (none, s)

/-- A session as the other end of its workers' connections. -/
def peer (t : FileTree) : Peer Session := fun line s =>
  let (responses, s) := s.serve t (Text.encode (String.ofList line))
  (responses.map (·.flatMap fun r => Text.encode (String.ofList (encodeLine r.toJson))), s)

end Session

end TestTelemetry
