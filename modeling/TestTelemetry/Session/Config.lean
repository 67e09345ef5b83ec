/-
The configuration of a session.

What holds when nothing is said, a configuration file, and the environment lie on
top of each other.  A file may name nothing that is not known; a variable that
cannot be used is reported, and what was there before it stays.

* `SessionConfig.load` — the configuration in a file;
* `SessionConfig.overlay` — the configuration under an environment, and what was
  wrong with its variables;
* `SessionConfig.provider`, `SessionConfig.options` — what a session is started with.
-/
import TestTelemetry.Session.Basic
import TestTelemetry.Toml.Reader
import TestTelemetry.Environment.Getters

namespace TestTelemetry

open Json (Decoder Record)

/-- What a session is configured with. -/
structure SessionConfig where
  projectName : Option String
  repoRoot : Option Path
  host : String
  port : Nat
  /-- Where reports go; no report is written without it. -/
  reportDumpDir : Option Path
  /-- A file with settings, which goes before `settings`. -/
  settingsFile : Option Path
  settings : ExecutionSettings

/-- Why there is no configuration, or no address to listen at. -/
inductive ConfigError
  | unreadable (path : Path) (cause : ReadFault)
  | malformed (path : Path) (cause : Json.DecodeError)
  | address (target : String)
deriving DecidableEq

/-- What is said of an error.  Of a file that is malformed only this is said, whatever the cause
is. -/
def ConfigError.message : ConfigError → String
  | unreadable path cause => "failed to read config file " ++ path.display ++ ": " ++ cause.message
  | malformed path _ =>
    "failed to parse config file " ++ path.display ++ ": " ++ Json.DecodeError.malformed.message
  | address target => "invalid signal server address '" ++ target ++ "'"

namespace SessionConfig

/-- The configuration when nothing is said. -/
def initial : SessionConfig where
  projectName := none
  repoRoot := none
  host := IpAddress.loopback.display
  port := 0
  reportDumpDir := none
  settingsFile := none
  settings := .initial

/-! ### Configuration files -/

/-- Host and port of the server. -/
def serverRecord : Record (String × Nat) :=
  Prod.mk <$> Record.withDefault "host" Decoder.string initial.host
    <*> Record.withDefault "port" Decoder.nat16 initial.port

/-- A path in a configuration file. -/
def pathDecoder : Decoder Path := fun src n => (Decoder.string src n).map .ofText

/-- Where reports go. -/
def coverageRecord : Record (Option Path) := Record.optional "report_dump_dir" pathDecoder

def record : Record SessionConfig :=
  (fun projectName repoRoot server reportDumpDir settingsFile settings =>
    { projectName, repoRoot, reportDumpDir, settingsFile, settings
      host := server.1
      port := server.2 })
    <$> Record.optional "project_name" Decoder.string
    <*> Record.optional "repo_root" pathDecoder
    <*> Record.withDefault "signal_server" serverRecord.strictDecoder (initial.host, initial.port)
    <*> Record.withDefault "coverage" coverageRecord.strictDecoder initial.reportDumpDir
    <*> Record.optional "settings_file" pathDecoder
    <*> Record.withDefault "settings" ExecutionSettings.decoder initial.settings

/-- How a fault of a text is reported. -/
def faultOf : Toml.Fault → Json.DecodeError
  | .malformed => .malformed
  | .noCharacter => .invalidValue

/-- The configuration that a text describes. -/
def ofText (cs : List Char) : Except Json.DecodeError SessionConfig :=
  match Toml.readNode cs with
  | .error e => .error (faultOf e)
  | .ok n => record.strictDecoder .table n

/-- The configuration in a file; without a file what holds when nothing is said. -/
def load (t : FileTree) : Option Path → Except ConfigError SessionConfig
  | none => .ok initial
  | some path =>
    match t.readText path with
    | .error fault => .error (.unreadable path fault)
    | .ok cs => (ofText cs).mapError (.malformed path)

/-! ### The environment -/

/-- The configuration under an environment, and what is wrong with its variables. -/
def overlay (c : SessionConfig) (env : Environment) (t : FileTree) :
    SessionConfig × List EnvError :=
  let host := env.getOptional Variable.serverHost
  let port := env.getNat Environment.width16 Variable.serverPort c.port 0 Environment.width16.max
  let dumpDir := env.getPath t Variable.reportDumpDir false
  let settingsFile := env.getPath t Variable.settingsFile true
  let repoRoot := env.getPath t Variable.repoRoot true
  ({ c with
      host := host.value.getD c.host
      port := port.value
      reportDumpDir := dumpDir.value.or c.reportDumpDir
      settingsFile := settingsFile.value.or c.settingsFile
      repoRoot := repoRoot.value.or c.repoRoot },
    host.errors ++ port.errors ++ dumpDir.errors ++ settingsFile.errors ++ repoRoot.errors)

/-! ### What a session is started with -/

/-- What computes settings. -/
def provider (c : SessionConfig) : SettingsProvider :=
  match c.settingsFile with
  | some path => .ofFile path
  | none => .always c.settings

/-- The root of the repository; the working folder when none is named. -/
def root (c : SessionConfig) (t : FileTree) : Path := c.repoRoot.getD t.workingPath

/-- The index of the repository, which is scanned when it is first asked for. -/
def indexSource (c : SessionConfig) (t : FileTree) : IndexSource := .scanned (.ofRoot (c.root t))

/-- The address to listen at. -/
def bindAddress (c : SessionConfig) : Except ConfigError SocketAddress :=
  let target := c.host ++ ":" ++ toString c.port
  match resolve? target.toList with
  | some address => .ok address
  | none => .error (.address target)

/-- What a project is called after its folder, if the name of that is a text. -/
def defaultProjectName (root : Path) : String :=
  ((Path.fileName? root).bind RawText.text?).getD "project"

/-- The options of a session.  The name of the project comes from the caller, else from the
configuration, else from the folder of the repository. -/
def options (c : SessionConfig) (t : FileTree) (projectName : Option String) (command : String) :
    Except ConfigError SessionOptions :=
  c.bindAddress.map fun bind =>
    { SessionOptions.initial
        ((projectName.or c.projectName).getD (defaultProjectName (c.root t))) command with
      repoRoot := c.root t
      bind
      reportDumpDir := c.reportDumpDir }

end SessionConfig

end TestTelemetry
