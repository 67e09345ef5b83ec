/-
Environment variables and where a value came from.

The variables that concern this program share a prefix.  A variable whose bytes
are no text counts as unset.

* `Environment.get?` — the text of a variable;
* `EnvError` — what can be wrong with a variable;
* `Reading` — a value, where it came from, and what was wrong on the way.
-/
import TestTelemetry.Files.Path

namespace TestTelemetry

/-- The variables of a process with their bytes. -/
structure Environment where
  bindings : List (String × List UInt8)
  /-- The home folder of the user, if the system knows of one. -/
  home : Option Path

namespace Environment

/-- The text of a variable. -/
def get? (env : Environment) (name : String) : Option String :=
  (env.bindings.find? (fun v => v.1 = name)).bind fun v =>
    (Text.decode? v.2).map String.ofList

/-- The full name of a variable. -/
def variableName (name : String) : String := "CIVIS_" ++ name

/-- The environment with these texts as variables, and no home folder. -/
def ofTexts (l : List (String × String)) : Environment :=
  ⟨l.map fun v => (v.1, Text.encode v.2), none⟩

end Environment

/-! ### Names of variables, without what they share -/

namespace Variable

def sessionId := "SESSION_ID"
def moduleId := "MODULE_ID"
def moduleName := "MODULE_NAME"
def serverHost := "SIGNAL_SERVER_HOST"
def serverPort := "SIGNAL_SERVER_PORT"
def clientTimeout := "SIGNAL_CLIENT_TIMEOUT_MS"
def reportDumpDir := "CODE_COVERAGE_REPORT_DUMP_DIR"
def settingsFile := "SETTINGS_FILE"
def repoRoot := "REPO_ROOT"
def logLevel := "LOG_LEVEL"
def logFormat := "LOG_FORMAT"
def runtimeName := "WORKER_RUNTIME_NAME"
def runtimeVersion := "WORKER_RUNTIME_VERSION"
def runtimeVendor := "WORKER_RUNTIME_VENDOR"

end Variable

/-- What is wrong with a variable; all name it in full. -/
inductive EnvError
  | invalidValue (name expected value : String)
  | pathNotFound (name : String) (path : Path)
  | outOfRange (name value min max : String)
  | invalidLogLevel (name value : String)
  | missing (name : String)
deriving DecidableEq, Repr

namespace EnvError

/-- The variable that an error is about. -/
def name : EnvError → String
  | invalidValue v _ _ => v
  | pathNotFound v _ => v
  | outOfRange v _ _ _ => v
  | invalidLogLevel v _ => v
  | missing v => v

def message : EnvError → String
  | invalidValue v expected value =>
    "Invalid value for " ++ v ++ ": expected " ++ expected ++ ", got '" ++ value ++ "'"
  | pathNotFound v path => "Path not found for " ++ v ++ ": " ++ path.display
  | outOfRange v value min max =>
    "Value out of range for " ++ v ++ ": " ++ value ++ " (valid: " ++ min ++ "..=" ++ max ++ ")"
  | invalidLogLevel v value => "Invalid log level for " ++ v ++ ": " ++ value
  | missing v => "Required variable " ++ v ++ " is not set"

end EnvError

/-- Where a value came from. -/
inductive ValueSource
  | default
  | file
  | environment
  | commandLine
deriving DecidableEq, Repr

def ValueSource.name : ValueSource → String
  | default => "default"
  | file => "file"
  | environment => "environment"
  | commandLine => "command line"

/-- A value with its source, the variable it was read from, and the errors found. -/
structure Reading (α : Type) where
  value : α
  source : ValueSource
  /-- The variable that the value stands for, if one does. -/
  origin : Option String
  errors : List EnvError

namespace Reading

variable {α β : Type}

/-- The value when nothing is said. -/
def default (x : α) : Reading α := ⟨x, .default, none, []⟩

/-- A value that a variable stands for. -/
def ofVariable (x : α) (name : String) : Reading α := ⟨x, .environment, some name, []⟩

def withError (r : Reading α) (e : EnvError) : Reading α := { r with errors := r.errors ++ [e] }

def map (f : α → β) (r : Reading α) : Reading β := ⟨f r.value, r.source, r.origin, r.errors⟩

def isDefault (r : Reading α) : Bool := r.source = .default

end Reading

end TestTelemetry
