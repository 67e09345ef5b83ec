/-
The commands of the two programs.

The session program runs a command once for each module.  The worker program asks
the session for something, or replays a script of events.

* `SessionCommand.read` — the command line of the session program;
* `WorkerCommand.read` — the command line of the worker program.
-/
import TestTelemetry.CommandLine.Options
import TestTelemetry.Files.Path

namespace TestTelemetry.CommandLine

/-- A module to run, and the folders that its compiled classes are in. -/
structure ModuleSpec where
  name : String
  outputDirs : List Path
deriving DecidableEq, Repr

/-- A module as it is written: its name, and after an equals sign its folder. -/
def ModuleSpec.ofText (s : String) : ModuleSpec :=
  match s.toList.dropWhile (· ≠ '=') with
  | [] => ⟨s, []⟩
  | _ :: dir => ⟨String.ofList (s.toList.takeWhile (· ≠ '=')), [RawText.ofText (String.ofList dir)]⟩

/-- Run a program once for each module. -/
structure SessionCommand where
  config : Option Path
  projectName : Option String
  modules : List ModuleSpec
  /-- Where the summary goes; it is printed when nothing is said. -/
  summary : Option Path
  program : String
  arguments : List String
deriving DecidableEq, Repr

/-- What a worker does. -/
inductive WorkerCommand
  | settings
  | repoIndex
  | replay (script : Path)
deriving DecidableEq, Repr

/-- A path must not be empty. -/
def pathOf (s : String) : Except Stop Path := if s = "" then .error .wrong else .ok (.ofText s)

def verboseOption : OptionSpec := ⟨some 'v', "verbose", .nothing, false⟩

/-- Help on a command, if there is one of that name. -/
def helpOn (commands : List String) : List String → Stop
  | [] => .help
  | [name] => if name ∈ "help" :: commands then .help else .wrong
  | _ => .wrong

namespace SessionCommand

/-- The name of the program. -/
def programName : String := "civisd"

/-- The option for the configuration file; a variable can stand for it. -/
def configOption : OptionSpec := ⟨some 'c', "config", .path, false⟩

def outerOptions : List OptionSpec := [configOption, verboseOption, helpOption, versionOption]

def runOptions : List OptionSpec :=
  [⟨none, "project-name", .text, false⟩, ⟨some 'm', "module", .text, true⟩,
    ⟨none, "summary", .path, false⟩, helpOption]

/-- The words after the name of the command. -/
def readRun (words : List String) : Except Stop SessionCommand := do
  let (r, rest) ← readOptions runOptions .empty words
  let given ← r.settle
  let modules := (given.values "module").map ModuleSpec.ofText
  match rest with
  | dashes :: program :: arguments =>
    if dashes = endOfOptions ∧ modules ≠ [] then
      return {
        config := none
        projectName := given.value? "project-name"
        modules
        summary := (given.value? "summary").map .ofText
        program
        arguments }
    else throw .wrong
  | _ => throw .wrong

/-- The command of a command line.  `configured` is what the variable for the configuration
file says; it counts only where no option names a file, and when a command was read. -/
def read (configured : Option String) (words : List String) : Except Stop SessionCommand := do
  let (r, rest) ← readOptions outerOptions .empty words
  match rest with
  | "run" :: rest =>
    let command ← readRun rest
    let config := ((← r.settle).value? configOption.name).or configured
    match config with
    | none => return command
    | some path => return { command with config := some (← pathOf path) }
  | "help" :: rest => throw (helpOn ["run"] rest)
  | _ => throw .wrong

end SessionCommand

namespace WorkerCommand

/-- The name of the program. -/
def programName : String := "civis-wkr"

def outerOptions : List OptionSpec := [verboseOption, helpOption, versionOption]

/-- Read the options after the name of a command that has no option but help, and return what
follows them. -/
def afterOptions (words : List String) : Except Stop (List String) :=
  (readOptions [helpOption] .empty words).map (·.2)

/-- The words of a command that takes none: at most the end of the options. -/
def readNothing (words : List String) : Except Stop Unit := do
  let rest ← afterOptions words
  if rest = [] ∨ rest = [endOfOptions] then return else throw .wrong

/-- The only word of a command.  The options may end before it or after it, and help may be asked
for on both sides. -/
def readPath (words : List String) : Except Stop Path := do
  match ← afterOptions words with
  | [] => throw .wrong
  | word :: rest =>
    if word = endOfOptions then
      match rest with
      | [word] => pathOf word
      | _ => throw .wrong
    else
      let path ← pathOf word
      readNothing rest
      return path

/-- The command of a command line. -/
def read (words : List String) : Except Stop WorkerCommand := do
  let (_, rest) ← readOptions outerOptions .empty words
  match rest with
  | "settings" :: rest => (readNothing rest).map fun _ => .settings
  | "repo-index" :: rest => (readNothing rest).map fun _ => .repoIndex
  | "replay" :: rest => (readPath rest).map .replay
  | "help" :: rest => throw (helpOn ["settings", "repo-index", "replay"] rest)
  | _ => throw .wrong

end WorkerCommand

end TestTelemetry.CommandLine
