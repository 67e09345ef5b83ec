/-
The two programs.

The first word of the command line names the program, and the others are its own
command line.  The files that the program may need are read before it runs, and
those that it wrote are written after it has ended.
-/
import TestTelemetry.CommandLine.Session
import Std.Time.DateTime

namespace TestTelemetry.CommandLine

/-- The variables that the programs read. -/
def variableNames : List String :=
  [Variable.sessionId, Variable.moduleId, Variable.moduleName, Variable.serverHost,
    Variable.serverPort, Variable.clientTimeout, Variable.reportDumpDir, Variable.settingsFile,
    Variable.repoRoot, Variable.runtimeName, Variable.runtimeVersion, Variable.runtimeVendor].map
      Environment.variableName ++ [SessionCommand.configVariable]

/-- The variable for the home folder. -/
def homeVariable : String := "HOME"

def readVariables : IO Environment := do
  let mut found : List (String × String) := []
  for name in variableNames do
    if let some value ← IO.getEnv name then
      found := (name, value) :: found
  let home := (← IO.getEnv homeVariable).filter (· ≠ "")
  return { Environment.ofTexts found with home := home.map .ofText }

/-- Read a file, or a folder with all that is below it.  What cannot be opened is there all the
same. -/
partial def readTree (t : FileTree) (path : String) (place : Place) (regular : Bool) :
    IO FileTree := do
  try
    let real ← IO.FS.realPath path
    if ← real.isDir then
      let mut t := { t with folders := place :: t.folders }
      let entries ← try real.readDir catch _ => return { t with closed := place :: t.closed }
      for entry in entries do
        let kind := (← entry.path.symlinkMetadata).type
        t ← readTree t (path ++ "/" ++ entry.fileName) (place ++ [.ofText entry.fileName])
          (kind == .file)
      return t
    else
      let content ← try some <$> IO.FS.readBinFile path catch _ => pure none
      return { t with files := (place, ⟨regular, content.map (·.toList)⟩) :: t.files }
  catch _ => return t

/-- Read what is at some paths, unless it was read before. -/
def readPaths (t : FileTree) (paths : List Path) : IO FileTree :=
  paths.foldlM (fun t path => do
    if t.holds path then return t
    match t.locate? path with
    | some place => readTree t path.display place true
    | none => return t) t

/-- Read all that comes over a stream. -/
partial def readAll (stream : IO.FS.Stream) (read : List UInt8) : IO (List UInt8) := do
  let bytes ← stream.read 65536
  if bytes.isEmpty then return read
  readAll stream (read ++ bytes.toList)

/-- Write the files that are new in a tree; they stand before all others. -/
def writeNew (before after : FileTree) : IO Unit :=
  for (place, file) in after.files.takeWhile fun f => before.fileAt? f.1 ≠ some f.2 do
    IO.FS.createDirAll ("/" ++ slashPath place.dropLast)
    IO.FS.writeBinFile ("/" ++ slashPath place) ⟨(file.content.getD []).toArray⟩

/-- Show how a program ended. -/
def report (outcome : Outcome) : IO UInt32 := do
  IO.print outcome.output
  for message in outcome.complaints ++ outcome.complaint?.toList do
    IO.eprintln ("Error: " ++ message)
  if outcome.ending = .misuse then
    IO.eprintln "error: wrong command line, try --help"
  return outcome.ending.code.toUInt32

/-- The circumstances of a session whose workers run as part of its program: any port will do, and
they all reach it. -/
def readCircumstances : IO Circumstances := do
  let now ← Std.Time.Timestamp.now
  return {
    id := sessionName (← IO.getRandomBytes 16).toList
    startedAt := instantText now.toNanosecondsSinceUnixEpoch.val.toNat
    granted := ownAddress?
    reachable := true }

def runSession (w : Surroundings) (words : List String) : IO UInt32 := do
  let command := SessionCommand.read (w.environment.get? SessionCommand.configVariable) words
  let paths (w : Surroundings) (f : SessionCommand → List Path) : IO Surroundings := do
    let files ← readPaths w.files ((command.toOption.map f).getD [])
    return { w with files }
  let w ← paths w (·.config.toList)
  let w ← paths w (SessionCommand.paths w)
  let (outcome, files) := SessionCommand.call (← readCircumstances) w words
  writeNew w.files files
  report outcome

def runWorker (w : Surroundings) (words : List String) : IO UInt32 := do
  let files ← readPaths w.files (words.map .ofText)
  let input ← if standardInput ∈ words.map RawText.ofText then readAll (← IO.getStdin) [] else pure []
  report (WorkerCommand.call Peer.nobody () programVersion { w with files, input } words).1

end TestTelemetry.CommandLine

open TestTelemetry TestTelemetry.CommandLine in
def main (args : List String) : IO UInt32 := do
  let working := (pieces '/' (← IO.currentDir).toString.toList).filter (· ≠ [])
  let place : Place := working.map fun name => .ofText (String.ofList name)
  let files ← readTree ⟨place, [], [], []⟩ "." place true
  let w : Surroundings := ⟨← readVariables, files, []⟩
  match args with
  | program :: words =>
    if program = SessionCommand.programName then runSession w words
    else if program = WorkerCommand.programName then runWorker w words
    else report ⟨"", [], .misuse⟩
  | [] => report ⟨"", [], .misuse⟩
