/-
The static analyses of compiled classes.

Output folders hold one file for each class; its name ends in `.probes.json` and
it says on which line each probe of the class sits and how many instructions it
stands for.

* `ClassAnalysis` — the analysis of one class;
* `analysisFilesBelow`, `analysisFiles` — the files below one folder, and below several;
* `analysesOf` — the analyses that some files hold, the first of each class in the order of their
  paths;
* `loadAnalyses` — the analyses below some folders.
-/
import TestTelemetry.Settings.Codec
import TestTelemetry.Files.Walk

namespace TestTelemetry

/-- One probe: its line and the number of instructions it stands for. -/
structure ProbeInfo where
  line : UInt32
  instructions : UInt32
deriving DecidableEq, Repr

/-- The static analysis of a class. -/
structure ClassAnalysis where
  id : UInt64
  name : String
  sourceFile : Option String
  probes : List ProbeInfo
deriving DecidableEq, Repr

/-- Why coverage could not be resolved or written. -/
inductive CoverageError
  | io (path : Path)
  | metadata (path : Path) (cause : Json.DecodeError)
deriving DecidableEq, Repr

def CoverageError.message : CoverageError → String
  | io path => "I/O error on " ++ path.display
  | metadata path cause => "invalid class analysis " ++ path.display ++ ": " ++ cause.message

namespace ProbeInfo

def toJson (p : ProbeInfo) : Json :=
  .obj [("line", .nat p.line.toNat), ("instructions", .nat p.instructions.toNat)]

def record : Json.Record ProbeInfo :=
  ProbeInfo.mk <$> Json.Record.required "line" Json.Decoder.uint32
    <*> Json.Record.required "instructions" Json.Decoder.uint32

def decoder : Json.Decoder ProbeInfo := record.decoder

end ProbeInfo

namespace ClassAnalysis

def toJson (a : ClassAnalysis) : Json :=
  .obj [("id", .nat a.id.toNat), ("name", .str a.name),
    ("source_file", Json.ofOption .str a.sourceFile),
    ("probes", .arr (a.probes.map ProbeInfo.toJson))]

def record : Json.Record ClassAnalysis :=
  ClassAnalysis.mk <$> Json.Record.required "id" Json.Decoder.uint64
    <*> Json.Record.required "name" Json.Decoder.string
    <*> Json.Record.optional "source_file" Json.Decoder.string
    <*> Json.Record.required "probes" ProbeInfo.decoder.list

def decoder : Json.Decoder ClassAnalysis := record.decoder

/-- What the names of analysis files end in. -/
def fileSuffix : List Char := ".probes.json".toList

/-- Whether a file with this name holds an analysis.  A name that is no text is not looked at. -/
def isAnalysisName (name : FileName) : Bool :=
  name.text?.any fun text => fileSuffix.isSuffixOf text.toList

/-- A walk goes into every folder, and whatever has the name of an analysis is one. -/
def walker : Walker where
  enters _ := true
  takes name _ := isAnalysisName name

/-- The analysis that a file holds. -/
def ofFile (f : Path × FileEntry) : Except CoverageError ClassAnalysis :=
  match f.2.content with
  | none => .error (.io f.1)
  | some content =>
    match (Json.Document.readBytes content).decode decoder with
    | .ok a => .ok a
    | .error e => .error (.metadata f.1 e)

end ClassAnalysis

/-- The path of what lies below a folder. -/
def pathBelow (dir : Path) (names : List FileName) : Path := names.foldl Path.join dir

/-- The analysis files below a folder; none below what is no folder.  A folder whose listing does
not come to its end is an error. -/
def analysisFilesBelow (t : FileTree) (listing : Place → Listing) (dir : Path) :
    Except CoverageError (List (Path × FileEntry)) :=
  match t.folderAt? dir with
  | none => .ok []
  | some place =>
    match t.walk ClassAnalysis.walker listing place with
    | .error names => .error (.io (pathBelow dir names))
    | .ok found => .ok (found.map fun f => (pathBelow dir f.1, f.2))

/-- The first analysis of each class. -/
def firstOfEach (seen : List UInt64) : List ClassAnalysis → List ClassAnalysis
  | [] => []
  | a :: rest => if a.id ∈ seen then firstOfEach seen rest else a :: firstOfEach (a.id :: seen) rest

/-- The analyses of some files, or the fault of the first file that holds none. -/
def readAnalyses : List (Path × FileEntry) → Except CoverageError (List ClassAnalysis)
  | [] => .ok []
  | f :: rest =>
    match ClassAnalysis.ofFile f with
    | .error e => .error e
    | .ok a => (readAnalyses rest).map (a :: ·)

/-- Files in the order of their paths. -/
def inPathOrder (files : List (Path × FileEntry)) : List (Path × FileEntry) :=
  files.mergeSort fun f g => f.1.le g.1

/-- The analyses of some files in the order of their paths, one for each class. -/
def analysesOf (files : List (Path × FileEntry)) : Except CoverageError (List ClassAnalysis) :=
  (readAnalyses (inPathOrder files)).map (firstOfEach [])

/-- The analysis files below some folders, one folder after the other. -/
def analysisFiles (t : FileTree) (dirs : List Path) :
    Except CoverageError (List (Path × FileEntry)) :=
  inTurn (dirs.map (analysisFilesBelow t t.list))

/-- The analyses below some folders, one for each class. -/
def loadAnalyses (t : FileTree) (dirs : List Path) : Except CoverageError (List ClassAnalysis) :=
  (analysisFiles t dirs).bind analysesOf

/-- Files that are found in the order of their paths are read as they were found. -/
theorem loadAnalyses_of_ascending {t : FileTree} {dirs : List Path}
    (h : (analysisFiles t dirs).toOption.all
      (fun files => files.Pairwise fun f g => f.1.le g.1 = true) = true) :
    loadAnalyses t dirs =
      (analysisFiles t dirs).bind fun files => (readAnalyses files).map (firstOfEach []) := by
  rw [loadAnalyses]
  cases hfound : analysisFiles t dirs with
  | error e => rfl
  | ok files =>
    rw [hfound] at h
    rw [Except.bind, Except.bind, analysesOf, inPathOrder,
      List.mergeSort_of_pairwise (of_decide_eq_true h)]

end TestTelemetry
