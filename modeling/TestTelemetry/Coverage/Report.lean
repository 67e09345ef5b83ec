/-
Coverage reports.

A report is a folder with two files: a summary in JSON and a tracefile that lists
for each source file the covered count of its lines.

* `TraceRecord`, `traceRecords` — what a tracefile says of each source file;
* `renderTrace`, `readTrace?` — the text of a tracefile and back;
* `summary` — the JSON document;
* `writeReport` — the file tree with a report written into it.
-/
import TestTelemetry.Coverage.Bundle
import TestTelemetry.Repository.Index
import TestTelemetry.Text.Lines
import TestTelemetry.Text.Utf8

namespace TestTelemetry

/-- The source file of a class: that of the index, else that of the analysis. -/
def resolveSource (index : Option RepoIndex) (c : ClassCoverage) : Option String :=
  (index.bind (·.sourcePath c.name)).or c.sourceFile

/-- The lines of one source file with the covered count of each. -/
structure TraceRecord where
  path : String
  lines : List (Nat × Nat)
deriving DecidableEq, Repr

namespace TraceRecord

/-- How many lines are covered. -/
def hit (r : TraceRecord) : Nat := r.lines.countP (fun l => l.2 > 0)

end TraceRecord

/-- The covered counts of the lines, and the larger one where there are two. -/
def raiseLines (held : OrderedMap UInt32 Nat) (c : ClassCoverage) : OrderedMap UInt32 Nat :=
  c.lines.entries.foldl
    (fun m e => m.insert e.1 (max ((m.find? e.1).getD 0) e.2.covered)) held

/-- Classes of one source file share its lines. -/
def hitsBySource (index : Option RepoIndex) (classes : List ClassCoverage) :
    OrderedMap String (OrderedMap UInt32 Nat) :=
  classes.foldl
    (fun m c =>
      match resolveSource index c with
      | none => m
      | some source => m.insert source (raiseLines ((m.find? source).getD .empty) c))
    .empty

/-- The records of a tracefile, in the order of the source paths. -/
def traceRecords (b : CoverageBundle) (index : Option RepoIndex) (repoRoot : Path) :
    List TraceRecord :=
  (hitsBySource index b.classes).entries.map fun e =>
    ⟨(Path.join repoRoot e.1).display, e.2.entries.map fun l => (l.1.toNat, l.2)⟩

/-! ### The text of a tracefile -/

def lineWith (label : String) (text : List Char) : List Char := label.toList ++ text ++ ['\n']

def TraceRecord.render (r : TraceRecord) : List Char :=
  lineWith "SF:" r.path.toList ++
    (r.lines.flatMap fun l =>
      lineWith "DA:" (Nat.toDigits 10 l.1 ++ ',' :: Nat.toDigits 10 l.2)) ++
    lineWith "LH:" (Nat.toDigits 10 r.hit) ++
    lineWith "LF:" (Nat.toDigits 10 r.lines.length) ++
    lineWith "end_of_record" []

def renderTrace (records : List TraceRecord) : List Char := records.flatMap TraceRecord.render

/-- The number that a text writes in decimal digits. -/
def readNat? (cs : List Char) : Option Nat :=
  if cs ≠ [] ∧ cs.all Char.isDigit then some (Nat.ofDigitChars 10 cs 0) else none

/-- The text after a label. -/
def afterLabel? (label : String) (line : List Char) : Option (List Char) :=
  if label.toList.isPrefixOf line then some (line.drop label.length) else none

/-- Read the lines of one record after its first; the lines read so far come newest first. -/
def readRecord? (path : String) (read : List (Nat × Nat)) :
    List (List Char) → Option (TraceRecord × List (List Char))
  | [] => none
  | line :: rest =>
    match afterLabel? "DA:" line with
    | some text => do
      let number ← readNat? (text.takeWhile (· ≠ ','))
      let count ← readNat? (text.dropWhile (· ≠ ',')).tail
      readRecord? path ((number, count) :: read) rest
    | none =>
      let record : TraceRecord := ⟨path, read.reverse⟩
      match rest with
      | found :: last :: rest =>
        if (afterLabel? "LH:" line).bind readNat? = some record.hit ∧
            (afterLabel? "LF:" found).bind readNat? = some record.lines.length ∧
            last = "end_of_record".toList then
          some (record, rest)
        else none
      | _ => none

theorem length_readRecord? {path : String} {read : List (Nat × Nat)}
    {ls rest : List (List Char)} {r : TraceRecord}
    (h : readRecord? path read ls = some (r, rest)) : rest.length < ls.length := by
  induction ls generalizing read with
  | nil => simp [readRecord?] at h
  | cons line ls ih =>
    simp only [readRecord?] at h
    split at h
    · simp only [Option.bind_eq_bind, Option.bind_eq_some_iff] at h
      obtain ⟨_, _, _, _, h⟩ := h
      exact Nat.lt_succ_of_lt (ih h)
    · split at h
      · split at h
        · simp only [Option.some.injEq, Prod.mk.injEq] at h
          obtain ⟨-, rfl⟩ := h
          simp only [List.length_cons]
          omega
        · cases h
      · cases h

/-- Read the lines of a tracefile. -/
def readRecords? (ls : List (List Char)) : Option (List TraceRecord) :=
  match ls with
  | [] => some []
  | line :: rest =>
    match afterLabel? "SF:" line with
    | none => none
    | some path =>
      match _h : readRecord? (String.ofList path) [] rest with
      | none => none
      | some (r, rest') => (readRecords? rest').map (r :: ·)
termination_by ls.length
decreasing_by
  have := length_readRecord? _h
  simp only [List.length_cons]
  omega

/-- Read a tracefile, every line of which ends in a newline. -/
def readTrace? (text : List Char) : Option (List TraceRecord) :=
  match (pieces '\n' text).reverse with
  | [] :: ls => readRecords? ls.reverse
  | _ => none

/-! ### The report -/

/-- The JSON document of a report. -/
def summary (b : CoverageBundle) (index : Option RepoIndex) : Json :=
  .obj [("name", .str b.name), ("instructions", b.instructions.toJson), ("lines", b.lines.toJson),
    ("percentage", Json.ofOption (fun n : Nat => .int n) b.percentage),
    ("classes", .arr (b.classes.map fun c =>
      .obj [("name", .str c.name), ("source_path", Json.ofOption .str (resolveSource index c)),
        ("instructions", c.instructions.toJson), ("lines", c.lineCounter.toJson)]))]

def reportFile : String := "report.json"

def traceFile : String := "lcov.info"

/-- Write the report of a bundle into a folder, which is made if it is missing. -/
def writeReport (t : FileTree) (b : CoverageBundle) (index : Option RepoIndex) (repoRoot : Path)
    (folder : Path) : Except CoverageError FileTree :=
  match t.makeFolder? folder with
  | none => .error (.io folder)
  | some t =>
    let reportPath := Path.join folder reportFile
    match t.write? reportPath (Text.encode (summary b index).pretty) with
    | none => .error (.io reportPath)
    | some t =>
      let tracePath := Path.join folder traceFile
      let text := renderTrace (traceRecords b index repoRoot)
      match t.write? tracePath (Text.encode (String.ofList text)) with
      | none => .error (.io tracePath)
      | some t => .ok t

end TestTelemetry
