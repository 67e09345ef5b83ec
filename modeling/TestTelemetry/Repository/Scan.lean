/-
Building the index of a repository.

All source files below the root are indexed, except those in folders that hold no
sources of the repository itself and those whose stem is no text.  A file is listed
under the package that it declares and the stem of its name; of several files with
one key the first in the order of their paths is listed.

* `sourceWalker` — which folders are gone through, and which files are indexed;
* `declaredPackage?` — the package that a text declares;
* `SourceFile.key`, `SourceFile.rootFolder` — where a file is listed, and below which
  root it lies;
* `scanRepository` — the index of a folder;
* `IndexCache` — an index that is built when it is first asked for.
-/
import TestTelemetry.Repository.Index
import TestTelemetry.Files.Walk
import TestTelemetry.Text.Blank
import TestTelemetry.Text.Lines
import TestTelemetry.Text.Utf8

namespace TestTelemetry

/-! ### Which files are indexed -/

def sourceExtensions : List String := ["java", "kt", "scala", "groovy"]

/-- Names of folders that hold what is built from the sources or fetched for them. -/
def builtFolders : List String := ["target", "build", "out", "node_modules"]

/-- Whether a folder is left out: one of built files or one with a dot at its start. -/
def isLeftOut (folder : FileName) : Bool :=
  let shown := folder.display
  shown.toList.head? = some '.' || shown ∈ builtFolders

/-- Whether a file name has the extension of a source file. -/
def hasSourceExtension (name : FileName) : Bool :=
  (Path.splitExtension name).2.any fun e => e.text?.any (· ∈ sourceExtensions)

/-- A walk leaves folders out, and takes files with the extension of a source file. -/
def sourceWalker : Walker where
  enters folder := !isLeftOut folder
  takes name file := file.regular && hasSourceExtension name

/-! ### The package of a file -/

/-- How many bytes of a file are looked at for its package. -/
def packageScanBytes : Nat := 8 * 1024

/-- What a line that declares a package begins with. -/
def packageWord : List Char := "package ".toList

/-- The text without the semicolons at its end. -/
def dropSemicolons (cs : List Char) : List Char :=
  (cs.reverse.dropWhile (· = ';')).reverse

/-- The package that a line declares. -/
def packageOfLine? (line : List Char) : Option (List Char) :=
  let line := Text.trim line
  if packageWord.isPrefixOf line then
    some (Text.trim (dropSemicolons (line.drop packageWord.length)))
  else none

/-- The package that a text declares: that of its first line that declares one. -/
def declaredPackage? (text : List Char) : Option (List Char) :=
  (Text.lines text).findSome? packageOfLine?

/-- The package that the head of a file declares. -/
def packageOfFile? (content : List UInt8) : Option (List Char) :=
  declaredPackage? (Text.decodeLossy (content.take packageScanBytes))

/-- Names as an index shows them. -/
def slashPath (names : List FileName) : String :=
  String.intercalate "/" (names.map RawText.display)

/-- A source file with its names from the root, the name of the file without its extension, and
the package that it declares, which is empty when it declares none. -/
structure SourceFile where
  names : List FileName
  stem : String
  package : List Char
deriving DecidableEq, Repr

namespace SourceFile

/-- The stem of a file with these names, if it is a text. -/
def stem? (names : List FileName) : Option String :=
  names.getLast?.bind fun name => (Path.splitExtension name).1.text?

/-- A file that was found, unless its stem is no text.  One that cannot be opened declares no
package. -/
def ofFound? (f : FoundFile) : Option SourceFile :=
  (stem? f.1).map fun stem => ⟨f.1, stem, (f.2.content.bind packageOfFile?).getD []⟩

/-- The path from the root. -/
def path (f : SourceFile) : String := slashPath f.names

/-- What the file is listed under: its package with slashes for dots, and its stem. -/
def key (f : SourceFile) : String :=
  if f.package = [] then f.stem
  else
    String.ofList (f.package.map fun c => if c = '.' then '/' else c) ++ "/" ++ f.stem

/-- The path that the package stands for. -/
def packagePath (f : SourceFile) : Path :=
  ((pieces '.' f.package).filter (· ≠ [])).foldl
    (fun p name => Path.join p (.ofText (String.ofList name))) (.ofText "")

/-- The folder of the file. -/
def folder (f : SourceFile) : List FileName := f.names.dropLast

/-- The folder without the path of the package, if it ends in that path. -/
def rootFolder (f : SourceFile) : List FileName :=
  let path := f.packagePath.parts
  if path.isSuffixOf (f.folder.map PathPart.name) then
    f.folder.take (f.folder.length - path.length)
  else f.folder

end SourceFile

/-! ### The index -/

/-- List a file, unless another one is listed under its key. -/
def listSource (sources : OrderedMap String String) (f : SourceFile) : OrderedMap String String :=
  if sources.contains f.key then sources else sources.insert f.key f.path

/-- The source files among those that were found, in the order of their paths. -/
def sortedSources (found : List FoundFile) : List SourceFile :=
  (found.mergeSort fun f g => (compare f.1 g.1).isLE).filterMap SourceFile.ofFound?

/-- What a walk through a folder finds; none if the folder is not there, or if the listing of it or
of a folder below it does not come to its end. -/
def foundSources (t : FileTree) (listing : Place → Listing) (root : Path) :
    Option (List FoundFile) :=
  (t.folderAt? root).bind fun place => (t.walk sourceWalker listing place).toOption

/-- The source files below a folder in the order of their paths. -/
def indexedFiles (t : FileTree) (listing : Place → Listing) (root : Path) :
    Option (List SourceFile) :=
  (foundSources t listing root).map sortedSources

/-- Files that are found in the order of their paths stay in this order. -/
theorem indexedFiles_of_ascending {t : FileTree} {listing : Place → Listing} {root : Path}
    (h : (foundSources t listing root).all
      (fun found => found.Pairwise fun f g => (compare f.1 g.1).isLE = true) = true) :
    indexedFiles t listing root =
      (foundSources t listing root).map (·.filterMap SourceFile.ofFound?) := by
  rw [indexedFiles]
  cases hfound : foundSources t listing root with
  | none => rfl
  | some found =>
    rw [hfound] at h
    rw [Option.map_some, Option.map_some, sortedSources,
      List.mergeSort_of_pairwise (of_decide_eq_true h)]

/-- The index of some source files, each listed unless an earlier one has its key. -/
def RepoIndex.ofSources (files : List SourceFile) : RepoIndex where
  sourceRoots := (OrderedMap.ofList (files.map fun f => (slashPath f.rootFolder, ()))).keys
  sources := files.foldl listSource .empty

/-- The index of the files below a folder; none of what cannot be walked through. -/
def scanRepository (t : FileTree) (root : Path) : Option RepoIndex :=
  (indexedFiles t t.list root).map .ofSources

/-- What is reported of a folder that cannot be walked through. -/
def walkingMessage (root : Path) : String := "walking " ++ root.display

/-! ### Building it once -/

/-- The index of a folder, once it was built. -/
structure IndexCache where
  root : Path
  built : Option RepoIndex

namespace IndexCache

def ofRoot (root : Path) : IndexCache := ⟨root, none⟩

/-- The index that was built first; none is kept as long as none can be built. -/
def get (c : IndexCache) (t : FileTree) : Option RepoIndex × IndexCache :=
  match c.built with
  | some i => (some i, c)
  | none =>
    match scanRepository t c.root with
    | some i => (some i, { c with built := some i })
    | none => (none, c)

end IndexCache

end TestTelemetry
