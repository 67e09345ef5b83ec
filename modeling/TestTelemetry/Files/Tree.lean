/-
File trees.

A tree is given by what is at the places of files, and by the folders that are listed for
themselves.  Every folder on the way to a file is there too.  A file need not be readable, and a
folder need not say what is in it.  Links to files are entries of their own, and links to folders
are in no tree.  Places are lists of names from the root; a path is looked up from a working
folder.

* `FileTree.locate?` — the place that a path names;
* `FileTree.readText` — the text at a path, or why there is none;
* `FileTree.list` — what a folder says that is in it;
* `FileTree.makeFolder?`, `FileTree.write?` — the tree after a write.
-/
import TestTelemetry.Files.Path
import TestTelemetry.Text.Utf8

namespace TestTelemetry

/-- Names from the root down. -/
abbrev Place := List FileName

/-- Why no text can be read at a path. -/
inductive ReadFault
  | absent
  | folder
  /-- The path leads through a file. -/
  | belowFile
  /-- The file cannot be opened. -/
  | closed
  /-- The bytes of the file are no text. -/
  | noText
deriving DecidableEq, Repr

def ReadFault.message : ReadFault → String
  | absent => "No such file or directory (os error 2)"
  | folder => "Is a directory (os error 21)"
  | belowFile => "Not a directory (os error 20)"
  | closed => "Permission denied (os error 13)"
  | noText => "stream did not contain valid UTF-8"

/-- What is at the place of a file. -/
structure FileEntry where
  /-- Whether it is a file itself, and no link, device or the like. -/
  regular : Bool
  /-- Its bytes, if it can be opened. -/
  content : Option (List UInt8)
deriving DecidableEq, Repr

namespace FileEntry

/-- A file that can be read. -/
def ofContent (content : List UInt8) : FileEntry := ⟨true, some content⟩

instance : Coe (List UInt8) FileEntry := ⟨ofContent⟩

end FileEntry

/-- The names that a folder lists.  If the folder cannot be opened, or its listing breaks off, these
are not all that are in it. -/
structure Listing where
  names : List FileName
  /-- Whether the listing came to its end. -/
  whole : Bool
deriving DecidableEq, Repr

/-- The files and folders that there are. -/
structure FileTree where
  /-- Where paths that are not absolute start. -/
  working : Place
  files : List (Place × FileEntry)
  folders : List Place
  /-- Folders that cannot be listed. -/
  closed : List Place

namespace FileTree

/-- The working folder as a path from the root. -/
def workingPath (t : FileTree) : Path := ⟨Path.slash :: (Path.ofNames t.working).bytes⟩

/-- The file at a place. -/
def fileAt? (t : FileTree) (p : Place) : Option FileEntry :=
  (t.files.find? (fun f => f.1 = p)).map (·.2)

/-- Whether a place is a folder. -/
def isFolderAt (t : FileTree) (p : Place) : Bool :=
  p.isPrefixOf t.working || t.folders.any (p.isPrefixOf ·) ||
    t.files.any (fun f => f.1 ≠ p && p.isPrefixOf f.1)

def stepInto (t : FileTree) (place : Option Place) (part : PathPart) : Option Place :=
  match place, part with
  | some _, .root => some []
  | some p, .here => some p
  | some p, .up => if t.isFolderAt p then some p.dropLast else none
  | some p, .name n => some (p ++ [n])
  | none, _ => none

/-- The place that a path names.  To go up from a folder it must be there. -/
def locate? (t : FileTree) (p : Path) : Option Place :=
  p.parts.foldl t.stepInto (some t.working)

/-- Whether a path is that of a folder. -/
def isFolder (t : FileTree) (p : Path) : Bool :=
  !p.bytes.isEmpty && (t.locate? p).any t.isFolderAt

/-- The place of the folder at a path. -/
def folderAt? (t : FileTree) (p : Path) : Option Place :=
  if t.isFolder p then t.locate? p else none

/-- The file at a path. -/
def entry? (t : FileTree) (p : Path) : Option FileEntry :=
  if p.namesFolder then none else (t.locate? p).bind t.fileAt?

/-- The content of the file at a path, if it can be opened. -/
def read? (t : FileTree) (p : Path) : Option (List UInt8) := (t.entry? p).bind (·.content)

/-- Whether a file stands where a path needs a folder. -/
def leadsThroughFile (t : FileTree) (p : Path) : Bool :=
  let needed := if p.namesFolder then p.parts.length + 1 else p.parts.length
  (List.range needed).any fun n =>
    (((p.parts.take n).foldl t.stepInto (some t.working)).bind t.fileAt?).isSome

/-- The text in the file at a path. -/
def readText (t : FileTree) (p : Path) : Except ReadFault (List Char) :=
  match (t.read? p).map Text.decode? with
  | some (some cs) => .ok cs
  | some none => .error .noText
  | none =>
    if t.isFolder p then .error .folder
    else if t.leadsThroughFile p then .error .belowFile
    else if (t.entry? p).isSome then .error .closed
    else .error .absent

/-- Whether anything is at a path. -/
def holds (t : FileTree) (p : Path) : Bool := t.isFolder p || (t.entry? p).isSome

/-! ### What a folder lists -/

/-- The places that a tree is given by. -/
def places (t : FileTree) : List Place := t.working :: t.folders ++ t.files.map (·.1)

/-- The names behind a place on the way to the places of a tree, each once. -/
def entries (t : FileTree) (p : Place) : List FileName :=
  (t.places.filterMap fun q =>
    if p.isPrefixOf q then (q.drop p.length).head? else none).eraseDups

/-- What the folder at a place lists. -/
def list (t : FileTree) (p : Place) : Listing :=
  if p ∈ t.closed then ⟨[], false⟩ else ⟨t.entries p, true⟩

/-! ### Files and folders that are made -/

/-- Whether no file is in the way of a folder at a place. -/
def roomFor (t : FileTree) (p : Place) : Bool := t.files.all fun f => !f.1.isPrefixOf p

/-- Go on to the next part of a path, which is made a folder if nothing is there. -/
def makeStep (made : Option (FileTree × Place)) (part : PathPart) : Option (FileTree × Place) :=
  match made with
  | none => none
  | some (t, place) =>
    match t.stepInto (some place) part with
    | some place =>
      if t.roomFor place then some ({ t with folders := place :: t.folders }, place) else none
    | none => none

/-- The tree with folders at the parts of a path. -/
def makeFolders? (t : FileTree) (parts : List PathPart) : Option FileTree :=
  (parts.foldl makeStep (some (t, t.working))).map (·.1)

/-- The tree with a folder at a path, and all folders on the way to it.  A dot is no name
for a new folder, so a path that ends in one must be that of a folder once those on the
way are there. -/
def makeFolder? (t : FileTree) (p : Path) : Option FileTree :=
  if p.endsInDot then (t.makeFolders? p.parts.dropLast).filter (·.isFolder p)
  else t.makeFolders? p.parts

/-- The tree with a file at a place, whatever was there. -/
def setFile (t : FileTree) (p : Place) (file : FileEntry) : FileTree :=
  { t with files := (p, file) :: t.files.filter (fun f => f.1 ≠ p) }

/-- The tree with a file at a path, whatever was there, or with an empty folder if the path ends
in a slash. -/
def put (t : FileTree) (p : Path) (file : FileEntry) : FileTree :=
  match t.locate? p with
  | none => t
  | some place =>
    if p.bytes.getLast? = some Path.slash then { t with folders := place :: t.folders }
    else t.setFile place file

/-- The tree with these files and empty folders. -/
def ofList (working : Place) (l : List (Path × FileEntry)) : FileTree :=
  l.foldl (fun t f => t.put f.1 f.2) ⟨working, [], [], []⟩

/-- The tree with a content at a path, in a folder that is there.  What is there and cannot be
opened is not written to either. -/
def write? (t : FileTree) (p : Path) (content : List UInt8) : Option FileTree :=
  if p.namesFolder then none
  else
    match t.locate? p with
    | some place =>
      let file := (t.fileAt? place).getD (.ofContent [])
      if place ≠ [] && t.isFolderAt place.dropLast && !t.isFolderAt place &&
          file.content.isSome then
        some (t.setFile place { file with content := some content })
      else none
    | none => none

end FileTree

end TestTelemetry
