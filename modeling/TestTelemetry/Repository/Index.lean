/-
The index of a repository's source files.

The index maps the slashed name of a class, its package and the stem of its file,
to the file's path from the repository root.

* `RepoIndex.qualifiedKey` — the key that a class name asks for;
* `RepoIndex.sourcePath` — the file of a class: that of its own key, else that of
  the only key with the same last name.
-/
import TestTelemetry.Settings.Codec

namespace TestTelemetry

/-- Index of a repository's source files. -/
structure RepoIndex where
  /-- Folders that hold indexed files, from the repository root. -/
  sourceRoots : List String
  /-- From class keys to file paths. -/
  sources : OrderedMap String String
deriving DecidableEq

namespace RepoIndex

def empty : RepoIndex := ⟨[], .empty⟩

instance : Inhabited RepoIndex := ⟨empty⟩

/-- The key that a class name asks for: dots read as slashes, and what follows the
first dollar sign left out, since nested classes share the file of the outer one. -/
def qualifiedKey (className : String) : String :=
  String.ofList ((className.toList.map fun c => if c = '.' then '/' else c).takeWhile (· ≠ '$'))

/-- What follows the last slash of a key. -/
def lastName (key : String) : List Char := (key.toList.reverse.takeWhile (· ≠ '/')).reverse

/-- The entries whose key has a given last name. -/
def candidates (i : RepoIndex) (name : List Char) : List (String × String) :=
  i.sources.entries.filter fun e => lastName e.1 = name

/-- The path of the file of a class. -/
def sourcePath (i : RepoIndex) (className : String) : Option String :=
  let key := qualifiedKey className
  match i.sources.find? key with
  | some path => some path
  | none =>
    match i.candidates (lastName key) with
    | [e] => some e.2
    | _ => none

def toJson (i : RepoIndex) : Json :=
  .obj [("source_roots", Json.ofStrings i.sourceRoots),
    ("sources", .obj (i.sources.entries.map fun e => (e.1, .str e.2)))]

def record : Json.Record RepoIndex :=
  RepoIndex.mk <$> Json.Record.required "source_roots" Json.Decoder.string.list
    <*> Json.Record.required "sources" (Json.Decoder.map Json.Decoder.nameKey Json.Decoder.string)

def decoder : Json.Decoder RepoIndex := record.decoder

end RepoIndex

end TestTelemetry
