/-
Paths as they are written, and their parts.

A path is kept as it was written, because messages show it that way; two paths
are compared part by part, so `a/b` and `a//b/` are the same place and `a/b`
comes before `a-b`.

* `Path.parts` — the parts of a path;
* `Path.key` — what paths are ordered by;
* `Path.join` — a path below another one.
-/
import TestTelemetry.Data.Pieces
import TestTelemetry.Text.Raw

namespace TestTelemetry

/-- A path, as it is written. -/
abbrev Path := RawText

/-- The name of a file or of a folder. -/
abbrev FileName := RawText

/-- One part of a path. -/
inductive PathPart
  | root
  | here
  | up
  | name (n : FileName)
deriving DecidableEq, Repr

/-- A part as a word over the natural numbers, whose order is the order of parts:
the root first, then the marks for this folder and the one above, then the names. -/
def PathPart.key : PathPart → List Nat
  | root => [0]
  | here => [1]
  | up => [2]
  | name n => 3 :: n.bytes.map UInt8.toNat

namespace Path

/-- The byte between two names. -/
abbrev slash : UInt8 := 47

abbrev dot : UInt8 := 46

/-- Whether a path starts at the root. -/
def isAbsolute (p : Path) : Bool := p.bytes.head? = some slash

def partOf (piece : List UInt8) : Option PathPart :=
  if piece = [] ∨ piece = [dot] then none
  else if piece = [dot, dot] then some .up
  else some (.name ⟨piece⟩)

/-- The parts of a path.  Empty pieces and `.` count only at the start. -/
def parts (p : Path) : List PathPart :=
  let names := pieces slash p.bytes
  let front :=
    if p.isAbsolute then [PathPart.root]
    else if names.head? = some [dot] then [PathPart.here]
    else []
  front ++ names.filterMap partOf

/-- Whether only a folder can be at a path: it ends in a slash, or in a piece that is a dot. -/
def namesFolder (p : Path) : Bool :=
  let last := (pieces slash p.bytes).getLast?
  last = some [] || last = some [dot]

/-- Whether the last piece of a path is a dot, whatever slashes follow it. -/
def endsInDot (p : Path) : Bool :=
  ((pieces slash p.bytes).filter (· ≠ [])).getLast? = some [dot]

/-- What paths are ordered by: part after part. -/
def key (p : Path) : List (List Nat) := p.parts.map PathPart.key

/-- Whether a path comes no later than another. -/
def le (p q : Path) : Bool := (compare p.key q.key).isLE

theorem le_trans {p q r : Path} (hpq : p.le q = true) (hqr : q.le r = true) : p.le r = true :=
  Std.TransCmp.isLE_trans hpq hqr

theorem le_total (p q : Path) : (p.le q || q.le p) = true := by
  have hswap : compare q.key p.key = (compare p.key q.key).swap := Std.OrientedCmp.eq_swap
  rw [le, le, hswap]
  cases compare p.key q.key <;> rfl

/-- A path below a folder; an absolute path stays as it is. -/
def join (folder p : Path) : Path :=
  if p.isAbsolute || folder.bytes.isEmpty then p
  else if folder.bytes.getLast? = some slash then ⟨folder.bytes ++ p.bytes⟩
  else ⟨folder.bytes ++ slash :: p.bytes⟩

/-- The last part, if it is a name. -/
def fileName? (p : Path) : Option FileName :=
  match p.parts.getLast? with
  | some (.name n) => some n
  | _ => none

/-- The name before the last dot and the name after it.  A dot at the start separates nothing. -/
def splitExtension (name : FileName) : FileName × Option FileName :=
  let reversed := name.bytes.reverse
  let after := reversed.takeWhile (· ≠ dot)
  match reversed.dropWhile (· ≠ dot) with
  | [] => (name, none)
  | [_] => (name, none)
  | _ :: before => (⟨before.reverse⟩, some ⟨after.reverse⟩)

/-- The names of a list, joined by slashes. -/
def ofNames (names : List FileName) : Path :=
  ⟨List.intercalate [slash] (names.map RawText.bytes)⟩

end Path

end TestTelemetry
