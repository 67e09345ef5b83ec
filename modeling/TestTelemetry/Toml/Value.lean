/-
Tables of a configuration text.

Such a text is a table.  Its lines add members to it, straight or along a way of
keys; tables on the way come into being when they are first needed.  What opened
a table decides which lines may still add to it.

* `Toml` — the values that a key can have;
* `Toml.Fault` — what can be wrong with the parts of a text that is laid out well;
* `Route.follow` — the table at the end of a way of keys;
* `openTable`, `openItem`, `assign` — what headers and key lines add;
* `Toml.toNode` — a value in the shape that decoders read.
-/
import TestTelemetry.Json.Node
import TestTelemetry.Data.OrderedMap

namespace TestTelemetry

/-- What opened a table. -/
inductive TableOrigin
  /-- It lies on the way to the table of a header. -/
  | implied
  | header
  /-- It lies on the way to a value with a dotted key. -/
  | dotted
  /-- It is written in braces, and complete with them. -/
  | braces
deriving DecidableEq, Repr

/-- A value.  Of numbers that are not integers it is not kept which they are, since no
setting is such a number. -/
inductive Toml
  | text (s : String)
  | integer (n : Int)
  | fraction
  /-- What has the look of a number but the value of none; it matters only to those who
  ask for it. -/
  | unreadable
  | bool (b : Bool)
  | moment (s : String)
  | array (items : List Toml)
  | table (origin : TableOrigin) (members : List (String × Toml))
  /-- The tables of headers in double brackets. -/
  | tables (items : List (List (String × Toml)))

namespace Toml

/-- What is wrong with a part of a text. -/
inductive Fault
  | malformed
  /-- The number of a character is that of no character. -/
  | noCharacter
deriving DecidableEq, Repr

/-- A part of a text that may have a fault. -/
abbrev Checked (α : Type) := Except Fault α

/-- What is missing is malformed. -/
def Checked.ofOption {α : Type} : Option α → Checked α
  | some x => .ok x
  | none => .error .malformed

/-- The members of a table, in the order of the text. -/
abbrev Members := List (String × Toml)

/-- Give the member of a key another value. -/
def replaceMember (k : String) (v : Toml) (ms : Members) : Members :=
  ms.map fun m => if m.1 = k then (k, v) else m

/-! ### Ways of keys -/

/-- How a way leads through tables: what it makes of those that are missing, which it may
enter, and where it may end.  Of several tables it enters the last. -/
structure Route where
  missing : TableOrigin
  enters : TableOrigin → Bool
  ends : TableOrigin → Bool

/-- The way that a header names. -/
def Route.ofHeader : Route := ⟨.implied, (· ≠ .braces), fun _ => true⟩

/-- The way that a dotted key names.  It may lead through what headers imply, but a value is
put only where such keys have led before. -/
def Route.ofKey : Route := ⟨.dotted, fun o => o = .implied || o = .dotted, (· = .dotted)⟩

/-- Change the table at the end of a way. -/
def Route.follow (r : Route) (change : Members → Option Members) :
    List String → Members → Option Members
  | [], ms => change ms
  | k :: ks, ms =>
    let mayEnter (origin : TableOrigin) : Bool := !ks.isEmpty || r.ends origin
    match ms.lookup k with
    | none => (r.follow change ks []).map fun inner => ms ++ [(k, .table r.missing inner)]
    | some (.table origin inner) =>
      if r.enters origin && mayEnter origin then
        (r.follow change ks inner).map fun inner => replaceMember k (.table origin inner) ms
      else none
    | some (.tables items) =>
      match items.reverse with
      | last :: before =>
        if mayEnter .header then
          (r.follow change ks last).map fun last =>
            replaceMember k (.tables (last :: before).reverse) ms
        else none
      | [] => none
    | some _ => none

/-! ### What lines add -/

/-- A new member; no key is written twice. -/
def addMember (k : String) (v : Toml) (ms : Members) : Option Members :=
  if (ms.lookup k).isSome then none else some (ms ++ [(k, v)])

/-- Open the table of a header.  A table that was only on the way so far can be opened. -/
def openTable (k : String) (ms : Members) : Option Members :=
  match ms.lookup k with
  | none => some (ms ++ [(k, .table .header [])])
  | some (.table .implied inner) => some (replaceMember k (.table .header inner) ms)
  | some _ => none

/-- Open one more table of a header in double brackets. -/
def openItem (k : String) (ms : Members) : Option Members :=
  match ms.lookup k with
  | none => some (ms ++ [(k, .tables [[]])])
  | some (.tables items) => some (replaceMember k (.tables (items ++ [[]])) ms)
  | some _ => none

/-- Give the last key of a way a value. -/
def assign (way : List String) (k : String) (v : Toml) (ms : Members) : Option Members :=
  Route.ofKey.follow (addMember k v) way ms

/-! ### The shape that decoders read -/

/-- The key under which a moment stands when it is looked at as a table. -/
def momentKey : String := "$__toml_private_datetime"

def keyOf (name : String) : Json.Key := ⟨Json.escape name.toList, true⟩

/-- An object with its members in the order of their keys. -/
def sortedObject (ms : List (String × Json.Node)) : Json.Node :=
  .object ((OrderedMap.ofList ms).entries.map fun m => (keyOf m.1, m.2)) true

mutual

/-- The shape of a value. -/
def toNode : Toml → Json.Node
  | .text s => .string (Json.escape s.toList)
  | .integer n => .number (Json.intText n)
  | .fraction => .number ['0', '.', '0']
  | .unreadable => .broken
  | .bool b => .bool b
  | .moment s => .object [(keyOf momentKey, .string (Json.escape s.toList))] true
  | .array items => .array (itemNodes items) true
  | .table _ members => sortedObject (memberNodes members)
  | .tables items => .array (tableNodes items) true

def itemNodes : List Toml → List Json.Node
  | [] => []
  | v :: vs => toNode v :: itemNodes vs

def memberNodes : List (String × Toml) → List (String × Json.Node)
  | [] => []
  | (k, v) :: ms => (k, toNode v) :: memberNodes ms

def tableNodes : List (List (String × Toml)) → List Json.Node
  | [] => []
  | ms :: rest => sortedObject (memberNodes ms) :: tableNodes rest

end

end Toml

end TestTelemetry
