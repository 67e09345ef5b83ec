/-
Looking things up in a JSON text.

These readers never fail: what is not there, or of another type, reads as the
empty text, zero, false or `null`.

* `Node.member` — the member of a name;
* `Node.items`, `Node.members` — the parts of a value;
* `Node.text`, `Node.nat`, `Node.truth` — plain values.
-/
import TestTelemetry.Json.Decoder

namespace TestTelemetry.Json.Node

def isNull : Node → Bool
  | null => true
  | _ => false

/-- The text of a string. -/
def text? : Node → Option String
  | string raw => (unescape raw).map String.ofList
  | _ => none

def text (n : Node) : String := n.text?.getD ""

def truth : Node → Bool
  | bool b => b
  | _ => false

/-- The number that a numeral writes, if it is a natural one. -/
def nat : Node → Nat
  | number raw =>
    match Decimal.number? raw with
    | some (.natural n) => n
    | _ => 0
  | _ => 0

def items : Node → List Node
  | array ns _ => ns
  | _ => []

def item (n : Node) (i : Nat) : Node := (n.items[i]?).getD null

def texts (n : Node) : List String := n.items.map text

/-- The members of an object, in the order of the text. -/
def members : Node → List (String × Node)
  | object ms _ => ms.map fun m => (m.1.name?.getD "", m.2)
  | _ => []

/-- The member of a name; of several the last. -/
def member (n : Node) (name : String) : Node := (n.members.reverse.lookup name).getD null

/-- The value that is read from a part of a text, or another one. -/
def readOr {α : Type} (n : Node) (d : Decoder α) (x : α) : α :=
  match d .buffer n with
  | .ok y => y
  | .error _ => x

end TestTelemetry.Json.Node
