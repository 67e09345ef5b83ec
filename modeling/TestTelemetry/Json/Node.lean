/-
JSON text read as far as it is well formed.

A `Node` is the shape of a text: an array or an object may be open, because the
text breaks off or goes wrong inside it, and a value that is no value is
`broken`.  Strings, keys and numbers keep their characters, since what they
stand for is asked only of those that are used.

* `Node.skippable` — a value that nobody asks for need only be well formed;
* `Node.sound` — a value that is kept for later must also be readable all
  through and not nested too deeply.
-/
import TestTelemetry.Json.Value
import TestTelemetry.Text.Digit
import TestTelemetry.Decimal.Numeral

namespace TestTelemetry

namespace Json

/-- The value of four hexadecimal digits. -/
def hexValue4? (a b c d : Char) : Option Nat := do
  let a ← Text.hexValue? a
  let b ← Text.hexValue? b
  let c ← Text.hexValue? c
  let d ← Text.hexValue? d
  return a * 4096 + b * 256 + c * 16 + d

/-- The character that a letter after a backslash stands for. -/
def escaped? (c : Char) : Option Char :=
  if c = '"' ∨ c = '\\' ∨ c = '/' then some c
  else if c = 'b' then some (Char.ofNat 8)
  else if c = 'f' then some (Char.ofNat 12)
  else if c = 'n' then some '\n'
  else if c = 'r' then some '\r'
  else if c = 't' then some '\t'
  else none

/-- The string that stands between quotes; `none` when an escape names no
character, such as one half of a surrogate pair without the other. -/
def unescape : List Char → Option (List Char)
  | [] => some []
  | '\\' :: 'u' :: a :: b :: c :: d :: rest =>
    match hexValue4? a b c d with
    | none => none
    | some high =>
      if 0xD800 ≤ high ∧ high < 0xDC00 then
        match rest with
        | '\\' :: 'u' :: a :: b :: c :: d :: rest =>
          match hexValue4? a b c d with
          | none => none
          | some low =>
            if 0xDC00 ≤ low ∧ low < 0xE000 then
              (unescape rest).map
                (Char.ofNat (0x10000 + (high - 0xD800) * 1024 + (low - 0xDC00)) :: ·)
            else none
        | _ => none
      else if 0xDC00 ≤ high ∧ high < 0xE000 then none
      else (unescape rest).map (Char.ofNat high :: ·)
  | '\\' :: c :: rest =>
    match escaped? c with
    | none => none
    | some e => (unescape rest).map (e :: ·)
  | c :: rest => if c = '\\' then none else (unescape rest).map (c :: ·)

/-- The key of an object's member; an open key is one that does not end in a quote. -/
structure Key where
  raw : List Char
  closed : Bool
deriving DecidableEq

/-- The name that a key stands for. -/
def Key.name? (k : Key) : Option String :=
  if k.closed then (unescape k.raw).map String.ofList else none

/-- The shape of a JSON text. -/
inductive Node
  | null
  | bool (b : Bool)
  | number (raw : List Char)
  | string (raw : List Char)
  | array (items : List Node) (closed : Bool)
  | object (members : List (Key × Node)) (closed : Bool)
  | broken

namespace Node

mutual

/-- Well formed, whatever its strings and numbers stand for. -/
def skippable : Node → Bool
  | array items closed => closed && skippableItems items
  | object members closed => closed && skippableMembers members
  | broken => false
  | _ => true

def skippableItems : List Node → Bool
  | [] => true
  | v :: vs => skippable v && skippableItems vs

def skippableMembers : List (Key × Node) → Bool
  | [] => true
  | (k, v) :: ms => k.closed && skippable v && skippableMembers ms

end

mutual

/-- Well formed and readable all through, with at most `depth` levels of nesting. -/
def sound (depth : Nat) : Node → Bool
  | array items closed => closed && depth != 0 && soundItems (depth - 1) items
  | object members closed => closed && depth != 0 && soundMembers (depth - 1) members
  | broken => false
  | number raw => (Decimal.number? raw).isSome
  | string raw => (unescape raw).isSome
  | _ => true

def soundItems (depth : Nat) : List Node → Bool
  | [] => true
  | v :: vs => sound depth v && soundItems depth vs

def soundMembers (depth : Nat) : List (Key × Node) → Bool
  | [] => true
  | (k, v) :: ms => k.name?.isSome && sound depth v && soundMembers depth ms

end

mutual

/-- The shape of the text of a value. -/
def ofJson : Json → Node
  | .null => null
  | .bool b => bool b
  | .int n => number (intText n)
  | .float x => if x.isFinite then number (Json.floatText x) else null
  | .str s => string (escape s.toList)
  | .arr items => array (ofItems items) true
  | .obj members => object (ofMembers members) true

def ofItems : List Json → List Node
  | [] => []
  | v :: vs => ofJson v :: ofItems vs

def ofMembers : List (String × Json) → List (Key × Node)
  | [] => []
  | (k, v) :: ms => (⟨escape k.toList, true⟩, ofJson v) :: ofMembers ms

end

end Node

end Json

end TestTelemetry
