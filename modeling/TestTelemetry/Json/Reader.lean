/-
The reader of JSON texts.

A text is read one character at a time by an automaton whose stack holds the
containers around the value at hand.  It never fails: where the text goes wrong,
all open containers are closed as open nodes, and what follows is ignored.

* `State.step` — the automaton;
* `Document.read`, `Document.readBytes` — the shape of a text and of a byte
  sequence, and whether anything but blanks follows it.
-/
import TestTelemetry.Json.Node
import TestTelemetry.Text.Utf8

namespace TestTelemetry.Json

open Decimal (Phase)

/-- The blanks between the tokens of a JSON text. -/
def isSpace (c : Char) : Bool := c = ' ' || c = '\n' || c = '\t' || c = '\r'

/-- A text read: its value, and whether something follows that is not blank. -/
structure Document where
  root : Node
  trailing : Bool

/-- A container around the value at hand, its parts newest first. -/
inductive Frame
  | array (items : List Node)
  | member (members : List (Key × Node)) (key : Key)

/-- Where in an escape a quoted text is. -/
inductive Escape
  | plain
  | backslash
  | hex (left : Nat)
deriving DecidableEq

/-- What a character does to a quoted text. -/
inductive QuoteStep
  | more (e : Escape)
  | close
  | bad
deriving DecidableEq

/-- Read one character of a quoted text. -/
def Escape.next (e : Escape) (c : Char) : QuoteStep :=
  match e with
  | plain =>
    if c = '"' then .close
    else if c = '\\' then .more backslash
    else if c.toNat < 32 then .bad
    else .more plain
  | backslash =>
    if c = 'u' then .more (hex 4)
    else if (escaped? c).isSome then .more plain
    else .bad
  | hex left =>
    if (Text.hexValue? c).isSome then .more (if left ≤ 1 then plain else hex (left - 1))
    else .bad

/-- What is being read; the texts are newest character first. -/
inductive Mode
  | value
  | firstItem
  | afterItem (items : List Node)
  | firstKey
  | nextKey (members : List (Key × Node))
  | key (members : List (Key × Node)) (raw : List Char) (e : Escape)
  | colon (members : List (Key × Node)) (key : Key)
  | afterMember (members : List (Key × Node))
  | quoted (raw : List Char) (e : Escape)
  | number (phase : Phase) (raw : List Char)
  | word (left : List Char) (node : Node)

/-- The open node of what is being read when the text goes wrong. -/
def Mode.unended : Mode → Node
  | .firstItem => .array [] false
  | .afterItem items => .array items.reverse false
  | .firstKey => .object [] false
  | .nextKey members => .object members.reverse false
  | .key members raw _ => .object ((⟨raw.reverse, false⟩, .broken) :: members).reverse false
  | .colon members k => .object ((k, .broken) :: members).reverse false
  | .afterMember members => .object members.reverse false
  | _ => .broken

/-- The state of the reader. -/
inductive State
  | reading (mode : Mode) (stack : List Frame)
  | finished (doc : Document)

namespace State

/-- Hand a complete value to the innermost container. -/
def put (v : Node) : List Frame → State
  | [] => finished ⟨v, false⟩
  | .array items :: stack => reading (.afterItem (v :: items)) stack
  | .member members key :: stack => reading (.afterMember ((key, v) :: members)) stack

/-- Leave all containers open around a value that did not end well. -/
def abandon (v : Node) : List Frame → Node
  | [] => v
  | .array items :: stack => abandon (.array (v :: items).reverse false) stack
  | .member members key :: stack => abandon (.object ((key, v) :: members).reverse false) stack

/-- Stop reading at a value that did not end well. -/
def stop (v : Node) (stack : List Frame) : State := finished ⟨abandon v stack, false⟩

/-- Begin a value. -/
def begin? (c : Char) (stack : List Frame) : State :=
  if c = '"' then reading (.quoted [] .plain) stack
  else if c = '{' then reading .firstKey stack
  else if c = '[' then reading .firstItem stack
  else if c = 'n' then reading (.word ['u', 'l', 'l'] .null) stack
  else if c = 't' then reading (.word ['r', 'u', 'e'] (.bool true)) stack
  else if c = 'f' then reading (.word ['a', 'l', 's', 'e'] (.bool false)) stack
  else match Phase.first? c with
    | some p => reading (.number p [c]) stack
    | none => stop .broken stack

/-- Read a character where no number is being read. -/
def stepIn (mode : Mode) (stack : List Frame) (c : Char) : State :=
  match mode with
  | .value => if isSpace c then reading mode stack else begin? c stack
  | .firstItem =>
    if isSpace c then reading mode stack
    else if c = ']' then put (.array [] true) stack
    else begin? c (.array [] :: stack)
  | .afterItem items =>
    if isSpace c then reading mode stack
    else if c = ',' then reading .value (.array items :: stack)
    else if c = ']' then put (.array items.reverse true) stack
    else stop mode.unended stack
  | .firstKey =>
    if isSpace c then reading mode stack
    else if c = '"' then reading (.key [] [] .plain) stack
    else if c = '}' then put (.object [] true) stack
    else stop mode.unended stack
  | .nextKey members =>
    if isSpace c then reading mode stack
    else if c = '"' then reading (.key members [] .plain) stack
    else stop mode.unended stack
  | .key members raw e =>
    match e.next c with
    | .more e' => reading (.key members (c :: raw) e') stack
    | .close => reading (.colon members ⟨raw.reverse, true⟩) stack
    | .bad => stop mode.unended stack
  | .colon members key =>
    if isSpace c then reading mode stack
    else if c = ':' then reading .value (.member members key :: stack)
    else stop mode.unended stack
  | .afterMember members =>
    if isSpace c then reading mode stack
    else if c = ',' then reading (.nextKey members) stack
    else if c = '}' then put (.object members.reverse true) stack
    else stop mode.unended stack
  | .quoted raw e =>
    match e.next c with
    | .more e' => reading (.quoted (c :: raw) e') stack
    | .close => put (.string raw.reverse) stack
    | .bad => stop mode.unended stack
  | .word left node =>
    match left with
    | [d] => if c = d then put node stack else stop .broken stack
    | d :: left => if c = d then reading (.word left node) stack else stop .broken stack
    | [] => stop .broken stack
  | .number _ _ => stop .broken stack

/-- Read a character after a value that ended before it. -/
def resume (s : State) (c : Char) : State :=
  match s with
  | reading mode stack => stepIn mode stack c
  | finished doc => finished ⟨doc.root, doc.trailing || !isSpace c⟩

/-- Read one character. -/
def step (s : State) (c : Char) : State :=
  match s with
  | reading (.number p raw) stack =>
    match p.next c with
    | .more q => reading (.number q (c :: raw)) stack
    | .stop => resume (put (.number raw.reverse) stack) c
    | .bad => stop .broken stack
  | s => resume s c

/-- Two low surrogates in a row, newest character first: what stands in a quoted
text for bytes that are no text.  Whatever comes before or after them, they name no
character. -/
def illFormedMark : List Char := ['0', '0', 'c', 'd', 'u', '\\', '0', '0', 'c', 'd', 'u', '\\']

/-- Read an ill-formed piece of a byte sequence: a quoted text goes on with a
piece that stands for no character, anything else stops. -/
def stepIllFormed (s : State) : State :=
  match s with
  | reading (.quoted raw .plain) stack => reading (.quoted (illFormedMark ++ raw) .plain) stack
  | reading (.key members raw .plain) stack =>
    reading (.key members (illFormedMark ++ raw) .plain) stack
  | reading (.number p raw) stack =>
    if p.complete then
      match put (.number raw.reverse) stack with
      | reading mode stack => stop mode.unended stack
      | finished doc => finished ⟨doc.root, true⟩
    else stop .broken stack
  | reading mode stack => stop mode.unended stack
  | finished doc => finished ⟨doc.root, true⟩

/-- What has been read when the text ends. -/
def finish (s : State) : Document :=
  match s with
  | finished doc => doc
  | reading (.number p raw) stack =>
    if p.complete then
      match put (.number raw.reverse) stack with
      | reading mode stack => ⟨abandon mode.unended stack, false⟩
      | finished doc => doc
    else ⟨abandon .broken stack, false⟩
  | reading mode stack => ⟨abandon mode.unended stack, false⟩

/-- The state before the first character. -/
def start : State := reading .value []

end State

/-- The shape of a text. -/
def Document.read (cs : List Char) : Document := (cs.foldl State.step State.start).finish

/-- The shape of a byte sequence. -/
def Document.readBytes (bytes : List UInt8) : Document :=
  ((Text.decodePieces none bytes).foldl
    (fun s piece => match piece with
      | some c => s.step c
      | none => s.stepIllFormed)
    State.start).finish

end TestTelemetry.Json
