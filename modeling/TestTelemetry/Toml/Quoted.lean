/-
Strings of a configuration text.

A string stands between marks, a single one on each side or three.  Between three
marks it may run over several lines, and up to two marks more than three at its
end belong to it.  Between double quotes a backslash begins an escape; at the end
of a line it takes away the blanks that follow.

Where a string ends is found before it is read, so that a string with a fault does
not hide what follows it.

* `Quotation` — the kind of marks around a string;
* `Quotation.cut` — what stands between the marks;
* `Quotation.read` — the string that this stands for, read one character at a time
  (`StringPart`);
* `readQuoted` — the string at the start of a text.
-/
import TestTelemetry.Toml.Value

namespace TestTelemetry.Toml

/-- The marks around a string, and whether backslashes mean something between them. -/
structure Quotation where
  mark : Char
  long : Bool
  escapes : Bool

/-! ### Where a string ends -/

/-- What stands between marks, whether marks stand at its end, and what follows. -/
structure Cut where
  content : List Char
  closed : Bool
  rest : List Char

/-- Put a character in front of the content. -/
def Cut.cons (c : Char) (cut : Cut) : Cut := { cut with content := c :: cut.content }

/-- Cut a text after its opening marks.  A string on one line ends with its line at the
latest.  After a backslash, which `escaped` tells, neither a quote nor a backslash counts. -/
def Quotation.cut (q : Quotation) (escaped : Bool) : List Char → Cut
  | [] => ⟨[], false, []⟩
  | c :: rest =>
    if escaped && (c = '"' || c = '\\') then (q.cut false rest).cons c
    else if c = q.mark && (!q.long || [q.mark, q.mark].isPrefixOf rest) then
      if q.long then
        let after := rest.drop 2
        let extra := (after.takeWhile (· = q.mark)).take 2
        ⟨extra, true, after.drop extra.length⟩
      else ⟨[], true, rest⟩
    else if c = '\n' && !q.long then ⟨[], false, c :: rest⟩
    else (q.cut (q.escapes && c = '\\') rest).cons c

/-! ### What a string stands for -/

/-- Where in a string one is. -/
inductive StringPart
  | plain
  | escape
  /-- In the number of a character, with as many digits to come. -/
  | code (left value : Nat)
  /-- Between a backslash and the end of the line. -/
  | lineEnd
  /-- In the blanks that a backslash took away. -/
  | blanks
  /-- After a carriage return that belongs to the string, or to those blanks. -/
  | afterReturn (blank : Bool)
deriving DecidableEq, Repr

/-- Tab and blank. -/
def isBlank (c : Char) : Bool := c = ' ' || c = '\t'

/-- Every character but those that control something, the tab excepted. -/
def isTextChar (c : Char) : Bool := c = '\t' || (32 ≤ c.toNat && c.toNat ≠ 127)

/-- The character of a letter after a backslash. -/
def escapedChar? (c : Char) : Option Char :=
  if c = '"' ∨ c = '\\' then some c
  else if c = 'b' then some (Char.ofNat 8)
  else if c = 't' then some '\t'
  else if c = 'n' then some '\n'
  else if c = 'f' then some (Char.ofNat 12)
  else if c = 'r' then some '\r'
  else if c = 'e' then some (Char.ofNat 27)
  else none

/-- How many digits the number of a character has after a letter. -/
def codeDigits? (c : Char) : Option Nat :=
  if c = 'x' then some 2 else if c = 'u' then some 4 else if c = 'U' then some 8 else none

/-- The characters that a step adds to a string, and where it leads. -/
abbrev StringStep := Checked (List Char × StringPart)

namespace Quotation

def plain (q : Quotation) (c : Char) : StringStep :=
  if q.escapes && c = '\\' then .ok ([], .escape)
  else if c = '\n' && q.long then .ok (['\n'], .plain)
  else if c = '\r' && q.long then .ok ([], .afterReturn false)
  else if isTextChar c then .ok ([c], .plain)
  else .error .malformed

/-- The end of a line, or blanks before it, after a backslash. -/
def lineEnd (c : Char) : StringStep :=
  if isBlank c then .ok ([], .lineEnd)
  else if c = '\n' then .ok ([], .blanks)
  else if c = '\r' then .ok ([], .afterReturn true)
  else .error .malformed

def escape (q : Quotation) (c : Char) : StringStep :=
  match escapedChar? c, codeDigits? c with
  | some e, _ => .ok ([e], .plain)
  | none, some digits => .ok ([], .code digits 0)
  | none, none => if q.long then lineEnd c else .error .malformed

def code (left value : Nat) (c : Char) : StringStep :=
  match Text.hexValue? c with
  | none => .error .malformed
  | some d =>
    let value := value * 16 + d
    if left > 1 then .ok ([], .code (left - 1) value)
    else if Text.isCharCode value then .ok ([Char.ofNat value], .plain)
    else .error .noCharacter

/-- Read one more character.  The end of a line keeps its carriage return. -/
def next (q : Quotation) (p : StringPart) (c : Char) : StringStep :=
  match p with
  | .plain => q.plain c
  | .escape => q.escape c
  | .code left value => code left value c
  | .lineEnd => lineEnd c
  | .blanks =>
    if isBlank c || c = '\n' then .ok ([], .blanks)
    else if c = '\r' then .ok ([], .afterReturn true)
    else q.plain c
  | .afterReturn blank =>
    if c = '\n' then .ok (if blank then ([], .blanks) else (['\r', '\n'], .plain))
    else .error .malformed

/-- Read on from a part. -/
def readFrom (q : Quotation) (p : StringPart) : List Char → Checked (List Char)
  | [] => if p = .plain ∨ p = .blanks then .ok [] else .error .malformed
  | c :: rest => do
    let (out, p) ← q.next p c
    return out ++ (← q.readFrom p rest)

/-- The string that a content stands for. -/
def read (q : Quotation) (cut : Cut) : Checked (List Char) :=
  if cut.closed then q.readFrom .plain cut.content else .error .malformed

end Quotation

/-! ### Strings at the start of a text -/

/-- A text without the end of a line at its start. -/
def dropNewline : List Char → List Char
  | '\n' :: rest => rest
  | '\r' :: '\n' :: rest => rest
  | cs => cs

/-- Read a string after its first mark, and what follows it.  Three marks open a long one. -/
def readQuoted (mark : Char) (cs : List Char) : Checked String × List Char :=
  let long := [mark, mark].isPrefixOf cs
  let q : Quotation := ⟨mark, long, mark = '"'⟩
  let cut := q.cut false (if long then dropNewline (cs.drop 2) else cs)
  ((q.read cut).map String.ofList, cut.rest)

end TestTelemetry.Toml
