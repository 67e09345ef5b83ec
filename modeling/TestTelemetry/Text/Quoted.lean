/-
Quoted text for people.

Names in descriptions stand in double quotes.  Quotes and backslashes inside are
escaped, and so are the characters that do not show as themselves.

* `quoted` — a text with its quotes;
* `quotedOption` — a text that may be absent;
* `described` — something with the names and texts of its parts.
-/
import TestTelemetry.Text.Visible

namespace TestTelemetry.Text

/-- One character inside quotes. -/
def quotedChar (c : Char) : List Char :=
  if c = '"' then ['\\', '"']
  else if c = '\\' then ['\\', '\\']
  else if c = '\n' then ['\\', 'n']
  else if c = '\r' then ['\\', 'r']
  else if c = '\t' then ['\\', 't']
  else if c.toNat = 0 then ['\\', '0']
  else if isVisible c then [c]
  else ['\\', 'u', '\x7b'] ++ Nat.toDigits 16 c.toNat ++ ['\x7d']

def quoted (s : String) : String :=
  String.ofList ('"' :: s.toList.flatMap quotedChar ++ ['"'])

def quotedOption : Option String → String
  | some s => "Some(" ++ quoted s ++ ")"
  | none => "None"

def truth (b : Bool) : String := if b then "true" else "false"

/-- What something is, and its parts by name. -/
def described (what : String) (parts : List (String × String)) : String :=
  what ++ " \x7b " ++ String.intercalate ", " (parts.map fun p => p.1 ++ ": " ++ p.2) ++ " \x7d"

end TestTelemetry.Text
