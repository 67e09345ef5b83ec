/-
JSON values and their text.

The members of an object keep the order in which they are written.  The compact
text has no blanks; the pretty text puts each item on a line of its own,
indented by two blanks a level.

* `escape` — a string between its quotes;
* `Json.compact`, `Json.pretty` — the two texts of a value;
* `control_not_mem_escape` — no escaped text holds a control character, hence
  no newline.
-/
import TestTelemetry.Decimal.Shortest

namespace TestTelemetry

/-- A JSON value.  Integers are exact; other numbers are floating. -/
inductive Json
  | null
  | bool (b : Bool)
  | int (n : Int)
  | float (x : Float)
  | str (s : String)
  | arr (items : List Json)
  | obj (members : List (String × Json))

namespace Json

/-- Positional from `1e-5` up to `1e16`, an exponent with its sign elsewhere. -/
def floatLayout : Decimal.FloatLayout := ⟨-5, 16⟩

/-- A hexadecimal digit in lower case. -/
def hexDigit (n : Nat) : Char := Nat.digitChar n

/-- One character inside quotes: quote, backslash and the control characters are escaped. -/
def escapeChar (c : Char) : List Char :=
  if c = '"' then ['\\', '"']
  else if c = '\\' then ['\\', '\\']
  else if c.toNat = 8 then ['\\', 'b']
  else if c.toNat = 9 then ['\\', 't']
  else if c.toNat = 10 then ['\\', 'n']
  else if c.toNat = 12 then ['\\', 'f']
  else if c.toNat = 13 then ['\\', 'r']
  else if c.toNat < 32 then
    ['\\', 'u', '0', '0', hexDigit (c.toNat / 16), hexDigit (c.toNat % 16)]
  else [c]

/-- The text of a string between its quotes. -/
def escape : List Char → List Char
  | [] => []
  | c :: cs => escapeChar c ++ escape cs

theorem hexDigit_not_control (n : Nat) (h : n < 16) : 32 ≤ (hexDigit n).toNat := by
  revert n; decide

theorem control_not_mem_escapeChar {c d : Char} (h : d ∈ escapeChar c) : 32 ≤ d.toNat := by
  simp only [escapeChar] at h
  split at h
  · simp at h; rcases h with rfl | rfl <;> decide
  split at h
  · simp at h; subst h; decide
  iterate 5
    split at h
    · simp at h; rcases h with rfl | rfl <;> decide
  split at h
  case isTrue hc =>
    have h₁ := hexDigit_not_control (c.toNat / 16) (by omega)
    have h₂ := hexDigit_not_control (c.toNat % 16) (by omega)
    simp at h
    rcases h with rfl | rfl | rfl | rfl | rfl
    · decide
    · decide
    · decide
    · exact h₁
    · exact h₂
  case isFalse hc =>
    simp at h
    subst h
    omega

/-- No escaped text holds a control character. -/
theorem control_not_mem_escape {cs : List Char} {d : Char} (h : d ∈ escape cs) :
    32 ≤ d.toNat := by
  induction cs with
  | nil => simp [escape] at h
  | cons c cs ih =>
    rcases List.mem_append.1 h with h | h
    · exact control_not_mem_escapeChar h
    · exact ih h

/-- A string with its quotes. -/
def quote (s : String) : List Char := '"' :: escape s.toList ++ ['"']

/-- The decimal text of an integer. -/
def intText (n : Int) : List Char :=
  if n < 0 then '-' :: Nat.toDigits 10 n.natAbs else Nat.toDigits 10 n.natAbs

/-- The text of a floating number; a number that is not finite has none and reads `null`. -/
def floatText (x : Float) : List Char :=
  if x.isFinite then Decimal.floatText floatLayout x else ['n', 'u', 'l', 'l']

mutual

/-- The text of a value without blanks. -/
def compact : Json → List Char
  | null => ['n', 'u', 'l', 'l']
  | bool true => ['t', 'r', 'u', 'e']
  | bool false => ['f', 'a', 'l', 's', 'e']
  | int n => intText n
  | float x => floatText x
  | str s => quote s
  | arr [] => ['[', ']']
  | arr (v :: vs) => '[' :: compact v ++ compactItems vs ++ [']']
  | obj [] => ['{', '}']
  | obj ((k, v) :: ms) => '{' :: quote k ++ ':' :: compact v ++ compactMembers ms ++ ['}']

/-- The items after the first, each after a comma. -/
def compactItems : List Json → List Char
  | [] => []
  | v :: vs => ',' :: compact v ++ compactItems vs

/-- The members after the first, each after a comma. -/
def compactMembers : List (String × Json) → List Char
  | [] => []
  | (k, v) :: ms => ',' :: quote k ++ ':' :: compact v ++ compactMembers ms

end

/-- The compact text as a string. -/
def text (v : Json) : String := String.ofList v.compact

/-- A new line at an indentation level. -/
def newline (level : Nat) : List Char := '\n' :: List.replicate (2 * level) ' '

mutual

/-- The text of a value at an indentation level, one item a line. -/
def prettyAt (level : Nat) : Json → List Char
  | arr [] => ['[', ']']
  | arr (v :: vs) =>
    '[' :: newline (level + 1) ++ prettyAt (level + 1) v ++ prettyItems (level + 1) vs ++
      newline level ++ [']']
  | obj [] => ['{', '}']
  | obj ((k, v) :: ms) =>
    '{' :: newline (level + 1) ++ quote k ++ ':' :: ' ' :: prettyAt (level + 1) v ++
      prettyMembers (level + 1) ms ++ newline level ++ ['}']
  | v => compact v

def prettyItems (level : Nat) : List Json → List Char
  | [] => []
  | v :: vs => ',' :: newline level ++ prettyAt level v ++ prettyItems level vs

def prettyMembers (level : Nat) : List (String × Json) → List Char
  | [] => []
  | (k, v) :: ms =>
    ',' :: newline level ++ quote k ++ ':' :: ' ' :: prettyAt level v ++ prettyMembers level ms

end

/-- The text of a value with one item a line. -/
def pretty (v : Json) : String := String.ofList (prettyAt 0 v)

/-- The value of an optional part, `null` when it is absent. -/
def ofOption {α : Type} (f : α → Json) : Option α → Json
  | some x => f x
  | none => null

/-- A member that is left out when its value is absent. -/
def optionalMember {α : Type} (name : String) (f : α → Json) : Option α → List (String × Json)
  | some x => [(name, f x)]
  | none => []

end Json

end TestTelemetry
