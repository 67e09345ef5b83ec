/-
Numerals and their values.

A numeral is scanned one character at a time (`Phase`).  An integer that fits
64 bits keeps its exact value; every other numeral stands for the floating
number that is computed from its first digits and a power of ten.

* `Phase.next` — how a numeral goes on;
* `Numeral.number?` — the value, unless it is too large for a floating number.
-/

namespace TestTelemetry.Decimal

/-- How far a numeral has been read. -/
inductive Phase
  | minus
  | zero
  | integer
  | point
  | fraction
  | mark
  | sign
  | exponent
deriving DecidableEq, Repr

/-- What the next character does to a numeral. -/
inductive Progress
  | more (phase : Phase)
  | stop
  | bad
deriving DecidableEq, Repr

namespace Phase

/-- The phase after the first character of a numeral. -/
def first? (c : Char) : Option Phase :=
  if c = '-' then some minus
  else if c = '0' then some zero
  else if c.isDigit then some integer
  else none

/-- Whether a numeral may end here. -/
def complete : Phase → Bool
  | zero | integer | fraction | exponent => true
  | _ => false

/-- A numeral that goes on with no character of its own stops if it may end. -/
def otherwise (p : Phase) : Progress := if p.complete then .stop else .bad

/-- Read one more character. -/
def next (p : Phase) (c : Char) : Progress :=
  match p with
  | minus => if c = '0' then .more zero else if c.isDigit then .more integer else .bad
  | zero =>
    if c.isDigit then .bad
    else if c = '.' then .more point
    else if c = 'e' ∨ c = 'E' then .more mark
    else .stop
  | integer =>
    if c.isDigit then .more integer
    else if c = '.' then .more point
    else if c = 'e' ∨ c = 'E' then .more mark
    else .stop
  | point => if c.isDigit then .more fraction else .bad
  | fraction =>
    if c.isDigit then .more fraction
    else if c = 'e' ∨ c = 'E' then .more mark
    else .stop
  | mark =>
    if c = '+' ∨ c = '-' then .more sign
    else if c.isDigit then .more exponent
    else .bad
  | sign => if c.isDigit then .more exponent else .bad
  | exponent => if c.isDigit then .more exponent else .stop

end Phase

/-- Read the numeral that a text goes on with: its characters and what follows it. -/
def scanFrom (p : Phase) (read : List Char) : List Char → Option (List Char × List Char)
  | [] => if p.complete then some (read.reverse, []) else none
  | c :: rest =>
    match p.next c with
    | .more q => scanFrom q (c :: read) rest
    | .stop => some (read.reverse, c :: rest)
    | .bad => none

/-- Read the numeral at the start of a text. -/
def scan : List Char → Option (List Char × List Char)
  | [] => none
  | c :: rest => (Phase.first? c).bind fun p => scanFrom p [c] rest

/-- The value of a numeral. -/
inductive Number
  | natural (n : Nat)
  /-- The negative integer of this magnitude. -/
  | negative (n : Nat)
  | real (x : Float)

/-- The parts of a numeral: the digits before and after the point, and the exponent
with its sign. -/
structure Numeral where
  negative : Bool
  integer : List Char
  fraction : List Char
  exponent : Option (Bool × List Char)

/-- Take a numeral apart. -/
def Numeral.ofChars (cs : List Char) : Numeral :=
  let negative := cs.head? = some '-'
  let cs := if negative then cs.drop 1 else cs
  let integer := cs.takeWhile Char.isDigit
  let cs := cs.dropWhile Char.isDigit
  let (fraction, cs) := match cs with
    | '.' :: cs => (cs.takeWhile Char.isDigit, cs.dropWhile Char.isDigit)
    | cs => ([], cs)
  let exponent := match cs with
    | [] => none
    | _ :: '+' :: ds => some (false, ds)
    | _ :: '-' :: ds => some (true, ds)
    | _ :: ds => some (false, ds)
  ⟨negative, integer, fraction, exponent⟩

/-- The largest significand that is kept exactly. -/
def significandMax : Nat := UInt64.size - 1

/-- Append digits to a significand as long as it stays within 64 bits; the
digits from the first that does not fit are left over. -/
def absorb (n : Nat) : List Char → Nat × List Char
  | [] => (n, [])
  | c :: rest =>
    let n' := n * 10 + (c.toNat - '0'.toNat)
    if n' ≤ significandMax then absorb n' rest else (n, c :: rest)

/-- The power of ten as a floating number. -/
def powerOfTen (n : Nat) : Float := Float.ofScientific 1 false n

/-- Multiply by a power of ten, at most 308 places at a time; `none` when the
result is too large. -/
def scale (f : Float) (exponent : Int) : Option Float :=
  if exponent > 308 then
    if f == 0 then some f else none
  else if 0 ≤ exponent then
    let r := f * powerOfTen exponent.toNat
    if r.isInf then none else some r
  else if exponent ≥ -308 then
    some (f / powerOfTen (-exponent).toNat)
  else if f == 0 then some f
  else scale (f / powerOfTen 308) (exponent + 308)
termination_by exponent.natAbs
decreasing_by omega

/-- The largest exponent that is read digit by digit. -/
def exponentMax : Nat := 2147483647

/-- The value of a numeral; `none` when it is too large for a floating number. -/
def Numeral.number? (m : Numeral) : Option Number :=
  let (whole, rest) := absorb 0 m.integer
  if rest = [] ∧ m.fraction = [] ∧ m.exponent = none then
    if !m.negative then some (.natural whole)
    else if whole = 0 ∨ whole > UInt64.size / 2 then some (.real (-(UInt64.ofNat whole).toFloat))
    else some (.negative whole)
  else
    let (significand, unread) := absorb whole m.fraction
    let places : Int := (rest.length : Int) - ((m.fraction.length - unread.length : Nat) : Int)
    let signed (f : Float) : Number := .real (if m.negative then -f else f)
    let f := (UInt64.ofNat significand).toFloat
    match m.exponent with
    | none => (scale f places).map signed
    | some (down, digits) =>
      let e := Nat.ofDigitChars 10 digits 0
      if e > exponentMax then
        if significand = 0 ∨ down then some (signed 0) else none
      else (scale f (if down then places - e else places + e)).map signed

/-- The value of a scanned numeral. -/
def number? (cs : List Char) : Option Number := (Numeral.ofChars cs).number?

end TestTelemetry.Decimal
