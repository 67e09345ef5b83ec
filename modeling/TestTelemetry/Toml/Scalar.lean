/-
Words of a configuration text that stand for a value.

A word is a truth value, an integer, a number with a fraction, or a moment: a
date, a time of day, or both.  Underscores may stand between two digits.

Whether a word is a number is seen by its look, and a few words have the look of
one but the value of none.

* `number`, `radixNumber` — numbers;
* `moment?` — moments, in their usual spelling;
* `scalar` — the value of a word.
-/
import TestTelemetry.Toml.Value
import TestTelemetry.Data.Pieces

namespace TestTelemetry.Toml

/-! ### Integers -/

/-- Whether underscores stand where they may in a number: each between two digits.  The first
piece may be a sign alone. -/
def spacedFrom (isDigit : Char → Bool) : List (List Char) → Bool
  | [] => true
  | [last] => last.head?.any isDigit
  | p :: ps => p.head?.any isDigit && p.getLast?.any isDigit && spacedFrom isDigit ps

def isSpaced (isDigit : Char → Bool) (cs : List Char) : Bool :=
  match pieces '_' cs with
  | [] | [_] => true
  | first :: ps => (first.length = 1 || first.getLast?.any isDigit) && spacedFrom isDigit ps

def withoutUnderscores (cs : List Char) : List Char := cs.filter (· ≠ '_')

/-- The value of digits in a base of at most sixteen. -/
def digitsValue (base : Nat) (ds : List Char) : Nat :=
  ds.foldl (fun n c => n * base + (Text.hexValue? c).getD 0) 0

/-- Whether a character is a digit in a base. -/
def isDigitOf (base : Nat) (c : Char) : Bool := (Text.hexValue? c).any (· < base)

/-- The base that a letter after a zero announces. -/
def baseOf? (c : Char) : Option Nat :=
  if c = 'x' then some 16 else if c = 'o' then some 8 else if c = 'b' then some 2 else none

/-- A number without its sign, and its sign. -/
def splitSign : List Char → Option Char × List Char
  | '+' :: cs => (some '+', cs)
  | '-' :: cs => (some '-', cs)
  | cs => (none, cs)

/-- Integers are below this. -/
def integerBound : Nat := UInt64.size * UInt64.size

/-- The integer that digits without underscores write.  There is none without digits, with
other characters among them, or beyond the range of integers. -/
def integerOf (negative : Bool) (base : Nat) (ds : List Char) : Toml :=
  let n := digitsValue base ds
  if ds = [] || !ds.all (isDigitOf base) then .unreadable
  else if negative then (if n ≤ integerBound / 2 then .integer (-(n : Int)) else .unreadable)
  else if n < integerBound then .integer n
  else .unreadable

/-- A number in another base than ten, after the letter that announces it. -/
def radixNumber (base : Nat) (ds : List Char) : Checked Toml :=
  if ds.all (fun c => isDigitOf base c || c = '_') && isSpaced (isDigitOf 16) ds then
    .ok (integerOf false base (withoutUnderscores ds))
  else .error .malformed

/-- A decimal integer; a zero stands at its start only by itself. -/
def decimalNumber (sign : Option Char) (cs raw : List Char) : Checked Toml :=
  if (cs.head? ≠ some '0' || cs.length = 1) && isSpaced (isDigitOf 16) raw then
    .ok (integerOf (sign = some '-') 10 (withoutUnderscores cs))
  else .error .malformed

/-! ### Fractions -/

/-- Skip digits with underscores among them.  There is at least one; one of several may be a
zero at the start only if they are `padded`. -/
def skipDigits? (padded : Bool) (cs : List Char) : Option (List Char) :=
  let run := cs.takeWhile fun c => c.isDigit || c = '_'
  let count := (withoutUnderscores run).length
  if count = 0 || (count > 1 && cs.head? = some '0' && !padded) then none
  else some (cs.drop run.length)

def isExponentMark (c : Char) : Bool := c = 'e' || c = 'E'

/-- Skip a point and the digits after it, if there is one. -/
def skipFraction? : List Char → Option (List Char)
  | '.' :: cs => skipDigits? true cs
  | cs => some cs

/-- Skip an exponent, if there is one. -/
def skipExponent? : List Char → Option (List Char)
  | c :: cs => if isExponentMark c then skipDigits? true (splitSign cs).2 else some (c :: cs)
  | [] => some []

/-- A number with a point or an exponent.  One that is too large has no value. -/
def fractionNumber (cs raw : List Char) : Checked Toml :=
  match ((skipDigits? false cs).bind skipFraction?).bind skipExponent? with
  | some [] =>
    if isSpaced Char.isDigit raw then
      .ok (if (Decimal.number? (withoutUnderscores cs)).isSome then .fraction else .unreadable)
    else .error .malformed
  | _ => .error .malformed

/-- Numbers that are words. -/
def numberWords : List (List Char) := ["inf".toList, "nan".toList]

/-! ### Moments -/

/-- The value of two digits. -/
def twoDigits? (a b : Char) : Option Nat :=
  if a.isDigit && b.isDigit then some (digitsValue 10 [a, b]) else none

def isLeapYear (year : Nat) : Bool := year % 4 = 0 && (year % 100 ≠ 0 || year % 400 = 0)

/-- How many days a month has. -/
def daysIn (year month : Nat) : Nat :=
  if month = 2 then (if isLeapYear year then 29 else 28)
  else if month ∈ [4, 6, 9, 11] then 30
  else 31

/-- A date at the start of a text, and what follows it. -/
def readDate? : List Char → Option (List Char × List Char)
  | a :: b :: c :: d :: '-' :: e :: f :: '-' :: g :: h :: rest => do
    let century ← twoDigits? a b
    let years ← twoDigits? c d
    let month ← twoDigits? e f
    let day ← twoDigits? g h
    if 1 ≤ month ∧ month ≤ 12 ∧ 1 ≤ day ∧ day ≤ daysIn (century * 100 + years) month then
      some ([a, b, c, d, '-', e, f, '-', g, h], rest)
    else none
  | _ => none

/-- How many digits of a fraction of a second count. -/
def fractionDigits : Nat := 9

/-- The text of a fraction of a second, without the zeros at its end but for a single one. -/
def secondsFraction (ds : List Char) : List Char :=
  match ((ds.take fractionDigits).reverse.dropWhile (· = '0')).reverse with
  | [] => ['.', '0']
  | ds => '.' :: ds

/-- A fraction of a second at the start of a text, and what follows it. -/
def readSecondsFraction? : List Char → Option (List Char × List Char)
  | '.' :: rest =>
    match rest.takeWhile Char.isDigit with
    | [] => none
    | ds => some (secondsFraction ds, rest.dropWhile Char.isDigit)
  | cs => some ([], cs)

/-- Seconds at the start of a text, if there are any, and what follows them. -/
def readSeconds? : List Char → Option (List Char × List Char)
  | ':' :: a :: b :: rest => do
    let second ← twoDigits? a b
    if second ≤ 60 then
      let (part, rest) ← readSecondsFraction? rest
      some (':' :: a :: b :: part, rest)
    else none
  | cs => some ([], cs)

/-- Hours and minutes at the start of a text, and what follows them. -/
def readMinutes? : List Char → Option (List Char × List Char)
  | a :: b :: ':' :: c :: d :: rest => do
    let hour ← twoDigits? a b
    let minute ← twoDigits? c d
    if hour ≤ 23 ∧ minute ≤ 59 then some ([a, b, ':', c, d], rest) else none
  | _ => none

/-- A time of day at the start of a text, and what follows it. -/
def readTime? (cs : List Char) : Option (List Char × List Char) := do
  let (minutes, rest) ← readMinutes? cs
  let (seconds, rest) ← readSeconds? rest
  return (minutes ++ seconds, rest)

/-- No hours and no minutes. -/
def noMinutes : List Char := ['0', '0', ':', '0', '0']

/-- The distance from universal time, or nothing.  No distance is written with a plus. -/
def offset? : List Char → Option (List Char)
  | [] => some []
  | ['Z'] | ['z'] => some ['Z']
  | sign :: cs =>
    if sign = '+' ∨ sign = '-' then
      match readMinutes? cs with
      | some (minutes, []) => some ((if minutes = noMinutes then '+' else sign) :: minutes)
      | _ => none
    else none

/-- A date with a time of day, a date, or a time of day. -/
def moment? (cs : List Char) : Option String :=
  let text : Option (List Char) :=
    match readDate? cs with
    | some (date, []) => some date
    | some (date, mark :: rest) =>
      if mark ∈ ['T', 't', ' '] then do
        let (time, rest) ← readTime? rest
        let offset ← offset? rest
        return date ++ 'T' :: time ++ offset
      else none
    | none =>
      match readTime? cs with
      | some (time, []) => some time
      | _ => none
  text.map String.ofList

/-! ### Words -/

/-- A word that begins like a number: `cs` without its sign and `raw` with it.  What follows the
first digits decides what it is. -/
def number (sign : Option Char) (cs raw : List Char) : Checked Toml :=
  let rest := cs.dropWhile Char.isDigit
  match rest with
  | [] => decimalNumber sign cs raw
  | c :: _ =>
    if c = '-' || c = ':' then Checked.ofOption ((moment? raw).map .moment)
    else if rest.contains ' ' then .error .malformed
    else if rest.any fun c => c = '.' || isExponentMark c then fractionNumber cs raw
    else if c = '_' then decimalNumber sign cs raw
    else .error .malformed

/-- The value of a word. -/
def scalar (cs : List Char) : Checked Toml :=
  let (sign, unsigned) := splitSign cs
  if cs = "true".toList then .ok (.bool true)
  else if cs = "false".toList then .ok (.bool false)
  else if unsigned ∈ numberWords then .ok .fraction
  else
    match unsigned with
    | '0' :: c :: ds =>
      match baseOf? c with
      | some base => if sign.isNone then radixNumber base ds else .error .malformed
      | none => number sign unsigned cs
    | c :: _ => if c.isDigit || c = '_' then number sign unsigned cs else .error .malformed
    | [] => .error .malformed

end TestTelemetry.Toml
