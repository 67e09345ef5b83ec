/-
The shortest decimal text of a binary floating-point number.

A finite number is a natural number `m` times a power of two.  Of all decimals
that round to it, those with the fewest digits are considered, and of those the
nearest is written.  All arithmetic is on natural numbers.

* `Binary.ofFloat` — the parts of a number;
* `Binary.shortest` — its shortest digits and decimal exponent;
* `FloatLayout`, `layout` — where positional notation ends and what follows it.
-/

namespace TestTelemetry.Decimal

/-- The magnitude `mantissa * 2 ^ exponent`; `edge` tells that the next smaller
number is half as far away as the next larger one. -/
structure Binary where
  mantissa : Nat
  exponent : Int
  edge : Bool

/-- The bit above the 52 that a number keeps of its mantissa. -/
def hiddenBit : Nat := 0x10000000000000

/-- The parts of the magnitude of a finite number. -/
def Binary.ofFloat (x : Float) : Binary :=
  let bits := x.toBits.toNat
  let biased : Nat := bits / hiddenBit % 2048
  let fraction : Nat := bits % hiddenBit
  if biased = 0 then ⟨fraction, -1074, false⟩
  else ⟨hiddenBit + fraction, (biased : Int) - 1075, fraction = 0 ∧ biased > 1⟩

/-- A magnitude and the interval of the reals that round to it, over one denominator. -/
structure Interval where
  low : Nat
  value : Nat
  high : Nat
  denominator : Nat
  /-- Whether the two ends round to the value. -/
  closed : Bool

def Binary.interval (b : Binary) : Interval :=
  let below := if b.edge then 1 else 2
  let up := if b.exponent ≥ 2 then Nat.pow 2 (b.exponent - 2).toNat else 1
  let down := if b.exponent ≥ 2 then 1 else Nat.pow 2 (2 - b.exponent).toNat
  ⟨(4 * b.mantissa - below) * up, 4 * b.mantissa * up, (4 * b.mantissa + 2) * up, down,
    b.mantissa % 2 = 0⟩

/-- Whether `digits * 10 ^ power` lies in the interval. -/
def Interval.holds (i : Interval) (digits : Nat) (power : Int) : Bool :=
  let n := digits * Nat.pow 10 power.toNat * i.denominator
  let s := Nat.pow 10 (-power).toNat
  if i.closed then decide (i.low * s ≤ n ∧ n ≤ i.high * s)
  else decide (i.low * s < n ∧ n < i.high * s)

/-- The decimal exponent of the leading digit of the value. -/
def Interval.magnitude (i : Interval) : Int :=
  if i.value ≥ i.denominator then
    ((Nat.toDigits 10 (i.value / i.denominator)).length : Int) - 1
  else
    let c := (i.denominator + i.value - 1) / i.value
    (-(Nat.toDigits 10 (c - 1)).length : Int)

/-- The nearest decimal of the interval on the grid `10 ^ power`, ties to an even digit. -/
def Interval.onGrid (i : Interval) (power : Int) : Option Nat :=
  let scaled := i.value * Nat.pow 10 (-power).toNat
  let unit := i.denominator * Nat.pow 10 power.toNat
  let lower := scaled / unit
  let rest := scaled % unit
  match i.holds lower power, i.holds (lower + 1) power with
  | true, true =>
    if 2 * rest < unit then some lower
    else if 2 * rest > unit then some (lower + 1)
    else if lower % 2 = 0 then some lower else some (lower + 1)
  | true, false => some lower
  | false, true => some (lower + 1)
  | false, false => none

/-- The shortest digits of a positive magnitude and the exponent of the first of them. -/
def Binary.shortest (b : Binary) : List Char × Int :=
  let i := b.interval
  let top := i.magnitude
  let hit := (List.range 17).findSome? fun (count : Nat) =>
    let power := top - (count : Int)
    (i.onGrid power).map (·, power)
  match hit with
  | some (digits, power) =>
    let text := Nat.toDigits 10 digits
    let kept := (text.reverse.dropWhile (· = '0')).reverse
    (kept, power + (text.length : Int) - 1)
  | none => (['0'], 0)

/-- How digits become text: positional from `10 ^ low` up to but not including `10 ^ high`. -/
structure FloatLayout where
  low : Int
  high : Int

/-- Digits with the exponent of the first of them, laid out. -/
def layout (f : FloatLayout) (digits : List Char) (exponent : Int) : List Char :=
  if f.low ≤ exponent ∧ exponent < f.high then
    if exponent < 0 then
      ['0', '.'] ++ List.replicate (-exponent - 1).toNat '0' ++ digits
    else
      let whole := exponent.toNat + 1
      let padded := digits ++ List.replicate (whole + 1 - digits.length) '0'
      padded.take whole ++ ['.'] ++ padded.drop whole
  else
    let tail := match digits.tail with
      | [] => []
      | t => '.' :: t
    let sign := if exponent < 0 then '-' else '+'
    digits.take 1 ++ tail ++ ['e', sign] ++ Nat.toDigits 10 exponent.natAbs

/-- The text of a finite number: sign, then the shortest digits laid out; zero is `0.0`. -/
def floatText (f : FloatLayout) (x : Float) : List Char :=
  let sign := if x.toBits ≥ 0x8000000000000000 then ['-'] else []
  let b := Binary.ofFloat x
  if b.mantissa = 0 then sign ++ ['0', '.', '0']
  else
    let (digits, exponent) := b.shortest
    sign ++ layout f digits exponent

end TestTelemetry.Decimal
