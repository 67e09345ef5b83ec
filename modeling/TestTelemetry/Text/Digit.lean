/-
Hexadecimal digits.

* `hexValue?` — the value of a digit, in either case;
* `hexNumber?` — the number that digits write;
* `isCharCode` — whether a number is that of a character.
-/

namespace TestTelemetry.Text

/-- The digit's value in base sixteen. -/
def hexValue? (c : Char) : Option Nat :=
  if c.isDigit then some (c.toNat - '0'.toNat)
  else if 'a' ≤ c ∧ c ≤ 'f' then some (c.toNat - 'a'.toNat + 10)
  else if 'A' ≤ c ∧ c ≤ 'F' then some (c.toNat - 'A'.toNat + 10)
  else none

/-- The number that digits write. -/
def hexNumber? (cs : List Char) : Option Nat :=
  cs.foldl (fun n c => n.bind fun n => (hexValue? c).map (n * 16 + ·)) (some 0)

/-- Whether a number is that of a character. -/
def isCharCode (n : Nat) : Bool := n < 0xD800 || (0xDFFF < n && n < 0x110000)

end TestTelemetry.Text
