/-
Internet addresses and their texts.

* `IpAddress.text` — dotted decimals, or groups of hexadecimal digits where the
  first longest run of zero groups is written as two colons;
* `SocketAddress.text` — address and port; the colons of an address of version 6
  stand in brackets, with its scope after a percent sign if it has one;
* `SocketAddress.ofText?`, `resolve?` — reading them back.
-/
import TestTelemetry.Json.Value
import TestTelemetry.Text.Digit
import TestTelemetry.Data.Pieces

namespace TestTelemetry

/-- An internet address of version 4 or 6, its parts in order. -/
inductive IpAddress
  | v4 (a b c d : UInt8)
  | v6 (groups : Vector UInt16 8)
deriving DecidableEq

/-- An address and a port. -/
structure SocketAddress where
  ip : IpAddress
  port : UInt16
  /-- The number of the network that an address of version 6 belongs to, or zero. -/
  scope : UInt32 := 0
deriving DecidableEq

/-! ### Writing -/

def decimalText (n : Nat) : List Char := Nat.toDigits 10 n

def hexText (n : Nat) : List Char := Nat.toDigits 16 n

/-- Texts with a separator between them. -/
def joinWith (sep : Char) : List (List Char) → List Char
  | [] => []
  | [x] => x
  | x :: xs => x ++ sep :: joinWith sep xs

/-- How many zeros a list begins with. -/
def leadingZeros (l : List UInt16) : Nat := (l.takeWhile (· = 0)).length

/-- Start and length of the first longest run of zeros, looked for from a position on. -/
def longestZeros (start : Nat) : List UInt16 → Nat × Nat
  | [] => (start, 0)
  | g :: rest =>
    let here := (start, leadingZeros (g :: rest))
    let later := longestZeros (start + 1) rest
    if later.2 > here.2 then later else here

def groupsText (l : List UInt16) : List Char := joinWith ':' (l.map fun g => hexText g.toNat)

def v4Text (a b c d : UInt8) : List Char :=
  joinWith '.' ([a, b, c, d].map fun x => decimalText x.toNat)

/-- Groups with colons between them; two colons stand for the first longest run of zeros. -/
def compressedText (groups : List UInt16) : List Char :=
  let (start, length) := longestZeros 0 groups
  if length > 1 then
    groupsText (groups.take start) ++ [':', ':'] ++ groupsText (groups.drop (start + length))
  else groupsText groups

/-- The groups that a version 4 address in disguise ends with. -/
def disguised? (groups : List UInt16) : Option (UInt16 × UInt16) :=
  match groups with
  | [a, b, c, d, e, f, g, h] =>
    if [a, b, c, d, e, f] = [0, 0, 0, 0, 0, 0xffff] then some (g, h) else none
  | _ => none

/-- The text of eight groups; a version 4 address in disguise shows as one. -/
def v6Text (groups : List UInt16) : List Char :=
  match disguised? groups with
  | some (g, h) =>
    "::ffff:".toList ++ v4Text (g >>> 8).toUInt8 g.toUInt8 (h >>> 8).toUInt8 h.toUInt8
  | none => compressedText groups

def IpAddress.text : IpAddress → List Char
  | v4 a b c d => v4Text a b c d
  | v6 groups => v6Text groups.toList

/-- A scope as it stands behind an address: nothing if there is none. -/
def scopeText (scope : UInt32) : List Char :=
  if scope = 0 then [] else '%' :: decimalText scope.toNat

def SocketAddress.text (s : SocketAddress) : List Char :=
  match s.ip with
  | .v4 .. => s.ip.text ++ ':' :: decimalText s.port.toNat
  | .v6 _ => '[' :: s.ip.text ++ scopeText s.scope ++ ']' :: ':' :: decimalText s.port.toNat

def SocketAddress.display (s : SocketAddress) : String := String.ofList s.text

def IpAddress.display (ip : IpAddress) : String := String.ofList ip.text

/-- The address of this machine. -/
def IpAddress.loopback : IpAddress := .v4 127 0 0 1

/-- Whether an address means this machine in every network. -/
def IpAddress.isOwn : IpAddress → Bool
  | v4 a b c d => a = 127 || [a, b, c, d] = [0, 0, 0, 0]
  | v6 groups => groups.toList ∈ [[0, 0, 0, 0, 0, 0, 0, 0], [0, 0, 0, 0, 0, 0, 0, 1]]

/-! ### Reading -/

/-- A decimal number of at most `max`; more digits than needed are taken only if `padded`. -/
def readDecimal? (padded : Bool) (max : Nat) (cs : List Char) : Option Nat :=
  if cs = [] ∨ !cs.all Char.isDigit then none
  else if !padded ∧ cs.length > 1 ∧ cs.head? = some '0' then none
  else
    let n := Nat.ofDigitChars 10 cs 0
    if n ≤ max then some n else none

/-- A group of an address of version 6: one to four hexadecimal digits. -/
def readGroup? (cs : List Char) : Option UInt16 :=
  if cs = [] ∨ cs.length > 4 then none else (Text.hexNumber? cs).map UInt16.ofNat

def readV4? (cs : List Char) : Option (UInt8 × UInt8 × UInt8 × UInt8) :=
  match pieces '.' cs with
  | [a, b, c, d] => do
    let a ← readDecimal? false 255 a
    let b ← readDecimal? false 255 b
    let c ← readDecimal? false 255 c
    let d ← readDecimal? false 255 d
    return (UInt8.ofNat a, UInt8.ofNat b, UInt8.ofNat c, UInt8.ofNat d)
  | _ => none

/-- The groups of a list of pieces; the last piece may be an address of version 4. -/
def readGroups? : List (List Char) → Option (List UInt16)
  | [] => some []
  | [p] =>
    match readV4? p with
    | some (a, b, c, d) =>
      some [a.toUInt16 <<< 8 ||| b.toUInt16, c.toUInt16 <<< 8 ||| d.toUInt16]
    | none => (readGroup? p).map ([·])
  | p :: ps => do
    let g ← readGroup? p
    let gs ← readGroups? ps
    return g :: gs

/-- The groups before the first two colons in a row, and those after them. -/
def splitDoubleColon : List Char → List Char → Option (List Char × List Char)
  | _, [] => none
  | before, ':' :: ':' :: rest => some (before.reverse, rest)
  | before, c :: rest => splitDoubleColon (c :: before) rest

def readSide? (cs : List Char) : Option (List UInt16) :=
  if cs = [] then some [] else readGroups? (pieces ':' cs)

def vectorOf? (l : List UInt16) : Option (Vector UInt16 8) :=
  if h : l.length = 8 then some ⟨l.toArray, by simpa using h⟩ else none

def readV6? (cs : List Char) : Option (Vector UInt16 8) :=
  match splitDoubleColon [] cs with
  | none => (readSide? cs).bind vectorOf?
  | some (before, after) => do
    let l ← readSide? before
    -- a version 4 address may stand only at the end
    if before.contains '.' then none
    else
      let r ← readSide? after
      if l.length + r.length > 7 then none
      else vectorOf? (l ++ List.replicate (8 - l.length - r.length) 0 ++ r)

/-- An address without a port. -/
def IpAddress.ofText? (cs : List Char) : Option IpAddress :=
  match readV4? cs with
  | some (a, b, c, d) => some (.v4 a b c d)
  | none => (readV6? cs).map .v6

/-- A scope in decimal digits. -/
def readScope? (cs : List Char) : Option UInt32 :=
  (readDecimal? true 0xFFFFFFFF cs).map UInt32.ofNat

/-- What stands before the first percent sign, and what follows it if there is one. -/
def splitPercent (cs : List Char) : List Char × Option (List Char) :=
  (cs.takeWhile (· ≠ '%'), (cs.dropWhile (· ≠ '%')).tail?)

/-- An address with its port; one of version 6 stands in brackets. -/
def SocketAddress.ofText? (cs : List Char) : Option SocketAddress :=
  match cs with
  | '[' :: rest => do
    let (host, name) := splitPercent (rest.takeWhile (· ≠ ']'))
    let groups ← readV6? host
    let scope ← name.elim (some 0) readScope?
    match rest.dropWhile (· ≠ ']') with
    | ']' :: ':' :: port => do
      let port ← readDecimal? true 65535 port
      return { ip := .v6 groups, port := UInt16.ofNat port, scope }
    | _ => none
  | _ => do
    let (a, b, c, d) ← readV4? (cs.takeWhile (· ≠ ':'))
    match cs.dropWhile (· ≠ ':') with
    | ':' :: port => do
      let port ← readDecimal? true 65535 port
      return { ip := .v4 a b c d, port := UInt16.ofNat port }
    | _ => none

/-- One number of a short version 4 address: decimal, octal after `0`, hexadecimal after `0x`. -/
def readPart? (cs : List Char) : Option Nat :=
  match cs with
  | [] => none
  | '0' :: x :: rest =>
    if x = 'x' ∨ x = 'X' then (if rest = [] then none else Text.hexNumber? rest)
    else if (x :: rest).all (fun c => '0' ≤ c ∧ c ≤ '7') then some (Nat.ofDigitChars 8 (x :: rest) 0)
    else none
  | cs => if cs.all Char.isDigit then some (Nat.ofDigitChars 10 cs 0) else none

def v4OfNat (n : Nat) : IpAddress :=
  .v4 (UInt8.ofNat (n / 0x1000000)) (UInt8.ofNat (n / 0x10000)) (UInt8.ofNat (n / 0x100)) (UInt8.ofNat n)

/-- A version 4 address in one to four numbers, the last of which fills what is left. -/
def readShortV4? (cs : List Char) : Option IpAddress :=
  match (pieces '.' cs).mapM readPart? with
  | some [n] => if n < 0x100000000 then some (v4OfNat n) else none
  | some [a, n] => if a < 256 ∧ n < 0x1000000 then some (v4OfNat (a * 0x1000000 + n)) else none
  | some [a, b, n] =>
    if a < 256 ∧ b < 256 ∧ n < 0x10000 then some (v4OfNat (a * 0x1000000 + b * 0x10000 + n)) else none
  | some [a, b, c, n] =>
    if a < 256 ∧ b < 256 ∧ c < 256 ∧ n < 256 then
      some (v4OfNat (a * 0x1000000 + b * 0x10000 + c * 0x100 + n))
    else none
  | _ => none

/-- The name of this machine. -/
def localHostName : List Char := "localhost".toList

/-- The network on which this machine talks to itself, by name and number. -/
def loopbackNetwork : List Char × UInt32 := ("lo".toList, 1)

/-- Whether an address is one of those that every network has for itself. -/
def IpAddress.isLinkLocal : IpAddress → Bool
  | v4 .. => false
  | v6 groups => groups[0] &&& 0xFFC0 = 0xFE80 || groups[0] &&& 0xFF0F = 0xFF02

/-- The scope that is written behind an address: its number, or the name of a network
if every network has the address. -/
def IpAddress.scope? (ip : IpAddress) (name : List Char) : Option UInt32 :=
  if ip.isLinkLocal ∧ name = loopbackNetwork.1 then some loopbackNetwork.2
  else readScope? name

/-- The address and the scope that a host stands for, as far as no name service is asked. -/
def resolveHost? (host : List Char) : Option (IpAddress × UInt32) :=
  if host.map Char.toLower = localHostName then some (.loopback, 0)
  else match splitPercent host with
    | (host, none) => ((IpAddress.ofText? host).or (readShortV4? host)).map (·, 0)
    | (host, some name) => do
      let ip := IpAddress.v6 (← readV6? host)
      return (ip, ← ip.scope? name)

/-- The address that a host and a port joined by a colon stand for. -/
def resolve? (target : List Char) : Option SocketAddress :=
  match SocketAddress.ofText? target with
  | some s => some s
  | none =>
    match target.reverse.dropWhile (· ≠ ':') with
    | [] => none
    | _ :: host => do
      let port ← readDecimal? true 65535 (target.reverse.takeWhile (· ≠ ':')).reverse
      let (ip, scope) ← resolveHost? host.reverse
      return { ip, port := UInt16.ofNat port, scope }

end TestTelemetry
