/-
What comes to a session from outside.

A session gets a name that no other session has, made from random bytes, the
instant at which it starts, and an address for its server.

* `ownAddress?` — the address that a server gets;
* `sessionName` — the name made from sixteen bytes;
* `instantText` — an instant in the calendar, in universal time.
-/
import TestTelemetry.Network.Address

namespace TestTelemetry.CommandLine

/-- The name of the session, when it started, and the address that its server gets. -/
structure Circumstances where
  id : String
  startedAt : String
  granted : SocketAddress → Option SocketAddress
  /-- Whether workers reach that server. -/
  reachable : Bool

/-! ### Addresses -/

/-- A port that is free. -/
def freePort : UInt16 := 49152

/-- The address that a server gets.  It listens only at an address of its machine, and at a port
that is free if it did not ask for one. -/
def ownAddress? (a : SocketAddress) : Option SocketAddress :=
  if !a.ip.isOwn then none else some (if a.port = 0 then { a with port := freePort } else a)

/-! ### Names -/

/-- A byte in two hexadecimal digits. -/
def byteText (b : UInt8) : List Char :=
  [Json.hexDigit (b.toNat / 16), Json.hexDigit (b.toNat % 16)]

/-- Bytes whose marks say that they are random, in groups of four, two, two, two and six. -/
def sessionName (bytes : List UInt8) : String :=
  let marked := bytes.mapIdx fun i b =>
    if i = 6 then b &&& 0x0F ||| 0x40 else if i = 8 then b &&& 0x3F ||| 0x80 else b
  let group (start length : Nat) : List Char := ((marked.drop start).take length).flatMap byteText
  String.ofList (joinWith '-' [group 0 4, group 4 2, group 6 2, group 8 2, group 10 6])

/-! ### Instants -/

/-- A number in as many digits. -/
def padded (width n : Nat) : List Char :=
  let ds := Nat.toDigits 10 n
  List.replicate (width - ds.length) '0' ++ ds

/-- Year, month and day of a day counted from the first one of the year 1970.  Years are
counted from March, so that a leap day is the last of its year. -/
def calendarDay (days : Nat) : Nat × Nat × Nat :=
  let shifted := days + 719468
  let cycle := shifted / 146097
  let day := shifted % 146097
  let year := (day - day / 1460 + day / 36524 - day / 146096) / 365
  let dayOfYear := day - (365 * year + year / 4 - year / 100)
  let month := (5 * dayOfYear + 2) / 153
  let dayOfMonth := dayOfYear - (153 * month + 2) / 5 + 1
  if month < 10 then (cycle * 400 + year, month + 3, dayOfMonth)
  else (cycle * 400 + year + 1, month - 9, dayOfMonth)

/-- A fraction of a second in as many groups of three digits as it needs. -/
def fractionText (nanoseconds : Nat) : List Char :=
  if nanoseconds = 0 then []
  else if nanoseconds % 1000000 = 0 then '.' :: padded 3 (nanoseconds / 1000000)
  else if nanoseconds % 1000 = 0 then '.' :: padded 6 (nanoseconds / 1000)
  else '.' :: padded 9 nanoseconds

/-- An instant, given by the nanoseconds since the year 1970 began. -/
def instantText (nanoseconds : Nat) : String :=
  let seconds := nanoseconds / 1000000000
  let (year, month, day) := calendarDay (seconds / 86400)
  let date := joinWith '-' [padded 4 year, padded 2 month, padded 2 day]
  let time := joinWith ':'
    [padded 2 (seconds / 3600 % 24), padded 2 (seconds / 60 % 60), padded 2 (seconds % 60)]
  String.ofList (date ++ 'T' :: time ++ fractionText (nanoseconds % 1000000000) ++ ['Z'])

/-- The name of a session made of bytes that are all zero shows only the marks. -/
example : sessionName (List.replicate 16 0) = "00000000-0000-4000-8000-000000000000" := by
  decide +kernel

/-- A leap day, and a fraction that needs two groups. -/
example : instantText 951827696000007000 = "2000-02-29T12:34:56.000007Z" := by
  decide +kernel

end TestTelemetry.CommandLine
