/-
Typed reading of JSON.

A decoder turns the shape of a text into a value of a type.  Faults are found in
the order of the text: a value of the wrong type is reported before a fault
further on, missing fields only at the end of their object.

A text is read either as a `stream`, where a part that is not understood is never
looked at again, or from a `buffer`, where the whole value is known to be well
formed.  The two differ in how they report an array that is too long; in a
`table`, where all was read before, such an array is no fault.

* `Decoder` — decoders of numbers, strings, lists and maps;
* `Record` — an object with known fields, or the array of their values;
* `tagged` — an object that names its own kind.
-/
import TestTelemetry.Json.Reader
import TestTelemetry.Data.OrderedMap

namespace TestTelemetry.Json

/-- Why a text is not the text of a value. -/
inductive DecodeError
  | malformed
  | missingField (name : String)
  | unknownVariant (name : String)
  | unknownField (name : String)
  | duplicateField (name : String)
  | invalidType
  | invalidValue
  | invalidLength
  | noMatch
deriving DecidableEq, Repr

/-- A name as a message shows it. -/
def DecodeError.shown (name : String) : String := "`" ++ name ++ "`"

/-- The wording of a fault. -/
def DecodeError.message : DecodeError → String
  | malformed => "<" ++ "syntax" ++ ">"
  | missingField name => "missing field " ++ shown name
  | unknownVariant name => "unknown variant " ++ shown name
  | unknownField name => "unknown field " ++ shown name
  | duplicateField name => "duplicate field " ++ shown name
  | invalidType => "invalid type"
  | invalidValue => "invalid value"
  | invalidLength => "invalid length"
  | noMatch => "data did not match"

/-- How a text is read. -/
inductive Source
  | stream
  | buffer
  | table
deriving DecidableEq

/-- A reader of values of a type. -/
abbrev Decoder (α : Type) := Source → Node → Except DecodeError α

/-- The deepest nesting of a value that is kept for later. -/
def maxDepth : Nat := 127

/-- The fault of a value of the wrong type; one that cannot be read at all is malformed. -/
def mismatch : Node → DecodeError
  | .broken => .malformed
  | .number raw => if (Decimal.number? raw).isSome then .invalidType else .malformed
  | .string raw => if (unescape raw).isSome then .invalidType else .malformed
  | _ => .invalidType

namespace Decoder

def bool : Decoder Bool := fun _ n =>
  match n with
  | .bool b => .ok b
  | n => .error (mismatch n)

def chars : Decoder (List Char) := fun _ n =>
  match n with
  | .string raw =>
    match unescape raw with
    | some cs => .ok cs
    | none => .error .malformed
  | n => .error (mismatch n)

def string : Decoder String := fun src n => (chars src n).map String.ofList

/-- A natural number of at most `max`. -/
def natUpTo (max : Nat) (raw : List Char) : Except DecodeError Nat :=
  match Decimal.number? raw with
  | some (.natural n) => if n ≤ max then .ok n else .error .invalidValue
  | some (.negative _) => .error .invalidValue
  | some (.real _) => .error .invalidType
  | none => .error .malformed

/-- A natural number below `2 ^ 16`. -/
def nat16 : Decoder Nat := fun _ n =>
  match n with
  | .number raw => natUpTo (UInt16.size - 1) raw
  | n => .error (mismatch n)

/-- A natural number below `2 ^ 64`. -/
def nat64 : Decoder Nat := fun _ n =>
  match n with
  | .number raw => natUpTo (UInt64.size - 1) raw
  | n => .error (mismatch n)

/-- A natural number below `2 ^ 32`. -/
def nat32 : Decoder Nat := fun _ n =>
  match n with
  | .number raw => natUpTo (UInt32.size - 1) raw
  | n => .error (mismatch n)

def uint64 : Decoder UInt64 := fun src n => (nat64 src n).map UInt64.ofNat

def uint32 : Decoder UInt32 := fun src n => (nat32 src n).map UInt32.ofNat

/-- A value that may be absent: `null` is none. -/
def optional {α : Type} (d : Decoder α) : Decoder (Option α) := fun src n =>
  match n with
  | .null => .ok none
  | n => (d src n).map some

def items {α : Type} (d : Decoder α) (src : Source) : List Node → Bool → Except DecodeError (List α)
  | [], closed => if closed then .ok [] else .error .malformed
  | n :: ns, closed =>
    match d src n with
    | .error e => .error e
    | .ok x => (items d src ns closed).map (x :: ·)

/-- A list. -/
def list {α : Type} (d : Decoder α) : Decoder (List α) := fun src n =>
  match n with
  | .array ns closed => items d src ns closed
  | n => .error (mismatch n)

/-- The bindings of a map, in the order of the text. -/
def bindings {κ α : Type} (key : Key → Except DecodeError κ) (d : Decoder α) (src : Source) :
    List (Key × Node) → Bool → Except DecodeError (List (κ × α))
  | [], closed => if closed then .ok [] else .error .malformed
  | (k, n) :: ms, closed =>
    match key k with
    | .error e => .error e
    | .ok k =>
      match d src n with
      | .error e => .error e
      | .ok x => (bindings key d src ms closed).map ((k, x) :: ·)

/-- A key that is a name. -/
def nameKey (k : Key) : Except DecodeError String :=
  match k.name? with
  | some name => .ok name
  | none => .error .malformed

/-- A key that is a natural number below `2 ^ 32` in quotes.  What follows the first
quote must begin a number, even where the text breaks off. -/
def nat32Key (k : Key) : Except DecodeError UInt32 :=
  match k.raw with
  | [] => .error .invalidValue
  | c :: _ =>
    if c.isDigit || c = '-' then
      match Decimal.scan k.raw with
      | none => .error .malformed
      | some (numeral, rest) =>
        match natUpTo (UInt32.size - 1) numeral with
        | .error e => .error e
        | .ok n => if rest = [] ∧ k.closed then .ok (UInt32.ofNat n) else .error .malformed
    else .error .invalidValue

/-- A map; the last of several bindings of one key counts. -/
def map {κ α : Type} [Ord κ] [Std.TransOrd κ] [Std.LawfulEqOrd κ]
    (key : Key → Except DecodeError κ) (d : Decoder α) : Decoder (OrderedMap κ α) :=
  fun src n =>
    match n with
    | .object ms closed => (bindings key d src ms closed).map OrderedMap.ofList
    | n => .error (mismatch n)

/-- One of several names.  In a stream an object with the name as its only key and
`null` as its value is another way to write it. -/
def variant {α : Type} (ofName : String → Option α) : Decoder α := fun _ n =>
  let named (name : String) : Except DecodeError α :=
    match ofName name with
    | some x => .ok x
    | none => .error (.unknownVariant name)
  match n with
  | .string raw =>
    match unescape raw with
    | some cs => named (String.ofList cs)
    | none => .error .malformed
  | .object ((k, v) :: ms) closed =>
    match nameKey k with
    | .error e => .error e
    | .ok name =>
      match named name with
      | .error e => .error e
      | .ok x =>
        match v with
        | .null => if ms.isEmpty ∧ closed then .ok x else .error .malformed
        | v => .error (mismatch v)
  | _ => .error .malformed

end Decoder

/-- One field of a record: how its value is read and what it is when it is not written,
in an object and in an array. -/
structure Field (α : Type) where
  name : String
  decode : Decoder α
  absent : Option α
  absentItem : Option α

/-- The fields of a record and the value they make. -/
structure Record (α : Type) where
  /-- The values read so far. -/
  Slots : Type
  empty : Slots
  /-- Read the value of a field; `none` if there is no field of that name. -/
  put : Source → String → Node → Slots → Option (Except DecodeError Slots)
  finish : Slots → Except DecodeError α
  /-- Read the fields from the values of an array, and leave the rest. -/
  ofItems : Source → List Node → Bool → Except DecodeError (α × List Node)

namespace Record

protected def pure {α : Type} (x : α) : Record α where
  Slots := Unit
  empty := ()
  put _ _ _ _ := none
  finish _ := .ok x
  ofItems _ ns _ := .ok (x, ns)

protected def seq {α β : Type} (f : Record (α → β)) (x : Record α) : Record β where
  Slots := f.Slots × x.Slots
  empty := (f.empty, x.empty)
  put src name n s :=
    match f.put src name n s.1 with
    | some r => some (r.map (·, s.2))
    | none => (x.put src name n s.2).map fun r => r.map (s.1, ·)
  finish s :=
    match f.finish s.1 with
    | .error e => .error e
    | .ok g => (x.finish s.2).map g
  ofItems src ns closed :=
    match f.ofItems src ns closed with
    | .error e => .error e
    | .ok (g, ns) => (x.ofItems src ns closed).map fun r => (g r.1, r.2)

/-- The record with one field. -/
def ofField {α : Type} (f : Field α) : Record α where
  Slots := Option α
  empty := none
  put src name n s :=
    if name = f.name then
      some <| match s with
        | some _ => .error (.duplicateField name)
        | none => (f.decode src n).map some
    else none
  finish s :=
    match s, f.absent with
    | some x, _ => .ok x
    | none, some x => .ok x
    | none, none => .error (.missingField f.name)
  ofItems src ns closed :=
    match ns, f.absentItem with
    | n :: ns, _ => (f.decode src n).map (·, ns)
    | [], some x => if closed then .ok (x, []) else .error .malformed
    | [], none => if closed then .error .invalidLength else .error .malformed

instance : Applicative Record where
  pure := Record.pure
  seq f x := Record.seq f (x ())

/-- A field that must be written. -/
def required {α : Type} (name : String) (d : Decoder α) : Record α :=
  ofField ⟨name, d, none, none⟩

/-- A field that may be left out or `null`. -/
def optional {α : Type} (name : String) (d : Decoder α) : Record (Option α) :=
  ofField ⟨name, d.optional, some none, some none⟩

/-- A field that may be `null`, and left out of an object but not of an array. -/
def nullable {α : Type} (name : String) (d : Decoder α) : Record (Option α) :=
  ofField ⟨name, d.optional, some none, none⟩

/-- A field that may be left out. -/
def withDefault {α : Type} (name : String) (d : Decoder α) (x : α) : Record α :=
  ofField ⟨name, d, some x, some x⟩

/-- What a record does with a member that is no field: the fault, if it is one. -/
abbrev Stray := String → Node → Option DecodeError

/-- A member that is no field need only be well formed. -/
def passOver : Stray := fun _ n => if n.skippable then none else some .malformed

/-- Only fields may be written. -/
def refuse : Stray := fun name _ => some (.unknownField name)

/-- Read the members of an object. -/
def readMembers {α : Type} (r : Record α) (stray : Stray) (src : Source) :
    List (Key × Node) → r.Slots → Except DecodeError r.Slots
  | [], s => .ok s
  | (k, n) :: ms, s =>
    match Decoder.nameKey k with
    | .error e => .error e
    | .ok name =>
      match r.put src name n s with
      | some (.error e) => .error e
      | some (.ok s) => r.readMembers stray src ms s
      | none =>
        match stray name n with
        | some e => .error e
        | none => r.readMembers stray src ms s

/-- What is reported for an array with more values than there are fields. -/
def surplus : Source → Option DecodeError
  | .stream => some .malformed
  | .buffer => some .invalidLength
  | .table => none

/-- A record, written as an object or as the array of its fields. -/
def decoderWith {α : Type} (stray : Stray) (r : Record α) : Decoder α := fun src n =>
  match n with
  | .object ms closed =>
    match r.readMembers stray src ms r.empty with
    | .error e => .error e
    | .ok s => if closed then r.finish s else .error .malformed
  | .array ns closed =>
    match r.ofItems src ns closed with
    | .error e => .error e
    | .ok (x, rest) =>
      match (if rest.isEmpty then none else surplus src) with
      | some e => .error e
      | none => if closed then .ok x else .error .malformed
  | n => .error (mismatch n)

/-- A record among whose members those that are no fields are skipped. -/
def decoder {α : Type} (r : Record α) : Decoder α := r.decoderWith passOver

/-- A record that has no members but its fields. -/
def strictDecoder {α : Type} (r : Record α) : Decoder α := r.decoderWith refuse

end Record

/-- The kind that a tag names. -/
def tagValue {α : Type} (kinds : String → Option α) (n : Node) : Except DecodeError α :=
  match Decoder.string .stream n with
  | .error e => .error e
  | .ok name =>
    match kinds name with
    | some d => .ok d
    | none => .error (.unknownVariant name)

/-- Split the tag of an object off from its other members, which are kept for later. -/
def splitTag {α : Type} (tag : String) (kinds : String → Option α) :
    List (Key × Node) → Option α → Except DecodeError (Option α × List (Key × Node))
  | [], found => .ok (found, [])
  | (k, n) :: ms, found =>
    match Decoder.nameKey k with
    | .error e => .error e
    | .ok name =>
      if name = tag then
        match found with
        | some _ => .error (.duplicateField tag)
        | none =>
          match tagValue kinds n with
          | .error e => .error e
          | .ok d => splitTag tag kinds ms (some d)
      else if n.sound (maxDepth - 1) then
        (splitTag tag kinds ms found).map fun r => (r.1, (k, n) :: r.2)
      else .error .malformed

/-- A value that names its kind: an object with a tag among its members, or an array
that begins with the tag. -/
def tagged {α : Type} (tag : String) (kinds : String → Option (Decoder α)) : Decoder α :=
  fun _ n =>
    match n with
    | .object ms closed =>
      match splitTag tag kinds ms none with
      | .error e => .error e
      | .ok (found, rest) =>
        if !closed then .error .malformed
        else match found with
          | none => .error (.missingField tag)
          | some d => d .buffer (.object rest true)
    | .array [] closed => .error (if closed then .missingField tag else .malformed)
    | .array (n :: ns) closed =>
      match tagValue kinds n with
      | .error e => .error e
      | .ok d =>
        if closed && Node.soundItems (maxDepth - 1) ns then d .buffer (.array ns true)
        else .error .malformed
    | n => .error (mismatch n)

/-- Read a whole document. -/
def Document.decode {α : Type} (d : Decoder α) (doc : Document) : Except DecodeError α :=
  match d .stream doc.root with
  | .error e => .error e
  | .ok x => if doc.trailing then .error .malformed else .ok x

/-- Read a text that is one value. -/
def decodeText {α : Type} (d : Decoder α) (cs : List Char) : Except DecodeError α :=
  (Document.read cs).decode d

end TestTelemetry.Json
