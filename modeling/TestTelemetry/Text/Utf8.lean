/-
Text from bytes.

Bytes are read one at a time.  A piece of the input that is no well-formed
UTF-8 gives one `none`: the longest beginning of a code point, or a single byte
that cannot begin one.  Strict reading wants no such piece, lossy reading
writes U+FFFD for each.

Main statement: `decode?_eq_some_iff` — strict reading succeeds exactly when
lossy reading replaces nothing.
-/

namespace TestTelemetry.Text

/-- A code point whose last bytes have not been read: how many are missing, the
value so far, and the range that the next byte must lie in. -/
structure Pending where
  missing : Nat
  value : Nat
  low : UInt8
  high : UInt8

/-- What a byte begins when no code point is pending. -/
def startByte (b : UInt8) : List (Option Char) × Option Pending :=
  if b < 0x80 then ([some (Char.ofNat b.toNat)], none)
  else if 0xC2 ≤ b && b ≤ 0xDF then ([], some ⟨1, b.toNat - 0xC0, 0x80, 0xBF⟩)
  else if b = 0xE0 then ([], some ⟨2, 0, 0xA0, 0xBF⟩)
  else if b = 0xED then ([], some ⟨2, 0xD, 0x80, 0x9F⟩)
  else if 0xE1 ≤ b && b ≤ 0xEF then ([], some ⟨2, b.toNat - 0xE0, 0x80, 0xBF⟩)
  else if b = 0xF0 then ([], some ⟨3, 0, 0x90, 0xBF⟩)
  else if 0xF1 ≤ b && b ≤ 0xF3 then ([], some ⟨3, b.toNat - 0xF0, 0x80, 0xBF⟩)
  else if b = 0xF4 then ([], some ⟨3, 4, 0x80, 0x8F⟩)
  else ([none], none)

/-- Read one byte: the characters and ill-formed pieces that end with it, and
the code point that is then pending. -/
def readByte (p : Option Pending) (b : UInt8) : List (Option Char) × Option Pending :=
  match p with
  | none => startByte b
  | some p =>
    if p.low ≤ b && b ≤ p.high then
      let value := p.value * 64 + (b.toNat - 0x80)
      match p.missing with
      | 0 | 1 => ([some (Char.ofNat value)], none)
      | n + 2 => ([], some ⟨n + 1, value, 0x80, 0xBF⟩)
    else
      let (out, next) := startByte b
      (none :: out, next)

/-- The characters of a byte sequence, with `none` for each ill-formed piece. -/
def decodePieces (p : Option Pending) : List UInt8 → List (Option Char)
  | [] => if p.isSome then [none] else []
  | b :: bs =>
    let (out, next) := readByte p b
    out ++ decodePieces next bs

/-- Strict reading. -/
def decode? (bytes : List UInt8) : Option (List Char) :=
  let pieces := decodePieces none bytes
  if pieces.all Option.isSome then some (pieces.filterMap id) else none

/-- Lossy reading: U+FFFD stands for each ill-formed piece. -/
def decodeLossy (bytes : List UInt8) : List Char :=
  (decodePieces none bytes).map (·.getD '\uFFFD')

theorem eq_map_some_of_all {α : Type} {l : List (Option α)} (h : l.all Option.isSome) :
    l = (l.filterMap id).map some := by
  induction l with
  | nil => rfl
  | cons x l ih =>
    cases x with
    | none => simp at h
    | some x =>
      simp only [List.all_cons, Option.isSome_some, Bool.true_and] at h
      simpa using ih h

/-- Strict reading succeeds exactly when no piece is ill-formed. -/
theorem decode?_eq_some_iff {bytes : List UInt8} {cs : List Char} :
    decode? bytes = some cs ↔ decodePieces none bytes = cs.map some := by
  simp only [decode?]
  split
  case isTrue h =>
    constructor
    · intro e
      cases e
      exact eq_map_some_of_all h
    · intro e
      simp [e]
  case isFalse h =>
    constructor
    · intro e; cases e
    · intro e; simp [e] at h

theorem decodeLossy_of_decode? {bytes : List UInt8} {cs : List Char}
    (h : decode? bytes = some cs) : decodeLossy bytes = cs := by
  rw [decode?_eq_some_iff] at h
  simp [decodeLossy, h, Function.comp_def]

/-- The bytes of a string. -/
def encode (s : String) : List UInt8 := s.toByteArray.toList

end TestTelemetry.Text
