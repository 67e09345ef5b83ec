/-
Tags of sessions, modules, suites and tests.

Tags are written to a log.  Of several values of one key the last counts; once
the log is closed, nothing is written any more.

* `TagValue` — a truth value, an integer of 64 bits, a floating number or a text;
* `TagLog` — the log; `get` looks from its end, `snapshot` collects it from its
  beginning.
-/
import TestTelemetry.Outcome.Status

namespace TestTelemetry

/-- The value of a tag. -/
inductive TagValue
  | bool (b : Bool)
  | int (n : Int)
  | float (x : Float)
  | str (s : String)
deriving Inhabited

namespace TagValue

/-- The largest integer that a tag holds. -/
def intMax : Nat := 9223372036854775807

/-- A count as a tag; counts that are too large become the largest integer. -/
def count (n : Nat) : TagValue := .int (min n intMax)

def toJson : TagValue → Json
  | bool b => .bool b
  | int n => .int n
  | float x => .float x
  | str s => .str s

/-- The value of a numeral: an integer of 64 bits if it is one, else a floating number. -/
def ofNumber : Decimal.Number → TagValue
  | .natural n => if n ≤ intMax then .int n else .float (UInt64.ofNat n).toFloat
  | .negative n => .int (-n)
  | .real x => .float x

/-- A tag is read from a buffer: the kinds are tried one after the other. -/
def decoder : Json.Decoder TagValue := fun _ n =>
  if n.sound Json.maxDepth then
    match n with
    | .bool b => .ok (.bool b)
    | .number raw =>
      match Decimal.number? raw with
      | some x => .ok (ofNumber x)
      | none => .error .malformed
    | .string raw =>
      match Json.unescape raw with
      | some cs => .ok (.str (String.ofList cs))
      | none => .error .malformed
    | _ => .error .noMatch
  else .error .malformed

end TagValue

/-- The tags of one owner in the order in which they were written. -/
structure TagLog where
  entries : List (String × TagValue)
  closed : Bool

namespace TagLog

def empty : TagLog := ⟨[], false⟩

instance : Inhabited TagLog := ⟨empty⟩

/-- Write a tag, unless the log is closed. -/
def set (l : TagLog) (key : String) (value : TagValue) : TagLog :=
  if l.closed then l else { l with entries := l.entries ++ [(key, value)] }

/-- Whether a write is taken. -/
def accepts (l : TagLog) : Bool := !l.closed

/-- The value written last for a key. -/
def get (l : TagLog) (key : String) : Option TagValue :=
  (l.entries.reverse.find? (fun e => e.1 = key)).map (·.2)

/-- The final value of every key. -/
def snapshot (l : TagLog) : OrderedMap String TagValue := OrderedMap.ofList l.entries

def close (l : TagLog) : TagLog := { l with closed := true }

/-- Write several tags one after the other. -/
def setAll (l : TagLog) (tags : List (String × TagValue)) : TagLog :=
  tags.foldl (fun l t => l.set t.1 t.2) l

/-- The two readers agree. -/
theorem find?_snapshot (l : TagLog) (key : String) : l.snapshot.find? key = l.get key := by
  rw [snapshot, OrderedMap.find?_ofList, get]

/-- The final values as an object. -/
def toJson (l : TagLog) : Json :=
  .obj (l.snapshot.entries.map fun e => (e.1, e.2.toJson))

end TagLog

/-! ### Names of tags -/

namespace Tag

def command := "test.command"
def module := "test.module"
def suite := "test.suite"
def name := "test.name"
def status := "test.status"
def skipReason := "test.skip_reason"
def parameters := "test.parameters"
def isNew := "test.is_new"
def errorType := "error.type"
def errorMessage := "error.message"
def coverageEnabled := "test.code_coverage.enabled"
def coverageLinesPct := "test.code_coverage.lines_pct"
def skippingEnabled := "test.itr.tests_skipping.enabled"
def skippingType := "test.itr.tests_skipping.type"
def skippingCount := "test.itr.tests_skipping.count"
def testsSkipped := "test.itr.tests_skipped"
def earlyFlakeEnabled := "test.early_flake.enabled"
def earlyFlakeAbortReason := "test.early_flake.abort_reason"

/-- The reason given for a test that the settings allow to skip. -/
def skippedByImpact := "Skipped by test impact analysis"

end Tag

/-- The tags that describe a failure: its kind, if it has one, and its message. -/
def Failure.tags (f : Failure) : List (String × TagValue) :=
  (f.kind.toList.map fun k => (Tag.errorType, .str k)) ++ [(Tag.errorMessage, .str f.message)]

end TestTelemetry
