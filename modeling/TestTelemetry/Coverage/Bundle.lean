/-
Coverage resolved against the analyses of the classes.

Every analysed class counts towards the totals; the instructions of the probes
that were hit count as covered.  Hits are used only when there are as many of
them as the class has probes.

* `ClassCoverage.ofAnalysis` — the counters of one class and of its lines;
* `CoverageBundle.ofClasses` — the counters of a list of classes;
* `buildBundle` — the bundle of a record and some output folders;
* `percentage` — the share of covered instructions.
-/
import TestTelemetry.Coverage.Store
import TestTelemetry.Coverage.Analysis

namespace TestTelemetry

/-- How many of how many are covered. -/
structure Counter where
  covered : Nat
  total : Nat
deriving DecidableEq, Repr

namespace Counter

def zero : Counter := ⟨0, 0⟩

instance : Inhabited Counter := ⟨zero⟩

def add (a b : Counter) : Counter := ⟨a.covered + b.covered, a.total + b.total⟩

def sum (l : List Counter) : Counter := l.foldl add zero

def toJson (c : Counter) : Json := .obj [("covered", .int c.covered), ("total", .int c.total)]

def record : Json.Record Counter :=
  Counter.mk <$> Json.Record.required "covered" Json.Decoder.nat64
    <*> Json.Record.required "total" Json.Decoder.nat64

def decoder : Json.Decoder Counter := record.decoder

end Counter

/-- The counters of a class. -/
structure ClassCoverage where
  name : String
  sourceFile : Option String
  instructions : Counter
  /-- The instruction counter of each line. -/
  lines : OrderedMap UInt32 Counter
deriving DecidableEq

namespace ClassCoverage

/-- What a probe adds to the counters. -/
def probeCounter (p : ProbeInfo) (hit : Bool) : Counter :=
  ⟨if hit then p.instructions.toNat else 0, p.instructions.toNat⟩

/-- The probes of a class with their hits; a probe without a hit of its own was not hit. -/
def pairHits : List ProbeInfo → List Bool → List (ProbeInfo × Bool)
  | [], _ => []
  | p :: ps, [] => (p, false) :: pairHits ps []
  | p :: ps, h :: hs => (p, h) :: pairHits ps hs

/-- Add to the counter of a line. -/
def addToLine (lines : OrderedMap UInt32 Counter) (p : ProbeInfo × Bool) :
    OrderedMap UInt32 Counter :=
  lines.insert p.1.line
    (((lines.find? p.1.line).getD .zero).add (probeCounter p.1 p.2))

/-- The counters of an analysed class. -/
def ofAnalysis (a : ClassAnalysis) (hits : Option (List Bool)) : ClassCoverage :=
  let probes := pairHits a.probes (hits.getD [])
  { name := a.name
    sourceFile := a.sourceFile
    instructions := .sum (probes.map fun p => probeCounter p.1 p.2)
    lines := probes.foldl addToLine .empty }

/-- How many lines have a covered instruction. -/
def lineCounter (c : ClassCoverage) : Counter :=
  ⟨c.lines.values.countP (fun l => l.covered > 0), c.lines.size⟩

def lineToJson (c : Counter) : Json := .obj [("instructions", c.toJson)]

def lineRecord : Json.Record Counter := Json.Record.required "instructions" Counter.decoder

def toJson (c : ClassCoverage) : Json :=
  .obj [("name", .str c.name), ("source_file", Json.ofOption .str c.sourceFile),
    ("instructions", c.instructions.toJson),
    ("lines", .obj (c.lines.entries.map fun e => (toString e.1.toNat, lineToJson e.2)))]

def record : Json.Record ClassCoverage :=
  ClassCoverage.mk <$> Json.Record.required "name" Json.Decoder.string
    <*> Json.Record.nullable "source_file" Json.Decoder.string
    <*> Json.Record.required "instructions" Counter.decoder
    <*> Json.Record.required "lines" (Json.Decoder.map Json.Decoder.nat32Key lineRecord.decoder)

def decoder : Json.Decoder ClassCoverage := record.decoder

end ClassCoverage

/-- The coverage of a list of classes. -/
structure CoverageBundle where
  name : String
  classes : List ClassCoverage
  instructions : Counter
  lines : Counter
deriving DecidableEq

namespace CoverageBundle

/-- The bundle of some classes, with their counters added up. -/
def ofClasses (name : String) (classes : List ClassCoverage) : CoverageBundle :=
  { name, classes
    instructions := .sum (classes.map (·.instructions))
    lines := .sum (classes.map (·.lineCounter)) }

def toJson (b : CoverageBundle) : Json :=
  .obj [("name", .str b.name), ("classes", .arr (b.classes.map ClassCoverage.toJson)),
    ("instructions", b.instructions.toJson), ("lines", b.lines.toJson)]

def record : Json.Record CoverageBundle :=
  CoverageBundle.mk <$> Json.Record.required "name" Json.Decoder.string
    <*> Json.Record.required "classes" ClassCoverage.decoder.list
    <*> Json.Record.required "instructions" Counter.decoder
    <*> Json.Record.required "lines" Counter.decoder

def decoder : Json.Decoder CoverageBundle := record.decoder

end CoverageBundle

/-- A count as a floating number. -/
def countToFloat (n : Nat) : Float := (UInt64.ofNat n).toFloat

/-- The covered share in percent, rounded, a half upwards; none of nothing. -/
def Counter.percentage (c : Counter) : Option Nat :=
  if c.total = 0 then none
  else some (100.0 * countToFloat c.covered / countToFloat c.total).round.toUInt64.toNat

/-- The covered share of a bundle's instructions. -/
def CoverageBundle.percentage (b : CoverageBundle) : Option Nat := b.instructions.percentage

/-- The hits that a record holds for an analysed class, if there are as many as probes. -/
def usableHits (store : CoverageStore) (a : ClassAnalysis) : Option (List Bool) :=
  match store.get a.id with
  | some c => if c.probes.length = a.probes.length then some c.probes else none
  | none => none

/-- The name of the bundle of a whole session. -/
def bundleName : String := "aggregated"

/-- The bundle of a record over the classes below some folders; none without folders or
without an executed class. -/
def buildBundle (t : FileTree) (store : CoverageStore) (dirs : List Path) :
    Except CoverageError (Option CoverageBundle) :=
  if dirs = [] ∨ store.isEmpty then .ok none
  else
    match loadAnalyses t dirs with
    | .error e => .error e
    | .ok analyses =>
      .ok (some (.ofClasses bundleName
        (analyses.map fun a => .ofAnalysis a (usableHits store a))))

end TestTelemetry
