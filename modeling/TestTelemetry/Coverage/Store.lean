/-
Coverage records and their union.

A record holds, for each executed class, which of its probes were hit.  A probe
that was hit stays hit.  Data of a class that disagrees with what is stored on
the class's name or on the number of its probes is left out.

* `CoverageStore.put` — record the hits of one class;
* `CoverageStore.merge` — the union of two records, the first of which decides
  names and probe counts;
* `CoverageStore.get_put` — what a record holds after a write.
-/
import TestTelemetry.Settings.Codec

namespace TestTelemetry

/-- The name of a class and which of its probes were hit. -/
structure ClassHits where
  name : String
  probes : List Bool
deriving DecidableEq, Repr

/-- The hits of the class with an identifier. -/
structure ExecutionData where
  id : UInt64
  name : String
  probes : List Bool
deriving DecidableEq, Repr

namespace ClassHits

/-- Whether two sets of hits are of the same class: same name, as many probes. -/
def compatible (a b : ClassHits) : Bool := a.name = b.name ∧ a.probes.length = b.probes.length

/-- The union of the hits of one class. -/
def union (a b : ClassHits) : ClassHits :=
  { a with probes := List.zipWith (· || ·) a.probes b.probes }

def hasHits (c : ClassHits) : Bool := c.probes.any id

end ClassHits

namespace ExecutionData

def hits (d : ExecutionData) : ClassHits := ⟨d.name, d.probes⟩

def toJson (d : ExecutionData) : Json :=
  .obj [("id", .nat d.id.toNat), ("name", .str d.name), ("probes", .arr (d.probes.map .bool))]

def record : Json.Record ExecutionData :=
  ExecutionData.mk <$> Json.Record.required "id" Json.Decoder.uint64
    <*> Json.Record.required "name" Json.Decoder.string
    <*> Json.Record.required "probes" Json.Decoder.bool.list

def decoder : Json.Decoder ExecutionData := record.decoder

end ExecutionData

/-- The hits of all executed classes. -/
structure CoverageStore where
  classes : OrderedMap UInt64 ClassHits
deriving DecidableEq

namespace CoverageStore

def empty : CoverageStore := ⟨.empty⟩

instance : Inhabited CoverageStore := ⟨empty⟩

def get (s : CoverageStore) (id : UInt64) : Option ClassHits := s.classes.find? id

def isEmpty (s : CoverageStore) : Bool := s.classes.isEmpty

def size (s : CoverageStore) : Nat := s.classes.size

/-- Whether data of a class fits what is stored of it. -/
def accepts (s : CoverageStore) (d : ExecutionData) : Bool :=
  match s.get d.id with
  | none => true
  | some c => c.compatible d.hits

/-- Record the hits of a class; data that does not fit is left out. -/
def put (s : CoverageStore) (d : ExecutionData) : CoverageStore :=
  match s.get d.id with
  | none => ⟨s.classes.insert d.id d.hits⟩
  | some c => if c.compatible d.hits then ⟨s.classes.insert d.id (c.union d.hits)⟩ else s

/-- What is held of a class when its data comes to what was held before. -/
def combine (held : Option ClassHits) (c : ClassHits) : ClassHits :=
  match held with
  | none => c
  | some h => if h.compatible c then h.union c else h

/-- After a write the class holds the union; every other class is as before. -/
theorem get_put (s : CoverageStore) (d : ExecutionData) (id : UInt64) :
    (s.put d).get id = if d.id = id then some (combine (s.get id) d.hits) else s.get id := by
  simp only [put]
  split
  case h_1 h =>
    simp only [get, OrderedMap.find?_insert] at h ⊢
    by_cases hid : d.id = id
    · subst hid; simp [h, combine]
    · simp [hid]
  case h_2 c h =>
    by_cases hc : c.compatible d.hits
    · simp only [hc, if_true, get, OrderedMap.find?_insert] at h ⊢
      by_cases hid : d.id = id
      · subst hid; simp [h, combine, hc]
      · simp [hid]
    · by_cases hid : d.id = id
      · subst hid; simp [hc, h, combine]
      · simp [hc, hid]

/-- The classes in ascending order of their identifiers. -/
def toList (s : CoverageStore) : List ExecutionData :=
  s.classes.entries.map fun e => ⟨e.1, e.2.name, e.2.probes⟩

/-- Record a list of data one after the other. -/
def putAll (s : CoverageStore) (l : List ExecutionData) : CoverageStore := l.foldl put s

def ofList (l : List ExecutionData) : CoverageStore := empty.putAll l

/-- The union of two records. -/
def merge (s t : CoverageStore) : CoverageStore := s.putAll t.toList

/-- How many classes of the second record do not fit the first. -/
def conflicts (s t : CoverageStore) : Nat := (t.toList.filter fun d => !s.accepts d).length

/-- How many probes were hit. -/
def hitProbes (s : CoverageStore) : Nat :=
  s.classes.values.foldr (fun c n => c.probes.countP id + n) 0

def toJson (s : CoverageStore) : Json := .arr (s.toList.map ExecutionData.toJson)

def decoder : Json.Decoder CoverageStore := fun src n =>
  (ExecutionData.decoder.list src n).map ofList

end CoverageStore

end TestTelemetry
