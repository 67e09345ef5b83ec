/-
The active modules of a session.

A module is active from when it is registered until a result arrives for it.  Of
one name at most one module is active; a name can be used again later, and then a
result counts only if it carries the number of the module that is active now.

* `Registry.add` — makes a module active;
* `Registry.onResult` — a result arrives;
* `Registry.active` — the active modules in the order of their numbers.
-/
import TestTelemetry.Lifecycle.Run
import TestTelemetry.Data.Keyed

namespace TestTelemetry

/-- Why a module cannot be registered. -/
inductive RegistryError
  | alreadyActive (name : String) (id : UInt64)
deriving DecidableEq, Repr

def RegistryError.message : RegistryError → String
  | alreadyActive name id =>
    "module '" ++ name ++ "' is already active (id " ++ toString id.toNat ++ ")"

/-- All modules that were started, and for each name its active one by its place among them. -/
structure Registry where
  run : Run
  places : Keyed String Nat

namespace Registry

def empty : Registry := ⟨.empty, .empty⟩

instance : Inhabited Registry := ⟨empty⟩

/-- The module at a place. -/
def moduleAt? (r : Registry) (place : Nat) : Option ModuleRun := r.run.modules[place]?

/-- Place and module that are active under a name. -/
def find? (r : Registry) (name : String) : Option (Nat × ModuleRun) :=
  (r.places.find? name).bind fun place => (r.moduleAt? place).map (place, ·)

/-- Why a name cannot be used for another module, if it cannot. -/
def conflict? (r : Registry) (name : String) : Option RegistryError :=
  (r.find? name).map fun m => .alreadyActive name m.2.descriptor.id

/-- Make the module at a place active. -/
def add (r : Registry) (place : Nat) : Except RegistryError Registry :=
  match r.moduleAt? place with
  | none => .ok r
  | some m =>
    match r.conflict? m.name with
    | some e => .error e
    | none => .ok { r with places := r.places.set m.name place }

/-- The place of the module that a result belongs to: the active one of its name, if it
has the number that the result carries. -/
def owner? (r : Registry) (result : ModuleResult) : Option Nat :=
  match r.find? result.moduleName with
  | some (place, m) => if m.descriptor.id = result.moduleId then some place else none
  | none => none

/-- A result arrives: the module that it belongs to ends with it and is active no more. -/
def onResult (r : Registry) (result : ModuleResult) : Bool × Registry :=
  match r.owner? result with
  | none => (false, r)
  | some place =>
    (true, ⟨r.run.endModuleWith place result, r.places.erase result.moduleName⟩)

/-- The active modules with their places, in the order of their numbers. -/
def active (r : Registry) : List (Nat × ModuleRun) :=
  (r.places.values.filterMap fun place => (r.moduleAt? place).map (place, ·)).mergeSort
    fun m n => m.2.descriptor.id ≤ n.2.descriptor.id

def size (r : Registry) : Nat := r.places.size

def isEmpty (r : Registry) : Bool := r.places.isEmpty

end Registry

end TestTelemetry
