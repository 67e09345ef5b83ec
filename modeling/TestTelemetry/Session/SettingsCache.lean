/-
Settings that are computed once.

The settings of a runtime are computed when they are first asked for.  A
computation that fails leaves nothing behind, and the next who asks starts it
anew.

* `SettingsProvider` — what computes settings;
* `SettingsCache.get` — the settings of a runtime;
* `SettingsCache.moduleSettings` — the same as one module gets them.
-/
import TestTelemetry.Session.Attempt
import TestTelemetry.Settings.Codec
import TestTelemetry.Files.Tree
import TestTelemetry.Data.Keyed
import TestTelemetry.Text.Quoted

namespace TestTelemetry

/-- What computes settings.  Its answer may depend on how often it was asked before and on
the files that are there. -/
abbrev SettingsProvider := Nat → FileTree → WorkerIdentity → Attempt ExecutionSettings

namespace SettingsProvider

/-- The same settings for all. -/
def always (s : ExecutionSettings) : SettingsProvider := fun _ _ _ => .done s

def readingMessage (path : Path) : String := "reading settings file " ++ path.display

def parsingMessage (path : Path) : String := "parsing settings file " ++ path.display

/-- The settings that a file holds, read anew each time. -/
def ofFile (path : Path) : SettingsProvider := fun _ t _ =>
  match t.read? path with
  | none => .failed [readingMessage path]
  | some content =>
    match (Json.Document.readBytes content).decode ExecutionSettings.decoder with
    | .ok s => .done s
    | .error e => .failed [parsingMessage path, e.message]

/-- Answers given one after the other; the last one is given again and again. -/
def ofScript (answers : List (Attempt ExecutionSettings)) : SettingsProvider := fun calls _ _ =>
  (answers[min calls (answers.length - 1)]?).getD (.done .initial)

end SettingsProvider

/-- The settings computed so far.  A runtime that was asked for without success has an
entry without settings. -/
structure SettingsCache where
  slots : Keyed WorkerIdentity (Option ExecutionSettings)
  /-- How often the provider was asked. -/
  calls : Nat

namespace SettingsCache

def empty : SettingsCache := ⟨.empty, 0⟩

instance : Inhabited SettingsCache := ⟨empty⟩

/-- The settings kept for a runtime. -/
def stored? (c : SettingsCache) (w : WorkerIdentity) : Option ExecutionSettings :=
  (c.slots.find? w).join

/-- The settings of a runtime; the provider is asked only if none are kept. -/
def get (c : SettingsCache) (p : SettingsProvider) (t : FileTree) (w : WorkerIdentity) :
    Attempt ExecutionSettings × SettingsCache :=
  match c.stored? w with
  | some s => (.done s, c)
  | none =>
    let answer := p c.calls t w
    (answer, ⟨c.slots.set w answer.value?, c.calls + 1⟩)

/-- The settings of a runtime as one module gets them. -/
def moduleSettings (c : SettingsCache) (p : SettingsProvider) (t : FileTree) (w : WorkerIdentity)
    (module : String) : Attempt ExecutionSettings × SettingsCache :=
  let (answer, c) := c.get p t w
  (answer.map (·.narrow module), c)

/-- For how many runtimes settings are kept. -/
def computed (c : SettingsCache) : Nat := c.slots.values.countP Option.isSome

/-- How many runtimes were asked for. -/
def size (c : SettingsCache) : Nat := c.slots.size

def describe (c : SettingsCache) : String :=
  Text.described "SettingsCache" [("identities", toString c.size)]

end SettingsCache

end TestTelemetry
