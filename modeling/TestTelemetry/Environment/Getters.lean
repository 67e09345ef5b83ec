/-
Reading typed values from the environment.

A getter never fails.  What it cannot use it reports, and gives the default
instead.

* `getString`, `getOptional`, `require` — texts;
* `getBool`, `getNat` — truth values and numbers in a range;
* `getPath`, `getLogLevel` — paths and log levels.
-/
import TestTelemetry.Environment.Basic
import TestTelemetry.Files.Tree
import TestTelemetry.Text.Blank

namespace TestTelemetry.Environment

variable (env : Environment)

/-- The text of a variable, as it is. -/
def getString (name dflt : String) : Reading String :=
  let var := variableName name
  match env.get? var with
  | some text => .ofVariable text var
  | none => .default dflt

/-- The text of a variable; an empty one stands for none. -/
def getOptional (name : String) : Reading (Option String) :=
  let var := variableName name
  match env.get? var with
  | some text => .ofVariable (if text = "" then none else some text) var
  | none => .default none

/-- The text of a variable that must be set and not empty. -/
def require (name : String) : Reading (Option String) :=
  let r := env.getOptional name
  match r.value with
  | some _ => r
  | none => r.withError (.missing (variableName name))

/-- A text in lower case, as far as ASCII letters go. -/
def lowered (text : String) : String := String.ofList (text.toList.map Char.toLower)

def trueWords : List String := ["1", "true", "yes", "on"]

def falseWords : List String := ["0", "false", "no", "off", ""]

/-- A truth value in one of several spellings, in capitals or not. -/
def getBool (name : String) (dflt : Bool) : Reading Bool :=
  let var := variableName name
  match env.get? var with
  | none => .default dflt
  | some text =>
    if lowered text ∈ trueWords then .ofVariable true var
    else if lowered text ∈ falseWords then .ofVariable false var
    else (Reading.ofVariable dflt var).withError
      (.invalidValue var "boolean (true/false/1/0/yes/no)" text)

/-- The number that a text writes in decimal digits, with a plus sign or without. -/
def readNumber? (cs : List Char) : Option Nat :=
  let digits := if cs.head? = some '+' then cs.drop 1 else cs
  if digits ≠ [] ∧ digits.all Char.isDigit then some (Nat.ofDigitChars 10 digits 0) else none

/-- The width of a number: what it is called and its largest value. -/
structure Width where
  bits : Nat

def Width.max (w : Width) : Nat := Nat.pow 2 w.bits - 1

def Width.name (w : Width) : String := "unsigned " ++ toString w.bits ++ "-bit integer"

def width16 : Width := ⟨16⟩

def width64 : Width := ⟨64⟩

/-- A number of a given width within bounds.  Blanks around it do not count. -/
def getNat (w : Width) (name : String) (dflt min max : Nat) : Reading Nat :=
  let var := variableName name
  match env.get? var with
  | none => .default dflt
  | some text =>
    match (readNumber? (Text.trim text.toList)).filter (· ≤ w.max) with
    | none => (Reading.default dflt).withError (.invalidValue var w.name text)
    | some n =>
      if min ≤ n ∧ n ≤ max then .ofVariable n var
      else (Reading.ofVariable dflt var).withError
        (.outOfRange var (toString n) (toString min) (toString max))

/-- The path that a text names: `~/` at its start stands for the home folder, if there is one. -/
def expandHome (text : String) : Path :=
  match text.toList, env.home with
  | '~' :: '/' :: rest, some home => Path.join home (String.ofList rest)
  | _, _ => text

/-- A path; an empty text stands for none.  One that must exist and does not is
reported, and is the value all the same. -/
def getPath (files : FileTree) (name : String) (mustExist : Bool) : Reading (Option Path) :=
  let r := env.getOptional name
  match r.value with
  | none => r.map fun _ => none
  | some text =>
    let path := env.expandHome text
    let r := r.map fun _ => some path
    if mustExist && !files.holds path then r.withError (.pathNotFound (variableName name) path)
    else r

def logLevels : List String := ["trace", "debug", "info", "warn", "error", "off"]

/-- A log level, in capitals or not. -/
def getLogLevel (name dflt : String) : Reading String :=
  let var := variableName name
  match env.get? var with
  | none => .default dflt
  | some text =>
    if lowered text ∈ logLevels then .ofVariable (lowered text) var
    else (Reading.ofVariable dflt var).withError (.invalidLogLevel var text)

end TestTelemetry.Environment
