/-
Options on a command line.

Options stand before other words.  One is written with two dashes and its name, or
with one dash and its letter; letters can be written together, and a value stands
in the same word or is the next one.  Two dashes alone end the options.

A value that is a word of its own is looked at late: when the next option comes, or
once all words were read.  Whatever asks for help before that is heard.

* `OptionSpec` — an option, what its value is, and whether it may be repeated;
* `readOptions` — the options at the start of a command line, and what follows them;
* `OptionReading.settle` — the options once nothing more comes.
-/

namespace TestTelemetry.CommandLine

/-- What an option has for a value. -/
inductive OptionValue
  | nothing
  | text
  /-- A path, which is not empty. -/
  | path
deriving DecidableEq, Repr

/-- An option of a command line. -/
structure OptionSpec where
  letter : Option Char
  name : String
  value : OptionValue
  repeatable : Bool
deriving DecidableEq, Repr

/-- Why a command line is not carried out. -/
inductive Stop
  | wrong
  | help
  | version
deriving DecidableEq, Repr

/-- The names of options with their values; options without one have an empty one. -/
abbrev Given := List (String × String)

/-- The option that asks for help. -/
def helpOption : OptionSpec := ⟨some 'h', "help", .nothing, false⟩

/-- The option that asks for the version. -/
def versionOption : OptionSpec := ⟨some 'V', "version", .nothing, false⟩

/-- What options without a value ask for at once. -/
def stopOf? (o : OptionSpec) : Option Stop :=
  if o = helpOption then some .help else if o = versionOption then some .version else none

/-- Whether a word is an option, or ends the options. -/
def isOption (word : String) : Bool := word.toList.head? = some '-' && word ≠ "-"

/-- What ends the options. -/
def endOfOptions : String := "--"

namespace Given

/-- The options with one more, which must be new or repeatable. -/
def add (g : Given) (o : OptionSpec) (value : String) : Except Stop Given :=
  if (o.value = .path ∧ value = "") ∨ (!o.repeatable ∧ g.any (·.1 = o.name)) then .error .wrong
  else .ok (g ++ [(o.name, value)])

/-- The value of an option. -/
def value? (g : Given) (name : String) : Option String := g.lookup name

/-- The values of an option that may be repeated. -/
def values (g : Given) (name : String) : List String :=
  (g.filter (·.1 = name)).map (·.2)

end Given

/-- Options that were read.  The last one may have its value in a word of its own, which was not
looked at yet. -/
structure OptionReading where
  given : Given
  last : Option (OptionSpec × String)

/-- No options. -/
def OptionReading.empty : OptionReading := ⟨[], none⟩

/-- The options once nothing more comes for the last one. -/
def OptionReading.settle (r : OptionReading) : Except Stop Given :=
  match r.last with
  | none => .ok r.given
  | some (o, value) => r.given.add o value

/-- Read letters that are written together: the options, and a last one whose value is still to
come. -/
def readLetters (specs : List OptionSpec) (given : Given) :
    List Char → Except Stop (Given × Option OptionSpec)
  | [] => .ok (given, none)
  | c :: rest =>
    match specs.find? (fun o => o.letter = some c) with
    | none => .error .wrong
    | some o =>
      if o.value = .nothing then
        match stopOf? o, given.add o "" with
        | some s, _ => .error s
        | none, .ok given => readLetters specs given rest
        | none, .error s => .error s
      else
        match rest with
        | [] => .ok (given, some o)
        | '=' :: v => (given.add o (String.ofList v)).map (·, none)
        | v => (given.add o (String.ofList v)).map (·, none)

/-- Read the name of an option with its value, if that stands in the same word. -/
def readName (specs : List OptionSpec) (given : Given) (cs : List Char) :
    Except Stop (Given × Option OptionSpec) :=
  match specs.find? (fun o => o.name = String.ofList (cs.takeWhile (· ≠ '='))) with
  | none => .error .wrong
  | some o =>
    match o.value, cs.dropWhile (· ≠ '=') with
    | .nothing, _ :: _ => .error .wrong
    | .nothing, [] =>
      match stopOf? o with
      | some s => .error s
      | none => (given.add o "").map (·, none)
    | _, [] => .ok (given, some o)
    | _, _ :: v => (given.add o (String.ofList v)).map (·, none)

/-- Read a word that is an option. -/
def readOption (specs : List OptionSpec) (given : Given) (word : String) :
    Except Stop (Given × Option OptionSpec) :=
  match word.toList with
  | '-' :: '-' :: cs => readName specs given cs
  | '-' :: cs => readLetters specs given cs
  | _ => .error .wrong

/-- Read the options at the start of a command line, after those that were read. -/
def readOptions (specs : List OptionSpec) (r : OptionReading) :
    List String → Except Stop (OptionReading × List String)
  | [] => .ok (r, [])
  | word :: rest =>
    if word = endOfOptions || !isOption word then .ok (r, word :: rest)
    else
      match r.settle.bind (readOption specs · word), rest with
      | .error s, _ => .error s
      | .ok (given, none), rest => readOptions specs ⟨given, none⟩ rest
      | .ok (_, some _), [] => .error .wrong
      | .ok (given, some o), value :: rest =>
        if isOption value then .error .wrong else readOptions specs ⟨given, some (o, value)⟩ rest

end TestTelemetry.CommandLine
