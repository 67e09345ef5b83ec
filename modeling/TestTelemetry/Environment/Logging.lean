/-
The configuration of the log.

Level and format come from the environment.  A filter is a list of directives
with commas between them; one that is set for the process and is well formed is
taken instead of the level.

* `LogConfig.ofEnvironment` — the configuration;
* `validFilter` — whether a text is a filter;
* `LogConfig.fault?` — why the log cannot be set up with a configuration.
-/
import TestTelemetry.Environment.Getters
import TestTelemetry.Text.Pattern

namespace TestTelemetry

inductive LogFormat
  | pretty
  | json
deriving DecidableEq, Repr

namespace LogFormat

def name : LogFormat → String
  | pretty => "pretty"
  | json => "json"

def ofName? (s : String) : Option LogFormat :=
  match Environment.lowered s with
  | "pretty" => some pretty
  | "text" => some pretty
  | "json" => some json
  | _ => none

end LogFormat

inductive LogTarget
  | stdout
  | stderr
deriving DecidableEq, Repr

def LogTarget.name : LogTarget → String
  | stdout => "stdout"
  | stderr => "stderr"

/-- Level, format and target of the log. -/
structure LogConfig where
  level : String
  format : LogFormat
  target : LogTarget

/-! ### Filters -/

/-- Whether a text names a level: a word, a number up to five, or nothing. -/
def isLevel (cs : List Char) : Bool :=
  Environment.lowered (String.ofList cs) ∈ Environment.logLevels || cs = [] ||
    ((Environment.readNumber? cs).any (· ≤ 5))

/-- Whether a text is a decimal number without a sign: digits, among or around them at most
one point, and an exponent. -/
def isDecimal (cs : List Char) : Bool :=
  let isMark (c : Char) : Bool := c = 'e' || c = 'E'
  let areDigits (ds : List Char) : Bool := ds ≠ [] && ds.all Char.isDigit
  let mantissa := cs.takeWhile (!isMark ·)
  mantissa.any Char.isDigit && mantissa.all (fun c => c.isDigit || c = '.') &&
    mantissa.count '.' ≤ 1 &&
    match cs.dropWhile (!isMark ·) with
    | [] => true
    | _ :: '+' :: ds | _ :: '-' :: ds => areDigits ds
    | _ :: ds => areDigits ds

/-- Whether a text is a number after a plus sign, which is no pattern. -/
def isPlusNumber : List Char → Bool
  | '+' :: cs =>
    Environment.lowered (String.ofList cs) ∈ ["inf", "infinity", "nan"] || isDecimal cs
  | _ => false

/-- Whether a text is a field: a name, and after an equals sign a value or a pattern of values. -/
def isField (cs : List Char) : Bool :=
  cs ≠ [] &&
    match pieces '=' cs with
    | _ :: value :: _ => Text.isPattern value || isPlusNumber value
    | _ => true

/-- Where in a directive one is, and where the part begins that is looked at when it ends. -/
inductive DirectivePart
  | start
  | levelOrTarget
  | span
  | field (first : Nat)
  | fields
  | target
  | level (first : Nat)
deriving DecidableEq

/-- Whether a directive may begin with a character. -/
def beginsDirective (c : Char) : Bool :=
  c = '-' || c = ':' || c = '_' || Text.isAlphanumeric c

/-- The characters of a text between two places, which are counted in bytes. -/
def between (first last : Nat) : List Char → List Char
  | [] => []
  | c :: cs =>
    let rest := between (first - c.utf8Size) (last - c.utf8Size) cs
    if first = 0 && last ≠ 0 then c :: rest else rest

/-- Read one character of a directive.  The blanks around a directive are not read, and yet the
parts are taken from the text with its blanks. -/
def DirectivePart.next (p : DirectivePart) (text : List Char) (place : Nat) (c : Char) :
    Option DirectivePart :=
  match p with
  | start => if c = '[' then some span else if beginsDirective c then some levelOrTarget else none
  | levelOrTarget =>
    if c = '=' then some (level (place + 1)) else if c = '[' then some span else some levelOrTarget
  | span =>
    if c = ']' then some target else if c = '\x7b' then some (field (place + 1)) else some span
  | field first =>
    if c = '\x7d' then (if isField (between first place text) then some fields else none)
    else some (field first)
  | fields => if c = ']' then some target else none
  | target => if c = '=' then some (level (place + 1)) else none
  | level first => some (level first)

/-- Whether a directive may end here. -/
def DirectivePart.complete (p : DirectivePart) (text : List Char) : Bool :=
  match p with
  | levelOrTarget | target => true
  | level first => isLevel (between first (String.ofList text).utf8ByteSize text)
  | _ => false

/-- Read the characters of a directive from a place on. -/
def DirectivePart.completes (p : DirectivePart) (text : List Char) (place : Nat) :
    List Char → Bool
  | [] => p.complete text
  | c :: cs => (p.next text place c).any fun p => p.completes text (place + c.utf8Size) cs

def validDirective (text : List Char) : Bool :=
  DirectivePart.start.completes text 0 (Text.trim text)

/-- Whether a text is a list of directives. -/
def validFilter (s : String) : Bool :=
  (pieces ',' s.toList).all fun d => d = [] || validDirective d

namespace LogConfig

/-- The variable that holds a filter for the process. -/
def filterVariable : String := "RUST_LOG"

/-- Level and format from the environment. -/
def ofEnvironment (env : Environment) (level : String) : LogConfig where
  level := (env.getLogLevel Variable.logLevel level).value
  format := (LogFormat.ofName? (env.getString Variable.logFormat "pretty").value).getD .pretty
  target := .stdout

/-- The level as a filter that cannot be used, if it is one and the process has no other. -/
def fault? (c : LogConfig) (env : Environment) : Option String :=
  if (env.get? filterVariable).any validFilter then none
  else if validFilter c.level then none
  else some c.level

end LogConfig

end TestTelemetry
