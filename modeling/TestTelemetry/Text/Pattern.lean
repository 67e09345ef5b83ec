/-
Patterns.

A pattern describes texts: most characters stand for themselves, some for choices,
repetitions and places.  Nothing is matched here; it is only told whether a text is
a pattern at all.

A pattern speaks of all characters, but only of those of ASCII is it known which
are letters, digits or blanks and how they look in the other case.  Whatever needs
to know that is refused, unless the flag `u` is taken back before it; and then
nothing may stand for a part of a character.

* `PatternFlags` — what the flags of a pattern say;
* `readGroup?`, `readClass?`, `readEscape?` — the parts of a pattern;
* `isPattern` — whether a text is a pattern.
-/
import TestTelemetry.Text.Alphabet
import TestTelemetry.Text.Blank
import TestTelemetry.Text.Digit

namespace TestTelemetry.Text

/-- What the flags of a pattern say, as far as it matters to what a pattern is. -/
structure PatternFlags where
  /-- Letters stand for themselves in either case. -/
  folded : Bool
  /-- The pattern speaks of all characters, not only of those of ASCII. -/
  wide : Bool
  /-- Blanks and comments do not count. -/
  spaced : Bool

namespace PatternFlags

/-- The flags at the start of a pattern. -/
def initial : PatternFlags := ⟨false, true, false⟩

/-- Switch a flag on or off. -/
def set (f : PatternFlags) (name : Char) (on : Bool) : PatternFlags :=
  { folded := if name = 'i' then on else f.folded
    wide := if name = 'u' then on else f.wide
    spaced := if name = 'x' then on else f.spaced }

/-- Whether the cases of letters beyond ASCII would have to be known. -/
def needsCases (f : PatternFlags) : Bool := f.folded && f.wide

end PatternFlags

/-- The names of all flags. -/
def flagNames : List Char := ['i', 'm', 's', 'U', 'u', 'R', 'x']

/-- Skip blanks, and comments up to the end of their line. -/
def skipComments (comment : Bool) : List Char → List Char
  | [] => []
  | c :: rest =>
    if comment then skipComments (c ≠ '\n') rest
    else if isBlank c then skipComments false rest
    else if c = '#' then skipComments true rest
    else c :: rest

namespace PatternFlags

/-- Skip what does not count. -/
def skip (f : PatternFlags) (cs : List Char) : List Char :=
  if f.spaced then skipComments false cs else cs

/-- Skip what does not count; something must follow. -/
def skipTo? (f : PatternFlags) (cs : List Char) : Option (List Char) :=
  match f.skip cs with
  | [] => none
  | cs => some cs

end PatternFlags

/-! ### Escapes -/

/-- What an escape stands for. -/
inductive PatternEscape
  /-- A character, and whether its number is that of a byte. -/
  | char (code : Nat) (byte : Bool)
  /-- A class of characters. -/
  | letters (negated : Bool)
  /-- A place in a text, and whether words tell where it is. -/
  | place (ofWords : Bool)

/-- The characters that stand for more than themselves. -/
def patternMarks : List Char :=
  ['\\', '.', '+', '*', '?', '(', ')', '|', '[', ']', '\x7b', '\x7d', '^', '$', '#', '&', '-', '~']

/-- Whether a character stands for itself after a backslash. -/
def isEscapable (c : Char) : Bool :=
  c ∈ patternMarks || (c.toNat < 128 && !c.isAlphanum && c ≠ '<' && c ≠ '>')

/-- The character of a letter after a backslash. -/
def controlEscape? (c : Char) : Option Nat :=
  match c with
  | 'a' => some 7
  | 't' => some 9
  | 'n' => some 10
  | 'v' => some 11
  | 'f' => some 12
  | 'r' => some 13
  | _ => none

/-- How many digits the number of a character has after a letter. -/
def codeLength? (c : Char) : Option Nat :=
  if c = 'x' then some 2 else if c = 'u' then some 4 else if c = 'U' then some 8 else none

/-- Read as many digits. -/
def readCode? (f : PatternFlags) : Nat → Nat → List Char → Option (Nat × List Char)
  | 0, code, cs => some (code, cs)
  | n + 1, code, cs =>
    match f.skip cs with
    | [] => none
    | c :: rest => (hexValue? c).bind fun d => readCode? f n (code * 16 + d) rest

/-- Read what follows a backslash. -/
def readEscape? (f : PatternFlags) : List Char → Option (PatternEscape × List Char)
  | [] => none
  | c :: rest =>
    match codeLength? c, controlEscape? c with
    | some n, _ => do
      let (code, rest) ← readCode? f n 0 rest
      if isCharCode code then some (.char code (c = 'x'), rest) else none
    | none, some code => some (.char code false, rest)
    | none, none =>
      if c ∈ ['d', 's', 'w'] then some (.letters false, rest)
      else if c ∈ ['D', 'S', 'W'] then some (.letters true, rest)
      else if c ∈ ['A', 'z'] then some (.place false, rest)
      else if c ∈ ['b', 'B', '<', '>'] then some (.place true, rest)
      else if isEscapable c then some (.char c.toNat false, rest)
      else none

namespace PatternFlags

/-- Whether a character may stand for itself; a byte beyond ASCII is none. -/
def allowsChar (f : PatternFlags) (code : Nat) (byte : Bool) : Bool :=
  !f.needsCases && (f.wide || !byte || code < 128)

/-- Whether an escape may stand outside of classes. -/
def allows (f : PatternFlags) : PatternEscape → Bool
  | .char code byte => f.allowsChar code byte
  | .letters negated => !f.wide && !negated
  | .place ofWords => !ofWords || !f.wide

end PatternFlags

/-! ### Classes in brackets -/

/-- The names of classes that are known by name. -/
def classNames : List String :=
  ["alnum", "alpha", "ascii", "blank", "cntrl", "digit", "graph", "lower", "print", "punct",
    "space", "upper", "word", "xdigit"]

/-- Read a class by its name after a bracket: whether it is negated, and what follows. -/
def readNamedClass? : List Char → Option (Bool × List Char)
  | ':' :: cs =>
    let negated := cs.head? = some '^'
    let cs := if negated then cs.drop 1 else cs
    match cs.dropWhile (· ≠ ':') with
    | ':' :: ']' :: rest =>
      if String.ofList (cs.takeWhile (· ≠ ':')) ∈ classNames then some (negated, rest) else none
    | _ => none
  | _ => none

/-- Skip the hyphens at the start of a class. -/
def skipHyphens? (f : PatternFlags) : List Char → Option (List Char)
  | [] => none
  | c :: rest =>
    if c = '-' || (f.spaced && isBlank c) then skipHyphens? f rest else some (c :: rest)

/-- Read the start of a class after its bracket, which is not its end.  Only a class of all
characters can be negated.  A closing bracket that comes first stands for itself. -/
def openClass? (f : PatternFlags) (cs : List Char) : Option (List Char) := do
  let cs ← f.skipTo? cs
  let negated := cs.head? = some '^'
  if negated && !f.wide then none
  else
    let cs ← f.skipTo? (if negated then cs.drop 1 else cs)
    let rest ← skipHyphens? f cs
    if cs.head? ≠ some '-' && cs.head? = some ']' then f.skipTo? (cs.drop 1) else some rest

/-- Read one member of a class, with its number if it is a character. -/
def readMember? (f : PatternFlags) : List Char → Option (Option Nat × List Char)
  | [] => none
  | '\\' :: rest => do
    match ← readEscape? f rest with
    | (.char code _, rest) => if f.wide || code < 128 then some (some code, rest) else none
    | (.letters negated, rest) => if !f.wide && !negated then some (none, rest) else none
    | (.place _, _) => none
  | c :: rest => if f.wide || c.toNat < 128 then some (some c.toNat, rest) else none

/-- Read a member of a class, or two with a hyphen between them: the first one is not greater. -/
def readRange? (f : PatternFlags) (cs : List Char) : Option (List Char) := do
  let (first, rest) ← readMember? f cs
  match ← f.skipTo? rest with
  | '-' :: after =>
    if (f.skip after).head? = some ']' || (f.skip after).head? = some '-' then some ('-' :: after)
    else
      let (last, rest) ← readMember? f (← f.skipTo? after)
      if (← first) ≤ (← last) then some rest else none
  | rest => some rest

/-- Read a class up to the end of the outermost of as many.  The first number bounds the steps. -/
def readClass? (f : PatternFlags) : Nat → Nat → List Char → Option (List Char)
  | 0, _, _ => none
  | n + 1, depth, cs =>
    match f.skip cs with
    | [] => none
    | ']' :: rest => if depth ≤ 1 then some rest else readClass? f n (depth - 1) rest
    | '&' :: '&' :: rest | '-' :: '-' :: rest | '~' :: '~' :: rest => readClass? f n depth rest
    | '[' :: rest =>
      match readNamedClass? rest with
      | some (negated, rest) => if f.wide || !negated then readClass? f n depth rest else none
      | none => (openClass? f rest).bind (readClass? f n (depth + 1))
    | cs => (readRange? f cs).bind (readClass? f n depth)

/-! ### Groups -/

/-- Read flags up to a colon or a closing parenthesis: the flags, whether any are named, and
what ends them.  No flag is named twice, and a minus stands before a flag. -/
def readFlags? (f : PatternFlags) (seen : List Char) :
    List Char → Option (PatternFlags × Bool × Char × List Char)
  | [] => none
  | c :: rest =>
    if c = ':' || c = ')' then
      if seen.head? = some '-' then none else some (f, !seen.isEmpty, c, rest)
    else if c ∈ seen then none
    else if c = '-' then readFlags? f (c :: seen) rest
    else if c ∈ flagNames then readFlags? (f.set c !(seen.contains '-')) (c :: seen) rest
    else none

/-- Whether a text names a group. -/
def isGroupName : List Char → Bool
  | [] => false
  | c :: cs => (c = '_' || isAlphabetic c) &&
    cs.all fun c => c ∈ ['_', '.', '[', ']'] || isAlphanumeric c

/-- How a parenthesis goes on. -/
inductive GroupStart
  /-- A group, with its flags and its name. -/
  | group (flags : PatternFlags) (name : Option (List Char))
  /-- Flags for what follows. -/
  | flags (flags : PatternFlags)

/-- Read the name of a group. -/
def readGroupName? (f : PatternFlags) (cs : List Char) : Option (GroupStart × List Char) :=
  let name := cs.takeWhile (· ≠ '>')
  match cs.dropWhile (· ≠ '>') with
  | _ :: rest => if isGroupName name then some (.group f name, rest) else none
  | [] => none

/-- Read the start of a group after its parenthesis. -/
def readGroup? (f : PatternFlags) (cs : List Char) : Option (GroupStart × List Char) :=
  match f.skip cs with
  | '?' :: '=' :: _ | '?' :: '!' :: _ | '?' :: '<' :: '=' :: _ | '?' :: '<' :: '!' :: _ => none
  | '?' :: 'P' :: '<' :: rest | '?' :: '<' :: rest => readGroupName? f rest
  | '?' :: rest => do
    let (flags, named, last, rest) ← readFlags? f [] rest
    if last = ':' then some (.group flags none, rest)
    else if named then some (.flags flags, rest)
    else none
  | rest => some (.group f none, rest)

/-! ### Patterns -/

/-- How far a pattern has been read. -/
structure PatternState where
  flags : PatternFlags
  /-- The flags around the open groups, innermost first. -/
  outer : List PatternFlags
  /-- Whether there is something that could be repeated. -/
  repeatable : Bool
  names : List (List Char)

namespace PatternState

/-- Go on after something that can be repeated, unless it may not stand here. -/
def item (s : PatternState) (allowed : Bool) (rest : List Char) :
    Option (PatternState × List Char) :=
  if allowed then some ({ s with repeatable := true }, rest) else none

/-- Go on inside a new group, or under new flags. -/
def enter (s : PatternState) : GroupStart → Option PatternState
  | .flags flags => some { s with flags, repeatable := false }
  | .group flags name =>
    let s' := { s with flags, outer := s.flags :: s.outer, repeatable := false }
    match name with
    | none => some s'
    | some name => if s.names.contains name then none else some { s' with names := name :: s.names }

/-- Read the next part of a pattern. -/
def step (s : PatternState) (c : Char) (rest : List Char) :
    Option (PatternState × List Char) :=
  match c with
  | '(' => do
    let (start, rest) ← readGroup? s.flags rest
    return (← s.enter start, rest)
  | ')' =>
    match s.outer with
    | [] => none
    | flags :: outer => some ({ s with flags, outer, repeatable := true }, rest)
  | '|' => some ({ s with repeatable := false }, rest)
  | '[' =>
    if s.flags.needsCases then none
    else do
      let rest ← (openClass? s.flags rest).bind (readClass? s.flags (rest.length + 1) 1)
      s.item true rest
  | '?' | '*' | '+' => s.item s.repeatable (if rest.head? = some '?' then rest.drop 1 else rest)
  | '\x7b' => none
  | '\\' => do
    let (escape, rest) ← readEscape? s.flags rest
    s.item (s.flags.allows escape) rest
  | '.' => s.item s.flags.wide rest
  | '^' | '$' => s.item true rest
  | c => s.item (s.flags.allowsChar c.toNat false) rest

/-- Whether a pattern is complete with a text, read in at most as many steps. -/
def completes : Nat → PatternState → List Char → Bool
  | 0, _, _ => false
  | n + 1, s, cs =>
    match s.flags.skip cs with
    | [] => s.outer.isEmpty
    | c :: rest => (s.step c rest).any fun r => completes n r.1 r.2

end PatternState

/-- Whether a text is a pattern.  A number of repetitions in braces is not understood. -/
def isPattern (cs : List Char) : Bool :=
  PatternState.completes (cs.length + 1) ⟨.initial, [], false, []⟩ cs

end TestTelemetry.Text
