/-
Reading a configuration text.

The text is read line by line: a header opens a table, and the key lines after it
add to that table.  Values may run over several lines inside brackets and braces.

How a text is laid out matters more than what stands in it: only of a text that is
laid out well is the first part looked for that has a fault.

* `readKeys` — a key, or several with dots between them;
* `readValue` — a value, with a bound on how deep values are nested;
* `readNode` — the table that a text stands for, as decoders read it.
-/
import TestTelemetry.Toml.Quoted
import TestTelemetry.Toml.Scalar

namespace TestTelemetry.Toml

/-- What a text begins with, if it is laid out well, and what follows it. -/
abbrev Reader (α : Type) := List Char → Option (Checked α × List Char)

/-! ### Between keys and values -/

def skipBlanks (cs : List Char) : List Char := cs.dropWhile isBlank

/-- Skip blanks, the ends of lines and comments. -/
def skipGap (comment : Bool) : List Char → Option (List Char)
  | [] => some []
  | c :: rest =>
    if c = '\n' then skipGap false rest
    else if c = '\r' then (if rest.head? = some '\n' then skipGap comment rest else none)
    else if comment then (if isTextChar c then skipGap true rest else none)
    else if isBlank c then skipGap false rest
    else if c = '#' then skipGap true rest
    else some (c :: rest)

/-- Skip what may follow on a line. -/
def skipLine (comment : Bool) : List Char → Option (List Char)
  | [] => some []
  | c :: rest =>
    if c = '\n' then some rest
    else if c = '\r' then (if rest.head? = some '\n' then skipLine comment rest else none)
    else if comment then (if isTextChar c then skipLine true rest else none)
    else if isBlank c then skipLine false rest
    else if c = '#' then skipLine true rest
    else none

/-- Skip a character that must be there. -/
def expect (c : Char) : List Char → Option (List Char)
  | d :: rest => if d = c then some rest else none
  | [] => none

/-! ### Keys -/

def isKeyChar (c : Char) : Bool := c.isAlphanum || c = '-' || c = '_'

/-- The characters that end a word. -/
def endsWord (c : Char) : Bool :=
  isBlank c || c ∈ ['\n', '\r', '#', ',', '=', '[', ']', '\x7b', '\x7d']

/-- A key, bare or between quotes.  It may not be a long string. -/
def readKey : Reader String := fun cs =>
  let quoted (mark : Char) (rest : List Char) : Checked String × List Char :=
    let (key, after) := readQuoted mark rest
    (if [mark, mark].isPrefixOf rest then .error .malformed else key, after)
  match cs with
  | '"' :: rest => some (quoted '"' rest)
  | '\'' :: rest => some (quoted '\'' rest)
  | cs =>
    let isPart (c : Char) : Bool := !endsWord c && c ≠ '.'
    match cs.takeWhile isPart with
    | [] => none
    | key => some (if key.all isKeyChar then .ok (String.ofList key) else .error .malformed,
        cs.dropWhile isPart)

/-- The keys on a way and the last one. -/
abbrev Keys := List String × String

/-- Keys with dots between them.  There are fewer than there are characters. -/
def readKeysUpTo : Nat → Reader Keys
  | 0, _ => none
  | n + 1, cs => do
    let (key, rest) ← readKey (skipBlanks cs)
    match skipBlanks rest with
    | '.' :: rest =>
      let (keys, rest) ← readKeysUpTo n rest
      return (do
        let key ← key
        let (way, last) ← keys
        return (key :: way, last), rest)
    | rest => return (key.map fun key => ([], key), rest)

/-- How deep values may be nested, and how long a way of keys may be. -/
def maxNesting : Nat := 80

/-- Keys with dots between them. -/
def readKeys : Reader Keys := fun cs =>
  (readKeysUpTo (cs.length + 1) cs).map fun r =>
    (r.1.bind fun keys => if keys.1.length < maxNesting then .ok keys else .error .malformed, r.2)

/-! ### Values -/

/-- How many characters a word has.  Blanks belong to it if more of it follows them. -/
def wordLength (length blanks : Nat) : List Char → Nat
  | [] => length
  | c :: rest =>
    if isBlank c then wordLength length (blanks + 1) rest
    else if endsWord c then length
    else wordLength (length + blanks + 1) 0 rest

def readScalar : Reader Toml := fun cs =>
  match wordLength 0 0 cs with
  | 0 => none
  | n => some (scalar (cs.take n), cs.drop n)

mutual

/-- A value.  The first number bounds the steps, the second how deep values may be nested. -/
def readValue : Nat → Nat → Reader Toml
  | 0, _, _ => none
  | n + 1, depth, cs =>
    match cs with
    | '"' :: rest => some ((readQuoted '"' rest).map (·.map .text) id)
    | '\'' :: rest => some ((readQuoted '\'' rest).map (·.map .text) id)
    | '[' :: rest => if depth = 0 then none else readItems n (depth - 1) (.ok []) rest
    | '\x7b' :: rest => if depth = 0 then none else readBraces n (depth - 1) (.ok []) rest
    | cs => readScalar cs

/-- The items of an array after those that were read. -/
def readItems : Nat → Nat → Checked (List Toml) → Reader Toml
  | 0, _, _, _ => none
  | n + 1, depth, items, cs => do
    let cs ← skipGap false cs
    match cs with
    | ']' :: rest => return (items.map .array, rest)
    | cs =>
      let (v, rest) ← readValue n depth cs
      let items : Checked (List Toml) := do
        let items ← items
        return items ++ [← v]
      let rest ← skipGap false rest
      match rest with
      | ',' :: rest => readItems n depth items rest
      | rest => return (items.map .array, ← expect ']' rest)

/-- The members of a table in braces after those that were read. -/
def readBraces : Nat → Nat → Checked Members → Reader Toml
  | 0, _, _, _ => none
  | n + 1, depth, members, cs => do
    let cs ← skipGap false cs
    match cs with
    | '\x7d' :: rest => return (members.map (.table .braces), rest)
    | cs =>
      let (keys, rest) ← readKeys cs
      let rest ← expect '=' (← skipGap false rest)
      let (v, rest) ← readValue n depth (← skipGap false rest)
      let members : Checked Members := do
        let members ← members
        let (way, key) ← keys
        Checked.ofOption (assign way key (← v) members)
      let rest ← skipGap false rest
      match rest with
      | ',' :: rest => readBraces n depth members rest
      | rest => return (members.map (.table .braces), ← expect '\x7d' rest)

end

/-! ### Lines -/

/-- The table so far, and the way to the table that key lines add to. -/
structure Draft where
  root : Members
  header : List String

namespace Draft

/-- Change the table that key lines add to. -/
def change (d : Draft) (f : Members → Option Members) : Checked Draft :=
  (Checked.ofOption (Route.ofHeader.follow f d.header d.root)).map fun root => { d with root }

/-- Open a table with a header. -/
def opened (d : Draft) (openLast : String → Members → Option Members) (keys : Keys) :
    Checked Draft :=
  (Checked.ofOption (Route.ofHeader.follow (openLast keys.2) keys.1 d.root)).map fun root =>
    ⟨root, keys.1 ++ [keys.2]⟩

end Draft

/-- A header after its opening bracket. -/
def readHeader (d : Checked Draft) : Reader Draft
  | '[' :: cs => do
    let (keys, rest) ← readKeys cs
    let rest ← expect ']' (← expect ']' rest)
    return (do (← d).opened openItem (← keys), rest)
  | cs => do
    let (keys, rest) ← readKeys cs
    return (do (← d).opened openTable (← keys), ← expect ']' rest)

/-- A line with a key and its value. -/
def readKeyLine (d : Checked Draft) : Reader Draft := fun cs => do
  let (keys, rest) ← readKeys cs
  let rest ← expect '=' rest
  let (v, rest) ← readValue (2 * rest.length + 2) maxNesting (skipBlanks rest)
  return (do
    let d ← d
    let (way, key) ← keys
    let v ← v
    d.change (assign way key v), rest)

/-- Read all lines.  There are no more than there are characters. -/
def readLines : Nat → Checked Draft → List Char → Option (Checked Draft)
  | 0, _, _ => none
  | n + 1, d, cs => do
    let cs ← skipGap false cs
    match cs with
    | [] => return d
    | '[' :: rest =>
      let (d, rest) ← readHeader d rest
      readLines n d (← skipLine false rest)
    | cs =>
      let (d, rest) ← readKeyLine d cs
      readLines n d (← skipLine false rest)

/-- A text without the mark that some put at its start. -/
def dropByteOrderMark : List Char → List Char
  | '\uFEFF' :: cs => cs
  | cs => cs

/-- The table that a text stands for. -/
def read (cs : List Char) : Checked Toml :=
  let cs := dropByteOrderMark cs
  match readLines (cs.length + 1) (.ok ⟨[], []⟩) cs with
  | none => .error .malformed
  | some d => d.map fun d => .table .header d.root

/-- The table that a text stands for, as decoders read it. -/
def readNode (cs : List Char) : Checked Json.Node := (read cs).map toNode

end TestTelemetry.Toml
