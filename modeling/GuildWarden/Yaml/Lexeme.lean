import GuildWarden.Text.Utf8
import GuildWarden.Text.Digits
import GuildWarden.Yaml.Token

/-
  This file defines the reading of single tokens of a
  document: directives, names, tags, and the plain, quoted and
  block forms of scalars. Each reading gives the token and the
  place after it, or `none` for a malformed token.

  Key definitions include:
    * `Yaml.readDirective?`
    * `Yaml.readTag?`
    * `Yaml.readBlockScalar?`
    * `Yaml.readQuoted?`
    * `Yaml.readPlain`
-/

namespace GuildWarden.Yaml

------------------------------------------------------------
-- Names and tags
------------------------------------------------------------

/- A name that is not empty. -/
def readName?
    (c : Cursor) : Option (String × Cursor) :=
  match c.readWhile isNameChar with
  | ([], _) => none
  | (name, c) => some (String.ofList name, c)

/- Characters that may follow the name of an anchor. -/
def endsAnchor
    (x : Char) : Bool :=
  isGapOrEnd x || "?:,]\x7d%@`".toList.contains x

/- The name of an anchor or an alias, after its mark. -/
def readAnchor?
    (c : Cursor) : Option (String × Cursor) := do
  let (name, c) ← readName? (c.advance 1)
  if endsAnchor (c.peek 0) then some (name, c) else none

/- Characters of the suffix of a tag. -/
def isTagChar
    (x : Char) : Bool :=
  isNameChar x || ";/?:@&=+$,.!~*'()[]%".toList.contains x

/- The value of two hexadecimal digits. -/
def hexPair?
    (a b : Char) : Option Nat :=
  let value (x : Char) : Nat :=
    if x.isDigit then x.toNat - 48 else x.toLower.toNat - 87
  if isHexDigit a && isHexDigit b then some (value a * 16 + value b)
  else none

/- The octets of a run of escapes. -/
def readEscapes? :
    (fuel : Nat) → List Nat → Cursor → Option (List Nat × Cursor)
  | 0, _, _ => none
  | fuel + 1, octets, c =>
    if c.peek 0 == '%' then
      match hexPair? (c.peek 1) (c.peek 2) with
      | some n => readEscapes? fuel (octets ++ [n]) (c.advance 3)
      | none => none
    else some (octets, c)

/- The suffix of a tag, with its escapes replaced. -/
def readTagText? :
    (fuel : Nat) → List Char → Cursor → Option (String × Cursor)
  | 0, _, _ => none
  | fuel + 1, acc, c =>
    let x := c.peek 0
    if x == '%' then
      match readEscapes? (c.ahead.length + 1) [] c with
      | none => none
      | some (octets, c) =>
        match Utf8.decodeStrict? octets with
        | some cs => readTagText? fuel (acc ++ cs) c
        | none => none
    else if x != endMark && isTagChar x then
      readTagText? fuel (acc ++ [x]) c.step
    else if acc.isEmpty then none
    else some (String.ofList acc, c)

/- The suffix of a tag at a place. -/
def readSuffix?
    (c : Cursor) : Option (String × Cursor) :=
  readTagText? (c.ahead.length + 1) [] c

/- The handle of a tag: a name between two marks, or one mark. -/
def readHandle?
    (c : Cursor) : Option (String × Cursor) :=
  if c.peek 0 != '!' then none
  else if c.peek 1 == ' ' then some ("!", c.step)
  else
    let name := (c.ahead.drop 1).takeWhile isNameChar
    if c.peek (name.length + 1) == '!' then
      some
        (String.ofList ('!' :: name ++ ['!']), c.advance (name.length + 2))
    else none

/- A tag must be followed by a space, a line break or the end. -/
def closeTag?
    (handle : Option String)
    (r : Option (String × Cursor)) : Option (Token × Cursor) := do
  let (suffix, c) ← r
  if isSpaceOrEnd (c.peek 0) then some (.tag handle suffix, c) else none

/- A tag. -/
def readTag?
    (c : Cursor) : Option (Token × Cursor) :=
  let x := c.peek 1
  if x == '<' then
    closeTag? none do
      let (suffix, c) ← readSuffix? (c.advance 2)
      if c.peek 0 == '>' then some (suffix, c.step) else none
  else if isGapOrEnd x then closeTag? none (some ("!", c.step))
  else
    let body := (c.ahead.drop 1).takeWhile fun y => !isSpaceOrEnd y
    if body.contains '!' then do
      let (handle, c) ← readHandle? c
      closeTag? (some handle) (readSuffix? c)
    else closeTag? (some "!") (readSuffix? c.step)

------------------------------------------------------------
-- Directives
------------------------------------------------------------

/- A natural number. -/
def readNumber?
    (c : Cursor) : Option (Nat × Cursor) :=
  match c.readWhile Char.isDigit with
  | ([], _) => none
  | (ds, c) => some (Text.digitsValue (ds.map fun d => d.toNat - 48), c)

/- The rest of a line that holds nothing but a comment. -/
def skipLine?
    (c : Cursor) : Option Cursor :=
  let c := c.skipWhile (· == ' ')
  let c :=
    if c.peek 0 == '#' then c.skipWhile fun x => !isBreakOrEnd x else c
  if isBreakOrEnd (c.peek 0) then some c.lineBreak.2 else none

/- The version in a directive. -/
def readVersion?
    (c : Cursor) : Option (Token × Cursor) := do
  let (major, c) ← readNumber? (c.skipWhile (· == ' '))
  if c.peek 0 != '.' then none
  let (_, c) ← readNumber? c.step
  if isSpaceOrEnd (c.peek 0) then some (.versionDirective major, c)
  else none

/- The handle and the lead of tags in a directive. -/
def readTagRule?
    (c : Cursor) : Option (Token × Cursor) := do
  let (handle, c) ← readHandle? (c.skipWhile (· == ' '))
  if c.peek 0 != ' ' then none
  let (lead, c) ← readSuffix? (c.skipWhile (· == ' '))
  if isSpaceOrEnd (c.peek 0) then some (.tagDirective handle lead, c)
  else none

/- A directive. -/
def readDirective?
    (c : Cursor) : Option (Token × Cursor) := do
  let (name, c) ← readName? c.step
  if !isSpaceOrEnd (c.peek 0) then none
  let (token, c) ←
    if name = "YAML" then readVersion? c
    else if name = "TAG" then readTagRule? c
    else some (.otherDirective, c.skipWhile fun x => !isBreakOrEnd x)
  return (token, ← skipLine? c)

------------------------------------------------------------
-- Block scalars
------------------------------------------------------------

/- What a block scalar does with the line breaks at its end. -/
inductive Chomping where
  | strip
  | clip
  | keep
deriving DecidableEq

/- The chomping that a mark asks for. -/
def chomping? : Char → Option Chomping
  | '+' => some .keep
  | '-' => some .strip
  | _ => none

/- The indentation that a digit asks for. -/
def increment?
    (x : Char) : Option Nat :=
  if '1' ≤ x && x ≤ '9' then some (x.toNat - 48) else none

/- The marks after the sign of a block scalar, in either order. -/
def readBlockHeader?
    (c : Cursor) : Option (Chomping × Option Nat × Cursor) :=
  let finish (k : Chomping) (i : Option Nat) (c : Cursor) :=
    if isSpaceOrEnd (c.peek 0) then some (k, i, c) else none
  match chomping? (c.peek 0) with
  | some k =>
    match increment? (c.peek 1) with
    | some i => finish k (some i) (c.advance 2)
    | none => finish k none c.step
  | none =>
    match increment? (c.peek 0) with
    | some i =>
      match chomping? (c.peek 1) with
      | some k => finish k (some i) (c.advance 2)
      | none => finish .clip (some i) c.step
    | none => finish .clip none c

/- Pass spaces up to a column. -/
def skipIndent
    (column : Nat)
    (c : Cursor) : Cursor :=
  c.advance
    (min (column - c.column) (c.ahead.takeWhile (· == ' ')).length)

/- The line breaks before the next line of a block scalar. -/
def readBreaks :
    (fuel : Nat) → (column : Nat) → List Char → Cursor →
      List Char × Cursor
  | 0, _, acc, c => (acc, c)
  | fuel + 1, column, acc, c =>
    let c := skipIndent column c
    if isBreak (c.peek 0) then
      let (br, c) := c.lineBreak
      readBreaks fuel column (acc ++ br) c
    else (acc, c)

/- The leading empty lines, and the deepest indentation in them. -/
def readLead :
    (fuel : Nat) → (deepest : Nat) → List Char → Cursor →
      Nat × List Char × Cursor
  | 0, deepest, acc, c => (deepest, acc, c)
  | fuel + 1, deepest, acc, c =>
    let x := c.peek 0
    if x == ' ' then
      readLead fuel (max deepest c.step.column) acc c.step
    else if isBreak x then
      let (br, c) := c.lineBreak
      readLead fuel deepest (acc ++ br) c
    else (deepest, acc, c)

/- A space or a tab. -/
def isSpaceOrTab
    (x : Char) : Bool :=
  x == ' ' || x == '\t'

/-
  The lines of a block scalar. `breaks` holds the line breaks
  before the line at hand; the result also gives the break
  after the last line and those that follow it.
-/
def readBlockLines :
    (fuel : Nat) → (folded : Bool) → (column : Nat) →
      (acc breaks lastBreak : List Char) → Cursor →
      List Char × List Char × List Char × Cursor
  | 0, _, _, acc, breaks, lastBreak, c => (acc, lastBreak, breaks, c)
  | fuel + 1, folded, column, acc, breaks, lastBreak, c =>
    if c.column = column && c.peek 0 != endMark then
      let startsFull := !isSpaceOrTab (c.peek 0)
      let (text, c) := c.readWhile fun x => !isBreakOrEnd x
      let acc := acc ++ breaks ++ text
      let (br, c) := c.lineBreak
      let (breaks, c) := readBreaks (c.ahead.length + 1) column [] c
      if c.column = column && c.peek 0 != endMark then
        let joins :=
          folded && br == ['\n'] && startsFull &&
            !isSpaceOrTab (c.peek 0)
        let glue :=
          if joins then (if breaks.isEmpty then [' '] else []) else br
        readBlockLines fuel folded column (acc ++ glue) breaks br c
      else (acc, br, breaks, c)
    else (acc, lastBreak, breaks, c)

/- A block scalar inside a block of the given indentation. -/
def readBlockScalar?
    (folded : Bool)
    (indent : Int)
    (c : Cursor) : Option (Token × Cursor) := do
  let (chomp, increment, c) ← readBlockHeader? c.step
  let c ← skipLine? c
  let least := (max (indent + 1) 1).toNat
  let fuel := c.ahead.length + 1
  let (column, breaks, c) :=
    match increment with
    | none =>
      let (deepest, breaks, c) := readLead fuel 0 [] c
      (max least deepest, breaks, c)
    | some i =>
      let column := least + i - 1
      let (breaks, c) := readBreaks fuel column [] c
      (column, breaks, c)
  let (text, lastBreak, breaks, c) :=
    readBlockLines fuel folded column [] breaks [] c
  let tail :=
    match chomp with
    | .strip => []
    | .clip => lastBreak
    | .keep => lastBreak ++ breaks
  return (.scalar (String.ofList (text ++ tail)) false, c)

------------------------------------------------------------
-- Quoted scalars
------------------------------------------------------------

/- The characters that single-letter escapes stand for. -/
def escapes : List (Char × Nat) :=
  [
    ('0', 0x0), ('a', 0x7), ('b', 0x8), ('t', 0x9), ('\t', 0x9),
    ('n', 0xA), ('v', 0xB), ('f', 0xC), ('r', 0xD), ('e', 0x1B),
    (' ', 0x20), ('"', 0x22), ('\\', 0x5C), ('/', 0x2F),
    ('N', 0x85), ('_', 0xA0), ('L', 0x2028), ('P', 0x2029)
  ]

/- The number of digits of a numeric escape. -/
def escapeDigits? : Char → Option Nat
  | 'x' => some 2
  | 'u' => some 4
  | 'U' => some 8
  | _ => none

/- The value of a run of hexadecimal digits. -/
def hexValue
    (ds : List Char) : Nat :=
  ds.foldl
    (fun n x =>
      16 * n + (if x.isDigit then x.toNat - 48 else x.toLower.toNat - 87))
    0

/- The line breaks inside a quoted scalar; no document mark may stand there. -/
def readQuotedBreaks? :
    (fuel : Nat) → List Char → Cursor → Option (List Char × Cursor)
  | 0, _, _ => none
  | fuel + 1, acc, c =>
    if c.atDocumentMark then none
    else
      let c := c.skipWhile isSpaceOrTab
      if isBreak (c.peek 0) then
        let (br, c) := c.lineBreak
        readQuotedBreaks? fuel (acc ++ br) c
      else some (acc, c)

/- The white space inside a quoted scalar, folded. -/
def readQuotedGap?
    (c : Cursor) : Option (List Char × Cursor) := do
  let (gap, c) := c.readWhile isSpaceOrTab
  if c.peek 0 == endMark then none
  if isBreak (c.peek 0) then
    let (br, c) := c.lineBreak
    let (breaks, c) ← readQuotedBreaks? (c.ahead.length + 1) [] c
    let glue :=
      if br != ['\n'] then br
      else if breaks.isEmpty then [' ']
      else []
    return (glue ++ breaks, c)
  else return (gap, c)

/- An escape, after its backslash. -/
def readEscape?
    (c : Cursor) : Option (List Char × Cursor) :=
  let x := c.peek 0
  match escapes.lookup x with
  | some n => some ([Char.ofNat n], c.step)
  | none =>
    match escapeDigits? x with
    | some width =>
      let ds := (c.step).take width
      let n := hexValue ds
      if ds.length = width && ds.all isHexDigit && n < 0x110000 then
        some
          ([if 0xD800 ≤ n && n ≤ 0xDFFF then Char.ofNat 0xFFFD
            else Char.ofNat n],
            c.advance (width + 1))
      else none
    | none =>
      if isBreak x then
        let c := c.lineBreak.2
        readQuotedBreaks? (c.ahead.length + 1) [] c
      else none

/- The rest of a quoted scalar. -/
def readQuotedFrom? :
    (fuel : Nat) → (double : Bool) → List Char → Cursor →
      Option (Token × Cursor)
  | 0, _, _, _ => none
  | fuel + 1, double, acc, c =>
    let x := c.peek 0
    if x == endMark then none
    else if isGapOrEnd x then
      match readQuotedGap? c with
      | some (gap, c) => readQuotedFrom? fuel double (acc ++ gap) c
      | none => none
    else if double then
      if x == '"' then some (.scalar (String.ofList acc) false, c.step)
      else if x == '\\' then
        match readEscape? c.step with
        | some (cs, c) => readQuotedFrom? fuel double (acc ++ cs) c
        | none => none
      else readQuotedFrom? fuel double (acc ++ [x]) c.step
    else if x == '\'' then
      if c.peek 1 == '\'' then
        readQuotedFrom? fuel double (acc ++ ['\'']) (c.advance 2)
      else some (.scalar (String.ofList acc) false, c.step)
    else readQuotedFrom? fuel double (acc ++ [x]) c.step

/- A quoted scalar. -/
def readQuoted?
    (double : Bool)
    (c : Cursor) : Option (Token × Cursor) :=
  readQuotedFrom? (c.ahead.length + 1) double [] c.step

------------------------------------------------------------
-- Plain scalars
------------------------------------------------------------

/- Whether the character at the head ends a run of a plain scalar. -/
def endsRun
    (inFlow : Bool) :
    List Char → Bool
  | [] => true
  | x :: rest =>
    let next := rest.headD endMark
    isGapOrEnd x ||
      (x == ':' &&
        (isGapOrEnd next || (inFlow && ",[]\x7b\x7d".toList.contains next))) ||
      (inFlow && ",?[]\x7b\x7d".toList.contains x)

/- The number of characters of a run. -/
def runLength
    (inFlow : Bool) :
    List Char → Nat
  | [] => 0
  | x :: rest =>
    if endsRun inFlow (x :: rest) then 0 else runLength inFlow rest + 1

/-
  The breaks and spaces after a line break in a plain scalar;
  `none` if a document mark ends it.
-/
def readPlainBreaks :
    (fuel : Nat) → List Char → Cursor → Option (List Char) × Cursor
  | 0, acc, c => (some acc, c)
  | fuel + 1, acc, c =>
    let x := c.peek 0
    if x == ' ' then readPlainBreaks fuel acc c.step
    else if isBreak x then
      let (br, c) := c.lineBreak
      if c.atDocumentMark then (none, c)
      else readPlainBreaks fuel (acc ++ br) c
    else (some acc, c)

/-
  The white space after a run of a plain scalar, folded, and
  whether it held a line break. An empty result ends the
  scalar.
-/
def readPlainGap
    (c : Cursor) : List Char × Bool × Cursor :=
  let (gap, c) := c.readWhile (· == ' ')
  if isBreak (c.peek 0) then
    let (br, c) := c.lineBreak
    if c.atDocumentMark then ([], true, c)
    else
      match readPlainBreaks (c.ahead.length + 1) [] c with
      | (none, c) => ([], true, c)
      | (some breaks, c) =>
        let glue :=
          if br != ['\n'] then br
          else if breaks.isEmpty then [' ']
          else []
        (glue ++ breaks, true, c)
  else (gap, false, c)

/-
  The rest of a plain scalar. `gap` is the white space before
  the next run and `fresh` tells whether a line break stood in
  it, after which a key may start.
-/
def readPlainFrom :
    (fuel : Nat) → (inFlow : Bool) → (indent : Int) →
      (acc gap : List Char) → (fresh : Bool) → Cursor →
      Token × Bool × Cursor
  | 0, _, _, acc, _, fresh, c =>
    (.scalar (String.ofList acc) true, fresh, c)
  | fuel + 1, inFlow, indent, acc, gap, fresh, c =>
    let n := if c.peek 0 == '#' then 0 else runLength inFlow c.ahead
    if n = 0 then (.scalar (String.ofList acc) true, fresh, c)
    else
      let acc := acc ++ gap ++ c.take n
      let (gap, fresh, c) := readPlainGap (c.advance n)
      if gap.isEmpty || c.peek 0 == '#' ||
          (!inFlow && (c.column : Int) < indent) then
        (.scalar (String.ofList acc) true, fresh, c)
      else readPlainFrom fuel inFlow indent acc gap fresh c

/-
  A plain scalar inside a block of the given indentation, and
  whether a key may start after it.
-/
def readPlain
    (inFlow : Bool)
    (indent : Int)
    (c : Cursor) : Token × Bool × Cursor :=
  readPlainFrom (c.ahead.length + 1) inFlow (indent + 1) [] [] false c

end GuildWarden.Yaml
