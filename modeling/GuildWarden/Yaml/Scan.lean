import GuildWarden.Yaml.Lexeme

/-
  This file defines the scan of a document into its tokens.
  Indentation opens and closes blocks; where a key turns up
  after its text has been read, the tokens of the key are put
  in front of that text.

  Key definitions include:
    * `Yaml.Scan`
    * `Yaml.Scan.next?`
    * `Yaml.scan?`
-/

namespace GuildWarden.Yaml

/- A token that may turn out to be a key. -/
structure KeyStart where
  level : Nat
  position : Nat
  required : Bool
  index : Nat
  line : Nat
  column : Nat

/-
  The state of a scan: where it is, the tokens so far, the
  depth of brackets, the indentations of the open blocks, the
  possible keys, and whether a key may start here.
-/
structure Scan where
  cursor : Cursor
  tokens : Array Token
  depth : Nat
  indent : Int
  indents : List Int
  keyAllowed : Bool
  keys : List KeyStart

namespace Scan

/- Add a token. -/
def push
    (s : Scan)
    (t : Token) : Scan :=
  { s with tokens := s.tokens.push t }

/- Insert a token at a position. -/
def insert
    (s : Scan)
    (position : Nat)
    (t : Token) : Scan :=
  { s with
    tokens := s.tokens.extract 0 position ++ #[t] ++
      s.tokens.extract position s.tokens.size }

------------------------------------------------------------
-- Possible keys
------------------------------------------------------------

/- A key ends on its line, and within 1024 characters. -/
def isStale
    (s : Scan)
    (k : KeyStart) : Bool :=
  k.line != s.cursor.line || 1024 < s.cursor.index - k.index

/- Forget keys that can no longer be completed. -/
def dropStale?
    (s : Scan) : Option Scan :=
  if s.keys.any fun k => s.isStale k && k.required then none
  else some { s with keys := s.keys.filter fun k => !s.isStale k }

/- Forget the possible key at the present depth. -/
def dropKey?
    (s : Scan) : Option Scan :=
  if s.keys.any fun k => k.level == s.depth && k.required then none
  else some { s with keys := s.keys.filter fun k => k.level != s.depth }

/- Note that the next token may be a key. -/
def saveKey?
    (s : Scan) : Option Scan :=
  if !s.keyAllowed then some s
  else do
    let s' ← s.dropKey?
    let c := s.cursor
    let required := s.depth == 0 && s.indent == c.column
    let key : KeyStart :=
      ⟨s.depth, s.tokens.size, required, c.index, c.line, c.column⟩
    return { s' with keys := key :: s'.keys }

------------------------------------------------------------
-- Indentation
------------------------------------------------------------

/- Close the blocks that are indented deeper than a column. -/
def unwindFrom
    (column : Int) :
    (indents : List Int) → Scan → Scan
  | [], s => s
  | i :: rest, s =>
    if column < s.indent then
      unwindFrom column rest
        { s.push .blockEnd with indent := i, indents := rest }
    else s

/- Brackets suspend the rules of indentation. -/
def unwind
    (column : Int)
    (s : Scan) : Scan :=
  if s.depth = 0 then unwindFrom column s.indents s else s

/- Open a block at a column that is deeper than the present one. -/
def openBlock
    (s : Scan)
    (column position : Nat)
    (t : Token) : Scan :=
  if s.depth = 0 && s.indent < column then
    { s.insert position t with
      indent := column
      indents := s.indent :: s.indents }
  else s

------------------------------------------------------------
-- Tokens
------------------------------------------------------------

/- Pass white space and comments; a line break allows a key. -/
def skipGaps : (fuel : Nat) → Scan → Scan
  | 0, s => s
  | fuel + 1, s =>
    let c := s.cursor
    let c :=
      if c.index = 0 && (c.peek 0).toNat = 0xFEFF then c.step else c
    let c := c.skipWhile (· == ' ')
    let c :=
      if c.peek 0 == '#' then c.skipWhile fun x => !isBreakOrEnd x else c
    if isBreak (c.peek 0) then
      skipGaps fuel
        { s with
          cursor := c.lineBreak.2
          keyAllowed := s.keyAllowed || s.depth == 0 }
    else { s with cursor := c }

/- A token that ends all blocks: a directive or a document mark. -/
def boundary?
    (s : Scan)
    (read : Cursor → Option (Token × Cursor)) : Option Scan := do
  let s ← (s.unwind (-1)).dropKey?
  let (t, c) ← read s.cursor
  return { s.push t with cursor := c, keyAllowed := false }

/- A document mark. -/
def mark
    (t : Token)
    (c : Cursor) : Option (Token × Cursor) :=
  some (t, c.advance 3)

/- An opening bracket. -/
def open?
    (s : Scan)
    (t : Token) : Option Scan := do
  let s ← s.saveKey?
  return { s.push t with
    cursor := s.cursor.step, depth := s.depth + 1, keyAllowed := true }

/- A closing bracket. -/
def close?
    (s : Scan)
    (t : Token) : Option Scan := do
  if s.depth = 0 then none
  let s ← s.dropKey?
  return { s.push t with
    cursor := s.cursor.step, depth := s.depth - 1, keyAllowed := false }

/- A comma between brackets. -/
def comma?
    (s : Scan) : Option Scan := do
  let s ← s.dropKey?
  return { s.push .flowEntry with
    cursor := s.cursor.step, keyAllowed := true }

/- The dash of a list entry. -/
def dash?
    (s : Scan) : Option Scan := do
  if s.depth = 0 && !s.keyAllowed then none
  let s := s.openBlock s.cursor.column s.tokens.size .blockListStart
  let s ← { s with keyAllowed := true }.dropKey?
  return { s.push .entry with cursor := s.cursor.step }

/- The question mark of a key. -/
def question?
    (s : Scan) : Option Scan := do
  if s.depth = 0 && !s.keyAllowed then none
  let s := s.openBlock s.cursor.column s.tokens.size .blockMapStart
  let s ← { s with keyAllowed := s.depth == 0 }.dropKey?
  return { s.push .key with cursor := s.cursor.step }

/- The colon of a value; it makes a possible key before it a key. -/
def colon?
    (s : Scan) : Option Scan := do
  match s.keys.find? fun k => k.level == s.depth with
  | some k =>
    let s := { s with keys := s.keys.filter fun k => k.level != s.depth }
    let s := s.insert k.position .key
    let s := s.openBlock k.column k.position .blockMapStart
    return { s.push .value with
      cursor := s.cursor.step, keyAllowed := false }
  | none =>
    if s.depth = 0 && !s.keyAllowed then none
    let s := s.openBlock s.cursor.column s.tokens.size .blockMapStart
    let s ← { s with keyAllowed := s.depth == 0 }.dropKey?
    return { s.push .value with cursor := s.cursor.step }

/- A token that may be a key itself. -/
def keyLike?
    (s : Scan)
    (read : Cursor → Option (Token × Cursor)) : Option Scan := do
  let s ← s.saveKey?
  let (t, c) ← read s.cursor
  return { s.push t with cursor := c, keyAllowed := false }

/- A block scalar; a key may follow it. -/
def block?
    (s : Scan)
    (folded : Bool) : Option Scan := do
  let s ← { s with keyAllowed := true }.dropKey?
  let (t, c) ← readBlockScalar? folded s.indent s.cursor
  return { s.push t with cursor := c }

/- A plain scalar. -/
def plain?
    (s : Scan) : Option Scan := do
  let s ← s.saveKey?
  let (t, fresh, c) := readPlain (s.depth != 0) s.indent s.cursor
  return { s.push t with cursor := c, keyAllowed := fresh }

/- Characters that cannot start a plain scalar. -/
def indicators : List Char :=
  "-?:,[]\x7b\x7d#&*!|>'\"%@`".toList

/- Whether a plain scalar starts here. -/
def startsPlain
    (s : Scan) : Bool :=
  let x := s.cursor.peek 0
  (!isGapOrEnd x && !indicators.contains x) ||
    (!isGapOrEnd (s.cursor.peek 1) &&
      (x == '-' || (s.depth == 0 && (x == '?' || x == ':'))))

/- Whether the mark at hand stands alone. -/
def standsAlone
    (s : Scan) : Bool :=
  isGapOrEnd (s.cursor.peek 1)

/- The next token; the flag tells that the end was reached. -/
def next?
    (s : Scan) : Option (Bool × Scan) := do
  let s ← (skipGaps (s.cursor.ahead.length + 1) s).dropStale?
  let s := s.unwind s.cursor.column
  let c := s.cursor
  let x := c.peek 0
  let more (r : Option Scan) : Option (Bool × Scan) :=
    r.map fun s => (false, s)
  if x == endMark then
    let s ← (s.unwind (-1)).dropKey?
    return (true, s.push .streamEnd)
  else if x == '%' && c.column = 0 then more (s.boundary? readDirective?)
  else if c.column = 0 && c.atMark '-' then
    more (s.boundary? (mark .documentStart))
  else if c.column = 0 && c.atMark '.' then
    more (s.boundary? (mark .documentEnd))
  else if x == '[' then more (s.open? .flowListStart)
  else if x == '\x7b' then more (s.open? .flowMapStart)
  else if x == ']' then more (s.close? .flowListEnd)
  else if x == '\x7d' then more (s.close? .flowMapEnd)
  else if x == ',' then more s.comma?
  else if x == '-' && s.standsAlone then more s.dash?
  else if x == '?' && (s.depth != 0 || s.standsAlone) then
    more s.question?
  else if x == ':' && (s.depth != 0 || s.standsAlone) then more s.colon?
  else if x == '*' then
    more (s.keyLike? fun c =>
      (readAnchor? c).map fun r => (.alias r.1, r.2))
  else if x == '&' then
    more (s.keyLike? fun c =>
      (readAnchor? c).map fun r => (.anchor r.1, r.2))
  else if x == '!' then more (s.keyLike? readTag?)
  else if x == '|' && s.depth = 0 then more (s.block? false)
  else if x == '>' && s.depth = 0 then more (s.block? true)
  else if x == '\'' then more (s.keyLike? (readQuoted? false))
  else if x == '"' then more (s.keyLike? (readQuoted? true))
  else if s.startsPlain then more s.plain?
  else none

/- All tokens; every one but the last takes a character. -/
def run? : (fuel : Nat) → Scan → Option (List Token)
  | 0, _ => none
  | fuel + 1, s =>
    match s.next? with
    | none => none
    | some (true, s) => some s.tokens.toList
    | some (false, s) => run? fuel s

end Scan

/- The tokens of a document. -/
def scan?
    (cs : List Char) : Option (List Token) :=
  if cs.all isAllowed then
    Scan.run? (cs.length + 2)
      {
        cursor := ⟨cs, 0, 0, 0⟩
        tokens := #[]
        depth := 0
        indent := -1
        indents := []
        keyAllowed := true
        keys := []
      }
  else none

end GuildWarden.Yaml
