/-
  This file defines the tokens of a document and the place
  that a scan of its characters has reached.

  Key definitions include:
    * `Yaml.Token`
    * `Yaml.Cursor`
    * `Yaml.Cursor.advance`
    * `Yaml.Cursor.lineBreak`
-/

namespace GuildWarden.Yaml

/- The tokens of a document. -/
inductive Token where
  | versionDirective (major : Nat)
  | tagDirective (handle lead : String)
  | otherDirective
  | documentStart
  | documentEnd
  | blockListStart
  | blockMapStart
  | blockEnd
  | flowListStart
  | flowListEnd
  | flowMapStart
  | flowMapEnd
  | entry
  | flowEntry
  | key
  | value
  | alias (name : String)
  | anchor (name : String)
  | tag (handle : Option String) (suffix : String)
  | scalar (text : String) (plain : Bool)
  | streamEnd
deriving DecidableEq, Repr

------------------------------------------------------------
-- Classes of characters
------------------------------------------------------------

/- Stands for the end of the characters; no document holds it. -/
def endMark : Char :=
  Char.ofNat 0

/- Characters that break a line. -/
def isBreak
    (c : Char) : Bool :=
  c == '\n' || c == '\r' || c.toNat == 0x85 ||
    c.toNat == 0x2028 || c.toNat == 0x2029

/- A line break or the end. -/
def isBreakOrEnd
    (c : Char) : Bool :=
  isBreak c || c == endMark

/- A space, a line break or the end. -/
def isSpaceOrEnd
    (c : Char) : Bool :=
  isBreakOrEnd c || c == ' '

/- A space, a tab, a line break or the end. -/
def isGapOrEnd
    (c : Char) : Bool :=
  isSpaceOrEnd c || c == '\t'

/- Characters of names. -/
def isNameChar
    (c : Char) : Bool :=
  c.isAlphanum || c == '-' || c == '_'

/- Hexadecimal digits. -/
def isHexDigit
    (c : Char) : Bool :=
  c.isDigit || ('a' ≤ c && c ≤ 'f') || ('A' ≤ c && c ≤ 'F')

/- Characters that a document may hold. -/
def isAllowed
    (c : Char) : Bool :=
  let n := c.toNat
  n == 9 || n == 10 || n == 13 || (0x20 ≤ n && n ≤ 0x7E) ||
    n == 0x85 || (0xA0 ≤ n && n ≤ 0xD7FF) ||
    (0xE000 ≤ n && n ≤ 0xFFFD) || 0x10000 ≤ n

------------------------------------------------------------
-- Cursors
------------------------------------------------------------

/-
  A place in a document: the characters ahead, their number
  so far, and the line and column.
-/
structure Cursor where
  ahead : List Char
  index : Nat
  line : Nat
  column : Nat

namespace Cursor

/- The character that lies `i` characters ahead. -/
def peek
    (c : Cursor)
    (i : Nat) : Char :=
  c.ahead.getD i endMark

/- The next `n` characters. -/
def take
    (c : Cursor)
    (n : Nat) : List Char :=
  c.ahead.take n

/- Pass one character. -/
def step
    (c : Cursor) : Cursor :=
  match c.ahead with
  | [] => c
  | x :: rest =>
    let ends := isBreak x && !(x == '\r' && rest.head? == some '\n')
    {
      ahead := rest
      index := c.index + 1
      line := if ends then c.line + 1 else c.line
      column :=
        if ends then 0
        else if x.toNat = 0xFEFF then c.column
        else c.column + 1
    }

/- Pass a number of characters. -/
def advance
    (c : Cursor) : Nat → Cursor
  | 0 => c
  | n + 1 => (c.step).advance n

/- Pass the leading characters that satisfy a test. -/
def skipWhile
    (c : Cursor)
    (p : Char → Bool) : Cursor :=
  c.advance (c.ahead.takeWhile p).length

/- Read the leading characters that satisfy a test. -/
def readWhile
    (c : Cursor)
    (p : Char → Bool) : List Char × Cursor :=
  (c.ahead.takeWhile p, c.skipWhile p)

/- Pass a line break, if there is one, and give the text it stands for. -/
def lineBreak
    (c : Cursor) : List Char × Cursor :=
  let x := c.peek 0
  if x == '\r' && c.peek 1 == '\n' then (['\n'], c.advance 2)
  else if x == '\r' || x == '\n' || x.toNat == 0x85 then
    (['\n'], c.step)
  else if isBreak x then ([x], c.step)
  else ([], c)

/- Whether a document mark of three characters lies ahead. -/
def atMark
    (c : Cursor)
    (mark : Char) : Bool :=
  c.take 3 == [mark, mark, mark] && isGapOrEnd (c.peek 3)

/- Whether a document starts or ends here. -/
def atDocumentMark
    (c : Cursor) : Bool :=
  c.atMark '-' || c.atMark '.'

end Cursor

end GuildWarden.Yaml
