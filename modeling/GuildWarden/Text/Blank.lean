/-
  This file defines blank characters and how chat text is cut
  at them: trimming, the words of a text, and the split of a
  text into its first word and the rest.

  Key definitions include:
    * `isBlank`
    * `trimStart`
    * `trimEnd`
    * `trim`
    * `words`
    * `splitWord?`
    * `lineCount`
-/

namespace GuildWarden.Text

------------------------------------------------------------
-- Blank characters
------------------------------------------------------------

/-
  A blank separates words: the space, tabs and line ends, the
  four information separators and the Unicode spaces.
-/
def isBlank
    (c : Char) : Bool :=
  let n := c.toNat
  (0x9 ≤ n && n ≤ 0xD) || (0x1C ≤ n && n ≤ 0x20) ||
    n == 0x85 || n == 0xA0 || n == 0x1680 ||
    (0x2000 ≤ n && n ≤ 0x200A) || n == 0x2028 || n == 0x2029 ||
    n == 0x202F || n == 0x205F || n == 0x3000

/- The blanks of ASCII are blanks. -/
theorem isBlank_of_isWhitespace
    {c : Char}
    (hBlank : c.isWhitespace = true) :
    isBlank c = true := by
  simp only [Char.isWhitespace, Bool.or_eq_true, decide_eq_true_eq]
    at hBlank
  rcases hBlank with ((rfl | rfl) | rfl) | rfl <;> rfl

------------------------------------------------------------
-- Trimming
------------------------------------------------------------

/- Drop the leading members that satisfy a test. -/
def dropEndWhile
    {α : Type}
    (p : α → Bool)
    (cs : List α) : List α :=
  (cs.reverse.dropWhile p).reverse

/- Drop leading blanks. -/
def trimStart
    (cs : List Char) : List Char :=
  cs.dropWhile isBlank

/- Drop trailing blanks. -/
def trimEnd
    (cs : List Char) : List Char :=
  dropEndWhile isBlank cs

/- Drop blanks at both ends. -/
def trim
    (cs : List Char) : List Char :=
  trimEnd (trimStart cs)

/- Drop blanks at both ends of a text. -/
def trimmed
    (s : String) : String :=
  String.ofList (trim s.toList)

------------------------------------------------------------
-- Words
------------------------------------------------------------

/-
  The first word of a text and what follows it, without the
  blanks between them; `none` if every character is blank.
  Trailing blanks of the rest are kept.
-/
def splitWord?
    (cs : List Char) : Option (List Char × List Char) :=
  match trimStart cs with
  | [] => none
  | c :: r =>
    some
      ((c :: r).takeWhile (fun x => !isBlank x),
        trimStart ((c :: r).dropWhile fun x => !isBlank x))

/-
  The words of a text, given the letters of the word that is
  being read, last one first.
-/
def wordsFrom : List Char → List Char → List (List Char)
  | [], [] => []
  | w, [] => [w.reverse]
  | w, c :: cs =>
    if isBlank c then
      match w with
      | [] => wordsFrom [] cs
      | _ => w.reverse :: wordsFrom [] cs
    else
      wordsFrom (c :: w) cs

/- The maximal runs of characters that are not blank. -/
def words
    (cs : List Char) : List (List Char) :=
  wordsFrom [] cs

------------------------------------------------------------
-- Lines
------------------------------------------------------------

/- Characters that end a line. -/
def isLineEnd
    (c : Char) : Bool :=
  let n := c.toNat
  (0xA ≤ n && n ≤ 0xD) || (0x1C ≤ n && n ≤ 0x1E) ||
    n == 0x85 || n == 0x2028 || n == 0x2029

/-
  The number of lines of a text; a carriage return and the
  line feed after it end one line, and a line end at the very
  end of the text opens no further line.
-/
def lineCount : List Char → Nat
  | [] => 0
  | [_] => 1
  | c :: d :: cs =>
    if isLineEnd c && !(c == '\r' && d == '\n') then
      1 + lineCount (d :: cs)
    else
      lineCount (d :: cs)

------------------------------------------------------------
-- Searching
------------------------------------------------------------

/- What follows a given beginning, if the text has it. -/
def dropPrefix? : List Char → List Char → Option (List Char)
  | [], cs => some cs
  | _ :: _, [] => none
  | p :: ps, c :: cs => if p = c then dropPrefix? ps cs else none

/-
  Cut a text at the first occurrence of a separator; `none` if
  it does not occur.
-/
def cutAt?
    (sep : List Char) :
    List Char → Option (List Char × List Char)
  | [] => (dropPrefix? sep []).map fun r => ([], r)
  | c :: cs =>
    match dropPrefix? sep (c :: cs) with
    | some r => some ([], r)
    | none => (cutAt? sep cs).map fun p => (c :: p.1, p.2)

/- Whether one text occurs in another. -/
def occursIn
    (needle : List Char)
    (cs : List Char) : Bool :=
  (cutAt? needle cs).isSome

/- Replace every occurrence of one character by a text. -/
def replaceChar
    (old : Char)
    (new : List Char)
    (cs : List Char) : List Char :=
  cs.flatMap fun c => if c = old then new else [c]

end GuildWarden.Text
