import GuildWarden.Text.CaseTable
import GuildWarden.Text.Digits

/-
  This file defines the small letters of a text and its case
  folding. A capital sigma becomes a final sigma exactly where
  it ends a word.

  Key definitions include:
    * `lower`
    * `casefold`
-/

namespace GuildWarden.Text

/- Apply the first row of a shift table that covers a character. -/
def shiftCase
    (table : List CaseShift)
    (c : Char) : Char :=
  match table.find? fun row => row.covers c.toNat with
  | some row => Char.ofNat (Int.toNat (c.toNat + row.distance))
  | none => c

------------------------------------------------------------
-- Small letters
------------------------------------------------------------

/-
  The next character that is not case-ignorable is cased.
-/
def casedAhead : List Char → Bool
  | [] => false
  | c :: cs =>
    if inRanges ignorableRanges c.toNat then casedAhead cs
    else inRanges casedRanges c.toNat

/-
  The small form of one character, where `before` holds the
  characters before it, last one first, and `after` those that
  follow.
-/
def lowerChar
    (before : List Char)
    (c : Char)
    (after : List Char) : List Char :=
  if c.toNat < 128 then [c.toLower]
  else if c.toNat = 0x3A3 then
    [if casedAhead before && !casedAhead after then 'ς' else 'σ']
  else if c.toNat = 0x130 then ['i', Char.ofNat 0x307]
  else [shiftCase lowerShifts c]

/- Small letters of a text, after the characters `before`. -/
def lowerFrom
    (before : List Char) :
    List Char → List Char
  | [] => []
  | c :: cs => lowerChar before c cs ++ lowerFrom (c :: before) cs

/- The text in small letters. -/
def lower
    (s : String) : String :=
  String.ofList (lowerFrom [] s.toList)

------------------------------------------------------------
-- Case folding
------------------------------------------------------------

/- The folded form of one character. -/
def foldChar
    (c : Char) : List Char :=
  if c.toNat < 128 then [c.toLower]
  else
    match foldExpansions.lookup c.toNat with
    | some ns => ns.map Char.ofNat
    | none => [shiftCase foldShifts c]

/- The form in which texts that differ only by case agree. -/
def casefold
    (s : String) : String :=
  String.ofList (s.toList.flatMap foldChar)

end GuildWarden.Text
