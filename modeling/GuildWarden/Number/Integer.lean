import GuildWarden.Text.Blank
import GuildWarden.Text.Digits

/-
  This file defines how a text is read as a whole number: an
  optional sign and decimal digits of any script, where single
  underscores may stand between digits and blanks around the
  whole.

  Key definitions include:
    * `isNumberBlank`
    * `readDigits?`
    * `readInteger?`
    * `groupThousands`
-/

namespace GuildWarden.Number

open GuildWarden.Text

/- More digits than this are refused. -/
def digitLimit : Nat :=
  4300

/-
  Blanks that may surround a number; the information
  separators may not.
-/
def isNumberBlank
    (c : Char) : Bool :=
  isBlank c && !(0x1C ≤ c.toNat && c.toNat ≤ 0x1F)

/- Drop the blanks around a number. -/
def trimNumber
    (cs : List Char) : List Char :=
  dropEndWhile isNumberBlank (cs.dropWhile isNumberBlank)

/-
  The values of a run of digits; single underscores may stand
  between two digits. An empty run is refused.
-/
def readDigits? : List Char → Option (List Nat)
  | [] => none
  | [c] => (digitValue? c).map ([·])
  | c :: '_' :: cs => do
    let d ← digitValue? c
    let ds ← readDigits? cs
    return d :: ds
  | c :: cs => do
    let d ← digitValue? c
    let ds ← readDigits? cs
    return d :: ds

/- Split a sign off; a text without one is positive. -/
def splitSign : List Char → Bool × List Char
  | '-' :: cs => (true, cs)
  | '+' :: cs => (false, cs)
  | cs => (false, cs)

/- Give a natural number a sign. -/
def signed
    (negative : Bool)
    (n : Nat) : Int :=
  if negative then -(n : Int) else n

/- The whole number that a text denotes. -/
def readInteger?
    (cs : List Char) : Option Int :=
  let (negative, body) := splitSign (trimNumber cs)
  match readDigits? body with
  | some ds =>
    if ds.length ≤ digitLimit then some (signed negative (digitsValue ds))
    else none
  | none => none

/- The decimal digits of a number. -/
def decimal
    (n : Int) : String :=
  toString n

/-
  Put a comma before every third digit, counted from the end;
  the digits are given last one first.
-/
def groupReversed : List Char → List Char
  | a :: b :: c :: d :: rest => a :: b :: c :: ',' :: groupReversed (d :: rest)
  | cs => cs

/- A whole number with its digits in groups of three. -/
def groupThousands
    (n : Int) : String :=
  let digits := String.ofList
    (groupReversed (decimal n.natAbs).toList.reverse).reverse
  if n < 0 then "-" ++ digits else digits

end GuildWarden.Number
