import GuildWarden.Text.Digits
import GuildWarden.Text.PrintableTable
import GuildWarden.Text.Utf8

/-
  This file defines two ways of writing characters by an
  escape. Quoted text stands between quote marks, and every
  character that cannot be printed is shown by an escape. In
  percent encoding, every octet of a character that is not
  safe is written as a percent sign and two hexadecimal digits.

  Key definitions include:
    * `hexDigits`
    * `quoted`
    * `percentOctet`
    * `percentEncode`
    * `hexOctet?`
    * `isUnreserved`
-/

namespace GuildWarden.Text

------------------------------------------------------------
-- Quoted text
------------------------------------------------------------

/- The digits of a number to a base of at most sixteen. -/
def hexDigit
    (n : Nat) : Char :=
  if n < 10 then Char.ofNat (48 + n) else Char.ofNat (87 + n)

/- The lowest `width` hexadecimal digits of a number. -/
def hexDigits : (width : Nat) → Nat → List Char
  | 0, _ => []
  | w + 1, n => hexDigits w (n / 16) ++ [hexDigit (n % 16)]

/- Characters that are shown as they are. -/
def isPrintable
    (c : Char) : Bool :=
  if c.toNat < 128 then 32 ≤ c.toNat && c.toNat < 127
  else !inRanges unprintableRanges c.toNat

/- One character inside the given quote marks. -/
def quotedChar
    (mark : Char)
    (c : Char) : List Char :=
  if c = mark || c = '\\' then ['\\', c]
  else if c = '\t' then ['\\', 't']
  else if c = '\n' then ['\\', 'n']
  else if c = '\r' then ['\\', 'r']
  else if isPrintable c then [c]
  else if c.toNat < 0x100 then '\\' :: 'x' :: hexDigits 2 c.toNat
  else if c.toNat < 0x10000 then '\\' :: 'u' :: hexDigits 4 c.toNat
  else '\\' :: 'U' :: hexDigits 8 c.toNat

/-
  Single marks are used unless the text holds one and holds no
  double mark.
-/
def quoteMark
    (cs : List Char) : Char :=
  if cs.contains '\'' && !cs.contains '"' then '"' else '\''

/- The quoted form of a text. -/
def quoted
    (s : String) : String :=
  let mark := quoteMark s.toList
  String.ofList (mark :: s.toList.flatMap (quotedChar mark) ++ [mark])

------------------------------------------------------------
-- Percent encoding
------------------------------------------------------------

/- Letters, digits and four marks never need an encoding. -/
def isUnreserved
    (c : Char) : Bool :=
  c.isAlphanum || c == '_' || c == '.' || c == '-' || c == '~'

/- An octet as a percent sign and two capital digits. -/
def percentOctet
    (n : Nat) : List Char :=
  '%' :: (hexDigits 2 n).map Char.toUpper

/- A character as its octets, each after a percent sign. -/
def percentChar
    (c : Char) : List Char :=
  (Utf8.encodeChar c).flatMap percentOctet

/- Encode the characters that are not safe. -/
def percentEncode
    (safe : Char → Bool)
    (cs : List Char) : List Char :=
  cs.flatMap fun c => if safe c then [c] else percentChar c

/- The value of a hexadecimal digit. -/
def hexDigitValue?
    (c : Char) : Option Nat :=
  if '0' ≤ c && c ≤ '9' then some (c.toNat - 48)
  else if 'a' ≤ c && c ≤ 'f' then some (c.toNat - 87)
  else if 'A' ≤ c && c ≤ 'F' then some (c.toNat - 55)
  else none

/- The octet that two hexadecimal digits denote. -/
def hexOctet?
    (a b : Char) : Option Nat := do
  return (← hexDigitValue? a) * 16 + (← hexDigitValue? b)

end GuildWarden.Text
