import GuildWarden.Number.Shortest
import GuildWarden.Payload.Basic
import GuildWarden.Text.Escape

/-
  This file defines the printing of a payload on one line, in
  the notation of JSON with ASCII characters only.

  Key definitions include:
    * `Payload.printText`
    * `Payload.print`
-/

namespace GuildWarden.Payload

open GuildWarden.Text GuildWarden.Number

/- An escape of one 16-bit unit. -/
def unitEscape
    (n : Nat) : List Char :=
  '\\' :: 'u' :: hexDigits 4 n

/- A character inside a printed text. -/
def printChar
    (c : Char) : List Char :=
  let n := c.toNat
  if c = '"' || c = '\\' then ['\\', c]
  else if c = '\n' then ['\\', 'n']
  else if c = '\r' then ['\\', 'r']
  else if c = '\t' then ['\\', 't']
  else if 32 ≤ n && n < 127 then [c]
  else if n < 0x10000 then unitEscape n
  else
    unitEscape (0xD800 + (n - 0x10000) / 0x400) ++
      unitEscape (0xDC00 + (n - 0x10000) % 0x400)

/- A text between marks. -/
def printText
    (s : String) : String :=
  String.ofList ('"' :: s.toList.flatMap printChar ++ ['"'])

/- The number words of values without digits. -/
def printFloat : Binary64 → String
  | .nan => "NaN"
  | .infinite true => "-Infinity"
  | .infinite false => "Infinity"
  | x => x.written

mutual

/- The notation of a payload. -/
def print : Payload → String
  | .null => "null"
  | .bool true => "true"
  | .bool false => "false"
  | .int n => decimal n
  | .float x => printFloat x
  | .text s => printText s
  | .list items => "[" ++ ",".intercalate (printItems items) ++ "]"
  | .map fs => "\x7b" ++ ",".intercalate (printFields fs) ++ "\x7d"

/- The notations of the members of a list. -/
def printItems : List Payload → List String
  | [] => []
  | p :: ps => p.print :: printItems ps

/- The notations of the fields of a map. -/
def printFields : List (String × Payload) → List String
  | [] => []
  | (k, p) :: fs => (printText k ++ ":" ++ p.print) :: printFields fs

end

end GuildWarden.Payload
