import GuildWarden.Text.Case
import GuildWarden.Yaml.Kind
import GuildWarden.Yaml.Value

/-
  This file defines how the text of a scalar is read as a
  value of its kind.

  Key definitions include:
    * `Yaml.readBool?`
    * `Yaml.readInt?`
    * `Yaml.readFloat?`
    * `Yaml.readTime?`
    * `Yaml.readOctets?`
    * `Yaml.readScalar?`
-/

namespace GuildWarden.Yaml

open GuildWarden.Text GuildWarden.Number

------------------------------------------------------------
-- Truth values and numbers
------------------------------------------------------------

/- The words for the truth values. -/
def boolWords : List (String × Bool) :=
  [
    ("yes", true), ("no", false), ("true", true), ("false", false),
    ("on", true), ("off", false)
  ]

/- A truth value. -/
def readBool?
    (s : String) : Option Bool :=
  boolWords.lookup (lower s)

/- The parts of a text between colons. -/
def colonParts
    (cs : List Char) : List (List Char) :=
  (cs.splitOn ':')

/- The value of a digit to a base of at most sixteen. -/
def baseDigit?
    (base : Nat)
    (c : Char) : Option Nat :=
  let value? :=
    match digitValue? c with
    | some n => some n
    | none =>
      if 'a' ≤ c.toLower && c.toLower ≤ 'f' then
        some (c.toLower.toNat - 87)
      else none
  value?.filter (· < base)

/- A number to a base of at most sixteen. -/
def readBase?
    (base : Nat)
    (cs : List Char) : Option Int :=
  let (negative, body) := splitSign (trimNumber cs)
  if body.isEmpty then none
  else
    (body.mapM (baseDigit? base)).map fun ds =>
      signed negative (ds.foldl (fun n d => base * n + d) 0)

/- The value of parts that each count sixty of the next one. -/
def sixtyfold
    (parts : List Int) : Int :=
  parts.foldl (fun n d => 60 * n + d) 0

/-
  A whole number: binary, octal, hexadecimal, to base sixty,
  or decimal. Underscores are ignored.
-/
def readInt?
    (s : String) : Option Int :=
  let cs := s.toList.filter (· != '_')
  let (negative, body) := splitSign cs
  let value? :=
    match body with
    | [] => none
    | ['0'] => some 0
    | '0' :: 'b' :: rest => readBase? 2 rest
    | '0' :: 'x' :: rest => readBase? 16 rest
    | '0' :: rest => readBase? 8 ('0' :: rest)
    | _ =>
      if body.contains ':' then
        ((colonParts body).mapM readInteger?).map sixtyfold
      else readInteger? body
  value?.map fun n => if negative then -n else n

/- The number of a ratio with a sign. -/
def ofRat
    (q : Rat) : Binary64 :=
  .ofRatio (q < 0) q.num.natAbs q.den

/- The opposite of a number. -/
def opposite : Binary64 → Binary64
  | .nan => .nan
  | .infinite negative => .infinite !negative
  | .finite negative m e => .finite (!negative) m e

/-
  The value of parts that each count sixty of the next one,
  the last part first; every step is rounded.
-/
def sixtyfoldFrom
    (acc : Rat)
    (base : Nat) :
    List Binary64 → Option Rat
  | [] => some acc
  | x :: xs => do
    let q ← x.toRat?
    let term ← (ofRat (q * base)).toRat?
    let sum ← (ofRat (acc + term)).toRat?
    sixtyfoldFrom sum (base * 60) xs

/- A floating-point number. Underscores are ignored. -/
def readFloat?
    (s : String) : Option Binary64 :=
  let cs := (lower s).toList.filter (· != '_')
  let (negative, body) := splitSign cs
  let text := String.ofList body
  let value? :=
    if body.isEmpty then none
    else if text = ".inf" then some (.infinite false)
    else if text = ".nan" then some .nan
    else if body.contains ':' then do
      let parts ← (colonParts body).mapM readBinary64?
      return ofRat (← sixtyfoldFrom 0 1 parts.reverse)
    else readBinary64? body
  value?.map fun x => if negative then opposite x else x

------------------------------------------------------------
-- Times
------------------------------------------------------------

/- The number that ASCII digits denote. -/
def natural
    (ds : List Char) : Nat :=
  digitsValue (ds.map fun c => c.toNat - 48)

/- One or two digits. -/
def readShort?
    (cs : List Char) : Option (Nat × List Char) :=
  let ds := (cs.take 2).takeWhile Char.isDigit
  if ds.isEmpty then none else some (natural ds, cs.drop ds.length)

/- A given number of digits. -/
def readExact?
    (n : Nat)
    (cs : List Char) : Option (Nat × List Char) :=
  let ds := cs.take n
  if ds.length = n && ds.all Char.isDigit then
    some (natural ds, cs.drop n)
  else none

/- What follows a character that has to be there. -/
def after?
    (c : Char) :
    List Char → Option (List Char)
  | [] => none
  | x :: cs => if x = c then some cs else none

/- A date with a four-digit year. -/
def readDate?
    (cs : List Char) : Option (Calendar.Date × List Char) := do
  let (year, cs) ← readExact? 4 cs
  let (month, cs) ← readShort? (← after? '-' cs)
  let (day, cs) ← readShort? (← after? '-' cs)
  return (⟨year, month, day⟩, cs)

/- The first six digits of a fraction, as microseconds. -/
def micros
    (ds : List Char) : Nat :=
  let ds := ds.take 6
  natural (ds ++ List.replicate (6 - ds.length) '0')

/- An offset from universal time, in microseconds. -/
def readZone? : List Char → Option (Option Int)
  | [] => some none
  | ['Z'] => some (some 0)
  | c :: cs => do
    if c != '+' && c != '-' then none
    let (hours, cs) ← readShort? cs
    let minutes ←
      match cs with
      | [] => some 0
      | _ => do
        let (minutes, cs) ← readExact? 2 (← after? ':' cs)
        if cs.isEmpty then some minutes else none
    let total := ((hours * 60 + minutes) * 60000000 : Nat)
    if total < 86400000000 then
      some (some (if c = '-' then -(total : Int) else total))
    else none

/- A time of day and its offset, after a date. -/
def readClock?
    (date : Calendar.Date)
    (cs : List Char) : Option Timestamp := do
  let (hour, cs) ← readShort? cs
  let (minute, cs) ← readExact? 2 (← after? ':' cs)
  let (second, cs) ← readExact? 2 (← after? ':' cs)
  let (micro, cs) :=
    match cs with
    | '.' :: cs =>
      (micros (cs.takeWhile Char.isDigit), cs.dropWhile Char.isDigit)
    | _ => (0, cs)
  let offset ← readZone? (cs.dropWhile Kind.gap)
  if hour < 24 && minute < 60 && second < 60 then
    some ⟨date, hour, minute, second, micro, offset⟩
  else none

/- A date, or a date and a time after a mark or blanks. -/
def readTime?
    (s : String) : Option Value := do
  let cs := s.toList
  let cs := if cs.getLast? == some '\n' then cs.dropLast else cs
  let (date, rest) ← readDate? cs
  if !date.isValid then none
  match rest with
  | [] => some (.date date)
  | c :: cs =>
    let time ←
      if c == 'T' || c == 't' then readClock? date cs
      else if Kind.gap c then readClock? date (cs.dropWhile Kind.gap)
      else none
    some (.time time)

------------------------------------------------------------
-- Octets
------------------------------------------------------------

/- The six bits that a character stands for. -/
def sixBits?
    (c : Char) : Option Nat :=
  if 'A' ≤ c && c ≤ 'Z' then some (c.toNat - 65)
  else if 'a' ≤ c && c ≤ 'z' then some (c.toNat - 71)
  else if '0' ≤ c && c ≤ '9' then some (c.toNat + 4)
  else if c = '+' then some 62
  else if c = '/' then some 63
  else none

/-
  Octets from characters of six bits each. `phase` counts the
  characters of the present group of four, `left` holds the
  bits that are not yet used, and `pads` counts the fillers;
  other characters are ignored.
-/
def octetsFrom?
    (phase left pads : Nat) :
    List Char → Option (List Nat)
  | [] => if phase = 0 then some [] else none
  | c :: cs =>
    if c = '=' then
      if 2 ≤ phase then
        if 4 ≤ phase + pads + 1 then some []
        else octetsFrom? phase left (pads + 1) cs
      else octetsFrom? phase left pads cs
    else
      match sixBits? c with
      | none => octetsFrom? phase left pads cs
      | some n =>
        if phase = 0 then octetsFrom? 1 n 0 cs
        else if phase = 1 then
          (octetsFrom? 2 (n % 16) 0 cs).map fun r =>
            (left * 4 + n / 16) :: r
        else if phase = 2 then
          (octetsFrom? 3 (n % 4) 0 cs).map fun r =>
            (left * 16 + n / 4) :: r
        else
          (octetsFrom? 0 0 0 cs).map fun r => (left * 64 + n) :: r

/- Octets that are written with ASCII characters. -/
def readOctets?
    (s : String) : Option (List Nat) :=
  if s.toList.all fun c => c.toNat < 128 then octetsFrom? 0 0 0 s.toList
  else none

------------------------------------------------------------
-- Scalars
------------------------------------------------------------

/- The value of a scalar of the given kind. -/
def readScalar?
    (kind : Kind)
    (s : String) : Option Value :=
  match kind with
  | .null => some .null
  | .bool => (readBool? s).map .bool
  | .int => (readInt? s).map .int
  | .float => (readFloat? s).map .float
  | .octets => (readOctets? s).map .octets
  | .time => readTime? s
  | .text => some (.text s)
  | _ => none

end GuildWarden.Yaml
