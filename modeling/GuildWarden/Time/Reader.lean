import GuildWarden.Text.Blank
import GuildWarden.Text.Utf8
import GuildWarden.Time.Timestamp

/-
  This file defines the reading of a text as a timestamp: a
  calendar date or a week date, with or without hyphens; any
  one character; a time of day with or without colons; and an
  offset.

  Key definitions include:
    * `Timestamp.separatorIndex?`
    * `Timestamp.readDate?`
    * `Timestamp.readClock?`
    * `Timestamp.ofOctets?`
    * `Timestamp.read?`
-/

namespace GuildWarden.Timestamp

------------------------------------------------------------
-- Octets
------------------------------------------------------------

/- The octet of a character of ASCII. -/
abbrev octet
    (c : Char) : Nat :=
  c.toNat

/- Whether an octet is a digit. -/
def isDigitOctet
    (b : Nat) : Bool :=
  48 ≤ b && b ≤ 57

/- Whether the octet at an index is a given character. -/
def isAt
    (bs : List Nat)
    (i : Nat)
    (c : Char) : Bool :=
  bs[i]? == some (octet c)

/- Read a number of exactly `n` digits. -/
def readDigits? : (n : Nat) → (acc : Nat) → List Nat → Option (Nat × List Nat)
  | 0, acc, bs => some (acc, bs)
  | n + 1, acc, b :: bs =>
    if isDigitOctet b then readDigits? n (10 * acc + (b - 48)) bs
    else none
  | _ + 1, _, [] => none

------------------------------------------------------------
-- Dates
------------------------------------------------------------

/-
  Where the date ends. A week date may or may not give the day
  of the week; if it is not clear, a hyphen is taken as the
  separator, and digits without hyphens are counted: the parts
  of a time come in pairs.
-/
def separatorIndex?
    (bs : List Nat) : Option Nat :=
  let n := bs.length
  if n = 7 then some 7
  else if isAt bs 4 '-' then
    if isAt bs 5 'W' then
      if 8 < n && isAt bs 8 '-' then
        if n = 9 then none
        else if (bs[10]?.map isDigitOctet).getD false then some 8
        else some 10
      else some 8
    else some 10
  else if isAt bs 4 'W' then
    let i := 7 + ((bs.drop 7).takeWhile isDigitOctet).length
    if i < 9 then some i
    else if i % 2 = 0 then some 7
    else some 8
  else some 8

/- Drop a given character. -/
def expect?
    (c : Char) : List Nat → Option (List Nat)
  | b :: bs => if b = octet c then some bs else none
  | [] => none

/- Drop a hyphen where the date is written with hyphens. -/
def hyphen?
    (hyphens : Bool)
    (bs : List Nat) : Option (List Nat) :=
  if hyphens then expect? '-' bs else some bs

/- The date at the start of the octets, which ends at `stop`. -/
def readDate?
    (stop : Nat)
    (bs : List Nat) : Option Calendar.Date := do
  let (year, rest) ← readDigits? 4 0 bs
  let hyphens := isAt rest 0 '-'
  let rest ← hyphen? hyphens rest
  if isAt rest 0 'W' then
    let (week, rest) ← readDigits? 2 0 (rest.drop 1)
    if bs.length - rest.length < stop then
      let rest ← hyphen? hyphens rest
      let (day, _) ← readDigits? 1 0 rest
      Calendar.ofWeek? year week day
    else
      Calendar.ofWeek? year week 1
  else
    let (month, rest) ← readDigits? 2 0 rest
    let rest ← hyphen? hyphens rest
    let (day, _) ← readDigits? 2 0 rest
    return ⟨year, month, day⟩

------------------------------------------------------------
-- Times of day
------------------------------------------------------------

/- A time of day, and whether octets were left after it. -/
structure Clock where
  hour : Nat
  minute : Nat
  second : Nat
  micro : Nat
  leftover : Bool

/-
  The parts of a time of day from a list of pairs of digits.
-/
def clockOf
    (parts : List Nat)
    (micro : Nat)
    (leftover : Bool) : Clock where
  hour := parts.getD 0 0
  minute := parts.getD 1 0
  second := parts.getD 2 0
  micro := micro
  leftover := leftover

/- Up to six digits of a fraction; further digits are dropped. -/
def readFraction?
    (parts : List Nat)
    (followed : Bool)
    (bs : List Nat) : Option Clock := do
  let n := min 6 bs.length
  let (micro, rest) ← readDigits? n 0 bs
  let rest := rest.dropWhile isDigitOctet
  return clockOf parts (micro * Nat.pow 10 (6 - n)) (followed || !rest.isEmpty)

/-
  The remaining pairs of digits of a time of day; `colons`
  tells whether a colon stands after the hour. `followed`
  tells whether an offset follows the octets.
-/
def readPairs?
    (followed : Bool) :
    (pairs : Nat) → (parts : List Nat) → (colons : Bool) →
      List Nat → Option Clock
  | 0, parts, _, bs => readFraction? parts followed bs
  | pairs + 1, parts, colons, bs =>
    match readDigits? 2 0 bs with
    | none => none
    | some (v, rest) =>
      let parts := parts ++ [v]
      match rest with
      | [] => some (clockOf parts 0 followed)
      | [b] => some (clockOf parts 0 (b != 0))
      | c :: after =>
        let colons := if parts.length = 1 then c == octet ':' else colons
        if colons && c == octet ':' then
          readPairs? followed pairs parts colons after
        else if c == octet '.' || c == octet ',' then
          readFraction? parts followed after
        else if colons then none
        else readPairs? followed pairs parts colons rest

/- The time of day that the octets denote. -/
def readClock?
    (followed : Bool)
    (bs : List Nat) : Option Clock :=
  readPairs? followed 3 [] true bs

------------------------------------------------------------
-- Timestamps
------------------------------------------------------------

/- Octets that start an offset. -/
def startsOffset
    (b : Nat) : Bool :=
  b == octet '+' || b == octet '-' || b == octet 'Z'

/-
  The offset in microseconds; an offset of less than a second
  counts as none.
-/
def readOffset? : List Nat → Option Int
  | [] => none
  | b :: bs =>
    if b = octet 'Z' then (if bs.isEmpty then some 0 else none)
    else
      match readClock? false bs with
      | none => none
      | some c =>
        let seconds := (c.hour * 60 + c.minute) * 60 + c.second
        let micros : Int := seconds * 1000000 + c.micro
        let micros := if b = octet '-' then -micros else micros
        if c.leftover then none
        else if seconds = 0 then some 0
        else if dayMicros ≤ micros.natAbs then none
        else some micros

/- A timestamp whose parts are in range. -/
def ofParts?
    (date : Calendar.Date)
    (c : Clock)
    (offset : Option Int) : Option Timestamp :=
  if date.isValid && c.hour < 24 && c.minute < 60 && c.second < 60 then
    some ⟨date, c.hour, c.minute, c.second, c.micro, offset⟩
  else none

/- The octets of the character that separates date and time. -/
def separatorSize
    (b : Nat) : Nat :=
  if b < 0x80 then 1
  else if 0xE0 ≤ b && b < 0xF0 then 3
  else if 0xF0 ≤ b then 4
  else 2

/- The timestamp that octets denote. -/
def ofOctets?
    (bs : List Nat) : Option Timestamp := do
  if bs.length < 7 then none
  let i ← separatorIndex? bs
  let date ← readDate? i bs
  match bs.drop i with
  | [] => ofParts? date (clockOf [] 0 false) none
  | b :: rest =>
    let time := rest.drop (separatorSize b - 1)
    let body := time.takeWhile fun x => !startsOffset x
    match time.dropWhile fun x => !startsOffset x with
    | [] =>
      let c ← readClock? false body
      if c.leftover then none
      ofParts? date c none
    | zone =>
      let c ← readClock? true body
      let offset ← readOffset? zone
      ofParts? date c (some offset)

/-
  The timestamp that a text denotes. The letter `Z` stands for
  universal time wherever it occurs.
-/
def read?
    (s : String) : Option Timestamp :=
  let cs := Text.replaceChar 'Z' "+00:00".toList s.toList
  ofOctets? (cs.flatMap Utf8.encodeChar)

end GuildWarden.Timestamp
