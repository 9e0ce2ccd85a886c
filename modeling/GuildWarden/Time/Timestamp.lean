import GuildWarden.Time.Calendar

/-
  This file defines timestamps: a date and a time of day with
  microseconds, with or without an offset from universal time.

  Key definitions include:
    * `Timestamp`
    * `Timestamp.instant`
    * `Timestamp.agrees`
    * `Timestamp.written`
    * `Timestamp.inUniversalTime?`
-/

namespace GuildWarden

/-
  A timestamp. The offset is given in microseconds and is
  shorter than a day; a timestamp without one is local.
-/
structure Timestamp where
  date : Calendar.Date
  hour : Nat
  minute : Nat
  second : Nat
  micro : Nat
  offset : Option Int
deriving DecidableEq, Repr

namespace Timestamp

/- Microseconds of a day. -/
def dayMicros : Int :=
  86400000000

/- The number of the first day of 1970. -/
def epochDay : Int :=
  719163

/- Microseconds since midnight. -/
def clockMicros
    (t : Timestamp) : Int :=
  (((t.hour * 60 + t.minute) * 60 + t.second) * 1000000 + t.micro : Nat)

/- Microseconds since the start of 1970, by the clock that is shown. -/
def wallMicros
    (t : Timestamp) : Int :=
  (Calendar.dayNumber t.date - epochDay) * dayMicros + t.clockMicros

/-
  Microseconds since the start of 1970 in universal time; a
  local timestamp is taken as universal.
-/
def instant
    (t : Timestamp) : Int :=
  t.wallMicros - t.offset.getD 0

/-
  Two timestamps agree if both have an offset and denote the
  same instant, or both are local and show the same time.
-/
def agrees
    (a b : Timestamp) : Bool :=
  a.offset.isSome == b.offset.isSome && a.instant == b.instant

/- The timestamp that shows the given microseconds since 1970. -/
def ofWallMicros?
    (micros : Int)
    (offset : Option Int) : Option Timestamp :=
  let day := Int.fdiv micros dayMicros + epochDay
  let rest := (Int.fmod micros dayMicros).toNat
  if day < 1 then none
  else
    let date := Calendar.ofDayNumber day.toNat
    let seconds := rest / 1000000
    if date.isValid then
      some
        {
          date
          hour := seconds / 3600
          minute := seconds / 60 % 60
          second := seconds % 60
          micro := rest % 1000000
          offset
        }
    else none

/-
  The same instant in universal time; `none` if it lies
  outside the years 1 to 9999.
-/
def inUniversalTime?
    (t : Timestamp) : Option Timestamp :=
  ofWallMicros? t.instant (some 0)

------------------------------------------------------------
-- Written form
------------------------------------------------------------

/- A number with leading zeros. -/
def padded
    (width n : Nat) : String :=
  let ds := (toString n).toList
  String.ofList (List.replicate (width - ds.length) '0' ++ ds)

/- A fraction of a second, left out when it is zero. -/
def writtenMicros
    (n : Nat) : String :=
  if n = 0 then "" else "." ++ padded 6 n

/- The written form of an offset. -/
def writtenOffset
    (offset : Int) : String :=
  let sign := if offset < 0 then "-" else "+"
  let micros := offset.natAbs
  let seconds := micros / 1000000
  let rest :=
    if seconds % 60 = 0 && micros % 1000000 = 0 then ""
    else ":" ++ padded 2 (seconds % 60) ++ writtenMicros (micros % 1000000)
  sign ++ padded 2 (seconds / 3600) ++ ":" ++
    padded 2 (seconds / 60 % 60) ++ rest

/- The date as year, month and day. -/
def writtenDate
    (d : Calendar.Date) : String :=
  padded 4 d.year ++ "-" ++ padded 2 d.month ++ "-" ++ padded 2 d.day

/- The written form of a timestamp, with a mark between date and time. -/
def writtenWith
    (mark : String)
    (t : Timestamp) : String :=
  writtenDate t.date ++ mark ++ padded 2 t.hour ++ ":" ++
    padded 2 t.minute ++ ":" ++ padded 2 t.second ++
    writtenMicros t.micro ++
    match t.offset with
    | some o => writtenOffset o
    | none => ""

/- The written form of a timestamp. -/
def written
    (t : Timestamp) : String :=
  writtenWith "T" t

end Timestamp

end GuildWarden
