import GuildWarden.Payload.Display
import GuildWarden.Payload.Order
import GuildWarden.Time.Timestamp

/-
  This file defines the values that a configuration document
  holds, the text that stands for a value, and when two values
  are the same key of a map.

  Key definitions include:
    * `Yaml.Value`
    * `Yaml.Value.ofPayload`
    * `Yaml.Value.isFilled`
    * `Yaml.Value.display`
    * `Yaml.Value.isWritable`
    * `Yaml.Value.sameKey`
    * `Yaml.Value.putEntry`
-/

namespace GuildWarden.Yaml

open GuildWarden.Text GuildWarden.Number

/-
  A value. A loop is a list or a map inside itself. The keys
  of a map and the members of a set are distinct and in the
  order in which they were first written.
-/
inductive Value where
  | null
  | bool (value : Bool)
  | int (value : Int)
  | float (value : Binary64)
  | text (value : String)
  | octets (value : List Nat)
  | date (value : Calendar.Date)
  | time (value : Timestamp)
  | pair (first second : Value)
  | list (items : List Value)
  | set (members : List Value)
  | map (entries : List (Value × Value))
  | loop (ofMap : Bool)
deriving Repr, Inhabited

namespace Value

------------------------------------------------------------
-- Payloads
------------------------------------------------------------

mutual

/- The value of a payload. -/
def ofPayload : Payload → Value
  | .null => .null
  | .bool b => .bool b
  | .int n => .int n
  | .float x => .float x
  | .text s => .text s
  | .list items => .list (ofItems items)
  | .map fs => .map (ofFields fs)

/- The values of the members of a list. -/
def ofItems : List Payload → List Value
  | [] => []
  | p :: ps => ofPayload p :: ofItems ps

/- The entries of the fields of a map. -/
def ofFields : List (String × Payload) → List (Value × Value)
  | [] => []
  | (k, p) :: fs => (.text k, ofPayload p) :: ofFields fs

end

/- The payload of a value that is a null, a truth value or a number. -/
def scalar? : Value → Option Payload
  | .null => some .null
  | .bool b => some (.bool b)
  | .int n => some (.int n)
  | .float x => some (.float x)
  | _ => none

------------------------------------------------------------
-- Tests
------------------------------------------------------------

/-
  A value is filled unless it is null, false, zero or empty.
-/
def isFilled : Value → Bool
  | .null => false
  | .bool b => b
  | .int n => n != 0
  | .float x => !x.isZero
  | .text s => s != ""
  | .octets bs => !bs.isEmpty
  | .list items => !items.isEmpty
  | .set members => !members.isEmpty
  | .map entries => !entries.isEmpty
  | _ => true

/- Lists, sets and maps cannot be keys. -/
def isKey : Value → Bool
  | .list _ => false
  | .set _ => false
  | .map _ => false
  | .loop _ => false
  | _ => true

/-
  Whether two values are one key. Numbers of all kinds are
  compared by value.
-/
def sameKey : Value → Value → Bool
  | .text a, .text b => a == b
  | .octets a, .octets b => a == b
  | .date a, .date b => a == b
  | .time a, .time b => a.agrees b
  | .float .nan, .float .nan => true
  | a, b =>
    match a.scalar?, b.scalar? with
    | some p, some q => p.same q
    | _, _ => false

/- Write an entry, in its old place if the key is known. -/
def putEntry
    (es : List (Value × Value))
    (key value : Value) : List (Value × Value) :=
  if es.any fun e => e.1.sameKey key then
    es.map fun e => if e.1.sameKey key then (e.1, value) else e
  else
    es ++ [(key, value)]

/- The entry of a map with the given name. -/
def field?
    (v : Value)
    (name : String) : Option Value :=
  match v with
  | .map es => (es.find? fun e => e.1.sameKey (.text name)).map (·.2)
  | _ => none

------------------------------------------------------------
-- Texts
------------------------------------------------------------

/- One octet inside quote marks. -/
def shownOctet
    (mark : Char)
    (n : Nat) : List Char :=
  if 128 ≤ n then '\\' :: 'x' :: hexDigits 2 n
  else quotedChar mark (Char.ofNat n)

/- Octets as a quoted text with a mark in front. -/
def shownOctets
    (bs : List Nat) : String :=
  let mark := quoteMark (bs.map Char.ofNat)
  String.ofList ('b' :: mark :: bs.flatMap (shownOctet mark) ++ [mark])

/- A list of numbers between brackets. -/
def shownNumbers
    (ns : List Nat) : String :=
  ", ".intercalate (ns.map fun (n : Nat) => decimal n)

/- Drop what is zero at the end of a time of day. -/
def shownClock
    (t : Timestamp) : List Nat :=
  if t.micro != 0 then [t.hour, t.minute, t.second, t.micro]
  else if t.second != 0 then [t.hour, t.minute, t.second]
  else [t.hour, t.minute]

/- The distance from universal time, as days and seconds. -/
def shownOffset
    (micros : Int) : String :=
  let seconds := Int.fdiv micros 1000000
  let days := Int.fdiv seconds 86400
  let rest := Int.fmod seconds 86400
  let days := if days = 0 then "" else "days=" ++ decimal days
  let rest := if rest = 0 then "" else "seconds=" ++ decimal rest
  let between := if days = "" || rest = "" then "" else ", "
  if micros = 0 then "datetime.timezone.utc"
  else
    "datetime.timezone(datetime.timedelta(" ++ days ++ between ++
      rest ++ "))"

/- A time inside a list or a map. -/
def shownTime
    (t : Timestamp) : String :=
  let zone :=
    match t.offset with
    | none => ""
    | some o => ", tzinfo=" ++ shownOffset o
  "datetime.datetime(" ++
    shownNumbers ([t.date.year, t.date.month, t.date.day] ++ shownClock t) ++
    zone ++ ")"

mutual

/- The text of a value inside a list or a map. -/
def shown : Value → String
  | .null => "None"
  | .bool true => "True"
  | .bool false => "False"
  | .int n => decimal n
  | .float x => x.written
  | .text s => quoted s
  | .octets bs => shownOctets bs
  | .date d =>
    "datetime.date(" ++ shownNumbers [d.year, d.month, d.day] ++ ")"
  | .time t => shownTime t
  | .pair a b => "(" ++ a.shown ++ ", " ++ b.shown ++ ")"
  | .list items => "[" ++ ", ".intercalate (shownItems items) ++ "]"
  | .set [] => "set()"
  | .set (v :: vs) =>
    "\x7b" ++ ", ".intercalate (v.shown :: shownItems vs) ++ "\x7d"
  | .map es => "\x7b" ++ ", ".intercalate (shownEntries es) ++ "\x7d"
  | .loop true => "\x7b...\x7d"
  | .loop false => "[...]"

/- The texts of the members of a list. -/
def shownItems : List Value → List String
  | [] => []
  | v :: vs => v.shown :: shownItems vs

/- The texts of the entries of a map. -/
def shownEntries : List (Value × Value) → List String
  | [] => []
  | (k, v) :: es => (k.shown ++ ": " ++ v.shown) :: shownEntries es

end

/- The text of a value. -/
def display : Value → String
  | .text s => s
  | .date d => Timestamp.writtenDate d
  | .time t => t.writtenWith " "
  | v => v.shown

mutual

/-
  Whether a value has a text. A whole number of too many digits
  has none, and neither has anything that holds one.
-/
def isWritable : Value → Bool
  | .int n => n.natAbs < Nat.pow 10 digitLimit
  | .pair a b => a.isWritable && b.isWritable
  | .list items => areWritable items
  | .set members => areWritable members
  | .map es => entriesAreWritable es
  | _ => true

/- Whether all members of a list have texts. -/
def areWritable : List Value → Bool
  | [] => true
  | v :: vs => v.isWritable && areWritable vs

/- Whether all entries of a map have texts. -/
def entriesAreWritable : List (Value × Value) → Bool
  | [] => true
  | (k, v) :: es =>
    k.isWritable && v.isWritable && entriesAreWritable es

end

end Value

end GuildWarden.Yaml
