import GuildWarden.Cause
import GuildWarden.Collection.IdMap
import GuildWarden.Number.Shortest
import GuildWarden.Text.Blank
import GuildWarden.Yaml.Value

/-
  This file defines how values of a configuration document are
  taken as texts, as numbers, as sets of ids and as sets of
  names.

  Key definitions include:
    * `Yaml.Value.written`
    * `Yaml.Value.toInteger`
    * `Yaml.Value.toBinary64`
    * `Yaml.Value.toIds`
    * `Yaml.Value.toNames`
-/

namespace GuildWarden.Yaml.Value

open GuildWarden.Number

/- The text of a value, if it has one. -/
def written
    (v : Value) : Except Cause String :=
  if v.isWritable then .ok v.display else .error (.badValue "")

/- The characters of octets; only those of ASCII denote numbers. -/
def octetChars
    (bs : List Nat) : List Char :=
  bs.map fun b => if b < 128 then Char.ofNat b else Char.ofNat 0xFFFD

/- The number that a text denotes, or a refusal. -/
def orBadValue
    {α : Type}
    (a? : Option α) : Except Cause α :=
  match a? with
  | some a => .ok a
  | none => .error (.badValue "")

/- A value as a whole number, toward zero. -/
def toInteger : Value → Except Cause Int
  | .bool b => .ok (if b then 1 else 0)
  | .int n => .ok n
  | .float .nan => .error (.badValue "")
  | .float (.infinite _) => .error .outOfRange
  | .float x => .ok (x.truncate?.getD 0)
  | .text s => orBadValue (readInteger? s.toList)
  | .octets bs => orBadValue (readInteger? (octetChars bs))
  | _ => .error .badType

/- A whole number as a floating-point one. -/
def floatOfInteger
    (n : Int) : Except Cause Binary64 :=
  match Binary64.ofInteger? n with
  | some x => .ok x
  | none => .error .outOfRange

/- A value as a floating-point number. -/
def toBinary64 : Value → Except Cause Binary64
  | .bool b => floatOfInteger (if b then 1 else 0)
  | .int n => floatOfInteger n
  | .float x => .ok x
  | .text s => orBadValue (readBinary64? s.toList)
  | .octets bs => orBadValue (readBinary64? (octetChars bs))
  | _ => .error .badType

/- Whether there is nothing to convert: null or the empty text. -/
def isBlankSetting : Value → Bool
  | .null => true
  | .text s => s == ""
  | _ => false

------------------------------------------------------------
-- Sets
------------------------------------------------------------

/- The members of a list or a set; any other value is the only one. -/
def asMembers : Value → List Value
  | .list items => items
  | .set members => members
  | .pair a b => [a, b]
  | v => if v.isBlankSetting then [] else [v]

/- A value as an id; values that are not numeric are no ids. -/
def toId?
    (v : Value) : Except Cause (Option Int) :=
  match v.toInteger with
  | .ok n => .ok (some n)
  | .error .badType => .ok none
  | .error (.badValue _) => .ok none
  | .error cause => .error cause

/- A value as a set of ids. -/
def toIds
    (v : Value) : Except Cause IdSet := do
  let ids ← v.asMembers.mapM toId?
  return IdSet.ofList (ids.filterMap id)

/- The members that a value goes through one by one. -/
def eachMember : Value → Except Cause (List Value)
  | .text s => .ok [.text s]
  | .octets bs => .ok (bs.map fun (b : Nat) => .int b)
  | .pair a b => .ok [a, b]
  | .list items => .ok items
  | .set members => .ok members
  | .map es => .ok (es.map (·.1))
  | .loop _ => .ok []
  | _ => .error .badType

/- Put a name at its place among sorted names. -/
def insertName
    (name : String) :
    List String → List String
  | [] => [name]
  | n :: ns =>
    if name < n then name :: n :: ns
    else if name = n then n :: ns
    else n :: insertName name ns

/- Names in order, without duplicates. -/
def sortNames
    (names : List String) : List String :=
  names.foldl (fun acc n => insertName n acc) []

/- A value as a set of names; null stands for the usual names. -/
def toNames
    (usual : List String) :
    Value → Except Cause (List String)
  | .null => .ok (sortNames usual)
  | v => do
    let names ← (← v.eachMember).mapM written
    return sortNames (names.filter fun n => Text.trimmed n != "")

end GuildWarden.Yaml.Value
