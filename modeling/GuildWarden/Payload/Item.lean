import GuildWarden.Cause
import GuildWarden.Number.Integer
import GuildWarden.Number.Shortest
import GuildWarden.Payload.Basic

/-
  This file defines what is taken out of a payload that has to
  hold it: an item under a name, and a number.

  Key definitions include:
    * `Payload.item`
    * `Payload.wholeNumber`
    * `Payload.toBinary64`
    * `Payload.idItem`
-/

namespace GuildWarden.Payload

/- The item under a name; only a map has items. -/
def item
    (p : Payload)
    (name : String) : Except Cause Payload :=
  if !p.isMap then .error .badType
  else
    match p.field? name with
    | some q => .ok q
    | none => .error .missingField

/- The whole number that a payload denotes. -/
def wholeNumber : Payload → Except Cause Int
  | .bool b => .ok (if b then 1 else 0)
  | .int n => .ok n
  | .float .nan => .error (.badValue "")
  | .float (.infinite _) => .error .outOfRange
  | .float x => .ok (x.truncate?.getD 0)
  | .text s =>
    match Number.readInteger? s.toList with
    | some n => .ok n
    | none => .error (.badValue "")
  | _ => .error .badType

/- A whole number as a floating-point one. -/
def floatOf
    (n : Int) : Except Cause Number.Binary64 :=
  match Number.Binary64.ofInteger? n with
  | some x => .ok x
  | none => .error .outOfRange

/- The floating-point number that a payload denotes. -/
def toBinary64 : Payload → Except Cause Number.Binary64
  | .bool b => floatOf (if b then 1 else 0)
  | .int n => floatOf n
  | .float x => .ok x
  | .text s =>
    match Number.readBinary64? s.toList with
    | some x => .ok x
    | none => .error (.badValue "")
  | _ => .error .badType

/- The number under the name `id`. -/
def idItem
    (p : Payload) : Except Cause Int := do
  (← p.item "id").wholeNumber

end GuildWarden.Payload
