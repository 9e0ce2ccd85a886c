import GuildWarden.Number.Binary64

/-
  This file defines payloads, the values that frames, REST
  answers and web answers are made of, with the tests that
  the bot asks of a payload of unknown shape.

  Key definitions include:
    * `Payload`
    * `Payload.field?`
    * `Payload.isFilled`
    * `Payload.putField`
-/

namespace GuildWarden

/-
  A payload. The fields of a map have distinct names and keep
  the order in which they were first written.
-/
inductive Payload where
  | null
  | bool (value : Bool)
  | int (value : Int)
  | float (value : Number.Binary64)
  | text (value : String)
  | list (items : List Payload)
  | map (fields : List (String × Payload))
deriving BEq, Repr, Inhabited

namespace Payload

/- The fields of a map; any other payload has none. -/
def fields : Payload → List (String × Payload)
  | .map fs => fs
  | _ => []

/- The field of a map with the given name. -/
def field?
    (p : Payload)
    (name : String) : Option Payload :=
  p.fields.lookup name

/- A missing field reads as null. -/
def field
    (p : Payload)
    (name : String) : Payload :=
  (p.field? name).getD .null

/- Whether a payload is a map. -/
def isMap : Payload → Bool
  | .map _ => true
  | _ => false

/-
  A payload is filled unless it is null, false, zero, or an
  empty text, list or map.
-/
def isFilled : Payload → Bool
  | .null => false
  | .bool b => b
  | .int n => n != 0
  | .float x => !x.isZero
  | .text s => s != ""
  | .list items => !items.isEmpty
  | .map fs => !fs.isEmpty

/- The payload itself if it is filled, else another one. -/
def orElse
    (p q : Payload) : Payload :=
  if p.isFilled then p else q

/- Write a field, in its old place if the name is known. -/
def putField
    (fs : List (String × Payload))
    (name : String)
    (value : Payload) : List (String × Payload) :=
  if fs.any fun f => f.1 == name then
    fs.map fun f => if f.1 == name then (name, value) else f
  else
    fs ++ [(name, value)]

end Payload

end GuildWarden
