import GuildWarden.Payload.Basic

/-
  This file defines the equality and the order of payloads.
  Numbers of all kinds compare by value, texts by code point
  and lists member by member; other payloads have no order.

  Key definitions include:
    * `Payload.same`
    * `Payload.atMost?`
-/

namespace GuildWarden.Payload

open GuildWarden.Number

/- A number on the extended line; NaN has no place on it. -/
inductive Magnitude where
  | low
  | at (value : Rat)
  | high
deriving DecidableEq

/- Whether one magnitude is at most another. -/
def Magnitude.le : Magnitude → Magnitude → Bool
  | .low, _ => true
  | _, .high => true
  | .at a, .at b => a ≤ b
  | _, _ => false

/-
  The place of a numeric payload on the line: `none` for a
  payload that is no number, `some none` for NaN.
-/
def magnitude? : Payload → Option (Option Magnitude)
  | .bool b => some (some (.at (if b then 1 else 0)))
  | .int n => some (some (.at n))
  | .float .nan => some none
  | .float (.infinite negative) =>
    some (some (if negative then .low else .high))
  | .float x => some (x.toRat?.map .at)
  | _ => none

/- Equality of two places; NaN equals nothing. -/
def sameMagnitude : Option Magnitude → Option Magnitude → Bool
  | some a, some b => a == b
  | _, _ => false

mutual

/- Equality of payloads. -/
def same : Payload → Payload → Bool
  | .null, .null => true
  | .text a, .text b => a == b
  | .list a, .list b => sameItems a b
  | .map a, .map b => a.length == b.length && sameFields a b
  | a, b =>
    match magnitude? a, magnitude? b with
    | some x, some y => sameMagnitude x y
    | _, _ => false

/- Equality of lists, member by member. -/
def sameItems : List Payload → List Payload → Bool
  | [], [] => true
  | a :: as, b :: bs => same a b && sameItems as bs
  | _, _ => false

/- Every field of the first map is in the second one. -/
def sameFields :
    List (String × Payload) → List (String × Payload) → Bool
  | [], _ => true
  | (k, a) :: as, bs =>
    (match bs.lookup k with
      | some b => same a b
      | none => false) &&
      sameFields as bs

end

mutual

/- Whether a payload is at most another; `none` without an order. -/
def atMost? : Payload → Payload → Option Bool
  | .text a, .text b => some (a ≤ b)
  | .list a, .list b => atMostItems? a b
  | a, b =>
    match magnitude? a, magnitude? b with
    | some (some x), some (some y) => some (x.le y)
    | some _, some _ => some false
    | _, _ => none

/- The first members that differ decide the order of two lists. -/
def atMostItems? : List Payload → List Payload → Option Bool
  | [], _ => some true
  | _ :: _, [] => some false
  | a :: as, b :: bs =>
    if same a b then atMostItems? as bs else atMost? a b

end

end GuildWarden.Payload
