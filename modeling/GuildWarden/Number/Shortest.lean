import GuildWarden.Number.Binary64
import GuildWarden.Number.Integer

/-
  This file defines the shortest decimal that reads back as a
  given floating-point number, its written form, and the
  reading of a text as a floating-point number.

  Key definitions include:
    * `shortestDecimal`
    * `Binary64.written`
    * `Binary64.asWritten?`
    * `readBinary64?`
-/

namespace GuildWarden.Number

------------------------------------------------------------
-- Shortest decimals
------------------------------------------------------------

/- A natural number times a power of ten. -/
structure Decimal where
  digits : Nat
  exponent : Int
deriving DecidableEq, Repr

/- A power of ten as a ratio. -/
def tenPower
    (e : Int) : Nat × Nat :=
  if e < 0 then (1, Nat.pow 10 e.natAbs)
  else (Nat.pow 10 e.natAbs, 1)

/- The exponent of the first decimal digit of a positive ratio. -/
def leadingExponent
    (num den : Nat) : Int :=
  let guess : Int :=
    ((decimal num).length : Int) - (decimal den).length
  let t := tenPower guess
  if num * t.2 < den * t.1 then guess - 1 else guess

/- The whole part of `num / den / 10 ^ e`, and what is left as a ratio. -/
def gridFloor
    (num den : Nat)
    (e : Int) : Nat × Nat × Nat :=
  let t := tenPower e
  let n := num * t.2
  let d := den * t.1
  (n / d, n % d, d)

/-
  The point of the grid of multiples of `10 ^ e` that reads
  back as the number: of the two neighbours of its value the
  nearer one that does.
-/
def nearestOnGrid?
    (x : Binary64)
    (num den : Nat)
    (e : Int) : Option Decimal :=
  let (low, rest, unit) := gridFloor num den e
  let readsBack (n : Nat) : Bool := Binary64.ofDecimal false n e == x
  let lowFirst :=
    2 * rest < unit || (2 * rest == unit && low % 2 == 0)
  let order := if lowFirst then [low, low + 1] else [low + 1, low]
  (order.find? readsBack).map fun n => ⟨n, e⟩

/- Try grids from coarse to fine; the last one always has a hit. -/
def shortestFrom
    (x : Binary64)
    (num den : Nat) :
    (tries : Nat) → Int → Decimal
  | 0, e => ⟨(gridFloor num den e).1, e⟩
  | tries + 1, e =>
    match nearestOnGrid? x num den e with
    | some d => d
    | none => shortestFrom x num den tries (e - 1)

/-
  The decimal with the fewest digits that reads back as the
  positive number `mantissa * 2 ^ exponent`.
-/
def shortestDecimal
    (mantissa : Nat)
    (exponent : Int) : Decimal :=
  let r := Binary64.ratio mantissa exponent
  shortestFrom (.finite false mantissa exponent) r.1 r.2 17
    (leadingExponent r.1 r.2)

------------------------------------------------------------
-- Written form
------------------------------------------------------------

/-
  How a floating-point number is laid out: positional from
  `10 ^ least` up to below `10 ^ most`, else one digit before
  the point and an exponent of at least two digits.
-/
structure FloatLayout where
  least : Int
  most : Int

/- Numbers are positional from 0.0001 up to below 10^16. -/
def standardLayout : FloatLayout where
  least := -4
  most := 16

/- Digits with a point after the first, if there are several. -/
def pointAfterFirst : List Char → List Char
  | [] => []
  | [c] => [c]
  | c :: cs => c :: '.' :: cs

/-
  Lay out decimal digits whose first one stands for
  `10 ^ lead`.
-/
def layOut
    (layout : FloatLayout)
    (ds : List Char)
    (lead : Int) : List Char :=
  if layout.least ≤ lead && lead < layout.most then
    if lead < 0 then
      "0.".toList ++ List.replicate (lead.natAbs - 1) '0' ++ ds
    else
      let whole := lead.toNat + 1
      let padded := ds ++ List.replicate (whole - ds.length) '0'
      let rest := padded.drop whole
      padded.take whole ++ '.' :: (if rest.isEmpty then ['0'] else rest)
  else
    let e := (decimal lead.natAbs).toList
    let e := if e.length < 2 then '0' :: e else e
    pointAfterFirst ds ++ 'e' :: (if lead < 0 then '-' else '+') :: e

namespace Binary64

/- The written form of a floating-point number. -/
def written : Binary64 → String
  | .nan => "nan"
  | .infinite true => "-inf"
  | .infinite false => "inf"
  | .finite negative m e =>
    let body :=
      if m = 0 then "0.0".toList
      else
        let d := shortestDecimal m e
        let ds := (decimal d.digits).toList
        layOut standardLayout (Text.dropEndWhile (· == '0') ds)
          (d.exponent + ds.length - 1)
    String.ofList (if negative then '-' :: body else body)

/-
  The value of the shortest decimal of a finite number: what
  someone who wrote the number down meant.
-/
def asWritten? : Binary64 → Option Rat
  | .finite negative m e =>
    if m = 0 then some 0
    else
      let d := shortestDecimal m e
      let t := tenPower d.exponent
      let v : Rat := (d.digits * t.1 : Nat) / (t.2 : Rat)
      some (if negative then -v else v)
  | _ => none

end Binary64

------------------------------------------------------------
-- Reading
------------------------------------------------------------

/- The digits before and after a point; one side may be empty. -/
def readMantissa?
    (cs : List Char) : Option (List Nat × Nat) :=
  let whole := cs.takeWhile (· != '.')
  match cs.dropWhile (· != '.') with
  | [] => (readDigits? whole).map fun ds => (ds, 0)
  | _ :: [] => (readDigits? whole).map fun ds => (ds, 0)
  | _ :: fraction => do
    let fs ← readDigits? fraction
    if whole.isEmpty then return (fs, fs.length)
    else
      let ds ← readDigits? whole
      return (ds ++ fs, fs.length)

/- The exponent after the letter `e`. -/
def readExponent?
    (cs : List Char) : Option Int :=
  let (negative, body) := splitSign cs
  (readDigits? body).map fun ds =>
    signed negative (Text.digitsValue ds)

/- The small form of an ASCII letter. -/
def asciiLower
    (cs : List Char) : List Char :=
  cs.map Char.toLower

/- The floating-point number that a text denotes. -/
def readBinary64?
    (cs : List Char) : Option Binary64 :=
  let (negative, body) := splitSign (trimNumber cs)
  let name := String.ofList (asciiLower body)
  if name = "inf" || name = "infinity" then
    some (.infinite negative)
  else if name = "nan" then some .nan
  else
    let isMark (c : Char) : Bool := c == 'e' || c == 'E'
    let exponent? :=
      match body.dropWhile (fun c => !isMark c) with
      | [] => some 0
      | _ :: e => readExponent? e
    match readMantissa? (body.takeWhile fun c => !isMark c), exponent? with
    | some (ds, places), some e =>
      some (.ofDecimal negative (Text.digitsValue ds) (e - places))
    | _, _ => none

end GuildWarden.Number
