/-
  This file defines binary floating-point numbers of 64 bits as
  exact values, and the rounding of a ratio to the nearest of
  them. Of exact values there is a lesser and a greater one.

  Key definitions include:
    * `Binary64`
    * `Number.lesser`
    * `Number.greater`
    * `Binary64.ofRatio`
    * `Binary64.ofDecimal`
    * `Binary64.ofInteger?`
    * `Binary64.toRat?`
    * `Binary64.truncate?`
    * `Binary64.isZero`
-/

namespace GuildWarden.Number

/-
  A binary floating-point number. A finite one has the value
  `mantissa * 2 ^ exponent`, where the mantissa has at most
  53 bits.
-/
inductive Binary64 where
  | nan
  | infinite (negative : Bool)
  | finite (negative : Bool) (mantissa : Nat) (exponent : Int)
deriving DecidableEq, Repr

/- Round a quotient to the nearest number, a half to the even one. -/
def roundHalfEven
    (num den : Nat) : Nat :=
  let q := num / den
  let r := num % den
  if 2 * r < den then q
  else if den < 2 * r then q + 1
  else if q % 2 = 0 then q
  else q + 1

/- The lesser of two numbers. -/
def lesser
    (a b : Rat) : Rat :=
  if a ≤ b then a else b

/- The greater of two numbers. -/
def greater
    (a b : Rat) : Rat :=
  if a ≤ b then b else a

namespace Binary64

------------------------------------------------------------
-- Rounding
------------------------------------------------------------

/- The least exponent of a finite number. -/
def leastExponent : Int :=
  -1074

/- The greatest exponent of a finite number. -/
def greatestExponent : Int :=
  971

/- Zero with a sign. -/
def zero
    (negative : Bool) : Binary64 :=
  .finite negative 0 leastExponent

/- The ratio `num / den` scaled by `2 ^ -e`, as a ratio. -/
def scale
    (num den : Nat)
    (e : Int) : Nat × Nat :=
  if e < 0 then (num * Nat.pow 2 e.natAbs, den)
  else (num, den * Nat.pow 2 e.natAbs)

/-
  The exponent at which the ratio has a mantissa of 53 bits,
  bounded below by the least exponent.
-/
def exponentOf
    (num den : Nat) : Int :=
  let guess : Int := (num.log2 : Int) - den.log2 - 53
  let s := scale num den guess
  let e := if s.1 / s.2 < Nat.pow 2 53 then guess else guess + 1
  max e leastExponent

/- The number nearest to `num / den`, a tie going to the even mantissa. -/
def ofRatio
    (negative : Bool)
    (num den : Nat) : Binary64 :=
  if num = 0 then zero negative
  else
    let e := exponentOf num den
    let s := scale num den e
    let m := roundHalfEven s.1 s.2
    let (m, e) := if m = Nat.pow 2 53 then (Nat.pow 2 52, e + 1) else (m, e)
    if greatestExponent < e then .infinite negative
    else .finite negative m e

/-
  The number nearest to `digits * 10 ^ exponent`. Magnitudes
  far outside the range need no power of ten.
-/
def ofDecimal
    (negative : Bool)
    (digits : Nat)
    (exponent : Int) : Binary64 :=
  if digits = 0 then zero negative
  else
    let magnitude : Int :=
      (digits.log2 : Int) * 30103 / 100000 + exponent
    if 400 < magnitude then .infinite negative
    else if magnitude < -400 then zero negative
    else if exponent < 0 then
      ofRatio negative digits (Nat.pow 10 exponent.natAbs)
    else
      ofRatio negative (digits * Nat.pow 10 exponent.natAbs) 1

/- The number nearest to a whole number, if it is in range. -/
def ofInteger?
    (n : Int) : Option Binary64 :=
  match ofRatio (n < 0) n.natAbs 1 with
  | .infinite _ => none
  | x => some x

------------------------------------------------------------
-- Values
------------------------------------------------------------

/- The magnitude of a finite number, as a ratio. -/
def ratio
    (mantissa : Nat)
    (exponent : Int) : Nat × Nat :=
  scale mantissa 1 (-exponent)

/- The exact value of a finite number. -/
def toRat? : Binary64 → Option Rat
  | .finite negative m e =>
    let r := ratio m e
    let v : Rat := (r.1 : Rat) / (r.2 : Rat)
    some (if negative then -v else v)
  | _ => none

/- The whole part of a finite number, toward zero. -/
def truncate? : Binary64 → Option Int
  | .finite negative m e =>
    let r := ratio m e
    let n := r.1 / r.2
    some (if negative then -(n : Int) else n)
  | _ => none

/- Whether a number is zero, of either sign. -/
def isZero : Binary64 → Bool
  | .finite _ m _ => m == 0
  | _ => false

end Binary64

end GuildWarden.Number
