/-
  This file defines how octets are read as text: strictly,
  where malformed octets are refused, and leniently, where
  each maximal malformed part becomes a replacement mark.

  Key definitions include:
    * `Piece`
    * `decodePiece`
    * `decodeStrict?`
    * `decodeLossy`
    * `encodeChar`
-/

namespace GuildWarden.Utf8

/-
  What stands at the head of a sequence of octets: a character
  or a malformed part, with the number of octets it takes.
-/
inductive Piece where
  | char (c : Char) (size : Nat)
  | malformed (size : Nat)

/- The character of a scalar value. -/
def scalar
    (n size : Nat) : Piece :=
  .char (Char.ofNat n) size

/- Whether an octet continues a character. -/
def isTail
    (b : Nat) : Bool :=
  0x80 ≤ b && b ≤ 0xBF

/-
  Read two further octets after a lead octet and a second
  octet have been accepted; `acc` holds the bits so far.
-/
def threeOrMore
    (acc : Nat)
    (four : Bool) :
    List Nat → Piece
  | [] => .malformed 2
  | c :: rest =>
    if !isTail c then .malformed 2
    else
      let acc := acc * 64 + (c - 0x80)
      if four then
        match rest with
        | [] => .malformed 3
        | d :: _ =>
          if isTail d then scalar (acc * 64 + (d - 0x80)) 4
          else .malformed 3
      else
        scalar acc 3

/-
  The piece that starts with octet `a`. The second octet of a
  character is limited so that no overlong form, surrogate or
  value above the last character is read.
-/
def decodePiece
    (a : Nat)
    (rest : List Nat) : Piece :=
  if a < 0x80 then scalar a 1
  else if 0xC2 ≤ a && a ≤ 0xDF then
    match rest with
    | b :: _ =>
      if isTail b then scalar ((a - 0xC0) * 64 + (b - 0x80)) 2
      else .malformed 1
    | [] => .malformed 1
  else if 0xE0 ≤ a && a ≤ 0xEF then
    let low := if a = 0xE0 then 0xA0 else 0x80
    let high := if a = 0xED then 0x9F else 0xBF
    match rest with
    | b :: rest =>
      if low ≤ b && b ≤ high then
        threeOrMore ((a - 0xE0) * 64 + (b - 0x80)) false rest
      else .malformed 1
    | [] => .malformed 1
  else if 0xF0 ≤ a && a ≤ 0xF4 then
    let low := if a = 0xF0 then 0x90 else 0x80
    let high := if a = 0xF4 then 0x8F else 0xBF
    match rest with
    | b :: rest =>
      if low ≤ b && b ≤ high then
        threeOrMore ((a - 0xF0) * 64 + (b - 0x80)) true rest
      else .malformed 1
    | [] => .malformed 1
  else .malformed 1

/- Read octets; `skip` octets of the last piece are still to pass. -/
def piecesFrom : Nat → List Nat → List Piece
  | _, [] => []
  | skip + 1, _ :: rest => piecesFrom skip rest
  | 0, a :: rest =>
    let u := decodePiece a rest
    let size :=
      match u with
      | .char _ n => n
      | .malformed n => n
    u :: piecesFrom (size - 1) rest

/- The text of octets; `none` if any part is malformed. -/
def decodeStrict?
    (octets : List Nat) : Option (List Char) :=
  (piecesFrom 0 octets).mapM fun u =>
    match u with
    | .char c _ => some c
    | .malformed _ => none

/- The text of octets, with a mark for each malformed part. -/
def decodeLossy
    (octets : List Nat) : List Char :=
  (piecesFrom 0 octets).map fun u =>
    match u with
    | .char c _ => c
    | .malformed _ => Char.ofNat 0xFFFD

/- The octets of a character. -/
def encodeChar
    (c : Char) : List Nat :=
  let n := c.toNat
  if n < 0x80 then [n]
  else if n < 0x800 then [0xC0 + n / 64, 0x80 + n % 64]
  else if n < 0x10000 then
    [0xE0 + n / 4096, 0x80 + n / 64 % 64, 0x80 + n % 64]
  else
    [0xF0 + n / 262144, 0x80 + n / 4096 % 64,
      0x80 + n / 64 % 64, 0x80 + n % 64]

end GuildWarden.Utf8
