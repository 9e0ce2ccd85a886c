import GuildWarden.Number.Shortest
import GuildWarden.Payload.Basic

/-
  This file defines the reading of a text as a payload, in the
  notation of JSON with the three additional number words
  `NaN`, `Infinity` and `-Infinity`.

  Key definitions include:
    * `Payload.Reader.value?`
    * `Payload.read?`
-/

namespace GuildWarden.Payload.Reader

open GuildWarden.Number

------------------------------------------------------------
-- Blanks and words
------------------------------------------------------------

/- Blanks between the parts of a notation. -/
def isGap
    (c : Char) : Bool :=
  c == ' ' || c == '\t' || c == '\n' || c == '\r'

/- Drop leading blanks. -/
def skipGap
    (cs : List Char) : List Char :=
  cs.dropWhile isGap

/- What follows a given word, if the text starts with it. -/
def afterWord? : List Char → List Char → Option (List Char)
  | [], cs => some cs
  | w :: ws, c :: cs => if w = c then afterWord? ws cs else none
  | _ :: _, [] => none

------------------------------------------------------------
-- Texts
------------------------------------------------------------

/- The value of a hexadecimal digit. -/
def hexValue?
    (c : Char) : Option Nat :=
  if '0' ≤ c && c ≤ '9' then some (c.toNat - 48)
  else if 'a' ≤ c && c ≤ 'f' then some (c.toNat - 87)
  else if 'A' ≤ c && c ≤ 'F' then some (c.toNat - 55)
  else none

/- The value of four hexadecimal digits. -/
def hexQuad?
    (a b c d : Char) : Option Nat := do
  let a ← hexValue? a
  let b ← hexValue? b
  let c ← hexValue? c
  let d ← hexValue? d
  return ((a * 16 + b) * 16 + c) * 16 + d

/- The character of a value; a lone surrogate is replaced. -/
def unitChar
    (n : Nat) : Char :=
  if 0xD800 ≤ n && n ≤ 0xDFFF then Char.ofNat 0xFFFD else Char.ofNat n

/- The character after a backslash, apart from `u`. -/
def escapeChar? : Char → Option Char
  | '"' => some '"'
  | '\\' => some '\\'
  | '/' => some '/'
  | 'b' => some (Char.ofNat 8)
  | 'f' => some (Char.ofNat 12)
  | 'n' => some '\n'
  | 'r' => some '\r'
  | 't' => some '\t'
  | _ => none

/-
  The characters of a text up to its closing mark, and what
  follows; `acc` holds those already read, last one first. Two
  escapes that form a surrogate pair give one character.
-/
def chars
    (acc : List Char) :
    List Char → Option (String × List Char)
  | [] => none
  | '"' :: cs => some (String.ofList acc.reverse, cs)
  | '\\' :: 'u' :: a :: b :: c :: d :: '\\' :: 'u' ::
      e :: f :: g :: h :: cs => do
    let x ← hexQuad? a b c d
    let pair? :=
      match hexQuad? e f g h with
      | some y =>
        if 0xD800 ≤ x && x ≤ 0xDBFF && 0xDC00 ≤ y && y ≤ 0xDFFF then
          some (0x10000 + (x - 0xD800) * 0x400 + (y - 0xDC00))
        else none
      | none => none
    match pair? with
    | some n => chars (Char.ofNat n :: acc) cs
    | none =>
      chars (unitChar x :: acc) ('\\' :: 'u' :: e :: f :: g :: h :: cs)
  | '\\' :: 'u' :: a :: b :: c :: d :: cs => do
    let x ← hexQuad? a b c d
    chars (unitChar x :: acc) cs
  | '\\' :: c :: cs => do
    let x ← escapeChar? c
    chars (x :: acc) cs
  | c :: cs => if c.toNat < 32 then none else chars (c :: acc) cs

------------------------------------------------------------
-- Numbers
------------------------------------------------------------

/- A run of ASCII digits and what follows. -/
def digitRun
    (cs : List Char) : List Char × List Char :=
  (cs.takeWhile Char.isDigit, cs.dropWhile Char.isDigit)

/- The whole part of a number: no digit follows a leading zero. -/
def wholePart? : List Char → Option (List Char × List Char)
  | '0' :: cs => some (['0'], cs)
  | cs =>
    match digitRun cs with
    | ([], _) => none
    | run => some run

/- A point with digits after it, if there is one. -/
def fractionPart : List Char → List Char × List Char
  | '.' :: cs =>
    match digitRun cs with
    | ([], _) => ([], '.' :: cs)
    | run => run
  | cs => ([], cs)

/- The value of a run of ASCII digits. -/
def natural
    (ds : List Char) : Nat :=
  Text.digitsValue (ds.map fun c => c.toNat - 48)

/- An exponent with digits, if there is one. -/
def exponentPart
    (cs : List Char) : Option Int × List Char :=
  match cs with
  | e :: rest =>
    if e == 'e' || e == 'E' then
      let (negative, body) := splitSign rest
      match digitRun body with
      | ([], _) => (none, cs)
      | (ds, after) =>
        (some (signed negative (natural ds)), after)
    else (none, cs)
  | [] => (none, [])

/-
  A number and what follows. A number with a fraction or an
  exponent is a floating-point one.
-/
def number?
    (cs : List Char) : Option (Payload × List Char) :=
  let (negative, body) :=
    match cs with
    | '-' :: rest => (true, rest)
    | _ => (false, cs)
  match wholePart? body with
  | none => none
  | some (whole, rest) =>
    let (fraction, rest) := fractionPart rest
    let (exponent?, rest) := exponentPart rest
    if !fraction.isEmpty || exponent?.isSome then
      let exponent := exponent?.getD 0 - fraction.length
      let digits := natural (whole ++ fraction)
      some (.float (.ofDecimal negative digits exponent), rest)
    else if whole.length ≤ digitLimit then
      some (.int (signed negative (natural whole)), rest)
    else none

/- The payloads that are written as a word. -/
def wordValues : List (String × Payload) :=
  [
    ("null", .null),
    ("true", .bool true),
    ("false", .bool false),
    ("NaN", .float .nan),
    ("Infinity", .float (.infinite false)),
    ("-Infinity", .float (.infinite true))
  ]

/- A word or a number and what follows. -/
def scalar?
    (cs : List Char) : Option (Payload × List Char) :=
  let word? := wordValues.findSome? fun w =>
    (afterWord? w.1.toList cs).map fun rest => (w.2, rest)
  word?.orElse fun _ => number? cs

------------------------------------------------------------
-- Values
------------------------------------------------------------

mutual

/- A payload and what follows; the fuel bounds the nesting. -/
def value? : Nat → List Char → Option (Payload × List Char)
  | 0, _ => none
  | fuel + 1, cs =>
    match skipGap cs with
    | '"' :: rest => (chars [] rest).map fun r => (.text r.1, r.2)
    | '[' :: rest =>
      match skipGap rest with
      | ']' :: rest => some (.list [], rest)
      | rest =>
        (items? fuel [] rest).map fun r => (.list r.1, r.2)
    | '\x7b' :: rest =>
      match skipGap rest with
      | '\x7d' :: rest => some (.map [], rest)
      | rest =>
        (fields? fuel [] rest).map fun r => (.map r.1, r.2)
    | rest => scalar? rest

/- The members of a list up to its end. -/
def items? :
    Nat → List Payload → List Char →
      Option (List Payload × List Char)
  | 0, _, _ => none
  | fuel + 1, acc, cs =>
    match value? fuel cs with
    | none => none
    | some (p, rest) =>
      match skipGap rest with
      | ',' :: rest => items? fuel (p :: acc) rest
      | ']' :: rest => some ((p :: acc).reverse, rest)
      | _ => none

/- The fields of a map up to its end; a later field wins. -/
def fields? :
    Nat → List (String × Payload) → List Char →
      Option (List (String × Payload) × List Char)
  | 0, _, _ => none
  | fuel + 1, acc, cs =>
    match skipGap cs with
    | '"' :: rest =>
      match chars [] rest with
      | none => none
      | some (name, rest) =>
        match skipGap rest with
        | ':' :: rest =>
          match value? fuel rest with
          | none => none
          | some (p, rest) =>
            let acc := putField acc name p
            match skipGap rest with
            | ',' :: rest => fields? fuel acc rest
            | '\x7d' :: rest => some (acc, rest)
            | _ => none
        | _ => none
    | _ => none

end

end GuildWarden.Payload.Reader

namespace GuildWarden.Payload

/- The payload that a whole text denotes. -/
def read?
    (cs : List Char) : Option Payload :=
  match Reader.value? (2 * cs.length + 2) cs with
  | some (p, rest) =>
    if (Reader.skipGap rest).isEmpty then some p else none
  | none => none

end GuildWarden.Payload
