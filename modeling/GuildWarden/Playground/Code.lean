import GuildWarden.Text.Blank

/-
  This file defines how code is found in a message: a fenced
  block with an optional language tag, a fence on one line, or
  a pair of marks.

  Key definitions include:
    * `Playground.fencedBlock?`
    * `Playground.inlineFence?`
    * `Playground.inlineCode?`
    * `Playground.extractCode?`
    * `Playground.wrapExpression`
-/

namespace GuildWarden.Playground

open GuildWarden.Text

/- The mark around a block of code. -/
def fence : List Char :=
  ['`', '`', '`']

/- Characters of a language tag. -/
def isTagChar
    (c : Char) : Bool :=
  c != '`' && !isBlank c

/- The code of a block: what stands between the first line and the next fence. -/
def fencedBlock?
    (cs : List Char) : Option (List Char) :=
  match dropPrefix? fence cs with
  | some rest =>
    match rest.dropWhile isTagChar with
    | '\n' :: body => (cutAt? fence body).map (·.1)
    | _ => none
  | none => none

/- The shortest code of at least one character between two fences. -/
def inlineFence?
    (cs : List Char) : Option (List Char) :=
  match dropPrefix? fence cs with
  | some (c :: rest) => (cutAt? fence rest).map fun p => c :: p.1
  | _ => none

/- The code between two single marks. -/
def inlineCode? : List Char → Option (List Char)
  | '`' :: cs =>
    match cs.takeWhile (· != '`'), cs.dropWhile (· != '`') with
    | c :: body, _ :: _ => some (c :: body)
    | _, _ => none
  | _ => none

/- The code at the start of a text. -/
def extractCode?
    (text : String)
    (inlineToo : Bool) : Option String :=
  let cs := text.toList
  let found :=
    match fencedBlock? cs with
    | some code => some code
    | none =>
      if inlineToo then (inlineFence? cs).or (inlineCode? cs) else none
  found.map String.ofList

/- Whether code has a main function of its own. -/
def hasMain
    (code : String) : Bool :=
  occursIn "fn main".toList code.toList

/- A program that prints the value of an expression. -/
def wrapExpression
    (expression : String) : String :=
  "fn main()\x7b println!(\"\x7b:?\x7d\",\x7b " ++ expression ++
    " \n\x7d); \x7d"

end GuildWarden.Playground
