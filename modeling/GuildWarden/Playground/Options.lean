import GuildWarden.Text.Blank

/-
  This file defines the options at the start of a playground
  command: `name=value` or `name="value"`, any number of
  times; a later value replaces an earlier one.

  Key definitions include:
    * `Playground.optionNames`
    * `Playground.readOption?`
    * `Playground.readOptions`
-/

namespace GuildWarden.Playground

open GuildWarden.Text

/- The options that are known. -/
def optionNames : List String :=
  ["mode", "channel", "edition", "warn"]

/- The values of options, in the order of their first mention. -/
abbrev Options :=
  List (String × String)

/- Set an option. -/
def setOption
    (options : Options)
    (name value : String) : Options :=
  if options.any fun o => o.1 == name then
    options.map fun o => if o.1 == name then (name, value) else o
  else options ++ [(name, value)]

/- Characters of a value without marks. -/
def isBareChar
    (c : Char) : Bool :=
  !isBlank c && c != '"' && c != '`'

/- A value, with or without marks, and what follows. -/
def readValue? : List Char → Option (List Char × List Char)
  | '"' :: cs =>
    match cs.dropWhile (· != '"') with
    | _ :: rest => some (cs.takeWhile (· != '"'), rest)
    | [] => none
  | cs =>
    match cs.takeWhile isBareChar with
    | [] => none
    | value => some (value, cs.dropWhile isBareChar)

/- An option at the start of a text and what follows. -/
def readOption?
    (cs : List Char) : Option (String × List Char × List Char) :=
  optionNames.findSome? fun name =>
    (dropPrefix? (name.toList ++ ['=']) cs).bind fun rest =>
      (readValue? rest).map fun r => (name, r)

/- Read options while there is fuel. -/
def readOptionsFrom : Nat → Options → List Char → Options × List Char
  | 0, options, cs => (options, cs)
  | fuel + 1, options, cs =>
    match readOption? cs with
    | none => (options, cs)
    | some (name, value, rest) =>
      readOptionsFrom fuel
        (setOption options name (String.ofList value)) (trimStart rest)

/-
  The options at the start of a tail and the rest of it. Every
  option takes at least one character.
-/
def readOptions
    (tail : String) : Options × String :=
  let r := readOptionsFrom tail.length [] (trimStart tail.toList)
  (r.1, String.ofList r.2)

end GuildWarden.Playground
