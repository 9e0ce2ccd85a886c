import GuildWarden.Cause
import GuildWarden.Number.Integer
import GuildWarden.Payload.Display
import GuildWarden.Text.Blank
import GuildWarden.Text.Digits

/-
  This file defines how things are referred to: by mentions in
  texts and by keys in payloads. A mention is an id of 15 to 21
  digits, bare or inside the marks of a user, channel or role
  mention. In payloads the chat platform writes ids as texts of
  digits; numbers are taken as well, and everything else is no
  id. An emoji key is the text that stands for an emoji in
  bindings and in calls: a custom emoji has the form `name:id`,
  and any other one stands for itself.

  Key definitions include:
    * `readId`
    * `checkMark`
    * `emojiKey`
    * `Mention`
    * `Mention.openings`
    * `Mention.read?`
-/

namespace GuildWarden

/-
  The id that a payload holds. An infinite number is not
  ignored but out of range.
-/
def readId : Payload → Except Cause (Option Int)
  | .bool b => .ok (some (if b then 1 else 0))
  | .int n => .ok (some n)
  | .float (.infinite _) => .error .outOfRange
  | .float x => .ok x.truncate?
  | .text s => .ok (Number.readInteger? s.toList)
  | _ => .ok none

/- The emoji that acknowledges a command. -/
def checkMark : String :=
  "✅"

/- The key of the emoji that a payload describes. -/
def emojiKey
    (emoji : Payload) : Except Cause Payload :=
  if !emoji.isFilled then .ok (.text "")
  else if !emoji.isMap then .error .notAMap
  else
    let name := (emoji.field "name").orElse (.text "")
    let id := emoji.field "id"
    if id.isFilled then .ok (.text (name.display ++ ":" ++ id.display))
    else .ok name

end GuildWarden

namespace GuildWarden

open GuildWarden.Text

/- What a mention can refer to. -/
inductive Mention where
  | user
  | channel
  | role
deriving DecidableEq, Repr

namespace Mention

/- The marks before the id of a mention, the longer one first. -/
def openings : Mention → List String
  | .user => ["<@!", "<@"]
  | .channel => ["<#"]
  | .role => ["<@&"]

/- The value of a run of 15 to 21 decimal digits. -/
def readDigits?
    (cs : List Char) : Option Int :=
  match cs.mapM digitValue? with
  | some ds =>
    if 15 ≤ ds.length && ds.length ≤ 21 then some (digitsValue ds)
    else none
  | none => none

/- The characters between an opening mark and a closing `>`. -/
def inside?
    (opening : String)
    (cs : List Char) : Option (List Char) :=
  match dropPrefix? opening.toList cs with
  | some rest =>
    match rest.reverse with
    | '>' :: body => some body.reverse
    | _ => none
  | none => none

/- The id in a mention with the given opening mark. -/
def readWrapped?
    (opening : String)
    (cs : List Char) : Option Int :=
  (inside? opening cs).bind readDigits?

/- The id that a text mentions; blanks around it are ignored. -/
def read?
    (kind : Mention)
    (s : String) : Option Int :=
  let cs := trim s.toList
  match kind.openings.findSome? fun opening => readWrapped? opening cs with
  | some n => some n
  | none => readDigits? cs

end Mention

end GuildWarden
