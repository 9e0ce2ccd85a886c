import GuildWarden.Cause
import GuildWarden.Chat.Mention
import GuildWarden.Number.Integer
import GuildWarden.Text.Blank

/-
  This file defines slow mode orders: a channel and the number
  of seconds between two messages of a user.

  Key definitions include:
    * `Slowmode`
    * `Slowmode.read`
    * `channelTarget`
-/

namespace GuildWarden

open GuildWarden.Text

/- The channel that a word names. -/
def channelTarget
    (word : String) : Except Cause Int :=
  match Mention.channel.read? word with
  | some channelId => .ok channelId
  | none =>
    .error (.usage ("`" ++ word ++ "` is not a channel mention or id."))

/- A slow mode; zero seconds turn it off. -/
structure Slowmode where
  channelId : Int
  seconds : Int
deriving DecidableEq, Repr

namespace Slowmode

/- The longest slow mode, in seconds. -/
def longest : Int :=
  21600

/- The refusal of a number of seconds. -/
def badSeconds : Cause :=
  .usage
    ("Seconds must be a whole number between 0 and " ++
      Number.decimal longest ++ ".")

/- The seconds that a word gives. -/
def readSeconds
    (word : List Char) : Except Cause Int :=
  if word.isEmpty || !word.all isDigit then .error badSeconds
  else
    match Number.readInteger? word with
    | none => .error (.badValue "")
    | some n => if longest < n then .error badSeconds else .ok n

/- The order in the first two words of a tail. -/
def read
    (tail : String) : Except Cause Slowmode :=
  match words tail.toList with
  | channel :: seconds :: _ => do
    let channelId ← channelTarget (String.ofList channel)
    return ⟨channelId, ← readSeconds seconds⟩
  | _ => .error (.badValue "")

end Slowmode

end GuildWarden
