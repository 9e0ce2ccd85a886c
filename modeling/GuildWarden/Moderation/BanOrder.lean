import GuildWarden.Cause
import GuildWarden.Chat.Mention
import GuildWarden.Number.Integer
import GuildWarden.Text.Blank

/-
  This file defines ban orders: whom to ban, for how many
  hours and why, as read from the tail of a command, and the
  notice that is sent to the user.

  Key definitions include:
    * `BanOrder`
    * `BanOrder.read`
    * `BanOrder.notice`
    * `userTarget`
-/

namespace GuildWarden

open GuildWarden.Text

/- A ban; zero hours stand for a permanent one. -/
structure BanOrder where
  userId : Int
  hours : Int
  reason : String
deriving DecidableEq, Repr

/- The refusal of a word that names no user. -/
def notAUser
    (word : String) : Cause :=
  .usage ("`" ++ word ++ "` is not a user mention or id.")

namespace BanOrder

/- The reason of a ban that is given without one. -/
def defaultReason : String :=
  "violating the code of conduct"

/-
  Cut a text at the first space; without one the second part
  is empty.
-/
def cutAtSpace
    (cs : List Char) : List Char × List Char :=
  (cs.takeWhile (· != ' '), (cs.dropWhile (· != ' ')).drop 1)

/-
  The hours and the reason in the rest of an order: a first
  part of digits gives the hours.
-/
def readTerms
    (rest : List Char) : Except Cause (Int × List Char) :=
  let (first, remainder) := cutAtSpace rest
  if !first.isEmpty && first.all isDigit then
    match Number.readInteger? first with
    | some hours => .ok (hours, trim remainder)
    | none => .error (.badValue "")
  else .ok (0, rest)

/- The order in the tail of a command. -/
def read
    (tail : String) : Except Cause BanOrder :=
  match splitWord? (trim tail.toList) with
  | none => .error (.usage "")
  | some (word, rest) =>
    let word := String.ofList word
    match Mention.user.read? word with
    | none => .error (notAUser word)
    | some userId => do
      let (hours, reason) ← readTerms (trim rest)
      let reason := String.ofList reason
      return ⟨userId, hours, if reason = "" then defaultReason else reason⟩

/- How long a ban lasts, in words. -/
def duration
    (hours : Int) : String :=
  if 0 < hours then
    "for " ++ Number.decimal hours ++ " hour" ++
      (if hours = 1 then "" else "s")
  else "permanently"

/- The message that tells a user about the ban. -/
def notice
    (reason : String)
    (hours : Int) : String :=
  "You have been banned from the server " ++ duration hours ++
    " for " ++ reason ++ ".\n" ++
    "If you believe this was a mistake, reply to a moderator " ++
    "once the ban has expired."

end BanOrder

/- The user that a word names; nobody may act on themselves. -/
def userTarget
    (actor : Int)
    (word : String) : Except Cause Int :=
  match Mention.user.read? word with
  | none => .error (notAUser word)
  | some userId =>
    if userId = actor then
      .error
        (.usage "You cannot perform moderation actions on yourself.")
    else .ok userId

end GuildWarden
