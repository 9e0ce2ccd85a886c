import GuildWarden.Command.Basic
import GuildWarden.Command.Invocation
import GuildWarden.Moderation.Ban
import GuildWarden.Moderation.Slowmode

/-
  This file defines the commands of moderators. Whether the
  caller may use them is confirmed right before they act.

  Key definitions include:
    * `Command.Moderation.ban`
    * `Command.Moderation.kick`
    * `Command.Moderation.slowmode`
    * `Command.Moderation.entries`
-/

namespace GuildWarden.Command.Moderation

open Program

/- The guild of a call; there is no moderation elsewhere. -/
def guildOf
    (ctx : Context) : Except Cause Int :=
  match ctx.guildId with
  | some guildId => .ok guildId
  | none => .error .badType

/- The ban that a tail orders; nobody can ban themselves. -/
def readBan
    (actor : Int)
    (tail : String) : Except Cause BanOrder := do
  let order ← BanOrder.read tail
  let _ ← userTarget actor (Number.decimal order.userId)
  return order

/- Ban a user. -/
def ban
    (ctx : Context)
    (tail : String) : Program Unit := do
  let order ← settle (readBan ctx.author.id tail)
  let _ ← Ban.impose (← settle (guildOf ctx)) order
  ctx.acknowledge

/- Kick a member. -/
def kick
    (ctx : Context)
    (tail : String) : Program Unit := do
  let word := (Invocation.splitFirst tail).1
  let userId ← settle (userTarget ctx.author.id word)
  let reason := "Kicked by " ++ Number.decimal ctx.author.id
  Platform.perform
    (.kick (← settle (guildOf ctx)) userId (some reason))
  ctx.acknowledge

/- Set the slow mode of a channel. -/
def slowmode
    (ctx : Context)
    (tail : String) : Program Unit := do
  let order ← settle (Slowmode.read tail)
  let reason := "Requested by " ++ Number.decimal ctx.author.id
  Platform.perform
    (.setSlowmode order.channelId order.seconds (some reason))
  ctx.acknowledge

/- A command of moderators. -/
def confirmed
    (name usage description : String)
    (arity : Int)
    (handler : Context → String → Program Unit) : Entry :=
  alone
    {
      info := ⟨name, .moderator, usage, description⟩
      arity
      confirms := true
      timeout := none
      handler
    }

/- The commands of moderators. -/
def entries : List Entry :=
  [
    confirmed "ban" "ban \x7buser\x7d \x7bhours\x7d reason..."
      "Ban a user, for a number of hours if given" 1 ban,
    confirmed "kick" "kick \x7buser\x7d"
      "Kick a user from the guild" 1 kick,
    confirmed "slowmode" "slowmode \x7bchannel\x7d \x7bseconds\x7d"
      "Set slowmode on a channel" 2 slowmode
  ]

end GuildWarden.Command.Moderation
