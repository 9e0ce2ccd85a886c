import GuildWarden.Command.Moderation
import GuildWarden.Reaction.Role

/-
  This file defines the command that posts the code of conduct
  to a channel and binds the reaction on it to the role for
  talking.

  Key definitions include:
    * `Command.Welcome.post`
    * `Command.Welcome.entries`
-/

namespace GuildWarden.Command.Welcome

open Program

/- There is no role for talking. -/
def noTalkRole : Cause :=
  .notFound
    ("No talk role is configured. " ++
      "Set `roles.talk_role_id` in app_config.yml.")

/- Post the code of conduct. -/
def post
    (talkRoleId : Option Int)
    (ctx : Context)
    (tail : String) : Program Unit := do
  let word := (Invocation.splitFirst tail).1
  let channelId ← settle (channelTarget word)
  let some roleId := talkRoleId | throw noTalkRole
  let guildId ← settle (Moderation.guildOf ctx)
  let _ ← ReactionRole.establish guildId channelId roleId
  ctx.acknowledge

/- The command that posts the code of conduct. -/
def entries
    (talkRoleId : Option Int) : List Entry :=
  [
    Moderation.confirmed "CoC" "CoC \x7bchannel\x7d"
      "Post the code of conduct message to a channel" 1
      (post talkRoleId)
  ]

end GuildWarden.Command.Welcome
