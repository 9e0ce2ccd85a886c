/-
  This file defines the intents of a session: the groups of
  events that it asks the gateway for, as bits of a number.

  Key definitions include:
    * `Gateway.Intent`
    * `Gateway.intents`
-/

namespace GuildWarden.Gateway

/- A group of events. -/
inductive Intent where
  | guilds
  | members
  | moderation
  | emojis
  | integrations
  | webhooks
  | invites
  | voiceStates
  | guildMessages
  | guildReactions
  | guildTyping
  | directMessages
  | directReactions
  | directTyping
  | messageContent
  | scheduledEvents
  | moderationRules
  | moderationActions
  | guildPolls
  | directPolls
deriving DecidableEq, Repr

/- The bit of a group. -/
def Intent.bit : Intent → Nat
  | .guilds => 0
  | .members => 1
  | .moderation => 2
  | .emojis => 3
  | .integrations => 4
  | .webhooks => 5
  | .invites => 6
  | .voiceStates => 7
  | .guildMessages => 9
  | .guildReactions => 10
  | .guildTyping => 11
  | .directMessages => 12
  | .directReactions => 13
  | .directTyping => 14
  | .messageContent => 15
  | .scheduledEvents => 16
  | .moderationRules => 20
  | .moderationActions => 21
  | .guildPolls => 24
  | .directPolls => 25

/- The number that stands for a list of groups. -/
def intentsValue
    (is : List Intent) : Nat :=
  is.foldl (fun n i => n ||| Nat.pow 2 i.bit) 0

/- The groups that the bot asks for: all but the presence of users. -/
def intents : List Intent :=
  [
    .guilds, .members, .moderation, .emojis, .integrations, .webhooks,
    .invites, .voiceStates, .guildMessages, .guildReactions, .guildTyping,
    .directMessages, .directReactions, .directTyping, .messageContent,
    .scheduledEvents, .moderationRules, .moderationActions, .guildPolls,
    .directPolls
  ]

end GuildWarden.Gateway
