import GuildWarden.Chat.Mention
import GuildWarden.Gateway.Event
import GuildWarden.Platform.Client

/-
  This file defines the context of a command, the message that
  called it, and the two ways to answer: with a reply and with
  a reaction. A command that is run again after an edit changes
  its earlier reply.

  Key definitions include:
    * `Command.Context`
    * `Command.Context.reply`
    * `Command.Context.say`
    * `Command.Context.acknowledge`
-/

namespace GuildWarden.Command

open Program

/- Where a command was called, by whom, and how it is answered. -/
structure Context where
  guildId : Option Int
  channelId : Int
  author : Author
  messageId : Option Int
  memberRoles : Option IdSet
  keepsHistory : Bool
  mark : String
deriving DecidableEq, Repr

namespace Context

/- The message under which replies are recorded, if they are. -/
def recordedId?
    (c : Context) : Option Int :=
  if c.keepsHistory then c.messageId else none

/- Change an earlier reply; answers whether it was still there. -/
def change
    (c : Context)
    (commandId replyId : Int)
    (content : Payload)
    (card : Option Payload) : Program Bool :=
  handling
    (do
      let _ ← Platform.editMessage c.channelId replyId content card
      return true)
    Cause.isUnknownTarget
    fun _ => do
      Program.change fun m =>
        { m with history := m.history.erase commandId }
      return false

/- Change the earlier reply to a command, if there is one. -/
def changeEarlier
    (c : Context)
    (content : Payload)
    (card : Option Payload) : Program Bool := do
  let some commandId := c.recordedId? | return false
  match (← memory).history.replyTo? commandId with
  | some replyId => c.change commandId replyId content card
  | none => return false

/- Record a message as the reply to a command. -/
def record
    (c : Context)
    (reply : Payload) : Program Unit := do
  let some commandId := c.recordedId? | return ()
  if reply.isFilled then
    let replyId ← settle reply.idItem
    let recordedAt ← now
    Program.change fun m =>
      let entry := ⟨commandId, c.channelId, replyId, recordedAt⟩
      { m with history := m.history.record entry }

/- Reply with a content, a card or both. -/
def reply
    (c : Context)
    (content : Payload)
    (card : Option Payload) : Program Unit := do
  unless ← c.changeEarlier content card do
    c.record (← Platform.sendMessage c.channelId content card)

/- Reply with a text. -/
def say
    (c : Context)
    (s : String) : Program Unit :=
  c.reply (.text s) none

/- React to the message of the command with a check mark. -/
def acknowledge
    (c : Context) : Program Unit := do
  let some messageId := c.messageId | return ()
  Platform.perform (.addReaction c.channelId messageId checkMark)

end Context

end GuildWarden.Command
