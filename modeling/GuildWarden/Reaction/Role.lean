import GuildWarden.Chat.Mention
import GuildWarden.Gateway.Event
import GuildWarden.Platform.Client
import GuildWarden.Store.Transaction

/-
  This file defines reaction roles: whoever adds the bound
  reaction to the bound message is given a role, and whoever
  takes it back loses the role. Bindings are stored before
  they are used.

  Key definitions include:
    * `ReactionRole.loadBindings`
    * `ReactionRole.bindingFor`
    * `ReactionRole.follow`
    * `ReactionRole.bindReaction`
    * `ReactionRole.establish`
-/

namespace GuildWarden.ReactionRole

open Program Store

------------------------------------------------------------
-- Bindings in memory
------------------------------------------------------------

/- Replace the bindings in memory by the stored ones. -/
def loadBindings : Program Nat := do
  let rows ← reading (execute .allBindings)
  let bound := Memory.gatherBindings rows
  change fun m => { m with bindings := bound }
  return bound.length

/- The binding of a reaction. -/
def bindingFor
    (m : Memory)
    (messageId : Int)
    (emoji : String) : Option Binding :=
  m.bindings.find? fun b => b.isOf messageId emoji

/- Whether some reaction on a message is bound. -/
def isBoundMessage
    (m : Memory)
    (messageId : Int) : Bool :=
  m.bindings.any fun b => b.messageId == messageId

/-
  The binding of the reaction that an event is about. Only a
  text can be a bound emoji; lists and maps are refused.
-/
def bindingOf
    (m : Memory)
    (r : Event.Reaction) : Except Cause (Option Binding) :=
  match r.emoji with
  | .text emoji => .ok (bindingFor m r.messageId emoji)
  | .list _ => .error .badType
  | .map _ => .error .badType
  | _ => .ok none

------------------------------------------------------------
-- Reactions
------------------------------------------------------------

/- Take a reaction away that is not the bound one. -/
def removeForeign
    (r : Event.Reaction) : Program Unit :=
  handling
    (Platform.perform
      (.removeReaction r.channelId r.messageId r.emoji r.userId))
    Cause.isRefusal fun _ => return ()

/- The call that a reaction on a bound message leads to. -/
def roleCall
    (b : Binding)
    (r : Event.Reaction) : Platform.Call :=
  if r.added then
    .addRole b.guildId r.userId b.roleId
      (some "Accepted the code of conduct")
  else
    .removeRole b.guildId r.userId b.roleId
      (some "Withdrew code of conduct acceptance")

/-
  Grant or revoke the role of a binding. That the user or the
  role is gone, or out of the bot's reach, is no failure.
-/
def applyRole
    (b : Binding)
    (r : Event.Reaction) : Program Bool :=
  handling
    (do
      Platform.perform (roleCall b r)
      return true)
    (fun cause => cause.isUnknownTarget || cause.isForbidden)
    fun _ => return false

/-
  Follow a reaction; answers whether a role was changed. Any
  other reaction on a bound message is taken away again.
-/
def follow
    (r : Event.Reaction) : Program Bool := do
  let m ← memory
  if m.botUserId = some r.userId then return false
  match ← settle (bindingOf m r) with
  | none =>
    if r.added && isBoundMessage m r.messageId then removeForeign r
    return false
  | some b =>
    if r.guildId.any fun g => g != b.guildId then return false
    applyRole b r

------------------------------------------------------------
-- New bindings
------------------------------------------------------------

/- The message to which users react. -/
def welcome : String :=
  "**Welcome!**\n\n" ++
    "This community follows a Code of Conduct: be friendly and " ++
    "patient, be welcoming, be considerate and respectful, and keep " ++
    "discussion on topic. Harassment of any kind is not tolerated " ++
    "and moderators will act on reports.\n\n" ++
    "React with ✅ below to confirm you have read and agree to the " ++
    "Code of Conduct. This unlocks the rest of the server."

/- The failure of a binding that exists already. -/
def alreadyBound
    (b : Binding) : Cause :=
  .externalService
    ("message " ++ Number.decimal b.messageId ++
      " is already bound to " ++ b.emoji)

/- Store a binding in place of all others of its guild. -/
def persist
    (b : Binding) : Program Unit :=
  transaction do
    let taken : Bool ← execute (.isBound b.messageId b.emoji)
    if taken then throw (alreadyBound b)
    let _ ← execute (.boundMessages b.guildId)
    execute (.dropBindings b.guildId)
    execute (.addBinding b)

/- Causes for which a message without a binding is deleted. -/
def isUnbound : Cause → Bool
  | .externalService _ => true
  | cause => cause.isStorageFault

/- Delete a message that could not be bound. -/
def discard
    (b : Binding)
    (cause : Cause) : Program Unit := do
  handling
    (Platform.perform (.deleteMessage b.channelId b.messageId))
    Cause.isRefusal fun _ => return ()
  match cause with
  | .externalService s => throw (.externalService s)
  | _ =>
    throw (.externalService "could not persist reaction-role binding")

/-
  Send a message and bind a reaction on it to a role. The
  binding is stored before it is used and before the bot adds
  its own reaction.
-/
def bindReaction
    (guildId channelId roleId : Int)
    (content emoji : String) : Program Binding := do
  let sent ← Platform.sendMessage channelId (.text content) none
  let messageId ← settle sent.idItem
  let b : Binding := ⟨guildId, channelId, messageId, emoji, roleId⟩
  handling (persist b) isUnbound (discard b)
  change fun m => m.putBinding b
  Platform.perform (.addReaction channelId messageId emoji)
  return b

/- Send the welcome message and bind its check mark to a role. -/
def establish
    (guildId channelId roleId : Int) : Program Binding :=
  bindReaction guildId channelId roleId welcome checkMark

end GuildWarden.ReactionRole
