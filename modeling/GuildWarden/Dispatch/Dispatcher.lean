import GuildWarden.Command.Router
import GuildWarden.Moderation.Ban
import GuildWarden.Reaction.Role

/-
  This file defines the dispatcher, which takes the events of
  a session one after another. What an event says about roles
  is remembered at once; everything that talks to the outside
  becomes a job of the pool. A command is run once for every
  time at which its message was edited.

  Key definitions include:
    * `Dispatcher`
    * `Dispatcher.Job`
    * `Dispatcher.remember`
    * `Dispatcher.take`
-/

namespace GuildWarden

open Program

namespace Dispatcher

------------------------------------------------------------
-- Jobs
------------------------------------------------------------

/-
  Jobs with the same key run one after another: those of a
  message, and those of the reactions of a user to a message.
-/
inductive Key where
  | message (messageId : Int)
  | reaction (messageId userId : Int)
deriving DecidableEq, Repr

/- A job for the pool. -/
structure Job where
  key : Option Key
  program : Program Unit

/- A run of a command: the message and when it was edited last. -/
structure Delivery where
  messageId : Int
  editedAt : Option Timestamp
deriving DecidableEq, Repr

/- Whether two deliveries ask for the same run. -/
def Delivery.agrees
    (a b : Delivery) : Bool :=
  a.messageId == b.messageId &&
    match a.editedAt, b.editedAt with
    | some s, some t => s.agrees t
    | none, none => true
    | _, _ => false

end Dispatcher

/-
  The dispatcher: how commands are run, how old a command may
  be that is run again, and the latest deliveries, the oldest
  one first.
-/
structure Dispatcher where
  router : Router
  maxAge : Number.Binary64
  seen : List Dispatcher.Delivery

namespace Dispatcher

/- A dispatcher that has seen nothing yet. -/
def new
    (router : Router)
    (maxAge : Number.Binary64) : Dispatcher where
  router := router
  maxAge := maxAge
  seen := []

/- So many deliveries are remembered. -/
def seenLimit : Nat :=
  2048

/- The newest of a list of deliveries, as many as are remembered. -/
def newest
    (ds : List Delivery) : List Delivery :=
  ds.drop (ds.length - seenLimit)

/- Remember a delivery, unless it was seen before. -/
def remember
    (d : Dispatcher)
    (x : Delivery) : Option Dispatcher :=
  if d.seen.any x.agrees then none
  else some { d with seen := newest (d.seen ++ [x]) }

------------------------------------------------------------
-- Results
------------------------------------------------------------

/- What comes of an event. -/
structure Taken where
  dispatcher : Dispatcher
  memory : Memory
  job : Option Job

/- Nothing but the memory may have changed. -/
def noting
    (d : Dispatcher)
    (m : Memory) : Taken where
  dispatcher := d
  memory := m
  job := none

/- A job has to be done. -/
def submitting
    (d : Dispatcher)
    (m : Memory)
    (key : Option Key)
    (program : Program Unit) : Taken where
  dispatcher := d
  memory := m
  job := some ⟨key, program⟩

------------------------------------------------------------
-- Messages
------------------------------------------------------------

/- Route a message and note the outcome. -/
def routing
    (r : Router)
    (x : Command.Message) : Program Unit := do
  note (.routed (← r.route x) x.messageId)

/- Whether the bot or another bot wrote a message. -/
def isByBot
    (m : Memory)
    (a : Author) : Bool :=
  a.bot || m.botUserId = some a.id

/- Remember the roles of a member, if an event in a guild tells them. -/
def learnMember
    (m : Memory)
    (guildId : Option Int)
    (userId : Int)
    (roles : Option IdSet) : Memory :=
  match guildId, roles with
  | some g, some rs => { m with roles := m.roles.setMember g userId rs }
  | _, _ => m

/- Run the command that a message calls, unless that was done. -/
def runOnce
    (d : Dispatcher)
    (m : Memory)
    (editedAt : Option Timestamp)
    (messageId : Int)
    (x : Command.Message) : Taken :=
  match d.remember ⟨messageId, editedAt⟩ with
  | none => d.noting m
  | some d =>
    d.submitting m (some (.message messageId)) (routing d.router x)

/- Whether a text calls a command. -/
def isCall
    (d : Dispatcher)
    (text : String) : Bool :=
  (Invocation.parse? d.router.mark text).isSome

/- Take a new message. -/
def takeMessage
    (d : Dispatcher)
    (m : Memory)
    (e : Event.Message) : Taken :=
  if isByBot m e.author then d.noting m
  else
    let m := learnMember m e.guildId e.author.id e.memberRoles
    if !d.isCall e.content then d.noting m
    else
      d.runOnce m none e.messageId
        {
          text := e.content
          author := e.author
          guildId := e.guildId
          channelId := e.channelId
          messageId := some e.messageId
          memberRoles := e.memberRoles
        }

/- Take the text of a message that was edited by a user. -/
def takeEditedText
    (d : Dispatcher)
    (now : Rat)
    (m : Memory)
    (e : Event.Edit)
    (author : Author)
    (editedAt : Timestamp)
    (text : String) : Taken :=
  if d.isCall text && ReplyHistory.isFresh d.maxAge now e.timestamp then
    d.runOnce m (some editedAt) e.messageId
      {
        text
        author
        guildId := e.guildId
        channelId := e.channelId
        messageId := some e.messageId
        memberRoles := e.memberRoles
      }
  else d.noting m

/-
  Take a change of a message. Only real edits carry a content,
  an author and a time; only a text can call a command.
-/
def takeEdit
    (d : Dispatcher)
    (now : Rat)
    (m : Memory)
    (e : Event.Edit) : Taken :=
  match e.content, e.author, e.editedTimestamp with
  | .null, _, _ => d.noting m
  | content, some author, some editedAt =>
    if isByBot m author then d.noting m
    else
      let m := learnMember m e.guildId author.id e.memberRoles
      match content with
      | .text text => d.takeEditedText now m e author editedAt text
      | _ => d.noting m
  | _, _, _ => d.noting m

/- Delete a reply that may be gone already. -/
def deleteReply
    (e : ReplyEntry) : Program Unit :=
  handling
    (Platform.perform (.deleteMessage e.channelId e.replyId))
    Cause.isUnknownTarget fun _ => return ()

/- Take the deletion of a message; the reply to it goes with it. -/
def takeDeletion
    (d : Dispatcher)
    (m : Memory)
    (messageId : Int) : Taken :=
  match m.history.find? messageId with
  | none => d.noting m
  | some e =>
    let m := { m with history := m.history.erase messageId }
    d.submitting m (some (.message messageId)) (deleteReply e)

------------------------------------------------------------
-- Events
------------------------------------------------------------

/- Take a reaction. -/
def takeReaction
    (d : Dispatcher)
    (m : Memory)
    (r : Event.Reaction) : Taken :=
  let m := learnMember m r.guildId r.userId r.memberRoles
  d.submitting m (some (.reaction r.messageId r.userId)) do
    let _ ← ReactionRole.follow r
    return ()

/- Change the role cache. -/
def cached
    (d : Dispatcher)
    (m : Memory)
    (f : RoleCache → RoleCache) : Taken :=
  d.noting { m with roles := f m.roles }

/- Take an event at a time of the clock. -/
def take
    (d : Dispatcher)
    (now : Rat)
    (m : Memory) :
    Event → Taken
  | .ready r =>
    d.noting
      { m with botUserId := some r.userId, roles := RoleCache.empty }
  | .resumed => d.noting m
  | .guildAvailable s =>
    d.cached m (·.replaceGuild s.guildId s.roleNames s.memberRoles)
  | .guildUnavailable guildId => d.cached m (·.dropGuild guildId)
  | .roleChanged guildId roleId name =>
    d.cached m (·.setRole guildId roleId name)
  | .memberRolesChanged guildId userId roles =>
    d.cached m (·.setMember guildId userId roles)
  | .banRemoved guildId userId =>
    d.submitting m none do
      let _ ← Ban.forget guildId userId
      return ()
  | .messageCreate e => d.takeMessage m e
  | .messageUpdate e => d.takeEdit now m e
  | .messageDelete messageId _ _ => d.takeDeletion m messageId
  | .reaction r => d.takeReaction m r

end Dispatcher

end GuildWarden
