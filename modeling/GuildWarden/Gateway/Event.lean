import GuildWarden.Collection.IdMap
import GuildWarden.Payload.Basic
import GuildWarden.Time.Timestamp

/-
  This file defines the events that the gateway delivers: the
  start of a session, changes of guilds, roles and members,
  and messages and reactions.

  Key definitions include:
    * `Author`
    * `Event`
-/

namespace GuildWarden

/- Who wrote a message. -/
structure Author where
  id : Int
  name : String
  bot : Bool
deriving DecidableEq, Repr, Inhabited

namespace Event

/- A new session. -/
structure Ready where
  sessionId : String
  resumeUrl : Payload
  userId : Int
  guildIds : List Int
deriving BEq, Repr

/- A guild with the names of its roles and the roles of its members. -/
structure GuildState where
  guildId : Int
  roleNames : IdMap String
  memberRoles : IdMap IdSet
deriving DecidableEq, Repr

/- A message. -/
structure Message where
  messageId : Int
  channelId : Int
  guildId : Option Int
  author : Author
  content : String
  memberRoles : Option IdSet
  timestamp : Option Timestamp
deriving DecidableEq, Repr

/- A change of a message; the content may have any shape. -/
structure Edit where
  messageId : Int
  channelId : Int
  guildId : Option Int
  author : Option Author
  content : Payload
  memberRoles : Option IdSet
  timestamp : Option Timestamp
  editedTimestamp : Option Timestamp
deriving BEq, Repr

/- A reaction that was added to or removed from a message. -/
structure Reaction where
  added : Bool
  guildId : Option Int
  channelId : Int
  messageId : Int
  userId : Int
  emoji : Payload
  memberRoles : Option IdSet
deriving BEq, Repr

end Event

/-
  An event. The name of a changed role is missing when the
  role was deleted, the roles of a changed member when the
  member left.
-/
inductive Event where
  | ready (session : Event.Ready)
  | resumed
  | guildAvailable (state : Event.GuildState)
  | guildUnavailable (guildId : Int)
  | roleChanged
      (guildId roleId : Int)
      (name : Option String)
  | memberRolesChanged
      (guildId userId : Int)
      (roles : Option IdSet)
  | banRemoved (guildId userId : Int)
  | messageCreate (message : Event.Message)
  | messageUpdate (edit : Event.Edit)
  | messageDelete
      (messageId channelId : Int)
      (guildId : Option Int)
  | reaction (reaction : Event.Reaction)
deriving BEq, Repr

end GuildWarden
