import GuildWarden.Collection.IdMap

/-
  This file defines the role cache: the names of the roles of
  every guild and the roles of its members, as last seen.

  Key definitions include:
    * `RoleCache`
    * `RoleCache.replaceGuild`
    * `RoleCache.setRole`
    * `RoleCache.setMember`
    * `RoleCache.rolesOf`
    * `RoleCache.namesOf`
-/

namespace GuildWarden

/- Role names by guild and role, and roles by guild and member. -/
structure RoleCache where
  names : IdMap (IdMap String)
  members : IdMap (IdMap IdSet)
deriving DecidableEq, Repr

namespace RoleCache

/- Nothing has been seen yet. -/
def empty : RoleCache where
  names := IdMap.empty
  members := IdMap.empty

/- The names of the roles of a guild. -/
def namesOf
    (c : RoleCache)
    (guildId : Int) : IdMap String :=
  (c.names.find? guildId).getD IdMap.empty

/- The known members of a guild. -/
def membersOf
    (c : RoleCache)
    (guildId : Int) : IdMap IdSet :=
  (c.members.find? guildId).getD IdMap.empty

/- The roles of a member, if the member is known. -/
def rolesOf
    (c : RoleCache)
    (guildId userId : Int) : Option IdSet :=
  (c.membersOf guildId).find? userId

/- Forget a guild. -/
def dropGuild
    (c : RoleCache)
    (guildId : Int) : RoleCache where
  names := c.names.erase guildId
  members := c.members.erase guildId

/- Replace all that is known of a guild. -/
def replaceGuild
    (c : RoleCache)
    (guildId : Int)
    (names : IdMap String)
    (members : IdMap IdSet) : RoleCache where
  names := c.names.insert guildId names
  members := c.members.insert guildId members

/- Set the name of a role; without a name the role is gone. -/
def setRole
    (c : RoleCache)
    (guildId roleId : Int)
    (name : Option String) : RoleCache :=
  let names := c.namesOf guildId
  let names :=
    match name with
    | some n => names.insert roleId n
    | none => names.erase roleId
  { c with names := c.names.insert guildId names }

/- Set the roles of a member; without roles the member is gone. -/
def setMember
    (c : RoleCache)
    (guildId userId : Int)
    (roles : Option IdSet) : RoleCache :=
  let members := c.membersOf guildId
  let members :=
    match roles with
    | some rs => members.insert userId rs
    | none => members.erase userId
  { c with members := c.members.insert guildId members }

end RoleCache

end GuildWarden
