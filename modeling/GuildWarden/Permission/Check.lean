import GuildWarden.Chat.Mention
import GuildWarden.Gateway.Decode
import GuildWarden.Permission.Tier
import GuildWarden.Platform.Client

/-
  This file defines the programs that check a permission:
  against the role cache, and against what the platform says
  at the moment, which is asked right before a destructive
  action.

  Key definitions include:
    * `Permission.hasTier`
    * `Permission.holds`
    * `Permission.confirm`
-/

namespace GuildWarden.Permission

open Program

/-
  Whether a user with the given roles in a guild with the
  given role names has a tier. A misconfigured guild is noted
  and grants nothing.
-/
def hasTier
    (s : RoleSettings)
    (guildId : Option Int)
    (tier : Tier)
    (known : IdMap String)
    (held : Option IdSet) : Program Bool := do
  match tier.judge s guildId.isSome known held with
  | .granted => return true
  | .denied => return false
  | .misconfigured =>
    match guildId with
    | some g => change fun m => m.warn g tier
    | none => return false
    return false

/-
  Whether a user has a tier according to the role cache, or
  to fresher roles if they are given.
-/
def holds
    (s : RoleSettings)
    (guildId : Option Int)
    (userId : Int)
    (tier : Tier)
    (fresh : Option IdSet) : Program Bool := do
  match guildId with
  | none => hasTier s none tier IdMap.empty none
  | some g =>
    let roles := (← memory).roles
    let held := fresh.orElse fun _ => roles.rolesOf g userId
    hasTier s guildId tier (roles.namesOf g) held

------------------------------------------------------------
-- Asking the platform
------------------------------------------------------------

/- The ids in a list of roles; what is no id is left out. -/
def readRoles
    (roles : List Payload) : Except Cause IdSet := do
  return IdSet.ofList ((← roles.mapM readId).filterMap id)

/- The roles of a member, as the platform reports them. -/
def rolesInMember
    (member : Payload) : Except Cause IdSet := do
  if member.isMap then readRoles (← member.fieldMembers "roles")
  else throw .notAMap

/- Whether a member of a list of roles has an id; a text has one if it says so. -/
def hasId
    (role : Payload) : Except Cause Bool :=
  match role with
  | .map _ => .ok (role.field? "id").isSome
  | .text s => .ok (Text.occursIn "id".toList s.toList)
  | .list items => .ok (items.any fun p => p.same (.text "id"))
  | _ => .error .badType

/- The id and the name of a role, if it has an id. -/
def roleEntry?
    (role : Payload) : Except Cause (Option (Int × String)) := do
  if ← hasId role then
    let id ← role.idItem
    return some (id, role.fieldText "name")
  else return none

/- The names of the roles of a guild, as the platform reports them. -/
def readRoleNames
    (roles : Payload) : Except Cause (IdMap String) := do
  let entries ← (← roles.members).mapM roleEntry?
  return IdMap.ofList (entries.filterMap id)

/- The names of the roles of a guild; the platform is asked if none are known. -/
def roleNames
    (guildId : Int) : Program (IdMap String) := do
  let known := (← memory).roles.namesOf guildId
  if known.isEmpty then
    settle (readRoleNames (← Platform.call (.getRoles guildId)))
  else return known

/-
  Whether a user has a tier according to the platform at this
  moment. One who is no member of the guild has none.
-/
def confirm
    (s : RoleSettings)
    (guildId : Option Int)
    (userId : Int)
    (tier : Tier) : Program Bool := do
  if tier = .everyone then return true
  let some g := guildId | return false
  let asked ←
    (do return some (← Platform.call (.getMember g userId))).handling
      Cause.isUnknownTarget fun _ => return none
  let some member := asked | return false
  let held ← settle (rolesInMember member)
  hasTier s guildId tier (← roleNames g) (some held)

end GuildWarden.Permission
