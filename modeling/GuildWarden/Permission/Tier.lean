import GuildWarden.Guild.RoleCache
import GuildWarden.Settings.Basic
import GuildWarden.Text.Case

/-
  This file defines the tiers of permission, the roles of a
  guild that grant a tier, and the verdict on a user.

  Key definitions include:
    * `Tier`
    * `Tier.grantedBy`
    * `Tier.Verdict`
    * `Tier.judge`
-/

namespace GuildWarden

/- A tier of permission; the lowest one needs no role. -/
inductive Tier where
  | everyone
  | privileged
  | moderator
deriving DecidableEq, Repr

namespace Tier

/- The ids and the names of the roles that are set for a tier. -/
def rolesIn
    (s : RoleSettings) : Tier → IdSet × List String
  | .privileged => (s.privilegedIds, s.privilegedNames)
  | _ => (s.moderatorIds, s.moderatorNames)

/- Whether a role with the given id and name is set for a tier. -/
def includes
    (s : RoleSettings)
    (tier : Tier)
    (roleId : Int)
    (name : String) : Bool :=
  let (ids, names) := rolesIn s tier
  ids.contains roleId ||
    (names.map Text.casefold).contains (Text.casefold name)

/- The known roles that grant a tier. -/
def grantedBy
    (s : RoleSettings)
    (tier : Tier)
    (known : IdMap String) : IdSet :=
  IdSet.ofList
    ((known.entries.filter fun e => tier.includes s e.1 e.2).map (·.1))

/-
  Whether a user has a tier. A guild without any role that
  grants the tier is misconfigured.
-/
inductive Verdict where
  | granted
  | denied
  | misconfigured
deriving DecidableEq, Repr

/- Whether a set of roles is known and meets another one. -/
def holdsAny
    (held : Option IdSet)
    (wanted : IdSet) : Bool :=
  match held with
  | some rs => rs.meets wanted
  | none => false

/-
  The verdict on a user with the given roles in a guild with
  the given role names. Outside of a guild no tier is granted
  but the lowest.
-/
def judge
    (s : RoleSettings)
    (tier : Tier)
    (inGuild : Bool)
    (known : IdMap String)
    (held : Option IdSet) : Verdict :=
  if tier = .everyone then .granted
  else if !inGuild then .denied
  else
    let wanted := grantedBy s tier known
    if wanted.isEmpty then .misconfigured
    else if holdsAny held wanted then .granted
    else .denied

end Tier

end GuildWarden
