import GuildWarden.Command.History
import GuildWarden.Permission.Tier
import GuildWarden.Store.Table
import GuildWarden.Web.Call

/-
  This file defines what the bot keeps in memory while it
  runs: the role cache, the guilds that were reported as
  misconfigured, the reply history, the bindings of reactions
  to roles, its own user id and its open service sessions.

  Key definitions include:
    * `Memory`
    * `Memory.putBinding`
    * `Memory.warn`
-/

namespace GuildWarden

/- What the bot keeps in memory. -/
structure Memory where
  roles : RoleCache
  warned : List (Int × Tier)
  history : ReplyHistory
  bindings : List Store.Binding
  botUserId : Option Int
  token : Option String
  openServices : List Web.Service
deriving DecidableEq, Repr

namespace Memory

/- Nothing is remembered yet. -/
def empty : Memory where
  roles := RoleCache.empty
  warned := []
  history := ReplyHistory.empty
  bindings := []
  botUserId := none
  token := none
  openServices := []

/- Note that a guild was reported as misconfigured for a tier. -/
def warn
    (m : Memory)
    (guildId : Int)
    (tier : Tier) : Memory :=
  if m.warned.contains (guildId, tier) then m
  else { m with warned := m.warned ++ [(guildId, tier)] }

/- The bindings as a map: of two bindings of a reaction the later one counts. -/
def gatherBindings
    (bs : List Store.Binding) : List Store.Binding :=
  bs.foldl (fun acc b => Store.putRow Store.Binding.sameReaction b acc) []

/- Replace the bindings of a guild by one binding. -/
def putBinding
    (m : Memory)
    (b : Store.Binding) : Memory :=
  let others := m.bindings.filter fun x => x.guildId != b.guildId
  { m with bindings := Store.putRow Store.Binding.sameReaction b others }

end Memory

end GuildWarden
