import GuildWarden.Guild.RoleCache

/-
  This file says what each change of the role cache does to
  the roles of a member and to the names of the roles of a
  guild: it concerns one member or one guild, and no other.

  Key definitions include:
    * `RoleCache.renamed`

  Main statements:
    * `RoleCache.rolesOf_setMember`
    * `RoleCache.namesOf_setRole`
-/

namespace GuildWarden.RoleCache

variable (c : RoleCache)
variable (guildId other userId : Int)

------------------------------------------------------------
-- Guilds
------------------------------------------------------------

/- No member of a guild is known that was dropped. -/
theorem rolesOf_dropGuild :
    (c.dropGuild guildId).rolesOf other userId =
      if other = guildId then none
      else c.rolesOf other userId := by
  unfold rolesOf membersOf dropGuild
  rw [IdMap.find?_erase]
  split <;> rfl

theorem namesOf_dropGuild :
    (c.dropGuild guildId).namesOf other =
      if other = guildId then IdMap.empty
      else c.namesOf other := by
  unfold namesOf dropGuild
  rw [IdMap.find?_erase]
  split <;> rfl

/- The members of one guild are replaced. -/
theorem rolesOf_insert
    (members : IdMap IdSet) :
    rolesOf
        { c with members := c.members.insert guildId members }
        other userId =
      if other = guildId then members.find? userId
      else c.rolesOf other userId := by
  unfold rolesOf membersOf
  rw [IdMap.find?_insert]
  split <;> rfl

/- The members of a guild that is replaced are the given ones. -/
theorem rolesOf_replaceGuild
    (names : IdMap String)
    (members : IdMap IdSet) :
    (c.replaceGuild guildId names members).rolesOf other
        userId =
      if other = guildId then members.find? userId
      else c.rolesOf other userId :=
  c.rolesOf_insert guildId other userId members

theorem namesOf_replaceGuild
    (names : IdMap String)
    (members : IdMap IdSet) :
    (c.replaceGuild guildId names members).namesOf other =
      if other = guildId then names
      else c.namesOf other := by
  unfold namesOf replaceGuild
  rw [IdMap.find?_insert]
  split <;> rfl

------------------------------------------------------------
-- Roles and Members
------------------------------------------------------------

/- The names of roles when one is given a name, or is gone. -/
def renamed
    (names : IdMap String)
    (roleId : Int) :
    Option String → IdMap String
  | some name => names.insert roleId name
  | none => names.erase roleId

/- A role is renamed in its guild only. -/
theorem namesOf_setRole
    (roleId : Int)
    (name : Option String) :
    (c.setRole guildId roleId name).namesOf other =
      if other = guildId then
        renamed (c.namesOf guildId) roleId name
      else c.namesOf other := by
  have hChange :
      (c.setRole guildId roleId name).names =
        c.names.insert guildId
          (renamed (c.namesOf guildId) roleId name) := by
    cases name <;> rfl
  rw [namesOf, hChange, IdMap.find?_insert]
  split <;> rfl

theorem rolesOf_setRole
    (roleId : Int)
    (name : Option String) :
    (c.setRole guildId roleId name).rolesOf other userId =
      c.rolesOf other userId :=
  rfl

/- A member is changed in one guild only. -/
theorem rolesOf_setMember
    (memberId : Int)
    (roles : Option IdSet) :
    (c.setMember guildId memberId roles).rolesOf other
        userId =
      if other = guildId ∧ userId = memberId then roles
      else c.rolesOf other userId := by
  refine (c.rolesOf_insert guildId other userId _).trans ?_
  by_cases hGuild : other = guildId
  · subst hGuild
    cases roles <;>
      simp [IdMap.find?_insert, IdMap.find?_erase, rolesOf]
  · simp [hGuild]

theorem namesOf_setMember
    (memberId : Int)
    (roles : Option IdSet) :
    (c.setMember guildId memberId roles).namesOf other =
      c.namesOf other :=
  rfl

end GuildWarden.RoleCache
