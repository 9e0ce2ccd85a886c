import GuildWarden.Permission.Check
import GuildWarden.Proofs.Collection.IdMap
import GuildWarden.Proofs.Effect.Runs

/-
  This file says which roles grant a tier, and what must have
  been seen and answered when a check of a permission ends
  well.

  Key definitions include:
    * `Tier.Lists`
    * `Tier.Grants`
    * `Permission.Reports`
    * `Permission.Names`

  Main statements:
    * `Tier.grants_of_judge`
    * `Permission.grants_of_holds`
    * `Permission.grants_of_confirm`
-/

namespace GuildWarden

open Program

variable {s : RoleSettings}
variable {tier : Tier}
variable {trace : List Exchange}

------------------------------------------------------------
-- Tiers
------------------------------------------------------------

/- A role is set for a tier by its id or by its name. -/
def Tier.Lists
    (s : RoleSettings)
    (tier : Tier)
    (roleId : Int)
    (name : String) : Prop :=
  (tier.rolesIn s).1.contains roleId = true ∨
    ∃ n ∈ (tier.rolesIn s).2,
      Text.casefold n = Text.casefold name

/- One of the roles that are held is known and set for a tier. -/
def Tier.Grants
    (s : RoleSettings)
    (tier : Tier)
    (known : IdMap String)
    (held : Int → Prop) : Prop :=
  ∃ roleId name,
    held roleId ∧ known.find? roleId = some name ∧
      tier.Lists s roleId name

theorem Tier.includes_iff
    {roleId : Int}
    {name : String} :
    tier.includes s roleId name = true ↔
      tier.Lists s roleId name := by
  simp [includes, Lists]

/- A set of roles meets those that grant a tier. -/
theorem Tier.meets_grantedBy_iff
    {known : IdMap String}
    {held : IdSet} :
    held.meets (tier.grantedBy s known) = true ↔
      tier.Grants s known (held.contains · = true) := by
  rw [grantedBy, IdSet.meets_ofList_iff]
  constructor
  · rintro ⟨roleId, hHeld, hListed⟩
    rcases List.mem_map.mp hListed with
      ⟨⟨roleId, name⟩, hEntry, rfl⟩
    rcases List.mem_filter.mp hEntry with
      ⟨hMember, hIncludes⟩
    exact ⟨_, name, hHeld,
      IdMap.find?_eq_some_iff.mpr hMember,
      includes_iff.mp hIncludes⟩
  · rintro ⟨roleId, name, hHeld, hKnown, hLists⟩
    refine ⟨roleId, hHeld, List.mem_map.mpr
      ⟨(roleId, name), List.mem_filter.mpr ⟨?_, ?_⟩, rfl⟩⟩
    · exact IdMap.find?_eq_some_iff.mp hKnown
    · exact includes_iff.mpr hLists

/- A tier that is granted needs no role, or a role grants it. -/
theorem Tier.grants_of_judge
    {inGuild : Bool}
    {known : IdMap String}
    {held : Option IdSet}
    (hGranted : tier.judge s inGuild known held = .granted) :
    tier = .everyone ∨
      inGuild = true ∧ ∃ rs, held = some rs ∧
        tier.Grants s known (rs.contains · = true) := by
  unfold judge at hGranted
  split at hGranted
  · rename_i hEveryone
    exact Or.inl hEveryone
  · refine Or.inr ?_
    split at hGranted
    · cases hGranted
    · rename_i hGuild
      refine ⟨by simpa using hGuild, ?_⟩
      simp only at hGranted
      split at hGranted
      · cases hGranted
      · split at hGranted
        · rename_i hHolds
          cases held with
          | none => cases hHolds
          | some rs =>
              exact ⟨rs, rfl, meets_grantedBy_iff.mp hHolds⟩
        · cases hGranted

namespace Permission

variable {guildId : Option Int}
variable {userId : Int}

------------------------------------------------------------
-- The Cache
------------------------------------------------------------

/- A check of roles that ends well. -/
theorem judge_of_hasTier
    {known : IdMap String}
    {held : Option IdSet}
    (hRuns :
      Runs (hasTier s guildId tier known held) trace
        (.ok true)) :
    tier.judge s guildId.isSome known held = .granted := by
  unfold hasTier at hRuns
  split at hRuns
  · assumption
  · cases hRuns
  · cases guildId with
    | none => cases hRuns
    | some g =>
        cases hRuns with
        | access m hNext => cases hNext

/-
  A check against the cache that ends well has seen a role
  that grants the tier, unless the tier needs none.
-/
theorem grants_of_holds
    {fresh : Option IdSet}
    (hRuns :
      Runs (holds s guildId userId tier fresh) trace
        (.ok true)) :
    tier = .everyone ∨
      ∃ g m rest held,
        guildId = some g ∧ trace = .saw m :: rest ∧
          (fresh.orElse fun _ => m.roles.rolesOf g userId) =
            some held ∧
          tier.Grants s (m.roles.namesOf g)
            (held.contains · = true) := by
  unfold holds at hRuns
  cases guildId with
  | none =>
      rcases Tier.grants_of_judge (judge_of_hasTier hRuns) with
        hEveryone | ⟨hGuild, _⟩
      · exact Or.inl hEveryone
      · cases hGuild
  | some g =>
      cases hRuns with
      | access m hNext =>
          rcases Tier.grants_of_judge
            (judge_of_hasTier hNext) with
            hEveryone | ⟨_, held, hHeld, hGrants⟩
          · exact Or.inl hEveryone
          · exact Or.inr
              ⟨g, m, _, held, rfl, rfl, hHeld, hGrants⟩

------------------------------------------------------------
-- The Platform
------------------------------------------------------------

/- A call runs by its answer. -/
theorem runs_call_iff
    {call : Platform.Call}
    {result : Except Cause Payload} :
    Runs (Platform.call call) trace result ↔
      trace = [.asked (.platform call) result] :=
  runs_request_iff (r := .platform call)

/- A member has a role, as the platform reports it. -/
def Reports
    (member : Payload)
    (roleId : Int) : Prop :=
  ∃ roles, member.fieldMembers "roles" = .ok roles ∧
    ∃ role ∈ roles, readId role = .ok (some roleId)

/-
  The names of the roles of a guild as they were found: in the
  cache, or by asking the platform when the cache had none.
-/
def Names
    (g : Int)
    (trace : List Exchange)
    (known : IdMap String) : Prop :=
  ∃ m, .saw m ∈ trace ∧
    (known = m.roles.namesOf g ∧
        (m.roles.namesOf g).isEmpty = false ∨
      (m.roles.namesOf g).isEmpty = true ∧
        ∃ roles : Payload,
          .asked (.platform (.getRoles g)) (.ok roles) ∈
              trace ∧
            readRoleNames roles = .ok known)

/- What is read from a list comes from one of its members. -/
theorem exists_of_mem_mapM
    {α β : Type}
    {f : α → Except Cause β}
    {xs : List α}
    {ys : List β}
    {y : β}
    (hRead : xs.mapM f = .ok ys)
    (hMember : y ∈ ys) :
    ∃ x ∈ xs, f x = .ok y := by
  induction xs generalizing ys with
  | nil =>
      cases hRead
      cases hMember
  | cons x xs hInduction =>
      rw [List.mapM_cons] at hRead
      cases hFirst : f x with
      | error cause =>
          rw [hFirst] at hRead
          cases hRead
      | ok z =>
          rw [hFirst] at hRead
          cases hRest : xs.mapM f with
          | error cause =>
              rw [hRest] at hRead
              cases hRead
          | ok zs =>
              rw [hRest] at hRead
              cases hRead
              rcases List.mem_cons.mp hMember with
                hSame | hLater
              · rw [hSame]
                exact ⟨x, List.mem_cons_self, hFirst⟩
              · rcases hInduction hRest hLater with
                  ⟨x', hThere, hFound⟩
                exact ⟨x', List.mem_cons_of_mem _ hThere,
                  hFound⟩

/- The roles that are read from a member are reported. -/
theorem reports_of_rolesInMember
    {member : Payload}
    {held : IdSet}
    {roleId : Int}
    (hRead : rolesInMember member = .ok held)
    (hHeld : held.contains roleId = true) :
    Reports member roleId := by
  unfold rolesInMember at hRead
  split at hRead
  · cases hRoles : member.fieldMembers "roles" with
    | error cause =>
        rw [hRoles] at hRead
        cases hRead
    | ok roles =>
        rw [hRoles] at hRead
        change readRoles roles = .ok held at hRead
        unfold readRoles at hRead
        cases hIds : roles.mapM readId with
        | error cause =>
            rw [hIds] at hRead
            cases hRead
        | ok ids =>
            rw [hIds] at hRead
            cases hRead
            rw [IdSet.contains_ofList_iff, List.mem_filterMap]
              at hHeld
            rcases hHeld with ⟨_, hMember, rfl⟩
            rcases exists_of_mem_mapM hIds hMember with
              ⟨role, hThere, hSame⟩
            exact ⟨roles, hRoles, role, hThere, hSame⟩
  · cases hRead

/- The names that are found were seen or asked for. -/
theorem names_of_roleNames
    {g : Int}
    {known : IdMap String}
    (hRuns : Runs (roleNames g) trace (.ok known)) :
    Names g trace known := by
  unfold roleNames at hRuns
  cases hRuns with
  | access m hNext =>
      simp only [Program.bind] at hNext
      split at hNext
      · rename_i hEmpty
        rcases runs_bind_ok_iff.mp hNext with
          ⟨before, roles, after, rfl, hAsked, hRead⟩
        rw [runs_call_iff] at hAsked
        rcases runs_settle_iff.mp hRead with ⟨rfl, hKnown⟩
        subst hAsked
        exact ⟨m, List.mem_cons_self, Or.inr ⟨hEmpty, roles,
          List.mem_cons_of_mem _ List.mem_cons_self,
          hKnown.symm⟩⟩
      · rename_i hKnown
        rcases runs_done_iff.mp hNext with ⟨rfl, hSame⟩
        cases hSame
        exact ⟨m, List.mem_cons_self,
          Or.inl ⟨rfl, by simpa using hKnown⟩⟩

/- What was found earlier stays found. -/
theorem Names.append_right
    {g : Int}
    {known : IdMap String}
    {more : List Exchange}
    (hNames : Names g trace known) :
    Names g (trace ++ more) known := by
  rcases hNames with ⟨m, hSaw, hFound⟩
  refine ⟨m, List.mem_append_left _ hSaw, ?_⟩
  rcases hFound with hCached | ⟨hEmpty, roles, hAsked, hRead⟩
  · exact Or.inl hCached
  · exact Or.inr ⟨hEmpty, roles,
      List.mem_append_left _ hAsked, hRead⟩

/- A member that is found was asked for. -/
theorem asked_of_getMember
    {g : Int}
    {member : Payload}
    (hRuns :
      Runs
        (handling
          (do return some (← Platform.call (.getMember g userId)))
          Cause.isUnknownTarget fun _ => return none)
        trace (.ok (some member))) :
    trace =
      [.asked (.platform (.getMember g userId))
        (.ok member)] := by
  rcases runs_handling_ok hRuns with
    hFound | ⟨_, _, _, _, _, hUnknown⟩
  · rcases runs_bind_ok_iff.mp hFound with
      ⟨before, _, after, rfl, hAsked, hDone⟩
    rcases runs_done_iff.mp hDone with ⟨rfl, hSame⟩
    cases hSame
    rw [runs_call_iff] at hAsked
    rw [hAsked]
    rfl
  · cases hUnknown

/-
  A check with the platform that ends well has asked for the
  member and was told a role that grants the tier, unless the
  tier needs none.
-/
theorem grants_of_confirm
    (hRuns :
      Runs (confirm s guildId userId tier) trace
        (.ok true)) :
    tier = .everyone ∨
      ∃ g known after, ∃ member : Payload,
        guildId = some g ∧
          trace =
              .asked (.platform (.getMember g userId))
                (.ok member) :: after ∧
            Names g after known ∧
              tier.Grants s known (Reports member) := by
  unfold confirm at hRuns
  by_cases hEveryone : tier = .everyone
  · exact Or.inl hEveryone
  refine Or.inr ?_
  rw [if_neg hEveryone] at hRuns
  cases guildId with
  | none => cases hRuns
  | some g =>
      rcases runs_bind_ok_iff.mp hRuns with
        ⟨before, asked, after, rfl, hAsked, hRest⟩
      cases asked with
      | none => cases hRest
      | some member =>
          rcases runs_bind_ok_iff.mp hRest with
            ⟨none', held, later, rfl, hHeld, hLater⟩
          rcases runs_settle_iff.mp hHeld with
            ⟨rfl, hRead⟩
          rcases runs_bind_ok_iff.mp hLater with
            ⟨naming, known, judging, rfl, hNames, hJudge⟩
          rcases Tier.grants_of_judge
            (judge_of_hasTier hJudge) with
            hNone | ⟨_, rs, hSome, roleId, name, hContains,
              hFound, hLists⟩
          · exact absurd hNone hEveryone
          · cases hSome
            refine ⟨g, known, naming ++ judging, member, rfl,
              ?_, ?_, roleId, name, ?_, hFound, hLists⟩
            · rw [asked_of_getMember hAsked]
              rfl
            · exact (names_of_roleNames hNames).append_right
            · exact reports_of_rolesInMember hRead.symm
                hContains

------------------------------------------------------------
-- Those Who May
------------------------------------------------------------

/- Roles that grant a tier are enough. -/
theorem hasTier_of_judge
    {known : IdMap String}
    {held : Option IdSet}
    (hGranted :
      tier.judge s guildId.isSome known held = .granted) :
    hasTier s guildId tier known held = .done true := by
  unfold hasTier
  rw [hGranted]
  rfl

/- A check against the cache may end well. -/
theorem runs_holds
    {g : Int}
    {m : Memory}
    {fresh : Option IdSet}
    (hGranted :
      tier.judge s true (m.roles.namesOf g)
        (fresh.orElse fun _ => m.roles.rolesOf g userId) =
        .granted) :
    Runs (holds s (some g) userId tier fresh) [.saw m]
      (.ok true) := by
  refine .access m ?_
  change Runs (hasTier s (some g) tier _ _) [] (.ok true)
  rw [hasTier_of_judge hGranted]
  exact .done true

/- A check with the platform may end well. -/
theorem runs_confirm
    {g : Int}
    {m : Memory}
    {member : Payload}
    {held : IdSet}
    (hTier : tier ≠ .everyone)
    (hMember : rolesInMember member = .ok held)
    (hKnown : (m.roles.namesOf g).isEmpty = false)
    (hGranted :
      tier.judge s true (m.roles.namesOf g) (some held) =
        .granted) :
    Runs (confirm s (some g) userId tier)
      [.asked (.platform (.getMember g userId)) (.ok member),
        .saw m] (.ok true) := by
  unfold confirm
  rw [if_neg hTier]
  refine runs_bind_ok_iff.mpr ⟨_, some member, [.saw m], rfl,
    .ask (r := .platform (.getMember g userId)) (.ok member)
      (.done (some member)), ?_⟩
  refine runs_bind_ok_iff.mpr ⟨[], held, [.saw m], rfl,
    runs_settle_iff.mpr ⟨rfl, hMember.symm⟩, ?_⟩
  refine .access m ?_
  simp only [Program.bind, hKnown]
  change Runs (hasTier s (some g) tier _ _) [] (.ok true)
  rw [hasTier_of_judge hGranted]
  exact .done true

end Permission

end GuildWarden
