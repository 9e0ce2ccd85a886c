import GuildWarden.Proofs.Dispatch.Deletion
import GuildWarden.Proofs.Dispatch.Deliveries
import GuildWarden.Proofs.Guild.RoleCache

/-
  This file shows that the role cache holds the latest word of
  the events on every member and every role. It is changed by
  nothing else, whatever commands are run and whatever roles
  are confirmed in the meantime.

  Key definitions include:
    * `Event.tells`
    * `Event.latestRoles`
    * `Event.latestNames`
    * `Dispatcher.Gathering`
    * `Dispatcher.Gathering.Steps`
    * `Dispatcher.Gathering.IsCurrent`

  Main statements:
    * `Dispatcher.rolesOf_take`
    * `Dispatcher.namesOf_take`
    * `Dispatcher.Gathering.IsOrderly.step`
    * `Dispatcher.Gathering.isCurrent_of_reaches`
-/

namespace GuildWarden

open Program

------------------------------------------------------------
-- What Events Tell
------------------------------------------------------------

namespace Event

variable (own : Option Int)
variable (guildId userId : Int)

/- The user id that a new session tells. -/
def own? : Event → Option Int
  | .ready r => some r.userId
  | _ => none

/-
  The roles that something by a member in a guild carries, if
  it is the given member of the given guild.
-/
def carried
    (place : Option Int)
    (member : Int)
    (roles : Option IdSet) : Option (Option IdSet) :=
  if place = some guildId ∧ member = userId then
    roles.map some
  else none

/-
  Who made a change of a message, if it is a real edit: one
  with a content, an author and a time.
-/
def Edit.editor?
    (e : Edit) : Option Author :=
  match e.content, e.editedTimestamp with
  | .null, _ => none
  | _, none => none
  | _, some _ => e.author

/-
  What an event tells of the roles of a member, if it does: the
  member has the given ones, or is not known any more.
-/
def tells : Event → Option (Option IdSet)
  | .ready _ => some none
  | .guildUnavailable g => if g = guildId then some none else none
  | .guildAvailable s =>
    if s.guildId = guildId then some (s.memberRoles.find? userId)
    else none
  | .memberRolesChanged g u roles =>
    if g = guildId ∧ u = userId then some roles else none
  | .messageCreate e =>
    if e.author.isUser own then
      carried guildId userId e.guildId e.author.id e.memberRoles
    else none
  | .messageUpdate e =>
    match e.editor? with
    | some a =>
      if a.isUser own then
        carried guildId userId e.guildId a.id e.memberRoles
      else none
    | none => none
  | .reaction r =>
    carried guildId userId r.guildId r.userId r.memberRoles
  | _ => none

/- Whether an event is about a message. -/
def isOfMessage : Event → Bool
  | .messageCreate _ => true
  | .messageUpdate _ => true
  | .messageDelete _ _ _ => true
  | .reaction _ => true
  | _ => false

/- The names of the roles of a guild, if an event tells them all. -/
def allNames? : Event → Option (IdMap String)
  | .ready _ => some IdMap.empty
  | .guildUnavailable g =>
    if g = guildId then some IdMap.empty else none
  | .guildAvailable s =>
    if s.guildId = guildId then some s.roleNames else none
  | _ => none

/- The role of a guild that an event renames, and the new name. -/
def renames? : Event → Option (Int × Option String)
  | .roleChanged g roleId name =>
    if g = guildId then some (roleId, name) else none
  | _ => none

/-
  The own user id after some events, the latest one first: the
  one of the latest session.
-/
def latestOwn
    (past : List Event) : Option Int :=
  (past.findSome? own?).or own

/-
  The latest word of events on the roles of a member, the
  latest one first, if there is one.
-/
def latestWord? :
    List Event → Option (Option IdSet)
  | [] => none
  | e :: past =>
    (e.tells (latestOwn own past) guildId userId).or
      (latestWord? past)

/- The roles of a member after some events. -/
def latestRoles
    (first : Memory)
    (past : List Event) : Option IdSet :=
  (latestWord? first.botUserId guildId userId past).getD
    (first.roles.rolesOf guildId userId)

/-
  The names of the roles of a guild after some events: those
  that were told at once, with the later changes in their
  order.
-/
def latestNames
    (first : Memory)
    (past : List Event) : IdMap String :=
  let later := past.takeWhile fun e => (e.allNames? guildId).isNone
  let told :=
    (past.findSome? (allNames? guildId)).getD
      (first.roles.namesOf guildId)
  (later.filterMap (renames? guildId)).foldr
    (fun x names => RoleCache.renamed names x.1 x.2) told

theorem latestOwn_cons
    (e : Event)
    (past : List Event) :
    latestOwn own (e :: past) =
      e.own?.or (latestOwn own past) := by
  unfold latestOwn
  rw [List.findSome?_cons]
  cases e.own? <;> rfl

theorem latestOwn_append
    (later past : List Event) :
    latestOwn own (later ++ past) =
      latestOwn (latestOwn own past) later := by
  unfold latestOwn
  rw [List.findSome?_append, Option.or_assoc]

/- A later word counts more than an earlier one. -/
theorem latestWord?_append
    (later past : List Event) :
    latestWord? own guildId userId (later ++ past) =
      (latestWord? (latestOwn own past) guildId userId
        later).or (latestWord? own guildId userId past) := by
  induction later with
  | nil => rfl
  | cons e rest hInduction =>
      rw [List.cons_append, latestWord?, latestWord?,
        hInduction, latestOwn_append, Option.or_assoc]

theorem latestRoles_cons
    (first : Memory)
    (e : Event)
    (past : List Event) :
    latestRoles guildId userId first (e :: past) =
      (e.tells (latestOwn first.botUserId past) guildId
        userId).getD
          (latestRoles guildId userId first past) := by
  unfold latestRoles
  rw [latestWord?]
  cases e.tells (latestOwn first.botUserId past) guildId
    userId <;> rfl

theorem latestNames_cons
    (first : Memory)
    (e : Event)
    (past : List Event) :
    latestNames guildId first (e :: past) =
      match e.allNames? guildId, e.renames? guildId with
      | some names, _ => names
      | none, some x =>
        RoleCache.renamed (latestNames guildId first past) x.1
          x.2
      | none, none => latestNames guildId first past := by
  unfold latestNames
  cases hAll : e.allNames? guildId with
  | some names => simp [hAll]
  | none =>
      cases hOne : e.renames? guildId with
      | some x => simp [hAll, hOne]
      | none => simp [hAll, hOne]

end Event

------------------------------------------------------------
-- One Event
------------------------------------------------------------

namespace Dispatcher

variable (d : Dispatcher)
variable (now : Rat)
variable (m : Memory)
variable (e : Event)
variable (guildId userId : Int)

/- What is learned of a member is what was carried. -/
theorem rolesOf_learnMember
    (place : Option Int)
    (member : Int)
    (roles : Option IdSet) :
    (learnMember m place member roles).roles.rolesOf guildId
        userId =
      (Event.carried guildId userId place member roles).getD
        (m.roles.rolesOf guildId userId) := by
  unfold learnMember Event.carried
  cases place with
  | none => simp
  | some g =>
      cases roles with
      | none => simp
      | some rs =>
          simp only [RoleCache.rolesOf_setMember,
            Option.some.injEq, eq_comm (a := g),
            eq_comm (a := member)]
          split <;> rfl

/- Members have nothing to do with names, or with oneself. -/
theorem frame_learnMember
    (place : Option Int)
    (member : Int)
    (roles : Option IdSet) :
    (learnMember m place member roles).botUserId =
        m.botUserId ∧
      (learnMember m place member roles).roles.namesOf
          guildId =
        m.roles.namesOf guildId := by
  unfold learnMember
  split
  · rename_i g rs
    exact ⟨rfl, m.roles.namesOf_setMember g guildId member rs⟩
  · exact ⟨rfl, rfl⟩

/- A message tells the roles of its author, if a user wrote it. -/
theorem memory_takeMessage
    (x : Event.Message) :
    (d.takeMessage m x).memory =
      if x.author.isUser m.botUserId then
        learnMember m x.guildId x.author.id x.memberRoles
      else m := by
  unfold takeMessage
  rw [isByBot_eq]
  cases x.author.isUser m.botUserId with
  | false => rfl
  | true =>
      simp only [Bool.not_true, Bool.false_eq_true, if_false,
        if_true]
      split
      · rfl
      · exact (runOnce_frame d _ none x.messageId _).2

theorem memory_takeEditedText
    (x : Event.Edit)
    (author : Author)
    (editedAt : Timestamp)
    (text : String) :
    (d.takeEditedText now m x author editedAt text).memory =
      m := by
  unfold takeEditedText
  split
  · exact (runOnce_frame d m (some editedAt) x.messageId _).2
  · rfl

/- A real edit tells the roles of its author, if a user made it. -/
theorem memory_takeEdit
    (x : Event.Edit) :
    (d.takeEdit now m x).memory =
      match x.editor? with
      | some a =>
        if a.isUser m.botUserId then
          learnMember m x.guildId a.id x.memberRoles
        else m
      | none => m := by
  unfold takeEdit
  split
  · rename_i hNull
    simp [Event.Edit.editor?, hNull, noting]
  · rename_i author editedAt hAuthor hEdited hContent
    have hEditor : x.editor? = some author := by
      unfold Event.Edit.editor?
      split
      · rename_i hNull
        exact absurd hNull hContent
      · rename_i hNone _
        rw [hEdited] at hNone
        cases hNone
      · exact hAuthor
    rw [isByBot_eq, hEditor]
    simp only
    cases author.isUser m.botUserId with
    | false => rfl
    | true =>
        simp only [Bool.not_true, Bool.false_eq_true, if_false,
          if_true]
        split
        · rw [memory_takeEditedText]
        · rfl
  · rename_i hContent hNot
    have hEditor : x.editor? = none := by
      unfold Event.Edit.editor?
      split
      · rfl
      · rfl
      · rename_i editedAt hEdited _
        rw [Option.eq_none_iff_forall_ne_some]
        intro author hAuthor
        exact hNot author editedAt hAuthor hEdited
    rw [hEditor]
    rfl

theorem memory_takeDeletion
    (messageId : Int) :
    (d.takeDeletion m messageId).memory.roles = m.roles ∧
      (d.takeDeletion m messageId).memory.botUserId =
        m.botUserId := by
  unfold takeDeletion
  split
  · exact ⟨rfl, rfl⟩
  · exact ⟨rfl, rfl⟩

/- An event changes the roles of a member to what it tells. -/
theorem rolesOf_take :
    (d.take now m e).memory.roles.rolesOf guildId userId =
      (e.tells m.botUserId guildId userId).getD
        (m.roles.rolesOf guildId userId) := by
  cases e with
  | ready r => rfl
  | resumed => rfl
  | guildAvailable s =>
      refine (RoleCache.rolesOf_replaceGuild m.roles s.guildId
        guildId userId s.roleNames s.memberRoles).trans ?_
      simp only [Event.tells, eq_comm (a := guildId)]
      split <;> rfl
  | guildUnavailable g =>
      refine (RoleCache.rolesOf_dropGuild m.roles g guildId
        userId).trans ?_
      simp only [Event.tells, eq_comm (a := guildId)]
      split <;> rfl
  | roleChanged g roleId name =>
      exact RoleCache.rolesOf_setRole m.roles g guildId userId
        roleId name
  | memberRolesChanged g u roles =>
      refine (RoleCache.rolesOf_setMember m.roles g guildId
        userId u roles).trans ?_
      simp only [Event.tells, eq_comm (a := guildId),
        eq_comm (a := userId)]
      split <;> rfl
  | banRemoved g u => rfl
  | messageCreate x =>
      change (d.takeMessage m x).memory.roles.rolesOf _ _ = _
      rw [memory_takeMessage, Event.tells]
      split
      · exact rolesOf_learnMember m guildId userId _ _ _
      · rfl
  | messageUpdate x =>
      change (d.takeEdit now m x).memory.roles.rolesOf _ _ = _
      rw [memory_takeEdit, Event.tells]
      cases x.editor? with
      | none => rfl
      | some a =>
          simp only
          split
          · exact rolesOf_learnMember m guildId userId _ _ _
          · rfl
  | messageDelete messageId channelId g =>
      change (d.takeDeletion m messageId).memory.roles.rolesOf
        _ _ = _
      rw [(memory_takeDeletion d m messageId).1]
      rfl
  | reaction r => exact rolesOf_learnMember m guildId userId _ _ _

/- What an event says of a message names nobody anew. -/
theorem frame_take_of_message
    (hMessage : e.isOfMessage = true) :
    (d.take now m e).memory.botUserId = m.botUserId ∧
      (d.take now m e).memory.roles.namesOf guildId =
        m.roles.namesOf guildId := by
  cases e with
  | messageCreate x =>
      change (d.takeMessage m x).memory.botUserId = _ ∧
        (d.takeMessage m x).memory.roles.namesOf _ = _
      rw [memory_takeMessage]
      split
      · exact frame_learnMember m guildId _ _ _
      · exact ⟨rfl, rfl⟩
  | messageUpdate x =>
      change (d.takeEdit now m x).memory.botUserId = _ ∧
        (d.takeEdit now m x).memory.roles.namesOf _ = _
      rw [memory_takeEdit]
      split
      · split
        · exact frame_learnMember m guildId _ _ _
        · exact ⟨rfl, rfl⟩
      · exact ⟨rfl, rfl⟩
  | messageDelete messageId channelId g =>
      rcases memory_takeDeletion d m messageId with
        ⟨hRoles, hOwn⟩
      refine ⟨hOwn, ?_⟩
      change (d.takeDeletion m messageId).memory.roles.namesOf
        _ = _
      rw [hRoles]
  | reaction r => exact frame_learnMember m guildId _ _ _
  | _ => cases hMessage

/- An event changes the names of roles to what it tells. -/
theorem namesOf_take :
    (d.take now m e).memory.roles.namesOf guildId =
      match e.allNames? guildId, e.renames? guildId with
      | some names, _ => names
      | none, some x =>
        RoleCache.renamed (m.roles.namesOf guildId) x.1 x.2
      | none, none => m.roles.namesOf guildId := by
  by_cases hMessage : e.isOfMessage = true
  · rw [(frame_take_of_message d now m e guildId hMessage).2]
    cases e <;> first | rfl | cases hMessage
  · cases e with
    | guildAvailable s =>
        refine (RoleCache.namesOf_replaceGuild m.roles s.guildId
          guildId s.roleNames s.memberRoles).trans ?_
        simp only [Event.allNames?, Event.renames?,
          eq_comm (a := guildId)]
        split <;> rfl
    | guildUnavailable g =>
        refine (RoleCache.namesOf_dropGuild m.roles g
          guildId).trans ?_
        simp only [Event.allNames?, Event.renames?,
          eq_comm (a := guildId)]
        split <;> rfl
    | roleChanged g roleId name =>
        refine (RoleCache.namesOf_setRole m.roles g guildId roleId
          name).trans ?_
        simp only [Event.allNames?, Event.renames?,
          eq_comm (a := guildId)]
        split
        · rename_i hSame
          rw [hSame]
        · rfl
    | ready r => rfl
    | resumed => rfl
    | memberRolesChanged g u roles => rfl
    | banRemoved g u => rfl
    | _ => exact absurd rfl hMessage

/- Only a new session tells the own user id. -/
theorem botUserId_take :
    (d.take now m e).memory.botUserId =
      e.own?.or m.botUserId := by
  by_cases hMessage : e.isOfMessage = true
  · rw [(frame_take_of_message d now m e 0 hMessage).1]
    cases e <;> first | rfl | cases hMessage
  · cases e <;> first | rfl | exact absurd rfl hMessage

------------------------------------------------------------
-- Gatherings
------------------------------------------------------------

/- The event that was taken, if one was. -/
def Happening.event? : Happening → Option Event
  | .took e _ => some e
  | .asked _ _ _ _ => none

/- The events that were taken, the latest one first. -/
def Course.events
    (c : Course) : List Event :=
  c.log.filterMap Happening.event?

/-
  A course of the dispatcher, and the programs that others
  run besides its jobs.
-/
structure Gathering where
  course : Course
  guests : List (Program Unit)

/- Anybody may route a message or have a permission confirmed. -/
inductive IsGuest
    (r : Router) : Program Unit → Prop where
  | routes
      (x : Command.Message) :
      IsGuest r ((r.route x).bind fun _ => .done ())
  | confirms
      (s : RoleSettings)
      (guildId : Option Int)
      (userId : Int)
      (tier : Tier) :
      IsGuest r
        ((Permission.confirm s guildId userId tier).bind
          fun _ => .done ())

namespace Gathering

variable {g h : Gathering}

/- A bot that starts with a memory. -/
def opening
    (b : Bot)
    (first : Memory) : Gathering where
  course := { Course.start b with memory := first }
  guests := []

/-
  One step: the course goes on, where nothing but events and
  jobs changes the memory; a guest joins, looks at the memory
  and changes it, is answered, or leaves.
-/
inductive Steps : Gathering → Gathering → Prop where
  | goesOn
      {c d : Course}
      {guests : List (Program Unit)}
      (hSteps : Course.Steps c d)
      (hNobody :
        d.log = c.log → d.tasks = c.tasks →
          d.memory = c.memory) :
      Steps ⟨c, guests⟩ ⟨d, guests⟩
  | joins
      {c : Course}
      {guests : List (Program Unit)}
      {p : Program Unit}
      (hGuest : IsGuest c.dispatcher.router p) :
      Steps ⟨c, guests⟩ ⟨c, guests ++ [p]⟩
  | looks
      (c : Course)
      (before after : List (Program Unit))
      (change : Memory → Memory)
      (next : Memory → Program Unit) :
      Steps ⟨c, before ++ .access change next :: after⟩
        ⟨{ c with memory := change c.memory },
          before ++ next c.memory :: after⟩
  | isAnswered
      (c : Course)
      (before after : List (Program Unit))
      (r : Request)
      (next : Except Cause r.Answer → Program Unit)
      (answer : Except Cause r.Answer) :
      Steps ⟨c, before ++ .ask r next :: after⟩
        ⟨c, before ++ next answer :: after⟩
  | leaves
      (c : Course)
      (before after : List (Program Unit))
      (p : Program Unit) :
      Steps ⟨c, before ++ p :: after⟩ ⟨c, before ++ after⟩

/- What a bot may come to that starts with a memory. -/
def Reaches
    (b : Bot)
    (first : Memory)
    (g : Gathering) : Prop :=
  Relation.ReflTransGen Steps (opening b first) g

/-
  The role cache holds the latest word of the events that were
  taken, and no other step changes it.
-/
structure IsCurrent
    (first : Memory)
    (g : Gathering) : Prop where
  roles :
    ∀ guildId userId,
      g.course.memory.roles.rolesOf guildId userId =
        Event.latestRoles guildId userId first g.course.events
  names :
    ∀ guildId,
      g.course.memory.roles.namesOf guildId =
        Event.latestNames guildId first g.course.events
  untouched :
    ∀ h, Steps g h → h.course.events = g.course.events →
      h.course.memory.roles = g.course.memory.roles

------------------------------------------------------------
-- Who Leaves Roles Alone
------------------------------------------------------------

/- A program that leaves the roles and the own user id alone. -/
def IsDiscreet
    (p : Program Unit) : Prop :=
  ∃ owner known, p.Respects owner known

theorem IsDiscreet.access
    {change : Memory → Memory}
    {next : Memory → Program Unit}
    (hDiscreet : IsDiscreet (.access change next))
    (m : Memory) :
    m.Retains (change m) ∧ IsDiscreet (next m) := by
  rcases hDiscreet with ⟨owner, known, hRespects⟩
  cases hRespects with
  | access after _ hRetains hNext =>
      exact ⟨hRetains m, owner, after m, hNext m⟩

theorem IsDiscreet.answer
    {r : Request}
    {next : Except Cause r.Answer → Program Unit}
    (hDiscreet : IsDiscreet (.ask r next))
    (answer : Except Cause r.Answer) :
    IsDiscreet (next answer) := by
  rcases hDiscreet with ⟨owner, known, hRespects⟩
  cases hRespects with
  | ask after _ hNext =>
      exact ⟨owner, after answer, hNext answer⟩

/- Routing a message or confirming a permission is discreet. -/
theorem isDiscreet_of_isGuest
    {r : Router}
    {p : Program Unit}
    (hRouter : r.IsRespectful)
    (hGuest : IsGuest r p) :
    IsDiscreet p := by
  cases hGuest with
  | routes x =>
      have hOf :
          (r.contextOf x).IsOf (r.contextOf x).recordedId? :=
        fun id hRecorded => hRecorded
      refine ⟨_, _,
        (Router.respects_route x hRouter hOf).bind ?_⟩
      intro _
      exact .done () _
  | confirms s guildId userId tier =>
      refine ⟨none, .nothing,
        (Permission.respects_confirm s guildId userId
          tier).bind ?_⟩
      intro _
      exact .done () _

/- All programs of a gathering leave the roles alone. -/
structure IsOrderly
    (g : Gathering) : Prop where
  router : g.course.dispatcher.router.IsRespectful
  tasks : ∀ t ∈ g.course.tasks, IsDiscreet t.program
  guests : ∀ p ∈ g.guests, IsDiscreet p

theorem frame_submit
    (c : Course)
    (job : Job) :
    (c.submit job).memory = c.memory ∧
      (c.submit job).dispatcher = c.dispatcher ∧
        ∀ t ∈ (c.submit job).tasks,
          t ∈ c.tasks ∨ t.program = job.program := by
  unfold Course.submit
  split
  · refine ⟨rfl, rfl, ?_⟩
    intro t hMember
    rcases List.mem_append.mp hMember with hOld | hNew
    · exact Or.inl hOld
    · rw [List.mem_singleton.mp hNew]
      exact Or.inr rfl
  · exact ⟨rfl, rfl, fun _ hMember => Or.inl hMember⟩

/- An event changes what it does, and its job may join in. -/
theorem frame_take
    (c : Course)
    (now : Rat)
    (e : Event) :
    (c.take now e).memory =
        (c.dispatcher.take now c.memory e).memory ∧
      (c.take now e).dispatcher =
        (c.dispatcher.take now c.memory e).dispatcher ∧
      (c.take now e).events = e :: c.events ∧
      ∀ t ∈ (c.take now e).tasks, t ∈ c.tasks ∨
        ∃ job, (c.dispatcher.take now c.memory e).job =
            some job ∧
          t.program = job.program := by
  unfold Course.take
  simp only
  split
  · rename_i job hJob
    refine ⟨(frame_submit _ job).1, (frame_submit _ job).2.1,
      ?_, ?_⟩
    · rw [Course.events, Course.log_submit]
      rfl
    · intro t hMember
      rcases (frame_submit _ job).2.2 t hMember with
        hOld | hNew
      · exact Or.inl hOld
      · exact Or.inr ⟨job, hJob, hNew⟩
  · exact ⟨rfl, rfl, rfl, fun _ hMember => Or.inl hMember⟩

theorem IsOrderly.take
    {c : Course}
    {guests : List (Program Unit)}
    (hOrderly : IsOrderly ⟨c, guests⟩)
    (now : Rat)
    (e : Event) :
    IsOrderly ⟨c.take now e, guests⟩ := by
  rcases frame_take c now e with
    ⟨_, hDispatcher, _, hTasks⟩
  refine ⟨?_, ?_, hOrderly.guests⟩
  · have hRouter := (take_frame c.dispatcher now c.memory e).1
    simp only [hDispatcher, hRouter]
    exact hOrderly.router
  · intro t hMember
    rcases hTasks t hMember with hOld | ⟨job, hJob, hSame⟩
    · exact hOrderly.tasks t hOld
    · rw [hSame]
      exact ⟨_, _, respects_take hOrderly.router hJob⟩

/- Members of a list of which one was replaced. -/
theorem forall_mem_replace
    {α : Type}
    {P : α → Prop}
    {before after : List α}
    {old new : α}
    (hAll : ∀ x ∈ before ++ old :: after, P x)
    (hNew : P new) :
    ∀ x ∈ before ++ new :: after, P x := by
  intro x hMember
  rcases List.mem_append.mp hMember with hFirst | hRest
  · exact hAll x (List.mem_append_left _ hFirst)
  · rcases List.mem_cons.mp hRest with rfl | hLast
    · exact hNew
    · exact hAll x (List.mem_append_right _
        (List.mem_cons_of_mem _ hLast))

/- Members of a list of which one was removed. -/
theorem forall_mem_remove
    {α : Type}
    {P : α → Prop}
    {before after : List α}
    {old : α}
    (hAll : ∀ x ∈ before ++ old :: after, P x) :
    ∀ x ∈ before ++ after, P x := by
  intro x hMember
  rcases List.mem_append.mp hMember with hFirst | hLast
  · exact hAll x (List.mem_append_left _ hFirst)
  · exact hAll x (List.mem_append_right _
      (List.mem_cons_of_mem _ hLast))

/-
  In an orderly gathering an event is taken, or the roles and
  the own user id stay as they are. It stays orderly.
-/
theorem IsOrderly.step
    (hOrderly : IsOrderly g)
    (hSteps : Steps g h) :
    IsOrderly h ∧
      ((∃ now e, h.course = g.course.take now e) ∨
        (g.course.memory.Retains h.course.memory ∧
          h.course.events = g.course.events)) := by
  have hRouter := hOrderly.router
  have hTasks := hOrderly.tasks
  have hGuests := hOrderly.guests
  cases hSteps with
  | goesOn hSteps hNobody =>
      cases hSteps with
      | take now e =>
          exact ⟨hOrderly.take now e, Or.inl ⟨now, e, rfl⟩⟩
      | turn id =>
          exact ⟨⟨hRouter, hTasks, hGuests⟩,
            Or.inr ⟨⟨rfl, rfl⟩, rfl⟩⟩
      | access hSplit hRunning =>
          simp only [hSplit] at hTasks
          have hThis := hTasks _ (List.mem_append_right _
            List.mem_cons_self)
          rcases hThis.access _ with ⟨hRetains, hNext⟩
          exact ⟨⟨hRouter, forall_mem_replace hTasks hNext,
            hGuests⟩, Or.inr ⟨hRetains, rfl⟩⟩
      | answer answer hTimely hSplit hRunning =>
          simp only [hSplit] at hTasks
          have hThis := hTasks _ (List.mem_append_right _
            List.mem_cons_self)
          exact ⟨⟨hRouter,
            forall_mem_replace hTasks (hThis.answer answer),
            hGuests⟩, Or.inr ⟨⟨rfl, rfl⟩, rfl⟩⟩
      | finish hSplit hRunning hEnded =>
          simp only [hSplit] at hTasks
          exact ⟨⟨hRouter, forall_mem_remove hTasks, hGuests⟩,
            Or.inr ⟨⟨rfl, rfl⟩, rfl⟩⟩
      | change m hSame =>
          have hMemory := hNobody rfl rfl
          simp only at hMemory
          subst hMemory
          exact ⟨hOrderly, Or.inr ⟨⟨rfl, rfl⟩, rfl⟩⟩
  | joins hGuest =>
      refine ⟨⟨hRouter, hTasks, ?_⟩,
        Or.inr ⟨⟨rfl, rfl⟩, rfl⟩⟩
      intro p hMember
      rcases List.mem_append.mp hMember with hOld | hNew
      · exact hGuests p hOld
      · rw [List.mem_singleton.mp hNew]
        exact isDiscreet_of_isGuest hRouter hGuest
  | looks c before after change next =>
      have hThis := hGuests _ (List.mem_append_right _
        List.mem_cons_self)
      rcases hThis.access c.memory with ⟨hRetains, hNext⟩
      exact ⟨⟨hRouter, hTasks,
        forall_mem_replace hGuests hNext⟩,
        Or.inr ⟨hRetains, rfl⟩⟩
  | isAnswered c before after r next answer =>
      have hThis := hGuests _ (List.mem_append_right _
        List.mem_cons_self)
      exact ⟨⟨hRouter, hTasks,
        forall_mem_replace hGuests (hThis.answer answer)⟩,
        Or.inr ⟨⟨rfl, rfl⟩, rfl⟩⟩
  | leaves c before after p =>
      exact ⟨⟨hRouter, hTasks, forall_mem_remove hGuests⟩,
        Or.inr ⟨⟨rfl, rfl⟩, rfl⟩⟩

------------------------------------------------------------
-- All Gatherings
------------------------------------------------------------

/- What holds of a gathering after each step. -/
structure Invariant
    (first : Memory)
    (g : Gathering) : Prop
    extends IsOrderly g where
  own :
    g.course.memory.botUserId =
      Event.latestOwn first.botUserId g.course.events
  roles :
    ∀ guildId userId,
      g.course.memory.roles.rolesOf guildId userId =
        Event.latestRoles guildId userId first g.course.events
  names :
    ∀ guildId,
      g.course.memory.roles.namesOf guildId =
        Event.latestNames guildId first g.course.events

variable {first : Memory}

theorem Invariant.opening
    {s : Settings}
    {b : Bot}
    (first : Memory)
    (hBot : Bot.ofSettings s = .ok b) :
    Invariant first (opening b first) where
  router := Bot.isRespectful_router hBot
  tasks := by
    intro t hMember
    cases hMember
  guests := by
    intro p hMember
    cases hMember
  own := rfl
  roles := fun _ _ => rfl
  names := fun _ => rfl

theorem Invariant.step
    (hInvariant : Invariant first g)
    (hSteps : Steps g h) :
    Invariant first h := by
  rcases hInvariant.toIsOrderly.step hSteps with
    ⟨hOrderly, ⟨now, e, hTake⟩ | ⟨hRetains, hEvents⟩⟩
  · rcases frame_take g.course now e with
      ⟨hMemory, _, hEvents, _⟩
    rw [← hTake] at hMemory hEvents
    refine ⟨hOrderly, ?_, ?_, ?_⟩
    · rw [hMemory, hEvents, botUserId_take,
        Event.latestOwn_cons, hInvariant.own]
    · intro guildId userId
      rw [hMemory, hEvents, rolesOf_take,
        Event.latestRoles_cons, hInvariant.own,
        hInvariant.roles]
    · intro guildId
      rw [hMemory, hEvents, namesOf_take,
        Event.latestNames_cons, hInvariant.names]
  · refine ⟨hOrderly, ?_, ?_, ?_⟩
    · rw [hRetains.botUserId, hEvents]
      exact hInvariant.own
    · rw [hRetains.roles, hEvents]
      exact hInvariant.roles
    · rw [hRetains.roles, hEvents]
      exact hInvariant.names

theorem invariant_of_reaches
    {s : Settings}
    {b : Bot}
    (hBot : Bot.ofSettings s = .ok b)
    (hReaches : Reaches b first g) :
    Invariant first g := by
  induction hReaches with
  | refl => exact .opening first hBot
  | tail _ hSteps hInvariant => exact hInvariant.step hSteps

theorem log_take_ne
    (c : Course)
    (now : Rat)
    (e : Event) :
    (c.take now e).log ≠ c.log := by
  intro hLog
  have hEvents := (frame_take c now e).2.2.1
  rw [Course.events, hLog] at hEvents
  exact absurd hEvents List.ne_cons_self

/- Any event may be taken next. -/
theorem steps_take
    (g : Gathering)
    (now : Rat)
    (e : Event) :
    Steps g ⟨g.course.take now e, g.guests⟩ :=
  .goesOn (.take g.course now e)
    fun hLog => absurd hLog (log_take_ne g.course now e)

/-
  Whatever events are taken, jobs done, messages routed and
  permissions confirmed, the role cache is current.
-/
theorem isCurrent_of_reaches
    {s : Settings}
    {b : Bot}
    (hBot : Bot.ofSettings s = .ok b)
    (hReaches : Reaches b first g) :
    IsCurrent first g := by
  have hInvariant := invariant_of_reaches hBot hReaches
  refine ⟨hInvariant.roles, hInvariant.names, ?_⟩
  intro h hSteps hSame
  rcases (hInvariant.toIsOrderly.step hSteps).2 with
    ⟨now, e, hTake⟩ | ⟨hRetains, _⟩
  · have hMore := (frame_take g.course now e).2.2.1
    rw [← hTake, hSame] at hMore
    exact absurd hMore (List.ne_cons_self)
  · exact hRetains.roles

------------------------------------------------------------
-- A Member Who Was Given Another Role
------------------------------------------------------------

variable {c d : Course}
variable {guests : List (Program Unit)}
variable {serve : (r : Request) → Except Cause r.Answer}

/- What is left of a program that looks at the memory is another one. -/
theorem next_ne_access
    (change : Memory → Memory)
    (next : Memory → Program Unit)
    (m : Memory) :
    next m ≠ .access change next := by
  have hNever (p : Program Unit) :
      ∀ change next, ∀ m : Memory,
        p = .access change next → next m ≠ p := by
    induction p with
    | access change' next' hInduction =>
        intro change next m hThis hSame
        cases hThis
        exact hInduction m change' next' m hSame rfl
    | _ =>
        intro change next m hThis
        cases hThis
  exact hNever _ change next m rfl

/- A choice that adds no event and moves no job changes no memory. -/
theorem memory_of_next
    {choice : Course.Choice}
    (hNext : c.next serve choice = some d)
    (hLog : d.log = c.log)
    (hTasks : d.tasks = c.tasks) :
    d.memory = c.memory := by
  cases choice with
  | take now e =>
      cases hNext
      exact absurd hLog (log_take_ne c now e)
  | turn n =>
      cases hNext
      rfl
  | goOn =>
      simp only [Course.next, Course.goOn] at hNext
      split at hNext
      · cases hNext
      · rename_i n key program rest hSplit
        split at hNext
        · split at hNext
          · cases hNext
            rw [hSplit] at hTasks
            have hSame := congrArg Task.program
              (List.head_eq_of_cons_eq hTasks)
            exact absurd hSame (next_ne_access _ _ _)
          · cases hNext
            exact absurd hLog (List.cons_ne_self _ _)
          · cases hNext
            rfl
        · cases hNext

/- Choices are steps of a gathering. -/
theorem reaches_of_play
    {choices : List Course.Choice}
    (hTimely : ∀ r, Course.IsTimely r (serve r))
    (hPlay : c.play serve choices = some d) :
    Relation.ReflTransGen Steps ⟨c, guests⟩ ⟨d, guests⟩ := by
  induction choices generalizing c with
  | nil =>
      cases hPlay
      exact .refl
  | cons choice rest hInduction =>
      rcases Option.bind_eq_some_iff.mp hPlay with
        ⟨between, hNext, hRest⟩
      exact .head
        (.goesOn (Course.steps_of_next hTimely hNext)
          (memory_of_next hNext))
        (hInduction hRest)

/- A guild in which member 4 has role 301. -/
def guild : Event.GuildState where
  guildId := 100
  roleNames := IdMap.ofList [(301, "WG & Teams"), (302, "Guest")]
  memberRoles := IdMap.ofList [(4, IdSet.ofList [301])]

/-
  Member 4 asks for the tags, and the message tells that the
  member has another role now. The old one is removed while
  the command runs.
-/
def changing : List Course.Choice :=
  [.take 0 (.ready ⟨"s", .null, 999, [100]⟩),
    .take 0 (.guildAvailable guild),
    .take 0 (.messageCreate
      ⟨11, 20, some 100, ⟨4, "user", false⟩, "?tags",
        some (IdSet.ofList [302]), none⟩),
    .turn 0, .goOn, .take 1 (.roleChanged 100 301 none),
    .goOn, .goOn]

/- What the changes lead to, while a guest asks for a permission. -/
def changed : Gathering where
  course :=
    ((opening Course.usual .empty).course.play Course.granting
      changing).getD (Course.start Course.usual)
  guests :=
    [(Permission.confirm Course.usual.router.roles (some 100) 4
      .moderator).bind fun _ => .done ()]

theorem reaches_changed :
    Reaches Course.usual .empty changed := by
  have hPlay :
      (opening Course.usual .empty).course.play Course.granting
        changing = some changed.course := by
    with_unfolding_all rfl
  have hRouter :
      changed.course.dispatcher.router =
        Course.usual.router := by
    with_unfolding_all rfl
  refine (reaches_of_play Course.isTimely_granting
    hPlay).tail ?_
  exact .joins (hRouter ▸ .confirms _ _ _ _)

/- The member is known by the role that the message told. -/
theorem isCurrent_changed :
    Bot.ofSettings ⟨[]⟩ = .ok Course.usual ∧
      Reaches Course.usual .empty changed ∧
        IsCurrent .empty changed ∧
          changed.course.memory.roles.rolesOf 100 4 =
              some (IdSet.ofList [302]) ∧
            changed.course.memory.roles.namesOf 100 =
              IdMap.ofList [(302, "Guest")] := by
  refine ⟨Course.ofSettings_usual, reaches_changed,
    isCurrent_of_reaches Course.ofSettings_usual
      reaches_changed, ?_, ?_⟩
  · with_unfolding_all rfl
  · with_unfolding_all rfl

end Gathering

end Dispatcher

end GuildWarden
