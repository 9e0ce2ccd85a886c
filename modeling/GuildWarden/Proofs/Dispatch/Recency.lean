import GuildWarden.Proofs.Dispatch.Roles

/-
  This file says by which roles the caller of a command is
  judged. They are the latest ones, unless the message carried
  roles and another word on them came while its job waited.

  Key definitions include:
    * `Command.Message.held`
    * `Dispatcher.Judges`

  Main statements:
    * `Dispatcher.judges_routing`
    * `Dispatcher.Gathering.held_eq_latestRoles_iff`
-/

namespace GuildWarden

open Program

/-
  The roles by which the author of a message is judged: those
  that the message carried, or else those in the role cache.
-/
def Command.Message.held
    (call : Command.Message)
    (guildId : Int)
    (m : Memory) : Option IdSet :=
  call.memberRoles.orElse fun _ =>
    m.roles.rolesOf guildId call.author.id

namespace Dispatcher

variable {r : Router}
variable {d : Dispatcher}
variable {now : Rat}
variable {own : Option Int}
variable {e : Event}
variable {x x' : Delivery}
variable {call call' : Command.Message}
variable {c : Command}
variable {tail : String}
variable {guildId : Int}

------------------------------------------------------------
-- The Check of a Command
------------------------------------------------------------

/-
  A program looks at the memory at once, and judges by the
  roles that it finds there whether somebody has a tier.
-/
def Judges
    (s : RoleSettings)
    (guildId : Int)
    (tier : Tier)
    (held : Memory → Option IdSet)
    (p : Program Unit) : Prop :=
  ∃ rest : Bool → Program Unit,
    p = .access id fun m =>
      (Permission.hasTier s (some guildId) tier
        (m.roles.namesOf guildId) (held m)).bind rest

/- A message in a guild is routed to a command after a check. -/
theorem judges_routing
    (hGuild : call.guildId = some guildId)
    (hSelect : r.select call.text = some (c, tail)) :
    Judges r.roles guildId c.info.tier (call.held guildId)
      (routing r call) := by
  refine ⟨fun holds =>
    (if holds then r.run c (r.contextOf call) tail
      else
        (Router.safeReply (r.contextOf call)
          Router.deniedReply).bind fun _ =>
            .done .denied).bind fun outcome =>
              note (.routed outcome call.messageId), ?_⟩
  unfold routing Router.route
  rw [hSelect, hGuild]
  simp only [bind_eq, Permission.holds, Program.bind,
    Program.memory, bind_assoc]
  rfl

------------------------------------------------------------
-- The Word of a Message
------------------------------------------------------------

/- An event asks for one run of one command. -/
theorem Asks.unique
    (hAsks : Asks d now own e x call)
    (hOther : Asks d now own e x' call') :
    call = call' := by
  cases hAsks with
  | message e _ _ =>
      cases hOther
      rfl
  | edit e text author editedAt hText hAuthor _ _ _ _ =>
      cases hOther with
      | edit _ text' author' editedAt' hText' hAuthor' _ _ _ _ =>
          rw [hText] at hText'
          rw [hAuthor] at hAuthor'
          cases hText'
          cases hAuthor'
          rfl

/- The roles that a message carried were told by its event. -/
theorem Asks.tells_eq
    {roles : IdSet}
    (hAsks : Asks d now own e x call)
    (hGuild : call.guildId = some guildId)
    (hRoles : call.memberRoles = some roles) :
    e.tells own guildId call.author.id = some (some roles) := by
  cases hAsks with
  | message e hUser _ =>
      simp only at hGuild hRoles
      simp [Event.tells, Event.carried, hUser, hGuild, hRoles]
  | edit e text author editedAt hText hAuthor hEdited hUser _
      _ =>
      simp only at hGuild hRoles
      have hEditor : e.editor? = some author := by
        simp [Event.Edit.editor?, hText, hEdited, hAuthor]
      simp [Event.tells, Event.carried, hEditor, hUser, hGuild,
        hRoles]

/- The job of an event routes the message that it asks for. -/
theorem Asks.program_eq
    {m : Memory}
    {job : Job}
    (hAsks : Asks d now m.botUserId e x call)
    (hJob : (d.take now m e).job = some job) :
    job.program = routing d.router call := by
  have hMessage : (delivery? e).isSome = true := by
    rw [hAsks.delivery?_eq]
    rfl
  rcases (job_eq_some_iff hMessage).mp hJob with
    ⟨_, _, hOther, _, rfl⟩
  rw [hAsks.unique hOther]

------------------------------------------------------------
-- Outdated Roles
------------------------------------------------------------

namespace Gathering

variable {g h : Gathering}
variable {first : Memory}

/- Events are only added. -/
theorem exists_since
    (hInvariant : Invariant first g)
    (hLater : Relation.ReflTransGen Steps g h) :
    Invariant first h ∧
      ∃ since, h.course.events = since ++ g.course.events := by
  induction hLater with
  | refl => exact ⟨hInvariant, [], rfl⟩
  | tail _ hStep hEarlier =>
      rcases hEarlier with ⟨hBetween, since, hSince⟩
      refine ⟨hBetween.step hStep, ?_⟩
      rcases (hBetween.toIsOrderly.step hStep).2 with
        ⟨now, e, hTake⟩ | ⟨_, hSame⟩
      · refine ⟨e :: since, ?_⟩
        rw [hTake, (frame_take _ now e).2.2.1, hSince]
        rfl
      · exact ⟨since, hSame.trans hSince⟩

/-
  Whenever the job of a command checks its caller, it goes by
  the latest roles exactly if the message carried none, or if
  no other word on them was taken since.
-/
theorem held_eq_latestRoles_iff
    {s : Settings}
    {b : Bot}
    {job : Job}
    (hBot : Bot.ofSettings s = .ok b)
    (hReaches : Reaches b first g)
    (hAsks :
      Asks g.course.dispatcher now g.course.memory.botUserId e
        x call)
    (hJob :
      (g.course.dispatcher.take now g.course.memory e).job =
        some job)
    (hLater :
      Relation.ReflTransGen Steps
        ⟨g.course.take now e, g.guests⟩ h)
    (hGuild : call.guildId = some guildId)
    (hSelect :
      g.course.dispatcher.router.select call.text =
        some (c, tail)) :
    Judges g.course.dispatcher.router.roles guildId
        c.info.tier (call.held guildId) job.program ∧
      ∃ since,
        h.course.events = since ++ e :: g.course.events ∧
          (call.held guildId h.course.memory =
              Event.latestRoles guildId call.author.id first
                h.course.events ↔
            call.memberRoles = none ∨
              ∀ word,
                Event.latestWord?
                    (g.course.take now e).memory.botUserId
                    guildId call.author.id since =
                  some word →
                word = call.memberRoles) := by
  have hBefore := invariant_of_reaches hBot hReaches
  have hTaken := hBefore.step (steps_take g now e)
  have hEvents :
      (g.course.take now e).events = e :: g.course.events :=
    (frame_take g.course now e).2.2.1
  rcases exists_since hTaken hLater with
    ⟨hInvariant, since, hSince⟩
  simp only [hEvents] at hSince
  refine ⟨?_, since, hSince, ?_⟩
  · rw [hAsks.program_eq hJob]
    exact judges_routing hGuild hSelect
  · have hOwn := hTaken.own
    simp only [hEvents] at hOwn
    rw [Command.Message.held, hInvariant.roles]
    cases hRoles : call.memberRoles with
    | none => simp
    | some roles =>
        have hTells := hAsks.tells_eq hGuild hRoles
        rw [hBefore.own] at hTells
        have hLatest :
            Event.latestRoles guildId call.author.id first
                h.course.events =
              (Event.latestWord?
                (g.course.take now e).memory.botUserId guildId
                call.author.id since).getD (some roles) := by
          rw [Event.latestRoles, hSince,
            Event.latestWord?_append, ← hOwn,
            Event.latestWord?, hTells]
          cases Event.latestWord?
            (g.course.take now e).memory.botUserId guildId
            call.author.id since <;> rfl
        rw [hLatest]
        cases Event.latestWord?
          (g.course.take now e).memory.botUserId guildId
          call.author.id since with
        | none => simp
        | some word => simp [eq_comm]

/- Member 4, who has role 301, creates a tag. -/
def creating : Event.Message :=
  ⟨11, 20, some 100, ⟨4, "user", false⟩, "?tags create k v",
    some (IdSet.ofList [301]), none⟩

/- The message that is routed then. -/
def creation : Command.Message :=
  ⟨creating.content, creating.author, creating.guildId,
    creating.channelId, some creating.messageId,
    creating.memberRoles⟩

/- The command that it calls, with its tail. -/
def called : Command × String :=
  (Course.usual.router.select creation.text).get
    (by with_unfolding_all rfl)

/- The member has the role when the message is taken. -/
def entitled : Gathering where
  course :=
    ((opening Course.usual .empty).course.play Course.granting
      [.take 0 (.ready ⟨"s", .null, 999, [100]⟩),
        .take 0 (.guildAvailable guild)]).getD
          (Course.start Course.usual)
  guests := []

/- The role is taken away before the job has its first turn. -/
def demoted : Gathering where
  course :=
    ((entitled.course.take 0 (.messageCreate creating)).play
      Course.granting
      [.take 1 (.memberRolesChanged 100 4 (some IdMap.empty)),
        .turn 0]).getD (Course.start Course.usual)
  guests := []

theorem reaches_entitled :
    Reaches Course.usual .empty entitled := by
  have hPlay :
      (opening Course.usual .empty).course.play Course.granting
        [.take 0 (.ready ⟨"s", .null, 999, [100]⟩),
          .take 0 (.guildAvailable guild)] =
        some entitled.course := by
    with_unfolding_all rfl
  exact reaches_of_play Course.isTimely_granting hPlay

theorem later_demoted :
    Relation.ReflTransGen Steps
      ⟨entitled.course.take 0 (.messageCreate creating),
        entitled.guests⟩ demoted := by
  have hPlay :
      (entitled.course.take 0 (.messageCreate creating)).play
        Course.granting
        [.take 1 (.memberRolesChanged 100 4 (some IdMap.empty)),
          .turn 0] =
        some demoted.course := by
    with_unfolding_all rfl
  exact reaches_of_play Course.isTimely_granting hPlay

theorem asks_entitled :
    Asks entitled.course.dispatcher 0
      entitled.course.memory.botUserId (.messageCreate creating)
      ⟨11, none⟩ creation := by
  refine .message creating ?_ ?_
  · with_unfolding_all rfl
  · with_unfolding_all rfl

/- The job of the command. -/
def creator : Job :=
  ⟨some (.message 11), routing Course.usual.router creation⟩

theorem job_entitled :
    (entitled.course.dispatcher.take 0 entitled.course.memory
      (.messageCreate creating)).job = some creator := by
  with_unfolding_all rfl

theorem select_entitled :
    entitled.course.dispatcher.router.select creation.text =
      some (called.1, called.2) := by
  with_unfolding_all rfl

/-
  The job runs and is about to check its caller. It finds the
  role that was taken away, and grants what it should deny.
-/
theorem demoted_is_granted :
    Reaches Course.usual .empty entitled ∧
      demoted.course.tasks.map (fun t => (t.id, t.key)) =
        [(0, creator.key)] ∧
      demoted.course.pool.isRunning? 0 = some true ∧
      creation.held 100 demoted.course.memory =
        some (IdSet.ofList [301]) ∧
      Event.latestRoles 100 4 .empty demoted.course.events =
        some IdMap.empty ∧
      called.1.info.tier.judge Course.usual.router.roles true
          (demoted.course.memory.roles.namesOf 100)
          (creation.held 100 demoted.course.memory) =
        .granted ∧
      called.1.info.tier.judge Course.usual.router.roles true
          (demoted.course.memory.roles.namesOf 100)
          (Event.latestRoles 100 4 .empty
            demoted.course.events) =
        .denied ∧
      Judges entitled.course.dispatcher.router.roles 100
        called.1.info.tier (creation.held 100)
        creator.program ∧
      ∃ since,
        demoted.course.events =
            since ++ .messageCreate creating ::
              entitled.course.events ∧
          (creation.held 100 demoted.course.memory =
              Event.latestRoles 100 4 .empty
                demoted.course.events ↔
            creation.memberRoles = none ∨
              ∀ word,
                Event.latestWord?
                    (entitled.course.take 0
                      (.messageCreate
                        creating)).memory.botUserId
                    100 4 since =
                  some word →
                word = creation.memberRoles) := by
  refine ⟨reaches_entitled, ?_, ?_, ?_, ?_, ?_, ?_,
    held_eq_latestRoles_iff Course.ofSettings_usual
      reaches_entitled asks_entitled job_entitled later_demoted
      rfl select_entitled⟩
  · with_unfolding_all rfl
  · with_unfolding_all rfl
  · with_unfolding_all rfl
  · with_unfolding_all rfl
  · with_unfolding_all rfl
  · with_unfolding_all rfl

end Gathering

end Dispatcher

end GuildWarden
