import GuildWarden.Proofs.Dispatch.Deletion
import GuildWarden.Proofs.Run.Crew

/-
  This file shows that what was stopped in a run does not work
  any more: nobody when the dispatcher has been stopped with
  its jobs, nobody but the one who closes everything when the
  platform is being closed. A bot that is stopped in the
  middle of everything is an instance.

  Key definitions include:
    * `Run.Crew.IsTold`
    * `Run.Crew.IsIdle`
    * `Run.Crew.Cue`
    * `Run.Crew.play`

  Main statements:
    * `Run.Crew.permitted_of_step`
    * `Run.Crew.isTold_of_reaches`
    * `Run.Crew.nothing_runs_after_shutdown`
-/

namespace GuildWarden.Run

open Gateway

namespace Crew

variable {c d : Crew}

------------------------------------------------------------
-- What May Happen
------------------------------------------------------------

/- Who acts does so in his own name. -/
theorem isBy_of_acts
    {α : Type}
    {who : Who}
    {m n : Memory}
    {a b : Hand α}
    {x : Happening}
    {h : Option Happening}
    (hActs : a.Acts who m h n b)
    (hHappens : h = some x) :
    x.IsBy who := by
  cases hActs with
  | looks => cases hHappens
  | asks =>
      cases hHappens
      rfl
  | goesOn answer =>
      cases hHappens
      rfl

/- And he is concerned with what was left to ask for. -/
theorem concerns_of_acts
    {P : Request → Prop}
    {who : Who}
    {m n : Memory}
    {a b : Hand Unit}
    {x : Happening}
    {h : Option Happening}
    (hOnly : a.rest.Only P)
    (hActs : a.Acts who m h n b)
    (hHappens : h = some x) :
    x.Concerns P := by
  cases hActs with
  | looks => cases hHappens
  | asks =>
      cases hHappens
      exact hOnly.1
  | goesOn answer =>
      cases hHappens
      exact hOnly.1

theorem not_isWork_of_isBy
    {who : Who}
    {x : Happening}
    (hBy : x.IsBy who)
    (hIdle : ¬ who.Works) :
    ¬ x.IsWork := by
  cases x with
  | handled e => cases hBy
  | started id => cases hBy
  | asked _ r =>
      cases hBy
      exact hIdle
  | answered _ r answer =>
      cases hBy
      exact hIdle
  | stopped => exact id

/- No job is there when the pool has been drained. -/
theorem IsKept.isRunning?_eq_none
    (hKept : c.IsKept)
    (hDrained : c.stage.HasDrained)
    (id : Nat) :
    c.pool.isRunning? id = none := by
  rw [Pool.isRunning?_eq_none_iff, hKept.drained hDrained]
  nofun

/-
  When all is stopped nobody works any more, and while
  everything is closed nobody does anything else.
-/
theorem permitted_of_step
    {x : Happening}
    {h : Option Happening}
    (hKept : c.IsKept)
    (hStep : Step c h d)
    (hHappens : h = some x)
    (hDrained : c.stage.HasDrained) :
    ¬ x.IsWork ∧
      (c.stage.IsClosing →
        x.IsBy .porter ∧ x.Concerns IsFarewell) := by
  have hNoJob := hKept.isRunning?_eq_none hDrained
  have hStilled := hDrained.hasStilledDispatcher
  cases hStep with
  | turned id =>
      simp [startOf, hNoJob] at hHappens
  | @worked _ _ id _ _ _ _ _ hRunning hActs =>
      cases (hNoJob id).symm.trans hRunning
  | handled now hListening hEvents =>
      cases hListening.symm.trans (hKept.dispatcher hStilled).1
  | played hLoop hActs =>
      have hOver := hKept.loop hStilled.hasStilledLoop
      cases hLoop.symm.trans hOver
  | sent hEnvoy hActs =>
      refine
        ⟨not_isWork_of_isBy (isBy_of_acts hActs hHappens) id, ?_⟩
      intro hClosing
      have hNobody :=
        Session.errand?_of_hasEnded (hKept.session hClosing)
      cases hNobody.symm.trans (hKept.alone hEnvoy).2
  | parted hStage hActs =>
      have hBy := isBy_of_acts hActs hHappens
      exact
        ⟨not_isWork_of_isBy hBy id, fun _ =>
          ⟨hBy,
            concerns_of_acts (hKept.porter _ hStage) hActs
              hHappens⟩⟩
  | drained hStage hGone =>
      rw [hStage] at hDrained
      exact hDrained.elim
  | _ => cases hHappens

/- A farewell is neither a call nor a matter of the store. -/
theorem not_concerns_of_farewell
    {P : Request → Prop}
    {x : Happening}
    (hOther : ∀ r, IsFarewell r → ¬ P r)
    (hFarewell : x.Concerns IsFarewell) :
    ¬ x.Concerns P := by
  cases x with
  | asked who r => exact hOther r hFarewell
  | answered who r answer => exact hOther r hFarewell
  | _ => exact hFarewell.elim

theorem not_isOfPlatform_of_isFarewell
    {r : Request}
    (hFarewell : IsFarewell r) :
    ¬ IsOfPlatform r := by
  cases r <;> first | exact id | exact hFarewell.elim

theorem not_isOfStore_of_isFarewell
    {r : Request}
    (hFarewell : IsFarewell r) :
    ¬ IsOfStore r := by
  cases r <;> first | exact id | exact hFarewell.elim

------------------------------------------------------------
-- Runs
------------------------------------------------------------

theorem stage_handle
    (c : Crew)
    (now : Rat)
    (e : Event) :
    (c.handle now e).stage = c.stage := by
  unfold handle
  simp only
  split
  · unfold submit
    split <;> rfl
  · rfl

theorem stage_obey
    (c : Crew)
    (o : Order) :
    (c.obey o).stage = c.stage := by
  cases o <;> rfl

/- What has been stopped is not started again. -/
theorem stage_of_step
    {h : Option Happening}
    (hStep : Step c h d) :
    (c.stage.HasDrained → d.stage.HasDrained) ∧
      (c.stage.IsClosing → d.stage.IsClosing) := by
  cases hStep with
  | handled now =>
      rw [stage_handle]
      exact ⟨id, id⟩
  | obeyed =>
      rw [stage_obey]
      exact ⟨id, id⟩
  | closed hStage =>
      rw [hStage]
      exact ⟨fun _ => trivial, False.elim⟩
  | left => exact ⟨fun _ => trivial, fun _ => trivial⟩
  | parted => exact ⟨fun _ => trivial, fun _ => trivial⟩
  | summoned hStage | stilledLoop hStage
  | stilledDispatcher hStage | drained hStage =>
      rw [hStage]
      exact ⟨False.elim, False.elim⟩
  | _ => exact ⟨id, id⟩

/- Nobody acts in the name of somebody else. -/
theorem eq_of_isBy
    {who other : Who}
    {x : Happening}
    (hFirst : x.IsBy who)
    (hSecond : x.IsBy other) :
    who = other := by
  cases x with
  | asked => exact Eq.trans (Eq.symm hFirst) hSecond
  | answered => exact Eq.trans (Eq.symm hFirst) hSecond
  | _ => cases hFirst

/-
  The dispatcher has been stopped when that is told, and the
  porter asks for something only while he closes everything.
-/
theorem marks_of_step
    {x : Happening}
    {h : Option Happening}
    (hStep : Step c h d)
    (hHappens : h = some x) :
    (x = .stopped → d.stage.HasDrained) ∧
      (x.IsBy .porter → d.stage.IsClosing) := by
  have hOther {who : Who}
      (hBy : x.IsBy who)
      (hNot : who ≠ .porter) :
      (x = .stopped → d.stage.HasDrained) ∧
        (x.IsBy .porter → d.stage.IsClosing) := by
    refine ⟨?_, fun hPorter => (hNot (eq_of_isBy hBy hPorter)).elim⟩
    rintro rfl
    cases hBy
  cases hStep with
  | turned id =>
      unfold startOf at hHappens
      split at hHappens
      · cases hHappens
        exact ⟨nofun, False.elim⟩
      · cases hHappens
  | handled =>
      cases hHappens
      exact ⟨nofun, False.elim⟩
  | worked _ _ hActs =>
      exact hOther (isBy_of_acts hActs hHappens) nofun
  | played _ hActs =>
      exact hOther (isBy_of_acts hActs hHappens) nofun
  | sent _ hActs =>
      exact hOther (isBy_of_acts hActs hHappens) nofun
  | parted => exact ⟨fun _ => trivial, fun _ => trivial⟩
  | drained =>
      cases hHappens
      exact ⟨fun _ => trivial, False.elim⟩
  | _ => cases hHappens

/- What is known about all that has happened. -/
structure IsTold
    (log : List Happening)
    (c : Crew) : Prop where
  stopped : .stopped ∈ log → c.stage.HasDrained
  closing :
    (∃ x ∈ log, x.IsBy .porter) → c.stage.IsClosing
  permits :
    log.Pairwise fun later earlier => later.Permits earlier

/- Nobody is at work. -/
structure IsIdle
    (c : Crew) : Prop where
  jobs : c.pool.jobs = []
  bodies : c.bodies = []
  loop : c.loop = .over
  isListening : c.isListening = false

theorem IsKept.isIdle
    (hKept : c.IsKept)
    (hDrained : c.stage.HasDrained) :
    c.IsIdle := by
  have hJobs := hKept.drained hDrained
  have hManned := hKept.manned
  unfold Manned at hManned
  rw [hJobs] at hManned
  exact
    ⟨hJobs, List.map_eq_nil_iff.mp hManned,
      hKept.loop hDrained.hasStilledDispatcher.hasStilledLoop,
      (hKept.dispatcher hDrained.hasStilledDispatcher).1⟩

/- What has happened permits what happens next. -/
theorem IsTold.permits_next
    {log : List Happening}
    {x : Happening}
    {h : Option Happening}
    (hTold : IsTold log c)
    (hKept : c.IsKept)
    (hStep : Step c h d)
    (hHappens : h = some x) :
    ∀ earlier ∈ log, x.Permits earlier := by
  intro earlier hMem
  have hPorter
      (hBy : earlier.IsBy .porter) :
      x.Concerns IsFarewell := by
    have hClosing := hTold.closing ⟨earlier, hMem, hBy⟩
    exact
      ((permitted_of_step hKept hStep hHappens
        hClosing.hasDrained).2 hClosing).2
  unfold Happening.Permits
  split
  · exact
      (permitted_of_step hKept hStep hHappens
        (hTold.stopped hMem)).1
  · exact
      not_concerns_of_farewell
        (fun _ => not_isOfPlatform_of_isFarewell) (hPorter rfl)
  · exact
      not_concerns_of_farewell
        (fun _ => not_isOfStore_of_isFarewell) (hPorter rfl)
  · trivial

/- One more step is told. -/
theorem IsTold.step
    {log : List Happening}
    {h : Option Happening}
    (hTold : IsTold log c)
    (hKept : c.IsKept)
    (hStep : Step c h d) :
    IsTold (h.toList ++ log) d := by
  have hStage := stage_of_step hStep
  cases h with
  | none =>
      exact
        ⟨hStage.1 ∘ hTold.stopped, hStage.2 ∘ hTold.closing,
          hTold.permits⟩
  | some x =>
      have hMarks := marks_of_step hStep rfl
      refine ⟨?_, ?_, ?_⟩
      · intro hMem
        rcases List.mem_cons.mp hMem with hSame | hEarlier
        · exact hMarks.1 hSame.symm
        · exact hStage.1 (hTold.stopped hEarlier)
      · rintro ⟨y, hMem, hBy⟩
        rcases List.mem_cons.mp hMem with rfl | hEarlier
        · exact hMarks.2 hBy
        · exact hStage.2 (hTold.closing ⟨y, hEarlier, hBy⟩)
      · exact
          List.pairwise_cons.mpr
            ⟨hTold.permits_next hKept hStep rfl, hTold.permits⟩

/- A run keeps everybody in his place, and is told in order. -/
theorem isTold_of_reaches
    {b : Bot}
    {token : String}
    {now : Rat}
    {m : Memory}
    {log : List Happening}
    (hReaches : Reaches (start b token now m) log c) :
    c.IsKept ∧ IsTold log c := by
  induction hReaches with
  | start =>
      refine ⟨isKept_start b token now m, ?_, ?_, .nil⟩
      · intro hMem
        cases hMem
      · rintro ⟨_, hMem, _⟩
        cases hMem
  | step _ hStep hInduction =>
      rcases hInduction with ⟨hKept, hTold⟩
      exact
        ⟨isKept_of_step hKept hStep, hTold.step hKept hStep⟩

/-
  Whatever is in progress when a bot is asked to stop: when
  the dispatcher has been stopped, no event is handled and no
  job and no task is alive or starts; when the platform is
  being closed, no call is made to it; and when the store is,
  it executes nothing.
-/
theorem nothing_runs_after_shutdown
    {b : Bot}
    {token : String}
    {now : Rat}
    {m : Memory}
    {log : List Happening}
    (hReaches : Reaches (start b token now m) log c) :
    (log.Pairwise fun later earlier => later.Permits earlier) ∧
      (.stopped ∈ log → c.IsIdle) := by
  rcases isTold_of_reaches hReaches with ⟨hKept, hTold⟩
  exact
    ⟨hTold.permits, fun hMem => hKept.isIdle (hTold.stopped hMem)⟩

------------------------------------------------------------
-- A Shutdown in the Middle of Everything
------------------------------------------------------------

/- What everybody is answered. -/
abbrev Reply :=
  (r : Request) → Except Cause r.Answer

/-
  Who goes on next: a job has a turn, the first job, the loop,
  whoever was sent or the porter acts, and the first three may
  have ended; a job is withdrawn, an event handled; the session
  is told of something, and its orders are carried out; and
  the next thing is stopped.
-/
inductive Cue where
  | turn (id : Nat)
  | work (reply : Reply)
  | finish
  | withdraw (id : Nat)
  | handle (now : Rat)
  | play (reply : Reply)
  | conclude
  | send (reply : Reply)
  | comeBack (m : Moment)
  | react (x : Session.Stimulus)
  | obey
  | stop
  | part (reply : Reply)

end Crew

/- Somebody acts, and is answered as a reply says. -/
def Hand.act
    {α : Type}
    (who : Who)
    (reply : Crew.Reply)
    (m : Memory)
    (a : Hand α) : Option (Option Happening × Memory × Hand α) :=
  match a with
  | ⟨.access change next, false⟩ =>
    some (none, change m, ⟨next m, false⟩)
  | ⟨.ask r next, false⟩ =>
    some (some (.asked who r), m, ⟨.ask r next, true⟩)
  | ⟨.ask r next, true⟩ =>
    some
      (some (.answered who r (reply r)), m,
        ⟨next (reply r), false⟩)
  | _ => none

/- How somebody has ended. -/
def Hand.result?
    {α : Type}
    (a : Hand α) : Option (Except Cause α) :=
  match a.rest with
  | .done x => some (.ok x)
  | .fail cause => some (.error cause)
  | _ => none

theorem Hand.acts_of_act
    {α : Type}
    {who : Who}
    {reply : Crew.Reply}
    {m n : Memory}
    {a b : Hand α}
    {h : Option Happening}
    (hAct : a.act who reply m = some (h, n, b)) :
    a.Acts who m h n b := by
  unfold Hand.act at hAct
  split at hAct
  · cases hAct
    exact .looks
  · cases hAct
    exact .asks
  · cases hAct
    exact .goesOn (reply _)
  · cases hAct

theorem Hand.eq_settle_of_result?
    {α : Type}
    {a : Hand α}
    {result : Except Cause α}
    (hResult : a.result? = some result) :
    a.rest = .settle result := by
  unfold Hand.result? at hResult
  split at hResult
  · rename_i hRest
    cases hResult
    exact hRest
  · rename_i hRest
    cases hResult
    exact hRest
  · cases hResult

/- Whoever was made to act has acted. -/
theorem Hand.exists_acts_of_map
    {α β : Type}
    {who : Who}
    {reply : Crew.Reply}
    {m : Memory}
    {a : Hand α}
    {f : Option Happening × Memory × Hand α → β}
    {x : β}
    (hMap : (a.act who reply m).map f = some x) :
    ∃ h n b, a.Acts who m h n b ∧ f (h, n, b) = x := by
  rcases Option.map_eq_some_iff.mp hMap with
    ⟨⟨h, n, b⟩, hAct, hSame⟩
  exact ⟨h, n, b, Hand.acts_of_act hAct, hSame⟩

/- Whoever was asked for a result has ended with one. -/
theorem Hand.exists_settle_of_map
    {α β : Type}
    {a : Hand α}
    {f : Except Cause α → β}
    {x : β}
    (hMap : a.result?.map f = some x) :
    ∃ result, a.rest = .settle result ∧ f result = x := by
  rcases Option.map_eq_some_iff.mp hMap with
    ⟨result, hResult, hSame⟩
  exact ⟨result, Hand.eq_settle_of_result? hResult, hSame⟩

namespace Crew

/- The next thing is stopped, if the last one is over. -/
def stopNext
    (c : Crew) : Option (Option Happening × Crew) :=
  match c.stage, c.loop with
  | .going, _ => some (none, { c with stage := .stillingLoop })
  | .stillingLoop, .over =>
    some (none, { c with stage := .stillingDispatcher })
  | .stillingDispatcher, _ =>
    some
      (none,
        { c with
          isListening := false
          pool := c.pool.close
          stage := .draining (c.pool.jobs.map (·.id)) })
  | .draining found, _ =>
    if ∀ id ∈ found, c.pool.isLive id = false then
      some (some .stopped, { c with stage := .stopped })
    else none
  | .stopped, _ =>
    some
      (none,
        { c with session := c.session.close, stage := .leaving })
  | .leaving, _ =>
    if c.session.hasEnded = true ∧
        c.session.outbox.isEmpty = true then
      some (none, { c with stage := .closing (.fresh farewell) })
    else none
  | _, _ => none

/- What a crew makes of a cue, if it can. -/
def follow
    (c : Crew) : Cue → Option (Option Happening × Crew)
  | .turn id =>
    some (c.startOf id, { c with pool := c.pool.step id })
  | .work reply =>
    match c.bodies with
    | (id, a) :: rest =>
      if c.pool.isRunning? id = some true then
        (a.act (.job id) reply c.memory).map fun (h, m, b) =>
          (h,
            { c with memory := m, bodies := [] ++ (id, b) :: rest })
      else none
    | [] => none
  | .finish =>
    match c.bodies with
    | (id, a) :: _ =>
      if c.pool.isRunning? id = some true then
        a.result?.map fun _ =>
          (none,
            { c with
              pool := c.pool.finish id
              bodies := c.bodies.filter (·.1 != id) })
      else none
    | [] => none
  | .withdraw id =>
    match c.stage with
    | .draining found =>
      if id ∈ found ∧ c.pool.isRunning? id = some false then
        some
          (none,
            { c with
              pool := c.pool.withdraw id
              bodies := c.bodies.filter (·.1 != id) })
      else none
    | _ => none
  | .handle now =>
    match c.events with
    | e :: rest =>
      if c.isListening = true then
        some
          (some (.handled e),
            { c with events := rest }.handle now e)
      else none
    | [] => none
  | .play reply =>
    match c.loop with
    | .playing a later =>
      (a.act .loop reply c.memory).map fun (h, m, b) =>
        (h, { c with memory := m, loop := .playing b later })
    | _ => none
  | .conclude =>
    match c.loop with
    | .playing a later =>
      a.result?.map fun result =>
        (none, { c with loop := .after later result })
    | _ => none
  | .send reply =>
    match c.envoy with
    | some ⟨e, a⟩ =>
      (a.act .envoy reply c.memory).map fun (h, m, b) =>
        (h, { c with memory := m, envoy := some ⟨e, b⟩ })
    | none => none
  | .comeBack m =>
    match c.envoy with
    | some ⟨e, a⟩ =>
      a.result?.map fun result =>
        (none,
          { c with
            envoy := none
            session :=
              c.session.react (e.stimulus m result) })
    | none => none
  | .react x =>
    match x with
    | .connect => none
    | .close => none
    | .fetched _ _ => none
    | .hydrated _ _ => none
    | x => some (none, { c with session := c.session.react x })
  | .obey =>
    match c.session.outbox with
    | o :: orders =>
      some
        (none,
          { c with
            session :=
              { c.session with outbox := orders } }.obey o)
    | [] => none
  | .stop => c.stopNext
  | .part reply =>
    match c.stage with
    | .closing a =>
      (a.act .porter reply c.memory).map fun (h, m, b) =>
        (h, { c with memory := m, stage := .closing b })
    | _ => none

theorem step_of_stopNext
    {h : Option Happening}
    (hStop : c.stopNext = some (h, d)) :
    Step c h d := by
  unfold stopNext at hStop
  split at hStop
  · rename_i hStage
    cases hStop
    exact .summoned hStage
  · rename_i hStage hLoop
    cases hStop
    exact .stilledLoop hStage hLoop
  · rename_i hStage
    cases hStop
    exact .stilledDispatcher hStage
  · rename_i found _ hStage
    split at hStop
    · rename_i hGone
      cases hStop
      exact .drained hStage hGone
    · cases hStop
  · rename_i hStage
    cases hStop
    exact .closed hStage
  · rename_i hStage
    split at hStop
    · rename_i hOver
      cases hStop
      exact .left hStage hOver.1 (List.isEmpty_iff.mp hOver.2)
    · cases hStop
  · cases hStop

/- What is done on a cue is a step. -/
theorem step_of_follow
    {cue : Cue}
    {h : Option Happening}
    (hFollow : c.follow cue = some (h, d)) :
    Step c h d := by
  cases cue <;> simp only [follow] at hFollow
  case turn id =>
      cases hFollow
      exact .turned c id
  case work reply =>
      split at hFollow
      · rename_i id a rest hBodies
        split at hFollow
        · rename_i hRunning
          rcases Hand.exists_acts_of_map hFollow with
            ⟨_, _, _, hActs, hSame⟩
          cases hSame
          exact .worked hBodies hRunning hActs
        · cases hFollow
      · cases hFollow
  case finish =>
      split at hFollow
      · rename_i id a rest hBodies
        split at hFollow
        · rename_i hRunning
          rcases Hand.exists_settle_of_map hFollow with
            ⟨_, hEnded, hSame⟩
          cases hSame
          refine .finished ?_ hRunning hEnded
          simp [hBodies]
        · cases hFollow
      · cases hFollow
  case withdraw id =>
      split at hFollow
      · rename_i found hStage
        split at hFollow
        · rename_i hFound
          cases hFollow
          exact .withdrawn hStage hFound.1 hFound.2
        · cases hFollow
      · cases hFollow
  case handle now =>
      split at hFollow
      · rename_i e rest hEvents
        split at hFollow
        · rename_i hListening
          cases hFollow
          exact .handled now hListening hEvents
        · cases hFollow
      · cases hFollow
  case play reply =>
      split at hFollow
      · rename_i a later hLoop
        rcases Hand.exists_acts_of_map hFollow with
          ⟨_, _, _, hActs, hSame⟩
        cases hSame
        exact .played hLoop hActs
      · cases hFollow
  case conclude =>
      split at hFollow
      · rename_i a later hLoop
        rcases Hand.exists_settle_of_map hFollow with
          ⟨_, hEnded, hSame⟩
        cases hSame
        exact .concluded hLoop hEnded
      · cases hFollow
  case send reply =>
      split at hFollow
      · rename_i e a hEnvoy
        rcases Hand.exists_acts_of_map hFollow with
          ⟨_, _, _, hActs, hSame⟩
        cases hSame
        exact .sent hEnvoy hActs
      · cases hFollow
  case comeBack m =>
      split at hFollow
      · rename_i e a hEnvoy
        rcases Hand.exists_settle_of_map hFollow with
          ⟨_, hEnded, hSame⟩
        cases hSame
        exact .returned m hEnvoy hEnded
      · cases hFollow
  case react x =>
      cases x with
      | connect => cases hFollow
      | close => cases hFollow
      | fetched => cases hFollow
      | hydrated => cases hFollow
      | _ =>
          cases hFollow
          exact .reacted _ trivial
  case obey =>
      split at hFollow
      · rename_i hOutbox
        cases hFollow
        exact .obeyed hOutbox
      · cases hFollow
  case stop => exact step_of_stopNext hFollow
  case part reply =>
      split at hFollow
      · rename_i a hStage
        rcases Hand.exists_acts_of_map hFollow with
          ⟨_, _, _, hActs, hSame⟩
        cases hSame
        exact .parted hStage hActs
      · cases hFollow

/- What comes of cues, together with what had happened before. -/
def play
    (c : Crew)
    (log : List Happening) :
    List Cue → Option (List Happening × Crew)
  | [] => some (log, c)
  | cue :: cues =>
    (c.follow cue).bind fun (h, d) =>
      d.play (h.toList ++ log) cues

theorem reaches_of_play
    {first : Crew}
    {log told : List Happening}
    {cues : List Cue}
    (hReaches : Reaches first log c)
    (hPlay : c.play log cues = some (told, d)) :
    Reaches first told d := by
  induction cues generalizing c log with
  | nil =>
      cases hPlay
      exact hReaches
  | cons cue cues hInduction =>
      rcases Option.bind_eq_some_iff.mp hPlay with
        ⟨⟨h, between⟩, hFollow, hRest⟩
      exact hInduction
        (.step hReaches (step_of_follow hFollow)) hRest

/- A store that knows bindings and bans. -/
def furnished : Store.Connection :=
  .ofTables
    { Store.Tables.blank with created := [.bindings, .bans] }

/- The gateway has an address, and everything is granted. -/
def granting : Reply
  | .platform _ =>
    .ok (.map [("url", .text "wss://gateway")])
  | .statement s => (furnished.run s).1
  | r => Dispatcher.Course.granting r

def cancelling : Reply :=
  fun _ => .error .cancelled

/- A frame comes. -/
def frame
    (now : Rat)
    (x : Payload) : Cue :=
  .react (.received (Session.momentAt now) (.frame x))

/- A dispatch that tells that a ban is gone. -/
def banFrame
    (userId : Int) : Payload :=
  .map
    [
      ("op", .int Opcode.dispatch.number),
      ("t", .text "GUILD_BAN_REMOVE"),
      ("d",
        .map
          [
            ("guild_id", .int 100),
            ("user", .map [("id", .int userId)])
          ])
    ]

/- The gateway does not know the session any more. -/
def refusal : Payload :=
  .map
    [
      ("op", .int Opcode.invalidSession.number),
      ("d", .bool false)
    ]

/- The address is fetched. -/
def seeking : List Cue :=
  [.obey, .obey, .send granting, .send granting,
    .comeBack (Session.momentAt 0), .obey]

/- A socket is opened, and a session starts. -/
def greeting
    (now : Rat) : List Cue :=
  [.react (.opened (Session.momentAt now) (.ok ())),
    frame now Session.helloFrame, .obey,
    frame now Session.readyFrame, .obey, .obey, .obey]

/- The bindings are loaded. -/
def hydrating : List Cue :=
  List.replicate 5 (.send granting) ++
    [.comeBack (Session.momentAt 0), .obey]

/-
  Two bans are gone. One job waits for the store and the other
  one for its turn, and so does a task of the loop.
-/
def working : List Cue :=
  [frame 1 (banFrame 4), frame 1 (banFrame 5), .obey, .obey,
    .handle 1, .handle 1, .handle 1, .turn 0, .work granting,
    .play granting]

/- The session is refused, and begins anew. -/
def returning : List Cue :=
  [frame 2 refusal, .obey, .obey,
    .react (.passed (Session.momentAt 4)), .obey, .obey] ++
    greeting 4 ++ [.send granting]

/- The loop is stopped, and the dispatcher with its jobs. -/
def stilling : List Cue :=
  [.stop, .play cancelling, .conclude, .stop, .stop,
    .work cancelling, .finish, .withdraw 1, .stop]

/- The session is closed, but still loads the bindings. -/
def leaving : List Cue :=
  [.stop, .obey, .send granting, .send granting,
    .send granting, .send granting,
    .comeBack (Session.momentAt 5), .obey, .obey]

/- Everything is closed. -/
def parting : List Cue :=
  .stop :: List.replicate 6 (.part granting)

/- A bot with the usual settings has just been started. -/
def crew : Crew :=
  start Dispatcher.Course.usual "token" 0 .empty

def script : List Cue :=
  seeking ++ greeting 0 ++ hydrating ++ working ++ returning ++
    stilling ++ leaving ++ parting

/- The bot is stopped while everybody is at work. -/
def stopped : List Happening × Crew :=
  (crew.play [] script).getD ([], crew)

set_option maxRecDepth 4000 in
theorem reaches_stopped :
    Reaches crew stopped.1 stopped.2 := by
  have hPlay : crew.play [] script = some stopped := by
    with_unfolding_all rfl
  exact reaches_of_play .start hPlay

set_option maxRecDepth 4000 in
/- All were at work, and nobody is when everything is closed. -/
theorem stopped_in_the_middle :
    Reaches crew stopped.1 stopped.2 ∧
      (.asked (.job 0) .reachStore ∈ stopped.1 ∧
        .asked .loop .reachStore ∈ stopped.1 ∧
          .stopped ∈ stopped.1 ∧
            .asked .porter .closePlatform ∈ stopped.1 ∧
              .asked .porter .closeStore ∈ stopped.1) ∧
        (stopped.1.Pairwise fun later earlier =>
          later.Permits earlier) ∧
          stopped.2.IsIdle := by
  have hStopped : .stopped ∈ stopped.1 := by
    apply List.mem_of_getElem? (i := 7)
    with_unfolding_all exact rfl
  rcases nothing_runs_after_shutdown reaches_stopped with
    ⟨hPermits, hIdle⟩
  refine
    ⟨reaches_stopped, ⟨?job, ?loop, hStopped, ?platform, ?store⟩,
      hPermits, hIdle hStopped⟩
  case job =>
    apply List.mem_of_getElem? (i := 12)
    with_unfolding_all exact rfl
  case loop =>
    apply List.mem_of_getElem? (i := 11)
    with_unfolding_all exact rfl
  case platform =>
    apply List.mem_of_getElem? (i := 3)
    with_unfolding_all exact rfl
  case store =>
    apply List.mem_of_getElem? (i := 1)
    with_unfolding_all exact rfl

end Crew

end GuildWarden.Run
