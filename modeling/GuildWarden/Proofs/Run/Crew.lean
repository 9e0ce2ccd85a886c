import GuildWarden.Proofs.Dispatch.Turns
import GuildWarden.Proofs.Effect.Runs
import GuildWarden.Proofs.Gateway.Errands
import GuildWarden.Run.Boot

/-
  This file defines a run of the bot from the moment at which
  everything has been started until everything is closed. The
  loop of periodic tasks, the dispatcher, the jobs of the pool
  and the session with whoever it has sent go on side by side;
  when the bot is asked to stop they are stopped one after
  another, whatever they are in the middle of. Each of them
  keeps its place meanwhile.

  Key definitions include:
    * `Run.Hand`
    * `Run.Happening`
    * `Run.Stage`
    * `Run.Crew`
    * `Run.Crew.Step`
    * `Run.Crew.Reaches`
    * `Run.Crew.IsKept`

  Main statements:
    * `Run.Crew.isKept_of_step`
    * `Run.Crew.isKept_start`
-/

------------------------------------------------------------
-- Errands
------------------------------------------------------------

namespace GuildWarden.Gateway.Errand

/- What comes of an errand. -/
def Result : Errand → Type
  | .address => String
  | .preparation => Unit

/- What is done on an errand. -/
def program : (e : Errand) → Program e.Result
  | .address => Platform.gatewayAddress
  | .preparation => Bot.hydrate

/- What the session is told when somebody comes back. -/
def stimulus
    (m : Moment) :
    (e : Errand) → Except Cause e.Result → Session.Stimulus
  | .address, result => .fetched m result
  | .preparation, result => .hydrated m result

theorem errand?_stimulus
    (m : Moment)
    (e : Errand)
    (result : Except Cause e.Result) :
    (e.stimulus m result).errand? = some e := by
  cases e <;> rfl

end GuildWarden.Gateway.Errand

namespace GuildWarden.Run

open Program Gateway

/- What is asked for to close everything. -/
def IsFarewell : Request → Prop
  | .closeService _ => True
  | .closePlatform => True
  | .closeStore => True
  | _ => False

/- What the platform is asked for. -/
def IsOfPlatform : Request → Prop
  | .platform _ => True
  | .login _ => True
  | _ => False

/- What the store is asked for. -/
def IsOfStore : Request → Prop
  | .reachStore => True
  | .lockStore => True
  | .unlockStore => True
  | .statement _ => True
  | .commit => True
  | .rollback => True
  | _ => False

theorem only_leaveService
    (service : Web.Service) :
    (leaveService service).Only IsFarewell := by
  refine Only.handling ?_ fun _ => trivial
  intro m
  simp only [Program.bind]
  split
  · exact Only.bind (Only.request trivial) fun _ _ => trivial
  · trivial

/- In the end nothing else is asked for. -/
theorem only_farewell :
    farewell.Only IsFarewell :=
  (only_leaveService .registry).bind fun _ =>
    (only_leaveService .playground).bind fun _ =>
      (Only.request trivial).bind fun _ => Only.request trivial

------------------------------------------------------------
-- Hands
------------------------------------------------------------

/-
  Who is at work in a run: a job of the pool, the loop of the
  periodic tasks, whoever the session has sent, and the one
  who stops everything.
-/
inductive Who where
  | job (id : Nat)
  | loop
  | envoy
  | porter
deriving DecidableEq

/-
  What happens in a run: an event is handled, a job starts to
  run, somebody asks for something and is answered, or the
  dispatcher has been stopped with all its jobs.
-/
inductive Happening where
  | handled (e : Event)
  | started (id : Nat)
  | asked (who : Who) (r : Request)
  | answered
      (who : Who)
      (r : Request)
      (answer : Except Cause r.Answer)
  | stopped

namespace Who

/- Whether somebody does the work of the bot. -/
def Works : Who → Prop
  | .job _ => True
  | .loop => True
  | _ => False

end Who

namespace Happening

/- The work of the dispatcher, the jobs and the loop. -/
def IsWork : Happening → Prop
  | .handled _ => True
  | .started _ => True
  | .asked who _ => who.Works
  | .answered who _ _ => who.Works
  | .stopped => False

/- Somebody asks for something, or is answered. -/
def IsBy
    (who : Who) : Happening → Prop
  | .asked other _ => other = who
  | .answered other _ _ => other = who
  | _ => False

/- A request of a kind is made, or answered. -/
def Concerns
    (P : Request → Prop) : Happening → Prop
  | .asked _ r => P r
  | .answered _ r _ => P r
  | _ => False

/-
  What may still happen after something: no work when the
  dispatcher has been stopped, no call when the platform is
  being closed, and nothing in the store when that is.
-/
def Permits
    (later : Happening) : Happening → Prop
  | .stopped => ¬ later.IsWork
  | .asked .porter .closePlatform => ¬ later.Concerns IsOfPlatform
  | .asked .porter .closeStore => ¬ later.Concerns IsOfStore
  | _ => True

end Happening

/- Somebody at work: the rest of a program, and whether it waits. -/
structure Hand (α : Type) where
  rest : Program α
  waits : Bool

namespace Hand

variable {α : Type}

/- Somebody who has not begun. -/
def fresh
    (p : Program α) : Hand α where
  rest := p
  waits := false

/-
  Somebody looks at the memory, or asks for something, or goes
  on with the answer. To be cancelled is an answer like any
  other.
-/
inductive Acts
    (who : Who) :
    Memory → Hand α → Option Happening → Memory → Hand α →
      Prop where
  | looks
      {m : Memory}
      {change : Memory → Memory}
      {next : Memory → Program α} :
      Acts who m ⟨.access change next, false⟩ none
        (change m) ⟨next m, false⟩
  | asks
      {m : Memory}
      {r : Request}
      {next : Except Cause r.Answer → Program α} :
      Acts who m ⟨.ask r next, false⟩ (some (.asked who r))
        m ⟨.ask r next, true⟩
  | goesOn
      {m : Memory}
      {r : Request}
      {next : Except Cause r.Answer → Program α}
      (answer : Except Cause r.Answer) :
      Acts who m ⟨.ask r next, true⟩
        (some (.answered who r answer)) m ⟨next answer, false⟩

end Hand

/- The loop of the periodic tasks. -/
inductive Loop where
  | playing (a : Hand Unit) (later : List (Program Unit))
  | resting
  | over

namespace Loop

/- Do some tasks one after another, and then rest. -/
def ofTasks : List (Program Unit) → Loop
  | p :: ps => .playing (.fresh p) ps
  | [] => .resting

/- A task has ended; only a cancelled one ends the loop. -/
def after
    (later : List (Program Unit)) :
    Except Cause Unit → Loop
  | .error .cancelled => .over
  | _ => .ofTasks later

end Loop

/- Somebody whom the session has sent. -/
structure Envoy where
  errand : Errand
  hand : Hand errand.Result

/- Send somebody on an errand. -/
def Envoy.ofErrand
    (e : Errand) : Envoy where
  errand := e
  hand := .fresh e.program

------------------------------------------------------------
-- Crews
------------------------------------------------------------

/-
  How far a run has come: it goes on; the loop is cancelled,
  then the dispatcher; the pool waits for the jobs it found,
  and cancels them when it has waited long enough; all that is
  stopped; the session is closed and has to end; and what was
  opened is closed.
-/
inductive Stage where
  | going
  | stillingLoop
  | stillingDispatcher
  | draining (found : List Nat)
  | stopped
  | leaving
  | closing (porter : Hand Unit)

namespace Stage

/- The loop has ended. -/
def HasStilledLoop : Stage → Prop
  | .going => False
  | .stillingLoop => False
  | _ => True

/- The dispatcher takes no more events. -/
def HasStilledDispatcher : Stage → Prop
  | .going => False
  | .stillingLoop => False
  | .stillingDispatcher => False
  | _ => True

/- The pool has been drained. -/
def HasDrained : Stage → Prop
  | .stopped => True
  | .leaving => True
  | .closing _ => True
  | _ => False

/- Everything is being closed. -/
def IsClosing : Stage → Prop
  | .closing _ => True
  | _ => False

variable {x : Stage}

theorem HasDrained.hasStilledDispatcher
    (hDrained : x.HasDrained) :
    x.HasStilledDispatcher := by
  cases x <;> trivial

theorem IsClosing.hasDrained
    (hClosing : x.IsClosing) :
    x.HasDrained := by
  cases x <;> trivial

theorem HasStilledDispatcher.hasStilledLoop
    (hStilled : x.HasStilledDispatcher) :
    x.HasStilledLoop := by
  cases x <;> trivial

end Stage

/-
  All who are at work in a run, and what they share. The jobs
  of the pool are there with what is left of their programs.
-/
structure Crew where
  dispatcher : Dispatcher
  memory : Memory
  pool : Pool Dispatcher.Key
  bodies : List (Nat × Hand Unit)
  loop : Loop
  session : Session
  events : List Event
  envoy : Option Envoy
  isListening : Bool
  stage : Stage

namespace Crew

/- Everything has just been started. -/
def start
    (b : Bot)
    (token : String)
    (now : Rat)
    (m : Memory) : Crew where
  dispatcher := b.dispatcher
  memory := m
  pool := .ofSlots b.workers
  bodies := []
  loop := .ofTasks Bot.tasks
  session := (b.session token now).connect
  events := []
  envoy := none
  isListening := true
  stage := .going

/- Submit a job; a pool that is closed does not take it. -/
def submit
    (c : Crew)
    (job : Dispatcher.Job) : Crew :=
  match c.pool.submit job.key with
  | (some id, pool) =>
    { c with
      pool
      bodies := c.bodies ++ [(id, .fresh job.program)] }
  | (none, pool) => { c with pool }

/- Handle an event. -/
def handle
    (c : Crew)
    (now : Rat)
    (e : Event) : Crew :=
  let t := c.dispatcher.take now c.memory e
  let c :=
    { c with dispatcher := t.dispatcher, memory := t.memory }
  match t.job with
  | some job => c.submit job
  | none => c

/- Do what the session orders. -/
def obey
    (c : Crew) : Order → Crew
  | .queue e => { c with events := c.events ++ [e] }
  | .fetch => { c with envoy := some (.ofErrand .address) }
  | .hydrate _ =>
    { c with envoy := some (.ofErrand .preparation) }
  | _ => c

/- Whether a job starts to run when it has a turn. -/
def startOf
    (c : Crew)
    (id : Nat) : Option Happening :=
  if c.pool.isRunning? id = some false ∧
      (c.pool.step id).isRunning? id = some true then
    some (.started id)
  else none

/- What comes to a session over its socket, or with time. -/
def IsOutside : Session.Stimulus → Prop
  | .opened _ _ => True
  | .received _ _ => True
  | .passed _ => True
  | .lost => True
  | _ => False

/-
  One step of whoever is at work. A job that runs does what
  its program says; one that does not is withdrawn when it is
  cancelled. What stops everything waits each time until what
  it has stopped is over.
-/
inductive Step :
    Crew → Option Happening → Crew → Prop where
  | turned
      (c : Crew)
      (id : Nat) :
      Step c (c.startOf id) { c with pool := c.pool.step id }
  | worked
      {c : Crew}
      {before after : List (Nat × Hand Unit)}
      {id : Nat}
      {a b : Hand Unit}
      {m : Memory}
      {h : Option Happening}
      (hBodies : c.bodies = before ++ (id, a) :: after)
      (hRunning : c.pool.isRunning? id = some true)
      (hActs : a.Acts (.job id) c.memory h m b) :
      Step c h
        { c with
          memory := m
          bodies := before ++ (id, b) :: after }
  | finished
      {c : Crew}
      {id : Nat}
      {a : Hand Unit}
      {result : Except Cause Unit}
      (hBody : (id, a) ∈ c.bodies)
      (hRunning : c.pool.isRunning? id = some true)
      (hEnded : a.rest = .settle result) :
      Step c none
        { c with
          pool := c.pool.finish id
          bodies := c.bodies.filter (·.1 != id) }
  | withdrawn
      {c : Crew}
      {found : List Nat}
      {id : Nat}
      (hStage : c.stage = .draining found)
      (hFound : id ∈ found)
      (hWaits : c.pool.isRunning? id = some false) :
      Step c none
        { c with
          pool := c.pool.withdraw id
          bodies := c.bodies.filter (·.1 != id) }
  | handled
      {c : Crew}
      {e : Event}
      {rest : List Event}
      (now : Rat)
      (hListening : c.isListening = true)
      (hEvents : c.events = e :: rest) :
      Step c (some (.handled e))
        ({ c with events := rest }.handle now e)
  | played
      {c : Crew}
      {a b : Hand Unit}
      {later : List (Program Unit)}
      {m : Memory}
      {h : Option Happening}
      (hLoop : c.loop = .playing a later)
      (hActs : a.Acts .loop c.memory h m b) :
      Step c h { c with memory := m, loop := .playing b later }
  | concluded
      {c : Crew}
      {a : Hand Unit}
      {later : List (Program Unit)}
      {result : Except Cause Unit}
      (hLoop : c.loop = .playing a later)
      (hEnded : a.rest = .settle result) :
      Step c none { c with loop := .after later result }
  | woke
      {c : Crew}
      (hLoop : c.loop = .resting) :
      Step c none { c with loop := .ofTasks Bot.tasks }
  | unrested
      {c : Crew}
      (hStage : c.stage = .stillingLoop)
      (hLoop : c.loop = .resting) :
      Step c none { c with loop := .over }
  | reacted
      {c : Crew}
      (x : Session.Stimulus)
      (hOutside : IsOutside x) :
      Step c none { c with session := c.session.react x }
  | obeyed
      {c : Crew}
      {o : Order}
      {orders : List Order}
      (hOutbox : c.session.outbox = o :: orders) :
      Step c none
        ({ c with
          session :=
            { c.session with outbox := orders } }.obey o)
  | sent
      {c : Crew}
      {e : Errand}
      {a b : Hand e.Result}
      {m : Memory}
      {h : Option Happening}
      (hEnvoy : c.envoy = some ⟨e, a⟩)
      (hActs : a.Acts .envoy c.memory h m b) :
      Step c h { c with memory := m, envoy := some ⟨e, b⟩ }
  | returned
      {c : Crew}
      {e : Errand}
      {a : Hand e.Result}
      {result : Except Cause e.Result}
      (m : Moment)
      (hEnvoy : c.envoy = some ⟨e, a⟩)
      (hEnded : a.rest = .settle result) :
      Step c none
        { c with
          envoy := none
          session := c.session.react (e.stimulus m result) }
  | summoned
      {c : Crew}
      (hStage : c.stage = .going) :
      Step c none { c with stage := .stillingLoop }
  | stilledLoop
      {c : Crew}
      (hStage : c.stage = .stillingLoop)
      (hLoop : c.loop = .over) :
      Step c none { c with stage := .stillingDispatcher }
  | stilledDispatcher
      {c : Crew}
      (hStage : c.stage = .stillingDispatcher) :
      Step c none
        { c with
          isListening := false
          pool := c.pool.close
          stage := .draining (c.pool.jobs.map (·.id)) }
  | drained
      {c : Crew}
      {found : List Nat}
      (hStage : c.stage = .draining found)
      (hGone : ∀ id ∈ found, c.pool.isLive id = false) :
      Step c (some .stopped) { c with stage := .stopped }
  | closed
      {c : Crew}
      (hStage : c.stage = .stopped) :
      Step c none
        { c with
          session := c.session.close
          stage := .leaving }
  | left
      {c : Crew}
      (hStage : c.stage = .leaving)
      (hEnded : c.session.hasEnded = true)
      (hOutbox : c.session.outbox = []) :
      Step c none { c with stage := .closing (.fresh farewell) }
  | parted
      {c : Crew}
      {a b : Hand Unit}
      {m : Memory}
      {h : Option Happening}
      (hStage : c.stage = .closing a)
      (hActs : a.Acts .porter c.memory h m b) :
      Step c h { c with memory := m, stage := .closing b }

/- What a crew may come to, and what has happened, the latest first. -/
inductive Reaches
    (first : Crew) : List Happening → Crew → Prop where
  | start : Reaches first [] first
  | step
      {log : List Happening}
      {c d : Crew}
      {h : Option Happening}
      (hReaches : Reaches first log c)
      (hStep : Step c h d) :
      Reaches first (h.toList ++ log) d

------------------------------------------------------------
-- Pools and Bodies
------------------------------------------------------------

/- The bodies are those of the jobs of a pool. -/
def Manned
    (p : Pool Dispatcher.Key)
    (bodies : List (Nat × Hand Unit)) : Prop :=
  bodies.map (·.1) = p.jobs.map (·.id)

section Manned

variable {p q : Pool Dispatcher.Key}
variable {bodies : List (Nat × Hand Unit)}
variable {id : Nat}

theorem ids_of_labels
    (hLabels : q.labels = p.labels) :
    q.jobs.map (·.id) = p.jobs.map (·.id) := by
  have hIds := congrArg (List.map Prod.fst) hLabels
  simpa [Pool.labels, List.map_map, Function.comp_def]
    using hIds

theorem ids_remove
    (p : Pool Dispatcher.Key)
    (id : Nat) :
    (p.remove id).jobs.map (·.id) =
      (p.jobs.map (·.id)).filter (· != id) := by
  simp [Pool.remove, List.filter_map, Function.comp_def]

/- A body goes with its job. -/
theorem Manned.without
    (hManned : Manned p bodies)
    (hLabels : q.labels = (p.remove id).labels) :
    Manned q (bodies.filter (·.1 != id)) := by
  unfold Manned
  rw [ids_of_labels hLabels, ids_remove, ← hManned]
  simp [List.filter_map, Function.comp_def]

/- A body comes with its job. -/
theorem Manned.submit
    (hManned : Manned p bodies)
    (key : Option Dispatcher.Key)
    (a : Hand Unit) :
    match p.submit key with
    | (some id, q) => Manned q (bodies ++ [(id, a)])
    | (none, q) => Manned q bodies := by
  unfold Pool.submit
  cases p.accepting with
  | true =>
      simp only [if_true, Manned, List.map_append]
      rw [hManned]
      rfl
  | false => exact hManned

end Manned

------------------------------------------------------------
-- What Is Kept
------------------------------------------------------------

/-
  Everybody in a crew has his place: a body has its job; the
  session waits for whom it has sent, or is about to send; and
  what has been stopped so far is over.
-/
structure IsKept
    (c : Crew) : Prop where
  manned : Manned c.pool c.bodies
  waits :
    errandsIn c.session.outbox ++ c.envoy.toList.map (·.errand) =
      c.session.errand?.toList
  loop : c.stage.HasStilledLoop → c.loop = .over
  dispatcher :
    c.stage.HasStilledDispatcher →
      c.isListening = false ∧ c.pool.accepting = false
  found :
    ∀ found, c.stage = .draining found →
      ∀ j ∈ c.pool.jobs, j.id ∈ found
  drained : c.stage.HasDrained → c.pool.jobs = []
  session : c.stage.IsClosing → c.session.hasEnded = true
  porter :
    ∀ a, c.stage = .closing a → a.rest.Only IsFarewell

variable {c d : Crew}

namespace IsKept

/- Who has been sent is the only one. -/
theorem alone
    {v : Envoy}
    (hKept : c.IsKept)
    (hEnvoy : c.envoy = some v) :
    errandsIn c.session.outbox = [] ∧
      c.session.errand? = some v.errand := by
  have hWaits := hKept.waits
  rw [hEnvoy] at hWaits
  cases hErrand : c.session.errand? with
  | none => simp [hErrand] at hWaits
  | some e =>
      rw [hErrand] at hWaits
      rcases List.append_eq_singleton_iff.mp hWaits with
        ⟨hNone, hOne⟩ | ⟨_, hNone⟩
      · exact ⟨hNone, congrArg some (List.singleton_inj.mp hOne).symm⟩
      · cases hNone

/- A session that waits for nobody has sent nobody. -/
theorem envoy_eq_none
    (hKept : c.IsKept)
    (hNobody : c.session.errand? = none) :
    errandsIn c.session.outbox = [] ∧ c.envoy = none := by
  have hWaits := hKept.waits
  rw [hNobody] at hWaits
  rcases List.append_eq_nil_iff.mp hWaits with ⟨hNone, hEmpty⟩
  exact ⟨hNone, by simpa using hEmpty⟩

/- The pool goes on with jobs that were there. -/
theorem repool
    {q : Pool Dispatcher.Key}
    {bodies : List (Nat × Hand Unit)}
    (hKept : c.IsKept)
    (hManned : Manned q bodies)
    (hLabels : q.labels.Sublist c.pool.labels)
    (hIntake : q.intake = c.pool.intake) :
    IsKept { c with pool := q, bodies } := by
  have hJob {j : Pool.Job Dispatcher.Key}
      (hMem : j ∈ q.jobs) :
      ∃ i ∈ c.pool.jobs, i.id = j.id := by
    rcases Pool.exists_job_of_labels hLabels hMem with
      ⟨i, hThere, hId, _⟩
    exact ⟨i, hThere, hId⟩
  refine
    { hKept with
      manned := hManned
      dispatcher := ?_
      found := ?_
      drained := ?_ }
  · intro hStilled
    rcases hKept.dispatcher hStilled with ⟨hDeaf, hClosed⟩
    exact ⟨hDeaf, (congrArg Prod.snd hIntake).trans hClosed⟩
  · intro found hStage j hMem
    rcases hJob hMem with ⟨i, hThere, hId⟩
    rw [← hId]
    exact hKept.found found hStage i hThere
  · intro hDrained
    rw [List.eq_nil_iff_forall_not_mem]
    intro j hMem
    rcases hJob hMem with ⟨i, hThere, _⟩
    rw [hKept.drained hDrained] at hThere
    cases hThere

/- A job that leaves the pool takes its body with it. -/
theorem dismiss
    {id : Nat}
    {q : Pool Dispatcher.Key}
    (hKept : c.IsKept)
    (hLabels : q.labels = (c.pool.remove id).labels)
    (hIntake : q.intake = c.pool.intake) :
    IsKept
      { c with
        pool := q
        bodies := c.bodies.filter (·.1 != id) } := by
  refine hKept.repool (hKept.manned.without hLabels) ?_ hIntake
  rw [hLabels]
  exact Pool.labels_remove c.pool id

/- Before the dispatcher is stopped, the pool may do anything. -/
theorem repool_of_listening
    {q : Pool Dispatcher.Key}
    {bodies : List (Nat × Hand Unit)}
    (hKept : c.IsKept)
    (hListening : c.isListening = true)
    (hManned : Manned q bodies) :
    IsKept { c with pool := q, bodies } := by
  have hEarly : ¬ c.stage.HasStilledDispatcher := by
    intro hStilled
    have hDeaf := (hKept.dispatcher hStilled).1
    rw [hListening] at hDeaf
    cases hDeaf
  refine
    { hKept with
      manned := hManned
      dispatcher := ?_
      found := ?_
      drained := ?_ }
  · exact fun hStilled => (hEarly hStilled).elim
  · intro found hStage
    rw [hStage] at hEarly
    exact (hEarly trivial).elim
  · intro hDrained
    exact (hEarly hDrained.hasStilledDispatcher).elim

/- An event is handled while the dispatcher listens. -/
theorem handle
    (hKept : c.IsKept)
    (hListening : c.isListening = true)
    (now : Rat)
    (e : Event) :
    (c.handle now e).IsKept := by
  unfold Crew.handle
  simp only
  generalize c.dispatcher.take now c.memory e = t
  cases t.job with
  | none => exact { hKept with }
  | some job =>
      have hSubmitted :=
        hKept.manned.submit job.key (.fresh job.program)
      simp only [Crew.submit]
      generalize c.pool.submit job.key = submitted at hSubmitted
      rcases submitted with ⟨_ | id, q⟩
      · exact
          { hKept.repool_of_listening hListening hSubmitted with }
      · exact
          { hKept.repool_of_listening hListening hSubmitted with }

/- The session changes, and with it whom it waits for. -/
theorem resession
    {s : Session}
    {envoy : Option Envoy}
    (hKept : c.IsKept)
    (hWaits :
      errandsIn s.outbox ++ envoy.toList.map (·.errand) =
        s.errand?.toList)
    (hEnded :
      c.session.hasEnded = true → s.hasEnded = true) :
    IsKept { c with session := s, envoy } :=
  { hKept with
    waits := hWaits
    session := fun hClosing => hEnded (hKept.session hClosing) }

/- An order of the session is carried out. -/
theorem obey
    {o : Order}
    {orders : List Order}
    (hKept : c.IsKept)
    (hOutbox : c.session.outbox = o :: orders) :
    ({ c with
        session :=
          { c.session with outbox := orders } }.obey o).IsKept := by
  have hWaits := hKept.waits
  rw [hOutbox, errandsIn_cons] at hWaits
  have hIdle
      (hNone : o.errand? = none) :
      IsKept
        { c with
          session := { c.session with outbox := orders } } := by
    rw [hNone] at hWaits
    exact { hKept with waits := hWaits }
  have hSends
      (errand : Errand)
      (hErrand : o.errand? = some errand) :
      IsKept
        { c with
          session := { c.session with outbox := orders }
          envoy := some (.ofErrand errand) } := by
    refine { hKept with waits := ?_ }
    rw [hErrand] at hWaits
    cases hFor : c.session.errand? with
    | none => simp [hFor] at hWaits
    | some e =>
        rw [hFor] at hWaits
        rcases List.cons_eq_cons.mp hWaits with ⟨hSame, hRest⟩
        have hNone : errandsIn orders = [] :=
          (List.append_eq_nil_iff.mp hRest).1
        change
          errandsIn orders ++ [errand] =
            c.session.errand?.toList
        rw [hNone, hSame, hFor]
        rfl
  cases o with
  | fetch => exact hSends .address rfl
  | hydrate r => exact hSends .preparation rfl
  | queue e => exact { hIdle rfl with }
  | _ => exact hIdle rfl

/- The loop goes on only before it is stopped. -/
theorem reloop
    {loop : Loop}
    (hKept : c.IsKept)
    (hAwake : c.loop ≠ .over) :
    IsKept { c with loop } :=
  { hKept with
    loop := fun hStilled => (hAwake (hKept.loop hStilled)).elim }

/- Nobody who was sent is there when something comes from outside. -/
theorem waits_of_outside
    {x : Session.Stimulus}
    (hKept : c.IsKept)
    (hOutside : x.errand? = none)
    (hTurn : x ≠ .connect) :
    errandsIn (c.session.react x).outbox ++
        c.envoy.toList.map (·.errand) =
      (c.session.react x).errand?.toList := by
  rcases Session.errands_of_outside c.session hOutside hTurn with
    ⟨hErrand, hOutbox⟩ | ⟨hNobody, hSends⟩
  · rw [hErrand, hOutbox]
    exact hKept.waits
  · rcases hKept.envoy_eq_none hNobody with ⟨hNone, hEmpty⟩
    rw [hSends, hNone, hEmpty]
    simp

/- The session is told of something. -/
theorem react
    {x : Session.Stimulus}
    (hKept : c.IsKept)
    (hOutside : x.errand? = none)
    (hTurn : x ≠ .connect) :
    IsKept { c with session := c.session.react x } :=
  hKept.resession (hKept.waits_of_outside hOutside hTurn)
    (Session.hasEnded_of_outside hTurn)

/- Somebody comes back from an errand. -/
theorem comeBack
    {e : Errand}
    {a : Hand e.Result}
    (hKept : c.IsKept)
    (hEnvoy : c.envoy = some ⟨e, a⟩)
    (m : Moment)
    (result : Except Cause e.Result) :
    IsKept
      { c with
        envoy := none
        session := c.session.react (e.stimulus m result) } := by
  rcases hKept.alone hEnvoy with ⟨hNone, hFor⟩
  have hSends :=
    Session.sends_of_errand (e.errand?_stimulus m result) hFor
  refine hKept.resession ?_ ?_
  · rw [hSends, hNone]
    simp
  · intro hEnded
    have hNobody := Session.errand?_of_hasEnded hEnded
    cases hNobody.symm.trans hFor

/- All jobs are over when those that were found are. -/
theorem jobs_eq_nil
    {found : List Nat}
    (hKept : c.IsKept)
    (hStage : c.stage = .draining found)
    (hGone : ∀ id ∈ found, c.pool.isLive id = false) :
    c.pool.jobs = [] := by
  rw [List.eq_nil_iff_forall_not_mem]
  intro j hMem
  have hLive : c.pool.isLive j.id = true := by
    unfold Pool.isLive Pool.find?
    rw [List.find?_isSome]
    exact ⟨j, hMem, by simp⟩
  have hOver := hGone j.id (hKept.found found hStage j hMem)
  cases hLive.symm.trans hOver

/- While the dispatcher listens, only the loop matters. -/
theorem prepare
    {x : Stage}
    (hKept : c.IsKept)
    (hEarly : ¬ x.HasStilledDispatcher)
    (hLoop : x.HasStilledLoop → c.loop = .over) :
    IsKept { c with stage := x } := by
  have hUndrained : ¬ x.HasDrained :=
    fun hDrained => hEarly hDrained.hasStilledDispatcher
  refine
    { hKept with
      loop := hLoop
      dispatcher := fun hStilled => (hEarly hStilled).elim
      found := ?_
      drained := fun hDrained => (hUndrained hDrained).elim
      session := fun hClosing =>
        (hUndrained hClosing.hasDrained).elim
      porter := ?_ }
  · rintro found rfl
    exact (hEarly trivial).elim
  · rintro a rfl
    exact (hUndrained trivial).elim

/- The dispatcher stops listening, and what the pool holds is found. -/
theorem still
    (hKept : c.IsKept)
    (hStilled : c.stage.HasStilledLoop) :
    IsKept
      { c with
        isListening := false
        pool := c.pool.close
        stage := .draining (c.pool.jobs.map (·.id)) } := by
  refine
    { hKept with
      loop := fun _ => hKept.loop hStilled
      dispatcher := fun _ => ⟨rfl, rfl⟩
      found := ?_
      drained := False.elim
      session := False.elim
      porter := nofun }
  rintro found hFound j hMem
  cases hFound
  exact List.mem_map_of_mem hMem

/- The pool is drained when all jobs that were found are over. -/
theorem drain
    {found : List Nat}
    (hKept : c.IsKept)
    (hStage : c.stage = .draining found)
    (hGone : ∀ id ∈ found, c.pool.isLive id = false) :
    IsKept { c with stage := .stopped } :=
  { hKept with
    loop := fun _ => hKept.loop (hStage ▸ trivial)
    dispatcher := fun _ => hKept.dispatcher (hStage ▸ trivial)
    found := nofun
    drained := fun _ => hKept.jobs_eq_nil hStage hGone
    session := False.elim
    porter := nofun }

/- After the pool has been drained, only the closing matters. -/
theorem advance
    {x : Stage}
    (hKept : c.IsKept)
    (hDrained : c.stage.HasDrained)
    (hLater : x.HasDrained)
    (hSession : x.IsClosing → c.session.hasEnded = true)
    (hPorter :
      ∀ a, x = .closing a → a.rest.Only IsFarewell) :
    IsKept { c with stage := x } := by
  have hStilled := hDrained.hasStilledDispatcher
  refine
    { hKept with
      loop := fun _ => hKept.loop hStilled.hasStilledLoop
      dispatcher := fun _ => hKept.dispatcher hStilled
      found := ?_
      drained := fun _ => hKept.drained hDrained
      session := hSession
      porter := hPorter }
  rintro found rfl
  exact hLater.elim

end IsKept

/- Who acts has only what was left to ask for. -/
theorem only_of_acts
    {P : Request → Prop}
    {who : Who}
    {m n : Memory}
    {a b : Hand Unit}
    {h : Option Happening}
    (hOnly : a.rest.Only P)
    (hActs : a.Acts who m h n b) :
    b.rest.Only P := by
  cases hActs with
  | looks => exact hOnly m
  | asks => exact hOnly
  | goesOn answer => exact hOnly.2 answer

/- Whatever anybody does, everybody keeps his place. -/
theorem isKept_of_step
    {h : Option Happening}
    (hKept : c.IsKept)
    (hStep : Step c h d) :
    d.IsKept := by
  cases hStep with
  | turned id =>
      have hLabels := Pool.labels_step c.pool id
      have hManned : Manned (c.pool.step id) c.bodies :=
        hKept.manned.trans (ids_of_labels hLabels).symm
      refine hKept.repool hManned ?_ (Pool.intake_step c.pool id)
      rw [hLabels]
  | worked hBodies hRunning hActs =>
      refine { hKept with manned := ?_ }
      have hManned := hKept.manned
      unfold Manned at hManned ⊢
      rw [← hManned, hBodies]
      simp
  | @finished id a result hBody hRunning hEnded =>
      exact
        hKept.dismiss (Pool.labels_finish c.pool id)
          (Pool.intake_finish c.pool id)
  | @withdrawn found id hStage hFound hWaits =>
      exact
        hKept.dismiss (Pool.labels_withdraw c.pool id)
          (Pool.intake_withdraw c.pool id)
  | @handled e rest now hListening hEvents =>
      have hTaken : IsKept { c with events := rest } :=
        { hKept with }
      exact hTaken.handle hListening now e
  | played hLoop hActs =>
      have hAwake : c.loop ≠ .over := by simp [hLoop]
      exact { hKept.reloop hAwake with }
  | concluded hLoop hEnded =>
      exact hKept.reloop (by simp [hLoop])
  | woke hLoop => exact hKept.reloop (by simp [hLoop])
  | unrested hStage hLoop =>
      exact { hKept with loop := fun _ => rfl }
  | reacted x hOutside =>
      refine hKept.react ?_ ?_
      · cases x <;> first | rfl | exact hOutside.elim
      · rintro rfl
        exact hOutside
  | obeyed hOutbox => exact hKept.obey hOutbox
  | sent hEnvoy hActs =>
      refine { hKept with waits := ?_ }
      have hWaits := hKept.waits
      rw [hEnvoy] at hWaits
      exact hWaits
  | returned m hEnvoy hEnded =>
      exact hKept.comeBack hEnvoy m _
  | summoned hStage => exact hKept.prepare id False.elim
  | stilledLoop hStage hLoop =>
      exact hKept.prepare id fun _ => hLoop
  | stilledDispatcher hStage =>
      exact hKept.still (hStage ▸ trivial)
  | drained hStage hGone =>
      exact hKept.drain hStage hGone
  | closed hStage =>
      have hDrained : c.stage.HasDrained := hStage ▸ trivial
      exact
        (hKept.react (x := .close) rfl nofun).advance hDrained
          trivial False.elim nofun
  | left hStage hEnded hOutbox =>
      have hDrained : c.stage.HasDrained := hStage ▸ trivial
      refine hKept.advance hDrained trivial (fun _ => hEnded) ?_
      rintro a hPorter
      cases hPorter
      exact only_farewell
  | @parted a b m _ hStage hActs =>
      have hClosing : c.stage.IsClosing := hStage ▸ trivial
      have hMoved : IsKept { c with stage := .closing b } := by
        refine hKept.advance hClosing.hasDrained trivial
          (fun _ => hKept.session hClosing) ?_
        rintro a hPorter
        cases hPorter
        exact only_of_acts (hKept.porter _ hStage) hActs
      exact { hMoved with }

/- When everything has been started, everybody has his place. -/
theorem isKept_start
    (b : Bot)
    (token : String)
    (now : Rat)
    (m : Memory) :
    (start b token now m).IsKept where
  manned := rfl
  waits := by
    have hSends := Session.connect_sends (b.session token now)
    unfold Session.Sends at hSends
    simpa [start, Bot.session, Session.new] using hSends
  loop := False.elim
  dispatcher := False.elim
  found := nofun
  drained := False.elim
  session := False.elim
  porter := nofun

end Crew

end GuildWarden.Run
