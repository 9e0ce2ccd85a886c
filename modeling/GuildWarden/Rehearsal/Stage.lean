import GuildWarden.Dispatch.Drain
import GuildWarden.Dispatch.Pool
import GuildWarden.Number.Binary64
import GuildWarden.Rehearsal.Actor

/-
  This file defines the stage of a rehearsal: the actors that
  run programs side by side, the order in which those that are
  ready take turns, and how the clock jumps to the next moment
  at which something is due when nobody is ready.

  Key definitions include:
    * `Rehearsal.Actor`
    * `Rehearsal.Stage`
    * `Rehearsal.Stage.settle`
    * `Rehearsal.Stage.runUntil`
    * `Rehearsal.Stage.submit`
    * `Rehearsal.Stage.drain`
-/

namespace GuildWarden.Rehearsal

------------------------------------------------------------
-- Actors
------------------------------------------------------------

/-
  An actor is a job of the pool or somebody else. Two others
  take turns without being on the stage: one who tells the pool
  that a job has ended, and one who waits for a drain.
-/
inductive ActorId where
  | job (id : Nat)
  | other (n : Nat)
  | herald (job : Nat)
  | drainer
deriving DecidableEq, Repr

/- The job that an actor is. -/
def ActorId.job? : ActorId → Option Nat
  | .job id => some id
  | _ => none

/-
  What an actor plays: one program, or the tasks of the stage
  one after another, once or over and over.
-/
inductive Part where
  | program
  | tasks (index : Nat) (repeats : Bool)
deriving DecidableEq, Repr

/- What an actor is doing. -/
inductive Doing (ρ : Type) where
  | ready (r : Resumption ρ)
  | pooled (p : Program ρ)
  | asleep (due : Option Rat) (r : Resumption ρ)
  | locked (r : Resumption ρ)
  | resting (due : Option Rat)
  | ended (result : Except Cause ρ)

/- An actor with its timers. -/
structure Actor (ρ : Type) where
  id : ActorId
  part : Part
  timers : List Timer
  doing : Doing ρ

namespace Actor

variable {ρ : Type}

/- Whether an actor has ended. -/
def hasEnded
    (a : Actor ρ) : Bool :=
  match a.doing with
  | .ended _ => true
  | _ => false

/- The earlier of two times; without a time nothing is due. -/
def earlier : Option Rat → Option Rat → Option Rat
  | some s, some t => some (Number.lesser s t)
  | some s, none => some s
  | none, t => t

/- When an actor that sleeps is due by its timers. -/
def timerDue
    (a : Actor ρ) : Option Rat :=
  a.timers.foldl (fun t timer => earlier t timer.next?) none

/- When something is due for an actor. -/
def due
    (a : Actor ρ) : Option Rat :=
  match a.doing with
  | .asleep due _ => earlier due a.timerDue
  | .locked _ => a.timerDue
  | .resting due => due
  | _ => none

end Actor

------------------------------------------------------------
-- Stages
------------------------------------------------------------

/-
  A stage. An actor in the queue lets the others go first for
  a number of rounds.
-/
structure Stage (κ ρ : Type) where
  world : World
  pool : Pool κ
  actors : List (Actor ρ)
  queue : List (Nat × ActorId)
  tasks : List (Program ρ)
  interval : Span
  nextOther : Nat

namespace Stage

variable {κ ρ : Type}

/- A stage without actors. -/
def ofWorld
    (w : World) : Stage κ ρ where
  world := w
  pool := Pool.ofSlots 1
  actors := []
  queue := []
  tasks := []
  interval := .endless
  nextOther := 0

/- Change the world. -/
def onWorld
    (st : Stage κ ρ)
    (f : World → World) : Stage κ ρ :=
  { st with world := f st.world }

/- The actor with an id. -/
def find?
    (st : Stage κ ρ)
    (id : ActorId) : Option (Actor ρ) :=
  st.actors.find? fun a => a.id == id

/- Put a changed actor in its place. -/
def put
    (st : Stage κ ρ)
    (a : Actor ρ) : Stage κ ρ :=
  { st with
    actors := st.actors.map fun b => if b.id = a.id then a else b }

/- Remove an actor. -/
def remove
    (st : Stage κ ρ)
    (id : ActorId) : Stage κ ρ :=
  { st with actors := st.actors.filter fun a => a.id != id }

/- Let an actor take a turn after a number of rounds. -/
def enqueue
    (st : Stage κ ρ)
    (rounds : Nat)
    (id : ActorId) : Stage κ ρ :=
  { st with queue := st.queue ++ [(rounds, id)] }

/- Let jobs take a turn after a number of rounds. -/
def enqueueJobs
    (st : Stage κ ρ)
    (rounds : Nat)
    (ids : List Nat) : Stage κ ρ :=
  ids.foldl (fun st id => st.enqueue rounds (.job id)) st

/- Change the pool; a job that is granted a slot takes a turn. -/
def onPool
    (st : Stage κ ρ)
    (f : Pool κ → Pool κ) : Stage κ ρ :=
  let after := f st.pool
  { st with pool := after }.enqueueJobs 0 (st.pool.newlyGranted after)

/-
  Remove a job that ended. The pool is told in a turn of its
  own, and those that wait for the end take a turn after that.
-/
def dismiss
    (st : Stage κ ρ)
    (id : Nat)
    (leave : Pool κ → Nat → Pool κ) : Stage κ ρ :=
  let followers := st.pool.followers id
  let st := (st.remove (.job id)).onPool (leave · id)
  (st.enqueue 0 (.herald id)).enqueueJobs 1 followers

------------------------------------------------------------
-- Turns
------------------------------------------------------------

/- The time at which a rest that starts now is over. -/
def restDue
    (st : Stage κ ρ) : Option Rat :=
  match st.interval with
  | .seconds n => some (st.world.clock + n)
  | .endless => none

/- An actor goes on with a task; after the last one it rests or ends. -/
def playTask
    (st : Stage κ ρ)
    (a : Actor ρ)
    (index : Nat)
    (repeats : Bool)
    (last : Except Cause ρ) : Stage κ ρ :=
  let a := { a with part := .tasks index repeats }
  match st.tasks[index]? with
  | some p =>
    let st := st.put { a with doing := .ready (.ofProgram p) }
    { st with queue := (0, a.id) :: st.queue }
  | none =>
    if repeats then st.put { a with doing := .resting st.restDue }
    else st.put { a with doing := .ended last }

/- The program of an actor has ended. -/
def conclude
    (st : Stage κ ρ)
    (a : Actor ρ)
    (result : Except Cause ρ) : Stage κ ρ :=
  match a.id, a.part, result with
  | .job id, _, _ => st.dismiss id Pool.finish
  | _, .tasks _ _, .error .cancelled =>
    st.put { a with doing := .ended result }
  | _, .tasks index repeats, _ =>
    st.playTask a (index + 1) repeats result
  | _, .program, _ => st.put { a with doing := .ended result }

/- An actor that waits for the store. -/
def lockedActor?
    (st : Stage κ ρ) : Option (Actor ρ × Resumption ρ) :=
  st.actors.findSome? fun a =>
    match a.doing with
    | .locked r => some (a, r)
    | _ => none

/- Hand an unlocked store to an actor that waits for it. -/
def handStore
    (st : Stage κ ρ) : Stage κ ρ :=
  if st.world.storeLocked then st
  else
    match st.lockedActor? with
    | some (a, r) =>
      let st := st.onWorld fun w => { w with storeLocked := true }
      (st.put { a with doing := .ready r }).enqueue 0 a.id
    | none => st

/- An actor plays a program up to the end of its turn. -/
def play
    (st : Stage κ ρ)
    (a : Actor ρ)
    (go : World → Program ρ × World) : Stage κ ρ :=
  let (p, w) := go { st.world with job := a.id.job? }
  let g := drive p a.timers w
  let st := { st with world := { g.world with job := none } }
  let a := { a with timers := g.timers }
  let st :=
    match g.turn with
    | .yielding rounds r =>
      (st.put { a with doing := .ready r }).enqueue rounds a.id
    | .asleep due r => st.put { a with doing := .asleep due r }
    | .locked r => st.put { a with doing := .locked r }
    | .ended result => st.conclude a result
  st.handStore

/- A job goes on in the pool; one that runs plays its program. -/
def stepJob
    (st : Stage κ ρ)
    (a : Actor ρ)
    (id : Nat)
    (p : Program ρ) : Stage κ ρ :=
  let st := st.onPool (·.step id)
  if st.pool.phase? id == some .running then st.play a fun w => (p, w)
  else st

/- An actor takes its turn. -/
def turn
    (st : Stage κ ρ)
    (id : ActorId) : Stage κ ρ :=
  match id, st.find? id with
  | .herald n, _ => { st with pool := st.pool.forget n }
  | _, none => st
  | _, some a =>
    match a.id, a.doing with
    | _, .ready r => st.play a r.go
    | .job id, .pooled p => st.stepJob a id p
    | _, _ => st

/- Take turns while somebody is ready, or until it is one's turn. -/
def takeTurns
    (last : Option ActorId) :
    Nat → Stage κ ρ → Stage κ ρ
  | 0, st => st
  | fuel + 1, st =>
    match st.queue with
    | [] => st
    | (0, id) :: rest =>
      let st := { st with queue := rest }
      if last = some id then st else takeTurns last fuel (st.turn id)
    | (rounds + 1, id) :: rest =>
      takeTurns last fuel { st with queue := rest ++ [(rounds, id)] }

/- More turns than these are not taken at one moment. -/
def patience : Nat :=
  10000000

/- Take turns until nobody is ready. -/
def settle
    (st : Stage κ ρ) : Stage κ ρ :=
  st.takeTurns none patience

------------------------------------------------------------
-- Time
------------------------------------------------------------

/- The next moment at which something is due. -/
def nextDue
    (st : Stage κ ρ) : Option Rat :=
  st.actors.foldl (fun t a => Actor.earlier t a.due) none

/- An actor is woken if something is due for it. -/
def wake
    (st : Stage κ ρ)
    (a : Actor ρ) : Stage κ ρ :=
  let clock := st.world.clock
  let isDue (t : Option Rat) : Bool := t.any (· ≤ clock)
  let goOn (r : Resumption ρ) (ts : List Timer) :=
    (st.put { a with doing := .ready r, timers := ts }).enqueue 0 a.id
  let interrupt (r : Resumption ρ) :=
    goOn (.ofProgram r.cancelled) (Timer.expire clock a.timers)
  match a.doing with
  | .asleep due r =>
    if Timer.anyDue clock a.timers then interrupt r
    else if isDue due then goOn r a.timers
    else st
  | .locked r =>
    if Timer.anyDue clock a.timers then interrupt r else st
  | .resting due =>
    if isDue due then st.playTask a 0 true (.error .cancelled) else st
  | _ => st

/- Set the clock and wake those for whom something is due. -/
def jump
    (st : Stage κ ρ)
    (t : Rat) : Stage κ ρ :=
  let st := st.onWorld fun w => { w with clock := t }
  st.actors.foldl wake st

/- Set the clock to the end of a stretch of time. -/
def reach
    (st : Stage κ ρ) : Option Rat → Stage κ ρ
  | some t => st.onWorld fun w => { w with clock := t }
  | none => st

/-
  Let time pass until a condition holds, or up to a limit.
  Without a limit it also ends when nothing is due any more.
-/
def letPass
    (done : Stage κ ρ → Bool)
    (limit : Option Rat) :
    Nat → Stage κ ρ → Stage κ ρ
  | 0, st => st
  | fuel + 1, st =>
    let st := st.settle
    if done st then st
    else
      match st.nextDue with
      | none => st.reach limit
      | some d =>
        if limit.any (· < d) then st.reach limit
        else letPass done limit fuel (st.jump d)

/- Let time pass until a condition holds, or up to a limit. -/
def runUntil
    (st : Stage κ ρ)
    (done : Stage κ ρ → Bool)
    (limit : Option Rat) : Stage κ ρ :=
  letPass done limit patience st

/- Let a stretch of time pass. -/
def advance
    (st : Stage κ ρ)
    (n : Rat) : Stage κ ρ :=
  st.runUntil (fun _ => false) (some (st.world.clock + n))

------------------------------------------------------------
-- Entrances and exits
------------------------------------------------------------

/- A new actor enters and is ready to play. -/
def enter
    (st : Stage κ ρ)
    (part : Part)
    (p : Program ρ) : ActorId × Stage κ ρ :=
  let id := ActorId.other st.nextOther
  let a : Actor ρ := ⟨id, part, [], .ready (.ofProgram p)⟩
  (id, { st with
    actors := st.actors ++ [a]
    queue := st.queue ++ [(0, id)]
    nextOther := st.nextOther + 1 })

/- An actor enters that plays the tasks of the stage. -/
def enterTasks
    (st : Stage κ ρ)
    (repeats : Bool)
    (idle : ρ) : ActorId × Stage κ ρ :=
  match st.tasks with
  | p :: _ => st.enter (.tasks 0 repeats) p
  | [] =>
    let id := ActorId.other st.nextOther
    let doing : Doing ρ :=
      if repeats then .resting st.restDue else .ended (.ok idle)
    (id, { st with
      actors := st.actors ++ [⟨id, .tasks 0 repeats, [], doing⟩]
      nextOther := st.nextOther + 1 })

/- Submit a program to the pool; answers whether it was accepted. -/
def submit
    [BEq κ]
    (st : Stage κ ρ)
    (key : Option κ)
    (p : Program ρ) : Bool × Stage κ ρ :=
  match st.pool.submit key with
  | (none, _) => (false, st)
  | (some id, pool) =>
    let a : Actor ρ := ⟨.job id, .program, [], .pooled p⟩
    (true, { st with
      pool
      actors := st.actors ++ [a]
      queue := st.queue ++ [(0, .job id)] })

/- The result of an actor that has ended. -/
def result?
    (st : Stage κ ρ)
    (id : ActorId) : Option (Except Cause ρ) :=
  (st.find? id).bind fun a =>
    match a.doing with
    | .ended result => some result
    | _ => none

/- Cancel what an actor is doing. -/
def cancel
    (st : Stage κ ρ)
    (id : ActorId) : Stage κ ρ :=
  match st.find? id with
  | none => st
  | some a =>
    let give (r : Resumption ρ) :=
      st.put { a with doing := .ready (.ofProgram r.cancelled) }
    match a.id, a.doing with
    | _, .ready r => give r
    | _, .asleep _ r => (give r).enqueue 0 id
    | _, .locked r => (give r).enqueue 0 id
    | _, .resting _ => st.put { a with doing := .ended (.error .cancelled) }
    | .job n, .pooled _ => st.dismiss n Pool.withdraw
    | _, _ => st

/-
  Let time pass until a drain is over or due. One that is due
  at once waits for its turn among those that are ready.
-/
def await
    (st : Stage κ ρ)
    (d : Pool.Drain) : Stage κ ρ :=
  if d.isDue st.world.clock then
    (st.enqueue 1 .drainer).takeTurns (some .drainer) patience
  else st.runUntil (fun st => d.isOver st.pool) d.due

/- Cancel jobs and take turns until nobody is ready. -/
def cancelJobs
    (st : Stage κ ρ)
    (ids : List Nat) : Stage κ ρ :=
  (ids.foldl (fun st id => st.cancel (.job id)) st).settle

/-
  Close the pool, let its jobs run on for a length of time and
  cancel those that are left.
-/
def drain
    (st : Stage κ ρ)
    (grace : Span) : Stage κ ρ :=
  let d := Pool.Drain.start st.pool st.world.clock grace
  let st := { st with pool := st.pool.close }
  if d.found.isEmpty then st
  else
    let st := st.await d
    let left := d.left st.pool
    if left.isEmpty then st else st.cancelJobs left

/- Run a program to its end among the actors of the stage. -/
def perform
    (st : Stage κ ρ)
    (p : Program ρ) : Except Cause ρ × Stage κ ρ :=
  let (id, st) := st.enter .program p
  let st := st.runUntil (fun st => (st.result? id).isSome) none
  ((st.result? id).getD (.error .cancelled), st.remove id)

------------------------------------------------------------
-- Tasks
------------------------------------------------------------

/- Whether an actor is on the stage and has not ended. -/
def isPlaying
    (st : Stage κ ρ)
    (id : Option ActorId) : Bool :=
  match id.bind st.find? with
  | some a => !a.hasEnded
  | none => false

/- Play the tasks over and over, unless that is going on already. -/
def startLoop
    (st : Stage κ ρ)
    (current : Option ActorId)
    (idle : ρ) : Stage κ ρ × Option ActorId :=
  if st.isPlaying current then (st, current)
  else
    let (id, st) := st.enterTasks true idle
    (st, some id)

/- Stop playing the tasks over and over. -/
def stopLoop
    (st : Stage κ ρ)
    (current : Option ActorId) : Stage κ ρ :=
  match current with
  | some id => (st.cancel id).settle.remove id
  | none => st

/- Play the tasks once, to the end of the last one. -/
def playOnce
    (st : Stage κ ρ)
    (idle : ρ) : Stage κ ρ :=
  let (id, st) := st.enterTasks false idle
  (st.runUntil (fun st => !st.isPlaying (some id)) none).remove id

end Stage

/- Run a single program to its end. -/
def World.perform
    {ρ : Type}
    (w : World)
    (p : Program ρ) : Except Cause ρ × World :=
  let (result, st) := (Stage.ofWorld (κ := Unit) w).perform p
  (result, st.world)

end GuildWarden.Rehearsal
