/-
  This file defines the pool of jobs. A bounded number of jobs
  runs at the same time. Jobs of one key run one after another
  in the order of their submission; the others wait for
  nothing but a slot.

  Key definitions include:
    * `Pool`
    * `Pool.submit`
    * `Pool.step`
    * `Pool.finish`
    * `Pool.withdraw`
    * `Pool.forget`
    * `Pool.close`
-/

namespace GuildWarden

/-
  How far a job has come. A new job may have a predecessor of
  the same key. A job that was granted a slot takes it up at
  its next step.
-/
inductive Pool.Phase where
  | fresh (predecessor : Option Nat)
  | following (predecessor : Nat)
  | queued
  | granted
  | running
deriving DecidableEq, Repr

/- A job of the pool. -/
structure Pool.Job (κ : Type) where
  id : Nat
  key : Option κ
  phase : Pool.Phase
deriving DecidableEq, Repr

/-
  The pool: its free slots, the jobs that have not ended in
  the order of their submission, those that have ended in the
  order of their ends until the pool hears of it, and the jobs
  that wait for a slot or were granted one in the order of
  their asking.
-/
structure Pool (κ : Type) where
  free : Nat
  jobs : List (Pool.Job κ)
  departed : List (Pool.Job κ)
  queue : List Nat
  accepting : Bool
  nextId : Nat
deriving DecidableEq, Repr

namespace Pool

variable {κ : Type}

/- An empty pool with a number of slots, at least one. -/
def ofSlots
    (n : Int) : Pool κ where
  free := (max 1 n).toNat
  jobs := []
  departed := []
  queue := []
  accepting := true
  nextId := 0

/- The job with an id, unless it has ended. -/
def find?
    (p : Pool κ)
    (id : Nat) : Option (Job κ) :=
  p.jobs.find? fun j => j.id == id

/- The phase of a job, unless it has ended. -/
def phase?
    (p : Pool κ)
    (id : Nat) : Option Phase :=
  (p.find? id).map (·.phase)

/- Whether a job has not ended. -/
def isLive
    (p : Pool κ)
    (id : Nat) : Bool :=
  (p.find? id).isSome

/- Set the phase of a job. -/
def setPhase
    (p : Pool κ)
    (id : Nat)
    (phase : Phase) : Pool κ :=
  { p with
    jobs := p.jobs.map fun j => if j.id = id then { j with phase } else j }

------------------------------------------------------------
-- Submission
------------------------------------------------------------

/- The last job of a key that has not ended. -/
def tail?
    [BEq κ]
    (p : Pool κ)
    (key : κ) : Option Nat :=
  (p.jobs.reverse.find? fun j => j.key == some key).map (·.id)

/- Submit a job; a closed pool accepts none. -/
def submit
    [BEq κ]
    (p : Pool κ)
    (key : Option κ) : Option Nat × Pool κ :=
  if p.accepting then
    let job : Job κ := ⟨p.nextId, key, .fresh (key.bind p.tail?)⟩
    (some p.nextId,
      { p with jobs := p.jobs ++ [job], nextId := p.nextId + 1 })
  else (none, p)

/- Accept no more jobs. -/
def close
    (p : Pool κ) : Pool κ :=
  { p with accepting := false }

------------------------------------------------------------
-- Slots
------------------------------------------------------------

/- The first job in the queue that still waits for a slot. -/
def firstQueued?
    (p : Pool κ) : Option Nat :=
  p.queue.find? fun id => p.phase? id == some .queued

/- Grant a free slot to the first job that waits for one. -/
def grant
    (p : Pool κ) : Pool κ :=
  match p.firstQueued? with
  | some id => { p.setPhase id .granted with free := p.free - 1 }
  | none => p

/- Give a slot back. -/
def release
    (p : Pool κ) : Pool κ :=
  { p with free := p.free + 1 }.grant

/- Ask for a slot for a job; it waits behind all that asked before. -/
def ask
    (p : Pool κ)
    (id : Nat) : Pool κ :=
  if p.free = 0 || !p.queue.isEmpty then
    { p.setPhase id .queued with queue := p.queue ++ [id] }
  else
    { p.setPhase id .running with free := p.free - 1 }

/- Leave the queue. -/
def leave
    (p : Pool κ)
    (id : Nat) : Pool κ :=
  { p with queue := p.queue.filter (· != id) }

/- Take a granted slot up; a further free slot goes to the next job. -/
def takeUp
    (p : Pool κ)
    (id : Nat) : Pool κ :=
  let p := (p.leave id).setPhase id .running
  if 0 < p.free then p.grant else p

------------------------------------------------------------
-- Steps of a job
------------------------------------------------------------

/- Wait for a predecessor, or ask for a slot if it has ended. -/
def follow
    (p : Pool κ)
    (id predecessor : Nat) : Pool κ :=
  if p.isLive predecessor then p.setPhase id (.following predecessor)
  else p.ask id

/- A job goes on as far as it can before it runs. -/
def step
    (p : Pool κ)
    (id : Nat) : Pool κ :=
  match p.phase? id with
  | some (.fresh none) => p.ask id
  | some (.fresh (some q)) => p.follow id q
  | some (.following q) => p.follow id q
  | some .granted => p.takeUp id
  | _ => p

/- Remove a job; the pool has yet to hear of its end. -/
def remove
    (p : Pool κ)
    (id : Nat) : Pool κ :=
  { p with
    jobs := p.jobs.filter fun j => j.id != id
    departed := p.departed ++ p.jobs.filter fun j => j.id == id }

/- A running job has ended. -/
def finish
    (p : Pool κ)
    (id : Nat) : Pool κ :=
  (p.remove id).release

/- Withdraw a job that does not run yet; a granted slot goes on. -/
def withdraw
    (p : Pool κ)
    (id : Nat) : Pool κ :=
  let rest := (p.remove id).leave id
  if p.phase? id == some .granted then rest.release else rest

/- The pool hears of the end of a job and counts it no more. -/
def forget
    (p : Pool κ)
    (id : Nat) : Pool κ :=
  { p with departed := p.departed.filter fun j => j.id != id }

------------------------------------------------------------
-- Views
------------------------------------------------------------

/- The jobs that wait for the end of a job. -/
def followers
    (p : Pool κ)
    (id : Nat) : List Nat :=
  (p.jobs.filter fun j => j.phase == .following id).map (·.id)

/- The job that was granted a slot last, if it was not before. -/
def newlyGranted
    (before after : Pool κ) : List Nat :=
  (after.jobs.filter fun j =>
    j.phase == .granted && before.phase? j.id != some .granted).map (·.id)

/- The jobs of whose end the pool has not heard. -/
def tracked
    (p : Pool κ) : List (Job κ) :=
  p.jobs ++ p.departed

/- The number of jobs of whose end the pool has not heard. -/
def inFlight
    (p : Pool κ) : Nat :=
  p.tracked.length

/- The keys of jobs of whose end the pool has not heard. -/
def keys
    [BEq κ]
    (p : Pool κ) : List κ :=
  (p.tracked.filterMap (·.key)).eraseDups

/- The jobs that are running. -/
def running
    (p : Pool κ) : List Nat :=
  (p.jobs.filter fun j => j.phase == .running).map (·.id)

end Pool

end GuildWarden
