import GuildWarden.Dispatch.Pool
import GuildWarden.Effect.Program
import GuildWarden.Number.Binary64

/-
  This file defines the drain of a pool. It takes note of the
  jobs that it finds, waits until the pool has heard of their
  ends or until its grace is over, and then cancels those that
  are left.

  Key definitions include:
    * `Pool.Drain`
    * `Pool.Drain.start`
    * `Pool.Drain.isOver`
    * `Pool.Drain.left`
-/

namespace GuildWarden.Pool

variable {κ : Type}

/- Whether the pool has yet to hear of the end of a job. -/
def isTracked
    (p : Pool κ)
    (id : Nat) : Bool :=
  p.tracked.any fun j => j.id == id

/-
  A drain: the jobs that it found, and the time at which its
  grace is over, unless that never is.
-/
structure Drain where
  found : List Nat
  due : Option Rat
deriving DecidableEq, Repr

namespace Drain

/- When a grace is over; less than no grace is none. -/
def dueAfter
    (clock : Rat) :
    Span → Option Rat
  | .seconds n => some (clock + Number.greater 0 n)
  | .endless => none

/- A drain that starts now. -/
def start
    (p : Pool κ)
    (clock : Rat)
    (grace : Span) : Drain where
  found := p.tracked.map (·.id)
  due := dueAfter clock grace

/- Whether the grace is over. -/
def isDue
    (d : Drain)
    (clock : Rat) : Bool :=
  d.due.any (· ≤ clock)

/- Whether the pool has heard of the ends of all jobs found. -/
def isOver
    (d : Drain)
    (p : Pool κ) : Bool :=
  d.found.all fun id => !p.isTracked id

/- Those of the jobs found that have not ended. -/
def left
    (d : Drain)
    (p : Pool κ) : List Nat :=
  d.found.filter p.isLive

end Drain

end GuildWarden.Pool
