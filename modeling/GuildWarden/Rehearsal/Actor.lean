import GuildWarden.Rehearsal.Reply

/-
  This file defines how far a program gets in one turn: up to
  its end, to something that takes time, or to the point where
  it lets others go first.

  Key definitions include:
    * `Rehearsal.Timer`
    * `Rehearsal.Resumption`
    * `Rehearsal.Turn`
    * `Rehearsal.drive`
-/

namespace GuildWarden.Rehearsal

variable {ρ : Type}

/- A timer of a program; without a due time it never expires. -/
structure Timer where
  due : Option Rat
  expired : Bool
deriving DecidableEq, Repr

namespace Timer

/- The timer that starts now. -/
def start
    (clock : Rat) : Span → Timer
  | .seconds n => ⟨some (clock + n), false⟩
  | .endless => ⟨none, false⟩

/- When a timer that has not expired is due. -/
def next?
    (t : Timer) : Option Rat :=
  if t.expired then none else t.due

/- Whether the innermost timer has expired. -/
def innermostExpired : List Timer → Bool
  | t :: _ => t.expired
  | [] => false

/- The timers when those that are due have expired. -/
def expire
    (clock : Rat)
    (ts : List Timer) : List Timer :=
  ts.map fun t =>
    if t.due.any (· ≤ clock) then { t with expired := true } else t

/- Whether some timer that has not expired is due. -/
def anyDue
    (clock : Rat)
    (ts : List Timer) : Bool :=
  ts.any fun t => t.next?.any (· ≤ clock)

end Timer

/- How a program goes on, and how it goes on when it is cancelled. -/
structure Resumption (ρ : Type) where
  go : World → Program ρ × World
  cancelled : Program ρ

namespace Resumption

/- Go on with a program. -/
def ofProgram
    (p : Program ρ) : Resumption ρ where
  go w := (p, w)
  cancelled := .fail .cancelled

/- Go on with an answer, or with being cancelled. -/
def ofAnswer
    {α : Type}
    (next : Except Cause α → Program ρ)
    (answer : World → Except Cause α × World) : Resumption ρ where
  go w :=
    let (a, w) := answer w
    (next a, w)
  cancelled := next (.error .cancelled)

end Resumption

/-
  Where a turn of a program ends. A program that yields goes
  on after others that are ready, several times over; one that
  sleeps goes on at a time, or never; one that waits for the
  store goes on when that is unlocked.
-/
inductive Turn (ρ : Type) where
  | ended (result : Except Cause ρ)
  | yielding (rounds : Nat) (r : Resumption ρ)
  | asleep (due : Option Rat) (r : Resumption ρ)
  | locked (r : Resumption ρ)

/- A turn with the timers and the world after it. -/
structure Progress (ρ : Type) where
  turn : Turn ρ
  timers : List Timer
  world : World

/- Run a program up to the end of its turn. -/
def drive : Program ρ → List Timer → World → Progress ρ
  | .done a, ts, w => ⟨.ended (.ok a), ts, w⟩
  | .fail cause, ts, w => ⟨.ended (.error cause), ts, w⟩
  | .access change next, ts, w =>
    drive (next w.memory) ts { w with memory := change w.memory }
  | .ask (.startTimer span) next, ts, w =>
    ⟨.yielding 0 (.ofAnswer next fun w => (.ok (), w)),
      .start w.clock span :: ts, w⟩
  | .ask .stopTimer next, ts, w =>
    let expired := Timer.innermostExpired ts
    ⟨.yielding 1 (.ofAnswer next fun w => (.ok expired, w)), ts.tail, w⟩
  | .ask .lockStore next, ts, w =>
    if w.storeLocked then
      ⟨.locked (.ofAnswer next fun w =>
        (.ok (), { w with storeLocked := true })), ts, w⟩
    else drive (next (.ok ())) ts { w with storeLocked := true }
  | .ask .unlockStore next, ts, w =>
    drive (next (.ok ())) ts { w with storeLocked := false }
  | .ask r next, ts, w =>
    match w.reply r with
    | .atOnce answer w => drive (next answer) ts w
    | .nextTurn answer w =>
      ⟨.yielding 0 (.ofAnswer next fun w => (answer, w)), ts, w⟩
    | .after delay complete w =>
      ⟨.asleep (some (w.clock + delay)) (.ofAnswer next complete), ts, w⟩
    | .never w =>
      ⟨.asleep none (.ofAnswer next fun w => (.error .cancelled, w)), ts, w⟩

end GuildWarden.Rehearsal
