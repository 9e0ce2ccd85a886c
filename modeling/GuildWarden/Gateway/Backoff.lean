import GuildWarden.Number.Binary64
import GuildWarden.Settings.Basic

/-
  This file defines the waiting times between two connections
  of a session. They are drawn below a bound that doubles with
  every failure, and never leave the interval from the floor
  to the ceiling.

  Key definitions include:
    * `Gateway.Backoff`
    * `Gateway.Backoff.draw`
    * `Gateway.Backoff.reset`
    * `Gateway.Backoff.noteActive`
-/

namespace GuildWarden.Gateway

open Number

/-
  The waiting times, in seconds. The exponent counts the draws
  since the last reset, up to a limit.
-/
structure Backoff where
  floor : Rat
  ceiling : Rat
  resetAfter : Rat
  exponent : Nat
  lastDraw : Rat
deriving DecidableEq, Repr

namespace Backoff

/- No rehearsal and no run lasts longer than this. -/
def forever : Rat :=
  (Nat.pow 10 400 : Nat)

/- A setting as an exact number of seconds. -/
def secondsOf
    (usual : Rat)
    (x : Number.Binary64) : Rat :=
  match x with
  | .nan => usual
  | .infinite negative => if negative then -forever else forever
  | x => (x.asWritten?).getD usual

/- The waiting times with the given bounds, at their start. -/
def ofBounds
    (floor ceiling resetAfter now : Rat) : Backoff where
  floor := greater 0 floor
  ceiling := greater (greater 0 floor) ceiling
  resetAfter := resetAfter
  exponent := 0
  lastDraw := now

/- The waiting times that the settings ask for. -/
def ofSettings
    (s : BackoffSettings)
    (now : Rat) : Backoff :=
  ofBounds (secondsOf 0 s.floor) (secondsOf 0 s.ceiling)
    (secondsOf forever s.resetAfter) now

/- The bound that is doubled; it is never zero. -/
def base
    (b : Backoff) : Rat :=
  greater b.floor (1 / 100)

/- The bound is doubled at most so many times. -/
def exponentLimit : Nat :=
  10

/- Start again. -/
def reset
    (b : Backoff)
    (now : Rat) : Backoff :=
  { b with exponent := 0, lastDraw := now }

/- The exponent of a draw; after a long silence it starts again. -/
def nextExponent
    (b : Backoff)
    (now : Rat) : Nat :=
  let isLong := 2048 * b.base < now - b.lastDraw
  min ((if isLong then 0 else b.exponent) + 1) exponentLimit

/-
  Draw a waiting time. The position tells where the draw falls
  between zero and its bound.
-/
def draw
    (b : Backoff)
    (now position : Rat) : Rat × Backoff :=
  let e := b.nextExponent now
  let drawn := position * (b.base * (Nat.pow 2 e : Nat))
  (lesser b.ceiling (greater b.floor drawn),
    { b with exponent := e, lastDraw := now })

/- A connection that was active long enough starts it again. -/
def noteActive
    (b : Backoff)
    (now seconds : Rat) : Backoff :=
  if b.resetAfter ≤ seconds then b.reset now else b

end Backoff

end GuildWarden.Gateway
