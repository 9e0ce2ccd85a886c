import GuildWarden.Effect.Program
import GuildWarden.Gateway.Session.Basic
import GuildWarden.Rehearsal.Script
import GuildWarden.Store.Connection

/-
  This file defines the world of a rehearsal: a clock, a
  script, the file of the store, the memory of the bot, and a
  record of what happened.

  Key definitions include:
    * `Rehearsal.Happening`
    * `Rehearsal.World`
    * `Rehearsal.World.record`
    * `Rehearsal.World.take`
-/

namespace GuildWarden.Rehearsal

/- Something that happened between the bot and the outside. -/
inductive Happening where
  | call (c : Platform.Call)
  | login (token : String)
  | platformClosed
  | serviceOpened (userAgent : String) (timeout : Number.Binary64)
  | serviceCall (c : Web.Call)
  | serviceClosed
  | addressFetched
  | socketOpened (url : String)
  | frameSent (frame : Payload)
  | socketClosed (code : Int)
  | statusChanged (s : Gateway.Status)
  | eventQueued (e : Event)
  | greeted (sessionId : String)
  | noted (n : Note)
deriving BEq, Repr

/- When something happened, and in which job. -/
structure Entry where
  time : Rat
  job : Option Nat
  what : Happening
deriving BEq, Repr

/-
  The world of a rehearsal. Times are in seconds since its
  start; the record is kept newest first.
-/
structure World where
  clock : Rat
  rules : List Rule
  faults : List Fault
  nextMessageId : Int
  file : Store.Tables
  isFileUsable : Bool
  connection : Option Store.Connection
  storeLocked : Bool
  memory : Memory
  job : Option Nat
  entries : List Entry

namespace World

/- A world at the start, with an empty file. -/
def start
    (rules : List Rule)
    (firstMessageId : Int) : World where
  clock := 0
  rules := rules
  faults := []
  nextMessageId := firstMessageId
  file := Store.Tables.blank
  isFileUsable := true
  connection := none
  storeLocked := false
  memory := Memory.empty
  job := none
  entries := []

/- The time on the wall when the clock shows zero. -/
def epoch : Rat :=
  1704110400

/- A length of time in whole milliseconds. -/
def milliseconds
    (t : Rat) : Int :=
  let n := t * 1000
  let m := Number.roundHalfEven n.num.natAbs n.den
  if n < 0 then -(m : Int) else m

/- Record that something happened. -/
def record
    (w : World)
    (h : Happening) : World :=
  { w with entries := ⟨w.clock, w.job, h⟩ :: w.entries }

/- The record so far, oldest first, and the world without it. -/
def takeEntries
    (w : World) : List Entry × World :=
  (w.entries.reverse, { w with entries := [] })

/- Change the memory of the bot. -/
def onMemory
    (w : World)
    (f : Memory → Memory) : World :=
  { w with memory := f w.memory }

/- The rule for a call, used up by one. -/
def take
    (w : World)
    (name : String) : Option Rule × World :=
  let (r, rest) := takeRule name w.rules
  (r, { w with rules := rest })

end World

end GuildWarden.Rehearsal
