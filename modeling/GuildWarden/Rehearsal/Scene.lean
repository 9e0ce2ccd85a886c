import GuildWarden.Bot.Basic
import GuildWarden.Rehearsal.Reader
import GuildWarden.Rehearsal.Stage

/-
  This file defines the scene of a rehearsal: a session with
  its scripted sockets, and the stage on which jobs run beside
  it. The session plays alone, or with a dispatcher that takes
  its events.

  Key definitions include:
    * `Rehearsal.Scene`
    * `Rehearsal.Scene.obey`
    * `Rehearsal.Scene.step`
    * `Rehearsal.Scene.runUntil`
-/

namespace GuildWarden.Rehearsal

open Gateway Program

/- What an actor of a scene answers: an address, or nothing. -/
abbrev Answer :=
  Option String

/-
  A scene. Without a dispatcher the session plays alone: its
  events are counted, and its preparations are scripted. A
  stop is due at a time; it was asked for when that has come
  or when there are no more sockets.
-/
structure Scene where
  stage : Stage Dispatcher.Key Answer
  session : Session
  sockets : List Socket
  line : Option Line
  jitter : Rat
  position : Rat
  hooks : List Hook
  dispatcher : Option Dispatcher
  isListening : Bool
  events : List Event
  fetching : Option ActorId
  hydrating : Option ActorId
  stopDue : Option Rat
  isStopped : Bool

namespace Scene

------------------------------------------------------------
-- Parts
------------------------------------------------------------

/- The scene of a session that plays alone, at its start. -/
def ofSession
    (script : Script)
    (w : World)
    (s : Session) : Scene where
  stage := Stage.ofWorld w
  session := s
  sockets := script.sockets
  line := none
  jitter := script.jitter
  position := script.position
  hooks := script.hooks
  dispatcher := none
  isListening := false
  events := []
  fetching := none
  hydrating := none
  stopDue := script.stopDue
  isStopped := false

/- The world of a scene. -/
def world
    (sc : Scene) : World :=
  sc.stage.world

/- The time in a scene. -/
def clock
    (sc : Scene) : Rat :=
  sc.world.clock

/- Change the world. -/
def onWorld
    (sc : Scene)
    (f : World → World) : Scene :=
  { sc with stage := sc.stage.onWorld f }

/- Record that something happened. -/
def record
    (sc : Scene)
    (h : Happening) : Scene :=
  sc.onWorld (·.record h)

/- Whether the session plays alone. -/
def isAlone
    (sc : Scene) : Bool :=
  sc.dispatcher.isNone

/- The circumstances of a step of the session. -/
def moment
    (sc : Scene) : Moment where
  now := sc.clock
  jitter := sc.jitter
  position := sc.position
  sendFailure := sc.line.bind Line.failure?

/- Let the session make a step. -/
def onSession
    (sc : Scene)
    (f : Session → Moment → Session) : Scene :=
  { sc with session := f sc.session sc.moment }

/- Ask for the end: a session that plays alone is closed. -/
def stop
    (sc : Scene) : Scene :=
  if sc.isAlone then sc.onSession fun s _ => s.close
  else { sc with isStopped := true }

------------------------------------------------------------
-- Orders
------------------------------------------------------------

/- A program that takes a time and ends with a result. -/
def delayed
    (delay : Rat)
    (result : Except Cause Answer) : Program Answer := do
  if 0 < delay then request (.pause (.seconds delay))
  settle result

/- The usual address for a session that plays alone. -/
def usualAddress : String :=
  withParameters "wss://gateway.test"

/- The result of asking for the address, as a rule says. -/
def addressFrom : Response → Except Cause Answer
  | .address url => .ok (some url)
  | r =>
    match r.refusal? with
    | some cause => .error cause
    | none => .ok (some usualAddress)

/- Ask for the address of the gateway. -/
def fetch
    (sc : Scene) : Scene :=
  let (p, sc) :=
    if sc.isAlone then
      let sc := sc.record .addressFetched
      let (rule, w) := sc.world.take "GET /gateway/bot"
      let response := (rule.map Rule.response).getD .usual
      let delay := (rule.map Rule.delay).getD 0
      (delayed delay (addressFrom response), sc.onWorld fun _ => w)
    else
      (do return some (← Platform.gatewayAddress), sc)
  let (id, stage) := sc.stage.enter .program p
  { sc with stage, fetching := some id }

/- Prepare for a new session. -/
def hydrate
    (sc : Scene)
    (r : Event.Ready) : Scene :=
  let (p, sc) :=
    if sc.isAlone then
      let sc := sc.record (.greeted r.sessionId)
      let hook := sc.hooks.head?.getD .usual
      let result :=
        match hook.failure with
        | some cause => .error cause
        | none => .ok none
      (delayed hook.delay result, { sc with hooks := sc.hooks.tail })
    else
      (do
        Bot.hydrate
        return none, sc)
  let (id, stage) := sc.stage.enter .program p
  { sc with stage, hydrating := some id }

/- There are no more sockets. -/
def noSocket : Cause :=
  .system "no more sockets"

/- Open a socket. -/
def openSocket
    (sc : Scene)
    (url : String) : Scene :=
  let sc := sc.record (.socketOpened url)
  match sc.sockets with
  | [] => sc.stop.onSession fun s m => s.opened m (.error noSocket)
  | socket :: sockets =>
    let sc := { sc with sockets }
    match socket.failure with
    | some cause => sc.onSession fun s m => s.opened m (.error cause)
    | none =>
      { sc with line := some (.ofSocket socket sc.clock) }.onSession
        fun s m => s.opened m (.ok ())

/- Do what the session orders. -/
def obey
    (sc : Scene) :
    Order → Scene
  | .status s => sc.record (.statusChanged s)
  | .queue e =>
    let sc := if sc.isAlone then sc.record (.eventQueued e) else sc
    { sc with events := sc.events ++ [e] }
  | .hydrate r => sc.hydrate r
  | .fetch => sc.fetch
  | .openSocket url => sc.openSocket url
  | .send frame =>
    let sc := sc.record (.frameSent frame)
    { sc with line := sc.line.map fun l => l.accept sc.clock frame }
  | .closeSocket code =>
    let sc := sc.record (.socketClosed code)
    { sc with line := sc.line.map fun l => l.close (some code) }

/- Do all that the session has ordered so far. -/
def obeyAll
    (sc : Scene) : Scene :=
  let (orders, session) := sc.session.takeOrders
  orders.foldl obey { sc with session }

------------------------------------------------------------
-- Receiving
------------------------------------------------------------

/- Whether the session waits for something to receive. -/
def isReceiving
    (sc : Scene) : Bool :=
  match sc.session.phase with
  | .greeting _ _ => true
  | .listening => true
  | _ => false

/- What the session receives now. -/
def received?
    (sc : Scene) : Option (Received × Line) :=
  if sc.isReceiving then sc.line.bind fun l => l.receive? sc.clock
  else none

/- Give the session what it receives; it sees whether the line is closed. -/
def give
    (sc : Scene)
    (r : Received)
    (l : Line) : Scene :=
  let sc := { sc with line := some l }
  match r with
  | .farewell => sc.onSession fun s _ => s.close
  | .inbound i =>
    sc.onSession fun s m =>
      let s := if l.isClosed then { s with socketOpen := false } else s
      s.receive m i

------------------------------------------------------------
-- Events
------------------------------------------------------------

/- A program of a job, for an actor of a scene. -/
def asAnswer
    (p : Program Unit) : Program Answer := do
  p
  return none

/- Hand an event to the dispatcher; its job goes to the pool. -/
def dispatch
    (sc : Scene)
    (e : Event) : Scene :=
  match sc.dispatcher with
  | none => sc
  | some d =>
    let w := sc.world
    let t := d.take (World.epoch + w.clock) w.memory e
    let sc := sc.onWorld fun w => { w with memory := t.memory }
    let sc := { sc with dispatcher := some t.dispatcher }
    match t.job with
    | none => sc
    | some job =>
      let stage := (sc.stage.submit job.key (asAnswer job.program)).2
      { sc with stage }

/- Hand all events that wait to the dispatcher. -/
def dispatchAll
    (sc : Scene) : Scene :=
  sc.events.foldl dispatch { sc with events := [] }

------------------------------------------------------------
-- Steps
------------------------------------------------------------

/- Whether the session has something to do at a time. -/
def isDue
    (sc : Scene)
    (t : Option Rat) : Bool :=
  t.any (· ≤ sc.clock)

/- The result of an actor that the session waits for. -/
def resultOf?
    (sc : Scene)
    (id : Option ActorId) : Option (Except Cause Answer) :=
  id.bind sc.stage.result?

/- Remove an actor whose result was taken. -/
def dismiss
    (sc : Scene)
    (id : Option ActorId) : Scene :=
  match id with
  | some id => { sc with stage := sc.stage.remove id }
  | none => sc

/- The address of the gateway was fetched. -/
def endFetch
    (sc : Scene)
    (result : Except Cause Answer) : Scene :=
  let sc := { sc.dismiss sc.fetching with fetching := none }
  sc.onSession fun s m => s.fetched m (result.map fun url => url.getD "")

/- The preparations for a new session have ended. -/
def endHydrate
    (sc : Scene)
    (result : Except Cause Answer) : Scene :=
  let sc := { sc.dismiss sc.hydrating with hydrating := none }
  sc.onSession fun s m => s.hydrated m (result.map fun _ => ())

/-
  Something that can be done at this moment: the session goes
  first, then what is due for it, then the dispatcher and the
  actors. A stop that is due comes last.
-/
def step
    (sc : Scene) : Option Scene :=
  if !sc.session.outbox.isEmpty then some sc.obeyAll
  else if let some result := sc.resultOf? sc.fetching then
    some (sc.endFetch result)
  else if let some result := sc.resultOf? sc.hydrating then
    some (sc.endHydrate result)
  else if let some (r, l) := sc.received? then some (sc.give r l)
  else if sc.isDue sc.session.beatDue? || sc.isDue sc.session.phaseDue? then
    some (sc.onSession fun s m => s.tick m)
  else if sc.isListening && !sc.events.isEmpty then some sc.dispatchAll
  else if !sc.stage.queue.isEmpty then
    some { sc with stage := sc.stage.settle }
  else if sc.isDue sc.stopDue then some { sc with stopDue := none }.stop
  else none

------------------------------------------------------------
-- Time
------------------------------------------------------------

/- When the session has something to receive. -/
def lineDue?
    (sc : Scene) : Option Rat :=
  if sc.isReceiving then sc.line.bind Line.due? else none

/- The next moment at which something is due. -/
def nextDue
    (sc : Scene) : Option Rat :=
  [sc.lineDue?, sc.session.beatDue?, sc.session.phaseDue?, sc.stopDue].foldl
    Actor.earlier sc.stage.nextDue

/- Set the clock and wake the actors for whom something is due. -/
def jump
    (sc : Scene)
    (t : Rat) : Scene :=
  { sc with stage := sc.stage.jump t }

/-
  Let things happen until a condition holds, or up to a limit.
  Without a limit it also ends when nothing is due any more.
-/
def letPass
    (done : Scene → Bool)
    (limit : Option Rat) :
    Nat → Scene → Scene
  | 0, sc => sc
  | fuel + 1, sc =>
    if done sc then sc
    else
      match sc.step, sc.nextDue with
      | some sc, _ => letPass done limit fuel sc
      | none, none => { sc with stage := sc.stage.reach limit }
      | none, some t =>
        if limit.any (· < t) then { sc with stage := sc.stage.reach limit }
        else letPass done limit fuel (sc.jump t)

/- Let things happen until a condition holds, or up to a limit. -/
def runUntil
    (sc : Scene)
    (done : Scene → Bool)
    (limit : Option Rat) : Scene :=
  letPass done limit Stage.patience sc

end Scene

end GuildWarden.Rehearsal
