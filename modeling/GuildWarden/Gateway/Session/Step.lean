import GuildWarden.Gateway.Session.Connection
import GuildWarden.Gateway.Session.Handle
import GuildWarden.Payload.Item

/-
  This file defines the steps of a session: what it does when
  it is told to connect or to close, when something that it
  asked for is done, when it receives something, and when time
  has passed.

  Key definitions include:
    * `Gateway.Session.connect`
    * `Gateway.Session.fetched`
    * `Gateway.Session.opened`
    * `Gateway.Session.receive`
    * `Gateway.Session.hydrated`
    * `Gateway.Session.tick`
    * `Gateway.Session.close`
-/

namespace GuildWarden.Gateway.Session

------------------------------------------------------------
-- From outside
------------------------------------------------------------

/- Connect until the session is closed or fails for good. -/
def connect
    (s : Session) : Session :=
  ({ s with closing := false }.setStatus .connecting).attempt

/- Close the session; a wait for the next attempt ends at once. -/
def close
    (s : Session) : Session :=
  if s.closing then s
  else
    let s := { s with closing := true }.closeSocket leaveCode
    match s.phase with
    | .waiting _ => s.finish none
    | _ => s

------------------------------------------------------------
-- Connecting
------------------------------------------------------------

/- The address of the gateway was fetched, or that failed. -/
def fetched
    (s : Session)
    (m : Moment)
    (result : Except Cause String) : Session :=
  match s.phase, result with
  | .fetching resuming, .ok url =>
    { s with gatewayUrl := some url }.openAt resuming url
  | .fetching _, .error cause => s.lose m cause
  | _, _ => s

/- A session waits so many seconds for the first frame. -/
def greetingTimeout : Rat :=
  30

/- The socket was opened, or that failed. -/
def opened
    (s : Session)
    (m : Moment)
    (result : Except Cause Unit) : Session :=
  match s.phase, result with
  | .opening resuming, .ok _ =>
    { s with
      socketOpen := true
      phase := .greeting resuming (m.now + greetingTimeout) }
  | .opening _, .error cause => s.lose m cause
  | _, _ => s

/- A length of time in milliseconds, as a length in seconds. -/
def spanOfMilliseconds
    (x : Number.Binary64) : Span :=
  match Span.ofBinary64 x with
  | .seconds n => .seconds (n / 1000)
  | .endless => .endless

/- The time between two heartbeats that the first frame gives. -/
def readInterval
    (frame : Payload) : Except Cause Span := do
  if !frame.isFilled || !isKind frame .hello then
    throw (.transport "first frame was not HELLO" none true)
  let data ← frame.item "d"
  let interval ← (← data.item "heartbeat_interval").toBinary64
  return spanOfMilliseconds interval

/- When a heartbeat is due after a part of the interval. -/
def nextBeat
    (now part : Rat) : Span → Option Rat
  | .seconds n => some (now + n * part)
  | .endless => none

/- Start the heartbeat, with its first beat somewhere in the interval. -/
def startHeartbeat
    (s : Session)
    (m : Moment)
    (interval : Span) : Session :=
  { s with
    interval := some interval
    awaitingAck := false
    missed := 0
    heartbeat := .due (nextBeat m.now m.jitter interval) }

/- The first frame of a connection. -/
def greet
    (s : Session)
    (m : Moment)
    (resuming : Bool)
    (frame : Payload) : Session :=
  match readInterval frame with
  | .error cause => s.leave m (some cause)
  | .ok interval =>
    let s := s.startHeartbeat m interval
    s.goOnOrLeave m (s.present m resuming)

------------------------------------------------------------
-- Receiving
------------------------------------------------------------

/- A frame while the session is listening. -/
def hear
    (s : Session)
    (m : Moment)
    (frame : Payload) : Session :=
  match s.handle m frame with
  | (s, some cause) => s.leave m (some cause)
  | (s, none) => if s.phase = .hydrating then s else s.goOn m

/- The connection failed while the session was receiving. -/
def receiveFailure
    (s : Session) :
    Inbound → Option Cause
  | .closed code => some (s.closeFailure code)
  | .failed cause => some cause
  | _ => none

/- Something was received. -/
def receive
    (s : Session)
    (m : Moment)
    (i : Inbound) : Session :=
  match s.phase, s.receiveFailure i, i with
  | .greeting _ _, some cause, _ => s.leave m (some cause)
  | .listening, some cause, _ => s.leave m (some cause)
  | .greeting resuming _, _, .frame p => s.greet m resuming p
  | .greeting resuming _, _, _ => s.greet m resuming .null
  | .listening, _, .frame p => s.hear m p
  | .listening, _, _ => s.goOn m
  | _, _, _ => s

/- What had to be done for a new session is done, or failed. -/
def hydrated
    (s : Session)
    (m : Moment)
    (result : Except Cause Unit) : Session :=
  match s.phase, result with
  | .hydrating, .ok _ => (s.markActive m.now).goOn m
  | .hydrating, .error cause => s.leave m (some cause)
  | _, _ => s

------------------------------------------------------------
-- Time
------------------------------------------------------------

/- So many unanswered heartbeats mean that the connection is dead. -/
def missedLimit : Nat :=
  2

/- Causes for which the heartbeat is given up without a word. -/
def isExpected : Cause → Bool
  | .transport _ _ _ => true
  | .connectionReset _ => true
  | .runtime _ => true
  | _ => false

/- Send the heartbeat that is due. -/
def sendDueBeat
    (s : Session)
    (m : Moment) : Session :=
  match s.beat m with
  | .ok t =>
    { t with heartbeat := .due (s.interval.bind (nextBeat m.now 1)) }
  | .error cause =>
    { s with
      heartbeat := if isExpected cause then .over else .broken cause }

/- A heartbeat is due; too many unanswered ones close the connection. -/
def pulse
    (s : Session)
    (m : Moment) : Session :=
  if !s.awaitingAck then s.sendDueBeat m
  else
    let s := { s with missed := s.missed + 1 }
    if missedLimit ≤ s.missed then
      { s with isDead := true, heartbeat := .over }.closeSocket resumeCode
    else s.sendDueBeat m

/- When the heartbeat is due. -/
def beatDue?
    (s : Session) : Option Rat :=
  match s.heartbeat with
  | .due t => t
  | _ => none

/- When the phase of the session runs out. -/
def phaseDue?
    (s : Session) : Option Rat :=
  match s.phase with
  | .greeting _ deadline => some deadline
  | .waiting t => some t
  | _ => none

/- The phase of the session has run out. -/
def runOut
    (s : Session)
    (m : Moment) : Session :=
  match s.phase with
  | .greeting _ _ => s.leave m (some .timedOut)
  | .waiting _ => s.attempt
  | _ => s

/- Time has passed: what is due is done, the heartbeat first. -/
def tick
    (s : Session)
    (m : Moment) : Session :=
  if s.beatDue?.any (· ≤ m.now) then s.pulse m
  else if s.phaseDue?.any (· ≤ m.now) then s.runOut m
  else s

end GuildWarden.Gateway.Session
