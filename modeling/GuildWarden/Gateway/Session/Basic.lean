import GuildWarden.Effect.Program
import GuildWarden.Gateway.Backoff
import GuildWarden.Gateway.Event
import GuildWarden.Gateway.Inbound

/-
  This file defines a gateway session: what it keeps across
  connections, how far the current connection has come, and
  what it asks for. A session changes only by the steps of
  `Session.receive` and its companions; the things to be done
  outside are collected in its outbox.

  Key definitions include:
    * `Gateway.Status`
    * `Gateway.Phase`
    * `Gateway.Order`
    * `Gateway.Moment`
    * `Gateway.Session`
    * `Gateway.Session.canResume`
    * `Gateway.Session.setStatus`
-/

namespace GuildWarden.Gateway

------------------------------------------------------------
-- Parts
------------------------------------------------------------

/-
  How far a session has come. An attempt to connect remembers
  whether it is going to resume. A session that has ended
  remembers the failure that ended it, if there was one.
-/
inductive Phase where
  | idle
  | fetching (resuming : Bool)
  | opening (resuming : Bool)
  | greeting (resuming : Bool) (deadline : Rat)
  | listening
  | hydrating
  | waiting (until_ : Rat)
  | ended (failure : Option Cause)
deriving DecidableEq, Repr

/-
  The heartbeat: silent, due at a time, given up, or broken by
  a failure that nobody expects.
-/
inductive Heartbeat where
  | silent
  | due (t : Option Rat)
  | over
  | broken (cause : Cause)
deriving DecidableEq, Repr

/- The status of a session, as it is seen from outside. -/
inductive Status where
  | disconnected
  | connecting
  | identified
  | active
  | reconnecting
deriving DecidableEq, Repr

/- The name of a status. -/
def Status.name : Status → String
  | .disconnected => "disconnected"
  | .connecting => "connecting"
  | .identified => "identified"
  | .active => "active"
  | .reconnecting => "reconnecting"

/- Something to be done outside. -/
inductive Order where
  | status (s : Status)
  | queue (e : Event)
  | hydrate (r : Event.Ready)
  | fetch
  | openSocket (url : String)
  | send (frame : Payload)
  | closeSocket (code : Int)
deriving BEq, Repr

/-
  The circumstances of a step: the time in seconds, where the
  draws for the first heartbeat and for the waiting time fall
  between zero and one, and whether sending fails.
-/
structure Moment where
  now : Rat
  jitter : Rat
  position : Rat
  sendFailure : Option Cause

------------------------------------------------------------
-- Sessions
------------------------------------------------------------

/- A gateway session. -/
structure Session where
  token : String
  intents : Int
  hydrates : Bool
  status : Status
  phase : Phase
  sessionId : Option String
  sequence : Option Payload
  resumeUrl : Option String
  gatewayUrl : Option String
  backoff : Backoff
  activeSince : Option Rat
  interval : Option Span
  heartbeat : Heartbeat
  awaitingAck : Bool
  missed : Nat
  isDead : Bool
  lastAck : Option Rat
  socketOpen : Bool
  closing : Bool
  outbox : List Order
deriving BEq, Repr

namespace Session

/- A session that has never been connected. -/
def new
    (token : String)
    (intents : Int)
    (hydrates : Bool)
    (backoff : Backoff) : Session where
  token := token
  intents := intents
  hydrates := hydrates
  status := .disconnected
  phase := .idle
  sessionId := none
  sequence := none
  resumeUrl := none
  gatewayUrl := none
  backoff := backoff
  activeSince := none
  interval := none
  heartbeat := .silent
  awaitingAck := false
  missed := 0
  isDead := false
  lastAck := none
  socketOpen := false
  closing := false
  outbox := []

/- Whether there is a session to resume. -/
def canResume
    (s : Session) : Bool :=
  s.sessionId.isSome && s.sequence.isSome

/- Whether a session has ended. -/
def hasEnded
    (s : Session) : Bool :=
  match s.phase with
  | .ended _ => true
  | _ => false

/- Ask for something to be done outside. -/
def order
    (s : Session)
    (o : Order) : Session :=
  { s with outbox := s.outbox ++ [o] }

/- The orders so far, and the session without them. -/
def takeOrders
    (s : Session) : List Order × Session :=
  (s.outbox, { s with outbox := [] })

/- Change the status; the same status is no change. -/
def setStatus
    (s : Session)
    (status : Status) : Session :=
  if s.status = status then s
  else { s with status }.order (.status status)

/- Close the socket unless it is closed. -/
def closeSocket
    (s : Session)
    (code : Int) : Session :=
  if s.socketOpen then
    { s with socketOpen := false }.order (.closeSocket code)
  else s

/- Forget the session, so that the next connection starts a new one. -/
def invalidate
    (s : Session) : Session :=
  { s with sessionId := none, sequence := none, resumeUrl := none }

/- The session is in full operation. -/
def markActive
    (s : Session)
    (now : Rat) : Session :=
  { s with activeSince := some now }.setStatus .active

end Session

end GuildWarden.Gateway
