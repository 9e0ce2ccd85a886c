import GuildWarden.Gateway.Address
import GuildWarden.Gateway.Session.Outbound

/-
  This file defines how a session connects and what it does
  when a connection is lost: it waits and connects again,
  gives up, or ends because it was asked to.

  Key definitions include:
    * `Gateway.Session.attempt`
    * `Gateway.Session.finish`
    * `Gateway.Session.lose`
    * `Gateway.Session.leave`
-/

namespace GuildWarden.Gateway.Session

------------------------------------------------------------
-- Connecting
------------------------------------------------------------

/- Open a socket. -/
def openAt
    (s : Session)
    (resuming : Bool)
    (url : String) : Session :=
  { s with phase := .opening resuming, isDead := false }.order
    (.openSocket url)

/- Open a socket at the address of the gateway, once it is known. -/
def openGateway
    (s : Session)
    (resuming : Bool) : Session :=
  match s.gatewayUrl with
  | some url => s.openAt resuming url
  | none => { s with phase := .fetching resuming }.order .fetch

/- Try to connect; a session is resumed where it wants to be. -/
def attempt
    (s : Session) : Session :=
  if s.canResume then
    match s.resumeUrl with
    | some url => s.openAt true url
    | none => s.openGateway true
  else (s.setStatus .connecting).openGateway false

------------------------------------------------------------
-- Ending
------------------------------------------------------------

/- End, with or without a failure. -/
def finish
    (s : Session)
    (failure : Option Cause) : Session :=
  { (s.closeSocket leaveCode) with
    activeSince := none
    phase := .ended failure }.setStatus .disconnected

/- Account for the time in which the session was active. -/
def accountActive
    (s : Session)
    (now : Rat) : Session :=
  match s.activeSince with
  | some t =>
    { s with
      backoff := s.backoff.noteActive now (now - t)
      activeSince := none }
  | none => s

/- Wait before the next attempt. -/
def wait
    (s : Session)
    (m : Moment) : Session :=
  let s := (s.setStatus .reconnecting).accountActive m.now
  let (delay, backoff) := s.backoff.draw m.now m.position
  { s with backoff, phase := .waiting (m.now + delay) }

/- The platform does not accept the token. -/
def tokenRejected : Cause :=
  .fatalGateway "gateway URL request rejected the token" none

/-
  A connection was lost. Trouble on the way leads to another
  attempt, unless the session is being closed; everything else
  ends the session.
-/
def lose
    (s : Session)
    (m : Moment)
    (cause : Cause) : Session :=
  match cause with
  | .transport _ _ resumable =>
    if s.closing then s.finish none
    else (if resumable then s else s.invalidate).wait m
  | .refused status =>
    if status = 401 then s.finish (some tokenRejected)
    else if s.closing then s.finish none
    else s.wait m
  | _ =>
    if !cause.isLinkTrouble then s.finish (some cause)
    else if s.closing then s.finish none
    else s.wait m

/-
  Leave a connection because of a failure, or because the
  session is being closed. A heartbeat that broke fails in
  place of the connection.
-/
def leave
    (s : Session)
    (m : Moment)
    (failure : Option Cause) : Session :=
  match s.heartbeat with
  | .broken cause => { s with heartbeat := .silent }.lose m cause
  | _ =>
    let s := { s with heartbeat := .silent }.closeSocket resumeCode
    match failure with
    | some cause => s.lose m cause
    | none => s.finish none

/- Go on listening, unless the session is being closed. -/
def goOn
    (s : Session)
    (m : Moment) : Session :=
  if s.closing then s.leave m none else { s with phase := .listening }

/- Go on if a step succeeded, and leave if it failed. -/
def goOnOrLeave
    (s : Session)
    (m : Moment) :
    Except Cause Session → Session
  | .ok t => t.goOn m
  | .error cause => s.leave m (some cause)

/- The failure of a connection that was closed with a code. -/
def closeFailure
    (s : Session)
    (code : Option Int) : Cause :=
  if s.isDead then .transport "heartbeat ACK missed" code true
  else
    match code with
    | some n =>
      if isFatalCode n then
        .fatalGateway
          ("gateway closed the session with code " ++ Number.decimal n)
          code
      else if endsSession n then
        .transport "session can no longer be resumed" code false
      else .transport "websocket closed" code true
    | none => .transport "websocket closed" code true

end GuildWarden.Gateway.Session
