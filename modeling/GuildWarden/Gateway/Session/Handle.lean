import GuildWarden.Gateway.Address
import GuildWarden.Gateway.Decode
import GuildWarden.Gateway.Session.Outbound

/-
  This file defines what a session makes of a frame. A dispatch
  is taken in once: one whose number is not above the last
  number is dropped. Whatever comes of a frame is a session
  and, if the connection cannot go on, the failure.

  Key definitions include:
    * `Gateway.Session.takeIn`
    * `Gateway.Session.dispatchOnce`
    * `Gateway.Session.handle`
-/

namespace GuildWarden.Gateway.Session

/- What comes of a frame. -/
abbrev Handled :=
  Session × Option Cause

------------------------------------------------------------
-- Events
------------------------------------------------------------

/- The address under which a session wants to be resumed. -/
def resumeAddress
    (usual : Option String)
    (url : Payload) : Except Cause (Option String) :=
  if !url.isFilled then .ok usual
  else
    match url with
    | .text u => .ok (some (withParameters u))
    | _ => .error .notAMap

/- A new session starts; it is in full operation once it is hydrated. -/
def start
    (s : Session)
    (m : Moment)
    (r : Event.Ready) : Handled :=
  let s := { s with sessionId := some r.sessionId }
  match resumeAddress s.resumeUrl r.resumeUrl with
  | .error cause => (s, some cause)
  | .ok resumeUrl =>
    let s := { s with resumeUrl }.setStatus .identified
    let s := s.order (.queue (.ready r))
    if s.hydrates then
      ({ s with phase := .hydrating }.order (.hydrate r), none)
    else (s.markActive m.now, none)

/- Take an event in. -/
def takeIn
    (s : Session)
    (m : Moment)
    (e : Event) : Handled :=
  match e with
  | .ready r => s.start m r
  | .resumed =>
    let s := (s.setStatus .identified).order (.queue .resumed)
    (s.markActive m.now, none)
  | e => (s.order (.queue e), none)

------------------------------------------------------------
-- Dispatches
------------------------------------------------------------

/- Whether a number was seen before; it must compare with the last one. -/
def isReplayed
    (s : Session)
    (number : Payload) : Except Cause Bool :=
  match s.sequence with
  | none => .ok false
  | some last =>
    match number.atMost? last with
    | some isOld => .ok isOld
    | none => .error .badType

/- Take a dispatch in that was not seen before. -/
def dispatch
    (s : Session)
    (m : Moment)
    (frame : Payload) : Handled :=
  match Event.decode (frame.field "t") (frame.field "d") with
  | .error cause => (s, some cause)
  | .ok none => (s, none)
  | .ok (some e) => s.takeIn m e

/- Take a dispatch in unless its number was seen before. -/
def dispatchOnce
    (s : Session)
    (m : Moment)
    (frame : Payload) : Handled :=
  match frame.field "s" with
  | .null => s.dispatch m frame
  | number =>
    match s.isReplayed number with
    | .error cause => (s, some cause)
    | .ok true => (s, none)
    | .ok false => { s with sequence := some number }.dispatch m frame

------------------------------------------------------------
-- Frames
------------------------------------------------------------

/- The gateway acknowledged a heartbeat. -/
def acknowledge
    (s : Session)
    (now : Rat) : Session :=
  { s with awaitingAck := false, missed := 0, lastAck := some now }

/- The gateway asks for a heartbeat. -/
def answerBeat
    (s : Session)
    (m : Moment) : Handled :=
  match s.beat m with
  | .ok s => (s, none)
  | .error cause => (s, some cause)

/- The gateway does not know the session any more, or not now. -/
def rejected
    (s : Session)
    (resumable : Bool) : Handled :=
  (if resumable then s else s.invalidate,
    some (.transport "session invalidated by the gateway" none resumable))

/- What a session makes of a frame. -/
def handle
    (s : Session)
    (m : Moment)
    (frame : Payload) : Handled :=
  match kindOf? frame with
  | some .dispatch => s.dispatchOnce m frame
  | some .heartbeatAck => (s.acknowledge m.now, none)
  | some .heartbeat => s.answerBeat m
  | some .reconnect =>
    (s, some (.transport "server requested reconnect" none true))
  | some .invalidSession => s.rejected (frame.field "d").isFilled
  | _ => (s, none)

end GuildWarden.Gateway.Session
