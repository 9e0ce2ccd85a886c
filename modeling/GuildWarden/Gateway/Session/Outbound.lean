import GuildWarden.Gateway.Session.Basic

/-
  This file defines the frames that a session sends, and what
  becomes of sending when the socket is closed or fails.

  Key definitions include:
    * `Gateway.Session.identifyFrame`
    * `Gateway.Session.resumeFrame`
    * `Gateway.Session.heartbeatFrame`
    * `Gateway.Session.send`
-/

namespace GuildWarden.Gateway.Session

/- A frame of a kind. -/
def frameOf
    (op : Opcode)
    (data : Payload) : Payload :=
  .map [("op", .int op.number), ("d", data)]

/- How the bot presents itself to the gateway. -/
def properties : Payload :=
  .map
    [
      ("os", .text "linux"),
      ("browser", .text "modsbot"),
      ("device", .text "modsbot")
    ]

/- The frame that starts a new session. -/
def identifyFrame
    (s : Session) : Payload :=
  frameOf .identify <| .map
    [
      ("token", .text s.token),
      ("intents", .int s.intents),
      ("properties", properties)
    ]

/- A session id as a payload. -/
def idPayload
    (s : Session) : Payload :=
  match s.sessionId with
  | some id => .text id
  | none => .null

/- The frame that resumes a session. -/
def resumeFrame
    (s : Session) : Payload :=
  frameOf .resume <| .map
    [
      ("token", .text s.token),
      ("session_id", s.idPayload),
      ("seq", s.sequence.getD .null)
    ]

/- The frame of a heartbeat. -/
def heartbeatFrame
    (s : Session) : Payload :=
  frameOf .heartbeat (s.sequence.getD .null)

/- The failure of a session whose socket is not open. -/
def notOpen : Cause :=
  .transport "websocket is not open" none true

/- Send a frame. -/
def send
    (s : Session)
    (m : Moment)
    (frame : Payload) : Except Cause Session :=
  if !s.socketOpen then .error notOpen
  else
    match m.sendFailure with
    | some cause => .error cause
    | none => .ok (s.order (.send frame))

/- Start or resume a session. -/
def present
    (s : Session)
    (m : Moment)
    (resuming : Bool) : Except Cause Session :=
  s.send m (if resuming then s.resumeFrame else s.identifyFrame)

/- Send a heartbeat and wait for its acknowledgement. -/
def beat
    (s : Session)
    (m : Moment) : Except Cause Session := do
  return { ← s.send m s.heartbeatFrame with awaitingAck := true }

end GuildWarden.Gateway.Session
