import GuildWarden.Cause
import GuildWarden.Payload.Order
import GuildWarden.Payload.Reader
import GuildWarden.Text.Utf8

/-
  This file defines what a session receives from the gateway:
  frames, messages that hold no frame, the end of a connection
  and failures of receiving. It also names the kinds of frames
  and the codes with which a connection is closed.

  Key definitions include:
    * `Gateway.Opcode`
    * `Gateway.Inbound`
    * `Gateway.Inbound.ofText`
    * `Gateway.Inbound.ofOctets`
    * `Gateway.isFatalCode`
    * `Gateway.endsSession`
-/

namespace GuildWarden.Gateway

------------------------------------------------------------
-- Kinds of frames
------------------------------------------------------------

/- The kinds of frames that a session knows. -/
inductive Opcode where
  | dispatch
  | heartbeat
  | identify
  | resume
  | reconnect
  | invalidSession
  | hello
  | heartbeatAck
deriving DecidableEq, Repr

namespace Opcode

/- The number of a kind. -/
def number : Opcode → Int
  | .dispatch => 0
  | .heartbeat => 1
  | .identify => 2
  | .resume => 6
  | .reconnect => 7
  | .invalidSession => 9
  | .hello => 10
  | .heartbeatAck => 11

/- The kinds that a listening session reacts to. -/
def heard : List Opcode :=
  [.dispatch, .heartbeatAck, .heartbeat, .reconnect, .invalidSession]

end Opcode

------------------------------------------------------------
-- Codes
------------------------------------------------------------

/- Codes after which no connection can succeed. -/
def isFatalCode
    (code : Int) : Bool :=
  [4004, 4010, 4011, 4012, 4013, 4014].contains code

/- Codes after which the session cannot be resumed. -/
def endsSession
    (code : Int) : Bool :=
  [4007, 4009].contains code

/- The code with which the bot leaves for good. -/
def leaveCode : Int :=
  1000

/- The code with which the bot leaves to come back. -/
def resumeCode : Int :=
  4000

------------------------------------------------------------
-- Messages
------------------------------------------------------------

/- What a session receives. -/
inductive Inbound where
  | frame (p : Payload)
  | nothing
  | closed (code : Option Int)
  | failed (cause : Cause)
deriving BEq, Repr

namespace Inbound

/- The frame in a text; only a map is a frame. -/
def ofText
    (cs : List Char) : Inbound :=
  match Payload.read? cs with
  | some (.map fs) => .frame (.map fs)
  | _ => .nothing

/- The frame in octets. -/
def ofOctets
    (bs : List Nat) : Inbound :=
  ofText (Utf8.decodeLossy bs)

end Inbound

/- Whether a frame is of a kind. -/
def isKind
    (p : Payload)
    (op : Opcode) : Bool :=
  (p.field "op").same (.int op.number)

/- The kind of a frame, if the session reacts to it. -/
def kindOf?
    (p : Payload) : Option Opcode :=
  Opcode.heard.find? (isKind p)

end GuildWarden.Gateway
