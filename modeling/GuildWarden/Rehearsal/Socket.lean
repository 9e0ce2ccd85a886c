import GuildWarden.Gateway.Inbound

/-
  This file defines the sockets of a rehearsal: what a script
  says about a socket, and a socket that was opened, with the
  messages that are still to come.

  Key definitions include:
    * `Rehearsal.Socket`
    * `Rehearsal.Line`
    * `Rehearsal.Line.receive?`
    * `Rehearsal.Line.accept`
-/

namespace GuildWarden.Rehearsal

open Gateway

------------------------------------------------------------
-- Scripts
------------------------------------------------------------

/-
  What comes out of a socket: something for the session to
  receive, a signal that the connection ends with a code, a
  message without content that tells a code, the loss of the
  connection, or a moment at which the session is told to
  close.
-/
inductive Delivery where
  | message (i : Inbound)
  | signal (code : Option Int)
  | ping (code : Option Int)
  | loss (code : Option Int)
  | farewell
deriving BEq, Repr

/-
  A scripted socket. Its deliveries have times in seconds
  since the opening. Heartbeats are acknowledged after a time,
  if at all, and a number of frames can be sent before sending
  fails.
-/
structure Socket where
  failure : Option Cause
  deliveries : List (Rat × Delivery)
  ackAfter : Option Rat
  sends : Option Nat
  sendFailure : Cause
deriving BEq, Repr

------------------------------------------------------------
-- Open sockets
------------------------------------------------------------

/- An open socket; the times are those of the clock. -/
structure Line where
  deliveries : List (Rat × Delivery)
  acks : List Rat
  ackAfter : Option Rat
  sends : Option Nat
  sendFailure : Cause
  isClosed : Bool
  closeCode : Option Int
deriving BEq, Repr

/- What the session gets from a socket. -/
inductive Received where
  | inbound (i : Inbound)
  | farewell
deriving BEq, Repr

namespace Line

/- The line of a socket that is opened at a time. -/
def ofSocket
    (s : Socket)
    (clock : Rat) : Line where
  deliveries := s.deliveries.map fun d => (clock + d.1, d.2)
  acks := []
  ackAfter := s.ackAfter
  sends := s.sends
  sendFailure := s.sendFailure
  isClosed := false
  closeCode := none

/- Close a line with a code. -/
def close
    (l : Line)
    (code : Option Int) : Line :=
  { l with isClosed := true, closeCode := code }

/- The acknowledgement of a heartbeat. -/
def ackFrame : Payload :=
  .map [("op", .int Opcode.heartbeatAck.number)]

/- What a delivery brings, and the line after it. -/
def deliver
    (l : Line) :
    Delivery → Received × Line
  | .message i => (.inbound i, l)
  | .signal code =>
    (.inbound (.closed code), { l with closeCode := code })
  | .ping code => (.inbound .nothing, { l with closeCode := code })
  | .loss code => (.inbound (.closed code), l.close code)
  | .farewell => (.farewell, l)

/- When the next delivery and the next acknowledgement come. -/
def nextTimes
    (l : Line) : Option Rat × Option Rat :=
  (l.deliveries.head?.map (·.1), l.acks.head?)

/- Whether the next delivery comes before the next acknowledgement. -/
def deliversFirst : Option Rat × Option Rat → Bool
  | (some d, some a) => d ≤ a
  | (some _, none) => true
  | (none, _) => false

/- When something can be received from an open line. -/
def due?
    (l : Line) : Option Rat :=
  if deliversFirst l.nextTimes then l.nextTimes.1 else l.nextTimes.2

/- What is received at a time, and the line after it. -/
def receive?
    (l : Line)
    (clock : Rat) : Option (Received × Line) :=
  if l.isClosed then some (.inbound (.closed l.closeCode), l)
  else if !l.due?.any (· ≤ clock) then none
  else if deliversFirst l.nextTimes then
    match l.deliveries with
    | d :: ds => some ({ l with deliveries := ds }.deliver d.2)
    | [] => none
  else
    some (.inbound (.frame ackFrame), { l with acks := l.acks.tail })

/- Whether sending fails. -/
def failure?
    (l : Line) : Option Cause :=
  if l.sends = some 0 then some l.sendFailure else none

/- Accept a frame; a heartbeat may be acknowledged later. -/
def accept
    (l : Line)
    (clock : Rat)
    (frame : Payload) : Line :=
  let l := { l with sends := l.sends.map (· - 1) }
  match isKind frame .heartbeat, l.ackAfter with
  | true, some delay => { l with acks := l.acks ++ [clock + delay] }
  | _, _ => l

end Line

end GuildWarden.Rehearsal
