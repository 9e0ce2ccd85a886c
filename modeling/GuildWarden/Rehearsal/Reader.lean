import GuildWarden.Payload.Display
import GuildWarden.Rehearsal.Socket
import GuildWarden.Rehearsal.World
import GuildWarden.Text.Escape

/-
  This file defines how a rehearsal is read from a payload:
  rules, faults, sockets, what becomes of the preparations for
  a new session, and when it is stopped.

  Key definitions include:
    * `Rehearsal.seconds`
    * `Rehearsal.Rule.ofPayload`
    * `Rehearsal.Socket.ofPayload`
    * `Rehearsal.Script`
    * `Rehearsal.Script.ofPayload`
    * `Rehearsal.Script.world`
-/

namespace GuildWarden.Rehearsal

------------------------------------------------------------
-- Numbers
------------------------------------------------------------

/- A number; what is none counts as zero. -/
def quantity : Payload → Rat
  | .int n => n
  | .bool b => if b then 1 else 0
  | .float x => x.toRat?.getD 0
  | _ => 0

/- A whole number, or nothing for null. -/
def wholeOf? : Payload → Option Int
  | .null => none
  | p => some (quantity p).floor

/- A number of milliseconds as a number of seconds. -/
def seconds
    (p : Payload) : Rat :=
  quantity p / 1000

/- A number of milliseconds that may be missing, in seconds. -/
def secondsOf? : Payload → Option Rat
  | .null => none
  | p => some (seconds p)

/- The octets that hexadecimal digits stand for. -/
def octetsOf : List Char → List Nat
  | a :: b :: cs =>
    ((Text.hexOctet? a b).getD 0) :: octetsOf cs
  | _ => []

------------------------------------------------------------
-- Rules
------------------------------------------------------------

/- The trouble of a name. -/
def Trouble.ofName : String → Trouble
  | "os" => .system
  | "client" => .web
  | "timeout" => .timeout
  | "value" => .value
  | "connection" => .connection
  | _ => .runtime

/- The failure that an entry names. -/
def causeAt?
    (p : Payload)
    (name : String) : Option Cause :=
  (p.field? name).map fun kind =>
    (Trouble.ofName kind.display).cause

/- The response that a rule describes. -/
def Response.ofPayload
    (p : Payload) : Response :=
  let status := (wholeOf? (p.field "status")).getD 200
  match p.field? "raise" with
  | some kind => .trouble (Trouble.ofName kind.display)
  | none =>
    if 400 ≤ status then .status status
    else
      match p.field? "text", p.field? "json", p.field? "url" with
      | some s, _, _ => .rawBody s.display
      | _, some answer, _ => .body answer
      | _, _, some link => .address link.display
      | _, _, _ => .usual

/- The rule that a map describes; a star at the end leaves the name open. -/
def Rule.ofPayload
    (p : Payload) : Rule :=
  let name := (p.field "match").display
  let isOpen := name.endsWith "*"
  {
    name := if isOpen then (name.dropEnd 1).copy else name
    isOpen
    uses := (wholeOf? (p.field "times")).getD 1
    delay := seconds (p.field "delay")
    response := Response.ofPayload p
  }

------------------------------------------------------------
-- Sockets
------------------------------------------------------------

/- The delivery of a type of messages. -/
def Delivery.ofType
    (code : Option Int) : String → Delivery
  | "ping" => .ping code
  | "drop" => .loss code
  | "call_close" => .farewell
  | _ => .signal code

/- The delivery that a map describes. -/
def Delivery.ofPayload
    (p : Payload) : Delivery :=
  match p.field? "type", p.field? "raise", p.field? "close" with
  | some kind, _, _ =>
    .ofType (wholeOf? (p.field "code")) kind.display
  | _, some kind, _ =>
    .message (.failed (Trouble.ofName kind.display).cause)
  | _, _, some code => .message (.closed (wholeOf? code))
  | _, _, _ =>
    .message <|
      match p.field? "json", p.field? "text" with
      | some (.map fs), _ => .frame (.map fs)
      | some _, _ => .nothing
      | _, some s => .ofText s.display.toList
      | _, _ => .ofOctets (octetsOf (p.field "hex").display.toList)

/- The deliveries of a socket; one without a time follows at once. -/
def deliveriesFrom
    (time : Rat) :
    List Payload → List (Rat × Delivery)
  | [] => []
  | p :: ps =>
    let time := ((p.field? "at").map seconds).getD time
    (time, .ofPayload p) :: deliveriesFrom time ps

/- The members of a list; anything else has none. -/
def membersOf : Payload → List Payload
  | .list items => items
  | _ => []

/- The socket that a map describes. -/
def Socket.ofPayload
    (p : Payload) : Socket where
  failure := causeAt? p "open_error"
  deliveries := deliveriesFrom 0 (membersOf (p.field "frames"))
  ackAfter := secondsOf? (p.field "ack")
  sends := (wholeOf? (p.field "sends")).map Int.toNat
  sendFailure := (causeAt? p "send_error").getD Trouble.connection.cause

------------------------------------------------------------
-- Preparations
------------------------------------------------------------

/- How long the preparations for a new session take, and how they end. -/
structure Hook where
  delay : Rat
  failure : Option Cause
deriving DecidableEq, Repr

/- Preparations that succeed at once. -/
def Hook.usual : Hook where
  delay := 0
  failure := none

/- The preparations that a map describes. -/
def Hook.ofPayload
    (p : Payload) : Hook where
  delay := seconds (p.field "delay")
  failure := causeAt? p "raise"

/- A fault of the store, as a list of verb, subject and uses. -/
def Fault.ofPayloads : List Payload → Fault
  | verb :: subject :: rest =>
    ⟨verb.display, subject.display,
      ((rest.head?.bind wholeOf?).getD 1)⟩
  | _ => ⟨"", "", 0⟩

------------------------------------------------------------
-- Whole scripts
------------------------------------------------------------

/-
  The script of a rehearsal: the outside, the sockets in the
  order of their opening, the preparations in the order of
  their calls, where the draws for the first heartbeat and for
  a waiting time fall between zero and one, and when it is
  stopped.
-/
structure Script where
  rules : List Rule
  firstMessageId : Int
  isFileUsable : Bool
  sockets : List Socket
  hooks : List Hook
  jitter : Rat
  position : Rat
  stopDue : Option Rat

/- A draw; without a description it falls in the middle. -/
def drawAt
    (p : Payload)
    (name : String) : Rat :=
  ((p.field? name).map quantity).getD (1 / 2)

/- The rules that a list describes. -/
def rulesOf
    (p : Payload) : List Rule :=
  (membersOf p).map Rule.ofPayload

/- The script that a map describes. -/
def Script.ofPayload
    (p : Payload) : Script where
  rules := rulesOf (p.field "rules")
  firstMessageId := (wholeOf? (p.field "first_message_id")).getD 9000
  isFileUsable := !(p.field "bad_db").isFilled
  sockets := (membersOf (p.field "sockets")).map Socket.ofPayload
  hooks := (membersOf (p.field "on_ready")).map Hook.ofPayload
  jitter := drawAt p "jitter"
  position := drawAt p "backoff"
  stopDue := secondsOf? (p.field "stop_at")

/- The world at the start of a rehearsal. -/
def Script.world
    (s : Script) : World :=
  { World.start s.rules s.firstMessageId with
    isFileUsable := s.isFileUsable }

end GuildWarden.Rehearsal
