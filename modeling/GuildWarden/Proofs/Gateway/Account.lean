import GuildWarden.Proofs.Gateway.Course

/-
  This file keeps an account of a session from outside: what
  the frames so far tell about the session to resume, where
  each attempt to connect opened its socket, and what was sent
  there. Nothing is read from what the session itself keeps to
  resume; only its phase tells which frames it received.

  Key definitions include:
    * `Gateway.Recall`
    * `Gateway.Recall.hear`
    * `Gateway.Attempt`
    * `Gateway.Account`
    * `Gateway.Session.invalidates`
    * `Gateway.Session.overlooks`
    * `Gateway.Session.account`
    * `Gateway.Account.IsRight`
-/

namespace GuildWarden.Gateway

open Session

------------------------------------------------------------
-- What the Frames Tell
------------------------------------------------------------

/-
  The id of the latest session that started, the last number
  of a dispatch, and the latest address at which to resume.
-/
structure Recall where
  sessionId : Option String
  sequence : Option Int
  resumeUrl : Option String
deriving DecidableEq, Repr

namespace Recall

/- Nothing is known since the session was invalidated. -/
def nothing : Recall where
  sessionId := none
  sequence := none
  resumeUrl := none

/- Whether a session started and a number was accepted since. -/
def canResume
    (k : Recall) : Bool :=
  k.sessionId.isSome && k.sequence.isSome

/- A session starts; an empty address is no address. -/
def start
    (k : Recall)
    (r : Event.Ready) : Recall where
  sessionId := some r.sessionId
  sequence := k.sequence
  resumeUrl :=
    match r.resumeUrl with
    | .text u =>
      if u = "" then k.resumeUrl else some (withParameters u)
    | _ => k.resumeUrl

/- A dispatch is accepted. -/
def accept
    (k : Recall)
    (frame : Payload) : Recall :=
  match Event.decode (frame.field "t") (frame.field "d") with
  | .ok (some (.ready r)) => k.start r
  | _ => k

/- A dispatch whose number is not above the last is dropped. -/
def hear
    (k : Recall)
    (frame : Payload) : Recall :=
  if isKind frame .dispatch then
    match frame.field "s" with
    | .int n =>
      if k.sequence.any (n ≤ ·) then k
      else { k with sequence := some n }.accept frame
    | _ => k.accept frame
  else k

/- Where to connect; the address of the gateway may be unknown. -/
def address
    (k : Recall)
    (gateway : Option String) : Option String :=
  if k.canResume then k.resumeUrl.orElse fun _ => gateway
  else gateway

/- The number that a heartbeat carries. -/
def number
    (k : Recall) : Payload :=
  match k.sequence with
  | some n => .int n
  | none => .null

/- RESUME with the id and the number, or else IDENTIFY. -/
def presentation
    (token : String)
    (intents : Int)
    (k : Recall) : Payload :=
  match k.sessionId, k.sequence with
  | some id, some n =>
    frameOf .resume <| .map
      [
        ("token", .text token),
        ("session_id", .text id),
        ("seq", .int n)
      ]
  | _, _ =>
    frameOf .identify <| .map
      [
        ("token", .text token),
        ("intents", .int intents),
        ("properties", properties)
      ]

end Recall

------------------------------------------------------------
-- Accounts
------------------------------------------------------------

/-
  An attempt to connect: what was known when it started, where
  its socket was opened, whether the first frame was received
  and could be answered, and what was sent but heartbeats.
-/
structure Attempt where
  known : Recall
  address : Option String
  isGreeted : Bool
  presented : List Payload

/- A heartbeat, and what was known when it was sent. -/
structure Beat where
  frame : Payload
  known : Recall

/-
  What is known, the address of the gateway that was fetched,
  and the attempts and the heartbeats, the latest first.
-/
structure Account where
  recalled : Recall
  gateway : Option String
  attempts : List Attempt
  beats : List Beat

namespace Account

/- Nothing has happened. -/
def empty : Account where
  recalled := .nothing
  gateway := none
  attempts := []
  beats := []

/- An attempt starts. -/
def begin
    (a : Account)
    (address : Option String) : Account :=
  { a with
    attempts := ⟨a.recalled, address, false, []⟩ :: a.attempts }

/- Something becomes known about the latest attempt. -/
def amend
    (a : Account)
    (f : Attempt → Attempt) : Account :=
  match a.attempts with
  | [] => a
  | t :: ts => { a with attempts := f t :: ts }

/-
  Something is done outside. A socket that is opened after the
  address was fetched belongs to the latest attempt.
-/
def observe
    (isFetching : Bool)
    (a : Account) : Order → Account
  | .fetch => a.begin none
  | .openSocket url =>
    if isFetching then
      a.amend fun t => { t with address := some url }
    else a.begin (some url)
  | .send frame =>
    if isKind frame .heartbeat then
      { a with beats := ⟨frame, a.recalled⟩ :: a.beats }
    else
      a.amend fun t =>
        { t with presented := t.presented ++ [frame] }
  | _ => a

/- What was ordered between two states of a session is done. -/
def observeAll
    (a : Account)
    (isFetching : Bool)
    (s t : Session) : Account :=
  (t.outbox.drop s.outbox.length).foldl (observe isFetching) a

end Account

namespace Session

/- Whether a session waits for the address of the gateway. -/
def isFetching
    (s : Session) : Bool :=
  match s.phase with
  | .fetching _ => true
  | _ => false

/- Whether a session waits for the first frame. -/
def isGreeting
    (s : Session) : Bool :=
  match s.phase with
  | .greeting _ _ => true
  | _ => false

/- Whether the heartbeat of a session is broken. -/
def hasBrokenHeart
    (s : Session) : Bool :=
  match s.heartbeat with
  | .broken _ => true
  | _ => false

theorem hasBrokenHeart_eq_false
    {s : Session}
    (hWhole : ∀ cause, s.heartbeat ≠ .broken cause) :
    s.hasBrokenHeart = false := by
  unfold hasBrokenHeart
  split
  · rename_i cause hBroken
    exact absurd hBroken (hWhole cause)
  · rfl

------------------------------------------------------------
-- Invalidation
------------------------------------------------------------

/-
  The gateway invalidates the session: by a frame, or by the
  code with which it closes a connection that is not dead.
-/
def invalidates
    (s : Session) : Stimulus → Bool
  | .received _ (.frame p) =>
    s.isReceiving && isKind p .invalidSession &&
      !(p.field "d").isFilled
  | .received _ (.closed (some code)) =>
    s.isReceiving && !s.isDead && endsSession code
  | _ => false

/-
  The session does not take notice of an invalidation: the
  frame is the first one of its connection, or the heartbeat
  was broken when the connection was closed.
-/
def overlooks
    (s : Session) : Stimulus → Bool
  | .received _ (.frame _) => s.isGreeting
  | .received _ (.closed _) => s.hasBrokenHeart
  | _ => false

/- An invalidation of which the session takes notice. -/
def notices
    (s : Session)
    (x : Stimulus) : Bool :=
  s.invalidates x && !s.overlooks x

------------------------------------------------------------
-- Runs
------------------------------------------------------------

/- What a frame tells, if it is received and not the first. -/
def heardBy
    (s : Session)
    (k : Recall) : Stimulus → Recall
  | .received _ (.frame p) =>
    if s.phase = .listening then k.hear p else k
  | _ => k

/- The address of the gateway, once it was fetched. -/
def fetchedBy
    (s : Session)
    (gateway : Option String) : Stimulus → Option String
  | .fetched _ (.ok url) =>
    if s.isFetching then some url else gateway
  | _ => gateway

/- Whether the first frame is received and can be answered. -/
def isGreetedBy
    (s : Session) : Stimulus → Bool
  | .received m (.frame p) =>
    s.isGreeting && (readInterval p).toBool && s.socketOpen &&
      m.sendFailure.isNone
  | _ => false

/- What a stimulus tells, before the session reacts. -/
def told
    (forgets : Bool)
    (s : Session)
    (a : Account)
    (x : Stimulus) : Account :=
  let a :=
    { a with
      recalled :=
        if forgets then .nothing else s.heardBy a.recalled x
      gateway := s.fetchedBy a.gateway x }
  if s.isGreetedBy x then
    a.amend fun t => { t with isGreeted := true }
  else a

/- A session that connects, and what happened to it, last first. -/
def course
    (s : Session) : List Stimulus → Session
  | [] => s.connect
  | x :: xs => (s.course xs).react x

/- The account of it, given what counts as an invalidation. -/
def account
    (s : Session)
    (forgets : Session → Stimulus → Bool) :
    List Stimulus → Account
  | [] => Account.empty.observeAll false s s.connect
  | x :: xs =>
    let t := s.course xs
    (t.told (forgets t x) (s.account forgets xs) x).observeAll
      t.isFetching t (t.react x)

/- The number of a dispatch is whole or missing. -/
def IsNumbered
    (frame : Payload) : Prop :=
  isKind frame .dispatch = true →
    frame.field "s" = .null ∨ ∃ n, frame.field "s" = .int n

/-
  What can happen while a session is connected: it is not
  connected again, and no failure from outside is taken for an
  end of the session.
-/
def IsFit : Stimulus → Prop
  | .connect => False
  | .close => True
  | .fetched _ result => IsHarmless result
  | .opened _ result => IsHarmless result
  | .received m (.frame p) => m.IsHarmless ∧ IsNumbered p
  | .received _ (.failed cause) => discardsSession cause = false
  | .received _ _ => True
  | .hydrated _ result => IsHarmless result
  | .passed _ => True
  | .lost => True

/- What happened is fit, and the session has not ended before. -/
def IsRun
    (s : Session) : List Stimulus → Prop
  | [] => True
  | x :: xs =>
    s.IsRun xs ∧ (s.course xs).hasEnded = false ∧ IsFit x

end Session

------------------------------------------------------------
-- Right Accounts
------------------------------------------------------------

/-
  An attempt is right: once greeted, one frame was sent, RESUME
  or IDENTIFY as what was known tells, and the socket was opened
  where it tells.
-/
structure Attempt.IsRight
    (token : String)
    (intents : Int)
    (gateway : Option String)
    (t : Attempt) : Prop where
  presented :
    t.presented =
      if t.isGreeted then [t.known.presentation token intents]
      else []
  address :
    ∀ url, t.address = some url →
      t.known.address gateway = some url

/- Each heartbeat carries the number that was known. -/
structure Account.IsRight
    (token : String)
    (intents : Int)
    (a : Account) : Prop where
  attempts :
    ∀ t ∈ a.attempts, t.IsRight token intents a.gateway
  beats :
    ∀ b ∈ a.beats,
      b.frame = frameOf .heartbeat b.known.number

end GuildWarden.Gateway
