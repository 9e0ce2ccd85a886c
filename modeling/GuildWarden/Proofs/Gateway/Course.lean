import GuildWarden.Gateway.Session.Step
import GuildWarden.Proofs.Effect.Runs
import GuildWarden.Proofs.Payload.Number

/-
  This file describes the course of a session: what can happen
  to it from outside, and what each of its operations does to
  the number of the last dispatch and to the queue of events.

  Key definitions include:
    * `Gateway.Session.Stimulus`
    * `Gateway.Session.react`
    * `Gateway.Session.Adds`

  Main statements:
    * `Gateway.Session.lose_adds`
    * `Gateway.Session.leave_adds`
    * `Gateway.Session.goOn_adds`
    * `Gateway.Session.greet_adds`
-/

------------------------------------------------------------
-- Kinds of Frames
------------------------------------------------------------

namespace GuildWarden.Gateway

/- A frame has the number of its kind. -/
theorem isKind_of_kindOf?
    {frame : Payload}
    {op : Opcode}
    (hKind : kindOf? frame = some op) :
    isKind frame op = true :=
  List.find?_some hKind

/- The number of a frame tells its kind. -/
theorem Opcode.number_injective
    {a b : Opcode}
    (hNumber : a.number = b.number) :
    a = b := by
  cases a <;> cases b <;>
    first | rfl | simp [Opcode.number] at hNumber

/- A frame is of one kind at most. -/
theorem isKind_unique
    {frame : Payload}
    {a b : Opcode}
    (hFirst : isKind frame a = true)
    (hSecond : isKind frame b = true) :
    a = b :=
  Opcode.number_injective
    (Payload.same_int_unique hFirst hSecond)

------------------------------------------------------------
-- Stimuli
------------------------------------------------------------

/-
  Whether a cause makes a session forget what it could have
  resumed.
-/
def discardsSession : Cause → Bool
  | .transport _ _ false => true
  | _ => false

/- Only trouble of the transport makes a session forget. -/
theorem discardsSession_of_other
    {cause : Cause}
    (hOther :
      ∀ detail code resumable,
        cause ≠ .transport detail code resumable) :
    discardsSession cause = false := by
  unfold discardsSession
  split
  · exact absurd rfl (hOther _ _ _)
  · rfl

/- Sending fails, if at all, without an end of the session. -/
def Moment.IsHarmless
    (m : Moment) : Prop :=
  ∀ cause, m.sendFailure = some cause →
    discardsSession cause = false

/- A result is no failure that ends the session. -/
def IsHarmless
    {α : Type}
    (result : Except Cause α) : Prop :=
  ∀ cause, result = .error cause →
    discardsSession cause = false

/- Causes that are a matter of the form of a payload. -/
def isFormal : Cause → Bool
  | .badValue _ => true
  | .badType => true
  | .missingField => true
  | .notAMap => true
  | .outOfRange => true
  | _ => false

/- A result is no failure but one of form. -/
def IsFormal
    {α : Type}
    (result : Except Cause α) : Prop :=
  ∀ cause, result = .error cause → isFormal cause = true

/- A failure of form does not make a session forget. -/
theorem discardsSession_of_isFormal
    {cause : Cause}
    (hFormal : isFormal cause = true) :
    discardsSession cause = false := by
  cases cause <;> first | rfl | simp [isFormal] at hFormal

theorem IsFormal.isHarmless
    {α : Type}
    {result : Except Cause α}
    (hFormal : IsFormal result) :
    IsHarmless result := by
  intro cause hError
  exact discardsSession_of_isFormal (hFormal cause hError)

namespace Session

/- Something that happens to a session from outside. -/
inductive Stimulus where
  | connect
  | close
  | fetched (m : Moment) (result : Except Cause String)
  | opened (m : Moment) (result : Except Cause Unit)
  | received (m : Moment) (i : Inbound)
  | hydrated (m : Moment) (result : Except Cause Unit)
  | passed (m : Moment)
  | lost

/- What a session makes of a stimulus. -/
def react
    (s : Session) :
    Stimulus → Session
  | .connect => s.connect
  | .close => s.close
  | .fetched m result => s.fetched m result
  | .opened m result => s.opened m result
  | .received m i => s.receive m i
  | .hydrated m result => s.hydrated m result
  | .passed m => s.tick m
  | .lost => { s with socketOpen := false }

------------------------------------------------------------
-- Views
------------------------------------------------------------

/- The events among some orders. -/
def queuedIn
    (orders : List Order) : List Event :=
  orders.filterMap fun
    | .queue e => some e
    | _ => none

@[simp] theorem queuedIn_nil :
    queuedIn [] = [] := rfl

@[simp] theorem queuedIn_append
    (before after : List Order) :
    queuedIn (before ++ after) =
      queuedIn before ++ queuedIn after :=
  List.filterMap_append

/- The number of the last dispatch that was accepted. -/
def accepted
    (s : Session) : Nat :=
  match s.sequence with
  | some (.int n) => n.toNat
  | _ => 0

/- Whether a session has a connection that it listens to. -/
def isConnected
    (s : Session) : Bool :=
  match s.phase with
  | .greeting _ _ => true
  | .listening => true
  | .hydrating => true
  | _ => false

/- Whether a session takes what comes over its connection. -/
def isReceiving
    (s : Session) : Bool :=
  match s.phase with
  | .greeting _ _ => true
  | .listening => true
  | _ => false

/- A broken heartbeat does not make the session forget. -/
def IsSound
    (s : Session) : Prop :=
  ∀ cause, s.heartbeat = .broken cause →
    discardsSession cause = false

/-
  A session goes on as another one that has put some more
  events into the queue, with the same last dispatch.
-/
structure Adds
    (events : List Event)
    (s t : Session) : Prop where
  sequence : t.sequence = s.sequence
  queued :
    queuedIn t.outbox = queuedIn s.outbox ++ events
  connected : t.isConnected = true → s.isConnected = true
  sound : s.IsSound → t.IsSound

namespace Adds

variable {events more : List Event}
variable {s t u : Session}

/- Nothing has happened. -/
theorem refl
    (s : Session) :
    Adds [] s s :=
  ⟨rfl, by simp, id, id⟩

/- One thing happens after another. -/
theorem trans
    (hFirst : Adds events s t)
    (hSecond : Adds more t u) :
    Adds (events ++ more) s u where
  sequence := hSecond.sequence.trans hFirst.sequence
  queued := by
    rw [hSecond.queued, hFirst.queued,
      List.append_assoc]
  connected := hFirst.connected ∘ hSecond.connected
  sound := hSecond.sound ∘ hFirst.sound

/- Something happens that puts nothing into the queue. -/
theorem quietly
    (hFirst : Adds events s t)
    (hSecond : Adds [] t u) :
    Adds events s u := by
  simpa using hFirst.trans hSecond

/-
  Fields that no event depends on are changed, and the phase
  is either kept or one without a connection.
-/
theorem of_fields
    (hSequence : t.sequence = s.sequence)
    (hOutbox : t.outbox = s.outbox)
    (hPhase :
      t.phase = s.phase ∨ t.isConnected = false)
    (hHeartbeat :
      t.heartbeat = s.heartbeat ∨
        ∀ cause, t.heartbeat ≠ .broken cause) :
    Adds [] s t where
  sequence := hSequence
  queued := by rw [hOutbox, List.append_nil]
  connected := by
    intro hConnected
    rcases hPhase with hPhase | hPhase
    · simpa [isConnected, hPhase] using hConnected
    · simp [hPhase] at hConnected
  sound := by
    intro hSound cause hBroken
    rcases hHeartbeat with hHeartbeat | hHeartbeat
    · exact hSound cause (hHeartbeat ▸ hBroken)
    · exact (hHeartbeat cause hBroken).elim

end Adds

------------------------------------------------------------
-- Small Operations
------------------------------------------------------------

variable {s t : Session}
variable {m : Moment}
variable {cause : Cause}

/- An order puts its event into the queue, if it has one. -/
theorem order_adds
    (s : Session)
    (o : Order) :
    Adds (queuedIn [o]) s (s.order o) :=
  ⟨rfl, queuedIn_append _ _, id, id⟩

@[simp] theorem setStatus_phase
    (s : Session)
    (status : Status) :
    (s.setStatus status).phase = s.phase := by
  unfold setStatus
  split <;> rfl

theorem setStatus_adds
    (s : Session)
    (status : Status) :
    Adds [] s (s.setStatus status) := by
  unfold setStatus
  split
  · exact .refl s
  · exact ⟨rfl, by simp [order, queuedIn], id, id⟩

theorem closeSocket_adds
    (s : Session)
    (code : Int) :
    Adds [] s (s.closeSocket code) := by
  unfold closeSocket
  split
  · exact ⟨rfl, by simp [order, queuedIn], id, id⟩
  · exact .refl s

theorem markActive_adds
    (s : Session)
    (now : Rat) :
    Adds [] s (s.markActive now) := by
  have hSince :
      Adds [] s { s with activeSince := some now } :=
    Adds.of_fields rfl rfl (.inl rfl) (.inl rfl)
  exact hSince.quietly (setStatus_adds _ .active)

------------------------------------------------------------
-- Losing a Connection
------------------------------------------------------------

theorem openAt_adds
    (s : Session)
    (resuming : Bool)
    (url : String) :
    Adds [] s (s.openAt resuming url) := by
  have hPhase :
      Adds [] s
        { s with phase := .opening resuming, isDead := false } :=
    Adds.of_fields rfl rfl (.inr rfl) (.inl rfl)
  exact hPhase.quietly (order_adds _ (.openSocket url))

theorem openGateway_adds
    (s : Session)
    (resuming : Bool) :
    Adds [] s (s.openGateway resuming) := by
  unfold openGateway
  split
  · exact openAt_adds _ _ _
  · have hPhase :
        Adds [] s { s with phase := .fetching resuming } :=
      Adds.of_fields rfl rfl (.inr rfl) (.inl rfl)
    exact hPhase.quietly (order_adds _ .fetch)

theorem attempt_adds
    (s : Session) :
    Adds [] s s.attempt := by
  unfold attempt
  split
  · split
    · exact openAt_adds _ _ _
    · exact openGateway_adds _ _
  · exact (setStatus_adds _ _).quietly
      (openGateway_adds _ _)

theorem finish_adds
    (s : Session)
    (failure : Option Cause) :
    Adds [] s (s.finish failure) := by
  unfold finish
  apply Adds.quietly _ (setStatus_adds _ _)
  exact (closeSocket_adds s leaveCode).quietly
    (Adds.of_fields rfl rfl (.inr rfl) (.inl rfl))

theorem accountActive_adds
    (s : Session)
    (now : Rat) :
    Adds [] s (s.accountActive now) := by
  unfold accountActive
  split
  · exact Adds.of_fields rfl rfl (.inl rfl) (.inl rfl)
  · exact .refl s

theorem wait_adds
    (s : Session)
    (m : Moment) :
    Adds [] s (s.wait m) := by
  unfold wait
  apply Adds.quietly
    ((setStatus_adds s _).quietly
      (accountActive_adds _ m.now))
  exact Adds.of_fields rfl rfl (.inr rfl) (.inl rfl)

/- A session that ends or waits has no connection. -/
theorem finish_disconnects
    (s : Session)
    (failure : Option Cause) :
    (s.finish failure).isConnected = false := by
  simp [finish, isConnected]

theorem wait_disconnects
    (s : Session)
    (m : Moment) :
    (s.wait m).isConnected = false := rfl

theorem lose_disconnects
    (s : Session)
    (m : Moment)
    (cause : Cause) :
    (s.lose m cause).isConnected = false := by
  unfold lose
  split
  · split
    · exact finish_disconnects _ _
    · exact wait_disconnects _ _
  · split
    · exact finish_disconnects _ _
    · split
      · exact finish_disconnects _ _
      · exact wait_disconnects _ _
  · split
    · exact finish_disconnects _ _
    · split
      · exact finish_disconnects _ _
      · exact wait_disconnects _ _

theorem leave_disconnects
    (s : Session)
    (m : Moment)
    (failure : Option Cause) :
    (s.leave m failure).isConnected = false := by
  unfold leave
  split
  · exact lose_disconnects _ _ _
  · split
    · exact lose_disconnects _ _ _
    · exact finish_disconnects _ _

/- A connection is lost without an end of the session. -/
theorem lose_adds
    (s : Session)
    (m : Moment)
    (hCause : discardsSession cause = false) :
    Adds [] s (s.lose m cause) := by
  unfold lose
  split
  · rename_i resumable
    cases resumable with
    | false => simp [discardsSession] at hCause
    | true =>
        split
        · exact finish_adds _ _
        · exact wait_adds _ _
  · split
    · exact finish_adds _ _
    · split
      · exact finish_adds _ _
      · exact wait_adds _ _
  · split
    · exact finish_adds _ _
    · split
      · exact finish_adds _ _
      · exact wait_adds _ _

/- A sound session is left without being forgotten. -/
theorem leave_adds
    (m : Moment)
    (failure : Option Cause)
    (hSound : s.IsSound)
    (hFailure :
      ∀ cause, failure = some cause →
        discardsSession cause = false) :
    Adds [] s (s.leave m failure) := by
  have hSilent : Adds [] s { s with heartbeat := .silent } :=
    Adds.of_fields rfl rfl (.inl rfl) (.inr (by simp))
  unfold leave
  split
  · rename_i cause hBroken
    exact hSilent.quietly
      (lose_adds _ m (hSound cause hBroken))
  · have hClosed :=
      hSilent.quietly (closeSocket_adds _ resumeCode)
    split
    · rename_i cause
      exact hClosed.quietly
        (lose_adds _ m (hFailure cause rfl))
    · exact hClosed.quietly (finish_adds _ _)

/- A session goes on listening, or is left because it closes. -/
theorem goOn_adds
    (m : Moment)
    (hSound : s.IsSound)
    (hConnected : s.isConnected = true) :
    Adds [] s (s.goOn m) := by
  unfold goOn
  split
  · exact leave_adds m none hSound (by simp)
  · exact ⟨rfl, by simp, fun _ => hConnected, id⟩

------------------------------------------------------------
-- Sending
------------------------------------------------------------

/- A frame that is sent is ordered, and that is all. -/
theorem eq_order_of_send
    {frame : Payload}
    (hSent : s.send m frame = .ok t) :
    t = s.order (.send frame) := by
  unfold send at hSent
  split at hSent
  · cases hSent
  · split at hSent
    · cases hSent
    · exact (Except.ok.inj hSent).symm

/- A failure to send does not end the session. -/
theorem send_harmless
    (s : Session)
    (frame : Payload)
    (hMoment : m.IsHarmless) :
    IsHarmless (s.send m frame) := by
  intro cause hError
  unfold send at hError
  split at hError
  · cases hError
    rfl
  · split at hError
    · rename_i failure hFailure
      cases hError
      exact hMoment cause hFailure
    · cases hError

/- A heartbeat is ordered and waits for its answer. -/
theorem eq_order_of_beat
    (hBeat : s.beat m = .ok t) :
    t =
      { s.order (.send s.heartbeatFrame) with
        awaitingAck := true } := by
  unfold beat at hBeat
  cases hSent : s.send m s.heartbeatFrame with
  | error cause => simp [hSent, bind, Except.bind] at hBeat
  | ok u =>
      rw [← eq_order_of_send hSent]
      simpa [hSent, bind, Except.bind, pure, Except.pure]
        using hBeat.symm

theorem beat_adds
    (hBeat : s.beat m = .ok t) :
    Adds [] s t := by
  rw [eq_order_of_beat hBeat]
  exact (order_adds s (.send s.heartbeatFrame)).quietly
    (Adds.of_fields rfl rfl (.inl rfl) (.inl rfl))

theorem beat_harmless
    (s : Session)
    (hMoment : m.IsHarmless) :
    IsHarmless (s.beat m) := by
  apply Cause.failsBy_bind
  · exact send_harmless s s.heartbeatFrame hMoment
  · exact fun _ => Cause.failsBy_ok _

/- A session goes on after a step, or is left if that fails. -/
theorem goOnOrLeave_adds
    (result : Except Cause Session)
    (hSound : s.IsSound)
    (hConnected :
      ∀ t, result = .ok t →
        t.isConnected = true)
    (hResult : ∀ t, result = .ok t → Adds [] s t)
    (hHarmless : IsHarmless result) :
    Adds [] s (s.goOnOrLeave m result) := by
  unfold goOnOrLeave
  split
  · rename_i t
    have hStep := hResult t rfl
    exact hStep.quietly
      (goOn_adds m (hStep.sound hSound) (hConnected t rfl))
  · rename_i cause
    apply leave_adds m _ hSound
    intro failure hFailure
    cases hFailure
    exact hHarmless cause rfl

------------------------------------------------------------
-- The First Frame
------------------------------------------------------------

theorem startHeartbeat_adds
    (s : Session)
    (m : Moment)
    (interval : Span) :
    Adds [] s (s.startHeartbeat m interval) :=
  Adds.of_fields rfl rfl (.inl rfl)
    (.inr (by simp [startHeartbeat]))

/- A payload that is no number is a matter of form. -/
theorem toBinary64_formal
    (p : Payload) :
    IsFormal p.toBinary64 := by
  intro cause hError
  have hFloat (n : Int) :
      Payload.floatOf n = .error cause →
        isFormal cause = true := by
    intro hOutside
    unfold Payload.floatOf at hOutside
    split at hOutside
    · cases hOutside
    · cases hOutside
      rfl
  unfold Payload.toBinary64 at hError
  split at hError
  · exact hFloat _ hError
  · exact hFloat _ hError
  · cases hError
  · split at hError
    · cases hError
    · cases hError
      rfl
  · cases hError
    rfl

/- An item that is missing is a matter of form. -/
theorem item_formal
    (p : Payload)
    (name : String) :
    IsFormal (p.item name) := by
  intro cause hError
  unfold Payload.item at hError
  split at hError
  · cases hError
    rfl
  · split at hError
    · cases hError
    · cases hError
      rfl

/- The failure of a first step or of one that follows it. -/
theorem formal_bind
    {α β : Type}
    {first : Except Cause α}
    {next : α → Except Cause β}
    (hFirst : IsFormal first)
    (hNext : ∀ a, IsFormal (next a)) :
    IsFormal (first >>= next) :=
  Cause.failsBy_bind hFirst hNext

/- A frame of a kind holds something. -/
theorem isFilled_of_isKind
    {frame : Payload}
    {op : Opcode}
    (hKind : isKind frame op = true) :
    frame.isFilled = true := by
  cases frame with
  | map fields =>
      cases fields with
      | nil =>
          simp [isKind, Payload.field, Payload.field?,
            Payload.fields, Payload.same_int,
            Payload.magnitude?] at hKind
      | cons f fields => rfl
  | _ =>
      simp [isKind, Payload.field, Payload.field?,
        Payload.fields, Payload.same_int,
        Payload.magnitude?] at hKind

/-
  A first frame that cannot be read is no greeting, or the
  fault is one of form.
-/
theorem readInterval_failure
    {frame : Payload}
    {cause : Cause}
    (hRead : readInterval frame = .error cause) :
    isKind frame .hello = false ∧
        cause =
          .transport "first frame was not HELLO" none true ∨
      isKind frame .hello = true ∧ isFormal cause = true := by
  have hItems :
      IsFormal (do
        let data ← frame.item "d"
        let interval ←
          (← data.item "heartbeat_interval").toBinary64
        return spanOfMilliseconds interval) := by
    apply formal_bind (item_formal _ _)
    intro data
    apply formal_bind (item_formal _ _)
    intro value
    apply formal_bind (toBinary64_formal _)
    intro interval cause hError
    cases hError
  unfold readInterval at hRead
  cases hKind : isKind frame .hello with
  | false =>
      simp only [hKind, Bool.not_false, Bool.or_true, if_true]
        at hRead
      cases hRead
      exact Or.inl ⟨rfl, rfl⟩
  | true =>
      simp only [hKind, isFilled_of_isKind hKind,
        Bool.not_true, Bool.or_false, Bool.false_eq_true,
        if_false] at hRead
      exact Or.inr ⟨rfl, hItems cause hRead⟩

/- A first frame that is no greeting does not end the session. -/
theorem readInterval_harmless
    (frame : Payload) :
    IsHarmless (readInterval frame) := by
  intro cause hError
  rcases readInterval_failure hError with
    ⟨_, rfl⟩ | ⟨_, hFormal⟩
  · rfl
  · exact discardsSession_of_isFormal hFormal

/- A first frame that is read is a greeting. -/
theorem isKind_hello_of_readInterval
    {frame : Payload}
    {interval : Span}
    (hRead : readInterval frame = .ok interval) :
    isKind frame .hello = true := by
  unfold readInterval at hRead
  split at hRead
  · cases hRead
  · rename_i hGreeting
    simp only [Bool.or_eq_true, Bool.not_eq_true',
      not_or, Bool.not_eq_false] at hGreeting
    exact hGreeting.2

/- The first frame puts no event into the queue. -/
theorem greet_adds
    (resuming : Bool)
    (frame : Payload)
    (hMoment : m.IsHarmless)
    (hSound : s.IsSound)
    (hConnected : s.isConnected = true) :
    Adds [] s (s.greet m resuming frame) := by
  unfold greet
  split
  · rename_i cause hRead
    apply leave_adds m _ hSound
    intro failure hFailure
    cases hFailure
    exact readInterval_harmless frame cause hRead
  · rename_i interval hRead
    have hStart := startHeartbeat_adds s m interval
    have hStarted :
        (s.startHeartbeat m interval).isConnected = true :=
      hConnected
    apply hStart.quietly
    unfold present
    apply goOnOrLeave_adds _ (hStart.sound hSound)
    · intro t hSent
      rw [eq_order_of_send hSent]
      exact hStarted
    · intro t hSent
      rw [eq_order_of_send hSent]
      exact order_adds _ (.send _)
    · exact send_harmless _ _ hMoment

------------------------------------------------------------
-- Time
------------------------------------------------------------

/- A cause that is not expected of a heartbeat is harmless. -/
theorem discardsSession_of_not_isExpected
    (hUnexpected : isExpected cause = false) :
    discardsSession cause = false := by
  cases cause <;>
    first | rfl | simp [isExpected] at hUnexpected

theorem sendDueBeat_adds
    (s : Session)
    (m : Moment) :
    Adds [] s (s.sendDueBeat m) := by
  unfold sendDueBeat
  split
  · rename_i t hBeat
    exact (beat_adds hBeat).quietly
      (Adds.of_fields rfl rfl (.inl rfl) (.inr (by simp)))
  · rename_i cause hBeat
    refine ⟨rfl, by simp, id, ?_⟩
    intro hSound failure hBroken
    cases hExpected : isExpected cause with
    | true => simp [hExpected] at hBroken
    | false =>
        have hSame : cause = failure := by
          simpa [hExpected] using hBroken
        exact hSame ▸
          discardsSession_of_not_isExpected hExpected

theorem pulse_adds
    (s : Session)
    (m : Moment) :
    Adds [] s (s.pulse m) := by
  unfold pulse
  split
  · exact sendDueBeat_adds s m
  · have hMissed :
        Adds [] s { s with missed := s.missed + 1 } :=
      Adds.of_fields rfl rfl (.inl rfl) (.inl rfl)
    apply hMissed.quietly
    simp only
    split
    · apply Adds.quietly _ (closeSocket_adds _ resumeCode)
      exact Adds.of_fields rfl rfl (.inl rfl)
        (.inr (by simp))
    · exact sendDueBeat_adds _ m

/- Time that passes puts no event into the queue. -/
theorem tick_adds
    (m : Moment)
    (hSound : s.IsSound) :
    Adds [] s (s.tick m) := by
  unfold tick
  split
  · exact pulse_adds s m
  · split
    · unfold runOut
      split
      · apply leave_adds m _ hSound
        intro cause hCause
        cases hCause
        rfl
      · exact attempt_adds s
      · exact .refl s
    · exact .refl s

------------------------------------------------------------
-- Steps from Outside
------------------------------------------------------------

theorem connect_adds
    (s : Session) :
    Adds [] s s.connect := by
  have hOpen : Adds [] s { s with closing := false } :=
    Adds.of_fields rfl rfl (.inl rfl) (.inl rfl)
  unfold connect
  exact (hOpen.quietly (setStatus_adds _ _)).quietly
    (attempt_adds _)

theorem close_adds
    (s : Session) :
    Adds [] s s.close := by
  have hClosing : Adds [] s { s with closing := true } :=
    Adds.of_fields rfl rfl (.inl rfl) (.inl rfl)
  unfold close
  split
  · exact .refl s
  · have hClosed :=
      hClosing.quietly (closeSocket_adds _ leaveCode)
    simp only
    split
    · exact hClosed.quietly (finish_adds _ _)
    · exact hClosed

theorem fetched_adds
    (s : Session)
    (m : Moment)
    {result : Except Cause String}
    (hResult : IsHarmless result) :
    Adds [] s (s.fetched m result) := by
  unfold fetched
  split
  · rename_i resuming url _
    have hKnown :
        Adds [] s { s with gatewayUrl := some url } :=
      Adds.of_fields rfl rfl (.inl rfl) (.inl rfl)
    exact hKnown.quietly (openAt_adds _ _ _)
  · exact lose_adds s m (hResult _ rfl)
  · exact .refl s

theorem opened_adds_of_error
    (s : Session)
    (m : Moment)
    (hCause : discardsSession cause = false) :
    Adds [] s (s.opened m (.error cause)) := by
  unfold opened
  split
  · rename_i hResult
    cases hResult
  · rename_i failure _ hResult
    cases hResult
    exact lose_adds s m hCause
  · exact .refl s

theorem hydrated_adds
    (m : Moment)
    {result : Except Cause Unit}
    (hResult : IsHarmless result)
    (hSound : s.IsSound) :
    Adds [] s (s.hydrated m result) := by
  unfold hydrated
  split
  · rename_i hPhase
    have hActive := markActive_adds s m.now
    apply hActive.quietly
    apply goOn_adds m (hActive.sound hSound)
    simp [isConnected, markActive, hPhase]
  · rename_i cause _
    apply leave_adds m _ hSound
    intro failure hFailure
    cases hFailure
    exact hResult cause rfl
  · exact .refl s

end Session

end GuildWarden.Gateway
