import GuildWarden.Proofs.Gateway.Course
import Mathlib.Data.List.Range
import Mathlib.Logic.Relation

/-
  This file shows what a session makes of the dispatches of
  one gateway session. They are numbered from one, and every
  connection carries a stretch of them that begins no later
  than behind the last one that was accepted. Whatever is cut
  off and sent again, each event is put into the queue once
  and in order.

  One kind of event is accepted and still not put into the
  queue: the start of a session whose address to resume is
  filled and no text.

  Key definitions include:
    * `Gateway.Log`
    * `Gateway.Log.Carries`
    * `Gateway.Wire`
    * `Gateway.Wire.Step`

  Main statements:
    * `Gateway.Wire.inStep_of_runs`
    * `Gateway.Wire.queued_eq_events_iff`
-/

namespace GuildWarden.Gateway

open Session

------------------------------------------------------------
-- Taking Events In
------------------------------------------------------------

/- An address to resume is missing, empty, or a text. -/
def hasReadableAddress
    (r : Event.Ready) : Bool :=
  !r.resumeUrl.isFilled ||
    match r.resumeUrl with
    | .text _ => true
    | _ => false

/- Whether an event that is accepted gets into the queue. -/
def isTakenIn : Event → Bool
  | .ready r => hasReadableAddress r
  | _ => true

/- The address to resume is read exactly if it is readable. -/
theorem resumeAddress_of_readable
    {r : Event.Ready}
    (usual : Option String)
    (hReadable : hasReadableAddress r = true) :
    ∃ url, resumeAddress usual r.resumeUrl = .ok url := by
  unfold resumeAddress
  split
  · exact ⟨usual, rfl⟩
  · rename_i hFilled
    split
    · exact ⟨_, rfl⟩
    · rename_i hNoText
      unfold hasReadableAddress at hReadable
      simp only [Bool.not_eq_true', Bool.not_eq_false]
        at hFilled
      split at hReadable
      · rename_i u hText
        exact (hNoText u hText).elim
      · simp [hFilled] at hReadable

theorem resumeAddress_of_unreadable
    {r : Event.Ready}
    (usual : Option String)
    (hUnreadable : hasReadableAddress r = false) :
    resumeAddress usual r.resumeUrl = .error .notAMap := by
  unfold hasReadableAddress at hUnreadable
  simp only [Bool.or_eq_false_iff] at hUnreadable
  unfold resumeAddress
  rw [if_neg (by simp [hUnreadable.1])]
  split
  · rename_i u hText
    simp [hText] at hUnreadable
  · rfl

/- So what comes of reading an address tells whether it can be. -/
theorem hasReadableAddress_of_ok
    {usual url : Option String}
    {r : Event.Ready}
    (hUrl : resumeAddress usual r.resumeUrl = .ok url) :
    hasReadableAddress r = true := by
  cases hReadable : hasReadableAddress r with
  | true => rfl
  | false =>
      cases (resumeAddress_of_unreadable usual
        hReadable).symm.trans hUrl

theorem hasReadableAddress_of_error
    {usual : Option String}
    {r : Event.Ready}
    {cause : Cause}
    (hUrl : resumeAddress usual r.resumeUrl = .error cause) :
    hasReadableAddress r = false := by
  cases hReadable : hasReadableAddress r with
  | false => rfl
  | true =>
      rcases resumeAddress_of_readable usual hReadable with
        ⟨url, hUsable⟩
      cases hUsable.symm.trans hUrl

/-
  A frame is handled with some events put into the queue; the
  connection is kept, and a failure does not end the session.
-/
structure Handles
    (events : List Event)
    (s : Session)
    (r : Handled) : Prop where
  adds : Adds events s r.1
  stays : r.1.isConnected = true
  harmless :
    ∀ cause, r.2 = some cause →
      discardsSession cause = false

variable {added : List Event}
variable {s : Session}
variable {m : Moment}

/- A new session starts, and its event is put into the queue. -/
theorem start_handles
    (m : Moment)
    (r : Event.Ready)
    (hConnected : s.isConnected = true) :
    Handles ([Event.ready r].filter isTakenIn) s
      (s.start m r) := by
  have hNamed :
      Adds [] s { s with sessionId := some r.sessionId } :=
    Adds.of_fields rfl rfl (.inl rfl) (.inl rfl)
  cases hReadable : hasReadableAddress r with
  | false =>
      have hNone :
          [Event.ready r].filter isTakenIn = [] := by
        simp [isTakenIn, hReadable]
      rw [hNone]
      unfold start
      simp only [resumeAddress_of_unreadable s.resumeUrl
        hReadable]
      exact ⟨hNamed, hConnected, by
        intro cause hCause
        cases hCause
        rfl⟩
  | true =>
      rcases resumeAddress_of_readable s.resumeUrl hReadable
        with ⟨url, hUrl⟩
      have hOne :
          [Event.ready r].filter isTakenIn =
            [] ++ [Event.ready r] := by
        simp [isTakenIn, hReadable]
      rw [hOne]
      unfold start
      simp only [hUrl]
      have hAddressed :
          Adds [] s
            { s with
              sessionId := some r.sessionId
              resumeUrl := url } :=
        Adds.of_fields rfl rfl (.inl rfl) (.inl rfl)
      have hStatus :=
        hAddressed.quietly (setStatus_adds _ .identified)
      have hQueued :=
        hStatus.trans (order_adds _ (.queue (.ready r)))
      split
      · refine ⟨?_, rfl, by simp⟩
        apply Adds.quietly _ (order_adds _ (.hydrate r))
        refine ⟨hQueued.sequence, hQueued.queued,
          fun _ => hConnected, hQueued.sound⟩
      · refine ⟨hQueued.quietly (markActive_adds _ _), ?_,
          by simp⟩
        simpa [isConnected, markActive, order] using hConnected

/- An event is taken in, and put into the queue if it can be. -/
theorem takeIn_handles
    (m : Moment)
    (e : Event)
    (hConnected : s.isConnected = true) :
    Handles ([e].filter isTakenIn) s (s.takeIn m e) := by
  cases e with
  | ready r => exact start_handles m r hConnected
  | resumed =>
      have hQueued :=
        (setStatus_adds s .identified).trans
          (order_adds _ (.queue .resumed))
      refine ⟨hQueued.quietly (markActive_adds _ m.now), ?_,
        by simp [takeIn]⟩
      simpa [takeIn, isConnected, markActive,
        order] using hConnected
  | _ =>
      exact ⟨order_adds s (.queue _), hConnected,
        by simp [takeIn]⟩

/- What follows from handling a frame while listening. -/
theorem hear_adds
    {before : Session}
    {frame : Payload}
    (hHandles : Handles added before (s.handle m frame))
    (hSound : before.IsSound) :
    Adds added before (s.hear m frame) := by
  rcases hResult : s.handle m frame with ⟨t, failure⟩
  rw [hResult] at hHandles
  have hTaken := hHandles.adds.sound hSound
  unfold hear
  rw [hResult]
  cases failure with
  | some cause =>
      exact hHandles.adds.quietly
        (leave_adds m _ hTaken hHandles.harmless)
  | none =>
      simp only
      split
      · exact hHandles.adds
      · exact hHandles.adds.quietly
          (goOn_adds m hTaken hHandles.stays)

------------------------------------------------------------
-- Logs
------------------------------------------------------------

/- A dispatch as the gateway sends it. -/
structure Dispatch where
  kind : Payload
  data : Payload

/- The dispatches of a gateway session, numbered from one. -/
abbrev Log :=
  Nat → Dispatch

namespace Log

/- The event of a dispatch, if it is one. -/
def event?
    (log : Log)
    (n : Nat) : Option Event :=
  match Event.decode (log n).kind (log n).data with
  | .ok e => e
  | .error _ => none

/- No dispatch of a log makes the reading of events fail. -/
def Decodes
    (log : Log) : Prop :=
  ∀ n, 1 ≤ n →
    ∃ e, Event.decode (log n).kind (log n).data = .ok e

/- The events of the dispatches up to a number, in order. -/
def events
    (log : Log)
    (n : Nat) : List Event :=
  (List.range' 1 n).filterMap log.event?

/- Those of them that get into the queue. -/
def takenIn
    (log : Log)
    (n : Nat) : List Event :=
  (log.events n).filter isTakenIn

/- A frame carries the dispatch with a number. -/
structure Carries
    (log : Log)
    (n : Nat)
    (frame : Payload) : Prop where
  kind : kindOf? frame = some .dispatch
  number : frame.field "s" = .int n
  name : frame.field "t" = (log n).kind
  data : frame.field "d" = (log n).data

/- The frame of the dispatch with a number. -/
def frame
    (log : Log)
    (n : Nat) : Payload :=
  .map
    [
      ("op", .int Opcode.dispatch.number),
      ("s", .int n),
      ("t", (log n).kind),
      ("d", (log n).data)
    ]

theorem carries_frame
    (log : Log)
    (n : Nat) :
    log.Carries n (log.frame n) :=
  ⟨rfl, rfl, rfl, rfl⟩

/- One more dispatch brings its event, if it is one. -/
theorem events_succ
    (log : Log)
    (n : Nat) :
    log.events (n + 1) =
      log.events n ++ (log.event? (n + 1)).toList := by
  unfold events
  rw [List.range'_1_concat, List.filterMap_append,
    Nat.add_comm 1 n]
  cases hEvent : log.event? (n + 1) <;> simp [hEvent]

theorem takenIn_succ
    (log : Log)
    (n : Nat) :
    log.takenIn (n + 1) =
      log.takenIn n ++
        (log.event? (n + 1)).toList.filter isTakenIn := by
  simp [takenIn, events_succ]

/- The events up to a number are those of its dispatches. -/
theorem mem_events_iff
    (log : Log)
    (n : Nat)
    (e : Event) :
    e ∈ log.events n ↔
      ∃ k, 1 ≤ k ∧ k ≤ n ∧ log.event? k = some e := by
  simp only [events, List.mem_filterMap, List.mem_range'_1]
  constructor
  · rintro ⟨k, ⟨hFirst, hLast⟩, hEvent⟩
    exact ⟨k, hFirst, by omega, hEvent⟩
  · rintro ⟨k, hFirst, hLast, hEvent⟩
    exact ⟨k, ⟨hFirst, by omega⟩, hEvent⟩

/-
  Every event gets into the queue exactly if every start of a
  session among them has a readable address.
-/
theorem takenIn_eq_events_iff
    (log : Log)
    (n : Nat) :
    log.takenIn n = log.events n ↔
      ∀ k r, 1 ≤ k → k ≤ n →
        log.event? k = some (.ready r) →
          hasReadableAddress r = true := by
  rw [takenIn, List.filter_eq_self]
  constructor
  · intro hTaken k r hFirst hLast hEvent
    exact hTaken (.ready r)
      ((log.mem_events_iff n _).mpr
        ⟨k, hFirst, hLast, hEvent⟩)
  · intro hReadable e hEvent
    rcases (log.mem_events_iff n e).mp hEvent with
      ⟨k, hFirst, hLast, hDecoded⟩
    cases e with
    | ready r => exact hReadable k r hFirst hLast hDecoded
    | _ => rfl

end Log

------------------------------------------------------------
-- Dispatches
------------------------------------------------------------

/- How a session remembers the number of the last dispatch. -/
def sequenceAt : Nat → Option Payload
  | 0 => none
  | n + 1 => some (.int (n + 1))

theorem accepted_of_sequence
    {n : Nat}
    (hSequence : s.sequence = sequenceAt n) :
    s.accepted = n := by
  cases n with
  | zero => simp [accepted, hSequence, sequenceAt]
  | succ n =>
      simp only [accepted, hSequence, sequenceAt]
      omega

/- A number is replayed if it is not above the last one. -/
theorem isReplayed_int
    {last : Nat}
    (hSequence : s.sequence = sequenceAt last)
    (n : Nat)
    (hPositive : 1 ≤ n) :
    s.isReplayed (.int n) = .ok (decide (n ≤ last)) := by
  cases last with
  | zero =>
      simp [isReplayed, hSequence, sequenceAt]
      omega
  | succ last =>
      simp only [isReplayed, hSequence, sequenceAt,
        Payload.atMost?_int]
      congr 2
      apply propext
      omega

variable {log : Log}
variable {n last : Nat}
variable {frame : Payload}

/- A dispatch that was accepted before is dropped. -/
theorem handle_of_replayed
    (m : Moment)
    (hCarries : log.Carries n frame)
    (hSequence : s.sequence = sequenceAt last)
    (hPositive : 1 ≤ n)
    (hReplayed : n ≤ last) :
    s.handle m frame = (s, none) := by
  unfold handle dispatchOnce
  simp [hCarries.kind, hCarries.number,
    isReplayed_int hSequence n hPositive, hReplayed]

/- A new dispatch is accepted, and its event is taken in. -/
theorem handle_of_new
    (m : Moment)
    (hDecodes : log.Decodes)
    (hCarries : log.Carries n frame)
    (hSequence : s.sequence = sequenceAt last)
    (hPositive : 1 ≤ n)
    (hNew : last < n)
    (hConnected : s.isConnected = true) :
    Handles ((log.event? n).toList.filter isTakenIn)
      { s with sequence := some (.int n) }
      (s.handle m frame) := by
  have hNotReplayed : ¬ n ≤ last := by omega
  have hHandle :
      s.handle m frame =
        { s with sequence := some (.int n) }.dispatch m
          frame := by
    unfold handle dispatchOnce
    simp [hCarries.kind, hCarries.number,
      isReplayed_int hSequence n hPositive, hNotReplayed]
  rcases hDecodes n hPositive with ⟨e, hDecoded⟩
  rw [hHandle]
  unfold Session.dispatch
  rw [hCarries.name, hCarries.data, hDecoded]
  unfold Log.event?
  rw [hDecoded]
  cases e with
  | none => exact ⟨.refl _, hConnected, by simp⟩
  | some e => exact takeIn_handles m e hConnected

------------------------------------------------------------
-- Other Messages
------------------------------------------------------------

/-
  What a session receives is no dispatch and does not end the
  gateway session.
-/
def Inbound.KeepsSession : Inbound → Prop
  | .frame p =>
    kindOf? p ≠ some .dispatch ∧
      (kindOf? p = some .invalidSession →
        (p.field "d").isFilled = true)
  | .nothing => True
  | .closed code =>
    ∀ n, code = some n → endsSession n = false
  | .failed cause => discardsSession cause = false

/- A heartbeat that the gateway asks for is answered. -/
theorem answerBeat_handles
    (hMoment : m.IsHarmless)
    (hConnected : s.isConnected = true) :
    Handles [] s (s.answerBeat m) := by
  unfold answerBeat
  split
  · rename_i t hBeat
    refine ⟨beat_adds hBeat, ?_, by simp⟩
    rw [eq_order_of_beat hBeat]
    exact hConnected
  · rename_i cause hBeat
    refine ⟨.refl s, hConnected, ?_⟩
    intro failure hFailure
    cases hFailure
    exact beat_harmless s hMoment cause hBeat

/- A frame that is no dispatch puts nothing into the queue. -/
theorem handle_of_other
    (hMoment : m.IsHarmless)
    (hKeeps : (Inbound.frame frame).KeepsSession)
    (hConnected : s.isConnected = true) :
    Handles [] s (s.handle m frame) := by
  unfold handle
  split
  · rename_i hKind
    exact (hKeeps.1 hKind).elim
  · exact
      ⟨Adds.of_fields rfl rfl (.inl rfl) (.inl rfl),
        hConnected, by simp⟩
  · exact answerBeat_handles hMoment hConnected
  · refine ⟨.refl s, hConnected, ?_⟩
    intro cause hCause
    cases hCause
    rfl
  · rename_i hKind
    rw [hKeeps.2 hKind]
    refine ⟨.refl s, hConnected, ?_⟩
    intro cause hCause
    cases hCause
    rfl
  · exact ⟨.refl s, hConnected, by simp⟩

/- A connection that is closed leaves a session to resume. -/
theorem receiveFailure_harmless
    {i : Inbound}
    (s : Session)
    (hKeeps : i.KeepsSession)
    (cause : Cause)
    (hFailure : s.receiveFailure i = some cause) :
    discardsSession cause = false := by
  cases i with
  | frame p => cases hFailure
  | nothing => cases hFailure
  | closed code =>
      have hCause : s.closeFailure code = cause :=
        Option.some.inj hFailure
      rw [← hCause]
      unfold closeFailure
      split
      · rfl
      · split
        · rename_i n
          simp only [hKeeps n rfl]
          split <;> rfl
        · rfl
  | failed failure =>
      have hCause : failure = cause :=
        Option.some.inj hFailure
      exact hCause ▸ hKeeps

/- What is no dispatch puts nothing into the queue. -/
theorem receive_adds
    {i : Inbound}
    (hMoment : m.IsHarmless)
    (hKeeps : i.KeepsSession)
    (hSound : s.IsSound) :
    Adds [] s (s.receive m i) := by
  have hLeft (cause : Cause)
      (hFailure : s.receiveFailure i = some cause) :
      Adds [] s (s.leave m (some cause)) := by
    apply leave_adds m _ hSound
    intro failure hSame
    cases hSame
    exact receiveFailure_harmless s hKeeps cause hFailure
  cases hPhase : s.phase with
  | greeting resuming deadline =>
      have hConnected : s.isConnected = true := by
        simp [isConnected, hPhase]
      cases hFailure : s.receiveFailure i with
      | some cause =>
          simpa [receive, hPhase, hFailure] using
            hLeft cause hFailure
      | none =>
          have hGreeted (p : Payload) :=
            greet_adds resuming p hMoment hSound hConnected
          cases i with
          | frame p =>
              simpa [receive, hPhase, hFailure] using
                hGreeted p
          | _ =>
              simpa [receive, hPhase, hFailure] using
                hGreeted .null
  | listening =>
      have hConnected : s.isConnected = true := by
        simp [isConnected, hPhase]
      cases hFailure : s.receiveFailure i with
      | some cause =>
          simpa [receive, hPhase, hFailure] using
            hLeft cause hFailure
      | none =>
          cases i with
          | frame p =>
              have hHandles :=
                handle_of_other hMoment hKeeps hConnected
              simpa [receive, hPhase, hFailure] using
                hear_adds hHandles hSound
          | _ =>
              simpa [receive, hPhase, hFailure] using
                goOn_adds m hSound hConnected
  | _ => simpa [receive, hPhase] using Adds.refl s

------------------------------------------------------------
-- Courses of a Session
------------------------------------------------------------

/-
  A session with the number of the dispatch that its
  connection carries next, and the orders that were obeyed.
-/
structure Wire where
  session : Session
  next : Nat
  obeyed : List Order

/-
  A stimulus brings no dispatch, opens no connection, and does
  not end the gateway session.
-/
def Session.Stimulus.KeepsSession : Stimulus → Prop
  | .fetched _ result => IsHarmless result
  | .opened _ (.ok _) => False
  | .opened _ (.error cause) =>
    discardsSession cause = false
  | .received m i => m.IsHarmless ∧ i.KeepsSession
  | .hydrated _ result => IsHarmless result
  | _ => True

namespace Wire

/- A session before its first connection. -/
def ofSession
    (s : Session) : Wire where
  session := s
  next := 1
  obeyed := []

/- The events that were put into the queue so far. -/
def queued
    (w : Wire) : List Event :=
  queuedIn (w.obeyed ++ w.session.outbox)

/- The session reacts; the connection carries nothing. -/
def react
    (w : Wire)
    (e : Stimulus) : Wire :=
  { w with session := w.session.react e }

/-
  What can happen as long as the gateway session is not ended.
  A connection begins no later than behind the last dispatch
  that was accepted and carries one dispatch after another.
  Dispatches are taken from it only while the session receives.
-/
inductive Step
    (log : Log) :
    Wire → Wire → Prop where
  | dispatched
      (w : Wire)
      (m : Moment)
      (frame : Payload)
      (hReceiving : w.session.isReceiving = true)
      (hCarries : log.Carries w.next frame)
      (hMoment : m.IsHarmless) :
      Step log w
        { w.react (.received m (.frame frame)) with
          next := w.next + 1 }
  | opened
      (w : Wire)
      (m : Moment)
      (first : Nat)
      (hFirst : 1 ≤ first)
      (hOverlap : first ≤ w.session.accepted + 1) :
      Step log w
        { w.react (.opened m (.ok ())) with next := first }
  | affected
      (w : Wire)
      (e : Stimulus)
      (hKeeps : e.KeepsSession) :
      Step log w (w.react e)
  | obeyed
      (w : Wire) :
      Step log w
        { w with
          session := w.session.takeOrders.2
          obeyed := w.obeyed ++ w.session.takeOrders.1 }

/- One thing happens after another. -/
abbrev Runs
    (log : Log) :
    Wire → Wire → Prop :=
  Relation.ReflTransGen (Step log)

/-
  Nothing has been accepted and no event waits: a new session,
  or one whose gateway session was ended.
-/
structure IsFresh
    (s : Session) : Prop where
  sequence : s.sequence = none
  outbox : queuedIn s.outbox = []
  sound : s.IsSound

/- A new session is fresh. -/
theorem isFresh_new
    (token : String)
    (intents : Int)
    (hydrates : Bool)
    (backoff : Backoff) :
    IsFresh (Session.new token intents hydrates backoff) :=
  ⟨rfl, rfl, fun _ hBroken => by cases hBroken⟩

/-
  The queue holds the events of all dispatches that were
  accepted, and the connection has not skipped one.
-/
structure InStep
    (log : Log)
    (w : Wire) : Prop where
  sequence :
    w.session.sequence = sequenceAt w.session.accepted
  queued : w.queued = log.takenIn w.session.accepted
  next :
    w.session.isConnected = true →
      1 ≤ w.next ∧ w.next ≤ w.session.accepted + 1
  sound : w.session.IsSound

theorem inStep_of_isFresh
    (log : Log)
    (hFresh : IsFresh s) :
    InStep log (ofSession s) := by
  have hNone : s.accepted = 0 :=
    accepted_of_sequence (n := 0) hFresh.sequence
  constructor
  · simpa [ofSession, hNone, sequenceAt] using
      hFresh.sequence
  · simpa [ofSession, queued, hNone, Log.takenIn,
      Log.events] using hFresh.outbox
  · intro _
    simp [ofSession]
  · exact hFresh.sound

variable {w : Wire}

/- A session that goes on without new events stays in step. -/
theorem inStep_of_adds
    {t : Session}
    (hInStep : InStep log w)
    (hAdds : Adds [] w.session t) :
    InStep log { w with session := t } := by
  have hAccepted : t.accepted = w.session.accepted := by
    simp only [accepted, hAdds.sequence]
  constructor
  · simpa [hAccepted, hAdds.sequence] using hInStep.sequence
  · have hQueued := hInStep.queued
    simp only [queued, queuedIn_append] at hQueued ⊢
    rw [hAdds.queued, List.append_nil, hQueued, hAccepted]
  · intro hConnected
    simpa [hAccepted] using
      hInStep.next (hAdds.connected hConnected)
  · exact hAdds.sound hInStep.sound

/- A stimulus without a dispatch puts nothing into the queue. -/
theorem react_adds
    {e : Stimulus}
    (hKeeps : e.KeepsSession)
    (hSound : s.IsSound) :
    Adds [] s (s.react e) := by
  cases e with
  | connect => exact connect_adds s
  | close => exact close_adds s
  | fetched m result => exact fetched_adds s m hKeeps
  | opened m result =>
      cases result with
      | ok _ => exact hKeeps.elim
      | error cause => exact opened_adds_of_error s m hKeeps
  | received m i => exact receive_adds hKeeps.1 hKeeps.2 hSound
  | hydrated m result => exact hydrated_adds m hKeeps hSound
  | passed m => exact tick_adds m hSound
  | lost =>
      exact Adds.of_fields rfl rfl (.inl rfl) (.inl rfl)

/- A connection that is opened may send again what it likes. -/
theorem inStep_opened
    {first : Nat}
    (m : Moment)
    (hInStep : InStep log w)
    (hFirst : 1 ≤ first)
    (hOverlap : first ≤ w.session.accepted + 1) :
    InStep log
      { w.react (.opened m (.ok ())) with next := first } := by
  have hSession :
      (w.session.opened m (.ok ())).sequence =
          w.session.sequence ∧
        (w.session.opened m (.ok ())).outbox =
          w.session.outbox ∧
        (w.session.opened m (.ok ())).heartbeat =
          w.session.heartbeat := by
    unfold Session.opened
    split
    · exact ⟨rfl, rfl, rfl⟩
    · rename_i hResult
      cases hResult
    · exact ⟨rfl, rfl, rfl⟩
  rcases hSession with ⟨hSequence, hOutbox, hHeartbeat⟩
  have hAccepted :
      (w.session.opened m (.ok ())).accepted =
        w.session.accepted := by
    simp only [accepted, hSequence]
  constructor
  · simpa [Wire.react, Session.react, hAccepted, hSequence]
      using hInStep.sequence
  · simpa [Wire.react, Session.react, queued, hAccepted,
      hOutbox] using hInStep.queued
  · intro _
    exact ⟨hFirst, by
      simpa [Wire.react, Session.react, hAccepted] using
        hOverlap⟩
  · intro cause hBroken
    exact hInStep.sound cause (hHeartbeat ▸ hBroken)

/- A dispatch is no first frame: the connection is left. -/
theorem receive_of_greeting
    {resuming : Bool}
    {deadline : Rat}
    (m : Moment)
    (hPhase : s.phase = .greeting resuming deadline)
    (hKind : kindOf? frame = some .dispatch) :
    (s.receive m (.frame frame)).isConnected = false := by
  have hReceive :
      s.receive m (.frame frame) =
        s.greet m resuming frame := by
    simp [receive, hPhase, receiveFailure]
  rw [hReceive]
  unfold greet
  split
  · exact leave_disconnects _ _ _
  · rename_i interval hRead
    have hSame :=
      isKind_unique (isKind_of_kindOf? hKind)
        (isKind_hello_of_readInterval hRead)
    cases hSame

/- A dispatch that comes while the session listens. -/
theorem receive_of_listening
    (m : Moment)
    (frame : Payload)
    (hPhase : s.phase = .listening) :
    s.receive m (.frame frame) = s.hear m frame := by
  simp [receive, hPhase, receiveFailure]

/- A dispatch that was accepted before changes nothing. -/
theorem inStep_replayed
    (hInStep : InStep log w)
    (hListening : w.session.phase = .listening)
    (hCarries : log.Carries w.next frame)
    (hReplayed : w.next ≤ w.session.accepted) :
    InStep log
      { w.react (.received m (.frame frame)) with
        next := w.next + 1 } := by
  have hConnected : w.session.isConnected = true := by
    simp [isConnected, hListening]
  have hPositive := (hInStep.next hConnected).1
  have hHandles :
      Handles [] w.session (w.session.handle m frame) := by
    rw [handle_of_replayed m hCarries hInStep.sequence
      hPositive hReplayed]
    exact ⟨.refl _, hConnected, by simp⟩
  have hAdds := hear_adds hHandles hInStep.sound
  rw [← receive_of_listening m frame hListening] at hAdds
  have hStays := inStep_of_adds hInStep hAdds
  refine ⟨hStays.sequence, hStays.queued, ?_, hStays.sound⟩
  intro _
  have hAccepted :
      (w.session.receive m (.frame frame)).accepted =
        w.session.accepted := by
    simp only [accepted, hAdds.sequence]
  simp only [Wire.react, Session.react, hAccepted]
  omega

/- A new dispatch is accepted, and its event is queued. -/
theorem inStep_new
    (m : Moment)
    (hDecodes : log.Decodes)
    (hInStep : InStep log w)
    (hListening : w.session.phase = .listening)
    (hCarries : log.Carries w.next frame)
    (hNew : w.next = w.session.accepted + 1) :
    InStep log
      { w.react (.received m (.frame frame)) with
        next := w.next + 1 } := by
  have hConnected : w.session.isConnected = true := by
    simp [isConnected, hListening]
  have hHandles :=
    handle_of_new m hDecodes hCarries hInStep.sequence
      (by omega) (by omega) hConnected
  have hAdds := hear_adds hHandles hInStep.sound
  rw [← receive_of_listening m frame hListening] at hAdds
  have hSequence :
      (w.session.receive m (.frame frame)).sequence =
        sequenceAt (w.session.accepted + 1) := by
    rw [hAdds.sequence, hNew]
    simp [sequenceAt]
  have hAccepted := accepted_of_sequence hSequence
  constructor
  · simpa [Wire.react, Session.react, hAccepted] using
      hSequence
  · have hQueued := hInStep.queued
    simp only [queued, queuedIn_append, Wire.react,
      Session.react] at hQueued ⊢
    rw [hAdds.queued, hAccepted, Log.takenIn_succ,
      ← List.append_assoc, hQueued, hNew]
  · intro _
    simp only [Wire.react, Session.react, hAccepted]
    omega
  · exact hAdds.sound hInStep.sound

/- A dispatch is accepted and taken in, or dropped. -/
theorem inStep_dispatched
    (hDecodes : log.Decodes)
    (hInStep : InStep log w)
    (hReceiving : w.session.isReceiving = true)
    (hCarries : log.Carries w.next frame)
    (hMoment : m.IsHarmless) :
    InStep log
      { w.react (.received m (.frame frame)) with
        next := w.next + 1 } := by
  cases hPhase : w.session.phase with
  | greeting resuming deadline =>
      have hConnected : w.session.isConnected = true := by
        simp [isConnected, hPhase]
      have hAdds :
          Adds [] w.session
            (w.session.receive m (.frame frame)) := by
        simpa [receive, hPhase, receiveFailure] using
          greet_adds resuming frame hMoment hInStep.sound
            hConnected
      have hStays := inStep_of_adds hInStep hAdds
      refine
        ⟨hStays.sequence, hStays.queued, ?_, hStays.sound⟩
      intro hStill
      have hLeft :=
        receive_of_greeting m hPhase hCarries.kind
      simp [Wire.react, Session.react, hLeft] at hStill
  | listening =>
      have hConnected : w.session.isConnected = true := by
        simp [isConnected, hPhase]
      rcases hInStep.next hConnected with
        ⟨hPositive, hOverlap⟩
      by_cases hReplayed : w.next ≤ w.session.accepted
      · exact inStep_replayed hInStep hPhase hCarries hReplayed
      · exact inStep_new m hDecodes hInStep hPhase hCarries
          (by omega)
  | _ => simp [isReceiving, hPhase] at hReceiving

/- Whatever happens, a session stays in step with its log. -/
theorem inStep_of_step
    {v : Wire}
    (hDecodes : log.Decodes)
    (hInStep : InStep log w)
    (hStep : Step log w v) :
    InStep log v := by
  cases hStep with
  | dispatched m frame hReceiving hCarries hMoment =>
      exact inStep_dispatched hDecodes hInStep hReceiving
        hCarries hMoment
  | opened m first hFirst hOverlap =>
      exact inStep_opened m hInStep hFirst hOverlap
  | affected e hKeeps =>
      exact inStep_of_adds hInStep
        (react_adds hKeeps hInStep.sound)
  | obeyed =>
      refine ⟨hInStep.sequence, ?_, hInStep.next,
        hInStep.sound⟩
      simpa [queued, takeOrders, accepted] using
        hInStep.queued

/- A fresh session is in step with its log at every time. -/
theorem inStep_of_runs
    (hDecodes : log.Decodes)
    (hFresh : IsFresh s)
    (hRuns : Runs log (ofSession s) w) :
    InStep log w := by
  induction hRuns with
  | refl => exact inStep_of_isFresh log hFresh
  | tail _ hStep ih => exact inStep_of_step hDecodes ih hStep

/-
  In every run, the queue holds the events of the dispatches
  up to the last accepted one, each once and in order, except
  for starts of a session without a readable address. So it
  holds the events of all of them exactly if no such start was
  accepted.
-/
theorem queued_eq_events_iff
    (log : Log)
    (s : Session)
    (w : Wire)
    (hDecodes : log.Decodes)
    (hFresh : IsFresh s)
    (hRuns : Runs log (ofSession s) w) :
    w.session.sequence = sequenceAt w.session.accepted ∧
      w.queued = log.takenIn w.session.accepted ∧
      (w.queued = log.events w.session.accepted ↔
        ∀ n r, 1 ≤ n → n ≤ w.session.accepted →
          log.event? n = some (.ready r) →
            hasReadableAddress r = true) := by
  have hInStep := inStep_of_runs hDecodes hFresh hRuns
  refine ⟨hInStep.sequence, hInStep.queued, ?_⟩
  rw [hInStep.queued]
  exact log.takenIn_eq_events_iff w.session.accepted

/- A start of a session without an address, then its resuming. -/
def unreadableStart : Log
  | 1 =>
    {
      kind := .text "READY"
      data :=
        .map
          [
            ("session_id", .text "s"),
            ("resume_gateway_url", .int 5)
          ]
    }
  | _ => ⟨.text "RESUMED", .map []⟩

/- The first frame of a connection. -/
def greeting : Payload :=
  .map
    [
      ("op", .int Opcode.hello.number),
      ("d", .map [("heartbeat_interval", .int 1000)])
    ]

/- Nothing fails at the start of the clock. -/
def calm : Moment :=
  ⟨0, 0, 0, none⟩

/- A session that was never connected. -/
def unconnected : Session :=
  Session.new "token" 513 false (Backoff.ofBounds 1 60 120 0)

theorem calm_isHarmless :
    calm.IsHarmless := by
  intro cause hFailure
  cases hFailure

/-
  The start is accepted and ends the first connection. The
  second one sends it again, and goes on behind it.
-/
theorem queued_of_unreadableStart :
    ∃ w,
      Runs unreadableStart (ofSession unconnected) w ∧
        w.session.accepted = 2 ∧
        w.queued = [.resumed] ∧
        unreadableStart.events 2 =
          [.ready ⟨"s", .int 5, 0, []⟩, .resumed] := by
  have hDecodes : unreadableStart.Decodes := by
    intro n _
    match n with
    | 0 => exact ⟨_, rfl⟩
    | 1 => exact ⟨_, rfl⟩
    | _ + 2 => exact ⟨_, rfl⟩
  have hGreeting : (Inbound.frame greeting).KeepsSession :=
    ⟨by decide, by decide⟩
  have hFetched : IsHarmless (Except.ok "url") := by
    intro cause hError
    cases hError
  have hStart :
      Runs unreadableStart (ofSession unconnected)
        (ofSession unconnected) := .refl
  have hFirst :=
    (((hStart.tail (.affected _ .connect trivial)).tail
      (.affected _ (.fetched calm (.ok "url")) hFetched)).tail
      (.opened _ calm 1 (by decide) (by decide))).tail
      (.affected _ (.received calm (.frame greeting))
        ⟨calm_isHarmless, hGreeting⟩)
  have hLost :=
    hFirst.tail
      (.dispatched _ calm _ (by decide)
        (Log.carries_frame _ _) calm_isHarmless)
  have hSecond :=
    ((hLost.tail (.affected _ .connect trivial)).tail
      (.opened _ calm 1 (by decide) (by decide))).tail
      (.affected _ (.received calm (.frame greeting))
        ⟨calm_isHarmless, hGreeting⟩)
  have hReplayed :=
    hSecond.tail
      (.dispatched _ calm _ (by decide)
        (Log.carries_frame _ _) calm_isHarmless)
  have hResumed :=
    hReplayed.tail
      (.dispatched _ calm _ (by decide)
        (Log.carries_frame _ _) calm_isHarmless)
  have hQueued :=
    (queued_eq_events_iff _ _ _ hDecodes
      (isFresh_new _ _ _ _) hResumed).2.1
  exact ⟨_, hResumed, rfl, hQueued, rfl⟩

end Wire

end GuildWarden.Gateway
