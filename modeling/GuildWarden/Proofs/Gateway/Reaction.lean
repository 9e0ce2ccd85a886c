import GuildWarden.Proofs.Gateway.Handling

/-
  This file says once what can come of a stimulus: the session
  goes on listening, hydrates, leaves or loses a connection,
  makes an attempt, or is hardly moved. The laws about whole
  runs take their cases from here.

  Key definitions include:
    * `Gateway.Session.GoesOn`
    * `Gateway.Session.Leaves`
    * `Gateway.Session.Aside`
    * `Gateway.Session.Reaction`
    * `Gateway.Session.IsAtRest`

  Main statements:
    * `Gateway.Session.reaction_react`
    * `Gateway.Session.aside_of_ended`
    * `Gateway.Session.broken_of_reaction`
-/

namespace GuildWarden.Gateway.Session

variable {s t u : Session}
variable {m : Moment}
variable {cause : Cause}
variable {failure : Option Cause}
variable {x : Stimulus}
variable {p : Payload}

------------------------------------------------------------
-- Reactions
------------------------------------------------------------

/- The first frame; a message without a frame is an empty one. -/
def firstFrame? : Inbound → Option Payload
  | .frame p => some p
  | .nothing => some .null
  | _ => none

/- Whether a session waits for its socket. -/
def isOpening
    (s : Session) : Bool :=
  match s.phase with
  | .opening _ => true
  | _ => false

/- The session listens next, unless it is being closed. -/
inductive GoesOn
    (s : Session) : Stimulus → Moment → Session → Prop where
  | greeted {m : Moment} {i : Inbound} {p : Payload}
      {resuming : Bool} {deadline : Rat} {interval : Span}
      {t : Session}
      (hPhase : s.phase = .greeting resuming deadline)
      (hFrame : firstFrame? i = some p)
      (hRead : readInterval p = .ok interval)
      (hSent :
        (s.startHeartbeat m interval).present m resuming =
          .ok t) :
      GoesOn s (.received m i) m t
  | heard {m : Moment} {p : Payload} {t : Session}
      (hPhase : s.phase = .listening)
      (hHandling : Handling s m p (t, none))
      (hRests : t.phase ≠ .hydrating) :
      GoesOn s (.received m (.frame p)) m t
  | unheard {m : Moment}
      (hPhase : s.phase = .listening) :
      GoesOn s (.received m .nothing) m s
  | hydrated {m : Moment}
      (hPhase : s.phase = .hydrating) :
      GoesOn s (.hydrated m (.ok ())) m (s.markActive m.now)

/- The session leaves its connection, with a failure or without. -/
inductive Leaves
    (s : Session) :
    Stimulus → Moment → Session → Option Cause → Prop where
  | refused {m : Moment} {i : Inbound} {cause : Cause}
      (hReceiving : s.isReceiving = true)
      (hFailure : s.receiveFailure i = some cause) :
      Leaves s (.received m i) m s (some cause)
  | ungreeted {m : Moment} {i : Inbound} {p : Payload}
      {cause : Cause}
      (hGreeting : s.isGreeting = true)
      (hFrame : firstFrame? i = some p)
      (hRead : readInterval p = .error cause) :
      Leaves s (.received m i) m s (some cause)
  | unpresented {m : Moment} {i : Inbound} {p : Payload}
      {resuming : Bool} {interval : Span} {cause : Cause}
      (hGreeting : s.isGreeting = true)
      (hFrame : firstFrame? i = some p)
      (hRead : readInterval p = .ok interval)
      (hSent :
        (s.startHeartbeat m interval).present m resuming =
          .error cause) :
      Leaves s (.received m i) m (s.startHeartbeat m interval)
        (some cause)
  | failed {m : Moment} {p : Payload} {t : Session}
      {cause : Cause}
      (hPhase : s.phase = .listening)
      (hHandling : Handling s m p (t, some cause)) :
      Leaves s (.received m (.frame p)) m t (some cause)
  | unhydrated {m : Moment} {cause : Cause}
      (hPhase : s.phase = .hydrating) :
      Leaves s (.hydrated m (.error cause)) m s (some cause)
  | timedOut {m : Moment}
      (hGreeting : s.isGreeting = true) :
      Leaves s (.passed m) m s (some .timedOut)
  | stopped {x : Stimulus} {m : Moment} {t : Session}
      (hGoes : GoesOn s x m t)
      (hClosing : t.closing = true) :
      Leaves s x m t none

/- An attempt fails before there is a connection. -/
inductive Loses
    (s : Session) : Stimulus → Moment → Cause → Prop where
  | unfetched {m : Moment} {resuming : Bool} {cause : Cause}
      (hPhase : s.phase = .fetching resuming) :
      Loses s (.fetched m (.error cause)) m cause
  | unopened {m : Moment} {resuming : Bool} {cause : Cause}
      (hPhase : s.phase = .opening resuming) :
      Loses s (.opened m (.error cause)) m cause

/- Whether a stimulus means anything to a session. -/
def awaits
    (s : Session) : Stimulus → Bool
  | .connect => true
  | .close => !s.closing
  | .fetched _ _ => s.isFetching
  | .opened _ _ => s.isOpening
  | .received _ _ => s.isReceiving
  | .hydrated _ _ => s.phase = .hydrating
  | .passed m =>
    s.beatDue?.any (· ≤ m.now) || s.phaseDue?.any (· ≤ m.now)
  | .lost => true

/- What can come of a stimulus that does not bear on the phase. -/
inductive Aside
    (s : Session) : Stimulus → Session → Prop where
  | unmoved {x : Stimulus}
      (hUnawaited : s.awaits x = false) :
      Aside s x s
  | closed
      (hPhase : ∀ until_, s.phase ≠ .waiting until_) :
      Aside s .close
        ({ s with closing := true }.closeSocket leaveCode)
  | lost : Aside s .lost { s with socketOpen := false }
  | beaten {m : Moment} {t : Session}
      (hDue : s.beatDue?.isSome = true)
      (hPulses : Pulses s m t) :
      Aside s (.passed m) t

/- What can come of a stimulus. -/
inductive Reaction
    (s : Session) : Stimulus → Session → Prop where
  | aside {x : Stimulus} {t : Session}
      (hAside : Aside s x t) :
      Reaction s x t
  | connected :
      Reaction s .connect
        ({ s with
          closing := false }.setStatus .connecting).attempt
  | ceased {until_ : Rat}
      (hPhase : s.phase = .waiting until_) :
      Reaction s .close
        (({ s with closing := true }.closeSocket
          leaveCode).finish none)
  | fetched {m : Moment} {resuming : Bool} {url : String}
      (hPhase : s.phase = .fetching resuming) :
      Reaction s (.fetched m (.ok url))
        ({ s with gatewayUrl := some url }.openAt resuming url)
  | opened {m : Moment} {resuming : Bool}
      (hPhase : s.phase = .opening resuming) :
      Reaction s (.opened m (.ok ()))
        { s with
          socketOpen := true
          phase :=
            .greeting resuming (m.now + greetingTimeout) }
  | retried {m : Moment} {until_ : Rat}
      (hPhase : s.phase = .waiting until_) :
      Reaction s (.passed m) s.attempt
  | hydrates {m : Moment} {p : Payload} {t : Session}
      (hPhase : s.phase = .listening)
      (hHandling : Handling s m p (t, none))
      (hHydrating : t.phase = .hydrating) :
      Reaction s (.received m (.frame p)) t
  | listens {x : Stimulus} {m : Moment} {t : Session}
      (hGoes : GoesOn s x m t)
      (hOpen : t.closing = false) :
      Reaction s x { t with phase := .listening }
  | leaves {x : Stimulus} {m : Moment} {t : Session}
      {failure : Option Cause}
      (hLeaves : Leaves s x m t failure) :
      Reaction s x (t.leave m failure)
  | loses {x : Stimulus} {m : Moment} {cause : Cause}
      (hLoses : Loses s x m cause) :
      Reaction s x (s.lose m cause)

/- A session goes on listening, or stops because it closes. -/
theorem reaction_goOn
    (hGoes : GoesOn s x m t) :
    Reaction s x (t.goOn m) := by
  unfold goOn
  split
  · rename_i hClosing
    exact .leaves (.stopped hGoes hClosing)
  · rename_i hOpen
    exact .listens hGoes (by simpa using hOpen)

theorem reaction_close
    (s : Session) :
    Reaction s .close s.close := by
  have hPhase :
      ({ s with closing := true }.closeSocket
        leaveCode).phase = s.phase :=
    closeSocket_phase _ _
  unfold close
  split
  · rename_i hClosing
    exact .aside (.unmoved (by simp [awaits, hClosing]))
  · simp only [hPhase]
    split
    · rename_i until_ hWaiting
      exact .ceased hWaiting
    · rename_i hElse
      exact .aside (.closed hElse)

theorem reaction_fetched
    (s : Session)
    (m : Moment)
    (result : Except Cause String) :
    Reaction s (.fetched m result) (s.fetched m result) := by
  unfold Session.fetched
  cases hPhase : s.phase with
  | fetching resuming =>
      cases result with
      | ok url => exact .fetched hPhase
      | error cause => exact .loses (.unfetched hPhase)
  | _ =>
      exact .aside (.unmoved (by simp [awaits, isFetching, hPhase]))

theorem reaction_opened
    (s : Session)
    (m : Moment)
    (result : Except Cause Unit) :
    Reaction s (.opened m result) (s.opened m result) := by
  unfold Session.opened
  cases hPhase : s.phase with
  | opening resuming =>
      cases result with
      | ok => exact .opened hPhase
      | error cause => exact .loses (.unopened hPhase)
  | _ =>
      exact .aside (.unmoved (by simp [awaits, isOpening, hPhase]))

/- The first frame is answered, or the connection is left. -/
theorem reaction_greet
    {i : Inbound}
    {resuming : Bool}
    {deadline : Rat}
    (m : Moment)
    (hPhase : s.phase = .greeting resuming deadline)
    (hFrame : firstFrame? i = some p) :
    Reaction s (.received m i) (s.greet m resuming p) := by
  have hGreeting : s.isGreeting = true := by
    simp [isGreeting, hPhase]
  unfold greet
  split
  · rename_i cause hRead
    exact .leaves (.ungreeted hGreeting hFrame hRead)
  · rename_i interval hRead
    simp only [goOnOrLeave]
    split
    · rename_i t hSent
      exact reaction_goOn
        (.greeted hPhase hFrame hRead hSent)
    · rename_i cause hSent
      exact .leaves
        (.unpresented hGreeting hFrame hRead hSent)

/- A frame is heard, and the session goes on, rests or leaves. -/
theorem reaction_hear
    (m : Moment)
    (p : Payload)
    (hPhase : s.phase = .listening) :
    Reaction s (.received m (.frame p)) (s.hear m p) := by
  have hHandling := handling_handle s m p
  unfold hear
  split
  · rename_i t cause hResult
    rw [hResult] at hHandling
    exact .leaves (.failed hPhase hHandling)
  · rename_i t hResult
    rw [hResult] at hHandling
    split
    · rename_i hHydrating
      exact .hydrates hPhase hHandling hHydrating
    · rename_i hRests
      exact reaction_goOn (.heard hPhase hHandling hRests)

theorem reaction_receive
    (s : Session)
    (m : Moment)
    (i : Inbound) :
    Reaction s (.received m i) (s.receive m i) := by
  have hRefused {cause : Cause}
      (hReceiving : s.isReceiving = true)
      (hFailure : s.receiveFailure i = some cause) :
      Reaction s (.received m i) (s.leave m (some cause)) :=
    .leaves (.refused hReceiving hFailure)
  unfold receive
  cases hPhase : s.phase with
  | greeting resuming deadline =>
      have hReceiving : s.isReceiving = true := by
        simp [isReceiving, hPhase]
      cases i with
      | frame p => exact reaction_greet m hPhase rfl
      | nothing => exact reaction_greet m hPhase rfl
      | closed code => exact hRefused hReceiving rfl
      | failed cause => exact hRefused hReceiving rfl
  | listening =>
      have hReceiving : s.isReceiving = true := by
        simp [isReceiving, hPhase]
      cases i with
      | frame p => exact reaction_hear m p hPhase
      | nothing => exact reaction_goOn (.unheard hPhase)
      | closed code => exact hRefused hReceiving rfl
      | failed cause => exact hRefused hReceiving rfl
  | _ =>
      exact .aside (.unmoved (by simp [awaits, isReceiving, hPhase]))

theorem reaction_hydrated
    (s : Session)
    (m : Moment)
    (result : Except Cause Unit) :
    Reaction s (.hydrated m result) (s.hydrated m result) := by
  unfold Session.hydrated
  cases hPhase : s.phase with
  | hydrating =>
      cases result with
      | ok => exact reaction_goOn (.hydrated hPhase)
      | error cause => exact .leaves (.unhydrated hPhase)
  | _ => exact .aside (.unmoved (by simp [awaits, hPhase]))

theorem reaction_tick
    (s : Session)
    (m : Moment) :
    Reaction s (.passed m) (s.tick m) := by
  unfold tick
  split
  · rename_i hDue
    refine .aside (.beaten ?_ (pulses_pulse s m))
    cases hBeat : s.beatDue? with
    | none => simp [hBeat] at hDue
    | some t => rfl
  · rename_i hEarly
    split
    · rename_i hDue
      unfold runOut
      cases hPhase : s.phase with
      | greeting =>
          exact .leaves
            (.timedOut (by simp [isGreeting, hPhase]))
      | waiting => exact .retried hPhase
      | _ => simp [phaseDue?, hPhase] at hDue
    · rename_i hLater
      rw [Bool.not_eq_true] at hEarly hLater
      exact .aside
        (.unmoved (by simp [awaits, hEarly, hLater]))

/- What comes of a stimulus is one of these. -/
theorem reaction_react
    (s : Session)
    (x : Stimulus) :
    Reaction s x (s.react x) := by
  cases x with
  | connect => exact .connected
  | close => exact reaction_close s
  | fetched m result => exact reaction_fetched s m result
  | opened m result => exact reaction_opened s m result
  | received m i => exact reaction_receive s m i
  | hydrated m result => exact reaction_hydrated s m result
  | passed m => exact reaction_tick s m
  | lost => exact .aside .lost

/- A stimulus that does not bear on the phase leaves it alone. -/
theorem Aside.fields
    (hAside : Aside s x t) :
    t.phase = s.phase ∧ t.status = s.status ∧
      t.hydrates = s.hydrates ∧ t.sessionId = s.sessionId := by
  cases hAside with
  | unmoved => exact ⟨rfl, rfl, rfl, rfl⟩
  | closed =>
      rw [closeSocket_eq]
      exact ⟨rfl, rfl, rfl, rfl⟩
  | lost => exact ⟨rfl, rfl, rfl, rfl⟩
  | beaten _ hPulses =>
      cases hPulses <;> exact ⟨rfl, rfl, rfl, rfl⟩

/- A session that has ended is not connected. -/
theorem isConnected_of_ended
    (hEnded : s.hasEnded = true) :
    s.isConnected = false := by
  cases hPhase : s.phase <;>
    simp [hasEnded, isConnected, hPhase] at hEnded ⊢

theorem isConnected_of_isGreeting
    (hGreeting : s.isGreeting = true) :
    s.isConnected = true := by
  cases hPhase : s.phase <;>
    simp [isGreeting, isConnected, hPhase] at hGreeting ⊢

theorem isConnected_of_isReceiving
    (hReceiving : s.isReceiving = true) :
    s.isConnected = true := by
  cases hPhase : s.phase <;>
    simp [isReceiving, isConnected, hPhase] at hReceiving ⊢

/- Only a connected session goes on, or leaves. -/
theorem GoesOn.connected
    (hGoes : GoesOn s x m t) :
    s.isConnected = true := by
  cases hGoes with
  | greeted hPhase => simp [isConnected, hPhase]
  | heard hPhase => simp [isConnected, hPhase]
  | unheard hPhase => simp [isConnected, hPhase]
  | hydrated hPhase => simp [isConnected, hPhase]

theorem Leaves.connected
    (hLeaves : Leaves s x m t failure) :
    s.isConnected = true := by
  cases hLeaves with
  | refused hReceiving =>
      exact isConnected_of_isReceiving hReceiving
  | ungreeted hGreeting =>
      exact isConnected_of_isGreeting hGreeting
  | unpresented hGreeting =>
      exact isConnected_of_isGreeting hGreeting
  | failed hPhase => simp [isConnected, hPhase]
  | unhydrated hPhase => simp [isConnected, hPhase]
  | timedOut hGreeting =>
      exact isConnected_of_isGreeting hGreeting
  | stopped hGoes => exact hGoes.connected

/- Nothing bears on a session that has ended, but connecting. -/
theorem aside_of_ended
    (hReaction : Reaction s x t)
    (hOther : x ≠ .connect)
    (hEnded : s.hasEnded = true) :
    Aside s x t := by
  have hLeft := isConnected_of_ended hEnded
  cases hReaction with
  | aside hAside => exact hAside
  | connected => exact (hOther rfl).elim
  | ceased hPhase => simp [hasEnded, hPhase] at hEnded
  | fetched hPhase => simp [hasEnded, hPhase] at hEnded
  | opened hPhase => simp [hasEnded, hPhase] at hEnded
  | retried hPhase => simp [hasEnded, hPhase] at hEnded
  | hydrates hPhase => simp [hasEnded, hPhase] at hEnded
  | listens hGoes => cases hLeft.symm.trans hGoes.connected
  | leaves hLeaves => cases hLeft.symm.trans hLeaves.connected
  | loses hLoses =>
      cases hLoses with
      | unfetched hPhase => simp [hasEnded, hPhase] at hEnded
      | unopened hPhase => simp [hasEnded, hPhase] at hEnded

------------------------------------------------------------
-- Settings and Heartbeat
------------------------------------------------------------

/- The heartbeat of a session that goes on was started, or kept. -/
theorem GoesOn.heartbeat
    (hGoes : GoesOn s x m t) :
    t.heartbeat = s.heartbeat ∨ ∃ due, t.heartbeat = .due due := by
  cases hGoes with
  | greeted _ _ _ hSent =>
      rw [eq_order_of_send hSent]
      exact Or.inr ⟨_, rfl⟩
  | heard _ hHandling => exact Or.inl hHandling.keeps.heartbeat
  | unheard => exact Or.inl rfl
  | hydrated => exact Or.inl (markActive_keeps s m.now).heartbeat

theorem Leaves.heartbeat
    (hLeaves : Leaves s x m t failure) :
    t.heartbeat = s.heartbeat ∨ ∃ due, t.heartbeat = .due due := by
  cases hLeaves with
  | unpresented => exact Or.inr ⟨_, rfl⟩
  | failed _ hHandling => exact Or.inl hHandling.keeps.heartbeat
  | stopped hGoes => exact hGoes.heartbeat
  | _ => exact Or.inl rfl

/- A session goes on with the same settings. -/
theorem GoesOn.fields
    (hGoes : GoesOn s x m t) :
    t.closing = s.closing ∧ t.hydrates = s.hydrates := by
  cases hGoes with
  | greeted _ _ _ hSent =>
      rw [eq_order_of_send hSent]
      exact ⟨rfl, rfl⟩
  | heard _ hHandling =>
      exact ⟨hHandling.keeps.closing, hHandling.keeps.hydrates⟩
  | unheard => exact ⟨rfl, rfl⟩
  | hydrated =>
      have hKeeps := markActive_keeps s m.now
      exact ⟨hKeeps.closing, hKeeps.hydrates⟩

/- It leaves with them, too. -/
theorem Leaves.fields
    (hLeaves : Leaves s x m t failure) :
    t.closing = s.closing ∧ t.hydrates = s.hydrates := by
  cases hLeaves with
  | stopped hGoes => exact hGoes.fields
  | failed _ hHandling =>
      exact ⟨hHandling.keeps.closing, hHandling.keeps.hydrates⟩
  | _ => exact ⟨rfl, rfl⟩

/- So a heartbeat is broken from before, or could not be sent. -/
theorem broken_of_reaction
    (hReaction : Reaction s x t)
    (hBroken : t.heartbeat = .broken cause) :
    s.heartbeat = .broken cause ∨
      ∃ m, x = .passed m ∧ m.sendFailure = some cause ∧
        isExpected cause = false := by
  cases hReaction with
  | aside hAside =>
      cases hAside with
      | closed =>
          rw [closeSocket_eq] at hBroken
          exact Or.inl hBroken
      | beaten _ hPulses =>
          exact Or.inr ⟨_, rfl, hPulses.broken hBroken⟩
      | _ => exact Or.inl hBroken
  | connected =>
      rw [(attempt_keeps _).heartbeat,
        (setStatus_keeps _ _).heartbeat] at hBroken
      exact Or.inl hBroken
  | ceased =>
      rw [finish_eq, closeSocket_eq] at hBroken
      exact Or.inl hBroken
  | retried =>
      rw [(attempt_keeps s).heartbeat] at hBroken
      exact Or.inl hBroken
  | hydrates _ hHandling =>
      rw [hHandling.keeps.heartbeat] at hBroken
      exact Or.inl hBroken
  | listens hGoes =>
      rcases hGoes.heartbeat with hSame | ⟨due, hDue⟩
      · exact Or.inl (hSame.symm.trans hBroken)
      · cases hDue.symm.trans hBroken
  | leaves hLeaves =>
      cases (leave_fields _ _ _).2.2.symm.trans hBroken
  | loses hLoses =>
      rw [(lose_fields _ _ _).2.2] at hBroken
      exact Or.inl hBroken
  | _ => exact Or.inl hBroken

------------------------------------------------------------
-- Runs
------------------------------------------------------------

/- A session that is not connected, and has nothing open. -/
structure IsAtRest
    (s : Session) : Prop where
  phase : s.phase = .idle ∨ s.hasEnded = true
  status : s.status = .disconnected
  heartbeat : s.heartbeat = .silent
  socketOpen : s.socketOpen = false

/- A new session is at rest. -/
theorem isAtRest_new
    (token : String)
    (intents : Int)
    (hydrates : Bool)
    (backoff : Backoff) :
    (Session.new token intents hydrates backoff).IsAtRest :=
  ⟨Or.inl rfl, rfl, rfl, rfl⟩

/- A session connects again only after it has ended. -/
def IsInTurn
    (s : Session) : List Stimulus → Prop
  | [] => True
  | x :: xs =>
    s.IsInTurn xs ∧
      (x = .connect → (s.course xs).hasEnded = true)

end GuildWarden.Gateway.Session
