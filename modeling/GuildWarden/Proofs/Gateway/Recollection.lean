import GuildWarden.Proofs.Gateway.Hearing

/-
  This file relates what a session keeps to the dispatches that
  were heard since it was last forgotten, whatever their numbers
  are and however often it connects. On its way to a connection
  the session keeps its number and its id, resumes if it can,
  and else presents itself anew.

  Key definitions include:
    * `Gateway.Session.lastNumber`
    * `Gateway.Session.lastStart`
    * `Gateway.Session.isNews`
    * `Gateway.Session.forgets`
    * `Gateway.Session.heard`
    * `Gateway.Session.identifies`
    * `Gateway.Session.Turns`

  Main statements:
    * `Gateway.Session.leave_recalls`
    * `Gateway.Session.attempt_turns`
    * `Gateway.Session.greet_turns`
-/

namespace GuildWarden.Gateway.Session

variable {s t u : Session}
variable {m : Moment}
variable {cause : Cause}
variable {dispatches : List Payload}
variable {x : Stimulus}

------------------------------------------------------------
-- What the Dispatches Tell
------------------------------------------------------------

/- Whether a number is above the last one, if there is one. -/
def isAbove
    (number : Payload) : Option Payload → Bool
  | none => true
  | some last => number.atMost? last == some false

/- The last number among dispatches, the latest first. -/
def lastNumber : List Payload → Option Payload
  | [] => none
  | p :: dispatches =>
    match p.field "s" with
    | .null => lastNumber dispatches
    | number =>
      if isAbove number (lastNumber dispatches) then some number
      else lastNumber dispatches

/- Whether a dispatch is no replay after those before it. -/
def isNews
    (dispatches : List Payload)
    (p : Payload) : Bool :=
  match p.field "s" with
  | .null => true
  | number => isAbove number (lastNumber dispatches)

/- The start that a dispatch announces, if it can be read. -/
def startOf?
    (p : Payload) : Option Event.Ready :=
  match Event.decode (p.field "t") (p.field "d") with
  | .ok (some (.ready r)) => some r
  | _ => none

/- The latest start among dispatches that were no replays. -/
def lastStart : List Payload → Option Event.Ready
  | [] => none
  | p :: dispatches =>
    if isNews dispatches p then
      (startOf? p).orElse fun _ => lastStart dispatches
    else lastStart dispatches

/- There is no number exactly if no dispatch carried one. -/
theorem lastNumber_eq_none_iff :
    lastNumber dispatches = none ↔
      ∀ p ∈ dispatches, p.field "s" = .null := by
  induction dispatches with
  | nil => simp [lastNumber]
  | cons p dispatches hInduction =>
      rw [List.forall_mem_cons, ← hInduction]
      simp only [lastNumber]
      split
      · rename_i hNull
        simp [hNull]
      · rename_i hNumber
        cases hLast : lastNumber dispatches with
        | none => simpa [isAbove] using hNumber
        | some last => split <;> simp

/- Without a number every dispatch is news. -/
theorem isNews_of_unnumbered
    (p : Payload)
    (hNumber : lastNumber dispatches = none) :
    isNews dispatches p = true := by
  unfold isNews
  split
  · rfl
  · rw [hNumber]
    rfl

------------------------------------------------------------
-- What Is Heard in a Run
------------------------------------------------------------

/-
  The session forgets what it could resume. The code with which
  a connection is closed makes no difference to a session that
  is itself being closed.
-/
def forgets
    (s : Session)
    (x : Stimulus) : Bool :=
  s.notices x &&
    match x with
    | .received _ (.closed _) => !s.closing
    | _ => true

/- A dispatch that comes to a session that listens. -/
def dispatchIn?
    (s : Session) : Stimulus → Option Payload
  | .received _ (.frame p) =>
    if s.phase = .listening ∧ isKind p .dispatch then some p
    else none
  | _ => none

/- The dispatches that count, after one more stimulus. -/
def heardBeside
    (s : Session)
    (dispatches : List Payload)
    (x : Stimulus) : List Payload :=
  if s.forgets x then []
  else (s.dispatchIn? x).toList ++ dispatches

/-
  The dispatches that came since the session was last forgotten,
  the latest first; replays are among them.
-/
def heard
    (s : Session) : List Stimulus → List Payload
  | [] => []
  | x :: xs => (s.course xs).heardBeside (s.heard xs) x

/- Whether an order presents the session anew. -/
def presentsAnew : Order → Bool
  | .send frame => isKind frame .identify
  | _ => false

/- Whether a session presents itself anew between two states. -/
def identifies
    (s t : Session) : Bool :=
  (t.outbox.drop s.outbox.length).any presentsAnew

/- No failure from outside counts as an end of the session. -/
def Stimulus.IsHarmless : Stimulus → Prop
  | .fetched _ result => Gateway.IsHarmless result
  | .opened _ result => Gateway.IsHarmless result
  | .received m (.frame _) => m.IsHarmless
  | .received _ (.failed cause) => discardsSession cause = false
  | .hydrated _ result => Gateway.IsHarmless result
  | _ => True

------------------------------------------------------------
-- What Is Recalled
------------------------------------------------------------

/- A session goes on with the same number and the same id. -/
structure Recalls
    (s t : Session) : Prop where
  sequence : t.sequence = s.sequence
  sessionId : t.sessionId = s.sessionId
  sound : s.IsSound → t.IsSound

namespace Recalls

theorem refl
    (s : Session) :
    Recalls s s :=
  ⟨rfl, rfl, id⟩

theorem trans
    (hFirst : Recalls s t)
    (hSecond : Recalls t u) :
    Recalls s u where
  sequence := hSecond.sequence.trans hFirst.sequence
  sessionId := hSecond.sessionId.trans hFirst.sessionId
  sound := hSecond.sound ∘ hFirst.sound

theorem canResume
    (hRecalls : Recalls s t) :
    t.canResume = s.canResume := by
  simp [Session.canResume, hRecalls.sequence,
    hRecalls.sessionId]

end Recalls

theorem Same.recalls
    (hSame : Same s t) :
    Recalls s t :=
  ⟨hSame.sequence, hSame.sessionId, hSame.sound⟩

/- A session that ends keeps what it could resume. -/
theorem finish_recalls
    (s : Session)
    (failure : Option Cause) :
    Recalls s (s.finish failure) := by
  have hEnd :
      Recalls (s.closeSocket leaveCode)
        { (s.closeSocket leaveCode) with
          activeSince := none
          phase := .ended failure } :=
    ⟨rfl, rfl, id⟩
  exact ((closeSocket_goes s leaveCode).same.recalls.trans
    hEnd).trans (setStatus_goes _ .disconnected).same.recalls

theorem wait_recalls
    (s : Session)
    (m : Moment) :
    Recalls s (s.wait m) :=
  (wait_goes s m).same.recalls

/- What a session keeps, be it forgotten or not. -/
def kept
    (s : Session)
    (isForgotten : Bool) : Session :=
  if isForgotten then s.invalidate else s

theorem Recalls.kept
    (hRecalls : Recalls s t)
    (isForgotten : Bool) :
    Recalls (s.kept isForgotten) (t.kept isForgotten) := by
  cases isForgotten with
  | true => exact ⟨rfl, rfl, hRecalls.sound⟩
  | false => exact hRecalls

/- A lost connection is forgotten unless the session closes. -/
theorem lose_recalls
    (s : Session)
    (m : Moment)
    (cause : Cause) :
    Recalls (s.kept (discardsSession cause && !s.closing))
      (s.lose m cause) := by
  unfold lose
  split
  · rename_i resumable
    cases hClosing : s.closing with
    | true =>
        rw [Bool.not_true, Bool.and_false, if_pos rfl]
        exact finish_recalls s none
    | false =>
        cases resumable with
        | true => exact wait_recalls s m
        | false => exact wait_recalls s.invalidate m
  · split
    · exact finish_recalls _ _
    · split
      · exact finish_recalls _ _
      · exact wait_recalls _ _
  · rename_i hOther _
    rw [discardsSession_of_other hOther]
    split
    · exact finish_recalls _ _
    · split
      · exact finish_recalls _ _
      · exact wait_recalls _ _

/- The failure of a broken heartbeat hides the one at hand. -/
theorem leave_recalls
    (m : Moment)
    (failure : Option Cause)
    (hSound : s.IsSound) :
    Recalls
      (s.kept
        (failure.any discardsSession && !s.hasBrokenHeart &&
          !s.closing))
      (s.leave m failure) := by
  have hSilent : Recalls s { s with heartbeat := .silent } := by
    refine ⟨rfl, rfl, ?_⟩
    intro _ cause hBroken
    cases hBroken
  unfold leave
  split
  · rename_i cause hBroken
    have hLost := lose_recalls { s with heartbeat := .silent }
      m cause
    rw [hSound cause hBroken] at hLost
    have hHeart : s.hasBrokenHeart = true := by
      simp [hasBrokenHeart, hBroken]
    rw [hHeart, Bool.not_true, Bool.and_false, Bool.false_and]
    exact hSilent.trans hLost
  · rename_i hWhole
    have hHeart := hasBrokenHeart_eq_false hWhole
    have hClosed :=
      hSilent.trans (closeSocket_goes _ resumeCode).same.recalls
    have hClosing :
        ({ s with heartbeat := .silent }.closeSocket
          resumeCode).closing = s.closing := by
      unfold closeSocket
      split <;> rfl
    rw [hHeart, Bool.not_false, Bool.and_true]
    cases failure with
    | none => exact hClosed.trans (finish_recalls _ none)
    | some cause =>
        have hLost := lose_recalls
          ({ s with heartbeat := .silent }.closeSocket
            resumeCode) m cause
        rw [hClosing] at hLost
        exact (hClosed.kept _).trans hLost

/- A session leaves without being forgotten. -/
theorem leave_recalls_kept
    (m : Moment)
    (failure : Option Cause)
    (hSound : s.IsSound)
    (hKept :
      ∀ cause, failure = some cause →
        discardsSession cause = false) :
    Recalls s (s.leave m failure) := by
  have hAny : failure.any discardsSession = false := by
    cases failure with
    | none => rfl
    | some cause => exact hKept cause rfl
  simpa [hAny, kept] using leave_recalls m failure hSound

/- A session goes on listening, or leaves because it closes. -/
theorem goOn_recalls
    (m : Moment)
    (hSound : s.IsSound) :
    Recalls s (s.goOn m) := by
  unfold goOn
  split
  · exact leave_recalls_kept m none hSound (by simp)
  · exact ⟨rfl, rfl, id⟩

------------------------------------------------------------
-- Turns
------------------------------------------------------------

/- A session knows what the dispatches tell, and no more. -/
structure Knows
    (s : Session)
    (dispatches : List Payload) : Prop where
  sequence : s.sequence = lastNumber dispatches
  sessionId :
    s.sessionId =
      (lastStart dispatches).map Event.Ready.sessionId
  sound : s.IsSound

namespace Knows

theorem of_recalls
    (hKnows : Knows s dispatches)
    (hRecalls : Recalls s t) :
    Knows t dispatches where
  sequence := hRecalls.sequence.trans hKnows.sequence
  sessionId := hRecalls.sessionId.trans hKnows.sessionId
  sound := hRecalls.sound hKnows.sound

theorem invalidate
    (hKnows : Knows s dispatches) :
    Knows s.invalidate [] :=
  ⟨rfl, rfl, hKnows.sound⟩

end Knows

/- Whether the attempt that is under way is going to resume. -/
def isResuming?
    (s : Session) : Option Bool :=
  match s.phase with
  | .fetching resuming => some resuming
  | .opening resuming => some resuming
  | .greeting resuming _ => some resuming
  | _ => none

/- An attempt that is under way resumes if the session can. -/
def IsPoised
    (s : Session) : Prop :=
  ∀ resuming, s.isResuming? = some resuming →
    resuming = s.canResume

theorem isPoised_of_isCalm
    (hCalm : s.isCalm = true) :
    s.IsPoised := by
  intro resuming hResuming
  unfold isResuming? at hResuming
  unfold isCalm at hCalm
  split at hResuming <;> simp_all

theorem isPoised_of_phase
    (hPoised : s.IsPoised)
    (hRecalls : Recalls s t)
    (hPhase : t.isResuming? = s.isResuming?) :
    t.IsPoised := by
  intro resuming hResuming
  rw [hRecalls.canResume]
  exact hPoised resuming (hPhase ▸ hResuming)

/- A session that ends or leaves has no attempt under way. -/
theorem Calms.isCalm
    {isForgotten : Bool}
    (hCalms : Calms isForgotten s t) :
    t.isCalm = true := by
  rcases hCalms.state with hEnded | ⟨hCalm, _⟩
  · unfold hasEnded at hEnded
    split at hEnded
    · rename_i hPhase
      simp [Session.isCalm, hPhase]
    · cases hEnded
  · exact hCalm

/- What is visible tells whether the session presents itself. -/
theorem Shows.identifies
    {seen : List Order}
    (hShows : Shows seen s t) :
    s.identifies t = seen.any presentsAnew := by
  rcases hShows with ⟨orders, hOutbox, rfl⟩
  unfold Session.identifies
  rw [hOutbox, List.drop_left]
  clear hOutbox
  induction orders with
  | nil => rfl
  | cons o orders hInduction =>
      cases o <;>
        simp [presentsAnew, Order.isSeen, hInduction]

/-
  One turn of a session: it knows what the dispatches tell, its
  next attempt resumes if it can, and it has presented itself
  anew only if it cannot.
-/
structure Turns
    (dispatches : List Payload)
    (s t : Session) : Prop where
  knows : Knows t dispatches
  poised : t.IsPoised
  fresh : s.identifies t = true → t.canResume = false

namespace Turns

/- A session leaves a connection or goes on listening. -/
theorem of_isCalm
    (hKnows : Knows t dispatches)
    (hShows : Shows [] s t)
    (hCalm : t.isCalm = true) :
    Turns dispatches s t where
  knows := hKnows
  poised := isPoised_of_isCalm hCalm
  fresh := by simp [hShows.identifies]

/- A session stays in its attempt, and only beats at most. -/
theorem of_goes
    {seen : List Order}
    (hKnows : Knows s dispatches)
    (hPoised : s.IsPoised)
    (hGoes : Goes seen s t)
    (hQuiet : seen.any presentsAnew = false)
    (hPhase : t.isResuming? = s.isResuming?) :
    Turns dispatches s t where
  knows := hKnows.of_recalls hGoes.same.recalls
  poised := isPoised_of_phase hPoised hGoes.same.recalls hPhase
  fresh := by simp [hGoes.shows.identifies, hQuiet]

theorem refl
    (hKnows : Knows s dispatches)
    (hPoised : s.IsPoised) :
    Turns dispatches s s :=
  of_goes hKnows hPoised (.refl s) rfl rfl

end Turns

------------------------------------------------------------
-- Attempts
------------------------------------------------------------

/- Asking for a socket or for its address presents nothing. -/
theorem openGateway_turns
    (resuming : Bool)
    (hKnows : Knows s dispatches)
    (hGoes : Goes [] u s)
    (hResuming : resuming = s.canResume) :
    Turns dispatches u (s.openGateway resuming) := by
  have hRecalls : Recalls s (s.openGateway resuming) := by
    unfold openGateway
    split <;> exact ⟨rfl, rfl, id⟩
  have hSteps :
      (s.openGateway resuming).isResuming? = some resuming ∧
        ∃ seen, Shows seen s (s.openGateway resuming) ∧
          seen.any presentsAnew = false := by
    unfold openGateway
    split
    · exact ⟨rfl, _, ⟨[.openSocket _], rfl, rfl⟩, rfl⟩
    · exact ⟨rfl, _, ⟨[.fetch], rfl, rfl⟩, rfl⟩
  rcases hSteps with ⟨hPhase, seen, hShows, hQuiet⟩
  refine ⟨hKnows.of_recalls hRecalls, ?_, ?_⟩
  · intro other hOther
    rw [hRecalls.canResume, ← hResuming]
    rw [hPhase] at hOther
    exact (Option.some.inj hOther).symm
  · simp [(hGoes.shows.trans hShows).identifies, hQuiet]

/- A new attempt presents nothing yet. -/
theorem attempt_turns
    (hKnows : Knows s dispatches)
    (hGoes : Goes [] u s) :
    Turns dispatches u s.attempt := by
  unfold attempt
  split
  · rename_i hResumes
    split
    · rename_i url hUrl
      have hShows :
          Shows [.openSocket url] s (s.openAt true url) :=
        ⟨[.openSocket url], rfl, rfl⟩
      refine ⟨hKnows.of_recalls ⟨rfl, rfl, id⟩, ?_, ?_⟩
      · intro resuming hResuming
        cases hResuming
        exact hResumes.symm
      · simp [(hGoes.shows.trans hShows).identifies,
          presentsAnew]
    · exact openGateway_turns true hKnows hGoes hResumes.symm
  · rename_i hStarts
    have hStatus := setStatus_goes s .connecting
    apply openGateway_turns false
      (hKnows.of_recalls hStatus.same.recalls)
      (hGoes.quietly hStatus)
    rw [hStatus.same.recalls.canResume, Bool.of_not_eq_true
      hStarts]

theorem connect_turns
    (hKnows : Knows s dispatches) :
    Turns dispatches s s.connect := by
  have hOpen : Goes [] s { s with closing := false } :=
    ⟨.of_outbox rfl, ⟨rfl, rfl, rfl, rfl, rfl, rfl, id⟩⟩
  have hStatus := hOpen.quietly (setStatus_goes _ .connecting)
  exact attempt_turns
    (hKnows.of_recalls hStatus.same.recalls) hStatus

theorem close_turns
    (hKnows : Knows s dispatches)
    (hPoised : s.IsPoised) :
    Turns dispatches s s.close := by
  have hClosing : Goes [] s { s with closing := true } :=
    ⟨.of_outbox rfl, ⟨rfl, rfl, rfl, rfl, rfl, rfl, id⟩⟩
  have hClosed :=
    hClosing.quietly (closeSocket_goes _ leaveCode)
  unfold close
  split
  · exact .refl hKnows hPoised
  · simp only
    split
    · have hCalms : Calms false s _ :=
        hClosed.calms (finish_calms _ none)
      exact .of_isCalm
        (hKnows.of_recalls
          (hClosed.same.recalls.trans (finish_recalls _ none)))
        hCalms.shows hCalms.isCalm
    · apply Turns.of_goes hKnows hPoised hClosed rfl
      simp [isResuming?]

/- A connection is lost without an end of the session. -/
theorem lose_turns
    (m : Moment)
    (hKnows : Knows s dispatches)
    (hCause : discardsSession cause = false) :
    Turns dispatches s (s.lose m cause) := by
  have hRecalls := lose_recalls s m cause
  rw [hCause] at hRecalls
  have hCalms := lose_calms s m cause
  exact .of_isCalm (hKnows.of_recalls hRecalls) hCalms.shows
    hCalms.isCalm

theorem leave_turns
    {failure : Option Cause}
    (m : Moment)
    (hKnows : Knows s dispatches)
    (hShows : Shows [] u s)
    (hKept :
      ∀ cause, failure = some cause →
        discardsSession cause = false) :
    Turns dispatches u (s.leave m failure) := by
  have hCalms := leave_calms m failure hKnows.sound
  apply Turns.of_isCalm
    (hKnows.of_recalls
      (leave_recalls_kept m failure hKnows.sound hKept))
  · simpa using hShows.trans hCalms.shows
  · exact hCalms.isCalm

theorem goOn_turns
    (m : Moment)
    (hKnows : Knows s dispatches)
    (hShows : Shows [] u s) :
    Turns dispatches u (s.goOn m) := by
  have hCalms := goOn_calms m hKnows.sound
  apply Turns.of_isCalm
    (hKnows.of_recalls (goOn_recalls m hKnows.sound))
  · simpa using hShows.trans hCalms.shows
  · exact hCalms.isCalm

theorem fetched_turns
    (m : Moment)
    {result : Except Cause String}
    (hResult : Gateway.IsHarmless result)
    (hKnows : Knows s dispatches)
    (hPoised : s.IsPoised) :
    Turns dispatches s (s.fetched m result) := by
  unfold fetched
  split
  · rename_i resuming url hPhase
    have hShows :
        Shows [.openSocket url] s
          ({ s with gatewayUrl := some url }.openAt resuming
            url) :=
      ⟨[.openSocket url], rfl, rfl⟩
    refine ⟨hKnows.of_recalls ⟨rfl, rfl, id⟩, ?_, ?_⟩
    · intro other hOther
      cases hOther
      exact hPoised resuming (by simp [isResuming?, hPhase])
    · simp [hShows.identifies, presentsAnew]
  · exact lose_turns m hKnows (hResult _ rfl)
  · exact .refl hKnows hPoised

theorem opened_turns
    (m : Moment)
    {result : Except Cause Unit}
    (hResult : Gateway.IsHarmless result)
    (hKnows : Knows s dispatches)
    (hPoised : s.IsPoised) :
    Turns dispatches s (s.opened m result) := by
  unfold opened
  split
  · rename_i resuming _ hPhase
    have hOpened :
        Goes [] s
          { s with
            socketOpen := true
            phase :=
              .greeting resuming (m.now + greetingTimeout) } :=
      ⟨.of_outbox rfl, ⟨rfl, rfl, rfl, rfl, rfl, rfl, id⟩⟩
    exact .of_goes hKnows hPoised hOpened rfl
      (by simp [isResuming?, hPhase])
  · exact lose_turns m hKnows (hResult _ rfl)
  · exact .refl hKnows hPoised

theorem hydrated_turns
    (m : Moment)
    {result : Except Cause Unit}
    (hResult : Gateway.IsHarmless result)
    (hKnows : Knows s dispatches)
    (hPoised : s.IsPoised) :
    Turns dispatches s (s.hydrated m result) := by
  unfold hydrated
  split
  · have hActive := markActive_goes s m.now
    exact goOn_turns m (hKnows.of_recalls hActive.same.recalls)
      hActive.shows
  · rename_i cause hPhase
    apply leave_turns m hKnows (.of_outbox rfl)
    intro failure hFailure
    cases hFailure
    exact hResult cause rfl
  · exact .refl hKnows hPoised

/- A heartbeat is due, or the next attempt, or nothing. -/
theorem tick_turns
    (m : Moment)
    (hKnows : Knows s dispatches)
    (hPoised : s.IsPoised) :
    Turns dispatches s (s.tick m) := by
  unfold tick
  split
  · have hBeats := pulse_beats s m
    have hPhase :
        (s.pulse m).isResuming? = s.isResuming? := by
      simp [isResuming?, hBeats.phase]
    rcases hBeats.goes with hQuiet | hSent
    · exact .of_goes hKnows hPoised hQuiet rfl hPhase
    · apply Turns.of_goes hKnows hPoised hSent _ hPhase
      simp [presentsAnew, heartbeatFrame, isKind_frameOf]
  · split
    · unfold runOut
      split
      · apply leave_turns m hKnows (.of_outbox rfl)
        intro failure hFailure
        cases hFailure
        rfl
      · exact attempt_turns hKnows (.refl s)
      · exact .refl hKnows hPoised
    · exact .refl hKnows hPoised

/- The first frame is answered as the session is poised. -/
theorem greet_turns
    {resuming : Bool}
    {deadline : Rat}
    (p : Payload)
    (hMoment : m.IsHarmless)
    (hKnows : Knows s dispatches)
    (hPoised : s.IsPoised)
    (hPhase : s.phase = .greeting resuming deadline) :
    Turns dispatches s (s.greet m resuming p) := by
  unfold greet
  split
  · rename_i cause hRead
    apply leave_turns m hKnows (.of_outbox rfl)
    intro failure hFailure
    cases hFailure
    exact readInterval_harmless p cause hRead
  · rename_i interval hRead
    have hStart := startHeartbeat_goes s m interval
    have hStarted := hKnows.of_recalls hStart.same.recalls
    have hResumes : resuming = s.canResume :=
      hPoised resuming (by simp [isResuming?, hPhase])
    cases hSent :
        (s.startHeartbeat m interval).present m resuming with
    | error cause =>
        simp only [goOnOrLeave, hSent]
        apply leave_turns m hStarted hStart.shows
        intro failure hFailure
        cases hFailure
        exact send_harmless _ _ hMoment cause hSent
    | ok t =>
        have hOrder := eq_order_of_send hSent
        have hGoes := hStart.trans
          (hOrder ▸
            order_goes (s.startHeartbeat m interval) _)
        have hTaken := hKnows.of_recalls hGoes.same.recalls
        have hRecalls :=
          hGoes.same.recalls.trans (goOn_recalls m hTaken.sound)
        have hCalms := goOn_calms m hTaken.sound
        simp only [goOnOrLeave, hSent]
        refine ⟨hKnows.of_recalls hRecalls,
          isPoised_of_isCalm hCalms.isCalm, ?_⟩
        intro hAnew
        rw [hRecalls.canResume, ← hResumes]
        rw [(hGoes.shows.trans hCalms.shows).identifies]
          at hAnew
        cases resuming with
        | false => rfl
        | true =>
            simp [presentsAnew, resumeFrame, isKind_frameOf,
              Order.isSeen] at hAnew

end GuildWarden.Gateway.Session
