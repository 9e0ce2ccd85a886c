import GuildWarden.Proofs.Gateway.Conduct

/-
  This file shows that a session presents itself as the frames
  tell: on each connection that is greeted it sends RESUME or
  IDENTIFY, once, at the address that it was given, and every
  heartbeat carries the last number. An invalidation that the
  session overlooks is the only exception.

  Key definitions include:
    * `Gateway.Session.Hears`
    * `Gateway.Session.Heeds`

  Main statements:
    * `Gateway.Session.dispatchOnce_hears`
    * `Gateway.Session.hear_invariant`
    * `Gateway.Session.react_invariant`
    * `Gateway.Session.account_isRight`
-/

namespace GuildWarden.Gateway

open Session

variable {s t u : Session}
variable {m : Moment}
variable {cause : Cause}
variable {token : String}
variable {intents : Int}
variable {a b : Account}

namespace Session

variable {x : Stimulus}

------------------------------------------------------------
-- Dispatches
------------------------------------------------------------

/-
  A frame is handled: the account sees what is sent, and the
  session knows what the account then knows. If the failure
  makes the session forget, the account has forgotten already.
-/
structure Hears
    (token : String)
    (intents : Int)
    (seen : List Order)
    (b : Account)
    (s : Session)
    (r : Handled) : Prop where
  shows : Shows seen s r.1
  knows : Matches token intents r.1 b
  calm : r.1.isCalm = true
  keeps :
    ∀ cause, r.2 = some cause →
      discardsSession cause = true → b.recalled = .nothing

/- A session that listens has no attempt under way. -/
theorem isCalm_of_listening
    (hPhase : s.phase = .listening) :
    s.isCalm = true := by
  simp [isCalm, hPhase]

/- Status and orders do not start an attempt. -/
theorem isCalm_of_phase
    (hCalm : s.isCalm = true)
    (hPhase : t.phase = s.phase) :
    t.isCalm = true := by
  unfold isCalm at hCalm ⊢
  rw [hPhase]
  exact hCalm

/- The address is read as the account reads it. -/
theorem resumeAddress_start
    (k : Recall)
    (r : Event.Ready) :
    resumeAddress k.resumeUrl r.resumeUrl =
        .ok (k.start r).resumeUrl ∨
      (k.start r).resumeUrl = k.resumeUrl ∧
        resumeAddress k.resumeUrl r.resumeUrl =
          .error .notAMap := by
  unfold resumeAddress Recall.start
  cases r.resumeUrl with
  | text u =>
      by_cases hEmpty : u = ""
      · simp [Payload.isFilled, hEmpty]
      · simp [Payload.isFilled, hEmpty]
  | _ =>
      split
      · exact Or.inl rfl
      · exact Or.inr ⟨rfl, rfl⟩

/- A new session starts. -/
theorem start_hears
    (m : Moment)
    (r : Event.Ready)
    (hMatches : Matches token intents s a)
    (hCalm : s.isCalm = true) :
    Hears token intents []
      { a with recalled := a.recalled.start r } s
      (s.start m r) := by
  rcases resumeAddress_start a.recalled r with
    hUrl | ⟨hUsual, hUrl⟩
  · have hStarted :
        Matches token intents
          { s with
            sessionId := some r.sessionId
            resumeUrl := (a.recalled.start r).resumeUrl }
          { a with recalled := a.recalled.start r } :=
      ⟨hMatches.token, hMatches.intents, rfl,
        hMatches.sequence, rfl, hMatches.gateway,
        hMatches.sound⟩
    have hNamed :
        Shows [] s
          { s with
            sessionId := some r.sessionId
            resumeUrl := (a.recalled.start r).resumeUrl } :=
      .of_outbox rfl
    have hStatus :=
      (setStatus_goes
        { s with
          sessionId := some r.sessionId
          resumeUrl := (a.recalled.start r).resumeUrl }
        .identified).quietly
        (order_goes _ (.queue (.ready r)))
    unfold start
    simp only [hMatches.resumeUrl, hUrl]
    split
    · have hHydrates :=
        hStatus.shows.trans (.order _ (.hydrate r))
      refine ⟨hNamed.trans hHydrates, ?_, rfl, by simp⟩
      have hSame := hStarted.of_same hStatus.same
      exact
        ⟨hSame.token, hSame.intents, hSame.sessionId,
          hSame.sequence, hSame.resumeUrl, hSame.gateway,
          hSame.sound⟩
    · have hActive :=
        hStatus.quietly (markActive_goes _ m.now)
      refine ⟨hNamed.trans hActive.shows,
        hStarted.of_same hActive.same, ?_, by simp⟩
      apply isCalm_of_phase hCalm
      simp [markActive, order]
  · unfold start
    simp only [hMatches.resumeUrl, hUrl]
    refine ⟨.of_outbox rfl, ?_, hCalm, ?_⟩
    · exact
        ⟨hMatches.token, hMatches.intents, rfl,
          hMatches.sequence,
          hUsual.symm, hMatches.gateway, hMatches.sound⟩
    · intro cause hCause hDiscards
      cases hCause
      cases hDiscards

/- An event that starts no session changes nothing to resume. -/
theorem takeIn_hears
    {e : Event}
    (m : Moment)
    (hOther : ∀ r, e ≠ .ready r)
    (hMatches : Matches token intents s a)
    (hCalm : s.isCalm = true) :
    Hears token intents [] a s (s.takeIn m e) := by
  cases e with
  | ready r => exact (hOther r rfl).elim
  | resumed =>
      have hQueued :=
        (setStatus_goes s .identified).quietly
          (order_goes _ (.queue .resumed))
      have hActive :=
        hQueued.quietly (markActive_goes _ m.now)
      refine ⟨hActive.shows, hMatches.of_same hActive.same,
        ?_, by simp [takeIn]⟩
      apply isCalm_of_phase hCalm
      simp [takeIn, markActive, order]
  | _ =>
      exact ⟨.order s (.queue _),
        hMatches.of_same (order_goes s (.queue _)).same,
        hCalm, by simp [takeIn]⟩

/- A dispatch is read, and what it starts is known. -/
theorem dispatch_hears
    (m : Moment)
    (p : Payload)
    (hMatches : Matches token intents s a)
    (hCalm : s.isCalm = true) :
    Hears token intents []
      { a with recalled := a.recalled.accept p } s
      (s.dispatch m p) := by
  unfold Session.dispatch Recall.accept
  cases hDecoded :
      Event.decode (p.field "t") (p.field "d") with
  | error cause =>
      refine ⟨.of_outbox rfl, hMatches, hCalm, ?_⟩
      intro failure hFailure hDiscards
      cases hFailure
      have hHarmless :=
        Event.decode_harmless _ _ cause hDecoded
      rw [hHarmless] at hDiscards
      cases hDiscards
  | ok e? =>
      cases e? with
      | none =>
          exact ⟨.of_outbox rfl, hMatches, hCalm, by simp⟩
      | some e =>
          cases e with
          | ready r => exact start_hears m r hMatches hCalm
          | _ => exact takeIn_hears m (by simp) hMatches hCalm

/- A number is replayed if it is not above the last one. -/
theorem isReplayed_of_matches
    (hMatches : Matches token intents s a)
    (n : Int) :
    s.isReplayed (.int n) =
      .ok (a.recalled.sequence.any (n ≤ ·)) := by
  unfold isReplayed
  rw [hMatches.sequence]
  cases a.recalled.sequence with
  | none => rfl
  | some last => simp [Payload.atMost?_int]

/- A dispatch is taken in once. -/
theorem dispatchOnce_hears
    {p : Payload}
    (m : Moment)
    (hKind : isKind p .dispatch = true)
    (hNumbered : IsNumbered p)
    (hMatches : Matches token intents s a)
    (hCalm : s.isCalm = true) :
    Hears token intents []
      { a with recalled := a.recalled.hear p } s
      (s.dispatchOnce m p) := by
  unfold dispatchOnce Recall.hear
  rw [if_pos hKind]
  rcases hNumbered hKind with hNull | ⟨n, hNumber⟩
  · simp only [hNull]
    exact dispatch_hears m p hMatches hCalm
  · simp only [hNumber, isReplayed_of_matches hMatches]
    cases hReplayed : a.recalled.sequence.any (n ≤ ·) with
    | true =>
        exact ⟨.of_outbox rfl, hMatches, hCalm, by simp⟩
    | false =>
        have hCounted :
            Matches token intents
              { s with sequence := some (.int n) }
              { a with
                recalled :=
                  { a.recalled with sequence := some n } } :=
          ⟨hMatches.token, hMatches.intents,
            hMatches.sessionId, rfl, hMatches.resumeUrl,
            hMatches.gateway, hMatches.sound⟩
        have hHears := dispatch_hears m p hCounted hCalm
        have hShows :
            Shows [] s
              { s with sequence := some (.int n) } :=
          .of_outbox rfl
        exact ⟨hShows.trans hHears.shows, hHears.knows,
          hHears.calm, hHears.keeps⟩

------------------------------------------------------------
-- Listening
------------------------------------------------------------

/- What follows from handling a frame while listening. -/
theorem hear_invariant
    {p : Payload}
    {seen : List Order}
    (hPhase : s.phase = .listening)
    (hRight : b.IsRight token intents)
    (hHears :
      Hears token intents seen b s (s.handle m p))
    (hSeen :
      seen.foldl (Account.observe false)
        { a with
          recalled :=
            if s.notices (.received m (.frame p)) then .nothing
            else a.recalled.hear p } = b) :
    Invariant token intents
      (s.react (.received m (.frame p)))
      (s.recorded a (.received m (.frame p))) := by
  have hReact :
      s.react (.received m (.frame p)) = s.hear m p := by
    simp [react, receive, hPhase, receiveFailure]
  have hRecorded
      (hShows : Shows seen s (s.hear m p)) :
      s.recorded a (.received m (.frame p)) = b := by
    have hFetching : s.isFetching = false := by
      simp [isFetching, hPhase]
    have hGreeting : s.isGreeting = false := by
      simp [isGreeting, hPhase]
    unfold recorded
    rw [hReact, hShows.observeAll, hFetching, ← hSeen]
    simp [told, heardBy, hPhase, fetchedBy, isGreetedBy,
      hGreeting]
  rcases hResult : s.handle m p with ⟨t, failure⟩
  rw [hResult] at hHears
  have hSound := hHears.knows.sound
  cases failure with
  | some cause =>
      have hHear : s.hear m p = t.leave m (some cause) := by
        simp [hear, hResult]
      have hCalms := leave_calms m (some cause) hSound
      have hShows : Shows seen s (s.hear m p) := by
        rw [hHear]
        simpa using hHears.shows.trans hCalms.shows
      have hInvariant :=
        Invariant.of_calms hRight hHears.knows hCalms
      rw [hReact, hRecorded hShows, hHear]
      cases hForgets :
          (some cause).any discardsSession &&
            !t.hasBrokenHeart with
      | false =>
          rw [hForgets] at hInvariant
          exact hInvariant
      | true =>
          rw [hForgets] at hInvariant
          have hDiscards : discardsSession cause = true := by
            simp only [Option.any_some, Bool.and_eq_true]
              at hForgets
            exact hForgets.1
          have hNothing := hHears.keeps cause rfl hDiscards
          simpa [← hNothing] using hInvariant
  | none =>
      by_cases hHydrates : t.phase = .hydrating
      · have hHear : s.hear m p = t := by
          simp [hear, hResult, hHydrates]
        rw [hReact, hRecorded (hHear ▸ hHears.shows), hHear]
        exact ⟨hRight,
          Or.inr ⟨hHears.knows, stage_of_isCalm hHears.calm⟩⟩
      · have hHear : s.hear m p = t.goOn m := by
          simp [hear, hResult, hHydrates]
        have hCalms := goOn_calms m hSound
        have hShows : Shows seen s (s.hear m p) := by
          rw [hHear]
          simpa using hHears.shows.trans hCalms.shows
        rw [hReact, hRecorded hShows, hHear]
        exact .of_calms_kept hRight hHears.knows hCalms

/- A frame of a kind that is heard is told by it. -/
theorem kindOf?_of_isKind
    {p : Payload}
    {op : Opcode}
    (hHeard : op ∈ Opcode.heard)
    (hKind : isKind p op = true) :
    kindOf? p = some op := by
  cases hFound : kindOf? p with
  | none =>
      have hNone := List.find?_eq_none.mp hFound op hHeard
      exact absurd hKind hNone
  | some other =>
      rw [isKind_unique (isKind_of_kindOf? hFound) hKind]

/- What no dispatch tells is nothing. -/
theorem hear_of_other
    {p : Payload}
    (k : Recall)
    (hOther : kindOf? p ≠ some .dispatch) :
    k.hear p = k := by
  unfold Recall.hear
  by_cases hKind : isKind p .dispatch = true
  · exact absurd
      (kindOf?_of_isKind (by simp [Opcode.heard]) hKind) hOther
  · rw [if_neg hKind]

/- Only one kind of frame invalidates a session. -/
theorem notices_of_other
    {p : Payload}
    (hOther : kindOf? p ≠ some .invalidSession) :
    s.notices (.received m (.frame p)) = false := by
  have hKind : isKind p .invalidSession = false := by
    rw [Bool.eq_false_iff]
    intro hKind
    exact hOther
      (kindOf?_of_isKind (by simp [Opcode.heard]) hKind)
  simp [notices, invalidates, hKind]

/- A frame that is no dispatch leaves the account as it is. -/
theorem hear_invariant_of_other
    {p : Payload}
    (hRight : a.IsRight token intents)
    (hPhase : s.phase = .listening)
    (hDispatch : kindOf? p ≠ some .dispatch)
    (hInvalid : kindOf? p ≠ some .invalidSession)
    (hHears : Hears token intents [] a s (s.handle m p)) :
    Invariant token intents
      (s.react (.received m (.frame p)))
      (s.recorded a (.received m (.frame p))) := by
  apply hear_invariant hPhase hRight hHears
  rw [notices_of_other hInvalid,
    hear_of_other a.recalled hDispatch]
  rfl

/- A heartbeat that the gateway asks for is answered. -/
theorem hear_invariant_of_heartbeat
    {p : Payload}
    (hMoment : m.IsHarmless)
    (hRight : a.IsRight token intents)
    (hMatches : Matches token intents s a)
    (hPhase : s.phase = .listening)
    (hKind : kindOf? p = some .heartbeat) :
    Invariant token intents
      (s.react (.received m (.frame p)))
      (s.recorded a (.received m (.frame p))) := by
  have hHandle : s.handle m p = s.answerBeat m := by
    simp [handle, hKind]
  have hCalm := isCalm_of_listening hPhase
  cases hBeat : s.beat m with
  | error cause =>
      have hAnswer : s.handle m p = (s, some cause) := by
        simp [hHandle, answerBeat, hBeat]
      apply hear_invariant_of_other hRight hPhase
        (by simp [hKind]) (by simp [hKind])
      rw [hAnswer]
      refine ⟨.of_outbox rfl, hMatches, hCalm, ?_⟩
      intro failure hFailure hDiscards
      cases hFailure
      rw [beat_harmless s hMoment cause hBeat] at hDiscards
      cases hDiscards
  | ok t =>
      have hAnswer : s.handle m p = (t, none) := by
        simp [hHandle, answerBeat, hBeat]
      rcases beat_goes hBeat with ⟨hGoes, hSamePhase⟩
      have hHears :
          Hears token intents [.send s.heartbeatFrame]
            { a with
              beats :=
                ⟨s.heartbeatFrame, a.recalled⟩ :: a.beats }
            s (s.handle m p) := by
        rw [hAnswer]
        exact ⟨hGoes.shows,
          (hMatches.of_same hGoes.same).of_recall rfl rfl,
          isCalm_of_phase hCalm hSamePhase, by simp⟩
      apply hear_invariant hPhase
        (hRight.beat hMatches.heartbeatFrame) hHears
      rw [notices_of_other (by simp [hKind]),
        hear_of_other a.recalled (by simp [hKind])]
      simp [Account.observe, Session.heartbeatFrame,
        isKind_frameOf]

/- The gateway does not know the session, or not now. -/
theorem hear_invariant_of_invalid
    {p : Payload}
    (hRight : a.IsRight token intents)
    (hMatches : Matches token intents s a)
    (hPhase : s.phase = .listening)
    (hKind : kindOf? p = some .invalidSession) :
    Invariant token intents
      (s.react (.received m (.frame p)))
      (s.recorded a (.received m (.frame p))) := by
  have hHandle :
      s.handle m p = s.rejected (p.field "d").isFilled := by
    simp [handle, hKind]
  have hNotices :
      s.notices (.received m (.frame p)) =
        !(p.field "d").isFilled := by
    simp [notices, invalidates, overlooks, isReceiving,
      isGreeting, hPhase, isKind_of_kindOf? hKind]
  have hHeard : a.recalled.hear p = a.recalled :=
    hear_of_other a.recalled (by simp [hKind])
  have hCalm := isCalm_of_listening hPhase
  cases hFilled : (p.field "d").isFilled with
  | true =>
      apply hear_invariant hPhase hRight
      · rw [hHandle, hFilled]
        refine ⟨.of_outbox rfl, hMatches, hCalm, ?_⟩
        intro cause hCause hDiscards
        cases hCause
        cases hDiscards
      · rw [hNotices, hFilled, hHeard]
        rfl
  | false =>
      apply hear_invariant hPhase (b :=
        { a with recalled := .nothing })
      · exact ⟨hRight.attempts, hRight.beats⟩
      · rw [hHandle, hFilled]
        exact ⟨.of_outbox rfl, hMatches.invalidate, hCalm,
          fun _ _ _ => rfl⟩
      · rw [hNotices, hFilled]
        rfl

/- A frame of another kind that changes nothing. -/
theorem hear_invariant_of_quiet
    {p : Payload}
    (hRight : a.IsRight token intents)
    (hMatches : Matches token intents s a)
    (hPhase : s.phase = .listening)
    (hDispatch : kindOf? p ≠ some .dispatch)
    (hInvalid : kindOf? p ≠ some .invalidSession)
    (hHandle : s.handle m p = (s, none)) :
    Invariant token intents
      (s.react (.received m (.frame p)))
      (s.recorded a (.received m (.frame p))) := by
  apply hear_invariant_of_other hRight hPhase hDispatch hInvalid
  rw [hHandle]
  exact ⟨.of_outbox rfl, hMatches, isCalm_of_listening hPhase,
    by simp⟩

/- A frame is received while the session listens. -/
theorem listening_invariant
    (p : Payload)
    (hMoment : m.IsHarmless)
    (hNumbered : IsNumbered p)
    (hRight : a.IsRight token intents)
    (hMatches : Matches token intents s a)
    (hPhase : s.phase = .listening) :
    Invariant token intents
      (s.react (.received m (.frame p)))
      (s.recorded a (.received m (.frame p))) := by
  have hCalm := isCalm_of_listening hPhase
  cases hKind : kindOf? p with
  | none =>
      apply hear_invariant_of_quiet hRight hMatches hPhase
        (by simp [hKind]) (by simp [hKind])
      simp [handle, hKind]
  | some op =>
      cases op with
      | dispatch =>
          have hHandle :
              s.handle m p = s.dispatchOnce m p := by
            simp [handle, hKind]
          apply hear_invariant hPhase
            (b := { a with recalled := a.recalled.hear p })
          · exact ⟨hRight.attempts, hRight.beats⟩
          · rw [hHandle]
            exact dispatchOnce_hears m
              (isKind_of_kindOf? hKind) hNumbered hMatches
              hCalm
          · rw [notices_of_other (by simp [hKind])]
            rfl
      | heartbeatAck =>
          have hHandle :
              s.handle m p = (s.acknowledge m.now, none) := by
            simp [handle, hKind]
          have hSame : Same s (s.acknowledge m.now) :=
            ⟨rfl, rfl, rfl, rfl, rfl, rfl, id⟩
          apply hear_invariant_of_other hRight hPhase
            (by simp [hKind]) (by simp [hKind])
          rw [hHandle]
          exact ⟨.of_outbox rfl, hMatches.of_same hSame,
            hCalm, by simp⟩
      | heartbeat =>
          exact hear_invariant_of_heartbeat hMoment hRight
            hMatches hPhase hKind
      | reconnect =>
          have hHandle :
              s.handle m p =
                (s, some (.transport
                  "server requested reconnect" none true)) := by
            simp [handle, hKind]
          apply hear_invariant_of_other hRight hPhase
            (by simp [hKind]) (by simp [hKind])
          rw [hHandle]
          refine ⟨.of_outbox rfl, hMatches, hCalm, ?_⟩
          intro cause hCause hDiscards
          cases hCause
          cases hDiscards
      | invalidSession =>
          exact hear_invariant_of_invalid hRight hMatches
            hPhase hKind
      | _ =>
          apply hear_invariant_of_quiet hRight hMatches hPhase
            (by simp [hKind]) (by simp [hKind])
          simp [handle, hKind]

------------------------------------------------------------
-- Receiving
------------------------------------------------------------

/- A code ends a session that is not dead, or it does not. -/
theorem discardsSession_closeFailure
    (s : Session)
    (code : Option Int) :
    discardsSession (s.closeFailure code) =
      (!s.isDead && code.any endsSession) := by
  unfold closeFailure
  cases s.isDead with
  | true => rfl
  | false =>
      cases code with
      | none => rfl
      | some n =>
          simp only [Bool.false_eq_true, if_false]
          split
          · rename_i hFatal
            have hResumable : endsSession n = false := by
              rw [Bool.eq_false_iff]
              intro hEnds
              simp only [isFatalCode, endsSession,
                List.contains_iff_mem, List.mem_cons,
                List.not_mem_nil, or_false] at hFatal hEnds
              omega
            simp [discardsSession, hResumable]
          · split
            · rename_i hEnds
              simp [discardsSession, hEnds]
            · rename_i hResumable
              simp [discardsSession, hResumable]

/- Receiving fails, and the connection is left. -/
theorem failed_invariant
    {i : Inbound}
    (hFit : IsFit (.received m i))
    (hRight : a.IsRight token intents)
    (hMatches : Matches token intents s a)
    (hReceiving : s.isReceiving = true)
    (hFailure : s.receiveFailure i = some cause) :
    Invariant token intents (s.react (.received m i))
      (s.recorded a (.received m i)) := by
  have hReact :
      s.react (.received m i) = s.leave m (some cause) := by
    unfold react receive
    unfold isReceiving at hReceiving
    cases hPhase : s.phase <;>
      simp [hPhase] at hReceiving <;> simp [hFailure]
  have hCalms := leave_calms m (some cause) hMatches.sound
  rw [← hReact] at hCalms
  cases i with
  | frame p => cases hFailure
  | nothing => cases hFailure
  | closed code =>
      have hSilent : s.IsSilent a (.received m (.closed code)) :=
        ⟨rfl, rfl, rfl⟩
      have hCause : s.closeFailure code = cause :=
        Option.some.inj hFailure
      apply hSilent.of_calms hRight hMatches
      rw [Option.any_some, ← hCause,
        discardsSession_closeFailure] at hCalms
      cases code with
      | none => simpa [notices, invalidates] using hCalms
      | some n =>
          simpa [notices, invalidates, overlooks, hReceiving]
            using hCalms
  | failed failure =>
      have hSilent :
          s.IsSilent a (.received m (.failed failure)) :=
        ⟨rfl, rfl, rfl⟩
      have hCause : failure = cause :=
        Option.some.inj hFailure
      have hKept : discardsSession cause = false :=
        hCause ▸ hFit
      apply hSilent.of_calms hRight hMatches
      rw [Option.any_some, hKept] at hCalms
      exact hCalms

/- A session that does not receive is passed by. -/
theorem unreceived_invariant
    (m : Moment)
    (i : Inbound)
    (hRight : a.IsRight token intents)
    (hMatches : Matches token intents s a)
    (hStage : Stage s a)
    (hReceiving : s.isReceiving = false) :
    Invariant token intents (s.react (.received m i))
      (s.recorded a (.received m i)) := by
  have hListening : s.phase ≠ .listening := by
    intro hPhase
    simp [isReceiving, hPhase] at hReceiving
  have hGreeting : s.isGreeting = false := by
    unfold isGreeting
    unfold isReceiving at hReceiving
    split
    · rename_i hPhase
      simp [hPhase] at hReceiving
    · rfl
  have hSilent : s.IsSilent a (.received m i) := by
    cases i with
    | frame p =>
        refine ⟨?_, rfl, ?_⟩
        · simp [heardBy, hListening]
        · simp [isGreetedBy, hGreeting]
    | _ => exact ⟨rfl, rfl, rfl⟩
  have hNotices : s.notices (.received m i) = false := by
    cases i with
    | closed code =>
        cases code <;>
          simp [notices, invalidates, hReceiving]
    | _ => simp [notices, invalidates, hReceiving]
  apply hSilent.of_eq hNotices hRight hMatches hStage
  unfold react receive
  unfold isReceiving at hReceiving
  cases hPhase : s.phase with
  | greeting resuming deadline =>
      simp [hPhase] at hReceiving
  | listening => simp [hPhase] at hReceiving
  | _ => rfl

/- A message without a frame is no first frame, or is skipped. -/
theorem nothing_invariant
    (m : Moment)
    (hRight : a.IsRight token intents)
    (hMatches : Matches token intents s a)
    (hReceiving : s.isReceiving = true) :
    Invariant token intents (s.react (.received m .nothing))
      (s.recorded a (.received m .nothing)) := by
  have hSilent : s.IsSilent a (.received m .nothing) :=
    ⟨rfl, rfl, rfl⟩
  apply hSilent.of_calms hRight hMatches
  cases hPhase : s.phase with
  | greeting resuming deadline =>
      have hReact :
          s.react (.received m .nothing) =
            s.greet m resuming .null := by
        simp [react, receive, hPhase, receiveFailure]
      rw [hReact]
      unfold greet
      split
      · rename_i cause hRead
        apply leave_calms_kept m _ hMatches.sound
        intro failure hFailure
        cases hFailure
        exact readInterval_harmless .null cause hRead
      · rename_i interval hRead
        cases hRead
  | listening =>
      have hReact :
          s.react (.received m .nothing) = s.goOn m := by
        simp [react, receive, hPhase, receiveFailure]
      rw [hReact]
      exact goOn_calms m hMatches.sound
  | _ => simp [isReceiving, hPhase] at hReceiving

/- Something is received. -/
theorem received_invariant
    {i : Inbound}
    (hFit : IsFit (.received m i))
    (hRight : a.IsRight token intents)
    (hMatches : Matches token intents s a)
    (hStage : Stage s a) :
    Invariant token intents (s.react (.received m i))
      (s.recorded a (.received m i)) := by
  cases hReceiving : s.isReceiving with
  | false =>
      exact unreceived_invariant m i hRight hMatches hStage
        hReceiving
  | true =>
      cases i with
      | frame p =>
          cases hPhase : s.phase with
          | greeting resuming deadline =>
              exact greet_invariant p hFit.1 hRight hMatches
                hStage hPhase
          | listening =>
              exact listening_invariant p hFit.1 hFit.2 hRight
                hMatches hPhase
          | _ => simp [isReceiving, hPhase] at hReceiving
      | nothing =>
          exact nothing_invariant m hRight hMatches hReceiving
      | closed code =>
          exact failed_invariant hFit hRight hMatches
            hReceiving rfl
      | failed cause =>
          exact failed_invariant hFit hRight hMatches
            hReceiving rfl

------------------------------------------------------------
-- Runs
------------------------------------------------------------

/- Whatever happens, the account stays right. -/
theorem react_invariant
    (hInvariant : Invariant token intents s a)
    (hGoesOn : s.hasEnded = false)
    (hFit : IsFit x) :
    Invariant token intents (s.react x) (s.recorded a x) := by
  have hRight := hInvariant.right
  have hState :
      Matches token intents s a ∧ Stage s a := by
    rcases hInvariant.state with hEnded | hState
    · rw [hEnded] at hGoesOn
      cases hGoesOn
    · exact hState
  rcases hState with ⟨hMatches, hStage⟩
  cases x with
  | connect => exact hFit.elim
  | close => exact close_invariant hRight hMatches hStage
  | fetched m result =>
      exact fetched_invariant m hFit hRight hMatches hStage
  | opened m result =>
      exact opened_invariant m hFit hRight hMatches hStage
  | received m i =>
      exact received_invariant hFit hRight hMatches hStage
  | hydrated m result =>
      exact hydrated_invariant m hFit hRight hMatches hStage
  | passed m => exact passed_invariant m hRight hMatches hStage
  | lost => exact lost_invariant hRight hMatches hStage

/- A new session that connects begins its first attempt. -/
theorem connect_invariant
    (token : String)
    (intents : Int)
    (hydrates : Bool)
    (backoff : Backoff) :
    Invariant token intents
      (Session.new token intents hydrates backoff).connect
      (Account.empty.observeAll false
        (Session.new token intents hydrates backoff)
        (Session.new token intents hydrates
          backoff).connect) := by
  let s := Session.new token intents hydrates backoff
  let t := { s with closing := false }.setStatus .connecting
  have hRight : Account.empty.IsRight token intents := by
    refine ⟨?_, ?_⟩
    · intro r hMember
      cases hMember
    · intro beat hMember
      cases hMember
  have hMatches : Matches token intents s Account.empty := by
    refine ⟨rfl, rfl, rfl, rfl, rfl, rfl, ?_⟩
    intro failure hBroken
    cases hBroken
  have hStatus : Goes [] s t :=
    setStatus_goes { s with closing := false } .connecting
  have hShows : Shows [.fetch] t s.connect :=
    ⟨[.fetch], rfl, rfl⟩
  have hAttempt :=
    attempt_invariant hRight (hMatches.of_same hStatus.same)
  rw [Account.observeAll_of_goes hStatus hShows]
  exact hAttempt

/- At every time of a run, the account is right. -/
theorem invariant_of_isRun
    (token : String)
    (intents : Int)
    (hydrates : Bool)
    (backoff : Backoff)
    (xs : List Stimulus)
    (hRun :
      (Session.new token intents hydrates backoff).IsRun xs) :
    Invariant token intents
      ((Session.new token intents hydrates backoff).course xs)
      ((Session.new token intents hydrates backoff).account
        notices xs) := by
  induction xs with
  | nil => exact connect_invariant token intents hydrates backoff
  | cons x xs hInduction =>
      rcases hRun with ⟨hBefore, hGoesOn, hFit⟩
      exact react_invariant (hInduction hBefore) hGoesOn hFit

/- No invalidation is overlooked in what happened. -/
def Heeds
    (s : Session) : List Stimulus → Prop
  | [] => True
  | x :: xs =>
    s.Heeds xs ∧
      ((s.course xs).invalidates x = true →
        (s.course xs).overlooks x = false)

/- If nothing is overlooked, both accounts are the same. -/
theorem account_notices
    {s : Session}
    {xs : List Stimulus}
    (hHeeds : s.Heeds xs) :
    s.account notices xs = s.account invalidates xs := by
  induction xs with
  | nil => rfl
  | cons x xs hInduction =>
      rcases hHeeds with ⟨hBefore, hTaken⟩
      have hSame :
          (s.course xs).notices x =
            (s.course xs).invalidates x := by
        unfold notices
        cases hInvalid : (s.course xs).invalidates x with
        | false => rfl
        | true => simp [hTaken hInvalid]
      simp only [account, hInduction hBefore, hSame]

/-
  In every run from a connect on, the account is right if only
  those invalidations count of which the session takes notice:
  each greeted connection was answered by RESUME or IDENTIFY
  as the frames tell, its socket was opened where they tell,
  and every heartbeat carried the last number. If none is
  overlooked, it is right with all of them.
-/
theorem account_isRight
    (token : String)
    (intents : Int)
    (hydrates : Bool)
    (backoff : Backoff)
    (xs : List Stimulus)
    (hRun :
      (Session.new token intents hydrates backoff).IsRun xs) :
    ((Session.new token intents hydrates backoff).account
        notices xs).IsRight token intents ∧
      ((Session.new token intents hydrates backoff).Heeds xs →
        ((Session.new token intents hydrates backoff).account
          invalidates xs).IsRight token intents) := by
  have hInvariant :=
    invariant_of_isRun token intents hydrates backoff xs hRun
  refine ⟨hInvariant.right, ?_⟩
  intro hHeeds
  rw [← account_notices hHeeds]
  exact hInvariant.right

/- The first frame of a connection, with a beat each second. -/
def helloFrame : Payload :=
  .map
    [
      ("op", .int Opcode.hello.number),
      ("d", .map [("heartbeat_interval", .int 1000)])
    ]

/- A dispatch that starts a session. -/
def readyFrame : Payload :=
  .map
    [
      ("op", .int Opcode.dispatch.number),
      ("s", .int 1),
      ("t", .text "READY"),
      ("d",
        .map
          [
            ("session_id", .text "s"),
            ("resume_gateway_url", .text "wss://resume")
          ])
    ]

/- A time, with no draw and no failure. -/
def momentAt
    (now : Rat) : Moment :=
  ⟨now, 0, 0, none⟩

/-
  A heartbeat breaks before the gateway closes the connection
  with a code that ends the session; then the next connection
  is opened.
-/
def overlookedEnd : List Stimulus :=
  [
    .received (momentAt 100) (.frame helloFrame),
    .opened (momentAt 100) (.ok ()),
    .passed (momentAt 100),
    .received (momentAt 2) (.closed (some 4007)),
    .passed ⟨1, 0, 0, some (.system "broken")⟩,
    .received (momentAt 0) (.frame readyFrame),
    .received (momentAt 0) (.frame helloFrame),
    .opened (momentAt 0) (.ok ()),
    .fetched (momentAt 0) (.ok "wss://gateway")
  ]

/- A session that was never connected. -/
def untouched : Session :=
  .new "token" 513 false (Backoff.ofBounds 1 60 120 0)

theorem isRun_overlookedEnd :
    untouched.IsRun overlookedEnd := by
  have hMoment (now : Rat) : (momentAt now).IsHarmless := by
    intro cause hFailure
    cases hFailure
  have hHello : IsNumbered helloFrame := by
    intro hKind
    have hOther : isKind helloFrame .dispatch = false := by
      decide +kernel
    rw [hOther] at hKind
    cases hKind
  have hReady : IsNumbered readyFrame :=
    fun _ => Or.inr ⟨1, rfl⟩
  unfold overlookedEnd
  refine ⟨⟨⟨⟨⟨⟨⟨⟨⟨trivial, ?_, harmless_ok _⟩, ?_,
    harmless_ok _⟩, ?_, hMoment 0, hHello⟩, ?_, hMoment 0,
    hReady⟩, ?_, trivial⟩, ?_, trivial⟩, ?_, trivial⟩, ?_,
    harmless_ok _⟩, ?_, hMoment 100, hHello⟩ <;>
    decide +kernel

/-
  The failure of the heartbeat hides the code: the session is
  resumed though the gateway has ended it.
-/
theorem overlookedEnd_resumes :
    untouched.IsRun overlookedEnd ∧
      (untouched.account notices overlookedEnd).IsRight
        "token" 513 ∧
      ¬ (untouched.account invalidates overlookedEnd).IsRight
        "token" 513 := by
  refine ⟨isRun_overlookedEnd,
    (account_isRight "token" 513 false _ overlookedEnd
      isRun_overlookedEnd).1, ?_⟩
  intro hRight
  have hResumed :
      ∃ t ∈ (untouched.account invalidates
          overlookedEnd).attempts,
        t.address =
            some "wss://resume/?v=10&encoding=json" ∧
          t.known.address
              (untouched.account invalidates
                overlookedEnd).gateway =
            some "wss://gateway" := by
    decide +kernel
  rcases hResumed with ⟨t, hMember, hOpened, hKnown⟩
  have hAddress :=
    (hRight.attempts t hMember).address _ hOpened
  rw [hKnown] at hAddress
  simp at hAddress

end Session

end GuildWarden.Gateway
