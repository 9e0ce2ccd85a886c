import GuildWarden.Proofs.Gateway.Presence

/-
  This file shows what one stimulus makes of a session and of
  its account, up to the first frame of a connection: how an
  attempt to connect begins, what a heartbeat carries, and
  that a first frame is answered as the account expects.

  Key definitions include:
    * `Gateway.Session.recorded`
    * `Gateway.Session.IsSilent`
    * `Gateway.Session.Beats`

  Main statements:
    * `Gateway.Session.attempt_invariant`
    * `Gateway.Session.passed_invariant`
    * `Gateway.Session.greet_invariant`
-/

namespace GuildWarden.Gateway

open Session

variable {s t u : Session}
variable {m : Moment}
variable {cause : Cause}
variable {token : String}
variable {intents : Int}
variable {a b : Account}
variable {isFetching : Bool}

------------------------------------------------------------
-- Accounts
------------------------------------------------------------

/- An attempt is as right if the address becomes known. -/
theorem Attempt.IsRight.of_none
    {r : Attempt}
    (hRight : r.IsRight token intents none)
    (gateway : Option String) :
    r.IsRight token intents gateway where
  presented := hRight.presented
  address := by
    intro url hUrl
    have hAddress := hRight.address url hUrl
    unfold Recall.address at hAddress ⊢
    split
    · rename_i hResumes
      rw [if_pos hResumes] at hAddress
      cases hKnown : r.known.resumeUrl with
      | none => simp [hKnown] at hAddress
      | some _ => simpa [hKnown] using hAddress
    · rename_i hStarts
      rw [if_neg hStarts] at hAddress
      cases hAddress

/- Where nothing else is known the gateway is the address. -/
theorem Recall.address_of_none
    {k : Recall}
    (hNone : k.address none = none)
    (gateway : Option String) :
    k.address gateway = gateway := by
  unfold address at hNone ⊢
  split
  · rename_i hResumes
    rw [if_pos hResumes] at hNone
    cases hKnown : k.resumeUrl with
    | none => rfl
    | some _ => simp [hKnown] at hNone
  · rfl

namespace Account

/- An attempt is right when it begins. -/
theorem IsRight.begin
    (hRight : a.IsRight token intents)
    (address : Option String)
    (hAddress :
      ∀ url, address = some url →
        a.recalled.address a.gateway = some url) :
    (a.begin address).IsRight token intents where
  attempts := by
    intro r hMember
    rcases List.mem_cons.mp hMember with rfl | hOlder
    · exact ⟨rfl, hAddress⟩
    · exact hRight.attempts r hOlder
  beats := hRight.beats

/- A heartbeat is right if it carries what is known. -/
theorem IsRight.beat
    {frame : Payload}
    (hRight : a.IsRight token intents)
    (hFrame : frame = frameOf .heartbeat a.recalled.number) :
    Account.IsRight token intents
      { a with beats := ⟨frame, a.recalled⟩ :: a.beats } where
  attempts := hRight.attempts
  beats := by
    intro beat hMember
    rcases List.mem_cons.mp hMember with rfl | hOlder
    · exact hFrame
    · exact hRight.beats beat hOlder

/- Nothing is sent in the time between quiet states. -/
theorem observeAll_of_goes
    {seen : List Order}
    (hGoes : Goes [] s t)
    (hShows : Shows seen t u) :
    a.observeAll isFetching s u =
      a.observeAll isFetching t u := by
  have hBoth : Shows seen s u := by
    simpa using hGoes.shows.trans hShows
  rw [hBoth.observeAll, hShows.observeAll]

end Account

theorem Matches.of_recall
    (hMatches : Matches token intents s a)
    (hRecall : b.recalled = a.recalled)
    (hGateway : b.gateway = a.gateway) :
    Matches token intents s b where
  token := hMatches.token
  intents := hMatches.intents
  sessionId := by rw [hRecall, hMatches.sessionId]
  sequence := by rw [hRecall, hMatches.sequence]
  resumeUrl := by rw [hRecall, hMatches.resumeUrl]
  gateway := by rw [hGateway, hMatches.gateway]
  sound := hMatches.sound

namespace Session

------------------------------------------------------------
-- Attempts
------------------------------------------------------------

theorem openAt_invariant
    {url : String}
    (hRight : a.IsRight token intents)
    (hMatches : Matches token intents s a)
    (hUrl : a.recalled.address a.gateway = some url) :
    Invariant token intents (s.openAt a.recalled.canResume url)
      (a.begin (some url)) := by
  refine ⟨hRight.begin (some url) ?_, Or.inr ⟨?_, ?_⟩⟩
  · intro other hOther
    cases hOther
    exact hUrl
  · have hSame :
        Same s (s.openAt a.recalled.canResume url) :=
      ⟨rfl, rfl, rfl, rfl, rfl, rfl, id⟩
    exact (hMatches.of_same hSame).of_recall rfl rfl
  · exact ⟨rfl, url, a.attempts, rfl⟩

theorem openGateway_of_some
    {url : String}
    (resuming : Bool)
    (hKnown : s.gatewayUrl = some url) :
    s.openGateway resuming = s.openAt resuming url := by
  simp [openGateway, hKnown]

theorem openGateway_of_none
    (resuming : Bool)
    (hUnknown : s.gatewayUrl = none) :
    s.openGateway resuming =
      { s with phase := .fetching resuming }.order .fetch := by
  unfold openGateway
  split
  · rename_i url hKnown
    rw [hUnknown] at hKnown
    cases hKnown
  · rfl

/- The socket is opened at the gateway, once it is known. -/
theorem openGateway_invariant
    (hRight : a.IsRight token intents)
    (hMatches : Matches token intents s a)
    (hUsual : a.recalled.address none = none) :
    Invariant token intents
      (s.openGateway a.recalled.canResume)
      (a.observeAll false s
        (s.openGateway a.recalled.canResume)) := by
  have hAddress :=
    Recall.address_of_none hUsual a.gateway
  cases hKnown : a.gateway with
  | some url =>
      rw [openGateway_of_some _ (hMatches.gateway.trans hKnown)]
      have hShows :
          Shows [.openSocket url] s
            (s.openAt a.recalled.canResume url) :=
        ⟨[.openSocket url], rfl, rfl⟩
      rw [hShows.observeAll]
      exact openAt_invariant hRight hMatches
        (hAddress.trans hKnown)
  | none =>
      rw [openGateway_of_none _ (hMatches.gateway.trans hKnown)]
      have hShows :
          Shows [.fetch] s
            ({ s with
              phase := .fetching
                a.recalled.canResume }.order .fetch) :=
        ⟨[.fetch], rfl, rfl⟩
      have hSame :
          Same s
            ({ s with
              phase := .fetching
                a.recalled.canResume }.order .fetch) :=
        ⟨rfl, rfl, rfl, rfl, rfl, rfl, id⟩
      rw [hShows.observeAll]
      refine
        ⟨hRight.begin none (by simp), Or.inr ⟨?_, ?_⟩⟩
      · exact (hMatches.of_same hSame).of_recall rfl rfl
      · exact ⟨rfl, hUsual, hKnown, a.attempts, rfl⟩

/- A session that connects begins an attempt. -/
theorem attempt_invariant
    (hRight : a.IsRight token intents)
    (hMatches : Matches token intents s a) :
    Invariant token intents s.attempt
      (a.observeAll false s s.attempt) := by
  have hUsual (hUnknown :
      a.recalled.canResume = true → a.recalled.resumeUrl = none) :
      a.recalled.address none = none := by
    unfold Recall.address
    split
    · rename_i hResumes
      rw [hUnknown hResumes]
      rfl
    · rfl
  unfold attempt
  cases hResumes : a.recalled.canResume with
  | true =>
      rw [hMatches.canResume, hResumes, if_pos rfl]
      have hUrl := hMatches.resumeUrl
      cases hKnown : a.recalled.resumeUrl with
      | some url =>
          rw [hKnown] at hUrl
          simp only [hUrl]
          have hShows :
              Shows [.openSocket url] s (s.openAt true url) :=
            ⟨[.openSocket url], rfl, rfl⟩
          rw [hShows.observeAll, ← hResumes]
          apply openAt_invariant hRight hMatches
          simp [Recall.address, hResumes, hKnown]
      | none =>
          rw [hKnown] at hUrl
          simp only [hUrl]
          rw [← hResumes]
          exact openGateway_invariant hRight hMatches
            (hUsual fun _ => hKnown)
  | false =>
      rw [hMatches.canResume, hResumes,
        if_neg Bool.false_ne_true]
      have hStatus := setStatus_goes s .connecting
      have hOpened :=
        openGateway_invariant hRight
          (hMatches.of_same hStatus.same)
          (hUsual (by simp [hResumes]))
      rw [hResumes] at hOpened
      have hShows :
          ∃ seen,
            Shows seen (s.setStatus .connecting)
              ((s.setStatus .connecting).openGateway
                false) := by
        unfold openGateway
        split
        · exact ⟨_, [.openSocket _], rfl, rfl⟩
        · exact ⟨_, [.fetch], rfl, rfl⟩
      rcases hShows with ⟨seen, hShows⟩
      rw [Account.observeAll_of_goes hStatus hShows]
      exact hOpened

------------------------------------------------------------
-- One Stimulus
------------------------------------------------------------

/- What becomes of the account of a session by a stimulus. -/
def recorded
    (s : Session)
    (a : Account)
    (x : Stimulus) : Account :=
  (s.told (s.notices x) a x).observeAll s.isFetching s
    (s.react x)

/- A stimulus tells nothing new, and nothing is done for it. -/
structure IsSilent
    (s : Session)
    (a : Account)
    (x : Stimulus) : Prop where
  heard : s.heardBy a.recalled x = a.recalled
  fetched : s.fetchedBy a.gateway x = a.gateway
  greeted : s.isGreetedBy x = false

variable {x : Stimulus}

/- The session is forgotten in silence, or is kept. -/
theorem IsSilent.recorded
    (hSilent : s.IsSilent a x) :
    s.recorded a x =
      ({ a with
        recalled :=
          if s.notices x then .nothing
          else a.recalled }).observeAll s.isFetching s
        (s.react x) := by
  unfold Session.recorded told
  simp only [hSilent.heard, hSilent.fetched, hSilent.greeted]
  rfl

/- A session leaves in silence. -/
theorem IsSilent.of_calms
    (hSilent : s.IsSilent a x)
    (hRight : a.IsRight token intents)
    (hMatches : Matches token intents s a)
    (hCalms : Calms (s.notices x) s (s.react x)) :
    Invariant token intents (s.react x) (s.recorded a x) := by
  rw [hSilent.recorded, hCalms.shows.observeAll]
  exact .of_calms hRight hMatches hCalms

/- A session goes on in silence. -/
theorem IsSilent.of_goes
    (hSilent : s.IsSilent a x)
    (hNotices : s.notices x = false)
    (hRight : a.IsRight token intents)
    (hMatches : Matches token intents s a)
    (hStage : Stage s a)
    (hGoes : Goes [] s (s.react x))
    (hPhase : (s.react x).phase = s.phase) :
    Invariant token intents (s.react x) (s.recorded a x) := by
  rw [hSilent.recorded, hNotices, hGoes.shows.observeAll]
  exact .of_goes hRight hMatches hStage hGoes hPhase

/- A stimulus passes a session by. -/
theorem IsSilent.of_eq
    (hSilent : s.IsSilent a x)
    (hNotices : s.notices x = false)
    (hRight : a.IsRight token intents)
    (hMatches : Matches token intents s a)
    (hStage : Stage s a)
    (hSame : s.react x = s) :
    Invariant token intents (s.react x) (s.recorded a x) := by
  apply hSilent.of_goes hNotices hRight hMatches hStage
  · rw [hSame]
    exact .refl s
  · rw [hSame]

------------------------------------------------------------
-- Before the First Frame
------------------------------------------------------------

/- A session is closed, at once if it waits. -/
theorem close_invariant
    (hRight : a.IsRight token intents)
    (hMatches : Matches token intents s a)
    (hStage : Stage s a) :
    Invariant token intents (s.react .close)
      (s.recorded a .close) := by
  have hSilent : s.IsSilent a .close := ⟨rfl, rfl, rfl⟩
  have hClosing : Goes [] s { s with closing := true } :=
    ⟨.of_outbox rfl, ⟨rfl, rfl, rfl, rfl, rfl, rfl, id⟩⟩
  have hClosed :=
    hClosing.quietly (closeSocket_goes _ leaveCode)
  by_cases hAgain : s.closing = true
  · apply hSilent.of_eq rfl hRight hMatches hStage
    simp [react, close, hAgain]
  · have hReact : s.react .close = s.close := rfl
    unfold close at hReact
    rw [if_neg hAgain] at hReact
    simp only at hReact
    split at hReact
    · apply hSilent.of_calms hRight hMatches
      rw [hReact]
      exact hClosed.calms (finish_calms _ none)
    · apply hSilent.of_goes rfl hRight hMatches hStage
      · rw [hReact]
        exact hClosed
      · simp [hReact]

/- A socket is lost without a word. -/
theorem lost_invariant
    (hRight : a.IsRight token intents)
    (hMatches : Matches token intents s a)
    (hStage : Stage s a) :
    Invariant token intents (s.react .lost)
      (s.recorded a .lost) := by
  have hSilent : s.IsSilent a .lost := ⟨rfl, rfl, rfl⟩
  apply hSilent.of_goes rfl hRight hMatches hStage
  · exact ⟨.of_outbox rfl, ⟨rfl, rfl, rfl, rfl, rfl, rfl, id⟩⟩
  · rfl

/- The address of the gateway becomes known to an attempt. -/
theorem fetched_invariant_of_ok
    {resuming : Bool}
    (m : Moment)
    (url : String)
    (hRight : a.IsRight token intents)
    (hMatches : Matches token intents s a)
    (hStage : Stage s a)
    (hPhase : s.phase = .fetching resuming) :
    Invariant token intents (s.react (.fetched m (.ok url)))
      (s.recorded a (.fetched m (.ok url))) := by
  have hReact :
      s.react (.fetched m (.ok url)) =
        { s with gatewayUrl := some url }.openAt resuming
          url := by
    simp [react, fetched, hPhase]
  have hShows :
      Shows [.openSocket url] s
        (s.react (.fetched m (.ok url))) := by
    rw [hReact]
    exact ⟨[.openSocket url], rfl, rfl⟩
  have hFetching : s.isFetching = true := by
    simp [isFetching, hPhase]
  unfold Stage at hStage
  simp only [hPhase] at hStage
  rcases hStage with
    ⟨hResumes, hUsual, hUnknown, older, hAttempts⟩
  have hRecorded :
      s.recorded a (.fetched m (.ok url)) =
        { a with
          gateway := some url
          attempts :=
            ⟨a.recalled, some url, false, []⟩ :: older } := by
    unfold recorded
    rw [hShows.observeAll, hFetching]
    simp [told, notices, invalidates, heardBy, fetchedBy,
      isGreetedBy, hFetching, Account.observe, Account.amend,
      hAttempts]
  have hOlder (r : Attempt) (hMember : r ∈ a.attempts) :
      r.IsRight token intents (some url) := by
    have hKnown := hRight.attempts r hMember
    rw [hUnknown] at hKnown
    exact hKnown.of_none (some url)
  rw [hRecorded]
  refine ⟨⟨?_, hRight.beats⟩, Or.inr ⟨?_, ?_⟩⟩
  · intro r hMember
    rcases List.mem_cons.mp hMember with rfl | hBefore
    · refine ⟨rfl, ?_⟩
      intro other hOther
      cases hOther
      exact Recall.address_of_none hUsual (some url)
    · apply hOlder r
      rw [hAttempts]
      exact List.mem_cons_of_mem _ hBefore
  · rw [hReact]
    exact
      ⟨hMatches.token, hMatches.intents, hMatches.sessionId,
        hMatches.sequence, hMatches.resumeUrl, rfl,
        hMatches.sound⟩
  · rw [hReact]
    exact ⟨hResumes, url, older, rfl⟩

/- The address of the gateway was fetched, or that failed. -/
theorem fetched_invariant
    (m : Moment)
    {result : Except Cause String}
    (hResult : IsHarmless result)
    (hRight : a.IsRight token intents)
    (hMatches : Matches token intents s a)
    (hStage : Stage s a) :
    Invariant token intents (s.react (.fetched m result))
      (s.recorded a (.fetched m result)) := by
  have hReact :
      s.react (.fetched m result) = s.fetched m result := rfl
  unfold fetched at hReact
  split at hReact
  · rename_i resuming url hPhase
    exact fetched_invariant_of_ok m url hRight hMatches
      hStage hPhase
  · rename_i cause hPhase
    have hSilent :
        s.IsSilent a (.fetched m (.error cause)) :=
      ⟨rfl, rfl, rfl⟩
    apply hSilent.of_calms hRight hMatches
    rw [hReact]
    have hCalms := lose_calms s m cause
    rw [hResult cause rfl] at hCalms
    exact hCalms
  · rename_i result _ _ hNotKnown _
    have hSilent : s.IsSilent a (.fetched m result) := by
      refine ⟨rfl, ?_, rfl⟩
      unfold fetchedBy isFetching
      cases result with
      | error _ => rfl
      | ok url =>
          cases hPhase : s.phase with
          | fetching resuming =>
              exact (hNotKnown resuming url hPhase rfl).elim
          | _ => rfl
    exact hSilent.of_eq rfl hRight hMatches hStage hReact

/- The socket was opened, or that failed. -/
theorem opened_invariant
    (m : Moment)
    {result : Except Cause Unit}
    (hResult : IsHarmless result)
    (hRight : a.IsRight token intents)
    (hMatches : Matches token intents s a)
    (hStage : Stage s a) :
    Invariant token intents (s.react (.opened m result))
      (s.recorded a (.opened m result)) := by
  have hSilent : s.IsSilent a (.opened m result) :=
    ⟨rfl, rfl, rfl⟩
  have hReact :
      s.react (.opened m result) = s.opened m result := rfl
  unfold opened at hReact
  split at hReact
  · rename_i resuming _ hPhase
    unfold Stage at hStage
    simp only [hPhase] at hStage
    have hShows :
        Shows [] s (s.react (.opened m (.ok ()))) := by
      rw [hReact]
      exact .of_outbox rfl
    rw [hSilent.recorded, hShows.observeAll, hReact]
    have hSame :
        Same s
          { s with
            socketOpen := true
            phase :=
              .greeting resuming (m.now + greetingTimeout) } :=
      ⟨rfl, rfl, rfl, rfl, rfl, rfl, id⟩
    exact ⟨hRight, Or.inr ⟨hMatches.of_same hSame, hStage⟩⟩
  · rename_i cause hPhase
    apply hSilent.of_calms hRight hMatches
    rw [hReact]
    have hCalms := lose_calms s m cause
    rw [hResult cause rfl] at hCalms
    exact hCalms
  · exact hSilent.of_eq rfl hRight hMatches hStage hReact

/- What had to be done for a new session is done, or failed. -/
theorem hydrated_invariant
    (m : Moment)
    {result : Except Cause Unit}
    (hResult : IsHarmless result)
    (hRight : a.IsRight token intents)
    (hMatches : Matches token intents s a)
    (hStage : Stage s a) :
    Invariant token intents (s.react (.hydrated m result))
      (s.recorded a (.hydrated m result)) := by
  have hSilent : s.IsSilent a (.hydrated m result) :=
    ⟨rfl, rfl, rfl⟩
  have hReact :
      s.react (.hydrated m result) = s.hydrated m result := rfl
  unfold hydrated at hReact
  split at hReact
  · apply hSilent.of_calms hRight hMatches
    rw [hReact]
    have hActive := markActive_goes s m.now
    exact hActive.calms
      (goOn_calms m (hActive.same.sound hMatches.sound))
  · rename_i cause hPhase
    apply hSilent.of_calms hRight hMatches
    rw [hReact]
    apply leave_calms_kept m _ hMatches.sound
    intro failure hFailure
    cases hFailure
    exact hResult cause rfl
  · exact hSilent.of_eq rfl hRight hMatches hStage hReact

------------------------------------------------------------
-- Time
------------------------------------------------------------

/- A heartbeat is sent, with the number that is known. -/
theorem beat_invariant
    (hRight : a.IsRight token intents)
    (hMatches : Matches token intents s a)
    (hStage : Stage s a)
    (hGoes : Goes [.send s.heartbeatFrame] s t)
    (hPhase : t.phase = s.phase) :
    Invariant token intents t
      (a.observeAll isFetching s t) := by
  have hSeen :
      a.observeAll isFetching s t =
        { a with
          beats :=
            ⟨s.heartbeatFrame, a.recalled⟩ :: a.beats } := by
    rw [hGoes.shows.observeAll]
    simp [Account.observe, Session.heartbeatFrame,
      isKind_frameOf]
  rw [hSeen]
  refine ⟨hRight.beat hMatches.heartbeatFrame,
    Or.inr ⟨?_, ?_⟩⟩
  · exact (hMatches.of_same hGoes.same).of_recall rfl rfl
  · unfold Stage at hStage ⊢
    rw [hPhase]
    exact hStage

/- A heartbeat goes out and waits for its answer. -/
theorem beat_goes
    (hBeat : s.beat m = .ok t) :
    Goes [.send s.heartbeatFrame] s t ∧
      t.phase = s.phase := by
  rw [eq_order_of_beat hBeat]
  have hSent := order_goes s (.send s.heartbeatFrame)
  have hWaiting :
      Goes [] (s.order (.send s.heartbeatFrame))
        { s.order (.send s.heartbeatFrame) with
          awaitingAck := true } :=
    ⟨.of_outbox rfl, ⟨rfl, rfl, rfl, rfl, rfl, rfl, id⟩⟩
  exact ⟨hSent.quietly hWaiting, rfl⟩

/- A session beats, or has tried to. -/
structure Beats
    (s t : Session) : Prop where
  goes :
    Goes [] s t ∨ Goes [.send s.heartbeatFrame] s t
  phase : t.phase = s.phase

theorem sendDueBeat_beats
    (s : Session)
    (m : Moment) :
    Beats s (s.sendDueBeat m) := by
  unfold sendDueBeat
  split
  · rename_i t hBeat
    rcases beat_goes hBeat with ⟨hGoes, hPhase⟩
    refine ⟨Or.inr (hGoes.quietly ⟨.of_outbox rfl, ?_⟩), hPhase⟩
    refine ⟨rfl, rfl, rfl, rfl, rfl, rfl, ?_⟩
    intro _ failure hBroken
    cases hBroken
  · rename_i cause hBeat
    refine ⟨Or.inl ⟨.of_outbox rfl, ?_⟩, rfl⟩
    refine ⟨rfl, rfl, rfl, rfl, rfl, rfl, ?_⟩
    intro _ failure hBroken
    cases hExpected : isExpected cause with
    | true => simp [hExpected] at hBroken
    | false =>
        have hFailure : cause = failure := by
          simpa [hExpected] using hBroken
        rw [← hFailure]
        exact discardsSession_of_not_isExpected hExpected

theorem pulse_beats
    (s : Session)
    (m : Moment) :
    Beats s (s.pulse m) := by
  unfold pulse
  split
  · exact sendDueBeat_beats s m
  · have hMissed : Goes [] s { s with missed := s.missed + 1 } :=
      ⟨.of_outbox rfl, ⟨rfl, rfl, rfl, rfl, rfl, rfl, id⟩⟩
    simp only
    split
    · have hDead :
          Goes [] s
            { s with
              missed := s.missed + 1
              isDead := true
              heartbeat := .over } := by
        refine ⟨.of_outbox rfl, ?_⟩
        refine ⟨rfl, rfl, rfl, rfl, rfl, rfl, ?_⟩
        intro _ failure hBroken
        cases hBroken
      refine
        ⟨Or.inl (hDead.quietly (closeSocket_goes _ _)), ?_⟩
      rw [closeSocket_phase]
    · have hBeats :=
        sendDueBeat_beats { s with missed := s.missed + 1 } m
      refine ⟨?_, hBeats.phase⟩
      rcases hBeats.goes with hQuiet | hSent
      · exact Or.inl (hMissed.trans hQuiet)
      · exact Or.inr (hMissed.trans hSent)

/- Time passes: a heartbeat is due, or an attempt, or nothing. -/
theorem passed_invariant
    (m : Moment)
    (hRight : a.IsRight token intents)
    (hMatches : Matches token intents s a)
    (hStage : Stage s a) :
    Invariant token intents (s.react (.passed m))
      (s.recorded a (.passed m)) := by
  have hSilent : s.IsSilent a (.passed m) := ⟨rfl, rfl, rfl⟩
  have hReact : s.react (.passed m) = s.tick m := rfl
  unfold tick runOut at hReact
  split at hReact
  · have hBeats := pulse_beats s m
    rw [← hReact] at hBeats
    rcases hBeats.goes with hQuiet | hSent
    · exact hSilent.of_goes rfl hRight hMatches hStage hQuiet
        hBeats.phase
    · rw [hSilent.recorded]
      exact beat_invariant hRight hMatches hStage hSent
        hBeats.phase
  · split at hReact
    · split at hReact
      · apply hSilent.of_calms hRight hMatches
        rw [hReact]
        apply leave_calms_kept m _ hMatches.sound
        intro failure hFailure
        cases hFailure
        rfl
      · rename_i hPhase
        have hFetching : s.isFetching = false := by
          simp [isFetching, hPhase]
        rw [hSilent.recorded, hFetching, hReact]
        exact attempt_invariant hRight hMatches
      · exact hSilent.of_eq rfl hRight hMatches hStage hReact
    · exact hSilent.of_eq rfl hRight hMatches hStage hReact

------------------------------------------------------------
-- The First Frame
------------------------------------------------------------

/- Whether a frame is sent depends on the socket alone. -/
theorem toBool_send
    (s : Session)
    (m : Moment)
    (frame : Payload) :
    (s.send m frame).toBool =
      (s.socketOpen && m.sendFailure.isNone) := by
  unfold send
  cases s.socketOpen with
  | false => rfl
  | true => cases m.sendFailure <;> rfl

theorem startHeartbeat_goes
    (s : Session)
    (m : Moment)
    (interval : Span) :
    Goes [] s (s.startHeartbeat m interval) := by
  refine ⟨.of_outbox rfl, ?_⟩
  refine ⟨rfl, rfl, rfl, rfl, rfl, rfl, ?_⟩
  intro _ failure hBroken
  cases hBroken

/- A first frame that cannot be answered tells nothing. -/
theorem greet_invariant_of_leave
    {p : Payload}
    {resuming : Bool}
    {deadline : Rat}
    (hRight : a.IsRight token intents)
    (hMatches : Matches token intents s a)
    (hPhase : s.phase = .greeting resuming deadline)
    (hGreeted :
      s.isGreetedBy (.received m (.frame p)) = false)
    (hCalms : Calms false s (s.greet m resuming p)) :
    Invariant token intents
      (s.react (.received m (.frame p)))
      (s.recorded a (.received m (.frame p))) := by
  have hSilent : s.IsSilent a (.received m (.frame p)) := by
    refine ⟨?_, rfl, hGreeted⟩
    simp [heardBy, hPhase]
  have hNotices :
      s.notices (.received m (.frame p)) = false := by
    simp [notices, overlooks, isGreeting, hPhase]
  have hReact :
      s.react (.received m (.frame p)) =
        s.greet m resuming p := by
    simp [react, receive, hPhase, receiveFailure]
  apply hSilent.of_calms hRight hMatches
  rw [hNotices, hReact]
  exact hCalms

/- Only a greeted session is asked to present itself. -/
theorem isGreetedBy_of_present
    {p : Payload}
    {resuming : Bool}
    {deadline : Rat}
    {interval : Span}
    (hPhase : s.phase = .greeting resuming deadline)
    (hRead : readInterval p = .ok interval)
    (hSent :
      (s.startHeartbeat m interval).present m resuming =
        .ok t) :
    s.isGreetedBy (.received m (.frame p)) = true := by
  have hOpen := toBool_send (s.startHeartbeat m interval) m
    (if resuming then
      (s.startHeartbeat m interval).resumeFrame
    else (s.startHeartbeat m interval).identifyFrame)
  unfold present at hSent
  rw [hSent] at hOpen
  have hBoth :
      s.socketOpen = true ∧ m.sendFailure.isNone = true := by
    simpa [startHeartbeat, Except.toBool] using hOpen.symm
  simp [isGreetedBy, isGreeting, hPhase, hRead,
    Except.toBool, hBoth]

/- A first frame that is answered completes its attempt. -/
theorem greet_invariant_of_sent
    {p : Payload}
    {resuming : Bool}
    {deadline : Rat}
    {interval : Span}
    (hRight : a.IsRight token intents)
    (hMatches : Matches token intents s a)
    (hStage : Stage s a)
    (hPhase : s.phase = .greeting resuming deadline)
    (hRead : readInterval p = .ok interval)
    (hSent :
      (s.startHeartbeat m interval).present m resuming =
        .ok t) :
    Invariant token intents
      (s.react (.received m (.frame p)))
      (s.recorded a (.received m (.frame p))) := by
  have hReact :
      s.react (.received m (.frame p)) = t.goOn m := by
    simp [react, receive, hPhase, receiveFailure, greet,
      hRead, hSent, goOnOrLeave]
  have hStart := startHeartbeat_goes s m interval
  unfold Stage at hStage
  simp only [hPhase] at hStage
  rcases hStage with ⟨hResumes, url, older, hAttempts⟩
  have hStarted := hMatches.of_same hStart.same
  have hOrder :
      t = (s.startHeartbeat m interval).order
        (.send (a.recalled.presentation token intents)) := by
    rw [eq_order_of_send hSent, hResumes,
      hStarted.presentation]
  have hGoes :
      Goes [.send (a.recalled.presentation token intents)]
        s t := by
    have hAsked :
        Goes [.send (a.recalled.presentation token intents)]
          (s.startHeartbeat m interval) t := by
      rw [hOrder]
      exact order_goes (s.startHeartbeat m interval)
        (.send (a.recalled.presentation token intents))
    exact hStart.trans hAsked
  have hTaken := hMatches.of_same hGoes.same
  have hCalms : Calms false t (t.goOn m) :=
    goOn_calms m hTaken.sound
  have hGreeted := isGreetedBy_of_present hPhase hRead hSent
  have hNotices :
      s.notices (.received m (.frame p)) = false := by
    simp [notices, overlooks, isGreeting, hPhase]
  have hRecorded :
      s.recorded a (.received m (.frame p)) =
        { a with
          attempts :=
            ⟨a.recalled, some url, true,
              [a.recalled.presentation token intents]⟩ ::
              older } := by
    have hShows := hGoes.shows.trans hCalms.shows
    unfold recorded
    rw [hReact, hShows.observeAll]
    simp [told, hNotices, hGreeted, heardBy, hPhase,
      fetchedBy, Account.observe, Account.amend, hAttempts,
      isKind_presentation]
  rw [hReact, hRecorded]
  refine .of_calms_kept (s := t) ⟨?_, hRight.beats⟩
    (hTaken.of_recall rfl rfl) hCalms
  intro r hMember
  rcases List.mem_cons.mp hMember with rfl | hBefore
  · have hLatest :=
      hRight.attempts ⟨a.recalled, some url, false, []⟩ (by
        rw [hAttempts]
        exact List.mem_cons_self)
    exact ⟨rfl, hLatest.address⟩
  · apply hRight.attempts r
    rw [hAttempts]
    exact List.mem_cons_of_mem _ hBefore

/- The first frame is received. -/
theorem greet_invariant
    {resuming : Bool}
    {deadline : Rat}
    (p : Payload)
    (hMoment : m.IsHarmless)
    (hRight : a.IsRight token intents)
    (hMatches : Matches token intents s a)
    (hStage : Stage s a)
    (hPhase : s.phase = .greeting resuming deadline) :
    Invariant token intents
      (s.react (.received m (.frame p)))
      (s.recorded a (.received m (.frame p))) := by
  cases hRead : readInterval p with
  | error cause =>
      apply greet_invariant_of_leave hRight hMatches hPhase
      · simp [isGreetedBy, hRead, Except.toBool]
      · have hGreet :
            s.greet m resuming p = s.leave m (some cause) := by
          simp [greet, hRead]
        rw [hGreet]
        apply leave_calms_kept m _ hMatches.sound
        intro failure hFailure
        cases hFailure
        exact readInterval_harmless p cause hRead
  | ok interval =>
      cases hSent :
          (s.startHeartbeat m interval).present m resuming with
      | ok t =>
          exact greet_invariant_of_sent hRight hMatches hStage
            hPhase hRead hSent
      | error cause =>
          have hStart := startHeartbeat_goes s m interval
          have hGreet :
              s.greet m resuming p =
                (s.startHeartbeat m interval).leave m
                  (some cause) := by
            simp [greet, hRead, hSent, goOnOrLeave]
          apply greet_invariant_of_leave hRight hMatches hPhase
          · have hOpen :=
              toBool_send (s.startHeartbeat m interval) m
                (if resuming then
                  (s.startHeartbeat m interval).resumeFrame
                else
                  (s.startHeartbeat m
                    interval).identifyFrame)
            have hFailed := hSent
            unfold present at hFailed
            rw [hFailed] at hOpen
            have hClosed :
                (s.socketOpen && m.sendFailure.isNone) =
                  false := hOpen.symm
            simp [isGreetedBy, Bool.and_assoc, hClosed]
          · rw [hGreet]
            apply hStart.calms
            apply leave_calms_kept m _
              (hStart.same.sound hMatches.sound)
            intro failure hFailure
            cases hFailure
            exact send_harmless _ _ hMoment cause hSent

end Session

end GuildWarden.Gateway
