import GuildWarden.Proofs.Gateway.Recollection

/-
  This file shows when a session that presents itself anew may
  take its new start for a replay: when a number was heard
  without a start.

  Key definitions include:
    * `Gateway.Session.Follows`

  Main statements:
    * `Gateway.Session.dispatchOnce_follows`
    * `Gateway.Session.hear_turns`
    * `Gateway.Session.react_turns`
    * `Gateway.Session.isFresh_iff_of_identifies`
-/

namespace GuildWarden.Gateway.Session

variable {s t u : Session}
variable {m : Moment}
variable {cause : Cause}
variable {dispatches : List Payload}
variable {x : Stimulus}

------------------------------------------------------------
-- Dispatches
------------------------------------------------------------

/- A session takes the id of a start, if there is one. -/
def named
    (s : Session) : Option Event.Ready → Session
  | some r => { s with sessionId := some r.sessionId }
  | none => s

/-
  What comes of a frame keeps what another session recalls, and
  no failure makes it forget.
-/
structure Follows
    (base s : Session)
    (r : Handled) : Prop where
  recalls : Recalls base r.1
  calm : s.isCalm = true → r.1.isCalm = true
  quiet :
    ∃ seen, Shows seen s r.1 ∧ seen.any presentsAnew = false
  kept :
    ∀ cause, r.2 = some cause →
      discardsSession cause = false

/- Nothing becomes of a frame, or a failure that is harmless. -/
theorem Follows.of_failure
    {failure : Option Cause}
    (hKept :
      ∀ cause, failure = some cause →
        discardsSession cause = false) :
    Follows s s (s, failure) :=
  ⟨.refl s, id, ⟨[], .of_outbox rfl, rfl⟩, hKept⟩

/- A session goes on, and keeps its phase. -/
theorem Follows.of_goes
    {seen : List Order}
    (hGoes : Goes seen s t)
    (hQuiet : seen.any presentsAnew = false)
    (hPhase : t.phase = s.phase) :
    Follows s s (t, none) where
  recalls := hGoes.same.recalls
  calm := fun hCalm => isCalm_of_phase hCalm hPhase
  quiet := ⟨seen, hGoes.shows, hQuiet⟩
  kept := by simp

/- A start is taken over, also if its address cannot be used. -/
theorem start_follows
    (s : Session)
    (m : Moment)
    (r : Event.Ready) :
    Follows (s.named (some r)) s (s.start m r) := by
  have hNamed :
      Shows [] s { s with sessionId := some r.sessionId } :=
    .of_outbox rfl
  unfold start
  simp only
  split
  · rename_i cause hUrl
    refine ⟨.refl _, id, ⟨[], hNamed, rfl⟩, ?_⟩
    intro failure hFailure
    cases hFailure
    unfold resumeAddress at hUrl
    split at hUrl
    · cases hUrl
    · split at hUrl
      · cases hUrl
      · cases hUrl
        rfl
  · rename_i resumeUrl hUrl
    have hAddressed :
        Recalls (s.named (some r))
          { s with sessionId := some r.sessionId, resumeUrl } :=
      ⟨rfl, rfl, id⟩
    have hShown :
        Shows [] s
          { s with sessionId := some r.sessionId, resumeUrl } :=
      .of_outbox rfl
    have hStatus :=
      (setStatus_goes
        { s with sessionId := some r.sessionId, resumeUrl }
        .identified).quietly (order_goes _ (.queue (.ready r)))
    split
    · refine ⟨?_, fun _ => rfl, ⟨[], ?_, rfl⟩, by simp⟩
      · have hRecalls :=
          hAddressed.trans hStatus.same.recalls
        exact ⟨hRecalls.sequence, hRecalls.sessionId,
          hRecalls.sound⟩
      · have hHydrates :=
          hStatus.shows.trans (.order _ (.hydrate r))
        exact hShown.trans hHydrates
    · have hActive := hStatus.quietly (markActive_goes _ m.now)
      refine ⟨hAddressed.trans hActive.same.recalls, ?_,
        ⟨[], hShown.trans hActive.shows, rfl⟩, by simp⟩
      intro hCalm
      apply isCalm_of_phase hCalm
      simp [markActive, order]

/- A dispatch is read, and a start that it announces counts. -/
theorem dispatch_follows
    (s : Session)
    (m : Moment)
    (p : Payload) :
    Follows (s.named (startOf? p)) s (s.dispatch m p) := by
  unfold Session.dispatch startOf?
  cases hDecoded :
      Event.decode (p.field "t") (p.field "d") with
  | error cause =>
      apply Follows.of_failure
      intro failure hFailure
      cases hFailure
      exact Event.decode_harmless _ _ cause hDecoded
  | ok e? =>
      cases e? with
      | none => exact .of_failure (by simp)
      | some e =>
          cases e with
          | ready r => exact start_follows s m r
          | resumed =>
              have hQueued :=
                (setStatus_goes s .identified).quietly
                  (order_goes _ (.queue .resumed))
              apply Follows.of_goes
                (hQueued.quietly (markActive_goes _ m.now)) rfl
              simp [markActive, order]
          | _ =>
              exact .of_goes (order_goes s (.queue _)) rfl rfl

namespace Knows

/- A replay tells nothing. -/
theorem of_replay
    {p : Payload}
    (hKnows : Knows s dispatches)
    (hReplay : isNews dispatches p = false) :
    Knows s (p :: dispatches) := by
  refine ⟨?_, ?_, hKnows.sound⟩
  · rw [hKnows.sequence]
    unfold isNews at hReplay
    simp only [lastNumber]
    split at hReplay
    · cases hReplay
    · simp [hReplay]
  · rw [hKnows.sessionId, lastStart, hReplay]
    rfl

/- A dispatch that is news may announce a start. -/
theorem of_news
    {number : Option Payload}
    {p : Payload}
    (hKnows : Knows s dispatches)
    (hNews : isNews dispatches p = true)
    (hNumber : lastNumber (p :: dispatches) = number) :
    Knows ({ s with sequence := number }.named (startOf? p))
      (p :: dispatches) := by
  have hStart :
      lastStart (p :: dispatches) =
        (startOf? p).orElse fun _ => lastStart dispatches := by
    simp [lastStart, hNews]
  cases hAnnounced : startOf? p with
  | none =>
      refine ⟨hNumber.symm, ?_, hKnows.sound⟩
      rw [hStart, hAnnounced]
      exact hKnows.sessionId
  | some r =>
      refine ⟨hNumber.symm, ?_, hKnows.sound⟩
      rw [hStart, hAnnounced]
      rfl

end Knows

/- A number is above the last one if it is found to be. -/
theorem isAbove_iff_of_knows
    (number : Payload)
    (hKnows : Knows s dispatches) :
    isAbove number (lastNumber dispatches) = true ↔
      s.isReplayed number = .ok false := by
  unfold isReplayed isAbove
  rw [hKnows.sequence]
  cases lastNumber dispatches with
  | none => simp
  | some last =>
      cases hOrder : number.atMost? last <;> simp [hOrder]

/- A number that cannot be compared is a matter of form. -/
theorem isReplayed_harmless
    (s : Session)
    (number : Payload) :
    Gateway.IsHarmless (s.isReplayed number) := by
  intro cause hError
  unfold isReplayed at hError
  split at hError
  · cases hError
  · split at hError
    · cases hError
    · cases hError
      rfl

/- A dispatch is heard, as news or as a replay. -/
theorem dispatchOnce_follows
    (m : Moment)
    (p : Payload)
    (hKnows : Knows s dispatches) :
    ∃ base, Knows base (p :: dispatches) ∧
      Follows base s (s.dispatchOnce m p) := by
  unfold dispatchOnce
  split
  · rename_i hNull
    have hLast :
        lastNumber (p :: dispatches) = s.sequence := by
      rw [hKnows.sequence]
      simp [lastNumber, hNull]
    exact ⟨_, hKnows.of_news (by simp [isNews, hNull]) hLast,
      dispatch_follows s m p⟩
  · rename_i hNumbered
    have hNews :
        isNews dispatches p = true ↔
          s.isReplayed (p.field "s") = .ok false := by
      rw [← isAbove_iff_of_knows _ hKnows]
      unfold isNews
      split
      · rename_i hNull
        exact (hNumbered hNull).elim
      · rfl
    split
    · rename_i cause hFailed
      refine ⟨s, hKnows.of_replay ?_, .of_failure ?_⟩
      · simpa [hFailed] using hNews
      · intro failure hFailure
        cases hFailure
        exact isReplayed_harmless s _ cause hFailed
    · rename_i hReplayed
      refine ⟨s, hKnows.of_replay ?_, .of_failure (by simp)⟩
      simpa [hReplayed] using hNews
    · rename_i hFresh
      have hAbove :=
        (isAbove_iff_of_knows _ hKnows).mpr hFresh
      have hLast :
          lastNumber (p :: dispatches) =
            some (p.field "s") := by
        simp [lastNumber, hAbove]
      have hFollows :=
        dispatch_follows
          { s with sequence := some (p.field "s") } m p
      rcases hFollows.quiet with ⟨seen, hShows, hQuiet⟩
      refine ⟨_, hKnows.of_news (hNews.mpr hFresh) hLast,
        hFollows.recalls, hFollows.calm, ?_, hFollows.kept⟩
      exact ⟨_, (Shows.of_outbox rfl).trans hShows, hQuiet⟩

------------------------------------------------------------
-- Listening
------------------------------------------------------------

/- A session that follows a frame goes on, rests or hydrates. -/
theorem hear_turns_of_follows
    {base : Session}
    {p : Payload}
    (hKnows : Knows base dispatches)
    (hCalm : s.isCalm = true)
    (hFollows : Follows base s (s.handle m p)) :
    Turns dispatches s (s.hear m p) := by
  have hTaken := hKnows.of_recalls hFollows.recalls
  rcases hFollows.quiet with ⟨seen, hShows, hQuiet⟩
  have hRest
      (t : Session)
      (hRecalls : Recalls (s.handle m p).1 t)
      (hCalms : Calms false (s.handle m p).1 t) :
      Turns dispatches s t := by
    refine ⟨hTaken.of_recalls hRecalls,
      isPoised_of_isCalm hCalms.isCalm, ?_⟩
    simp [(hShows.trans hCalms.shows).identifies, hQuiet]
  unfold hear
  split
  · rename_i t cause hResult
    have hKept :
        ∀ failure, some cause = some failure →
          discardsSession failure = false := by
      intro failure hFailure
      apply hFollows.kept failure
      rw [hResult]
      exact hFailure
    rw [hResult] at hRest hTaken
    exact hRest _ (leave_recalls_kept m _ hTaken.sound hKept)
      (leave_calms_kept m _ hTaken.sound hKept)
  · rename_i t hResult
    rw [hResult] at hRest hTaken hShows
    split
    · refine ⟨hTaken, ?_, ?_⟩
      · apply isPoised_of_isCalm
        have hStill := hFollows.calm hCalm
        rw [hResult] at hStill
        exact hStill
      · simp [hShows.identifies, hQuiet]
    · exact hRest _ (goOn_recalls m hTaken.sound)
        (goOn_calms m hTaken.sound)

/- A session that is told that it is invalid forgets, or not. -/
theorem hear_turns_of_invalid
    {p : Payload}
    (hKnows : Knows s dispatches)
    (hKind : kindOf? p = some .invalidSession) :
    Turns
      (if (p.field "d").isFilled then dispatches else []) s
      (s.hear m p) := by
  have hHandle :
      s.handle m p = s.rejected (p.field "d").isFilled := by
    simp [handle, hKind]
  unfold hear
  rw [hHandle]
  unfold rejected
  cases (p.field "d").isFilled with
  | true =>
      apply leave_turns m hKnows (.of_outbox rfl)
      intro cause hCause
      cases hCause
      rfl
  | false =>
      -- The session is forgotten already when it is left.
      have hForgotten := hKnows.invalidate
      have hCalms :=
        leave_calms m
          (some (.transport "session invalidated by the gateway"
            none false)) hForgotten.sound
      have hRecalls :=
        leave_recalls m
          (some (.transport "session invalidated by the gateway"
            none false)) hForgotten.sound
      apply Turns.of_isCalm _ _ hCalms.isCalm
      · apply hForgotten.of_recalls
        unfold kept at hRecalls
        split at hRecalls
        · exact ⟨hRecalls.sequence, hRecalls.sessionId,
            hRecalls.sound⟩
        · exact hRecalls
      · exact (Shows.of_outbox rfl).trans hCalms.shows

/- A heartbeat that the gateway asks for presents nothing. -/
theorem answerBeat_follows
    (s : Session)
    (hMoment : m.IsHarmless) :
    Follows s s (s.answerBeat m) := by
  unfold answerBeat
  split
  · rename_i t hBeat
    rcases beat_goes hBeat with ⟨hGoes, hPhase⟩
    apply Follows.of_goes hGoes _ hPhase
    simp [presentsAnew, heartbeatFrame, isKind_frameOf]
  · rename_i cause hBeat
    apply Follows.of_failure
    intro failure hFailure
    cases hFailure
    exact beat_harmless s hMoment cause hBeat

/- A frame of another kind tells nothing about the session. -/
theorem handle_follows_of_other
    {p : Payload}
    (hMoment : m.IsHarmless)
    (hDispatch : kindOf? p ≠ some .dispatch)
    (hInvalid : kindOf? p ≠ some .invalidSession) :
    Follows s s (s.handle m p) := by
  unfold handle
  split
  · rename_i hKind
    exact (hDispatch hKind).elim
  · have hAcknowledged : Goes [] s (s.acknowledge m.now) :=
      ⟨.of_outbox rfl, ⟨rfl, rfl, rfl, rfl, rfl, rfl, id⟩⟩
    exact .of_goes hAcknowledged rfl rfl
  · exact answerBeat_follows s hMoment
  · apply Follows.of_failure
    intro cause hCause
    cases hCause
    rfl
  · rename_i hKind
    exact (hInvalid hKind).elim
  · exact .of_failure (by simp)

/- Only a dispatch adds to what was heard. -/
theorem dispatchIn?_of_other
    {p : Payload}
    (hOther : kindOf? p ≠ some .dispatch) :
    s.dispatchIn? (.received m (.frame p)) = none := by
  have hKind : isKind p .dispatch = false := by
    rw [Bool.eq_false_iff]
    intro hKind
    exact hOther
      (kindOf?_of_isKind (by simp [Opcode.heard]) hKind)
  simp [dispatchIn?, hKind]

/- What a frame that is heard makes of the session. -/
theorem hear_turns
    {p : Payload}
    (hMoment : m.IsHarmless)
    (hKnows : Knows s dispatches)
    (hPhase : s.phase = .listening) :
    Turns
      (s.heardBeside dispatches (.received m (.frame p))) s
      (s.hear m p) := by
  have hCalm := isCalm_of_listening hPhase
  unfold heardBeside forgets
  by_cases hInvalid : kindOf? p = some .invalidSession
  · have hTurns :=
      hear_turns_of_invalid (m := m) hKnows hInvalid
    have hNotices :
        s.notices (.received m (.frame p)) =
          !(p.field "d").isFilled := by
      simp [notices, invalidates, overlooks, isReceiving,
        isGreeting, hPhase, isKind_of_kindOf? hInvalid]
    rw [hNotices, dispatchIn?_of_other (by simp [hInvalid])]
    cases hFilled : (p.field "d").isFilled with
    | true => simpa [hFilled] using hTurns
    | false => simpa [hFilled] using hTurns
  · rw [notices_of_other hInvalid]
    by_cases hDispatch : kindOf? p = some .dispatch
    · have hHeard :
          s.dispatchIn? (.received m (.frame p)) = some p := by
        simp [dispatchIn?, hPhase, isKind_of_kindOf? hDispatch]
      rcases dispatchOnce_follows m p hKnows with
        ⟨base, hBase, hFollows⟩
      rw [hHeard]
      apply hear_turns_of_follows hBase hCalm
      simpa [handle, hDispatch] using hFollows
    · rw [dispatchIn?_of_other hDispatch]
      exact hear_turns_of_follows hKnows hCalm
        (handle_follows_of_other hMoment hDispatch hInvalid)

------------------------------------------------------------
-- Receiving
------------------------------------------------------------

/- Receiving fails, and the connection is left. -/
theorem receive_turns_of_failure
    {i : Inbound}
    (hHarmless : (Stimulus.received m i).IsHarmless)
    (hKnows : Knows s dispatches)
    (hReceiving : s.isReceiving = true)
    (hFailure : s.receiveFailure i = some cause) :
    Turns (s.heardBeside dispatches (.received m i)) s
      (s.receive m i) := by
  have hReceive :
      s.receive m i = s.leave m (some cause) := by
    unfold receive
    unfold isReceiving at hReceiving
    cases hPhase : s.phase <;>
      simp [hPhase] at hReceiving <;> simp [hFailure]
  have hCalms := leave_calms m (some cause) hKnows.sound
  have hRecalls := leave_recalls m (some cause) hKnows.sound
  rw [hReceive]
  refine .of_isCalm ?_ hCalms.shows hCalms.isCalm
  cases i with
  | frame p => cases hFailure
  | nothing => cases hFailure
  | closed code =>
      have hCause : s.closeFailure code = cause :=
        Option.some.inj hFailure
      have hForgets :
          s.forgets (.received m (.closed code)) =
            ((some cause).any discardsSession &&
              !s.hasBrokenHeart && !s.closing) := by
        rw [Option.any_some, ← hCause,
          discardsSession_closeFailure]
        cases code <;>
          simp [forgets, notices, invalidates, overlooks,
            hReceiving]
      rw [← hForgets] at hRecalls
      unfold heardBeside
      cases hForgotten :
          s.forgets (.received m (.closed code)) with
      | true =>
          rw [hForgotten] at hRecalls
          exact hKnows.invalidate.of_recalls hRecalls
      | false =>
          rw [hForgotten] at hRecalls
          exact hKnows.of_recalls hRecalls
  | failed failure =>
      have hCause : failure = cause := Option.some.inj hFailure
      have hKept : discardsSession cause = false :=
        hCause ▸ hHarmless
      rw [Option.any_some, hKept] at hRecalls
      exact hKnows.of_recalls hRecalls

/- What is not heard changes nothing of what was heard. -/
theorem heardBeside_of_unheard
    (hForgets : s.forgets x = false)
    (hDispatch : s.dispatchIn? x = none) :
    s.heardBeside dispatches x = dispatches := by
  simp [heardBeside, hForgets, hDispatch]

/- A first frame is no dispatch, and invalidates nothing. -/
theorem receive_turns_of_greeting
    {resuming : Bool}
    {deadline : Rat}
    {i : Inbound}
    (hHarmless : (Stimulus.received m i).IsHarmless)
    (hKnows : Knows s dispatches)
    (hPoised : s.IsPoised)
    (hPhase : s.phase = .greeting resuming deadline) :
    Turns (s.heardBeside dispatches (.received m i)) s
      (s.receive m i) := by
  have hReceiving : s.isReceiving = true := by
    simp [isReceiving, hPhase]
  cases i with
  | frame p =>
      have hReceive :
          s.receive m (.frame p) = s.greet m resuming p := by
        simp [receive, hPhase, receiveFailure]
      rw [hReceive, heardBeside_of_unheard
        (by simp [forgets, notices, overlooks, isGreeting,
          hPhase])
        (by simp [dispatchIn?, hPhase])]
      exact greet_turns p hHarmless hKnows hPoised hPhase
  | nothing =>
      have hReceive :
          s.receive m .nothing = s.greet m resuming .null := by
        simp [receive, hPhase, receiveFailure]
      rw [hReceive, heardBeside_of_unheard rfl rfl]
      unfold greet
      split
      · rename_i cause hRead
        apply leave_turns m hKnows (.of_outbox rfl)
        intro failure hFailure
        cases hFailure
        exact readInterval_harmless .null cause hRead
      · rename_i hRead
        cases hRead
  | closed code =>
      exact receive_turns_of_failure hHarmless hKnows
        hReceiving rfl
  | failed cause =>
      exact receive_turns_of_failure hHarmless hKnows
        hReceiving rfl

/- Something is received. -/
theorem receive_turns
    {i : Inbound}
    (hHarmless : (Stimulus.received m i).IsHarmless)
    (hKnows : Knows s dispatches)
    (hPoised : s.IsPoised) :
    Turns (s.heardBeside dispatches (.received m i)) s
      (s.receive m i) := by
  have hUnheard
      (hReceiving : s.isReceiving = false)
      (hReceive : s.receive m i = s) :
      Turns (s.heardBeside dispatches (.received m i)) s
        (s.receive m i) := by
    have hListening : s.phase ≠ .listening := by
      intro hPhase
      simp [isReceiving, hPhase] at hReceiving
    rw [hReceive, heardBeside_of_unheard
      (by
        rcases i with p | _ | code | cause
        · simp [forgets, notices, invalidates, hReceiving]
        · rfl
        · cases code <;>
            simp [forgets, notices, invalidates, hReceiving]
        · rfl)
      (by cases i <;> simp [dispatchIn?, hListening])]
    exact .refl hKnows hPoised
  cases hPhase : s.phase with
  | greeting resuming deadline =>
      exact receive_turns_of_greeting hHarmless hKnows hPoised
        hPhase
  | listening =>
      have hReceiving : s.isReceiving = true := by
        simp [isReceiving, hPhase]
      cases i with
      | frame p =>
          have hReceive :
              s.receive m (.frame p) = s.hear m p := by
            simp [receive, hPhase, receiveFailure]
          rw [hReceive]
          exact hear_turns hHarmless hKnows hPhase
      | nothing =>
          have hReceive : s.receive m .nothing = s.goOn m := by
            simp [receive, hPhase, receiveFailure]
          rw [hReceive, heardBeside_of_unheard rfl rfl]
          exact goOn_turns m hKnows (.of_outbox rfl)
      | closed code =>
          exact receive_turns_of_failure hHarmless hKnows
            hReceiving rfl
      | failed cause =>
          exact receive_turns_of_failure hHarmless hKnows
            hReceiving rfl
  | _ =>
      apply hUnheard
      · simp [isReceiving, hPhase]
      · simp [receive, hPhase]

------------------------------------------------------------
-- Runs
------------------------------------------------------------

/- Whatever happens, the session turns as it was told. -/
theorem react_turns
    (hHarmless : x.IsHarmless)
    (hKnows : Knows s dispatches)
    (hPoised : s.IsPoised) :
    Turns (s.heardBeside dispatches x) s (s.react x) := by
  cases x with
  | received m i => exact receive_turns hHarmless hKnows hPoised
  | connect => exact connect_turns hKnows
  | close => exact close_turns hKnows hPoised
  | fetched m result =>
      exact fetched_turns m hHarmless hKnows hPoised
  | opened m result =>
      exact opened_turns m hHarmless hKnows hPoised
  | hydrated m result =>
      exact hydrated_turns m hHarmless hKnows hPoised
  | passed m => exact tick_turns m hKnows hPoised
  | lost =>
      have hLost : Goes [] s { s with socketOpen := false } :=
        ⟨.of_outbox rfl, ⟨rfl, rfl, rfl, rfl, rfl, rfl, id⟩⟩
      exact .of_goes hKnows hPoised hLost rfl rfl

/- At every time of a run the session knows what it was told. -/
theorem knows_of_harmless
    (token : String)
    (intents : Int)
    (hydrates : Bool)
    (backoff : Backoff)
    (xs : List Stimulus)
    (hHarmless : ∀ x ∈ xs, x.IsHarmless) :
    let s := Session.new token intents hydrates backoff
    Knows (s.course xs) (s.heard xs) ∧
      (s.course xs).IsPoised := by
  intro s
  induction xs with
  | nil =>
      have hNew : Knows s [] := by
        refine ⟨rfl, rfl, ?_⟩
        intro cause hBroken
        cases hBroken
      have hTurns := connect_turns hNew
      exact ⟨hTurns.knows, hTurns.poised⟩
  | cons x xs hInduction =>
      rw [List.forall_mem_cons] at hHarmless
      rcases hInduction hHarmless.2 with ⟨hKnows, hPoised⟩
      have hTurns := react_turns hHarmless.1 hKnows hPoised
      exact ⟨hTurns.knows, hTurns.poised⟩

/-
  However often a session connects and whatever it receives,
  when it has presented itself anew it keeps no number exactly
  if all dispatches since it was last forgotten came without
  one. Otherwise no start was taken in with them, and the next
  start is taken in exactly if its number is missing or above
  the last.
-/
theorem isFresh_iff_of_identifies
    (token : String)
    (intents : Int)
    (hydrates : Bool)
    (backoff : Backoff)
    (x : Stimulus)
    (xs : List Stimulus)
    (hHarmless : ∀ y ∈ x :: xs, y.IsHarmless)
    (hIdentifies :
      ((Session.new token intents hydrates backoff).course
          xs).identifies
        ((Session.new token intents hydrates backoff).course
          (x :: xs)) = true) :
    let s := Session.new token intents hydrates backoff
    let t := s.course (x :: xs)
    let dispatches := s.heard (x :: xs)
    (t.sequence = none ↔
        ∀ p ∈ dispatches, p.field "s" = .null) ∧
      (t.sequence ≠ none → lastStart dispatches = none) ∧
        ∀ m p r, m.IsHarmless → t.phase = .listening →
          kindOf? p = some .dispatch → startOf? p = some r →
            ((t.receive m (.frame p)).sessionId =
                some r.sessionId ↔
              isNews dispatches p = true) := by
  intro s t dispatches
  have hRun := knows_of_harmless token intents hydrates backoff
    xs (List.forall_mem_cons.mp hHarmless).2
  have hTurns : Turns dispatches (s.course xs) t :=
    react_turns (List.forall_mem_cons.mp hHarmless).1
      hRun.1 hRun.2
  have hKnows := hTurns.knows
  have hLost : t.canResume = false := hTurns.fresh hIdentifies
  have hUnstarted
      (hNumber : t.sequence ≠ none) :
      lastStart dispatches = none := by
    cases hStart : lastStart dispatches with
    | none => rfl
    | some r =>
        have hId := hKnows.sessionId
        rw [hStart] at hId
        cases hSequence : t.sequence with
        | none => exact (hNumber hSequence).elim
        | some number =>
            simp [canResume, hId, hSequence] at hLost
  refine ⟨?_, hUnstarted, ?_⟩
  · rw [hKnows.sequence]
    exact lastNumber_eq_none_iff
  · intro m p r hMoment hPhase hKind hStart
    have hNext :=
      (hear_turns (p := p) hMoment hKnows hPhase).knows
    have hReceive : t.receive m (.frame p) = t.hear m p := by
      simp [receive, hPhase, receiveFailure]
    have hHeard :
        t.heardBeside dispatches (.received m (.frame p)) =
          p :: dispatches := by
      simp [heardBeside, forgets, dispatchIn?, hPhase,
        notices_of_other (s := t) (m := m) (p := p)
          (by simp [hKind]),
        isKind_of_kindOf? hKind]
    rw [hHeard] at hNext
    rw [hReceive, hNext.sessionId]
    cases hNews : isNews dispatches p with
    | true => simp [lastStart, hNews, hStart]
    | false =>
        have hNumber : t.sequence ≠ none := by
          intro hNone
          rw [hKnows.sequence] at hNone
          rw [isNews_of_unnumbered p hNone] at hNews
          cases hNews
        simp [lastStart, hNews, hUnstarted hNumber]

/- A dispatch that announces a start, but without its id. -/
def namelessReadyFrame : Payload :=
  .map
    [
      ("op", .int Opcode.dispatch.number),
      ("s", .int 1),
      ("t", .text "READY"),
      ("d", .map [("resume_gateway_url", .text "wss://resume")])
    ]

/-
  The first start cannot be read, though its number counts. The
  connection is closed and the next one is greeted.
-/
def namelessStart : List Stimulus :=
  [
    .received (momentAt 100) (.frame helloFrame),
    .opened (momentAt 100) (.ok ()),
    .passed (momentAt 100),
    .received (momentAt 2) (.closed (some 4000)),
    .received (momentAt 0) (.frame namelessReadyFrame),
    .received (momentAt 0) (.frame helloFrame),
    .opened (momentAt 0) (.ok ()),
    .fetched (momentAt 0) (.ok "wss://gateway")
  ]

/-
  The session presents itself anew and keeps the number of the
  start that it could not read, so that a start with the same
  number is not taken in.
-/
theorem namelessStart_replays :
    (∀ y ∈ namelessStart, y.IsHarmless) ∧
      (untouched.course namelessStart.tail).identifies
          (untouched.course namelessStart) = true ∧
        (untouched.course namelessStart).sequence ≠ none ∧
          ((untouched.course namelessStart).receive
            (momentAt 100) (.frame readyFrame)).sessionId ≠
              some "s" := by
  have hMoment (now : Rat) : (momentAt now).IsHarmless := by
    intro cause hFailure
    cases hFailure
  have hHarmless : ∀ y ∈ namelessStart, y.IsHarmless := by
    simp only [namelessStart, List.forall_mem_cons,
      List.not_mem_nil, false_implies, implies_true, and_true]
    exact ⟨hMoment 100, harmless_ok _, trivial, trivial,
      hMoment 0, hMoment 0, harmless_ok _, harmless_ok _⟩
  have hIdentifies :
      (untouched.course namelessStart.tail).identifies
        (untouched.course namelessStart) = true := by
    decide +kernel
  have hFresh :=
    isFresh_iff_of_identifies "token" 513 false
      (Backoff.ofBounds 1 60 120 0) _ _ hHarmless hIdentifies
  have hReplay :
      isNews (untouched.heard namelessStart) readyFrame =
        false := by
    decide +kernel
  refine ⟨hHarmless, hIdentifies, ?_, ?_⟩
  · intro hNone
    have hUnnumbered := hFresh.1.mp hNone
    rw [← lastNumber_eq_none_iff] at hUnnumbered
    have hNews := isNews_of_unnumbered readyFrame hUnnumbered
    exact absurd (hNews.symm.trans hReplay) (by simp)
  · intro hTaken
    have hStart :
        startOf? readyFrame =
          some ⟨"s", .text "wss://resume", 0, []⟩ := by
      with_unfolding_all rfl
    have hNews :=
      (hFresh.2.2 (momentAt 100) readyFrame _ (hMoment 100)
        (by decide +kernel) (by decide +kernel) hStart).mp
          hTaken
    exact absurd (hNews.symm.trans hReplay) (by simp)

end GuildWarden.Gateway.Session
