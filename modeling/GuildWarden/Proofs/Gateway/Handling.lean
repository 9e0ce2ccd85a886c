import GuildWarden.Proofs.Gateway.Verdict

/-
  This file says what can come of a frame that a session
  handles, and of a heartbeat that is due. What a frame leaves
  unchanged follows from its cases.

  Key definitions include:
    * `Gateway.Session.taken?`
    * `Gateway.Session.Handling`
    * `Gateway.Session.Pulses`

  Main statements:
    * `Gateway.Session.handling_handle`
    * `Gateway.Session.Handling.keeps`
    * `Gateway.Session.Handling.started_of_hydrating`
    * `Gateway.Session.pulses_pulse`
-/

namespace GuildWarden.Gateway.Session

variable {s t : Session}
variable {m : Moment}
variable {cause : Cause}
variable {p : Payload}

------------------------------------------------------------
-- Handling a Frame
------------------------------------------------------------

/- Whether a dispatch has no number, or one above the last. -/
def admits
    (s : Session)
    (p : Payload) : Bool :=
  match p.field "s" with
  | .null => true
  | number =>
    match s.isReplayed number with
    | .ok isOld => !isOld
    | .error _ => false

/- A session that has counted a dispatch. -/
def counted
    (s : Session)
    (p : Payload) : Session :=
  match p.field "s" with
  | .null => s
  | number => { s with sequence := some number }

/- The event of a dispatch that is accepted. -/
def taken?
    (s : Session)
    (p : Payload) : Option Event :=
  if isKind p .dispatch && s.admits p then
    match Event.decode (p.field "t") (p.field "d") with
    | .ok e => e
    | .error _ => none
  else none

/- A session that has started. -/
def begun
    (s : Session)
    (r : Event.Ready)
    (resumeUrl : Option String) : Session :=
  ({ s with
    sessionId := some r.sessionId
    resumeUrl }.setStatus .identified).order (.queue (.ready r))

/- What can come of a frame. -/
inductive Handling
    (s : Session)
    (m : Moment)
    (p : Payload) : Handled → Prop where
  | ignored
      (hTaken : s.taken? p = none) :
      Handling s m p (s, none)
  | acknowledged
      (hTaken : s.taken? p = none) :
      Handling s m p (s.acknowledge m.now, none)
  | answered {t : Session}
      (hTaken : s.taken? p = none)
      (hBeat : s.beat m = .ok t) :
      Handling s m p (t, none)
  | unanswered {cause : Cause}
      (hTaken : s.taken? p = none)
      (hBeat : s.beat m = .error cause) :
      Handling s m p (s, some cause)
  | dismissed {detail : String} {resumable : Bool}
      (hTaken : s.taken? p = none) :
      Handling s m p
        (s.kept (!resumable),
          some (.transport detail none resumable))
  | incomparable {cause : Cause}
      (hTaken : s.taken? p = none)
      (hKind : isKind p .dispatch = true)
      (hGiven : p.field "s" ≠ .null)
      (hNumber : s.isReplayed (p.field "s") = .error cause) :
      Handling s m p (s, some cause)
  | unread {cause : Cause}
      (hTaken : s.taken? p = none)
      (hKind : isKind p .dispatch = true)
      (hAdmits : s.admits p = true)
      (hRead :
        Event.decode (p.field "t") (p.field "d") =
          .error cause) :
      Handling s m p (s.counted p, some cause)
  | counted
      (hTaken : s.taken? p = none) :
      Handling s m p (s.counted p, none)
  | unusable {r : Event.Ready} {cause : Cause}
      (hTaken : s.taken? p = some (.ready r))
      (hUrl :
        resumeAddress (s.counted p).resumeUrl r.resumeUrl =
          .error cause) :
      Handling s m p
        ({ s.counted p with sessionId := some r.sessionId },
          some cause)
  | started {r : Event.Ready} {url : Option String}
      (hTaken : s.taken? p = some (.ready r))
      (hUrl :
        resumeAddress (s.counted p).resumeUrl r.resumeUrl =
          .ok url)
      (hHydrates : s.hydrates = true) :
      Handling s m p
        ({ (s.counted p).begun r url with
          phase := .hydrating }.order (.hydrate r), none)
  | startedBare {r : Event.Ready} {url : Option String}
      (hTaken : s.taken? p = some (.ready r))
      (hUrl :
        resumeAddress (s.counted p).resumeUrl r.resumeUrl =
          .ok url)
      (hHydrates : s.hydrates = false) :
      Handling s m p
        (((s.counted p).begun r url).markActive m.now, none)
  | resumed
      (hTaken : s.taken? p = some .resumed) :
      Handling s m p
        ((((s.counted p).setStatus .identified).order
          (.queue .resumed)).markActive m.now, none)
  | queued {e : Event}
      (hTaken : s.taken? p = some e)
      (hReady : ∀ r, e ≠ .ready r)
      (hResumed : e ≠ .resumed) :
      Handling s m p
        ((s.counted p).order (.queue e), none)

/- Only a dispatch that is admitted and can be read is taken in. -/
theorem taken?_eq_none_of_other
    (hOther : kindOf? p ≠ some .dispatch) :
    s.taken? p = none := by
  have hKind : isKind p .dispatch = false := by
    cases hDispatch : isKind p .dispatch with
    | false => rfl
    | true =>
        exact
          (hOther
            (kindOf?_of_isKind (by simp [Opcode.heard])
              hDispatch)).elim
  simp [taken?, hKind]

@[simp] theorem counted_hydrates
    (s : Session)
    (p : Payload) :
    (s.counted p).hydrates = s.hydrates := by
  unfold counted
  split <;> rfl

/- A start is taken over, unless its address cannot be used. -/
theorem handling_start
    {r : Event.Ready}
    (m : Moment)
    (hTaken : s.taken? p = some (.ready r)) :
    Handling s m p ((s.counted p).start m r) := by
  unfold start
  simp only
  split
  · rename_i cause hUrl
    exact .unusable hTaken hUrl
  · rename_i url hUrl
    have hHydrates :
        (({ s.counted p with
            sessionId := some r.sessionId
            resumeUrl := url }.setStatus .identified).order
          (.queue (.ready r))).hydrates = s.hydrates := by
      rw [setStatus_eq]
      exact counted_hydrates s p
    split
    · rename_i hHook
      rw [hHydrates] at hHook
      exact .started hTaken hUrl hHook
    · rename_i hBare
      rw [hHydrates, Bool.not_eq_true] at hBare
      exact .startedBare hTaken hUrl hBare

/- A dispatch is read, and its event is taken in. -/
theorem handling_dispatch
    (m : Moment)
    (hKind : isKind p .dispatch = true)
    (hAdmits : s.admits p = true) :
    Handling s m p ((s.counted p).dispatch m p) := by
  have hTaken {e : Event}
      (hRead :
        Event.decode (p.field "t") (p.field "d") =
          .ok (some e)) :
      s.taken? p = some e := by
    simp [taken?, hKind, hAdmits, hRead]
  unfold Session.dispatch
  split
  · rename_i cause hRead
    exact .unread (by simp [taken?, hRead]) hKind hAdmits hRead
  · rename_i hRead
    exact .counted (by simp [taken?, hRead])
  · rename_i e hRead
    cases e with
    | ready r => exact handling_start m (hTaken hRead)
    | resumed => exact .resumed (hTaken hRead)
    | _ =>
        exact .queued (hTaken hRead) (by simp) (by simp)

/- A dispatch that is admitted is counted and taken in. -/
theorem dispatchOnce_of_admits
    (m : Moment)
    (hAdmits : s.admits p = true) :
    s.dispatchOnce m p = (s.counted p).dispatch m p := by
  unfold admits at hAdmits
  unfold dispatchOnce Session.counted
  split at hAdmits
  · rename_i hNull
    simp only [hNull]
  · rename_i hGiven
    split at hAdmits
    · rename_i isOld hNumber
      have hNew : isOld = false := by simpa using hAdmits
      subst hNew
      simp only [hNumber]
    · cases hAdmits

/- An event that is taken in was admitted and read. -/
theorem handle_of_taken
    {e : Event}
    (m : Moment)
    (hTaken : s.taken? p = some e) :
    s.handle m p = (s.counted p).takeIn m e := by
  unfold taken? at hTaken
  split at hTaken
  · rename_i hDue
    rw [Bool.and_eq_true] at hDue
    have hKind :=
      kindOf?_of_isKind (by simp [Opcode.heard]) hDue.1
    split at hTaken
    · rename_i hRead
      subst hTaken
      simp [handle, hKind, dispatchOnce_of_admits m hDue.2,
        Session.dispatch, hRead]
    · cases hTaken
  · cases hTaken

/- A dispatch is taken in unless it was seen before. -/
theorem handling_dispatchOnce
    (m : Moment)
    (hKind : isKind p .dispatch = true) :
    Handling s m p (s.dispatchOnce m p) := by
  by_cases hAdmits : s.admits p = true
  · rw [dispatchOnce_of_admits m hAdmits]
    exact handling_dispatch m hKind hAdmits
  · have hTaken : s.taken? p = none := by
      simp [taken?, hAdmits]
    unfold admits at hAdmits
    unfold dispatchOnce
    split
    · rename_i hNull
      simp [hNull] at hAdmits
    · rename_i hGiven
      split
      · rename_i cause hNumber
        exact .incomparable hTaken hKind hGiven hNumber
      · exact .ignored hTaken
      · rename_i hNumber
        simp [hNumber] at hAdmits

/- What comes of a frame is one of these. -/
theorem handling_handle
    (s : Session)
    (m : Moment)
    (p : Payload) :
    Handling s m p (s.handle m p) := by
  have hTaken {op : Opcode}
      (hKind : kindOf? p = some op)
      (hOther : op ≠ .dispatch) :
      s.taken? p = none := by
    apply taken?_eq_none_of_other
    rw [hKind]
    exact fun hSame => hOther (Option.some.inj hSame)
  unfold handle
  split
  · rename_i hKind
    exact handling_dispatchOnce m (isKind_of_kindOf? hKind)
  · rename_i hKind
    exact .acknowledged (hTaken hKind (by simp))
  · rename_i hKind
    unfold answerBeat
    split
    · rename_i t hBeat
      exact .answered (hTaken hKind (by simp)) hBeat
    · rename_i cause hBeat
      exact .unanswered (hTaken hKind (by simp)) hBeat
  · rename_i hKind
    have hReconnect :
        Handling s m p
          (s.kept (!true),
            some (.transport "server requested reconnect" none
              true)) :=
      .dismissed (hTaken hKind (by simp))
    exact hReconnect
  · rename_i hKind
    have hRejected :
        s.rejected (p.field "d").isFilled =
          (s.kept (!(p.field "d").isFilled),
            some (.transport "session invalidated by the gateway"
              none (p.field "d").isFilled)) := by
      cases hFilled : (p.field "d").isFilled <;>
        simp [rejected, kept]
    rw [hRejected]
    exact .dismissed (hTaken hKind (by simp))
  · rename_i hKind _ _ _ _
    exact .ignored (taken?_eq_none_of_other hKind)

------------------------------------------------------------
-- What a Frame Leaves
------------------------------------------------------------

theorem counted_keeps
    (s : Session)
    (p : Payload) :
    Keeps s (s.counted p) := by
  unfold counted
  split <;> exact ⟨rfl, rfl, rfl, rfl⟩

theorem begun_keeps
    (s : Session)
    (r : Event.Ready)
    (url : Option String) :
    Keeps s (s.begun r url) := by
  unfold begun
  rw [setStatus_eq]
  exact ⟨rfl, rfl, rfl, rfl⟩

theorem beat_keeps
    (hBeat : s.beat m = .ok t) :
    Keeps s t := by
  rw [eq_order_of_beat hBeat]
  exact ⟨rfl, rfl, rfl, rfl⟩

/- A frame that is handled keeps socket and heartbeat. -/
theorem Handling.keeps
    {r : Handled}
    (hHandling : Handling s m p r) :
    Keeps s r.1 := by
  have hCounted := counted_keeps s p
  cases hHandling with
  | ignored => exact .refl s
  | acknowledged => exact ⟨rfl, rfl, rfl, rfl⟩
  | answered _ hBeat => exact beat_keeps hBeat
  | unanswered => exact .refl s
  | dismissed => exact kept_keeps s _
  | incomparable => exact .refl s
  | unread => exact hCounted
  | counted => exact hCounted
  | unusable =>
      exact hCounted.trans ⟨rfl, rfl, rfl, rfl⟩
  | started =>
      exact (hCounted.trans (begun_keeps _ _ _)).trans
        ⟨rfl, rfl, rfl, rfl⟩
  | startedBare =>
      exact (hCounted.trans (begun_keeps _ _ _)).trans
        (markActive_keeps _ m.now)
  | resumed =>
      have hStatus :=
        hCounted.trans (setStatus_keeps _ .identified)
      exact (hStatus.trans (order_keeps _ _)).trans
        (markActive_keeps _ m.now)
  | queued => exact hCounted.trans (order_keeps _ _)

/- Counting a dispatch is not seen from outside. -/
theorem counted_fields
    (s : Session)
    (p : Payload) :
    (s.counted p).status = s.status ∧
      (s.counted p).phase = s.phase ∧
        (s.counted p).outbox = s.outbox := by
  unfold counted
  split <;> exact ⟨rfl, rfl, rfl⟩

/- A frame that is handled makes a session hydrate at most. -/
theorem Handling.phase
    {r : Handled}
    (hHandling : Handling s m p r) :
    r.1.phase = s.phase ∨ r.1.phase = .hydrating := by
  have hCounted := (counted_fields s p).2.1
  cases hHandling with
  | answered _ hBeat =>
      rw [eq_order_of_beat hBeat]
      exact Or.inl rfl
  | dismissed =>
      unfold kept
      split <;> exact Or.inl rfl
  | unread => exact Or.inl hCounted
  | counted => exact Or.inl hCounted
  | unusable => exact Or.inl hCounted
  | started => exact Or.inr rfl
  | startedBare =>
      left
      simp [begun, setStatus_eq, order, markActive_eq, hCounted]
  | resumed =>
      left
      simp [setStatus_eq, order, markActive_eq, hCounted]
  | queued => exact Or.inl hCounted
  | _ => exact Or.inl rfl

/- Only a start that is taken in makes a session hydrate. -/
theorem Handling.started_of_hydrating
    {r : Handled}
    (hHandling : Handling s m p r)
    (hPhase : s.phase ≠ .hydrating)
    (hHydrating : r.1.phase = .hydrating) :
    ∃ start url,
      s.taken? p = some (.ready start) ∧
        resumeAddress (s.counted p).resumeUrl start.resumeUrl =
          .ok url ∧
            s.hydrates = true ∧
              r.1.sessionId = some start.sessionId := by
  have hOther
      (hSame : r.1.phase = s.phase) :
      False :=
    hPhase (hSame.symm.trans hHydrating)
  have hCounted := (counted_fields s p).2.1
  cases hHandling with
  | answered _ hBeat =>
      rw [eq_order_of_beat hBeat] at hOther
      exact (hOther rfl).elim
  | dismissed =>
      unfold kept at hOther
      split at hOther <;> exact (hOther rfl).elim
  | unread => exact (hOther hCounted).elim
  | counted => exact (hOther hCounted).elim
  | unusable => exact (hOther hCounted).elim
  | started hTaken hUrl hHydrates =>
      refine ⟨_, _, hTaken, hUrl, hHydrates, ?_⟩
      simp [begun, setStatus_eq, order]
  | startedBare =>
      refine (hOther ?_).elim
      simp [begun, setStatus_eq, order, markActive_eq, hCounted]
  | resumed =>
      refine (hOther ?_).elim
      simp [setStatus_eq, order, markActive_eq, hCounted]
  | queued => exact (hOther hCounted).elim
  | _ => exact (hOther rfl).elim

------------------------------------------------------------
-- The Heartbeat
------------------------------------------------------------

/- The failure to send a frame. -/
theorem failure_of_send
    {frame : Payload}
    (hSent : s.send m frame = .error cause) :
    cause = notOpen ∨ m.sendFailure = some cause := by
  unfold send at hSent
  split at hSent
  · exact Or.inl (Except.error.inj hSent).symm
  · split at hSent
    · rename_i failure hFailure
      rw [hFailure, Except.error.inj hSent]
      exact Or.inr rfl
    · cases hSent

theorem failure_of_beat
    (hBeat : s.beat m = .error cause) :
    cause = notOpen ∨ m.sendFailure = some cause := by
  unfold beat at hBeat
  cases hSent : s.send m s.heartbeatFrame with
  | error failure =>
      have hSame : failure = cause := by
        simpa [hSent, bind, Except.bind] using hBeat
      exact hSame ▸ failure_of_send hSent
  | ok u =>
      simp [hSent, bind, Except.bind, pure, Except.pure] at hBeat

/-
  What can come of a heartbeat that is due: it is sent, it
  fails, or the connection counts as dead.
-/
inductive Pulses
    (s : Session)
    (m : Moment) : Session → Prop where
  | sent {missed : Nat} {due : Option Rat} :
      Pulses s m
        { s with
          missed
          awaitingAck := true
          heartbeat := .due due
          outbox := s.outbox ++ [.send s.heartbeatFrame] }
  | unsent {missed : Nat} {cause : Cause}
      (hFailure :
        cause = notOpen ∨ m.sendFailure = some cause) :
      Pulses s m
        { s with
          missed
          heartbeat :=
            if isExpected cause then .over else .broken cause }
  | died {missed : Nat} :
      Pulses s m
        { s with
          missed
          isDead := true
          heartbeat := .over
          socketOpen := false
          outbox := s.outbox ++ s.shutting resumeCode }

theorem pulses_pulse
    (s : Session)
    (m : Moment) :
    Pulses s m (s.pulse m) := by
  have hDueBeat (missed : Nat) :
      Pulses s m ({ s with missed }.sendDueBeat m) := by
    unfold sendDueBeat
    split
    · rename_i t hBeat
      rw [eq_order_of_beat hBeat]
      exact .sent
    · rename_i cause hBeat
      exact .unsent (failure_of_beat hBeat)
  unfold pulse
  split
  · exact hDueBeat s.missed
  · simp only
    split
    · rw [closeSocket_eq]
      exact .died
    · exact hDueBeat (s.missed + 1)

theorem Pulses.closing
    (hPulses : Pulses s m t) :
    t.closing = s.closing := by
  cases hPulses <;> rfl

/- A heartbeat breaks only when it cannot be sent. -/
theorem Pulses.broken
    (hPulses : Pulses s m t)
    (hBroken : t.heartbeat = .broken cause) :
    m.sendFailure = some cause ∧ isExpected cause = false := by
  cases hPulses with
  | sent => cases hBroken
  | unsent hFailure =>
      rename_i failure
      cases hExpected : isExpected failure with
      | true => simp [hExpected] at hBroken
      | false =>
          have hSame : failure = cause := by
            simpa [hExpected] using hBroken
          subst hSame
          rcases hFailure with rfl | hFailure
          · cases hExpected
          · exact ⟨hFailure, hExpected⟩
  | died => cases hBroken

end GuildWarden.Gateway.Session
