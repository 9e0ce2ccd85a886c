import GuildWarden.Proofs.Gateway.Passage

/-
  This file shows what it takes for a session that hydrates to
  become active. Where the gateway announces a resumption only
  to who asked for one, the session is then the one of the last
  start, and what had to be done for that start is done; the
  only exception is a resumption after it had failed, because
  a session is remembered before it is hydrated.

  Key definitions include:
    * `Gateway.Session.hasResumed`
    * `Gateway.Session.IsHonest`
    * `Gateway.Session.Tends`

  Main statements:
    * `Gateway.Session.tends_of_reaction`
    * `Gateway.Session.tends_course`
    * `Gateway.Session.done_iff_of_active`
-/

namespace GuildWarden.Gateway.Session

variable {s t u : Session}
variable {m : Moment}
variable {cause : Cause}
variable {failure : Option Cause}
variable {x : Stimulus}
variable {p : Payload}
variable {last : Option Hydration}

------------------------------------------------------------
-- Resuming
------------------------------------------------------------

/- What an order tells about having asked for a resumption. -/
def asks
    (before : Bool) : Order → Bool
  | .openSocket _ => false
  | .send frame => before || isKind frame .resume
  | _ => before

/-
  Whether the session asked for a resumption since the last
  socket was opened.
-/
def hasResumed
    (orders : List Order) : Bool :=
  orders.foldl asks false

@[simp] theorem hasResumed_append
    (before after : List Order) :
    hasResumed (before ++ after) =
      after.foldl asks (hasResumed before) :=
  List.foldl_append

@[simp] theorem asks_entering
    (s : Session)
    (status : Status)
    (before : Bool) :
    (s.entering status).foldl asks before = before := by
  unfold entering
  split <;> rfl

@[simp] theorem asks_shutting
    (s : Session)
    (code : Int)
    (before : Bool) :
    (s.shutting code).foldl asks before = before := by
  unfold shutting
  split <;> rfl

@[simp] theorem asks_heartbeat
    (s : Session)
    (before : Bool) :
    asks before (.send s.heartbeatFrame) = before := by
  simp [asks, heartbeatFrame, isKind_frameOf]

/- The gateway announces a resumption only where it was asked for. -/
def IsHonest
    (s : Session) : List Stimulus → Prop
  | [] => True
  | x :: xs =>
    s.IsHonest xs ∧
      ((s.course xs).accepts? x = some .resumed →
        hasResumed (s.course xs).outbox = true)

------------------------------------------------------------
-- Sessions and Their Starts
------------------------------------------------------------

/- A session that is remembered is the one of the last start. -/
def Names
    (last : Option Hydration)
    (s : Session) : Prop :=
  ∀ id, s.sessionId = some id →
    ∃ h, last = some h ∧ h.ready.sessionId = id

/- No start is pending. -/
def IsSettled
    (last : Option Hydration) : Prop :=
  ∀ h, last = some h → h.progress ≠ .pending

/-
  A session goes with its last start: it is pending exactly
  while the session hydrates, and an attempt to resume, or a
  resumption that was asked for, has a session to resume.
-/
structure Tends
    (last : Option Hydration)
    (s : Session) : Prop where
  names : Names last s
  settled : s.phase ≠ .hydrating → IsSettled last
  hydrating :
    s.phase = .hydrating →
      ∃ r, last = some ⟨r, .pending⟩ ∧
        s.sessionId = some r.sessionId
  resuming :
    s.isResuming? = some true → s.sessionId.isSome = true
  unasked :
    s.isOpening = true ∨ s.isGreeting = true →
      hasResumed s.outbox = false
  asked :
    s.phase = .listening → hasResumed s.outbox = true →
      s.sessionId.isSome = true
  hydrates : s.hydrates = true

namespace Tends

/- A session that changes in other respects only goes on so. -/
theorem of_same
    (hTends : Tends last s)
    (hPhase : t.phase = s.phase)
    (hSession : t.sessionId = s.sessionId)
    (hAsked : hasResumed t.outbox = hasResumed s.outbox)
    (hHydrates : t.hydrates = s.hydrates) :
    Tends last t := by
  refine ⟨?_, ?_, ?_, ?_, ?_, ?_, ?_⟩
  · unfold Names
    rw [hSession]
    exact hTends.names
  · rw [hPhase]
    exact hTends.settled
  · rw [hPhase, hSession]
    exact hTends.hydrating
  · unfold isResuming?
    rw [hPhase, hSession]
    exact hTends.resuming
  · unfold isOpening isGreeting
    rw [hPhase, hAsked]
    exact hTends.unasked
  · rw [hPhase, hAsked, hSession]
    exact hTends.asked
  · rw [hHydrates]
    exact hTends.hydrates

/- A session that has left has nothing under way. -/
theorem of_left
    (hNames : Names last t)
    (hSettled : IsSettled last)
    (hHydrates : t.hydrates = true)
    (hLeft :
      (∃ failure, t.phase = .ended failure) ∨
        ∃ until_, t.phase = .waiting until_) :
    Tends last t := by
  rcases hLeft with ⟨failure, hPhase⟩ | ⟨until_, hPhase⟩
  · exact ⟨hNames, fun _ => hSettled, by simp [hPhase],
      by simp [isResuming?, hPhase],
      by simp [isOpening, isGreeting, hPhase],
      by simp [hPhase], hHydrates⟩
  · exact ⟨hNames, fun _ => hSettled, by simp [hPhase],
      by simp [isResuming?, hPhase],
      by simp [isOpening, isGreeting, hPhase],
      by simp [hPhase], hHydrates⟩

end Tends

/- A session that keeps its id, or forgets it, names as before. -/
theorem Names.of_sessionId
    (hNames : Names last s)
    (hSession :
      t.sessionId = s.sessionId ∨ t.sessionId = none) :
    Names last t := by
  intro id hId
  rcases hSession with hSame | hNone
  · exact hNames id (hSame.symm.trans hId)
  · cases hNone.symm.trans hId

theorem kept_sessionId
    (s : Session)
    (isForgotten : Bool) :
    (s.kept isForgotten).sessionId = s.sessionId ∨
      (s.kept isForgotten).sessionId = none := by
  unfold kept
  split
  · exact Or.inr rfl
  · exact Or.inl rfl

theorem finish_tends
    (failure : Option Cause)
    (hNames : Names last s)
    (hSettled : IsSettled last)
    (hHydrates : s.hydrates = true) :
    Tends last (s.finish failure) := by
  rw [finish_eq]
  exact .of_left hNames hSettled hHydrates (Or.inl ⟨_, rfl⟩)

/- The verdict on a connection settles the session. -/
theorem obey_tends
    (m : Moment)
    (verdict : Verdict)
    (hNames : Names last s)
    (hSettled : IsSettled last)
    (hHydrates : s.hydrates = true) :
    Tends last (s.obey m verdict) := by
  have hStill : (s.obey m verdict).hydrates = true :=
    (obey_fields s m verdict).2.1.trans hHydrates
  cases verdict with
  | ends failure =>
      exact finish_tends failure hNames hSettled hHydrates
  | retries isForgotten =>
      rcases wait_eq (s.kept isForgotten) m with
        ⟨backoff, until_, hWait⟩
      simp only [obey, hWait] at hStill ⊢
      refine .of_left ?_ hSettled hStill (Or.inr ⟨_, rfl⟩)
      exact hNames.of_sessionId (kept_sessionId s isForgotten)

theorem quieted_sessionId
    (s : Session) :
    s.quieted.sessionId = s.sessionId := by
  unfold quieted
  split
  · rfl
  · rw [closeSocket_eq]

theorem leave_tends
    (m : Moment)
    (failure : Option Cause)
    (hNames : Names last s)
    (hSettled : IsSettled last)
    (hHydrates : s.hydrates = true) :
    Tends last (s.leave m failure) := by
  rw [leave_eq]
  apply obey_tends m _ _ hSettled
  · rw [(quieted_fields s).2.1]
    exact hHydrates
  · exact hNames.of_sessionId (Or.inl (quieted_sessionId s))

/- An attempt resumes only a session that there is. -/
theorem attempt_tends
    (hNames : Names last s)
    (hSettled : IsSettled last)
    (hHydrates : s.hydrates = true) :
    Tends last s.attempt := by
  have hSession : s.readied.sessionId = s.sessionId := by
    unfold readied
    rw [setStatus_eq]
    split <;> rfl
  have hStill := (attempt_keeps s).hydrates.trans hHydrates
  have hResuming
      (hResumes : s.canResume = true) :
      s.sessionId.isSome = true := by
    unfold canResume at hResumes
    rw [Bool.and_eq_true] at hResumes
    exact hResumes.1
  have hSame : s.attempt.sessionId = s.sessionId := by
    rcases attempt_cases s with ⟨url, hOpens⟩ | hFetches
    · rw [hOpens]
      exact hSession
    · rw [hFetches]
      exact hSession
  have hNamesStill := hNames.of_sessionId (Or.inl hSame)
  rcases attempt_cases s with ⟨url, hOpens⟩ | hFetches
  · have hPhase : s.attempt.phase = .opening s.canResume := by
      rw [hOpens]
      rfl
    refine ⟨hNamesStill, fun _ => hSettled, by simp [hPhase],
      ?_, ?_, by simp [hPhase], hStill⟩
    · simpa [isResuming?, hPhase, hSame] using hResuming
    · intro _
      rw [hOpens]
      simp [openAt, order, asks]
  · have hPhase : s.attempt.phase = .fetching s.canResume := by
      rw [hFetches]
      rfl
    refine ⟨hNamesStill, fun _ => hSettled, by simp [hPhase],
      ?_, by simp [isOpening, isGreeting, hPhase],
      by simp [hPhase], hStill⟩
    simpa [isResuming?, hPhase, hSame] using hResuming

------------------------------------------------------------
-- Frames
------------------------------------------------------------

/- What a frame that is heard makes of the last start. -/
theorem settle_of_ready
    {r : Event.Ready}
    (m : Moment)
    (last : Option Hydration)
    (hPhase : s.phase = .listening)
    (hTaken : s.taken? p = some (.ready r)) :
    s.settle last (.received m (.frame p)) =
      some (s.hydrationOf r) := by
  simp [settle, accepts?, hPhase, hTaken]

theorem settle_of_other
    (m : Moment)
    (last : Option Hydration)
    (hTaken : ∀ r, s.taken? p ≠ some (.ready r)) :
    s.settle last (.received m (.frame p)) = last := by
  have hAccepts :
      ∀ r, s.accepts? (.received m (.frame p)) ≠
        some (.ready r) := by
    intro r
    simp [accepts?, hTaken r]
  cases hEvent : s.accepts? (.received m (.frame p)) with
  | none => simp [settle, hEvent]
  | some e =>
      cases e with
      | ready r => exact (hAccepts r hEvent).elim
      | _ => simp [settle, hEvent]

theorem counted_sessionId
    (s : Session)
    (p : Payload) :
    (s.counted p).sessionId = s.sessionId := by
  unfold counted
  split <;> rfl

/- A frame after which the session goes on, or hydrates. -/
theorem Handling.tends
    (hHandling : Handling s m p (t, none))
    (hPhase : s.phase = .listening)
    (hTends : Tends last s) :
    Tends (s.settle last (.received m (.frame p))) t := by
  rcases counted_fields s p with ⟨_, hListening, hOutbox⟩
  have hSession := counted_sessionId s p
  have hHydrates := hHandling.keeps.hydrates
  have hStays {u : Session}
      (hTaken : ∀ r, s.taken? p ≠ some (.ready r))
      (hThere : u.phase = s.phase)
      (hSame : u.sessionId = s.sessionId)
      (hAsked : hasResumed u.outbox = hasResumed s.outbox)
      (hStill : u.hydrates = s.hydrates) :
      Tends (s.settle last (.received m (.frame p))) u := by
    rw [settle_of_other m last hTaken]
    exact hTends.of_same hThere hSame hAsked hStill
  cases hHandling with
  | ignored hTaken =>
      exact hStays (by simp [hTaken]) rfl rfl rfl rfl
  | acknowledged hTaken =>
      exact hStays (by simp [hTaken]) rfl rfl rfl rfl
  | answered hTaken hBeat =>
      rw [eq_order_of_beat hBeat]
      exact hStays (by simp [hTaken]) rfl rfl
        (by simp [order]) rfl
  | counted hTaken =>
      exact hStays (by simp [hTaken]) hListening hSession
        (by rw [hOutbox]) hHydrates
  | started hTaken hUrl hHook =>
      rename_i r url
      rw [settle_of_ready m last hPhase hTaken]
      have hPending :
          s.hydrationOf r = ⟨r, .pending⟩ := by
        simp [hydrationOf, hasReadableAddress_of_ok hUrl, hHook]
      have hNamed :
          ({ (s.counted p).begun r url with
            phase := .hydrating }.order
              (.hydrate r)).sessionId = some r.sessionId := by
        simp [begun, setStatus_eq, order]
      rw [hPending]
      refine ⟨?_, fun hOther => (hOther rfl).elim, ?_,
        by simp [isResuming?, order],
        by simp [isOpening, isGreeting, order],
        by simp [order], hHydrates.trans hTends.hydrates⟩
      · intro id hId
        exact ⟨_, rfl, Option.some.inj (hNamed.symm.trans hId)⟩
      · exact fun _ => ⟨r, rfl, hNamed⟩
  | startedBare _ _ hBare =>
      cases hBare.symm.trans hTends.hydrates
  | resumed hTaken =>
      refine hStays (by simp [hTaken]) ?_ ?_ ?_ hHydrates
      · simp [setStatus_eq, order, markActive_eq, hListening]
      · simp [setStatus_eq, order, markActive_eq, hSession]
      · simp [setStatus_eq, order, markActive_eq, hOutbox, asks]
  | queued hTaken hReady _ =>
      refine hStays ?_ hListening hSession ?_ hHydrates
      · intro r hSame
        exact hReady r (Option.some.inj (hTaken.symm.trans hSame))
      · simp [order, hOutbox, asks]

/- A frame for which the session leaves. -/
theorem Handling.names
    (hHandling : Handling s m p (t, some cause))
    (hPhase : s.phase = .listening)
    (hTends : Tends last s) :
    Names (s.settle last (.received m (.frame p))) t ∧
      IsSettled (s.settle last (.received m (.frame p))) := by
  have hSettled := hTends.settled (by simp [hPhase])
  have hStays {u : Session}
      (hTaken : s.taken? p = none)
      (hSession :
        u.sessionId = s.sessionId ∨ u.sessionId = none) :
      Names (s.settle last (.received m (.frame p))) u ∧
        IsSettled
          (s.settle last (.received m (.frame p))) := by
    rw [settle_of_other m last (by simp [hTaken])]
    exact ⟨hTends.names.of_sessionId hSession, hSettled⟩
  cases hHandling with
  | unanswered hTaken => exact hStays hTaken (Or.inl rfl)
  | dismissed hTaken => exact hStays hTaken (kept_sessionId s _)
  | incomparable hTaken => exact hStays hTaken (Or.inl rfl)
  | unread hTaken =>
      exact hStays hTaken (Or.inl (counted_sessionId s p))
  | unusable hTaken hUrl =>
      rename_i r
      rw [settle_of_ready m last hPhase hTaken]
      have hUnreadable := hasReadableAddress_of_error hUrl
      refine ⟨?_, ?_⟩
      · intro id hId
        exact ⟨_, rfl, Option.some.inj hId⟩
      · intro h hSame
        cases hSame
        simp [hydrationOf, hUnreadable]

------------------------------------------------------------
-- Reactions
------------------------------------------------------------

/- What is received before the session listens is no start. -/
theorem settle_of_unheard
    {i : Inbound}
    (m : Moment)
    (last : Option Hydration)
    (hPhase : s.phase ≠ .listening) :
    s.settle last (.received m i) = last := by
  cases i <;> simp [settle, accepts?, hPhase]

/- The session asks for a resumption if it is going to resume. -/
theorem isKind_presented
    (s : Session)
    (resuming : Bool) :
    isKind
        (if resuming then s.resumeFrame else s.identifyFrame)
        .resume =
      resuming := by
  cases resuming <;>
    simp [identifyFrame, resumeFrame, isKind_frameOf]

/- A session that goes on listens to the one that it names. -/
theorem GoesOn.tends
    (hGoes : GoesOn s x m t)
    (hTends : Tends last s) :
    Tends (s.settle last x) { t with phase := .listening } := by
  cases hGoes with
  | greeted hPhase hFrame hRead hSent =>
      rename_i resuming _ interval
      rw [eq_order_of_send hSent,
        settle_of_unheard m last (by simp [hPhase])]
      have hUnasked :=
        hTends.unasked (Or.inr (by simp [isGreeting, hPhase]))
      have hPresented :=
        isKind_presented (s.startHeartbeat m interval) resuming
      refine ⟨hTends.names,
        fun _ => hTends.settled (by simp [hPhase]), by simp,
        by simp [isResuming?], by simp [isOpening, isGreeting],
        ?_, hTends.hydrates⟩
      intro _ hAsked
      change hasResumed (s.outbox ++ _) = true at hAsked
      have hResuming : resuming = true := by
        simpa [asks, hUnasked, hPresented] using hAsked
      exact hTends.resuming
        (by simp [isResuming?, hPhase, hResuming])
  | heard hPhase hHandling hRests =>
      have hStill := hHandling.tends hPhase hTends
      rcases hHandling.phase with hSame | hHydrating
      · exact hStill.of_same (hPhase ▸ hSame).symm rfl rfl rfl
      · exact (hRests hHydrating).elim
  | unheard hPhase => exact hTends.of_same hPhase.symm rfl rfl rfl
  | hydrated hPhase =>
      rcases hTends.hydrating hPhase with ⟨r, hLast, hSession⟩
      have hDone :
          s.settle last (.hydrated m (.ok ())) =
            some ⟨r, .done⟩ := by
        simp [settle, accepts?, hPhase, hLast, Except.toBool]
      have hNamed :
          ({ s.markActive m.now with
            phase := .listening }).sessionId =
              some r.sessionId := by
        simpa [markActive_eq] using hSession
      rw [hDone]
      refine ⟨?_, ?_, by simp, by simp [isResuming?],
        by simp [isOpening, isGreeting],
        fun _ _ => by rw [hNamed]; rfl, ?_⟩
      · intro id hId
        exact ⟨_, rfl, Option.some.inj (hNamed.symm.trans hId)⟩
      · intro _ h hSame
        cases hSame
        simp
      · exact (markActive_keeps s m.now).hydrates.trans
          hTends.hydrates

/- A session that leaves names the one that it listened to. -/
theorem Leaves.names
    (hLeaves : Leaves s x m t failure)
    (hTends : Tends last s) :
    Names (s.settle last x) t ∧
      IsSettled (s.settle last x) := by
  have hGreets {i : Inbound}
      (hGreeting : s.isGreeting = true) :
      Names (s.settle last (.received m i)) s ∧
        IsSettled (s.settle last (.received m i)) := by
    unfold isGreeting at hGreeting
    split at hGreeting
    · rename_i hPhase
      rw [settle_of_unheard m last (by simp [hPhase])]
      exact ⟨hTends.names, hTends.settled (by simp [hPhase])⟩
    · cases hGreeting
  cases hLeaves with
  | refused hReceiving hFailure =>
      rename_i i _
      have hUnheard :
          s.settle last (.received m i) = last := by
        cases i with
        | frame => cases hFailure
        | _ => rfl
      have hPhase : s.phase ≠ .hydrating := by
        intro hSame
        simp [isReceiving, hSame] at hReceiving
      rw [hUnheard]
      exact ⟨hTends.names, hTends.settled hPhase⟩
  | ungreeted hGreeting => exact hGreets hGreeting
  | unpresented hGreeting => exact hGreets hGreeting
  | failed hPhase hHandling => exact hHandling.names hPhase hTends
  | unhydrated hPhase =>
      rename_i cause
      rcases hTends.hydrating hPhase with ⟨r, hLast, hSession⟩
      have hFailed :
          s.settle last (.hydrated m (.error cause)) =
            some ⟨r, .failed⟩ := by
        simp [settle, accepts?, hPhase, hLast, Except.toBool]
      rw [hFailed]
      refine ⟨?_, ?_⟩
      · intro id hId
        exact ⟨_, rfl, Option.some.inj (hSession.symm.trans hId)⟩
      · intro h hSame
        cases hSame
        simp
  | timedOut hGreeting => exact hGreets (i := .nothing) hGreeting
  | stopped hGoes =>
      have hStill := hGoes.tends hTends
      exact ⟨hStill.names, hStill.settled (by simp)⟩

/- What does not bear on the phase asks for nothing. -/
theorem Aside.asks
    (hAside : Aside s x t) :
    hasResumed t.outbox = hasResumed s.outbox := by
  cases hAside with
  | unmoved => rfl
  | closed => simp [closeSocket_eq]
  | lost => rfl
  | beaten _ hPulses =>
      cases hPulses with
      | sent => simp
      | unsent => rfl
      | died => simp

/- Whatever happens, a session goes with its last start. -/
theorem tends_of_reaction
    (hReaction : Reaction s x t)
    (hTurn : x = .connect → s.phase ≠ .hydrating)
    (hTends : Tends last s) :
    Tends (s.settle last x) t := by
  cases hReaction with
  | aside hAside =>
      rw [settle_of_aside last hAside]
      rcases hAside.fields with
        ⟨hPhase, _, hHydrates, hSession⟩
      exact hTends.of_same hPhase hSession hAside.asks hHydrates
  | connected =>
      have hSession : s.setOut.sessionId = s.sessionId := by
        simp [setOut, setStatus_eq]
      have hHydrates : s.setOut.hydrates = s.hydrates :=
        (setStatus_keeps _ _).hydrates
      exact attempt_tends
        (hTends.names.of_sessionId (Or.inl hSession))
        (hTends.settled (hTurn rfl))
        (hHydrates.trans hTends.hydrates)
  | ceased hPhase =>
      rw [closeSocket_eq]
      exact finish_tends none hTends.names
        (hTends.settled (by simp [hPhase])) hTends.hydrates
  | fetched hPhase =>
      refine ⟨hTends.names,
        fun _ => hTends.settled (by simp [hPhase]),
        by simp [openAt, order], ?_, ?_,
        by simp [openAt, order], hTends.hydrates⟩
      · simpa [isResuming?, openAt, order, hPhase]
          using hTends.resuming
      · simp [openAt, order, asks]
  | opened hPhase =>
      refine ⟨hTends.names,
        fun _ => hTends.settled (by simp [hPhase]), by simp,
        ?_, ?_, by simp, hTends.hydrates⟩
      · simpa [isResuming?, hPhase] using hTends.resuming
      · exact fun _ =>
          hTends.unasked (Or.inl (by simp [isOpening, hPhase]))
  | retried hPhase =>
      exact attempt_tends hTends.names
        (hTends.settled (by simp [hPhase])) hTends.hydrates
  | hydrates hPhase hHandling =>
      exact hHandling.tends hPhase hTends
  | listens hGoes => exact hGoes.tends hTends
  | leaves hLeaves =>
      rcases hLeaves.names hTends with ⟨hNames, hSettled⟩
      exact leave_tends _ _ hNames hSettled
        (hLeaves.fields.2.trans hTends.hydrates)
  | loses hLoses =>
      rw [lose_eq]
      cases hLoses with
      | unfetched hPhase =>
          exact obey_tends _ _ hTends.names
            (hTends.settled (by simp [hPhase]))
            hTends.hydrates
      | unopened hPhase =>
          exact obey_tends _ _ hTends.names
            (hTends.settled (by simp [hPhase]))
            hTends.hydrates

------------------------------------------------------------
-- Runs
------------------------------------------------------------

/- A session goes with its last start however often it connects. -/
theorem tends_course
    (token : String)
    (intents : Int)
    (backoff : Backoff)
    (xs : List Stimulus)
    (hTurn :
      (Session.new token intents true backoff).IsInTurn xs) :
    Tends
      ((Session.new token intents true backoff).hydration xs)
      ((Session.new token intents true backoff).course xs) := by
  induction xs with
  | nil =>
      have hNew :
          Tends none
            (Session.new token intents true backoff) := by
        refine ⟨?_, ?_, by simp [Session.new],
          by simp [Session.new, isResuming?],
          by simp [Session.new, isOpening, isGreeting],
          by simp [Session.new], rfl⟩
        · intro id hId
          cases hId
        · intro _ h hNone
          cases hNone
      exact tends_of_reaction (reaction_react _ .connect)
        (by simp [Session.new]) hNew
  | cons x xs hInduction =>
      rcases hTurn with ⟨hBefore, hConnect⟩
      refine tends_of_reaction (reaction_react _ x) ?_
        (hInduction hBefore)
      intro hSame hHydrating
      have hEnded := hConnect hSame
      simp [hasEnded, hHydrating] at hEnded

/- A status is entered between two states of a session. -/
def Enters
    (s t : Session)
    (status : Status) : Prop :=
  status ∈ statusesIn (t.outbox.drop s.outbox.length)

/- Whatever comes in a chain follows something there. -/
theorem related_of_mem
    {R : Status → Status → Prop}
    {path : List Status}
    {status : Status}
    (first : Status)
    (hChain : (first :: path).IsChain R)
    (hMember : status ∈ path) :
    ∃ before, R before status := by
  induction path generalizing first with
  | nil => cases hMember
  | cons next rest hInduction =>
      rw [List.isChain_cons_cons] at hChain
      rcases List.mem_cons.mp hMember with rfl | hLater
      · exact ⟨first, hChain.1⟩
      · exact hInduction next hChain.2 hLater

theorem related_of_enters
    {R : Status → Status → Prop}
    {path : List Status}
    {status : Status}
    (hMoves : Moves R path s t)
    (hEnters : Enters s t status) :
    ∃ before, R before status := by
  rcases hMoves.entered with ⟨orders, hOrders, rfl⟩
  apply related_of_mem s.status hMoves.chain
  simpa [Enters, hOrders] using hEnters

/- A session that becomes active has its grounds. -/
theorem grounds_of_active
    {xs : List Stimulus}
    (hTurn : s.IsInTurn (x :: xs))
    (hActive :
      Enters (s.course xs) (s.course (x :: xs)) .active) :
    Grounds (s.course xs) x .active := by
  have hPlaced := isPlaced_course xs hTurn.1
  have hReaction := reaction_react (s.course xs) x
  by_cases hConnect : x = .connect
  · subst hConnect
    have hStatus := status_of_ended hPlaced (hTurn.2 rfl)
    have hSetsOut :=
      setOut_moves (R := fun _ b => b = .connecting) hStatus rfl
    rcases connect_passes (R := fun _ b => b = .connecting)
        (s.course xs) with ⟨_, hMoves, _⟩
    rcases related_of_enters (hSetsOut.trans hMoves) hActive with
      ⟨_, hOther⟩
    cases hOther
  · cases hEnded : (s.course xs).hasEnded with
    | true =>
        have hAside := aside_of_ended hReaction hConnect hEnded
        rcases related_of_enters
            (hAside.moves (R := fun _ _ => False)) hActive with
          ⟨_, hNone⟩
        exact hNone.elim
    | false =>
        rcases passes_of_reaction hReaction hConnect hPlaced
            hEnded with ⟨_, hMoves, _⟩
        rcases related_of_enters hMoves hActive with
          ⟨_, _, hGrounds⟩
        exact hGrounds

/- A session that is being closed forgets nothing. -/
theorem goOn_sessionId
    (s : Session)
    (m : Moment) :
    (s.goOn m).sessionId = s.sessionId := by
  unfold goOn
  split
  · rename_i hClosing
    rw [leave_eq, hClosing]
    have hEnds :
        ∃ failure,
          verdict true (s.cited none) = .ends failure := by
      unfold verdict
      split
      · exact ⟨_, rfl⟩
      · split <;> exact ⟨_, rfl⟩
    rcases hEnds with ⟨failure, hVerdict⟩
    rw [hVerdict, obey, finish_eq]
    exact quieted_sessionId s
  · rfl

/- A session that takes a resumption in stays the one it is. -/
theorem sessionId_of_resumed
    (last : Option Hydration)
    (hAccepts : s.accepts? x = some .resumed) :
    s.phase = .listening ∧
      (s.react x).sessionId = s.sessionId ∧
        s.settle last x = last := by
  unfold accepts? at hAccepts
  split at hAccepts
  · rename_i m p
    split at hAccepts
    · rename_i hPhase
      refine ⟨hPhase, ?_,
        settle_of_other m last (by simp [hAccepts])⟩
      have hHandle := handle_of_taken m hAccepts
      simp only [takeIn] at hHandle
      have hHeard :
          (s.hear m p).sessionId = s.sessionId := by
        simp only [hear, hHandle]
        split
        · simp [setStatus_eq, order, markActive_eq,
            counted_sessionId]
        · rw [goOn_sessionId]
          simp [setStatus_eq, order, markActive_eq,
            counted_sessionId]
      rw [← hHeard]
      exact congrArg Session.sessionId
        (Wire.receive_of_listening m p hPhase)
    · cases hAccepts
  · cases hAccepts

/-
  A session that hydrates becomes active only as the one of the
  last start. What had to be done for that start is done, but
  where the session is resumed after it had failed.
-/
theorem done_iff_of_active
    (token : String)
    (intents : Int)
    (backoff : Backoff)
    (x : Stimulus)
    (xs : List Stimulus)
    (hTurn :
      (Session.new token intents true backoff).IsInTurn
        (x :: xs))
    (hHonest :
      (Session.new token intents true backoff).IsHonest
        (x :: xs))
    (hActive :
      Enters
        ((Session.new token intents true backoff).course xs)
        ((Session.new token intents true backoff).course
          (x :: xs))
        .active) :
    let s := Session.new token intents true backoff
    ∃ h, s.hydration (x :: xs) = some h ∧
      (s.course (x :: xs)).sessionId = some h.ready.sessionId ∧
        (h.progress = .done ↔
          ¬ ((s.course xs).accepts? x = some .resumed ∧
            s.hydration xs = some ⟨h.ready, .failed⟩)) := by
  intro s
  have hTends := tends_course token intents backoff xs hTurn.1
  cases grounds_of_active hTurn hActive with
  | startedBare _ hBare =>
      cases hBare.symm.trans hTends.hydrates
  | resumedBare hAccepts =>
      rcases sessionId_of_resumed (s.hydration xs) hAccepts with
        ⟨hPhase, hSession, hSame⟩
      have hKnown :=
        hTends.asked hPhase (hHonest.2 hAccepts)
      rcases Option.isSome_iff_exists.mp hKnown with ⟨id, hId⟩
      rcases hTends.names id hId with ⟨h, hLast, rfl⟩
      have hSettled :=
        hTends.settled (by simp [hPhase]) h hLast
      refine ⟨h, hSame.trans hLast, hSession.trans hId, ?_⟩
      change s.hydration xs = some h at hLast
      rw [hLast]
      rcases h with ⟨r, progress⟩
      cases progress with
      | pending => exact (hSettled rfl).elim
      | done => simp
      | failed => simp [s, hAccepts]
  | hydrated hHydrated hPhase =>
      rename_i m
      subst hHydrated
      rcases hTends.hydrating hPhase with ⟨r, hLast, hId⟩
      have hDone :
          s.hydration (.hydrated m (.ok ()) :: xs) =
            some ⟨r, .done⟩ := by
        simp [hydration, settle, accepts?, s, hPhase, hLast,
          Except.toBool]
      refine ⟨_, hDone, ?_, by simp [accepts?]⟩
      rw [← hId]
      have hHydrated :
          (s.course xs).react (.hydrated m (.ok ())) =
            ((s.course xs).markActive m.now).goOn m := by
        simp [react, Session.hydrated, s, hPhase]
      refine (congrArg Session.sessionId hHydrated).trans ?_
      rw [goOn_sessionId, markActive_eq]

/-
  A session starts, but cannot be hydrated. It connects again,
  asks for a resumption, and is resumed.
-/
def failedHydration : List Stimulus :=
  [
    .received (momentAt 100) (.frame resumedFrame),
    .received (momentAt 100) (.frame helloFrame),
    .opened (momentAt 100) (.ok ()),
    .passed (momentAt 100),
    .hydrated (momentAt 1) (.error (.system "unreachable")),
    .received (momentAt 0) (.frame readyFrame),
    .received (momentAt 0) (.frame helloFrame),
    .opened (momentAt 0) (.ok ()),
    .fetched (momentAt 0) (.ok "wss://gateway")
  ]

/- It is active then, and what had to be done was not done. -/
theorem failedHydration_activates :
    attentive.IsInTurn failedHydration ∧
      attentive.IsHonest failedHydration ∧
        Enters (attentive.course failedHydration.tail)
          (attentive.course failedHydration) .active ∧
          ∃ h, attentive.hydration failedHydration = some h ∧
            (attentive.course failedHydration).sessionId =
              some h.ready.sessionId ∧
              h.progress = .failed := by
  have hTurn : attentive.IsInTurn failedHydration := by
    simp [failedHydration, IsInTurn]
  have hOther {e : Option Event}
      (hNone :
        (e.any fun
          | .resumed => true
          | _ => false) = false) :
      e ≠ some .resumed := by
    rintro rfl
    cases hNone
  have hHonest : attentive.IsHonest failedHydration := by
    unfold failedHydration
    refine ⟨⟨⟨⟨⟨⟨⟨⟨⟨trivial, ?_⟩, ?_⟩, ?_⟩, ?_⟩, ?_⟩, ?_⟩, ?_⟩,
      ?_⟩, fun _ => by decide +kernel⟩
    all_goals
      intro hAccepts
      refine (hOther ?_ hAccepts).elim
      decide +kernel
  have hActive :
      Enters (attentive.course failedHydration.tail)
        (attentive.course failedHydration) .active := by
    unfold Enters
    decide +kernel
  have hProgress :
      (attentive.hydration failedHydration).map
          Hydration.progress =
        some .failed := by
    decide +kernel
  rcases done_iff_of_active "token" 513
      (Backoff.ofBounds 1 60 120 0) _ _ hTurn hHonest hActive with
    ⟨h, hLast, hId, _⟩
  refine ⟨hTurn, hHonest, hActive, h, hLast, hId, ?_⟩
  have hSame :
      attentive.hydration failedHydration = some h := hLast
  simpa [hSame] using hProgress

end GuildWarden.Gateway.Session
