import GuildWarden.Proofs.Gateway.Delivery
import GuildWarden.Proofs.Gateway.Reaction

/-
  This file shows what ends a session. If whatever is done
  outside fails only for causes that are recovered, a session
  ends because it is told to close, because the gateway expels
  it, or because of a frame that it cannot make sense of: a
  greeting without an interval, a dispatch whose number has no
  order with the last one, a dispatch that cannot be read, or
  a start whose address to resume is no text. A heartbeat that
  was broken before hides the last two reasons.

  Key definitions include:
    * `Gateway.Session.Stimulus.IsMendable`
    * `Gateway.Session.IsExpelled`
    * `Gateway.Session.Misread`

  Main statements:
    * `Gateway.Session.Handling.misread`
    * `Gateway.Session.phase_react_iff`
    * `Gateway.Session.ends_iff_of_mendable`
-/

namespace GuildWarden.Gateway

/- A result fails, if at all, for a cause that is recovered. -/
def IsMendable
    {α : Type}
    (result : Except Cause α) : Prop :=
  ∀ cause, result = .error cause → isRecovered cause = true

/- Sending fails, if at all, for a cause that is recovered. -/
def Moment.IsMendable
    (m : Moment) : Prop :=
  ∀ cause, m.sendFailure = some cause →
    isRecovered cause = true

namespace Session

variable {s t : Session}
variable {m : Moment}
variable {cause : Cause}
variable {failure : Option Cause}
variable {x : Stimulus}
variable {p : Payload}

/- What is done outside fails only for causes that are recovered. -/
def Stimulus.IsMendable : Stimulus → Prop
  | .fetched _ result => Gateway.IsMendable result
  | .opened _ result => Gateway.IsMendable result
  | .received m (.failed cause) =>
    m.IsMendable ∧ isRecovered cause = true
  | .received m _ => m.IsMendable
  | .hydrated _ result => Gateway.IsMendable result
  | .passed m => m.IsMendable
  | _ => True

/- A broken heartbeat was broken by a cause that is recovered. -/
def IsMendable
    (s : Session) : Prop :=
  ∀ cause, s.heartbeat = .broken cause →
    isRecovered cause = true

------------------------------------------------------------
-- Reasons to End
------------------------------------------------------------

/- The failure of a connection closed with a fatal code. -/
def expulsion
    (code : Int) : Cause :=
  .fatalGateway
    ("gateway closed the session with code " ++
      Number.decimal code)
    (some code)

/- The gateway closes a live connection with a fatal code. -/
inductive IsExpelled
    (s : Session) : Stimulus → Cause → Prop where
  | intro {m : Moment} {code : Int}
      (hReceiving : s.isReceiving = true)
      (hAlive : s.isDead = false)
      (hFatal : isFatalCode code = true) :
      IsExpelled s (.received m (.closed (some code)))
        (expulsion code)

/- A frame of which a session cannot make sense, and the failure. -/
inductive Misread
    (s : Session) : Payload → Cause → Prop where
  | greeting {p : Payload} {cause : Cause}
      (hGreeting : s.isGreeting = true)
      (hKind : isKind p .hello = true)
      (hRead : readInterval p = .error cause) :
      Misread s p cause
  | number {p last : Payload}
      (hPhase : s.phase = .listening)
      (hKind : isKind p .dispatch = true)
      (hGiven : p.field "s" ≠ .null)
      (hLast : s.sequence = some last)
      (hOrder : (p.field "s").atMost? last = none) :
      Misread s p .badType
  | event {p : Payload} {cause : Cause}
      (hPhase : s.phase = .listening)
      (hKind : isKind p .dispatch = true)
      (hAdmits : s.admits p = true)
      (hRead :
        Event.decode (p.field "t") (p.field "d") =
          .error cause) :
      Misread s p cause
  | address {p : Payload} {r : Event.Ready}
      (hPhase : s.phase = .listening)
      (hTaken : s.taken? p = some (.ready r))
      (hUnreadable : hasReadableAddress r = false) :
      Misread s p .notAMap

/- A failure of form is not recovered, and raised as it is. -/
theorem raised_of_isFormal
    (hFormal : isFormal cause = true) :
    isRecovered cause = false ∧ raised cause = cause := by
  cases cause <;>
    first | exact ⟨rfl, rfl⟩ | simp [isFormal] at hFormal

theorem Misread.formal
    (hMisread : Misread s p cause) :
    isFormal cause = true := by
  cases hMisread with
  | greeting _ hKind hRead =>
      rcases readInterval_failure hRead with
        ⟨hOther, _⟩ | ⟨_, hFormal⟩
      · rw [hKind] at hOther
        cases hOther
      · exact hFormal
  | number => rfl
  | event _ _ _ hRead => exact Event.decode_formal _ _ _ hRead
  | address => rfl

/- A connection that is closed is recovered, or fatally closed. -/
theorem closeFailure_cases
    (s : Session)
    (code : Option Int) :
    isRecovered (s.closeFailure code) = true ∨
      ∃ n, code = some n ∧ s.isDead = false ∧
        isFatalCode n = true ∧
          s.closeFailure code = expulsion n := by
  unfold closeFailure
  split
  · exact Or.inl rfl
  · rename_i hAlive
    split
    · rename_i n
      split
      · rename_i hFatal
        exact Or.inr ⟨n, rfl, by simpa using hAlive, hFatal,
          rfl⟩
      · split <;> exact Or.inl rfl
    · exact Or.inl rfl

/- What fails in handling a frame is recovered, or a misreading. -/
theorem Handling.misread
    (hHandling : Handling s m p (t, some cause))
    (hPhase : s.phase = .listening)
    (hMoment : m.IsMendable) :
    isRecovered cause = true ∨ Misread s p cause := by
  cases hHandling with
  | unanswered _ hBeat =>
      rcases failure_of_beat hBeat with rfl | hFailure
      · exact Or.inl rfl
      · exact Or.inl (hMoment cause hFailure)
  | dismissed => exact Or.inl rfl
  | incomparable _ hKind hGiven hNumber =>
      unfold isReplayed at hNumber
      split at hNumber
      · cases hNumber
      · rename_i last hLast
        split at hNumber
        · cases hNumber
        · rename_i hOrder
          cases hNumber
          exact Or.inr (.number hPhase hKind hGiven hLast
            hOrder)
  | unread _ hKind hAdmits hRead =>
      exact Or.inr (.event hPhase hKind hAdmits hRead)
  | unusable hTaken hUrl =>
      rename_i r
      have hUnreadable := hasReadableAddress_of_error hUrl
      cases (resumeAddress_of_unreadable _
        hUnreadable).symm.trans hUrl
      exact Or.inr (.address hPhase hTaken hUnreadable)

/- A misreading of a dispatch is what comes of handling it. -/
theorem Misread.handle
    (hMisread : Misread s p cause)
    (hPhase : s.phase = .listening)
    (m : Moment) :
    (s.handle m p).2 = some cause := by
  have hHandle
      (hKind : isKind p .dispatch = true) :
      s.handle m p = s.dispatchOnce m p := by
    simp [Session.handle,
      kindOf?_of_isKind (by simp [Opcode.heard]) hKind]
  cases hMisread with
  | greeting hGreeting =>
      simp [isGreeting, hPhase] at hGreeting
  | number _ hKind hGiven hLast hOrder =>
      rw [hHandle hKind]
      have hNumber :
          s.isReplayed (p.field "s") = .error .badType := by
        simp [isReplayed, hLast, hOrder]
      unfold dispatchOnce
      split
      · rename_i hNull
        exact (hGiven hNull).elim
      · simp [hNumber]
  | event _ hKind hAdmits hRead =>
      rw [hHandle hKind, dispatchOnce_of_admits m hAdmits]
      simp [Session.dispatch, hRead]
  | address _ hTaken hUnreadable =>
      rw [handle_of_taken m hTaken]
      simp [takeIn, start,
        resumeAddress_of_unreadable _ hUnreadable]

------------------------------------------------------------
-- How a Connection Ends
------------------------------------------------------------

theorem phase_obey_iff
    {verdict : Verdict} :
    (s.obey m verdict).phase = .ended failure ↔
      verdict = .ends failure := by
  cases verdict with
  | ends other => simp [obey, finish_eq]
  | retries isForgotten =>
      rcases wait_eq (s.kept isForgotten) m with
        ⟨backoff, until_, hWait⟩
      simp [obey, hWait]

theorem phase_leave_iff :
    (s.leave m failure).phase = .ended (some cause) ↔
      ∃ other, s.cited failure = some other ∧
        isRecovered other = false ∧ raised other = cause := by
  rw [leave_eq, phase_obey_iff, verdict_eq_failure_iff]

/- A session whose heartbeat is whole fails for what is at hand. -/
theorem cited_of_whole
    (hWhole : s.hasBrokenHeart = false) :
    s.cited failure = failure := by
  cases hHeart : s.heartbeat with
  | broken other => simp [hasBrokenHeart, hHeart] at hWhole
  | _ => simp only [cited, hHeart]

/- What is not recovered did not come from the heartbeat. -/
theorem failure_of_cited
    (hHeart : s.IsMendable)
    (hCited : s.cited failure = some cause)
    (hLasting : isRecovered cause = false) :
    s.hasBrokenHeart = false ∧ failure = some cause := by
  cases hSame : s.heartbeat with
  | broken other =>
      have hOther : other = cause := by
        simpa [cited, hSame] using hCited
      subst hOther
      cases (hHeart other hSame).symm.trans hLasting
  | _ =>
      simp only [cited, hSame] at hCited
      exact ⟨by simp only [hasBrokenHeart, hSame], hCited⟩

/- A failure to receive is a reason to leave. -/
theorem receive_of_failure
    {i : Inbound}
    (m : Moment)
    (hReceiving : s.isReceiving = true)
    (hFailure : s.receiveFailure i = some cause) :
    s.receive m i = s.leave m (some cause) := by
  unfold isReceiving at hReceiving
  unfold receive
  cases hPhase : s.phase <;>
    simp [hPhase] at hReceiving <;> simp [hFailure]

/- So does a frame that is misread. -/
theorem receive_of_misread
    (m : Moment)
    (hMisread : Misread s p cause) :
    ∃ t, Keeps s t ∧
      s.receive m (.frame p) = t.leave m (some cause) := by
  cases hPhase : s.phase with
  | greeting resuming deadline =>
      cases hMisread with
      | greeting _ _ hRead =>
          refine ⟨s, .refl s, ?_⟩
          simp [receive, hPhase, receiveFailure, greet, hRead]
      | number hListening =>
          cases hPhase.symm.trans hListening
      | event hListening => cases hPhase.symm.trans hListening
      | address hListening =>
          cases hPhase.symm.trans hListening
  | listening =>
      have hFailure := hMisread.handle hPhase m
      have hKeeps := (handling_handle s m p).keeps
      rcases hResult : s.handle m p with ⟨t, other⟩
      rw [hResult] at hFailure hKeeps
      refine ⟨t, hKeeps, ?_⟩
      simp only at hFailure
      simp [receive, hPhase, receiveFailure, hear, hResult,
        hFailure]
  | _ =>
      cases hMisread with
      | greeting hGreeting =>
          simp [isGreeting, hPhase] at hGreeting
      | number hListening =>
          cases hPhase.symm.trans hListening
      | event hListening => cases hPhase.symm.trans hListening
      | address hListening =>
          cases hPhase.symm.trans hListening

------------------------------------------------------------
-- How a Session Ends
------------------------------------------------------------

/- The reactions with which a session can end. -/
theorem ending_cases
    (hReaction : Reaction s x t)
    (hGoing : s.hasEnded = false)
    (hEnded : t.phase = .ended failure) :
    (x = .close ∧ failure = none) ∨
      (∃ m u other, Leaves s x m u other ∧
        t = u.leave m other) ∨
      ∃ m cause, Loses s x m cause ∧ t = s.lose m cause := by
  have hOther
      (hSame : t.phase = s.phase) :
      False := by
    simp [hasEnded, hSame.symm.trans hEnded] at hGoing
  cases hReaction with
  | aside hAside => exact (hOther hAside.fields.1).elim
  | connected =>
      rcases phase_attempt
          ({ s with closing := false }.setStatus
            .connecting) with hOpens | hFetches
      · cases hOpens.symm.trans hEnded
      · cases hFetches.symm.trans hEnded
  | ceased =>
      rw [finish_eq] at hEnded
      cases hEnded
      exact Or.inl ⟨rfl, rfl⟩
  | fetched => cases hEnded
  | opened => cases hEnded
  | retried =>
      rcases phase_attempt s with hOpens | hFetches
      · cases hOpens.symm.trans hEnded
      · cases hFetches.symm.trans hEnded
  | hydrates _ _ hHydrating =>
      cases hHydrating.symm.trans hEnded
  | listens => cases hEnded
  | leaves hLeaves =>
      exact Or.inr (Or.inl ⟨_, _, _, hLeaves, rfl⟩)
  | loses hLoses => exact Or.inr (Or.inr ⟨_, _, hLoses, rfl⟩)

/- A session that ends without a failure is being closed. -/
theorem closing_of_ended
    (hReaction : Reaction s x t)
    (hGoing : s.hasEnded = false)
    (hEnded : t.phase = .ended none) :
    s.closing = true ∨ x = .close := by
  rcases ending_cases hReaction hGoing hEnded with
    ⟨hClose, _⟩ | ⟨m, u, other, hLeaves, rfl⟩ |
      ⟨m, cause, _, rfl⟩
  · exact Or.inr hClose
  · rw [leave_eq, phase_obey_iff] at hEnded
    rw [← hLeaves.fields.1]
    cases hCited : u.cited other with
    | some cause =>
        rw [hCited] at hEnded
        exact Or.inl (closing_of_verdict hEnded)
    | none =>
        cases hLeaves with
        | stopped _ hClosing => exact Or.inl hClosing
        | _ =>
            unfold cited at hCited
            split at hCited <;> cases hCited
  · rw [lose_eq, phase_obey_iff] at hEnded
    exact Or.inl (closing_of_verdict hEnded)

/- Only closing makes a session be closed. -/
theorem closing_of_reaction
    (hReaction : Reaction s x t)
    (hClosing : t.closing = true) :
    s.closing = true ∨ x = .close := by
  cases hReaction with
  | aside hAside =>
      cases hAside with
      | closed => exact Or.inr rfl
      | beaten _ hPulses =>
          rw [hPulses.closing] at hClosing
          exact Or.inl hClosing
      | _ => exact Or.inl hClosing
  | connected =>
      rw [(attempt_keeps _).closing,
        (setStatus_keeps _ _).closing] at hClosing
      cases hClosing
  | ceased => exact Or.inr rfl
  | retried =>
      rw [(attempt_keeps s).closing] at hClosing
      exact Or.inl hClosing
  | hydrates _ hHandling =>
      rw [hHandling.keeps.closing] at hClosing
      exact Or.inl hClosing
  | listens _ hOpen => cases hOpen.symm.trans hClosing
  | leaves hLeaves =>
      rw [(leave_fields _ _ _).1, hLeaves.fields.1] at hClosing
      exact Or.inl hClosing
  | loses =>
      rw [(lose_fields _ _ _).1] at hClosing
      exact Or.inl hClosing
  | _ => exact Or.inl hClosing

/- Sending is mendable whatever is received. -/
theorem Stimulus.IsMendable.moment
    {i : Inbound}
    (hMendable :
      (Stimulus.received m i).IsMendable) :
    m.IsMendable := by
  cases i with
  | failed => exact hMendable.1
  | _ => exact hMendable

/- A first frame that cannot be read is misread, or recovered. -/
theorem ungreeted_cases
    {i : Inbound}
    (hGreeting : s.isGreeting = true)
    (hFrame : firstFrame? i = some p)
    (hRead : readInterval p = .error cause) :
    isRecovered cause = true ∨
      i = .frame p ∧ Misread s p cause := by
  rcases readInterval_failure hRead with
    ⟨_, detail, code, resumable, rfl⟩ | ⟨hKind, _⟩
  · exact Or.inl rfl
  · cases i with
    | frame =>
        cases hFrame
        exact Or.inr ⟨rfl, .greeting hGreeting hKind hRead⟩
    | nothing =>
        cases hFrame
        cases hKind
    | closed => cases hFrame
    | failed => cases hFrame

/- What makes a session leave is recovered, or a reason to end. -/
theorem Leaves.reason
    (hLeaves : Leaves s x m t (some cause))
    (hMendable : x.IsMendable)
    (hLasting : isRecovered cause = false) :
    t.heartbeat = s.heartbeat ∧
      (IsExpelled s x cause ∨
        ∃ m p, x = .received m (.frame p) ∧
          Misread s p cause) := by
  have hRecovered
      (hOther : isRecovered cause = true) :
      False := by
    cases hOther.symm.trans hLasting
  cases hLeaves with
  | refused hReceiving hFailure =>
      refine ⟨rfl, Or.inl ?_⟩
      rename_i i
      cases i with
      | closed code =>
          cases hFailure
          rcases closeFailure_cases s code with
            hOther | ⟨n, rfl, hAlive, hFatal, hExpulsion⟩
          · exact (hRecovered hOther).elim
          · rw [hExpulsion]
            exact .intro hReceiving hAlive hFatal
      | failed =>
          cases hFailure
          exact (hRecovered hMendable.2).elim
      | frame => cases hFailure
      | nothing => cases hFailure
  | ungreeted hGreeting hFrame hRead =>
      rcases ungreeted_cases hGreeting hFrame hRead with
        hOther | ⟨rfl, hMisread⟩
      · exact (hRecovered hOther).elim
      · exact ⟨rfl, Or.inr ⟨m, _, rfl, hMisread⟩⟩
  | unpresented _ _ _ hSent =>
      rcases failure_of_send hSent with rfl | hFailure
      · exact (hRecovered rfl).elim
      · exact
          (hRecovered (hMendable.moment cause hFailure)).elim
  | failed hPhase hHandling =>
      refine ⟨hHandling.keeps.heartbeat, ?_⟩
      rcases hHandling.misread hPhase hMendable with
        hOther | hMisread
      · exact (hRecovered hOther).elim
      · exact Or.inr ⟨m, _, rfl, hMisread⟩
  | unhydrated =>
      exact (hRecovered (hMendable cause rfl)).elim
  | timedOut => exact (hRecovered rfl).elim

/- The failure of such a reason is raised as it is. -/
theorem raised_of_reason
    (hReason :
      IsExpelled s x cause ∨
        ∃ m p, x = .received m (.frame p) ∧
          Misread s p cause) :
    raised cause = cause := by
  rcases hReason with hExpelled | ⟨_, _, _, hMisread⟩
  · cases hExpelled
    rfl
  · exact (raised_of_isFormal hMisread.formal).2

/- A session with a reason to end ends with it. -/
theorem ends_of_reason
    (hWhole : s.hasBrokenHeart = false)
    (hReason :
      IsExpelled s x cause ∨
        ∃ m p, x = .received m (.frame p) ∧
          Misread s p cause) :
    (s.react x).phase = .ended (some cause) := by
  rcases hReason with hExpelled | ⟨m, p, rfl, hMisread⟩
  · cases hExpelled with
    | intro hReceiving hAlive hFatal =>
        rename_i m code
        have hFailure :
            s.receiveFailure (.closed (some code)) =
              some (expulsion code) := by
          simp [receiveFailure, closeFailure, hAlive, hFatal,
            expulsion]
        have hLeave :=
          receive_of_failure m hReceiving hFailure
        refine (congrArg Session.phase hLeave).trans ?_
        rw [phase_leave_iff]
        exact ⟨_, cited_of_whole hWhole, rfl, rfl⟩
  · rcases receive_of_misread m hMisread with
      ⟨t, hKeeps, hLeave⟩
    rcases raised_of_isFormal hMisread.formal with
      ⟨hLasting, hRaised⟩
    have hStillWhole : t.hasBrokenHeart = false := by
      unfold hasBrokenHeart
      rw [hKeeps.heartbeat]
      exact hWhole
    refine (congrArg Session.phase hLeave).trans ?_
    rw [phase_leave_iff]
    exact ⟨_, cited_of_whole hStillWhole, hLasting, hRaised⟩

/- The failure with which a session ends has its reason there. -/
theorem phase_react_iff
    (hHeart : s.IsMendable)
    (hMendable : x.IsMendable)
    (hConnected : x ≠ .connect)
    (hGoing : s.hasEnded = false) :
    (s.react x).phase = .ended (some cause) ↔
      s.hasBrokenHeart = false ∧
        (IsExpelled s x cause ∨
          ∃ m p, x = .received m (.frame p) ∧
            Misread s p cause) := by
  constructor
  · intro hEnded
    rcases ending_cases (reaction_react s x) hGoing hEnded with
      ⟨_, hNone⟩ | ⟨m, t, failure, hLeaves, hLeft⟩ |
        ⟨m, failure, hLoses, hLost⟩
    · cases hNone
    · rw [hLeft, phase_leave_iff] at hEnded
      rcases hEnded with ⟨other, hCited, hLasting, hRaised⟩
      have hStillMendable : t.IsMendable := by
        intro broken hBroken
        rcases hLeaves.heartbeat with hSame | ⟨due, hDue⟩
        · exact hHeart broken (hSame.symm.trans hBroken)
        · cases hDue.symm.trans hBroken
      rcases failure_of_cited hStillMendable hCited
          hLasting with ⟨hWhole, rfl⟩
      rcases hLeaves.reason hMendable hLasting with
        ⟨hSame, hReason⟩
      rw [raised_of_reason hReason] at hRaised
      subst hRaised
      refine ⟨?_, hReason⟩
      unfold hasBrokenHeart at hWhole ⊢
      rw [← hSame]
      exact hWhole
    · rw [hLost, lose_eq, phase_obey_iff,
        verdict_eq_failure_iff] at hEnded
      rcases hEnded with ⟨other, hSame, hLasting, _⟩
      cases hSame
      cases hLoses with
      | unfetched =>
          cases (hMendable _ rfl).symm.trans hLasting
      | unopened =>
          cases (hMendable _ rfl).symm.trans hLasting
  · exact fun ⟨hWhole, hReason⟩ => ends_of_reason hWhole hReason

------------------------------------------------------------
-- Runs
------------------------------------------------------------

/- A heartbeat stays mendable whatever is received. -/
theorem isMendable_react
    (hHeart : s.IsMendable)
    (hMendable : x.IsMendable) :
    (s.react x).IsMendable := by
  intro cause hBroken
  rcases broken_of_reaction (reaction_react s x) hBroken with
    hBefore | ⟨m, rfl, hFailure, _⟩
  · exact hHeart cause hBefore
  · exact hMendable cause hFailure

theorem isMendable_course
    (hRest : s.IsAtRest)
    (xs : List Stimulus)
    (hMendable : ∀ y ∈ xs, y.IsMendable) :
    (s.course xs).IsMendable := by
  induction xs with
  | nil =>
      intro cause hBroken
      rcases broken_of_reaction (reaction_react s .connect)
          hBroken with hBefore | ⟨_, hPassed, _⟩
      · cases hRest.heartbeat.symm.trans hBefore
      · cases hPassed
  | cons x xs hInduction =>
      rw [List.forall_mem_cons] at hMendable
      exact isMendable_react (hInduction hMendable.2)
        hMendable.1

/- A session is being closed only after it was told to close. -/
theorem close_mem_of_closing
    (xs : List Stimulus)
    (hClosing : (s.course xs).closing = true) :
    .close ∈ xs := by
  induction xs with
  | nil =>
      rw [course, connect, (attempt_keeps _).closing,
        (setStatus_keeps _ _).closing] at hClosing
      cases hClosing
  | cons x xs hInduction =>
      rcases closing_of_reaction
          (reaction_react (s.course xs) x) hClosing with
        hBefore | rfl
      · exact List.mem_cons_of_mem _ (hInduction hBefore)
      · exact List.mem_cons_self

/-
  Whatever a session receives while all that is done outside
  fails only for causes that are recovered: if it ends without
  a failure, it was told to close; and it ends with a failure
  exactly if its heartbeat is whole and the gateway expels it,
  or sends a frame that it misreads.
-/
theorem ends_iff_of_mendable
    {xs : List Stimulus}
    (hRest : s.IsAtRest)
    (hMendable :
      ∀ y ∈ x :: xs, y ≠ .connect ∧ y.IsMendable)
    (hGoing : (s.course xs).hasEnded = false) :
    let t := s.course xs
    let u := s.course (x :: xs)
    (u.phase = .ended none → .close ∈ x :: xs) ∧
      ∀ cause, u.phase = .ended (some cause) ↔
        t.hasBrokenHeart = false ∧
          (IsExpelled t x cause ∨
            ∃ m p, x = .received m (.frame p) ∧
              Misread t p cause) := by
  intro t u
  rw [List.forall_mem_cons] at hMendable
  have hHeart : t.IsMendable :=
    isMendable_course hRest xs
      fun y hMember => (hMendable.2 y hMember).2
  constructor
  · intro hEnded
    rcases closing_of_ended (reaction_react t x) hGoing
        hEnded with hClosing | rfl
    · exact List.mem_cons_of_mem _
        (close_mem_of_closing xs hClosing)
    · exact List.mem_cons_self
  · intro cause
    exact phase_react_iff hHeart hMendable.1.2
      hMendable.1.1 hGoing

/- A dispatch whose number is a text. -/
def wordyFrame : Payload :=
  .map
    [
      ("op", .int Opcode.dispatch.number),
      ("s", .text "2"),
      ("t", .text "RESUMED")
    ]

/- A session starts, and a dispatch with a wordy number comes. -/
def wordyNumber : List Stimulus :=
  [
    .received (momentAt 1) (.frame wordyFrame),
    .received (momentAt 0) (.frame readyFrame),
    .received (momentAt 0) (.frame helloFrame),
    .opened (momentAt 0) (.ok ()),
    .fetched (momentAt 0) (.ok "wss://gateway")
  ]

/-
  The number has no order with the last one: the session ends,
  though nobody told it to close and nobody expelled it.
-/
theorem wordyNumber_ends :
    untouched.IsAtRest ∧
      (∀ y ∈ wordyNumber, y ≠ .connect ∧ y.IsMendable) ∧
        (untouched.course wordyNumber.tail).hasEnded = false ∧
          (untouched.course wordyNumber).phase =
            .ended (some .badType) ∧
              .close ∉ wordyNumber := by
  have hMoment (now : Rat) : (momentAt now).IsMendable := by
    intro cause hFailure
    cases hFailure
  have hRest : untouched.IsAtRest := isAtRest_new _ _ _ _
  have hMendable :
      ∀ y ∈ wordyNumber, y ≠ .connect ∧ y.IsMendable := by
    simp only [wordyNumber, List.forall_mem_cons,
      List.not_mem_nil, false_implies, implies_true, and_true]
    refine ⟨⟨by simp, hMoment 1⟩, ⟨by simp, hMoment 0⟩,
      ⟨by simp, hMoment 0⟩, ⟨by simp, ?_⟩, by simp, ?_⟩ <;>
      intro cause hError <;> cases hError
  have hGoing :
      (untouched.course wordyNumber.tail).hasEnded = false := by
    decide +kernel
  have hEnds := ends_iff_of_mendable hRest hMendable hGoing
  refine ⟨hRest, hMendable, hGoing, ?_, by simp [wordyNumber]⟩
  apply (hEnds.2 .badType).mpr
  refine ⟨by decide +kernel, Or.inr ⟨_, _, rfl, ?_⟩⟩
  have hGiven : wordyFrame.field "s" = .text "2" := by
    with_unfolding_all rfl
  have hLast :
      (untouched.course wordyNumber.tail).sequence =
        some (.int 1) := by
    with_unfolding_all rfl
  have hOrder :
      (wordyFrame.field "s").atMost? (.int 1) = none := by
    rw [hGiven]
    rfl
  exact
    .number (by decide +kernel) (by decide +kernel)
      (by simp [hGiven]) hLast hOrder

end Session

end GuildWarden.Gateway
