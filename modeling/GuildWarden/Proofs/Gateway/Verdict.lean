import GuildWarden.Proofs.Gateway.Recollection

/-
  This file says what each operation of a session makes of its
  state, as one equation for each, and what a connection that
  is over leads to: a verdict on its failure, which the session
  obeys.

  Key definitions include:
    * `Gateway.isRecovered`
    * `Gateway.Session.Verdict`
    * `Gateway.Session.verdict`
    * `Gateway.Session.Keeps`

  Main statements:
    * `Gateway.Session.leave_eq`
    * `Gateway.Session.attempt_cases`
    * `Gateway.Session.obey_fields`
-/

namespace GuildWarden.Gateway

------------------------------------------------------------
-- Verdicts
------------------------------------------------------------

/-
  Causes after which a session connects again, unless it is
  being closed.
-/
def isRecovered : Cause → Bool
  | .transport _ _ _ => true
  | .refused status => status != 401
  | cause => cause.isLinkTrouble

/- The failure with which a session ends that does not recover. -/
def raised : Cause → Cause
  | .refused _ => Session.tokenRejected
  | cause => cause

namespace Session

/-
  What a connection that is over leads to: the end, or another
  attempt, before which the session may be forgotten.
-/
inductive Verdict where
  | ends (failure : Option Cause)
  | retries (isForgotten : Bool)
deriving DecidableEq

/- The verdict on a failure, or on a session that just stops. -/
def verdict
    (closing : Bool) : Option Cause → Verdict
  | none => .ends none
  | some cause =>
    if isRecovered cause then
      if closing then .ends none
      else .retries (discardsSession cause)
    else .ends (some (raised cause))

/- A session does what the verdict says. -/
def obey
    (s : Session)
    (m : Moment) : Verdict → Session
  | .ends failure => s.finish failure
  | .retries isForgotten => (s.kept isForgotten).wait m

variable {s t u : Session}
variable {m : Moment}
variable {cause : Cause}
variable {failure : Option Cause}

/- Only a session that is being closed ends without a failure. -/
theorem closing_of_verdict
    {closing : Bool}
    (hVerdict :
      verdict closing (some cause) = .ends none) :
    closing = true := by
  cases closing with
  | true => rfl
  | false =>
      cases hRecovered : isRecovered cause <;>
        simp [verdict, hRecovered] at hVerdict

/- A session that is being closed does not try again. -/
theorem exists_ends_of_closing
    (failure : Option Cause) :
    ∃ final, verdict true failure = .ends final := by
  cases failure with
  | none => exact ⟨none, rfl⟩
  | some cause =>
      cases hRecovered : isRecovered cause with
      | true => exact ⟨none, by simp [verdict, hRecovered]⟩
      | false =>
          exact ⟨some (raised cause),
            by simp [verdict, hRecovered]⟩

/- The end comes with a failure exactly if it is not recovered. -/
theorem verdict_eq_failure_iff
    {closing : Bool}
    {final : Cause} :
    verdict closing failure = .ends (some final) ↔
      ∃ cause, failure = some cause ∧
        isRecovered cause = false ∧ raised cause = final := by
  cases failure with
  | none => simp [verdict]
  | some cause =>
      cases hRecovered : isRecovered cause with
      | true => cases closing <;> simp [verdict, hRecovered]
      | false => simp [verdict, hRecovered]

/- A connection that is lost is judged by its cause. -/
theorem lose_eq
    (s : Session)
    (m : Moment)
    (cause : Cause) :
    s.lose m cause =
      s.obey m (verdict s.closing (some cause)) := by
  cases cause with
  | transport detail code resumable =>
      cases hClosing : s.closing <;> cases resumable <;>
        simp [lose, verdict, isRecovered, discardsSession,
          obey, kept, hClosing]
  | refused status =>
      by_cases hToken : status = 401
      · simp [lose, verdict, isRecovered, raised, obey, hToken]
      · cases hClosing : s.closing <;>
          simp [lose, verdict, isRecovered, discardsSession,
            obey, kept, hToken, hClosing]
  | _ =>
      cases hClosing : s.closing <;>
        simp [lose, verdict, isRecovered, raised, obey, kept,
          discardsSession, Cause.isLinkTrouble, hClosing]

/- The failure that counts: a broken heartbeat hides the other. -/
def cited
    (s : Session)
    (failure : Option Cause) : Option Cause :=
  match s.heartbeat with
  | .broken cause => some cause
  | _ => failure

/-
  A session without its heartbeat. The socket is closed, but
  not if the heartbeat was broken.
-/
def quieted
    (s : Session) : Session :=
  match s.heartbeat with
  | .broken _ => { s with heartbeat := .silent }
  | _ => { s with heartbeat := .silent }.closeSocket resumeCode

/- A connection that is left is judged by the failure that counts. -/
theorem leave_eq
    (s : Session)
    (m : Moment)
    (failure : Option Cause) :
    s.leave m failure =
      s.quieted.obey m
        (verdict s.closing (s.cited failure)) := by
  have hClosing :
      ({ s with heartbeat := .silent }.closeSocket
        resumeCode).closing = s.closing := by
    unfold closeSocket
    split <;> rfl
  unfold leave quieted cited
  cases hHeart : s.heartbeat with
  | broken cause => exact lose_eq _ m cause
  | _ =>
      cases failure with
      | some cause =>
          simp only [lose_eq, hClosing]
      | none => rfl

------------------------------------------------------------
-- Equations
------------------------------------------------------------

/- The order with which a status is entered, if it is another. -/
def entering
    (s : Session)
    (status : Status) : List Order :=
  if s.status = status then [] else [.status status]

/- The order with which the socket is closed, if it is open. -/
def shutting
    (s : Session)
    (code : Int) : List Order :=
  if s.socketOpen then [.closeSocket code] else []

theorem setStatus_eq
    (s : Session)
    (status : Status) :
    s.setStatus status =
      { s with
        status
        outbox := s.outbox ++ s.entering status } := by
  unfold setStatus entering
  split
  · rename_i hSame
    subst hSame
    simp
  · rfl

theorem closeSocket_eq
    (s : Session)
    (code : Int) :
    s.closeSocket code =
      { s with
        socketOpen := false
        outbox := s.outbox ++ s.shutting code } := by
  unfold closeSocket shutting
  cases hOpen : s.socketOpen with
  | true => rfl
  | false =>
      rw [if_neg Bool.false_ne_true, if_neg Bool.false_ne_true,
        List.append_nil, ← hOpen]

theorem markActive_eq
    (s : Session)
    (now : Rat) :
    s.markActive now =
      { s with
        activeSince := some now
        status := .active
        outbox := s.outbox ++ s.entering .active } :=
  setStatus_eq _ .active

theorem finish_eq
    (s : Session)
    (failure : Option Cause) :
    s.finish failure =
      { s with
        status := .disconnected
        phase := .ended failure
        activeSince := none
        socketOpen := false
        outbox :=
          s.outbox ++ s.shutting leaveCode ++
            s.entering .disconnected } := by
  unfold finish
  rw [setStatus_eq, closeSocket_eq]
  rfl

/- A session that waits keeps all but its waiting times. -/
theorem wait_eq
    (s : Session)
    (m : Moment) :
    ∃ backoff until_, s.wait m =
      { s with
        status := .reconnecting
        phase := .waiting until_
        activeSince := none
        backoff
        outbox := s.outbox ++ s.entering .reconnecting } := by
  unfold wait
  rw [setStatus_eq]
  cases hSince : s.activeSince with
  | some since =>
      simp only [accountActive]
      exact ⟨_, _, rfl⟩
  | none =>
      simp only [accountActive]
      exact ⟨_, _, rfl⟩

/- The status of an attempt; one that resumes keeps the status. -/
def readied
    (s : Session) : Session :=
  if s.canResume then s else s.setStatus .connecting

/- An attempt opens a socket, or asks for the address first. -/
theorem attempt_cases
    (s : Session) :
    (∃ url, s.attempt = s.readied.openAt s.canResume url) ∨
      s.attempt =
        { s.readied with
          phase := .fetching s.canResume }.order .fetch := by
  have hGateway (t : Session) (resuming : Bool) :
      (∃ url, t.openGateway resuming = t.openAt resuming url) ∨
        t.openGateway resuming =
          { t with phase := .fetching resuming }.order .fetch := by
    unfold openGateway
    split
    · rename_i url _
      exact Or.inl ⟨url, rfl⟩
    · exact Or.inr rfl
  unfold attempt readied
  cases hResumes : s.canResume with
  | true =>
      simp only [if_true]
      split
      · rename_i url _
        exact Or.inl ⟨url, rfl⟩
      · exact hGateway s true
  | false => exact hGateway _ false

theorem phase_attempt
    (s : Session) :
    s.attempt.phase = .opening s.canResume ∨
      s.attempt.phase = .fetching s.canResume := by
  rcases attempt_cases s with ⟨url, hOpens⟩ | hFetches
  · exact Or.inl (hOpens ▸ rfl)
  · exact Or.inr (hFetches ▸ rfl)

------------------------------------------------------------
-- What Is Kept
------------------------------------------------------------

/-
  A session goes on with the same socket and heartbeat; it
  closes and hydrates as before.
-/
structure Keeps
    (s t : Session) : Prop where
  closing : t.closing = s.closing
  hydrates : t.hydrates = s.hydrates
  socketOpen : t.socketOpen = s.socketOpen
  heartbeat : t.heartbeat = s.heartbeat

namespace Keeps

theorem refl
    (s : Session) :
    Keeps s s :=
  ⟨rfl, rfl, rfl, rfl⟩

theorem trans
    (hFirst : Keeps s t)
    (hSecond : Keeps t u) :
    Keeps s u where
  closing := hSecond.closing.trans hFirst.closing
  hydrates := hSecond.hydrates.trans hFirst.hydrates
  socketOpen := hSecond.socketOpen.trans hFirst.socketOpen
  heartbeat := hSecond.heartbeat.trans hFirst.heartbeat

end Keeps

theorem setStatus_keeps
    (s : Session)
    (status : Status) :
    Keeps s (s.setStatus status) := by
  rw [setStatus_eq]
  exact ⟨rfl, rfl, rfl, rfl⟩

theorem order_keeps
    (s : Session)
    (o : Order) :
    Keeps s (s.order o) :=
  ⟨rfl, rfl, rfl, rfl⟩

theorem markActive_keeps
    (s : Session)
    (now : Rat) :
    Keeps s (s.markActive now) := by
  rw [markActive_eq]
  exact ⟨rfl, rfl, rfl, rfl⟩

theorem kept_keeps
    (s : Session)
    (isForgotten : Bool) :
    Keeps s (s.kept isForgotten) := by
  unfold kept
  split <;> exact ⟨rfl, rfl, rfl, rfl⟩

theorem attempt_keeps
    (s : Session) :
    Keeps s s.attempt := by
  have hReadied : Keeps s s.readied := by
    unfold readied
    split
    · exact .refl s
    · exact setStatus_keeps s .connecting
  rcases attempt_cases s with ⟨url, hOpens⟩ | hFetches
  · rw [hOpens]
    exact hReadied.trans ⟨rfl, rfl, rfl, rfl⟩
  · rw [hFetches]
    exact hReadied.trans ⟨rfl, rfl, rfl, rfl⟩

/- The verdict changes neither the heartbeat nor the settings. -/
theorem obey_fields
    (s : Session)
    (m : Moment)
    (verdict : Verdict) :
    (s.obey m verdict).closing = s.closing ∧
      (s.obey m verdict).hydrates = s.hydrates ∧
        (s.obey m verdict).heartbeat = s.heartbeat := by
  cases verdict with
  | ends failure =>
      simp [obey, finish_eq]
  | retries isForgotten =>
      rcases wait_eq (s.kept isForgotten) m with
        ⟨backoff, until_, hWait⟩
      have hKept := kept_keeps s isForgotten
      simp only [obey, hWait]
      exact ⟨hKept.closing, hKept.hydrates, hKept.heartbeat⟩

/- A session whose heartbeat is whole closes its socket. -/
theorem quieted_of_whole
    (hWhole : s.hasBrokenHeart = false) :
    s.quieted =
      { s with
        heartbeat := .silent
        socketOpen := false
        outbox := s.outbox ++ s.shutting resumeCode } := by
  cases hHeart : s.heartbeat with
  | broken cause => simp [hasBrokenHeart, hHeart] at hWhole
  | _ => simp only [quieted, hHeart, closeSocket_eq, shutting]

theorem quieted_fields
    (s : Session) :
    s.quieted.closing = s.closing ∧
      s.quieted.hydrates = s.hydrates ∧
        s.quieted.heartbeat = .silent := by
  unfold quieted
  split
  · exact ⟨rfl, rfl, rfl⟩
  · rw [closeSocket_eq]
    exact ⟨rfl, rfl, rfl⟩

/- A session that leaves has no heartbeat. -/
theorem leave_fields
    (s : Session)
    (m : Moment)
    (failure : Option Cause) :
    (s.leave m failure).closing = s.closing ∧
      (s.leave m failure).hydrates = s.hydrates ∧
        (s.leave m failure).heartbeat = .silent := by
  rw [leave_eq]
  rcases obey_fields s.quieted m
      (verdict s.closing (s.cited failure)) with
    ⟨hClosing, hHydrates, hHeart⟩
  rcases quieted_fields s with
    ⟨hQuietClosing, hQuietHydrates, hSilent⟩
  exact ⟨hClosing.trans hQuietClosing,
    hHydrates.trans hQuietHydrates, hHeart.trans hSilent⟩

theorem lose_fields
    (s : Session)
    (m : Moment)
    (cause : Cause) :
    (s.lose m cause).closing = s.closing ∧
      (s.lose m cause).hydrates = s.hydrates ∧
        (s.lose m cause).heartbeat = s.heartbeat := by
  rw [lose_eq]
  exact obey_fields s m _

end Session

end GuildWarden.Gateway
