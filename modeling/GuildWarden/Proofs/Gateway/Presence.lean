import GuildWarden.Proofs.Gateway.Account
import GuildWarden.Proofs.Gateway.Reading

/-
  This file relates a session to its account: what the account
  sees of its orders, what the session keeps when it goes on or
  leaves a connection, and that it knows what the account
  knows.

  Key definitions include:
    * `Gateway.Session.Goes`
    * `Gateway.Session.Calms`
    * `Gateway.Matches`
    * `Gateway.Stage`
    * `Gateway.Invariant`

  Main statements:
    * `Gateway.Session.leave_calms`
    * `Gateway.Matches.presentation`
    * `Gateway.Invariant.of_calms`
-/

namespace GuildWarden.Gateway

open Session

variable {s t u : Session}
variable {m : Moment}
variable {cause : Cause}

------------------------------------------------------------
-- Visible Orders
------------------------------------------------------------

/- Whether an order belongs into the account. -/
def Order.isSeen : Order → Bool
  | .fetch => true
  | .openSocket _ => true
  | .send _ => true
  | _ => false

namespace Session

/- A session goes on with some more orders of the account. -/
def Shows
    (seen : List Order)
    (s t : Session) : Prop :=
  ∃ orders, t.outbox = s.outbox ++ orders ∧
    orders.filter Order.isSeen = seen

namespace Shows

variable {seen more : List Order}

theorem of_outbox
    (hOutbox : t.outbox = s.outbox) :
    Shows [] s t :=
  ⟨[], by rw [hOutbox, List.append_nil], rfl⟩

theorem trans
    (hFirst : Shows seen s t)
    (hSecond : Shows more t u) :
    Shows (seen ++ more) s u := by
  rcases hFirst with ⟨before, hBefore, rfl⟩
  rcases hSecond with ⟨after, hAfter, rfl⟩
  refine ⟨before ++ after, ?_, List.filter_append ..⟩
  rw [hAfter, hBefore, List.append_assoc]

theorem order
    (s : Session)
    (o : Order) :
    Shows ([o].filter Order.isSeen) s (s.order o) :=
  ⟨[o], rfl, rfl⟩

/- Only the orders of the account are accounted for. -/
theorem observeAll
    {isFetching : Bool}
    {a : Account}
    (hShows : Shows seen s t) :
    a.observeAll isFetching s t =
      seen.foldl (Account.observe isFetching) a := by
  rcases hShows with ⟨orders, hOutbox, rfl⟩
  unfold Account.observeAll
  rw [hOutbox, List.drop_left]
  clear hOutbox
  induction orders generalizing a with
  | nil => rfl
  | cons o orders hInduction =>
      cases o <;> exact hInduction

end Shows

------------------------------------------------------------
-- What Is Kept
------------------------------------------------------------

/- What a session presents, and where, is the same. -/
structure Same
    (s t : Session) : Prop where
  token : t.token = s.token
  intents : t.intents = s.intents
  sessionId : t.sessionId = s.sessionId
  sequence : t.sequence = s.sequence
  resumeUrl : t.resumeUrl = s.resumeUrl
  gatewayUrl : t.gatewayUrl = s.gatewayUrl
  sound : s.IsSound → t.IsSound

namespace Same

theorem refl
    (s : Session) :
    Same s s :=
  ⟨rfl, rfl, rfl, rfl, rfl, rfl, id⟩

theorem trans
    (hFirst : Same s t)
    (hSecond : Same t u) :
    Same s u where
  token := hSecond.token.trans hFirst.token
  intents := hSecond.intents.trans hFirst.intents
  sessionId := hSecond.sessionId.trans hFirst.sessionId
  sequence := hSecond.sequence.trans hFirst.sequence
  resumeUrl := hSecond.resumeUrl.trans hFirst.resumeUrl
  gatewayUrl := hSecond.gatewayUrl.trans hFirst.gatewayUrl
  sound := hSecond.sound ∘ hFirst.sound

/- Forgetting the same is the same. -/
theorem invalidate
    (hSame : Same s t) :
    Same s.invalidate t.invalidate where
  token := hSame.token
  intents := hSame.intents
  sessionId := rfl
  sequence := rfl
  resumeUrl := rfl
  gatewayUrl := hSame.gatewayUrl
  sound := hSame.sound

end Same

/- A session goes on as the same, with some visible orders. -/
structure Goes
    (seen : List Order)
    (s t : Session) : Prop where
  shows : Shows seen s t
  same : Same s t

namespace Goes

variable {seen more : List Order}

theorem refl
    (s : Session) :
    Goes [] s s :=
  ⟨.of_outbox rfl, .refl s⟩

theorem trans
    (hFirst : Goes seen s t)
    (hSecond : Goes more t u) :
    Goes (seen ++ more) s u :=
  ⟨hFirst.shows.trans hSecond.shows,
    hFirst.same.trans hSecond.same⟩

theorem quietly
    (hFirst : Goes seen s t)
    (hSecond : Goes [] t u) :
    Goes seen s u := by
  simpa using hFirst.trans hSecond

end Goes

/- Another order is given. -/
theorem order_goes
    (s : Session)
    (o : Order) :
    Goes ([o].filter Order.isSeen) s (s.order o) :=
  ⟨.order s o, ⟨rfl, rfl, rfl, rfl, rfl, rfl, id⟩⟩

theorem setStatus_goes
    (s : Session)
    (status : Status) :
    Goes [] s (s.setStatus status) := by
  unfold setStatus
  split
  · exact .refl s
  · exact ⟨⟨[.status status], rfl, rfl⟩,
      ⟨rfl, rfl, rfl, rfl, rfl, rfl, id⟩⟩

theorem closeSocket_goes
    (s : Session)
    (code : Int) :
    Goes [] s (s.closeSocket code) := by
  unfold closeSocket
  split
  · exact ⟨⟨[.closeSocket code], rfl, rfl⟩,
      ⟨rfl, rfl, rfl, rfl, rfl, rfl, id⟩⟩
  · exact .refl s

@[simp] theorem closeSocket_phase
    (s : Session)
    (code : Int) :
    (s.closeSocket code).phase = s.phase := by
  unfold closeSocket
  split <;> rfl

theorem markActive_goes
    (s : Session)
    (now : Rat) :
    Goes [] s (s.markActive now) := by
  have hSince : Goes [] s { s with activeSince := some now } :=
    ⟨.of_outbox rfl, ⟨rfl, rfl, rfl, rfl, rfl, rfl, id⟩⟩
  exact hSince.quietly (setStatus_goes _ .active)

theorem accountActive_goes
    (s : Session)
    (now : Rat) :
    Goes [] s (s.accountActive now) := by
  unfold accountActive
  split
  · exact ⟨.of_outbox rfl,
      ⟨rfl, rfl, rfl, rfl, rfl, rfl, id⟩⟩
  · exact .refl s

theorem wait_goes
    (s : Session)
    (m : Moment) :
    Goes [] s (s.wait m) := by
  unfold wait
  apply Goes.quietly
    ((setStatus_goes s _).quietly (accountActive_goes _ m.now))
  exact ⟨.of_outbox rfl, ⟨rfl, rfl, rfl, rfl, rfl, rfl, id⟩⟩

theorem finish_shows
    (s : Session)
    (failure : Option Cause) :
    Shows [] s (s.finish failure) := by
  have hEnd :
      Shows [] (s.closeSocket leaveCode)
        { (s.closeSocket leaveCode) with
          activeSince := none
          phase := .ended failure } :=
    .of_outbox rfl
  exact ((closeSocket_goes s leaveCode).shows.trans hEnd).trans
    (setStatus_goes _ .disconnected).shows

theorem finish_hasEnded
    (s : Session)
    (failure : Option Cause) :
    (s.finish failure).hasEnded = true := by
  simp [finish, hasEnded]

------------------------------------------------------------
-- Leaving a Connection
------------------------------------------------------------

/- Whether a session has no attempt under way. -/
def isCalm
    (s : Session) : Bool :=
  match s.phase with
  | .fetching _ => false
  | .opening _ => false
  | .greeting _ _ => false
  | _ => true

/-
  A session ends, or goes on without an attempt under way and
  has forgotten what it could resume or kept it.
-/
structure Calms
    (forgets : Bool)
    (s t : Session) : Prop where
  shows : Shows [] s t
  state :
    t.hasEnded = true ∨
      t.isCalm = true ∧
        Same (if forgets then s.invalidate else s) t

variable {forgets : Bool}

theorem Goes.calms
    (hFirst : Goes [] s t)
    (hSecond : Calms forgets t u) :
    Calms forgets s u where
  shows := hFirst.shows.trans hSecond.shows
  state := by
    rcases hSecond.state with hEnded | ⟨hCalm, hSame⟩
    · exact Or.inl hEnded
    · refine Or.inr ⟨hCalm, ?_⟩
      cases forgets with
      | true => exact hFirst.same.invalidate.trans hSame
      | false => exact hFirst.same.trans hSame

theorem finish_calms
    (s : Session)
    (failure : Option Cause) :
    Calms forgets s (s.finish failure) :=
  ⟨finish_shows s failure, Or.inl (finish_hasEnded s failure)⟩

theorem wait_calms
    (s : Session)
    (m : Moment) :
    Calms false s (s.wait m) :=
  ⟨(wait_goes s m).shows, Or.inr ⟨rfl, (wait_goes s m).same⟩⟩

theorem invalidate_wait_calms
    (s : Session)
    (m : Moment) :
    Calms true s (s.invalidate.wait m) where
  shows := (wait_goes s.invalidate m).shows
  state := Or.inr ⟨rfl, (wait_goes s.invalidate m).same⟩

/- A connection that is lost is forgotten if its cause says so. -/
theorem lose_calms
    (s : Session)
    (m : Moment)
    (cause : Cause) :
    Calms (discardsSession cause) s (s.lose m cause) := by
  unfold lose
  split
  · rename_i resumable
    split
    · exact finish_calms _ _
    · cases resumable with
      | true => exact wait_calms s m
      | false => exact invalidate_wait_calms s m
  · split
    · exact finish_calms _ _
    · split
      · exact finish_calms _ _
      · exact wait_calms s m
  · rename_i hOther _
    rw [discardsSession_of_other hOther]
    split
    · exact finish_calms _ _
    · split
      · exact finish_calms _ _
      · exact wait_calms s m

/- The failure of a broken heartbeat hides the one at hand. -/
theorem leave_calms
    (m : Moment)
    (failure : Option Cause)
    (hSound : s.IsSound) :
    Calms
      (failure.any discardsSession && !s.hasBrokenHeart)
      s (s.leave m failure) := by
  have hSilent : Goes [] s { s with heartbeat := .silent } :=
    ⟨.of_outbox rfl,
      ⟨rfl, rfl, rfl, rfl, rfl, rfl, fun _ _ hBroken => by
        cases hBroken⟩⟩
  unfold leave
  split
  · rename_i cause hBroken
    have hLost := lose_calms { s with heartbeat := .silent } m
      cause
    rw [hSound cause hBroken] at hLost
    simpa [hasBrokenHeart, hBroken] using hSilent.calms hLost
  · rename_i hWhole
    have hHeart := hasBrokenHeart_eq_false hWhole
    have hClosed :=
      hSilent.quietly (closeSocket_goes _ resumeCode)
    rw [hHeart]
    cases failure with
    | some cause =>
        simpa using hClosed.calms (lose_calms _ m cause)
    | none => exact hClosed.calms (finish_calms _ none)

/- A session leaves without being forgotten. -/
theorem leave_calms_kept
    (m : Moment)
    (failure : Option Cause)
    (hSound : s.IsSound)
    (hKept :
      ∀ cause, failure = some cause →
        discardsSession cause = false) :
    Calms false s (s.leave m failure) := by
  have hAny : failure.any discardsSession = false := by
    cases failure with
    | none => rfl
    | some cause => exact hKept cause rfl
  simpa [hAny] using leave_calms m failure hSound

/- A session goes on listening, or leaves because it closes. -/
theorem goOn_calms
    (m : Moment)
    (hSound : s.IsSound) :
    Calms false s (s.goOn m) := by
  unfold goOn
  split
  · exact leave_calms_kept m none hSound (by simp)
  · exact ⟨.of_outbox rfl, Or.inr
      ⟨rfl, rfl, rfl, rfl, rfl, rfl, rfl, id⟩⟩

end Session

------------------------------------------------------------
-- Matching
------------------------------------------------------------

variable {token : String}
variable {intents : Int}
variable {a : Account}

/- A session keeps what the account knows. -/
structure Matches
    (token : String)
    (intents : Int)
    (s : Session)
    (a : Account) : Prop where
  token : s.token = token
  intents : s.intents = intents
  sessionId : s.sessionId = a.recalled.sessionId
  sequence : s.sequence = a.recalled.sequence.map .int
  resumeUrl : s.resumeUrl = a.recalled.resumeUrl
  gateway : s.gatewayUrl = a.gateway
  sound : s.IsSound

namespace Matches

theorem of_same
    (hMatches : Matches token intents s a)
    (hSame : Same s t) :
    Matches token intents t a where
  token := hSame.token.trans hMatches.token
  intents := hSame.intents.trans hMatches.intents
  sessionId := hSame.sessionId.trans hMatches.sessionId
  sequence := hSame.sequence.trans hMatches.sequence
  resumeUrl := hSame.resumeUrl.trans hMatches.resumeUrl
  gateway := hSame.gatewayUrl.trans hMatches.gateway
  sound := hSame.sound hMatches.sound

/- Both forget. -/
theorem invalidate
    (hMatches : Matches token intents s a) :
    Matches token intents s.invalidate
      { a with recalled := .nothing } where
  token := hMatches.token
  intents := hMatches.intents
  sessionId := rfl
  sequence := rfl
  resumeUrl := rfl
  gateway := hMatches.gateway
  sound := hMatches.sound

theorem canResume
    (hMatches : Matches token intents s a) :
    s.canResume = a.recalled.canResume := by
  rw [Session.canResume, Recall.canResume, hMatches.sessionId,
    hMatches.sequence, Option.isSome_map]

/- The frame that is sent is the one that the account expects. -/
theorem presentation
    (hMatches : Matches token intents s a) :
    (if a.recalled.canResume then s.resumeFrame
      else s.identifyFrame) =
        a.recalled.presentation token intents := by
  unfold Recall.presentation
  cases hId : a.recalled.sessionId with
  | none =>
      simp [Recall.canResume, hId, identifyFrame,
        hMatches.token, hMatches.intents]
  | some id =>
      cases hNumber : a.recalled.sequence with
      | none =>
          simp [Recall.canResume, hId, hNumber, identifyFrame,
            hMatches.token, hMatches.intents]
      | some n =>
          simp [Recall.canResume, hId, hNumber, resumeFrame,
            idPayload, hMatches.token, hMatches.sessionId,
            hMatches.sequence]

theorem heartbeatFrame
    (hMatches : Matches token intents s a) :
    s.heartbeatFrame = frameOf .heartbeat a.recalled.number := by
  unfold Session.heartbeatFrame Recall.number
  rw [hMatches.sequence]
  cases a.recalled.sequence <;> rfl

end Matches

/- A frame that is sent is of its own kind, and of no other. -/
theorem isKind_frameOf
    (op other : Opcode)
    (data : Payload) :
    isKind (frameOf op data) other = decide (op = other) := by
  have hSame :
      isKind (frameOf op data) op = true := by
    simp [isKind, frameOf, Payload.field, Payload.field?,
      Payload.fields, Payload.same_int, Payload.magnitude?,
      Payload.sameMagnitude]
  by_cases hKind : op = other
  · subst hKind
    simpa using hSame
  · rw [decide_eq_false hKind, Bool.eq_false_iff]
    intro hOther
    exact hKind (isKind_unique hSame hOther)

theorem isKind_presentation
    (k : Recall) :
    isKind (k.presentation token intents) .heartbeat =
      false := by
  unfold Recall.presentation
  split
  · rw [isKind_frameOf]
    rfl
  · rw [isKind_frameOf]
    rfl

------------------------------------------------------------
-- Stages of an Attempt
------------------------------------------------------------

/-
  The latest attempt of an account, while its session is on
  the way to a first frame.
-/
def Stage
    (s : Session)
    (a : Account) : Prop :=
  match s.phase with
  | .fetching resuming =>
    resuming = a.recalled.canResume ∧
      a.recalled.address none = none ∧ a.gateway = none ∧
        ∃ older,
          a.attempts = ⟨a.recalled, none, false, []⟩ :: older
  | .opening resuming =>
    resuming = a.recalled.canResume ∧
      ∃ url older,
        a.attempts = ⟨a.recalled, some url, false, []⟩ :: older
  | .greeting resuming _ =>
    resuming = a.recalled.canResume ∧
      ∃ url older,
        a.attempts = ⟨a.recalled, some url, false, []⟩ :: older
  | _ => True

theorem stage_of_isCalm
    (hCalm : s.isCalm = true) :
    Stage s a := by
  unfold Stage
  unfold isCalm at hCalm
  split
  · rename_i hPhase
    simp [hPhase] at hCalm
  · rename_i hPhase
    simp [hPhase] at hCalm
  · rename_i hPhase
    simp [hPhase] at hCalm
  · trivial

/- What holds of a session and its account until it has ended. -/
structure Invariant
    (token : String)
    (intents : Int)
    (s : Session)
    (a : Account) : Prop where
  right : a.IsRight token intents
  state :
    s.hasEnded = true ∨
      Matches token intents s a ∧ Stage s a

namespace Invariant

variable {forgets : Bool}

/- A session leaves as the account expects. -/
theorem of_calms
    (hRight : a.IsRight token intents)
    (hMatches : Matches token intents s a)
    (hCalms : Calms forgets s t) :
    Invariant token intents t
      { a with
        recalled := if forgets then .nothing else a.recalled } := by
  refine ⟨⟨hRight.attempts, hRight.beats⟩, ?_⟩
  rcases hCalms.state with hEnded | ⟨hCalm, hSame⟩
  · exact Or.inl hEnded
  · refine Or.inr ⟨?_, stage_of_isCalm hCalm⟩
    cases forgets with
    | true => exact hMatches.invalidate.of_same hSame
    | false => exact hMatches.of_same hSame

/- A session leaves and keeps what it could resume. -/
theorem of_calms_kept
    (hRight : a.IsRight token intents)
    (hMatches : Matches token intents s a)
    (hCalms : Calms false s t) :
    Invariant token intents t a :=
  of_calms hRight hMatches hCalms

/- A session is where it was, and does nothing. -/
theorem of_goes
    (hRight : a.IsRight token intents)
    (hMatches : Matches token intents s a)
    (hStage : Stage s a)
    (hGoes : Goes [] s t)
    (hPhase : t.phase = s.phase) :
    Invariant token intents t a := by
  refine ⟨hRight, Or.inr ⟨hMatches.of_same hGoes.same, ?_⟩⟩
  unfold Stage at hStage ⊢
  rw [hPhase]
  exact hStage

end Invariant

end GuildWarden.Gateway
