import GuildWarden.Proofs.Gateway.Reaction

/-
  This file follows what a session has somebody do while it
  waits: fetch the address of the gateway, and prepare for a
  new session. It gives such an order exactly when it enters
  the phase in which it waits, and it stays there until that
  is done; a session that has ended waits for nobody.

  Key definitions include:
    * `Gateway.Errand`
    * `Gateway.errandsIn`
    * `Gateway.Session.errand?`
    * `Gateway.Session.Sends`

  Main statements:
    * `Gateway.Session.sends_of_reaction`
    * `Gateway.Session.errands_of_outside`
    * `Gateway.Session.sends_of_errand`
    * `Gateway.Session.hasEnded_of_outside`
-/

namespace GuildWarden.Gateway

------------------------------------------------------------
-- Errands
------------------------------------------------------------

/- What a session has somebody do. -/
inductive Errand where
  | address
  | preparation
deriving DecidableEq

/- The errand that an order is about. -/
def Order.errand? : Order → Option Errand
  | .fetch => some .address
  | .hydrate _ => some .preparation
  | _ => none

/- The errands among some orders. -/
def errandsIn
    (orders : List Order) : List Errand :=
  orders.filterMap Order.errand?

@[simp] theorem errandsIn_nil :
    errandsIn [] = [] := rfl

@[simp] theorem errandsIn_cons
    (o : Order)
    (orders : List Order) :
    errandsIn (o :: orders) =
      o.errand?.toList ++ errandsIn orders := by
  cases o <;> rfl

@[simp] theorem errandsIn_append
    (before after : List Order) :
    errandsIn (before ++ after) =
      errandsIn before ++ errandsIn after :=
  List.filterMap_append

namespace Session

/- The errand that a stimulus ends. -/
def Stimulus.errand? : Stimulus → Option Errand
  | .fetched _ _ => some .address
  | .hydrated _ _ => some .preparation
  | _ => none

/- The errand that a session waits for. -/
def errand?
    (s : Session) : Option Errand :=
  match s.phase with
  | .fetching _ => some .address
  | .hydrating => some .preparation
  | _ => none

/- A session has given an order for the errand that it waits for. -/
def Sends
    (s t : Session) : Prop :=
  errandsIn t.outbox = errandsIn s.outbox ++ t.errand?.toList

variable {s t : Session}
variable {m : Moment}
variable {cause : Cause}
variable {failure : Option Cause}
variable {x : Stimulus}
variable {p : Payload}

@[simp] theorem errandsIn_entering
    (s : Session)
    (status : Status) :
    errandsIn (s.entering status) = [] := by
  unfold entering
  split <;> rfl

@[simp] theorem errandsIn_shutting
    (s : Session)
    (code : Int) :
    errandsIn (s.shutting code) = [] := by
  unfold shutting
  split <;> rfl

/- A session without an errand is sent nowhere. -/
theorem sends_of_none
    (hErrand : t.errand? = none)
    (hOutbox : errandsIn t.outbox = errandsIn s.outbox) :
    Sends s t := by
  unfold Sends
  rw [hErrand, hOutbox]
  exact (List.append_nil _).symm

------------------------------------------------------------
-- Operations
------------------------------------------------------------

theorem finish_sends
    (s : Session)
    (failure : Option Cause) :
    Sends s (s.finish failure) := by
  rw [finish_eq]
  exact sends_of_none rfl (by simp)

theorem obey_sends
    (s : Session)
    (m : Moment)
    (verdict : Verdict) :
    Sends s (s.obey m verdict) := by
  cases verdict with
  | ends failure => exact finish_sends s failure
  | retries isForgotten =>
      rcases wait_eq (s.kept isForgotten) m with
        ⟨backoff, until_, hWait⟩
      have hKept : (s.kept isForgotten).outbox = s.outbox := by
        unfold kept
        split <;> rfl
      simp only [obey, hWait]
      exact sends_of_none rfl (by simp [hKept])

theorem errandsIn_quieted
    (s : Session) :
    errandsIn s.quieted.outbox = errandsIn s.outbox := by
  unfold quieted
  split
  · rfl
  · simp [closeSocket_eq]

theorem leave_sends
    (s : Session)
    (m : Moment)
    (failure : Option Cause) :
    Sends s (s.leave m failure) := by
  rw [leave_eq]
  unfold Sends
  rw [← errandsIn_quieted s]
  exact obey_sends s.quieted m _

theorem attempt_sends
    (s : Session) :
    Sends s s.attempt := by
  have hReadied :
      errandsIn s.readied.outbox = errandsIn s.outbox := by
    unfold readied
    split
    · rfl
    · simp [setStatus_eq]
  rcases attempt_cases s with ⟨url, hOpens⟩ | hFetches
  · rw [hOpens]
    refine sends_of_none rfl ?_
    simp [openAt, order, hReadied, Order.errand?]
  · rw [hFetches]
    simp [Sends, order, hReadied, errand?, Order.errand?]

theorem connect_sends
    (s : Session) :
    Sends s s.connect := by
  have hAttempt :=
    attempt_sends
      ({ s with closing := false }.setStatus .connecting)
  unfold Sends at hAttempt
  rw [setStatus_eq] at hAttempt
  simpa [Sends, connect, setStatus_eq] using hAttempt

------------------------------------------------------------
-- Reactions
------------------------------------------------------------

theorem counted_errands
    (s : Session)
    (p : Payload) :
    errandsIn (s.counted p).outbox = errandsIn s.outbox := by
  rw [(counted_fields s p).2.2]

/- A frame is an errand only if it starts a new session. -/
theorem Handling.sends
    {r : Handled}
    (hHandling : Handling s m p r)
    (hPhase : s.phase = .listening) :
    Sends s r.1 := by
  have hCounted := counted_errands s p
  have hStays {u : Session}
      (hThere : u.phase = s.phase)
      (hOutbox : errandsIn u.outbox = errandsIn s.outbox) :
      Sends s u :=
    sends_of_none (by simp [errand?, hThere, hPhase]) hOutbox
  have hListening := (counted_fields s p).2.1
  cases hHandling with
  | answered _ hBeat =>
      rw [eq_order_of_beat hBeat]
      exact hStays rfl (by simp [order, Order.errand?])
  | dismissed =>
      unfold kept
      split <;> exact hStays rfl rfl
  | unread => exact hStays hListening hCounted
  | counted => exact hStays hListening hCounted
  | unusable => exact hStays hListening hCounted
  | started =>
      simp [Sends, begun, setStatus_eq, order, errand?,
        Order.errand?, hCounted]
  | startedBare =>
      refine hStays ?_ ?_
      · simp [begun, setStatus_eq, order, markActive_eq,
          hListening]
      · simp [begun, setStatus_eq, order, markActive_eq,
          Order.errand?, hCounted]
  | resumed =>
      refine hStays ?_ ?_
      · simp [setStatus_eq, order, markActive_eq, hListening]
      · simp [setStatus_eq, order, markActive_eq,
          Order.errand?, hCounted]
  | queued =>
      exact hStays hListening
        (by simp [order, Order.errand?, hCounted])
  | _ => exact hStays rfl rfl

/- A frame that fails is none. -/
theorem Handling.errands_of_failure
    (hHandling : Handling s m p (t, some cause)) :
    errandsIn t.outbox = errandsIn s.outbox := by
  cases hHandling with
  | unanswered => rfl
  | dismissed =>
      unfold kept
      split <;> rfl
  | incomparable => rfl
  | unread => exact counted_errands s p
  | unusable => exact counted_errands s p

/- Before a session goes on, it has sent nobody. -/
theorem GoesOn.errands
    (hGoes : GoesOn s x m t) :
    s.errand? = x.errand? ∧
      errandsIn t.outbox = errandsIn s.outbox := by
  cases hGoes with
  | greeted hPhase _ _ hSent =>
      rw [eq_order_of_send hSent]
      exact ⟨by simp [errand?, Stimulus.errand?, hPhase],
        by simp [order, startHeartbeat, Order.errand?]⟩
  | heard hPhase hHandling hRests =>
      refine ⟨by simp [errand?, Stimulus.errand?, hPhase], ?_⟩
      have hSends : Sends s t := hHandling.sends hPhase
      have hNone : t.errand? = none := by
        rcases hHandling.phase with hSame | hHydrating
        · have hListening : t.phase = .listening :=
            hSame.trans hPhase
          simp [errand?, hListening]
        · exact (hRests hHydrating).elim
      simpa [Sends, hNone] using hSends
  | unheard hPhase =>
      exact ⟨by simp [errand?, Stimulus.errand?, hPhase], rfl⟩
  | hydrated hPhase =>
      exact ⟨by simp [errand?, Stimulus.errand?, hPhase],
        by simp [markActive_eq]⟩

theorem errand?_of_isReceiving
    (hReceiving : s.isReceiving = true) :
    s.errand? = none := by
  cases hPhase : s.phase <;>
    simp [isReceiving, errand?, hPhase] at hReceiving ⊢

theorem errand?_of_isGreeting
    (hGreeting : s.isGreeting = true) :
    s.errand? = none := by
  cases hPhase : s.phase <;>
    simp [isGreeting, errand?, hPhase] at hGreeting ⊢

/- Nor has one that leaves. -/
theorem Leaves.errands
    (hLeaves : Leaves s x m t failure) :
    s.errand? = x.errand? ∧
      errandsIn t.outbox = errandsIn s.outbox := by
  cases hLeaves with
  | refused hReceiving =>
      exact ⟨errand?_of_isReceiving hReceiving, rfl⟩
  | ungreeted hGreeting =>
      exact ⟨errand?_of_isGreeting hGreeting, rfl⟩
  | unpresented hGreeting =>
      exact ⟨errand?_of_isGreeting hGreeting, rfl⟩
  | failed hPhase hHandling =>
      exact ⟨by simp [errand?, Stimulus.errand?, hPhase],
        hHandling.errands_of_failure⟩
  | unhydrated hPhase =>
      exact ⟨by simp [errand?, Stimulus.errand?, hPhase], rfl⟩
  | timedOut hGreeting =>
      exact ⟨errand?_of_isGreeting hGreeting, rfl⟩
  | stopped hGoes => exact hGoes.errands

/-
  A session that a stimulus does not pass by was waiting for
  just that, and has sent somebody if it waits again.
-/
theorem sends_of_reaction
    (hReaction : Reaction s x t)
    (hTurn : x = .connect → s.errand? = none) :
    Aside s x t ∨ (s.errand? = x.errand? ∧ Sends s t) := by
  cases hReaction with
  | aside hAside => exact Or.inl hAside
  | connected => exact Or.inr ⟨hTurn rfl, connect_sends s⟩
  | ceased hPhase =>
      refine Or.inr
        ⟨by simp [errand?, Stimulus.errand?, hPhase], ?_⟩
      have hFinish :=
        finish_sends
          ({ s with closing := true }.closeSocket leaveCode) none
      unfold Sends at hFinish ⊢
      rw [closeSocket_eq] at hFinish ⊢
      simpa using hFinish
  | fetched hPhase =>
      refine Or.inr
        ⟨by simp [errand?, Stimulus.errand?, hPhase],
          sends_of_none rfl ?_⟩
      simp [openAt, order, Order.errand?]
  | opened hPhase =>
      exact Or.inr
        ⟨by simp [errand?, Stimulus.errand?, hPhase],
          sends_of_none rfl rfl⟩
  | retried hPhase =>
      exact Or.inr
        ⟨by simp [errand?, Stimulus.errand?, hPhase],
          attempt_sends s⟩
  | hydrates hPhase hHandling =>
      exact Or.inr
        ⟨by simp [errand?, Stimulus.errand?, hPhase],
          hHandling.sends hPhase⟩
  | listens hGoes =>
      exact Or.inr
        ⟨hGoes.errands.1, sends_of_none rfl hGoes.errands.2⟩
  | leaves hLeaves =>
      rename_i m u failure
      refine Or.inr ⟨hLeaves.errands.1, ?_⟩
      have hLeave := leave_sends u m failure
      unfold Sends at hLeave ⊢
      rw [hLeave, hLeaves.errands.2]
  | loses hLoses =>
      rename_i m cause
      have hErrand : s.errand? = x.errand? := by
        cases hLoses with
        | unfetched hPhase =>
            simp [errand?, Stimulus.errand?, hPhase]
        | unopened hPhase =>
            simp [errand?, Stimulus.errand?, hPhase]
      rw [lose_eq]
      exact Or.inr ⟨hErrand, obey_sends s m _⟩

/- Who was sent comes back to a session that waits for that. -/
theorem awaits_of_errand
    {e : Errand}
    (hErrand : x.errand? = some e)
    (hWaits : s.errand? = some e) :
    s.awaits x = true := by
  have hSame : s.errand? = x.errand? := hWaits.trans hErrand.symm
  cases x with
  | fetched m result =>
      cases hPhase : s.phase <;>
        simp [awaits, isFetching, errand?, Stimulus.errand?,
          hPhase] at hSame ⊢
  | hydrated m result =>
      cases hPhase : s.phase <;>
        simp [awaits, errand?, Stimulus.errand?, hPhase]
          at hSame ⊢
  | _ => cases hErrand

theorem not_aside_of_errand
    {e : Errand}
    (hErrand : x.errand? = some e)
    (hWaits : s.errand? = some e) :
    ¬ Aside s x t := by
  intro hAside
  cases hAside with
  | unmoved hUnawaited =>
      rw [awaits_of_errand hErrand hWaits] at hUnawaited
      cases hUnawaited
  | closed => cases hErrand
  | lost => cases hErrand
  | beaten => cases hErrand

theorem Aside.errands
    (hAside : Aside s x t) :
    t.errand? = s.errand? ∧
      errandsIn t.outbox = errandsIn s.outbox := by
  refine ⟨by simp [errand?, hAside.fields.1], ?_⟩
  cases hAside with
  | unmoved => rfl
  | closed => simp [closeSocket_eq]
  | lost => rfl
  | beaten _ hPulses =>
      cases hPulses with
      | sent => simp [Order.errand?]
      | unsent => rfl
      | died => simp

------------------------------------------------------------
-- Waiting
------------------------------------------------------------

/-
  What comes from outside does not end the wait for somebody,
  and it sends somebody only if nobody is waited for.
-/
theorem errands_of_outside
    (s : Session)
    (hOutside : x.errand? = none)
    (hTurn : x ≠ .connect) :
    ((s.react x).errand? = s.errand? ∧
      errandsIn (s.react x).outbox = errandsIn s.outbox) ∨
    (s.errand? = none ∧ Sends s (s.react x)) := by
  have hReaction := reaction_react s x
  rcases sends_of_reaction hReaction fun hConnect =>
      (hTurn hConnect).elim with
    hAside | ⟨hWaits, hSends⟩
  · exact Or.inl hAside.errands
  · exact Or.inr ⟨hWaits.trans hOutside, hSends⟩

/- Who comes back ends the wait, and may be sent again. -/
theorem sends_of_errand
    {e : Errand}
    (hErrand : x.errand? = some e)
    (hWaits : s.errand? = some e) :
    Sends s (s.react x) := by
  have hTurn : x ≠ .connect := by
    rintro rfl
    cases hErrand
  rcases sends_of_reaction (reaction_react s x) fun hConnect =>
      (hTurn hConnect).elim with
    hAside | ⟨_, hSends⟩
  · exact (not_aside_of_errand hErrand hWaits hAside).elim
  · exact hSends

/- A session that has ended waits for nobody. -/
theorem errand?_of_hasEnded
    (hEnded : s.hasEnded = true) :
    s.errand? = none := by
  cases hPhase : s.phase <;>
    simp [hasEnded, errand?, hPhase] at hEnded ⊢

/- And it stays so, whatever comes from outside. -/
theorem hasEnded_of_outside
    (hTurn : x ≠ .connect)
    (hEnded : s.hasEnded = true) :
    (s.react x).hasEnded = true := by
  have hAside :=
    aside_of_ended (reaction_react s x) hTurn hEnded
  unfold hasEnded
  rw [hAside.fields.1]
  exact hEnded

end Session

end GuildWarden.Gateway
