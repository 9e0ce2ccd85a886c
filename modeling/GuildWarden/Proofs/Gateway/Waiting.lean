import GuildWarden.Proofs.Gateway.Passage
import Mathlib.Algebra.Order.Field.Rat
import Mathlib.Tactic.Linarith
import Mathlib.Tactic.NormNum

/-
  This file shows how long a session waits before it connects
  again. From what happened to it, and not from its own books,
  one can tell when it began to wait, how long the connection
  that it lost had been active, and how many connections were
  lost since the waiting times last started again. This number
  alone bounds the next wait.

  Key definitions include:
    * `Gateway.Session.completion?`
    * `Gateway.Session.activity`
    * `Gateway.Retry`
    * `Gateway.Session.retries`
    * `Gateway.Terms`
    * `Gateway.Terms.failures`
    * `Gateway.Terms.Governs`

  Main statements:
    * `Gateway.Session.paces_of_reaction`
    * `Gateway.Session.keepsBooks_course`
    * `Gateway.Session.governs_retries`
-/

namespace GuildWarden.Gateway

open Number

------------------------------------------------------------
-- Waiting Times
------------------------------------------------------------

theorem greater_eq_max
    (a b : Rat) :
    greater a b = max a b := by
  unfold greater
  rw [max_def]

theorem lesser_eq_min
    (a b : Rat) :
    lesser a b = min a b := by
  unfold lesser
  rw [min_def]

/-
  A wait between two connections: when it began, where its draw
  fell, for how long the connection that was lost had been
  active, if it was, and how long the wait is.
-/
structure Retry where
  now : Rat
  position : Rat
  active? : Option Rat
  delay : Rat
deriving DecidableEq, Repr

/- The terms of waiting, and the moment from which they hold. -/
structure Terms where
  floor : Rat
  ceiling : Rat
  resetAfter : Rat
  created : Rat

namespace Terms

/- No wait is shorter. -/
def least
    (c : Terms) : Rat :=
  max 0 c.floor

/- No wait is longer. -/
def most
    (c : Terms) : Rat :=
  max c.least c.ceiling

/- What is doubled with every failure; it is never zero. -/
def unit
    (c : Terms) : Rat :=
  max c.least (1 / 100)

/- The waiting times with these terms, at their start. -/
def backoff
    (c : Terms) : Backoff :=
  .ofBounds c.floor c.ceiling c.resetAfter c.created

/-
  The wait after so many failures, for a draw that falls there.
  The doubling ends with the tenth failure.
-/
def delay
    (c : Terms)
    (failures : Nat)
    (position : Rat) : Rat :=
  min c.most
    (max c.least (position * c.unit * 2 ^ min failures 10))

/- When the last wait began, or else the terms began to hold. -/
def latest
    (c : Terms) : List Retry → Rat
  | [] => c.created
  | r :: _ => r.now

/-
  Whether the failures are counted anew from a wait on: the
  connection that was lost had been active for long enough, or
  the wait before it began too long ago.
-/
def restarts
    (c : Terms)
    (r : Retry)
    (older : List Retry) : Bool :=
  r.active?.any (c.resetAfter ≤ ·) ||
    2048 * c.unit < r.now - c.latest older

/- The failures since they were last counted anew; last first. -/
def failures
    (c : Terms) : List Retry → Nat
  | [] => 0
  | r :: older =>
    if c.restarts r older then 1 else c.failures older + 1

/- The waits that were made, last first, are as the terms say. -/
structure Governs
    (c : Terms)
    (made : List Retry) : Prop where
  delay :
    ∀ r older, (r :: older) <:+ made →
      r.delay =
        min c.most
          (max c.least
            (r.position * c.unit *
              2 ^ min (c.failures (r :: older)) 10))
  within :
    ∀ r ∈ made, c.least ≤ r.delay ∧ r.delay ≤ c.most
  bounded :
    ∀ r older, (r :: older) <:+ made → r.position ≤ 1 →
      r.delay ≤ c.delay (c.failures (r :: older)) 1
  widens :
    ∀ r older, (r :: older) <:+ made →
      c.restarts r older = false →
        c.delay (c.failures older) 1 ≤
          c.delay (c.failures (r :: older)) 1

variable {c : Terms}
variable {made : List Retry}

theorem least_le_most
    (c : Terms) :
    c.least ≤ c.most :=
  le_max_left _ _

theorem unit_pos
    (c : Terms) :
    0 < c.unit :=
  lt_of_lt_of_le (by norm_num) (le_max_right _ _)

theorem base_backoff
    (c : Terms) :
    c.backoff.base = c.unit := by
  simp only [backoff, Backoff.base, Backoff.ofBounds,
    greater_eq_max, unit, least]

/- Every wait is between the two bounds. -/
theorem delay_within
    (c : Terms)
    (failures : Nat)
    (position : Rat) :
    c.least ≤ c.delay failures position ∧
      c.delay failures position ≤ c.most :=
  ⟨le_min c.least_le_most (le_max_left _ _), min_le_left _ _⟩

/- More failures and a later draw make no shorter wait. -/
theorem delay_mono
    {m n : Nat}
    {v w : Rat}
    (hFailures : m ≤ n)
    (hPosition : v ≤ w)
    (hWeight : 0 ≤ w) :
    c.delay m v ≤ c.delay n w := by
  have hPower :
      (2 : Rat) ^ min m 10 ≤ 2 ^ min n 10 :=
    pow_le_pow_right₀ (by norm_num)
      (min_le_min_right 10 hFailures)
  have hUnit := c.unit_pos.le
  have hScaled : v * c.unit ≤ w * c.unit :=
    mul_le_mul_of_nonneg_right hPosition hUnit
  have hDrawn :
      v * c.unit * 2 ^ min m 10 ≤
        w * c.unit * 2 ^ min n 10 :=
    (mul_le_mul_of_nonneg_right hScaled (by positivity)).trans
      (mul_le_mul_of_nonneg_left hPower
        (mul_nonneg hWeight hUnit))
  exact min_le_min_left _ (max_le_max_left _ hDrawn)

/-
  The books of the waiting times are right: the exponent counts
  the failures, up to the limit, and the last draw was made
  when the last wait began.
-/
def booked
    (c : Terms)
    (made : List Retry) : Backoff :=
  { c.backoff with
    exponent := min (c.failures made) 10
    lastDraw := c.latest made }

/- The books after a lost connection is accounted for. -/
def accounted
    (c : Terms)
    (r : Retry)
    (made : List Retry) : Backoff :=
  match r.active? with
  | some seconds => (c.booked made).noteActive r.now seconds
  | none => c.booked made

@[simp] theorem base_booked
    (c : Terms)
    (made : List Retry) :
    (c.booked made).base = c.unit :=
  c.base_backoff

/- An account changes no bound. -/
theorem accounted_eq
    (c : Terms)
    (r : Retry)
    (made : List Retry) :
    ∃ exponent lastDraw,
      c.accounted r made =
        { c.backoff with exponent, lastDraw } := by
  unfold accounted Backoff.noteActive
  split
  · split <;> exact ⟨_, _, rfl⟩
  · exact ⟨_, _, rfl⟩

@[simp] theorem base_accounted
    (c : Terms)
    (r : Retry)
    (made : List Retry) :
    (c.accounted r made).base = c.unit := by
  rcases c.accounted_eq r made with ⟨exponent, lastDraw, hSame⟩
  rw [hSame]
  exact c.base_backoff

/- With right books the exponent counts the failures. -/
theorem nextExponent_accounted
    (c : Terms)
    (r : Retry)
    (made : List Retry) :
    (c.accounted r made).nextExponent r.now =
      min (c.failures (r :: made)) 10 := by
  have hBooked :
      (c.booked made).nextExponent r.now =
        min
          (if 2048 * c.unit < r.now - c.latest made then 1
          else c.failures made + 1) 10 := by
    rw [Backoff.nextExponent, base_booked]
    change
      min
          ((if 2048 * c.unit < r.now - c.latest made then 0
            else min (c.failures made) 10) + 1) 10 = _
    split <;> omega
  unfold failures restarts
  cases hActive : r.active? with
  | none => simpa [accounted, hActive] using hBooked
  | some seconds =>
      by_cases hLong : c.resetAfter ≤ seconds
      · have hAfter : (c.booked made).resetAfter ≤ seconds := hLong
        -- After the reset nothing was counted, late or not.
        simp [accounted, hActive, Backoff.noteActive, hAfter,
          Backoff.nextExponent, Backoff.reset, hLong,
          Backoff.exponentLimit]
      · have hAfter : ¬ (c.booked made).resetAfter ≤ seconds :=
          hLong
        simpa [accounted, hActive, Backoff.noteActive, hAfter,
          hLong] using hBooked

/-
  With right books the next wait is as the terms say, and the
  books are right again.
-/
theorem draw_accounted
    (c : Terms)
    (r : Retry)
    (made : List Retry) :
    (c.accounted r made).draw r.now r.position =
      (c.delay (c.failures (r :: made)) r.position,
        c.booked (r :: made)) := by
  have hExponent := c.nextExponent_accounted r made
  have hBase := c.base_accounted r made
  rcases c.accounted_eq r made with ⟨exponent, lastDraw, hSame⟩
  rw [hSame] at hExponent hBase ⊢
  simp only [Backoff.draw, hExponent, hBase, greater_eq_max,
    lesser_eq_min]
  refine Prod.ext ?_ rfl
  simp only [backoff, Backoff.ofBounds, greater_eq_max, delay,
    least, most, mul_assoc, Nat.pow_eq, Nat.cast_pow,
    Nat.cast_ofNat]

/- What is drawn with right books keeps to the terms. -/
theorem Governs.cons
    {r : Retry}
    (hGoverns : c.Governs made)
    (hDelay :
      r.delay = c.delay (c.failures (r :: made)) r.position) :
    c.Governs (r :: made) where
  delay := by
    intro q older hSuffix
    rcases List.suffix_cons_iff.mp hSuffix with hWhole | hOlder
    · rcases List.cons.inj hWhole with ⟨rfl, rfl⟩
      exact hDelay
    · exact hGoverns.delay q older hOlder
  within := by
    intro q hMember
    rcases List.mem_cons.mp hMember with rfl | hOlder
    · rw [hDelay]
      exact c.delay_within _ _
    · exact hGoverns.within q hOlder
  bounded := by
    intro q older hSuffix hPosition
    rcases List.suffix_cons_iff.mp hSuffix with hWhole | hOlder
    · rcases List.cons.inj hWhole with ⟨rfl, rfl⟩
      rw [hDelay]
      exact delay_mono le_rfl hPosition (by norm_num)
    · exact hGoverns.bounded q older hOlder hPosition
  widens := by
    intro q older hSuffix hCounts
    rw [failures, if_neg (by simp [hCounts])]
    exact delay_mono (Nat.le_succ _) le_rfl (by norm_num)

theorem governs_nil
    (c : Terms) :
    c.Governs [] where
  delay := fun _ _ hSuffix =>
    (List.cons_ne_nil _ _ (List.suffix_nil.mp hSuffix)).elim
  within := fun _ hMember => (List.not_mem_nil hMember).elim
  bounded := fun _ _ hSuffix =>
    (List.cons_ne_nil _ _ (List.suffix_nil.mp hSuffix)).elim
  widens := fun _ _ hSuffix =>
    (List.cons_ne_nil _ _ (List.suffix_nil.mp hSuffix)).elim

end Terms

------------------------------------------------------------
-- What Happened
------------------------------------------------------------

namespace Session

/- When something happened, if it came with its moment. -/
def Stimulus.moment? : Stimulus → Option Moment
  | .fetched m _ => some m
  | .opened m _ => some m
  | .received m _ => some m
  | .hydrated m _ => some m
  | .passed m => some m
  | _ => none

/- The moment up to which a session waits. -/
def waitsUntil?
    (s : Session) : Option Rat :=
  match s.phase with
  | .waiting until_ => some until_
  | _ => none

/- Whether a session waits or has ended. -/
def hasLeft
    (s : Session) : Bool :=
  match s.phase with
  | .waiting _ => true
  | .ended _ => true
  | _ => false

/-
  Whether an event that is taken in completes a start or a
  resumption at once. A start for which something has to be
  done is not complete before that is done.
-/
def completes
    (s : Session) : Event → Bool
  | .resumed => true
  | .ready r => (s.hydrationOf r).progress = .done
  | _ => false

/- The moment at which a start or a resumption is completed. -/
def completion?
    (s : Session)
    (x : Stimulus) : Option Rat :=
  match x with
  | .hydrated m (.ok _) =>
    if s.phase = .hydrating then some m.now else none
  | .received m _ =>
    if (s.accepts? x).any s.completes then some m.now else none
  | _ => none

/-
  The moment at which the latest start or resumption on the
  present connection was completed.
-/
def activity
    (s : Session) : List Stimulus → Option Rat
  | [] => none
  | x :: xs =>
    if (s.course (x :: xs)).hasLeft then none
    else ((s.course xs).completion? x).or (s.activity xs)

/- The wait that a session begins when something happens. -/
def retryAt?
    (s : Session)
    (active : Option Rat)
    (x : Stimulus) : Option Retry :=
  match s.waitsUntil?, x.moment?, (s.react x).waitsUntil? with
  | none, some m, some until_ =>
    some
      {
        now := m.now
        position := m.position
        active? := active.map (m.now - ·)
        delay := until_ - m.now
      }
  | _, _, _ => none

/- The waits that a session began, last first. -/
def retries
    (s : Session) : List Stimulus → List Retry
  | [] => []
  | x :: xs =>
    ((s.course xs).retryAt? (s.activity xs) x).toList ++
      s.retries xs

variable {s t u : Session}
variable {m : Moment}
variable {cause : Cause}
variable {failure : Option Cause}
variable {x : Stimulus}
variable {p : Payload}

------------------------------------------------------------
-- Steps
------------------------------------------------------------

/- A session goes on with the same books, active as long. -/
structure IsTimedAs
    (s t : Session) : Prop where
  backoff : t.backoff = s.backoff
  activeSince : t.activeSince = s.activeSince

namespace IsTimedAs

theorem refl
    (s : Session) :
    IsTimedAs s s :=
  ⟨rfl, rfl⟩

theorem trans
    (hFirst : IsTimedAs s t)
    (hSecond : IsTimedAs t u) :
    IsTimedAs s u :=
  ⟨hSecond.backoff.trans hFirst.backoff,
    hSecond.activeSince.trans hFirst.activeSince⟩

end IsTimedAs

theorem setStatus_timed
    (s : Session)
    (status : Status) :
    IsTimedAs s (s.setStatus status) := by
  rw [setStatus_eq]
  exact ⟨rfl, rfl⟩

theorem closeSocket_timed
    (s : Session)
    (code : Int) :
    IsTimedAs s (s.closeSocket code) := by
  rw [closeSocket_eq]
  exact ⟨rfl, rfl⟩

theorem counted_timed
    (s : Session)
    (p : Payload) :
    IsTimedAs s (s.counted p) := by
  unfold counted
  split <;> exact ⟨rfl, rfl⟩

theorem kept_timed
    (s : Session)
    (isForgotten : Bool) :
    IsTimedAs s (s.kept isForgotten) := by
  unfold kept
  split <;> exact ⟨rfl, rfl⟩

theorem begun_timed
    (s : Session)
    (r : Event.Ready)
    (url : Option String) :
    IsTimedAs s (s.begun r url) := by
  unfold begun
  rw [setStatus_eq]
  exact ⟨rfl, rfl⟩

theorem quieted_timed
    (s : Session) :
    IsTimedAs s s.quieted := by
  unfold quieted
  split
  · exact ⟨rfl, rfl⟩
  · rw [closeSocket_eq]
    exact ⟨rfl, rfl⟩

theorem attempt_timed
    (s : Session) :
    IsTimedAs s s.attempt := by
  have hReadied : IsTimedAs s s.readied := by
    unfold readied
    split
    · exact .refl s
    · exact setStatus_timed s .connecting
  rcases attempt_cases s with ⟨url, hOpens⟩ | hFetches
  · rw [hOpens]
    exact hReadied.trans ⟨rfl, rfl⟩
  · rw [hFetches]
    exact hReadied.trans ⟨rfl, rfl⟩

/- An attempt is neither a wait nor an end. -/
theorem hasLeft_attempt
    (s : Session) :
    s.attempt.hasLeft = false := by
  rcases phase_attempt s with hOpens | hFetches
  · simp [hasLeft, hOpens]
  · simp [hasLeft, hFetches]

theorem waitsUntil?_of_hasLeft
    (hGoing : s.hasLeft = false) :
    s.waitsUntil? = none := by
  cases hPhase : s.phase <;>
    simp [hasLeft, waitsUntil?, hPhase] at hGoing ⊢

theorem completes_ready
    (s : Session)
    (r : Event.Ready) :
    s.completes (.ready r) =
      (hasReadableAddress r && !s.hydrates) := by
  cases hAddress : hasReadableAddress r <;>
    cases hHydrates : s.hydrates <;>
      simp [completes, hydrationOf, hAddress, hHydrates]

theorem hasLeft_of_waitsUntil?
    {until_ : Rat}
    (hWaits : s.waitsUntil? = some until_) :
    s.hasLeft = true := by
  cases hPhase : s.phase <;>
    simp [hasLeft, waitsUntil?, hPhase] at hWaits ⊢

/-
  A frame that is handled leaves the books alone. It makes a
  session active exactly if it completes what it brings.
-/
theorem Handling.timed
    (hHandling : Handling s m p (t, none)) :
    t.backoff = s.backoff ∧
      t.activeSince =
        if (s.taken? p).any s.completes then some m.now
        else s.activeSince := by
  have hCounted := counted_timed s p
  have hIdle
      (hTaken : s.taken? p = none)
      (hTimed : IsTimedAs s t) :
      t.backoff = s.backoff ∧
        t.activeSince =
          if (s.taken? p).any s.completes then some m.now
          else s.activeSince := by
    simpa [hTaken] using ⟨hTimed.backoff, hTimed.activeSince⟩
  cases hHandling with
  | ignored hTaken => exact hIdle hTaken (.refl s)
  | acknowledged hTaken => exact hIdle hTaken ⟨rfl, rfl⟩
  | answered hTaken hBeat =>
      refine hIdle hTaken ?_
      rw [eq_order_of_beat hBeat]
      exact ⟨rfl, rfl⟩
  | counted hTaken => exact hIdle hTaken hCounted
  | started hTaken hUrl hHydrates =>
      rename_i r url
      have hBegun := hCounted.trans (begun_timed _ r url)
      simpa [hTaken, completes_ready, hHydrates] using
        ⟨hBegun.backoff, hBegun.activeSince⟩
  | startedBare hTaken hUrl hBare =>
      rename_i r url
      have hBegun := hCounted.trans (begun_timed _ r url)
      rw [markActive_eq]
      simpa [hTaken, completes_ready, hBare,
        hasReadableAddress_of_ok hUrl] using hBegun.backoff
  | resumed hTaken =>
      have hStatus :=
        hCounted.trans (setStatus_timed _ .identified)
      rw [markActive_eq]
      simpa [hTaken, completes, order] using hStatus.backoff
  | queued hTaken hReady hResumed =>
      rename_i e
      have hOther : s.completes e = false := by
        cases e with
        | ready r => exact (hReady r rfl).elim
        | resumed => exact (hResumed rfl).elim
        | _ => rfl
      simpa [hTaken, hOther] using
        ⟨hCounted.backoff, hCounted.activeSince⟩

/- A frame that cannot be handled completes nothing. -/
theorem Handling.timed_of_failed
    (hHandling : Handling s m p (t, some cause)) :
    IsTimedAs s t := by
  cases hHandling with
  | unanswered => exact .refl s
  | dismissed => exact kept_timed s _
  | incomparable => exact .refl s
  | unread => exact counted_timed s p
  | unusable =>
      exact (counted_timed s p).trans ⟨rfl, rfl⟩

/- A session that goes on is active from a completion on. -/
theorem GoesOn.timed
    (hGoes : GoesOn s x m t) :
    t.backoff = s.backoff ∧
      t.activeSince = (s.completion? x).or s.activeSince := by
  cases hGoes with
  | greeted hPhase hFrame hRead hSent =>
      rw [eq_order_of_send hSent]
      have hOther : s.phase ≠ .listening := by simp [hPhase]
      rename_i i _ _ _ _
      cases i <;>
        simp [completion?, accepts?, hOther, order,
          startHeartbeat]
  | heard hPhase hHandling =>
      have hTimed := hHandling.timed
      refine ⟨hTimed.1, hTimed.2.trans ?_⟩
      simp only [completion?, accepts?, hPhase, if_true]
      split <;> rfl
  | unheard => exact ⟨rfl, rfl⟩
  | hydrated hPhase =>
      rw [markActive_eq]
      simp [completion?, hPhase]

/- What a stimulus makes of the books. -/
inductive Paces
    (s : Session)
    (x : Stimulus) : Session → Prop where
  | stays {t : Session}
      (hTimed : IsTimedAs s t)
      (hPhase : t.phase = s.phase)
      (hIdle : s.completion? x = none) :
      Paces s x t
  | proceeds {t : Session}
      (hBackoff : t.backoff = s.backoff)
      (hSince :
        t.activeSince = (s.completion? x).or s.activeSince)
      (hGoing : t.hasLeft = false) :
      Paces s x t
  | ends {t : Session} {failure : Option Cause}
      (hBackoff : t.backoff = s.backoff) :
      Paces s x (t.finish failure)
  | waits {t : Session} {m : Moment}
      (hMoment : x.moment? = some m)
      (hGoing : s.waitsUntil? = none)
      (hTimed : IsTimedAs s t) :
      Paces s x (t.wait m)

/- A connection is left without a completion, or for good. -/
theorem Leaves.timed
    (hLeaves : Leaves s x m t failure) :
    x.moment? = some m ∧ t.backoff = s.backoff ∧
      (t.activeSince = s.activeSince ∨ t.closing = true) := by
  cases hLeaves with
  | refused => exact ⟨rfl, rfl, Or.inl rfl⟩
  | ungreeted => exact ⟨rfl, rfl, Or.inl rfl⟩
  | unpresented => exact ⟨rfl, rfl, Or.inl rfl⟩
  | failed _ hHandling =>
      have hTimed := hHandling.timed_of_failed
      exact ⟨rfl, hTimed.backoff, Or.inl hTimed.activeSince⟩
  | unhydrated => exact ⟨rfl, rfl, Or.inl rfl⟩
  | timedOut => exact ⟨rfl, rfl, Or.inl rfl⟩
  | stopped hGoes hClosing =>
      refine ⟨?_, hGoes.timed.1, Or.inr hClosing⟩
      cases hGoes <;> rfl

/- A session that obeys ends or waits, with the same books. -/
theorem paces_obey
    {v : Verdict}
    (hMoment : x.moment? = some m)
    (hGoing : s.waitsUntil? = none)
    (hBackoff : t.backoff = s.backoff)
    (hSince :
      t.activeSince = s.activeSince ∨
        ∃ final, v = .ends final) :
    Paces s x (t.obey m v) := by
  cases v with
  | ends final => exact .ends hBackoff
  | retries isForgotten =>
      have hSame : t.activeSince = s.activeSince := by
        rcases hSince with hSame | ⟨final, hEnds⟩
        · exact hSame
        · cases hEnds
      have hKept := kept_timed t isForgotten
      exact .waits hMoment hGoing
        (IsTimedAs.trans ⟨hBackoff, hSame⟩ hKept)

/- A session that is connected does not wait. -/
theorem waitsUntil?_of_isConnected
    (hConnected : s.isConnected = true) :
    s.waitsUntil? = none := by
  cases hPhase : s.phase <;>
    simp [isConnected, waitsUntil?, hPhase] at hConnected ⊢

/- What does not bear on the phase leaves the books alone. -/
theorem Aside.timed
    (hAside : Aside s x t) :
    IsTimedAs s t ∧ s.completion? x = none := by
  cases hAside with
  | unmoved hUnawaited =>
      refine ⟨.refl s, ?_⟩
      cases x with
      | received m i =>
          have hPhase : s.phase ≠ .listening := by
            intro hListening
            simp [awaits, isReceiving, hListening] at hUnawaited
          cases i <;> simp [completion?, accepts?, hPhase]
      | hydrated m result =>
          have hPhase : s.phase ≠ .hydrating := by
            simpa [awaits] using hUnawaited
          cases result <;> simp [completion?, hPhase]
      | _ => rfl
  | closed =>
      rw [closeSocket_eq]
      exact ⟨⟨rfl, rfl⟩, rfl⟩
  | lost => exact ⟨⟨rfl, rfl⟩, rfl⟩
  | beaten _ hPulses =>
      refine ⟨?_, rfl⟩
      cases hPulses <;> exact ⟨rfl, rfl⟩

/- What a stimulus makes of the books is one of these. -/
theorem paces_of_reaction
    (hReaction : Reaction s x t) :
    Paces s x t := by
  cases hReaction with
  | aside hAside =>
      exact .stays hAside.timed.1 hAside.fields.1 hAside.timed.2
  | connected =>
      have hTimed :=
        (IsTimedAs.trans (s := s) (t := { s with closing := false })
          ⟨rfl, rfl⟩ (setStatus_timed _ .connecting)).trans
            (attempt_timed _)
      exact .proceeds hTimed.backoff hTimed.activeSince
        (hasLeft_attempt _)
  | ceased =>
      refine .ends ?_
      rw [(closeSocket_timed _ _).backoff]
  | fetched => exact .proceeds rfl rfl rfl
  | opened => exact .proceeds rfl rfl rfl
  | retried =>
      have hTimed := attempt_timed s
      exact .proceeds hTimed.backoff hTimed.activeSince
        (hasLeft_attempt s)
  | hydrates hPhase hHandling hHydrating =>
      have hTimed := hHandling.timed
      refine .proceeds hTimed.1 (hTimed.2.trans ?_)
        (by simp [hasLeft, hHydrating])
      simp only [completion?, accepts?, hPhase, if_true]
      split <;> rfl
  | listens hGoes =>
      exact .proceeds hGoes.timed.1 hGoes.timed.2 rfl
  | leaves hLeaves =>
      rename_i m u failure
      rcases hLeaves.timed with ⟨hMoment, hBackoff, hSince⟩
      have hQuieted := quieted_timed u
      rw [leave_eq]
      refine paces_obey hMoment
        (waitsUntil?_of_isConnected hLeaves.connected)
        (hQuieted.backoff.trans hBackoff)
        (hSince.imp hQuieted.activeSince.trans fun hClosing => ?_)
      rw [hClosing]
      exact exists_ends_of_closing _
  | loses hLoses =>
      rw [lose_eq]
      cases hLoses with
      | unfetched hPhase =>
          exact paces_obey rfl (by simp [waitsUntil?, hPhase]) rfl
            (Or.inl rfl)
      | unopened hPhase =>
          exact paces_obey rfl (by simp [waitsUntil?, hPhase]) rfl
            (Or.inl rfl)

------------------------------------------------------------
-- Runs
------------------------------------------------------------

/-
  The books of a session agree with what happened to it: since
  when it is active, and what the waits so far leave behind.
-/
structure KeepsBooks
    (c : Terms)
    (s : Session)
    (xs : List Stimulus) : Prop where
  activeSince : (s.course xs).activeSince = s.activity xs
  backoff : (s.course xs).backoff = c.booked (s.retries xs)
  governs : c.Governs (s.retries xs)

/- A session that waits or has ended is not active. -/
theorem activity_of_hasLeft
    (xs : List Stimulus)
    (hLeft : (s.course xs).hasLeft = true) :
    s.activity xs = none := by
  cases xs with
  | nil => rfl
  | cons x xs => rw [activity, if_pos hLeft]

/- Without a new wait the books stay right. -/
theorem retries_of_still
    {xs : List Stimulus}
    (hStill :
      (s.course (x :: xs)).waitsUntil? = none ∨
        (s.course (x :: xs)).phase = (s.course xs).phase) :
    s.retries (x :: xs) = s.retries xs := by
  have hNone :
      (s.course xs).retryAt? (s.activity xs) x = none := by
    have hAfter :
        ((s.course xs).react x).waitsUntil? = none ∨
          ((s.course xs).react x).waitsUntil? =
            (s.course xs).waitsUntil? :=
      hStill.imp id fun hPhase => by
        simp only [waitsUntil?, course] at hPhase ⊢
        rw [hPhase]
    unfold retryAt?
    rcases hAfter with hNone | hSame
    · rw [hNone]
      split <;> simp_all
    · rw [hSame]
      cases (s.course xs).waitsUntil? <;> cases x.moment? <;> rfl
  simp [retries, hNone]

/- The time in which a session was active goes into the books. -/
theorem accountActive_booked
    {c : Terms}
    {r : Retry}
    {made : List Retry}
    (hBackoff : s.backoff = c.booked made)
    (hActive : r.active? = s.activeSince.map (r.now - ·)) :
    (s.accountActive r.now).backoff = c.accounted r made ∧
      (s.accountActive r.now).activeSince = none := by
  unfold accountActive Terms.accounted
  cases hSince : s.activeSince with
  | none =>
      rw [hSince] at hActive
      simp [hActive, hBackoff, hSince]
  | some since =>
      rw [hSince] at hActive
      simp [hActive, hBackoff]

/-
  A session with right books waits as the terms say, and its
  books are right again.
-/
theorem wait_booked
    {c : Terms}
    {r : Retry}
    {made : List Retry}
    (hBackoff : t.backoff = c.booked made)
    (hNow : r.now = m.now)
    (hPosition : r.position = m.position)
    (hActive : r.active? = t.activeSince.map (m.now - ·)) :
    (t.wait m).waitsUntil? =
        some (m.now + c.delay (c.failures (r :: made)) r.position) ∧
      (t.wait m).backoff = c.booked (r :: made) ∧
        (t.wait m).activeSince = none := by
  have hStatus := setStatus_timed t .reconnecting
  have hAccount :=
    accountActive_booked (s := t.setStatus .reconnecting) (r := r)
      (hStatus.backoff.trans hBackoff)
      (by rw [hActive, hStatus.activeSince, hNow])
  have hDraw := c.draw_accounted r made
  rw [hNow] at hAccount
  rw [hNow, hPosition] at hDraw
  simp only [wait, waitsUntil?, hAccount.1, hDraw, hPosition,
    hAccount.2, and_self]

/- A new wait comes before the others. -/
theorem retries_of_wait
    {xs : List Stimulus}
    {until_ : Rat}
    (hMoment : x.moment? = some m)
    (hGoing : (s.course xs).waitsUntil? = none)
    (hWaits : (s.course (x :: xs)).waitsUntil? = some until_) :
    s.retries (x :: xs) =
      {
        now := m.now
        position := m.position
        active? := (s.activity xs).map (m.now - ·)
        delay := until_ - m.now
      } :: s.retries xs := by
  have hReact :
      ((s.course xs).react x).waitsUntil? = some until_ := hWaits
  simp [retries, retryAt?, hMoment, hGoing, hReact]

/- One step keeps the books right. -/
theorem KeepsBooks.step
    {c : Terms}
    {xs : List Stimulus}
    (hBooks : KeepsBooks c s xs)
    (x : Stimulus) :
    KeepsBooks c s (x :: xs) := by
  have hPaces := paces_of_reaction (reaction_react (s.course xs) x)
  -- Unless a wait begins, only the two books have to be compared.
  have hOfStill
      (hStill :
        (s.course (x :: xs)).waitsUntil? = none ∨
          (s.course (x :: xs)).phase = (s.course xs).phase)
      (hBackoff :
        (s.course (x :: xs)).backoff = (s.course xs).backoff)
      (hSince :
        (s.course (x :: xs)).activeSince = s.activity (x :: xs)) :
      KeepsBooks c s (x :: xs) := by
    have hSame := retries_of_still hStill
    refine ⟨hSince, ?_, ?_⟩
    · rw [hSame, hBackoff]
      exact hBooks.backoff
    · rw [hSame]
      exact hBooks.governs
  generalize hAfter : (s.course xs).react x = t at hPaces
  have hCourse : s.course (x :: xs) = t := hAfter
  cases hPaces with
  | stays hTimed hPhase hIdle =>
      refine hOfStill (Or.inr (hCourse ▸ hPhase))
        (hCourse ▸ hTimed.backoff) ?_
      have hLeft : t.hasLeft = (s.course xs).hasLeft := by
        simp only [hasLeft, hPhase]
      rw [hCourse, hTimed.activeSince, hBooks.activeSince, activity,
        hIdle, hCourse, hLeft]
      split
      · rename_i hBefore
        exact activity_of_hasLeft xs hBefore
      · rfl
  | proceeds hBackoff hSince hGoing =>
      refine hOfStill
        (Or.inl (hCourse ▸ waitsUntil?_of_hasLeft hGoing))
        (hCourse ▸ hBackoff) ?_
      rw [hCourse, hSince, hBooks.activeSince, activity,
        hCourse, hGoing]
      rfl
  | ends hBackoff =>
      rename_i u failure
      refine hOfStill (Or.inl ?_) ?_ ?_
      · rw [hCourse, finish_eq]
        rfl
      · rw [hCourse, finish_eq]
        exact hBackoff
      · rw [activity, hCourse, finish_eq]
        rfl
  | waits hMoment hGoing hTimed =>
      rename_i u m
      have hBackoff := hTimed.backoff.trans hBooks.backoff
      have hSince := hTimed.activeSince.trans hBooks.activeSince
      -- How long the wait is does not bear on the failures.
      let r : Retry :=
        {
          now := m.now
          position := m.position
          active? := (s.activity xs).map (m.now - ·)
          delay := 0
        }
      rcases wait_booked (r := r) hBackoff rfl rfl
          (by rw [hSince]) with
        ⟨hUntil, hBooked, hRests⟩
      rw [← hCourse] at hUntil hBooked hRests
      have hRetries := retries_of_wait hMoment hGoing hUntil
      refine ⟨?_, ?_, ?_⟩
      · rw [hRests, activity, if_pos]
        exact hasLeft_of_waitsUntil? hUntil
      · rw [hRetries]
        exact hBooked
      · rw [hRetries]
        exact hBooks.governs.cons (add_sub_cancel_left _ _)

/- Whatever happens to a new session, its books are right. -/
theorem keepsBooks_course
    (token : String)
    (intents : Int)
    (hydrates : Bool)
    (c : Terms)
    (xs : List Stimulus) :
    KeepsBooks c (.new token intents hydrates c.backoff) xs := by
  induction xs with
  | nil =>
      have hTimed :
          IsTimedAs (.new token intents hydrates c.backoff)
            (Session.new token intents hydrates
              c.backoff).connect :=
        ((IsTimedAs.refl _).trans
          (setStatus_timed _ .connecting)).trans (attempt_timed _)
      exact ⟨hTimed.activeSince, hTimed.backoff, c.governs_nil⟩
  | cons x xs hInduction => exact hInduction.step x

/-
  A session waits as its terms say, in whatever becomes of it:
  each wait grows with the failures since they were last
  counted anew, and stays between the two bounds.
-/
theorem governs_retries
    (token : String)
    (intents : Int)
    (hydrates : Bool)
    (c : Terms)
    (xs : List Stimulus) :
    c.Governs
      ((Session.new token intents hydrates c.backoff).retries
        xs) :=
  (keepsBooks_course token intents hydrates c xs).governs

/- A moment at which a draw falls onto its bound. -/
def lateDrawAt
    (now : Rat) : Moment :=
  { momentAt now with position := 1 }

/-
  The address cannot be fetched twice. The third attempt leads
  to a connection that is active for more than three minutes.
-/
def steadied : List Stimulus :=
  [
    .received (lateDrawAt 200) (.closed none),
    .hydrated (lateDrawAt 8) (.ok ()),
    .received (lateDrawAt 7) (.frame readyFrame),
    .received (lateDrawAt 7) (.frame helloFrame),
    .opened (lateDrawAt 7) (.ok ()),
    .fetched (lateDrawAt 7) (.ok "wss://gateway"),
    .passed (lateDrawAt 7),
    .fetched (lateDrawAt 3) (.error (.refused 500)),
    .passed (lateDrawAt 3),
    .fetched (lateDrawAt 1) (.error (.refused 500))
  ]

/- The wait is doubled once, and starts again in the end. -/
theorem governs_steadied :
    (Terms.mk 1 60 120 0).Governs (attentive.retries steadied) ∧
      attentive.retries steadied =
        [⟨200, 1, some 192, 2⟩, ⟨3, 1, none, 4⟩,
          ⟨1, 1, none, 2⟩] :=
  ⟨governs_retries "token" 513 true ⟨1, 60, 120, 0⟩ steadied,
    by decide +kernel⟩

end Session

end GuildWarden.Gateway
