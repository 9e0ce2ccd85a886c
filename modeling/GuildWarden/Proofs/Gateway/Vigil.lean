import GuildWarden.Proofs.Gateway.Reaction

/-
  This file shows how a session tells that its connection is
  dead. A connection gives signs of its life: a beat is due,
  the gateway asks for one, or it answers. The session counts
  the ticks that find an earlier beat unanswered. It gives the
  connection up at the second one, and at no other time; and
  whatever code the connection is then closed with, the session
  can be resumed.

  Key definitions include:
    * `Gateway.Sign`
    * `Gateway.overdue`
    * `Gateway.IsAnswered`
    * `Gateway.Session.signs`
    * `Gateway.Session.Reckons`
    * `Gateway.Session.IsVigilant`

  Main statements:
    * `Gateway.overdue_le_one`
    * `Gateway.two_le_overdue`
    * `Gateway.Session.Reckons.react`
    * `Gateway.Session.isVigilant_course`
-/

namespace GuildWarden.Gateway

------------------------------------------------------------
-- Signs of Life
------------------------------------------------------------

/-
  What a connection shows of its life: a beat is due, the
  gateway asks for a beat, or it answers one.
-/
inductive Sign where
  | tick
  | request
  | answer
deriving DecidableEq, Repr

/- The signs since the last answer; the latest first. -/
def unanswered
    (signs : List Sign) : List Sign :=
  signs.takeWhile (· != .answer)

/-
  The ticks that found a beat unanswered. The first sign since
  the last answer is not one of them: it made the session beat.
-/
def overdue
    (signs : List Sign) : Nat :=
  (unanswered signs).dropLast.count .tick

/- Between every two consecutive ticks there is an answer. -/
def IsAnswered
    (signs : List Sign) : Prop :=
  ∀ later between earlier,
    signs = later ++ .tick :: (between ++ .tick :: earlier) →
      .tick ∉ between → .answer ∈ between

section

variable {signs later earlier : List Sign}

@[simp] theorem unanswered_answer
    (signs : List Sign) :
    unanswered (.answer :: signs) = [] := rfl

@[simp] theorem unanswered_tick
    (signs : List Sign) :
    unanswered (.tick :: signs) = .tick :: unanswered signs := rfl

@[simp] theorem unanswered_request
    (signs : List Sign) :
    unanswered (.request :: signs) =
      .request :: unanswered signs := rfl

@[simp] theorem overdue_answer
    (signs : List Sign) :
    overdue (.answer :: signs) = 0 := rfl

theorem overdue_request
    (signs : List Sign) :
    overdue (.request :: signs) = overdue signs := by
  unfold overdue
  rw [unanswered_request]
  cases unanswered signs with
  | nil => rfl
  | cons g gs => simp

/- A tick is overdue unless it is the first sign. -/
theorem overdue_tick
    (signs : List Sign) :
    overdue (.tick :: signs) =
      if unanswered signs = [] then 0 else overdue signs + 1 := by
  unfold overdue
  rw [unanswered_tick]
  cases unanswered signs with
  | nil => rfl
  | cons g gs => simp

/- One sign less is one tick less at most. -/
theorem count_le_dropLast
    (signs : List Sign) :
    signs.count .tick ≤ signs.dropLast.count .tick + 1 := by
  rcases signs.eq_nil_or_concat with rfl | ⟨older, g, rfl⟩
  · simp
  · rw [List.concat_eq_append, List.dropLast_concat,
      List.count_append]
    have hOne := List.count_le_length (a := Sign.tick) (l := [g])
    simp only [List.length_singleton] at hOne
    omega

theorem IsAnswered.tail
    {g : Sign}
    (hAnswered : IsAnswered (g :: signs)) :
    IsAnswered signs := by
  intro later between earlier hSplit
  exact hAnswered (g :: later) between earlier
    (by rw [hSplit, List.cons_append])

theorem IsAnswered.of_append
    (hAnswered : IsAnswered (later ++ earlier)) :
    IsAnswered earlier := by
  induction later with
  | nil => exact hAnswered
  | cons g later hInduction => exact hInduction hAnswered.tail

/- Where ticks are answered, one is unanswered at most. -/
theorem count_unanswered_le_one
    (hAnswered : IsAnswered signs) :
    (unanswered signs).count .tick ≤ 1 := by
  induction signs with
  | nil => simp [unanswered]
  | cons g signs hInduction =>
      cases g with
      | answer => simp
      | request => simpa using hInduction hAnswered.tail
      | tick =>
          rw [unanswered_tick, List.count_cons_self]
          have hNone : .tick ∉ unanswered signs := by
            intro hTick
            rcases List.eq_append_cons_of_mem hTick with
              ⟨between, rest, hSplit, hBetween⟩
            have hSigns :
                signs = between ++ .tick :: (rest ++
                  signs.dropWhile (· != .answer)) := by
              rw [← List.cons_append, ← List.append_assoc,
                ← hSplit]
              exact List.takeWhile_append_dropWhile.symm
            have hAnswer :=
              hAnswered [] between _
                (congrArg (.tick :: ·) hSigns) hBetween
            have hThere : .answer ∈ unanswered signs :=
              hSplit ▸ List.mem_append_left _ hAnswer
            have hNot :=
              List.all_eq_true.mp List.all_takeWhile _ hThere
            simp at hNot
          simp [List.count_eq_zero.mpr hNone]

/- Where ticks are answered, one is overdue at most. -/
theorem overdue_le_one
    (hAnswered : IsAnswered signs) :
    overdue signs ≤ 1 :=
  ((List.dropLast_sublist _).count_le _).trans
    (count_unanswered_le_one hAnswered)

/- Of three ticks without an answer two are overdue. -/
theorem two_le_overdue
    (hNone : .answer ∉ later)
    (hTicks : 3 ≤ later.count .tick) :
    2 ≤ overdue (later ++ earlier) := by
  have hAll :
      unanswered (later ++ earlier) =
        later ++ unanswered earlier := by
    apply List.takeWhile_append_of_pos
    intro g hMember
    simpa using ne_of_mem_of_not_mem hMember hNone
  have hLast := count_le_dropLast (unanswered (later ++ earlier))
  rw [hAll, List.count_append] at hLast
  unfold overdue
  rw [hAll]
  omega

end

namespace Session

variable {s t : Session}
variable {m : Moment}
variable {x : Stimulus}
variable {p : Payload}

------------------------------------------------------------
-- Signs of a Run
------------------------------------------------------------

/- The sign that a stimulus is to a session. -/
def sign?
    (s : Session) : Stimulus → Option Sign
  | .passed m =>
    if s.beatDue?.any (· ≤ m.now) then some .tick else none
  | .received _ (.frame p) =>
    if s.phase = .listening then
      match kindOf? p with
      | some .heartbeatAck => some .answer
      | some .heartbeat => some .request
      | _ => none
    else none
  | _ => none

/-
  The signs of the latest connection since it was greeted; the
  latest first.
-/
def signs
    (s : Session) : List Stimulus → List Sign
  | [] => []
  | x :: xs =>
    let t := s.course xs
    if t.isGreetedBy x then []
    else (t.sign? x).toList ++ s.signs xs

/- Whether a session has started to connect to no avail. -/
def isOver
    (s : Session) : Bool :=
  match s.phase with
  | .waiting _ => true
  | .ended _ => true
  | _ => false

/- Whether a session attends to its heartbeat. -/
def isBusy
    (s : Session) : Bool :=
  match s.phase with
  | .listening => true
  | .hydrating => true
  | _ => false

------------------------------------------------------------
-- What Is Counted
------------------------------------------------------------

/- A session counts the same beats as another. -/
structure Counts
    (s t : Session) : Prop where
  awaitingAck : t.awaitingAck = s.awaitingAck
  missed : t.missed = s.missed
  isDead : t.isDead = s.isDead

namespace Counts

theorem refl
    (s : Session) :
    Counts s s :=
  ⟨rfl, rfl, rfl⟩

theorem trans
    {u : Session}
    (hFirst : Counts s t)
    (hSecond : Counts t u) :
    Counts s u where
  awaitingAck := hSecond.awaitingAck.trans hFirst.awaitingAck
  missed := hSecond.missed.trans hFirst.missed
  isDead := hSecond.isDead.trans hFirst.isDead

end Counts

theorem setStatus_counts
    (s : Session)
    (status : Status) :
    Counts s (s.setStatus status) := by
  rw [setStatus_eq]
  exact ⟨rfl, rfl, rfl⟩

theorem markActive_counts
    (s : Session)
    (now : Rat) :
    Counts s (s.markActive now) := by
  rw [markActive_eq]
  exact ⟨rfl, rfl, rfl⟩

theorem start_counts
    (s : Session)
    (m : Moment)
    (r : Event.Ready) :
    Counts s (s.start m r).1 := by
  unfold start
  simp only
  split
  · exact ⟨rfl, rfl, rfl⟩
  · rw [setStatus_eq]
    split
    · exact ⟨rfl, rfl, rfl⟩
    · rw [markActive_eq]
      exact ⟨rfl, rfl, rfl⟩

theorem dispatch_counts
    (s : Session)
    (m : Moment)
    (p : Payload) :
    Counts s (s.dispatch m p).1 := by
  unfold Session.dispatch
  split
  · exact .refl s
  · exact .refl s
  · rename_i e _
    cases e with
    | ready r => exact start_counts s m r
    | resumed =>
        have hQueued :
            Counts s
              ((s.setStatus .identified).order
                (.queue .resumed)) :=
          (setStatus_counts s .identified).trans
            ⟨rfl, rfl, rfl⟩
        exact hQueued.trans (markActive_counts _ m.now)
    | _ => exact ⟨rfl, rfl, rfl⟩

/- A dispatch is no beat. -/
theorem dispatchOnce_counts
    (s : Session)
    (m : Moment)
    (p : Payload) :
    Counts s (s.dispatchOnce m p).1 := by
  unfold dispatchOnce
  split
  · exact dispatch_counts s m p
  · split
    · exact .refl s
    · exact .refl s
    · have hCounted :
          Counts s { s with sequence := some (p.field "s") } :=
        ⟨rfl, rfl, rfl⟩
      exact hCounted.trans (dispatch_counts _ m p)

/- Only beats and answers are counted. -/
theorem handle_counts
    (m : Moment)
    (hAnswer : kindOf? p ≠ some .heartbeatAck)
    (hRequest : kindOf? p ≠ some .heartbeat) :
    Counts s (s.handle m p).1 := by
  unfold handle
  split
  · exact dispatchOnce_counts s m p
  · contradiction
  · contradiction
  · exact .refl s
  · unfold rejected
    split <;> exact ⟨rfl, rfl, rfl⟩
  · exact .refl s

------------------------------------------------------------
-- The Reckoning
------------------------------------------------------------

/-
  The heartbeat goes on while one tick is overdue at most: the
  session knows how many are, and whether a beat is unanswered.
-/
structure Lives
    (signs : List Sign)
    (s : Session) : Prop where
  isDead : s.isDead = false
  awaitingAck : s.awaitingAck = true ↔ unanswered signs ≠ []
  missed : s.missed = overdue signs
  bounded : overdue signs ≤ 1

/-
  What a session knows of the signs of its connection. Only a
  busy one has a heartbeat, and it counts as dead only if two
  ticks were overdue.
-/
structure Reckons
    (signs : List Sign)
    (s : Session) : Prop where
  calm : s.heartbeat ≠ .silent → s.isBusy = true
  lives : ∀ due, s.heartbeat = .due due → Lives signs s
  fresh :
    s.isOpening = true ∨ s.isGreeting = true → s.isDead = false
  gone :
    s.isBusy = true → s.isDead = true →
      s.heartbeat = .over ∧
        ∃ later earlier, signs = later ++ earlier ∧
          2 ≤ overdue earlier

/- A session that connects has nothing to reckon with. -/
theorem reckons_of_silent
    (signs : List Sign)
    (hSilent : s.heartbeat = .silent)
    (hIdle : s.isBusy = false)
    (hFresh :
      s.isOpening = true ∨ s.isGreeting = true →
        s.isDead = false) :
    Reckons signs s where
  calm := fun hBeats => (hBeats hSilent).elim
  lives := by
    intro due hDue
    cases hSilent.symm.trans hDue
  fresh := hFresh
  gone := by
    intro hBusy
    cases hIdle.symm.trans hBusy

/- Nor has one that waits or has ended. -/
theorem reckons_of_isOver
    (signs : List Sign)
    (hSilent : s.heartbeat = .silent)
    (hOver : s.isOver = true) :
    Reckons signs s := by
  unfold isOver at hOver
  apply reckons_of_silent signs hSilent
  · cases hPhase : s.phase <;> simp [isBusy, hPhase] at hOver ⊢
  · cases hPhase : s.phase <;>
      simp [isOpening, isGreeting, hPhase] at hOver ⊢

------------------------------------------------------------
-- The End of a Connection
------------------------------------------------------------

/- A verdict is obeyed by waiting or by ending. -/
theorem isOver_obey
    (s : Session)
    (m : Moment)
    (verdict : Verdict) :
    (s.obey m verdict).isOver = true := by
  cases verdict with
  | ends failure => simp [obey, finish_eq, isOver]
  | retries isForgotten =>
      rcases wait_eq (s.kept isForgotten) m with
        ⟨backoff, until_, hWait⟩
      simp only [obey, hWait, isOver]

/- A session that leaves has nothing to reckon with. -/
theorem reckons_leave
    (signs : List Sign)
    (s : Session)
    (m : Moment)
    (failure : Option Cause) :
    Reckons signs (s.leave m failure) := by
  apply reckons_of_isOver signs (leave_fields s m failure).2.2
  rw [leave_eq]
  exact isOver_obey _ m _

theorem reckons_lose
    (signs : List Sign)
    (m : Moment)
    (cause : Cause)
    (hSilent : s.heartbeat = .silent) :
    Reckons signs (s.lose m cause) := by
  apply reckons_of_isOver signs
    ((lose_fields s m cause).2.2.trans hSilent)
  rw [lose_eq]
  exact isOver_obey _ m _

------------------------------------------------------------
-- One Step
------------------------------------------------------------

namespace Reckons

variable {signs : List Sign}

theorem silent
    (hReckons : Reckons signs s)
    (hIdle : s.isBusy = false) :
    s.heartbeat = .silent := by
  by_contra hBeats
  cases hIdle.symm.trans (hReckons.calm hBeats)

/- A session that counts as before reckons as before. -/
theorem of_counts
    (hReckons : Reckons signs s)
    (hPhase : t.phase = s.phase)
    (hHeart : t.heartbeat = s.heartbeat)
    (hCounts : Counts s t) :
    Reckons signs t where
  calm := by
    simpa only [isBusy, hPhase, hHeart] using hReckons.calm
  lives := by
    intro due hDue
    have hLives := hReckons.lives due (hHeart.symm.trans hDue)
    exact ⟨hCounts.isDead.trans hLives.isDead,
      hCounts.awaitingAck.symm ▸ hLives.awaitingAck,
      hCounts.missed.trans hLives.missed, hLives.bounded⟩
  fresh := by
    simpa only [isOpening, isGreeting, hPhase, hCounts.isDead]
      using hReckons.fresh
  gone := by
    simpa only [isBusy, hPhase, hCounts.isDead, hHeart]
      using hReckons.gone

/- It does not matter which of its tasks a busy session is at. -/
theorem turn
    (hReckons : Reckons signs s)
    {phase : Phase}
    (hBusy : s.isBusy = true)
    (hTurns : phase = .listening ∨ phase = .hydrating) :
    Reckons signs { s with phase } where
  calm := by
    intro _
    rcases hTurns with rfl | rfl <;> rfl
  lives := by
    intro due hDue
    have hLives := hReckons.lives due hDue
    exact ⟨hLives.isDead, hLives.awaitingAck, hLives.missed,
      hLives.bounded⟩
  fresh := by
    rcases hTurns with rfl | rfl <;>
      simp [isOpening, isGreeting]
  gone := fun _ hDead => hReckons.gone hBusy hDead

theorem goOn
    (m : Moment)
    (hReckons : Reckons signs s)
    (hBusy : s.isBusy = true) :
    Reckons signs (s.goOn m) := by
  unfold Session.goOn
  split
  · exact reckons_leave signs s m none
  · exact hReckons.turn hBusy (Or.inl rfl)

/- A new connection starts the reckoning anew. -/
theorem greet
    (m : Moment)
    (resuming : Bool)
    (p : Payload)
    (hDead : s.isDead = false)
    (hAnew :
      ∀ interval t, readInterval p = .ok interval →
        (s.startHeartbeat m interval).present m resuming =
            .ok t →
          signs = []) :
    Reckons signs (s.greet m resuming p) := by
  unfold Session.greet
  split
  · exact reckons_leave signs s m _
  · rename_i interval hRead
    simp only [goOnOrLeave]
    split
    · rename_i t hSent
      unfold Session.goOn
      split
      · exact reckons_leave signs t m none
      · rw [hAnew interval t hRead hSent,
          eq_order_of_send hSent]
        refine ⟨fun _ => rfl, fun _ _ => ?_, ?_, ?_⟩
        · exact ⟨hDead,
            by simp [order, startHeartbeat, unanswered], rfl,
            Nat.zero_le 1⟩
        · simp [isOpening, isGreeting]
        · intro _ hGone
          cases hDead.symm.trans hGone
    · exact reckons_leave signs _ m _

/- An answer clears the count. -/
theorem acknowledge
    (hReckons : Reckons signs s)
    (now : Rat) :
    Reckons (.answer :: signs) (s.acknowledge now) where
  calm := hReckons.calm
  lives := by
    intro due hDue
    have hLives := hReckons.lives due hDue
    exact ⟨hLives.isDead, by simp [Session.acknowledge], rfl,
      Nat.zero_le 1⟩
  fresh := hReckons.fresh
  gone := by
    intro hBusy hDead
    rcases hReckons.gone hBusy hDead with
      ⟨hOver, later, earlier, rfl, hOverdue⟩
    exact ⟨hOver, .answer :: later, earlier, rfl, hOverdue⟩

/- A beat that was asked for is awaited, but it is not missed. -/
theorem request
    (hReckons : Reckons signs s)
    (hBeat : s.beat m = .ok t) :
    Reckons (.request :: signs) t := by
  rw [eq_order_of_beat hBeat]
  refine ⟨hReckons.calm, ?_, hReckons.fresh, ?_⟩
  · intro due hDue
    have hLives := hReckons.lives due hDue
    exact ⟨hLives.isDead, by simp,
      hLives.missed.trans (overdue_request signs).symm,
      (overdue_request signs).symm ▸ hLives.bounded⟩
  · intro hBusy hDead
    rcases hReckons.gone hBusy hDead with
      ⟨hOver, later, earlier, rfl, hOverdue⟩
    exact ⟨hOver, .request :: later, earlier, rfl, hOverdue⟩

/- A frame that is neither a beat nor an answer is no sign. -/
theorem handle
    (m : Moment)
    (hReckons : Reckons signs s)
    (hPhase : s.phase = .listening)
    (hAnswer : kindOf? p ≠ some .heartbeatAck)
    (hRequest : kindOf? p ≠ some .heartbeat) :
    Reckons signs (s.handle m p).1 ∧
      (s.handle m p).1.isBusy = true := by
  have hBusy : s.isBusy = true := by simp [isBusy, hPhase]
  have hCounts := handle_counts (s := s) m hAnswer hRequest
  have hHandling := handling_handle s m p
  have hTurns :
      (s.handle m p).1.phase = .listening ∨
        (s.handle m p).1.phase = .hydrating := by
    rw [← hPhase]
    exact hHandling.phase
  have hMoved :
      Reckons signs { s with phase := (s.handle m p).1.phase } :=
    hReckons.turn hBusy hTurns
  constructor
  · exact hMoved.of_counts rfl hHandling.keeps.heartbeat
      ⟨hCounts.awaitingAck, hCounts.missed, hCounts.isDead⟩
  · rcases hTurns with hTurn | hTurn <;> simp [isBusy, hTurn]

/- The frames that a session hears are reckoned with. -/
theorem hear
    (m : Moment)
    (p : Payload)
    (hReckons : Reckons signs s)
    (hPhase : s.phase = .listening) :
    Reckons
      ((s.sign? (.received m (.frame p))).toList ++ signs)
      (s.hear m p) := by
  have hBusy : s.isBusy = true := by simp [isBusy, hPhase]
  by_cases hAnswer : kindOf? p = some .heartbeatAck
  · have hAcknowledged := hReckons.acknowledge m.now
    simpa [Session.hear, Session.handle, hAnswer, hPhase, sign?,
      Session.acknowledge]
      using hAcknowledged.goOn m hBusy
  · by_cases hRequest : kindOf? p = some .heartbeat
    · cases hBeat : s.beat m with
      | ok t =>
          have hTurn : t.phase = .listening := by
            rw [eq_order_of_beat hBeat]
            exact hPhase
          have hBusyNow : t.isBusy = true := by
            simp [isBusy, hTurn]
          simpa [Session.hear, Session.handle, answerBeat,
            hRequest, hBeat, hPhase, hTurn, sign?]
            using (hReckons.request hBeat).goOn m hBusyNow
      | error cause =>
          simpa [Session.hear, Session.handle, answerBeat,
            hRequest, hBeat, hPhase, sign?]
            using reckons_leave (.request :: signs) s m
              (some cause)
    · have hNone :
          s.sign? (.received m (.frame p)) = none := by
        simp only [sign?, hPhase, if_true]
      rcases hReckons.handle m hPhase hAnswer hRequest with
        ⟨hHandled, hBusyNow⟩
      rw [hNone]
      unfold Session.hear
      split
      · rename_i t cause _
        exact reckons_leave signs t m _
      · rename_i t hResult
        rw [hResult] at hHandled hBusyNow
        split
        · exact hHandled
        · exact hHandled.goOn m hBusyNow

end Reckons

------------------------------------------------------------
-- Beats
------------------------------------------------------------

/-
  A session gives its connection up at a tick if as many ticks
  as the limit are overdue then; otherwise it beats.
-/
theorem Lives.pulse
    {signs : List Sign}
    (m : Moment)
    (hLives : Lives signs s) :
    s.pulse m =
      if missedLimit ≤ overdue (.tick :: signs) then
        { s with
          missed := overdue (.tick :: signs)
          isDead := true
          heartbeat := .over }.closeSocket resumeCode
      else
        { s with
          missed := overdue (.tick :: signs) }.sendDueBeat m := by
  rw [overdue_tick]
  by_cases hNone : unanswered signs = []
  · have hCalm : s.awaitingAck = false := by
      simpa [hNone] using hLives.awaitingAck
    have hMissed : s.missed = 0 := by
      simpa [overdue, hNone] using hLives.missed
    have hSame : { s with missed := 0 } = s := by
      rw [← hMissed]
    rw [if_pos hNone, if_neg (by decide), hSame]
    simp [Session.pulse, hCalm]
  · have hAwaiting := hLives.awaitingAck.mpr hNone
    simp [Session.pulse, hAwaiting, hNone, hLives.missed]

/- Only a heartbeat that is due ticks. -/
theorem due_of_sign
    (hSign : s.sign? x = some .tick) :
    ∃ m, x = .passed m ∧ s.tick m = s.pulse m ∧
      ∃ due, s.heartbeat = .due due := by
  cases x with
  | passed m =>
      have hDue : s.beatDue?.any (· ≤ m.now) = true := by
        by_contra hEarly
        simp [sign?, hEarly] at hSign
      refine ⟨m, rfl, by simp only [tick, hDue, if_true], ?_⟩
      cases hHeart : s.heartbeat with
      | due due => exact ⟨due, rfl⟩
      | _ => simp [beatDue?, hHeart] at hDue
  | received m i =>
      cases i with
      | frame p =>
          simp only [sign?] at hSign
          split at hSign
          · split at hSign <;> cases hSign
          · cases hSign
      | _ => cases hSign
  | _ => cases hSign

/- A beat is awaited once it is sent, and sends for the next. -/
theorem sendDueBeat_fields
    (s : Session)
    (m : Moment) :
    (s.sendDueBeat m).phase = s.phase ∧
      (s.sendDueBeat m).isDead = s.isDead ∧
        (s.sendDueBeat m).missed = s.missed ∧
          ∀ due, (s.sendDueBeat m).heartbeat = .due due →
            (s.sendDueBeat m).awaitingAck = true := by
  unfold sendDueBeat
  split
  · rename_i t hBeat
    rw [eq_order_of_beat hBeat]
    exact ⟨rfl, rfl, rfl, fun _ _ => rfl⟩
  · rename_i cause _
    refine ⟨rfl, rfl, rfl, fun due hDue => ?_⟩
    cases hExpected : isExpected cause <;>
      simp [hExpected] at hDue

/- What a beat that was due leaves is reckoned with. -/
theorem Reckons.pulse
    {signs : List Sign}
    {due : Option Rat}
    (m : Moment)
    (hReckons : Reckons signs s)
    (hDue : s.heartbeat = .due due) :
    Reckons (.tick :: signs) (s.pulse m) := by
  have hLives := hReckons.lives due hDue
  have hBusy : s.isBusy = true :=
    hReckons.calm (by simp [hDue])
  rw [hLives.pulse m]
  split
  · rename_i hLimit
    rw [closeSocket_eq]
    refine ⟨fun _ => hBusy, ?_, ?_, ?_⟩
    · intro due hOver
      cases hOver
    · intro hConnects
      cases hPhase : s.phase <;>
        simp [isBusy, isOpening, isGreeting, hPhase]
          at hBusy hConnects
    · intro _ _
      exact ⟨rfl, [], .tick :: signs, rfl, hLimit⟩
  · rename_i hBelow
    rcases sendDueBeat_fields
        { s with missed := overdue (.tick :: signs) } m with
      ⟨hPhase, hDead, hMissed, hAwaiting⟩
    generalize
      { s with
        missed := overdue (.tick :: signs) }.sendDueBeat m = t
      at *
    have hAlive : t.isDead = false :=
      hDead.trans hLives.isDead
    refine ⟨fun _ => ?_, fun due hBeats => ?_, fun _ => hAlive,
      fun _ hGone => ?_⟩
    · simpa only [isBusy, hPhase] using hBusy
    · refine ⟨hAlive, by simp [hAwaiting due hBeats],
        hMissed, ?_⟩
      unfold missedLimit at hBelow
      omega
    · cases hAlive.symm.trans hGone

------------------------------------------------------------
-- Runs
------------------------------------------------------------

/- The attempt that a session makes has no connection yet. -/
theorem reckons_attempt
    (signs : List Sign)
    (hSilent : s.heartbeat = .silent) :
    Reckons signs s.attempt := by
  have hStill : s.attempt.heartbeat = .silent :=
    (attempt_keeps s).heartbeat.trans hSilent
  rcases attempt_cases s with ⟨url, hOpens⟩ | hFetches
  · rw [hOpens] at hStill ⊢
    exact reckons_of_silent signs hStill rfl fun _ => rfl
  · rw [hFetches] at hStill ⊢
    apply reckons_of_silent signs hStill rfl
    simp [isOpening, isGreeting, order]

theorem reckons_connect
    (signs : List Sign)
    (hSilent : s.heartbeat = .silent) :
    Reckons signs s.connect := by
  apply reckons_attempt
  rw [setStatus_eq]
  exact hSilent

/- Closing does not change what is counted. -/
theorem Reckons.close
    {signs : List Sign}
    (hReckons : Reckons signs s) :
    Reckons signs s.close := by
  have hClosed :
      Reckons signs
        ({ s with closing := true }.closeSocket leaveCode) := by
    rw [closeSocket_eq]
    exact hReckons.of_counts rfl rfl ⟨rfl, rfl, rfl⟩
  unfold Session.close
  split
  · exact hReckons
  · simp only
    split
    · rename_i until_ hPhase
      rw [closeSocket_phase] at hPhase
      have hWaiting : s.phase = .waiting until_ := hPhase
      have hSilent :=
        hReckons.silent (by simp [isBusy, hWaiting])
      apply reckons_of_isOver
      · rw [finish_eq, closeSocket_eq]
        exact hSilent
      · rw [finish_eq]
        rfl
    · exact hClosed

/- What is received is reckoned with. -/
theorem Reckons.receive
    {signs : List Sign}
    (m : Moment)
    (i : Inbound)
    (hReckons : Reckons signs s) :
    Reckons
      (if s.isGreetedBy (.received m i) then []
        else (s.sign? (.received m i)).toList ++ signs)
      (s.receive m i) := by
  unfold Session.receive
  cases hPhase : s.phase with
  | greeting resuming deadline =>
      have hAlive :=
        hReckons.fresh (Or.inr (by simp [isGreeting, hPhase]))
      cases i with
      | frame p =>
          have hNone :
              s.sign? (.received m (.frame p)) = none := by
            simp [sign?, hPhase]
          rw [hNone]
          apply Reckons.greet m resuming p hAlive
          intro interval t hRead hSent
          rw [isGreetedBy_of_present hPhase hRead hSent, if_pos rfl]
      | nothing =>
          apply Reckons.greet m resuming .null hAlive
          intro interval t hRead
          cases hRead
      | closed code => exact reckons_leave _ s m _
      | failed cause => exact reckons_leave _ s m _
  | listening =>
      have hBusy : s.isBusy = true := by simp [isBusy, hPhase]
      have hNot : s.isGreetedBy (.received m i) = false := by
        cases i <;> simp [isGreetedBy, isGreeting, hPhase]
      rw [hNot]
      cases i with
      | frame p => exact hReckons.hear m p hPhase
      | nothing => exact hReckons.goOn m hBusy
      | closed code => exact reckons_leave signs s m _
      | failed cause => exact reckons_leave signs s m _
  | _ =>
      cases i <;>
        simpa [isGreetedBy, isGreeting, sign?, hPhase]
          using hReckons

/- So is the time that passes. -/
theorem Reckons.tick
    {signs : List Sign}
    (m : Moment)
    (hReckons : Reckons signs s) :
    Reckons ((s.sign? (.passed m)).toList ++ signs)
      (s.tick m) := by
  by_cases hDue : s.beatDue?.any (· ≤ m.now) = true
  · have hSign : s.sign? (.passed m) = some .tick := by
      simp only [sign?, hDue, if_true]
    rcases due_of_sign hSign with ⟨n, hTime, hTick, due, hBeats⟩
    cases hTime
    rw [hSign, hTick]
    exact hReckons.pulse m hBeats
  · have hNone : s.sign? (.passed m) = none := by
      simp only [sign?, hDue]
      rfl
    rw [hNone]
    unfold Session.tick
    rw [if_neg hDue]
    split
    · unfold runOut
      cases hPhase : s.phase with
      | greeting => exact reckons_leave signs s m _
      | waiting =>
          exact reckons_attempt signs
            (hReckons.silent (by simp [isBusy, hPhase]))
      | _ => exact hReckons
    · exact hReckons

/- An address, a socket and a hydration are no signs. -/
theorem Reckons.fetched
    {signs : List Sign}
    (m : Moment)
    (result : Except Cause String)
    (hReckons : Reckons signs s) :
    Reckons signs (s.fetched m result) := by
  unfold Session.fetched
  cases hPhase : s.phase with
  | fetching resuming =>
      have hSilent :=
        hReckons.silent (by simp [isBusy, hPhase])
      cases result with
      | ok url =>
          exact reckons_of_silent signs hSilent rfl fun _ => rfl
      | error cause => exact reckons_lose signs m cause hSilent
  | _ => exact hReckons

theorem Reckons.opened
    {signs : List Sign}
    (m : Moment)
    (result : Except Cause Unit)
    (hReckons : Reckons signs s) :
    Reckons signs (s.opened m result) := by
  unfold Session.opened
  cases hPhase : s.phase with
  | opening resuming =>
      have hSilent :=
        hReckons.silent (by simp [isBusy, hPhase])
      have hAlive :=
        hReckons.fresh (Or.inl (by simp [isOpening, hPhase]))
      cases result with
      | ok =>
          exact reckons_of_silent signs hSilent rfl
            fun _ => hAlive
      | error cause => exact reckons_lose signs m cause hSilent
  | _ => exact hReckons

theorem Reckons.hydrated
    {signs : List Sign}
    (m : Moment)
    (result : Except Cause Unit)
    (hReckons : Reckons signs s) :
    Reckons signs (s.hydrated m result) := by
  unfold Session.hydrated
  cases hPhase : s.phase with
  | hydrating =>
      cases result with
      | ok =>
          have hActive : Reckons signs (s.markActive m.now) := by
            apply hReckons.of_counts _ _
              (markActive_counts s m.now)
            · rw [markActive_eq]
            · rw [markActive_eq]
          apply hActive.goOn
          rw [markActive_eq]
          simp [isBusy, hPhase]
      | error cause =>
          exact reckons_leave signs s m (some cause)
  | _ => exact hReckons

/- Each stimulus is reckoned with. -/
theorem Reckons.react
    {signs : List Sign}
    (hReckons : Reckons signs s)
    (x : Stimulus)
    (hTurn : x = .connect → s.hasEnded = true) :
    Reckons
      (if s.isGreetedBy x then []
        else (s.sign? x).toList ++ signs)
      (s.react x) := by
  cases x with
  | connect =>
      have hIdle : s.isBusy = false := by
        have hEnded := hTurn rfl
        cases hPhase : s.phase <;>
          simp [hasEnded, isBusy, hPhase] at hEnded ⊢
      exact reckons_connect signs (hReckons.silent hIdle)
  | close => exact hReckons.close
  | fetched m result => exact hReckons.fetched m result
  | opened m result => exact hReckons.opened m result
  | received m i => exact hReckons.receive m i
  | hydrated m result => exact hReckons.hydrated m result
  | passed m => exact hReckons.tick m
  | lost => exact hReckons.of_counts rfl rfl ⟨rfl, rfl, rfl⟩

/- A session always knows of the signs that it was given. -/
theorem reckons_course
    (hRest : s.IsAtRest)
    (xs : List Stimulus)
    (hTurn : s.IsInTurn xs) :
    Reckons (s.signs xs) (s.course xs) := by
  induction xs with
  | nil => exact reckons_connect [] hRest.heartbeat
  | cons x xs hInduction =>
      exact (hInduction hTurn.1).react x hTurn.2

/-
  A session gives its connection up: it beats no more, and it
  closes a socket that is open so that it can be resumed.
-/
structure GivesUp
    (s t : Session) : Prop where
  isDead : t.isDead = true
  heartbeat : t.heartbeat = .over
  socketOpen : t.socketOpen = false
  outbox : t.outbox = s.outbox ++ s.shutting resumeCode

/- A tick at which too many are overdue is the last one. -/
theorem Lives.givesUp
    {signs : List Sign}
    (m : Moment)
    (hLives : Lives signs s)
    (hLimit : missedLimit ≤ overdue (.tick :: signs)) :
    GivesUp s (s.pulse m) := by
  rw [hLives.pulse m, if_pos hLimit, closeSocket_eq]
  exact ⟨rfl, rfl, rfl, rfl⟩

/- A beat that can be sent is sent, and the next one is due. -/
theorem sendDueBeat_of_open
    (s : Session)
    (m : Moment)
    (hOpen : s.socketOpen = true)
    (hSends : m.sendFailure = none) :
    (s.sendDueBeat m).heartbeat =
        .due (s.interval.bind (nextBeat m.now 1)) ∧
      (s.sendDueBeat m).outbox =
        s.outbox ++ [.send s.heartbeatFrame] := by
  have hBeat :
      s.beat m =
        .ok { s.order (.send s.heartbeatFrame) with
          awaitingAck := true } := by
    simp [beat, send, hOpen, hSends, bind, Except.bind, pure,
      Except.pure]
  simp [sendDueBeat, hBeat, order]

/- The session gives up at the third tick without an answer. -/
theorem givesUp_of_third
    {older : List Stimulus}
    {g : Sign}
    {recent earlier : List Sign}
    (hReckons : Reckons (s.signs older) (s.course older))
    (hSign : (s.course older).sign? x = some g)
    (hOlder : s.signs older = recent ++ earlier)
    (hNone : .answer ∉ g :: recent)
    (hTicks : 3 ≤ (g :: recent).count .tick)
    (hFew : ¬ 3 ≤ recent.count .tick) :
    g = .tick ∧
      GivesUp (s.course older) (s.course (x :: older)) := by
  have hTick : g = .tick := by
    by_contra hOther
    rw [List.count_cons_of_ne hOther] at hTicks
    exact hFew hTicks
  subst hTick
  have hLimit : 2 ≤ overdue (.tick :: recent ++ earlier) :=
    two_le_overdue hNone hTicks
  rw [List.cons_append, ← hOlder] at hLimit
  rcases due_of_sign hSign with ⟨m, rfl, hPulse, due, hDue⟩
  have hGone := (hReckons.lives due hDue).givesUp m hLimit
  rw [← hPulse] at hGone
  exact ⟨rfl, hGone⟩

/-
  Three ticks without an answer between them are too many: at
  the last of them, if not before, the session gives up.
-/
theorem givesUp_of_unanswered
    (hRest : s.IsAtRest)
    (xs : List Stimulus)
    (hTurn : s.IsInTurn xs)
    {later earlier : List Sign}
    (hSigns : s.signs xs = later ++ earlier)
    (hNone : .answer ∉ later)
    (hTicks : 3 ≤ later.count .tick) :
    ∃ newer x older recent,
      xs = newer ++ x :: older ∧
        s.signs (x :: older) = .tick :: recent ++ earlier ∧
          .tick :: recent <:+ later ∧
            recent.count .tick ≤ 2 ∧
              GivesUp (s.course older)
                (s.course (x :: older)) := by
  induction xs generalizing later with
  | nil =>
      have hEmpty : later = [] :=
        (List.append_eq_nil_iff.mp hSigns.symm).1
      simp [hEmpty] at hTicks
  | cons x older hInduction =>
      have hReckons := reckons_course hRest older hTurn.1
      cases hGreeted : (s.course older).isGreetedBy x with
      | true =>
          simp only [signs, hGreeted, if_true] at hSigns
          have hEmpty : later = [] :=
            (List.append_eq_nil_iff.mp hSigns.symm).1
          simp [hEmpty] at hTicks
      | false =>
          have hWhole :
              s.signs (x :: older) =
                ((s.course older).sign? x).toList ++
                  s.signs older := by
            simp [signs, hGreeted]
          rw [hWhole] at hSigns
          cases hSign : (s.course older).sign? x with
          | none =>
              simp only [hSign, Option.toList_none,
                List.nil_append] at hSigns
              rcases hInduction hTurn.1 hSigns hNone hTicks with
                ⟨newer, y, oldest, recent, rfl, hRest⟩
              exact ⟨x :: newer, y, oldest, recent, rfl, hRest⟩
          | some g =>
              rw [hSign] at hSigns
              cases later with
              | nil => simp at hTicks
              | cons h recent =>
                  simp only [Option.toList_some,
                    List.cons_append, List.nil_append,
                    List.cons.injEq] at hSigns
                  rcases hSigns with ⟨rfl, hOlder⟩
                  have hStill : .answer ∉ recent :=
                    fun hMember => hNone (.tail g hMember)
                  -- The third tick is the first sign or an older one.
                  by_cases hMore : 3 ≤ recent.count .tick
                  · rcases hInduction hTurn.1 hOlder hStill
                        hMore with
                      ⟨newer, y, oldest, rest, rfl, hSplit,
                        hSuffix, hGone⟩
                    exact ⟨x :: newer, y, oldest, rest, rfl,
                      hSplit,
                      hSuffix.trans (List.suffix_cons g recent),
                      hGone⟩
                  · have hFew : recent.count .tick ≤ 2 := by
                      omega
                    rcases givesUp_of_third hReckons hSign hOlder
                        hNone hTicks hMore with ⟨rfl, hGone⟩
                    refine ⟨[], x, older, recent, rfl, ?_,
                      List.suffix_refl _, hFew, hGone⟩
                    rw [hWhole, hSign, hOlder]
                    rfl

/-
  How a session judges its connection, after any run. One that
  answers between the ticks does not count as dead.
-/
structure IsVigilant
    (s : Session)
    (xs : List Stimulus) : Prop where
  spared :
    (s.course xs).isConnected = true →
      IsAnswered (s.signs xs) →
        (s.course xs).isDead = false
  judged : ∀ m,
    (s.course xs).sign? (.passed m) = some .tick →
      if missedLimit ≤ overdue (.tick :: s.signs xs) then
        GivesUp (s.course xs) (s.course (.passed m :: xs))
      else
        (s.course (.passed m :: xs)).isDead = false ∧
          ((s.course xs).socketOpen = true →
            m.sendFailure = none →
              (s.course (.passed m :: xs)).heartbeat =
                .due ((s.course xs).interval.bind
                  (nextBeat m.now 1)) ∧
                (s.course (.passed m :: xs)).outbox =
                  (s.course xs).outbox ++
                    [.send (s.course xs).heartbeatFrame])
  caught : ∀ later earlier,
    s.signs xs = later ++ earlier →
      .answer ∉ later →
        3 ≤ later.count .tick →
          ∃ newer x older recent,
            xs = newer ++ x :: older ∧
              s.signs (x :: older) =
                  .tick :: recent ++ earlier ∧
                .tick :: recent <:+ later ∧
                  recent.count .tick ≤ 2 ∧
                    GivesUp (s.course older)
                      (s.course (x :: older))
  resumable : ∀ m code,
    (s.course xs).isDead = true →
      (s.course xs).phase = .listening →
        (s.course xs).receiveFailure (.closed code) =
            some (.transport "heartbeat ACK missed" code true) ∧
          ((s.course xs).closing = false →
            let t := s.course (.received m (.closed code) :: xs)
            t.isOver = true ∧
              t.hasEnded = false ∧
                t.sessionId = (s.course xs).sessionId ∧
                  t.sequence = (s.course xs).sequence ∧
                    t.resumeUrl = (s.course xs).resumeUrl)

/- A connection that counts as dead is resumed. -/
theorem leave_of_isDead
    {signs : List Sign}
    (m : Moment)
    (code : Option Int)
    (hReckons : Reckons signs s)
    (hDead : s.isDead = true)
    (hPhase : s.phase = .listening)
    (hGoing : s.closing = false) :
    let t := s.receive m (.closed code)
    t.isOver = true ∧ t.hasEnded = false ∧
      t.sessionId = s.sessionId ∧ t.sequence = s.sequence ∧
        t.resumeUrl = s.resumeUrl := by
  have hHeart : s.heartbeat = .over :=
    (hReckons.gone (by simp [isBusy, hPhase]) hDead).1
  have hReceived :
      s.receive m (.closed code) =
        s.leave m
          (some (.transport "heartbeat ACK missed" code true)) := by
    simp [Session.receive, hPhase, receiveFailure, closeFailure,
      hDead]
  have hCited (cause : Cause) :
      s.cited (some cause) = some cause := by
    simp [cited, hHeart]
  have hQuieted :
      s.quieted =
        { s with
          heartbeat := .silent
          socketOpen := false
          outbox := s.outbox ++ s.shutting resumeCode } :=
    quieted_of_whole (by simp [hasBrokenHeart, hHeart])
  rcases wait_eq s.quieted m with ⟨backoff, until_, hWait⟩
  have hLeft :
      s.receive m (.closed code) = s.quieted.wait m := by
    rw [hReceived, leave_eq, hCited, hGoing]
    rfl
  rw [hLeft, hWait, hQuieted]
  exact ⟨rfl, rfl, rfl, rfl, rfl⟩

/-
  In every run a session is vigilant: it gives no connection
  up that answers in time, it gives up one that does not answer
  at the third tick at the latest, and whatever code is then
  reported, it can be resumed.
-/
theorem isVigilant_course
    (hRest : s.IsAtRest)
    (xs : List Stimulus)
    (hTurn : s.IsInTurn xs) :
    s.IsVigilant xs := by
  have hReckons := reckons_course hRest xs hTurn
  refine ⟨?_, ?_, ?_, ?_⟩
  · intro hConnected hAnswered
    by_contra hGone
    rw [Bool.not_eq_false] at hGone
    have hBusy : (s.course xs).isBusy = true := by
      by_contra hIdle
      have hGreeting : (s.course xs).isGreeting = true := by
        cases hPhase : (s.course xs).phase <;>
          simp [isConnected, isBusy, isGreeting, hPhase]
            at hConnected hIdle ⊢
      cases (hReckons.fresh (Or.inr hGreeting)).symm.trans hGone
    rcases hReckons.gone hBusy hGone with
      ⟨_, later, earlier, hSplit, hOverdue⟩
    rw [hSplit] at hAnswered
    have hFew := overdue_le_one hAnswered.of_append
    omega
  · intro m hSign
    rcases due_of_sign hSign with ⟨n, hTime, hPulse, due, hDue⟩
    cases hTime
    have hLives := hReckons.lives due hDue
    have hReact :
        s.course (.passed m :: xs) = (s.course xs).pulse m :=
      hPulse
    rw [hReact]
    split
    · rename_i hLimit
      exact hLives.givesUp m hLimit
    · rename_i hBelow
      rw [hLives.pulse m, if_neg hBelow]
      refine ⟨?_, fun hOpen hSends => ?_⟩
      · exact (sendDueBeat_fields _ m).2.1.trans hLives.isDead
      · exact sendDueBeat_of_open _ m hOpen hSends
  · intro later earlier hSigns hNone hTicks
    exact givesUp_of_unanswered hRest xs hTurn hSigns hNone
      hTicks
  · intro m code hDead hPhase
    refine ⟨by simp [receiveFailure, closeFailure, hDead], ?_⟩
    intro hGoing
    exact leave_of_isDead m code hReckons hDead hPhase hGoing

/- A session starts, and its connection falls silent. -/
def silence : List Stimulus :=
  [
    .passed (momentAt 2),
    .passed (momentAt 1),
    .passed (momentAt 0),
    .received (momentAt 0) (.frame readyFrame),
    .received (momentAt 0) (.frame helloFrame),
    .opened (momentAt 0) (.ok ()),
    .fetched (momentAt 0) (.ok "wss://gateway")
  ]

/-
  The third tick is the last one. The session is kept, though
  the code that is reported would have ended it.
-/
theorem silence_givesUp :
    untouched.IsAtRest ∧
      untouched.IsInTurn silence ∧
        untouched.IsVigilant silence ∧
          untouched.signs silence = [.tick, .tick, .tick] ∧
            (untouched.course silence.tail).isDead = false ∧
              (untouched.course silence).isDead = true ∧
                endsSession 4007 = true ∧
                  (untouched.course
                    (.received (momentAt 2) (.closed (some 4007)) ::
                      silence)).sessionId = some "s" := by
  have hRest : untouched.IsAtRest := isAtRest_new _ _ _ _
  have hTurn : untouched.IsInTurn silence := by
    simp [silence, IsInTurn]
  exact ⟨hRest, hTurn, isVigilant_course hRest silence hTurn,
    by decide +kernel, by decide +kernel, by decide +kernel,
    by decide +kernel, by decide +kernel⟩

end Session

end GuildWarden.Gateway
