import GuildWarden.Proofs.Gateway.Ending
import GuildWarden.Proofs.Gateway.Vigil

/-
  This file shows what still comes of a session after it was
  told to close. A session that has a connection, or waits for
  the next attempt, opens and sends nothing any more. One that
  is about to open its socket is not held back: an address
  that comes later is still used, and a socket that opens later
  is still answered, and left to be resumed.

  Key definitions include:
    * `Gateway.Remnant`
    * `Gateway.Session.remnant`
    * `Gateway.Session.Acts`
    * `Gateway.Session.Stops`
    * `Gateway.Session.IsFinal`

  Main statements:
    * `Gateway.Session.Stops.react`
    * `Gateway.Session.stops_course`
    * `Gateway.Session.isFinal_iff_of_close`
-/

namespace GuildWarden.Gateway

------------------------------------------------------------
-- Orders to the Outside
------------------------------------------------------------

/- Whether an order is about the socket. -/
def Order.isOutward : Order → Bool
  | .openSocket _ => true
  | .send _ => true
  | .closeSocket _ => true
  | _ => false

/- The orders that are about the socket. -/
def outwardIn
    (orders : List Order) : List Order :=
  orders.filter Order.isOutward

@[simp] theorem outwardIn_nil :
    outwardIn [] = [] := rfl

@[simp] theorem outwardIn_append
    (before after : List Order) :
    outwardIn (before ++ after) =
      outwardIn before ++ outwardIn after :=
  List.filter_append before after

/-
  A close that some orders leave behind is final: no socket is
  opened, no session is started or resumed, nothing is closed
  so that it can be resumed, and a socket that was open is left
  for good.
-/
structure IsFinal
    (wasOpen : Bool)
    (orders : List Order) : Prop where
  unopened : ∀ url, .openSocket url ∉ orders
  unpresented : ∀ frame, .send frame ∈ orders →
    isKind frame .identify = false ∧
      isKind frame .resume = false
  unresumed : .closeSocket resumeCode ∉ orders
  left : wasOpen = true → .closeSocket leaveCode ∈ orders

/- A close is final or not by what it does to the socket. -/
theorem isFinal_outwardIn_iff
    {wasOpen : Bool}
    {orders : List Order} :
    IsFinal wasOpen (outwardIn orders) ↔
      IsFinal wasOpen orders := by
  have hMember (o : Order) (hOutward : o.isOutward = true) :
      o ∈ outwardIn orders ↔ o ∈ orders := by
    simp [outwardIn, hOutward]
  constructor
  · intro hFinal
    exact ⟨fun url hThere =>
        hFinal.unopened url ((hMember _ rfl).mpr hThere),
      fun frame hThere =>
        hFinal.unpresented frame ((hMember _ rfl).mpr hThere),
      fun hThere =>
        hFinal.unresumed ((hMember _ rfl).mpr hThere),
      fun hOpen => (hMember _ rfl).mp (hFinal.left hOpen)⟩
  · intro hFinal
    exact ⟨fun url hThere =>
        hFinal.unopened url ((hMember _ rfl).mp hThere),
      fun frame hThere =>
        hFinal.unpresented frame ((hMember _ rfl).mp hThere),
      fun hThere =>
        hFinal.unresumed ((hMember _ rfl).mp hThere),
      fun hOpen => (hMember _ rfl).mpr (hFinal.left hOpen)⟩

/- Orders that should not come after a close. -/
def Escapes
    (acts : List Order) : Prop :=
  (∃ url, .openSocket url ∈ acts) ∨
    .closeSocket resumeCode ∈ acts

------------------------------------------------------------
-- What Is Left
------------------------------------------------------------

/-
  What a session that was told to close still has under way:
  nothing, the address of the gateway, a socket that opens, or
  an open socket that should be greeted in time.
-/
inductive Remnant where
  | nothing
  | address
  | socket
  | greeting (deadline : Rat)

namespace Session

/- What a session has under way. -/
def remnant
    (s : Session) : Remnant :=
  match s.phase with
  | .fetching _ => .address
  | .opening _ => .socket
  | .greeting _ deadline =>
    if s.socketOpen then .greeting deadline else .nothing
  | _ => .nothing

end Session

namespace Remnant

open Session

/- What a stimulus makes of it. -/
def step : Remnant → Stimulus → Remnant
  | .address, .fetched _ (.ok _) => .socket
  | .address, .fetched _ (.error _) => .nothing
  | .socket, .opened m (.ok _) =>
    .greeting (m.now + greetingTimeout)
  | .socket, .opened _ (.error _) => .nothing
  | .greeting _, .received _ _ => .nothing
  | .greeting _, .lost => .nothing
  | .greeting deadline, .passed m =>
    if deadline ≤ m.now then .nothing else .greeting deadline
  | r, _ => r

/-
  Whether a stimulus brings it to light: the address comes, or
  the open socket is greeted or given up.
-/
def surfaces : Remnant → Stimulus → Bool
  | .address, .fetched _ (.ok _) => true
  | .greeting _, .received _ _ => true
  | .greeting deadline, .passed m => deadline ≤ m.now
  | _, _ => false

/- What is left after some stimuli, the latest of them first. -/
def after
    (r : Remnant) : List Stimulus → Remnant
  | [] => r
  | x :: xs => (r.after xs).step x

/- Whether one of them brings it to light. -/
def surfacesIn
    (r : Remnant) : List Stimulus → Bool
  | [] => false
  | x :: xs => (r.after xs).surfaces x || r.surfacesIn xs

/- An address bears only on a session that waits for it. -/
theorem unmoved_of_fetched
    {r : Remnant}
    (m : Moment)
    (result : Except Cause String)
    (hOther : r ≠ .address) :
    r.step (.fetched m result) = r ∧
      r.surfaces (.fetched m result) = false := by
  cases r with
  | address => contradiction
  | _ => exact ⟨rfl, rfl⟩

/- So does a socket that opens. -/
theorem unmoved_of_opened
    {r : Remnant}
    (m : Moment)
    (result : Except Cause Unit)
    (hOther : r ≠ .socket) :
    r.step (.opened m result) = r ∧
      r.surfaces (.opened m result) = false := by
  cases r with
  | socket => contradiction
  | _ => exact ⟨rfl, rfl⟩

/- And what is received, or the time, on an open socket. -/
theorem unmoved_of_received
    {r : Remnant}
    (m : Moment)
    (i : Inbound)
    (hOther : ∀ deadline, r ≠ .greeting deadline) :
    r.step (.received m i) = r ∧
      r.surfaces (.received m i) = false := by
  cases r with
  | greeting deadline => exact (hOther deadline rfl).elim
  | _ => exact ⟨rfl, rfl⟩

theorem unmoved_of_passed
    {r : Remnant}
    (m : Moment)
    (hOther : ∀ deadline, r = .greeting deadline →
      ¬ deadline ≤ m.now) :
    r.step (.passed m) = r ∧
      r.surfaces (.passed m) = false := by
  cases r with
  | greeting deadline =>
      simp [step, surfaces, hOther deadline rfl]
  | _ => exact ⟨rfl, rfl⟩

/- Where nothing is left, nothing comes to light. -/
theorem surfacesIn_nothing
    (xs : List Stimulus) :
    nothing.surfacesIn xs = false := by
  have hNothing (xs : List Stimulus) :
      nothing.after xs = .nothing := by
    induction xs with
    | nil => rfl
    | cons x xs hInduction =>
        rw [after, hInduction]
        rfl
  induction xs with
  | nil => rfl
  | cons x xs hInduction =>
      rw [surfacesIn, hNothing, hInduction]
      rfl

end Remnant

namespace Session

variable {s t u : Session}
variable {m : Moment}
variable {x : Stimulus}
variable {p : Payload}
variable {cause : Cause}
variable {failure : Option Cause}

------------------------------------------------------------
-- Acting
------------------------------------------------------------

/- A session goes on with some more orders about its socket. -/
def Acts
    (acts : List Order)
    (s t : Session) : Prop :=
  ∃ orders, t.outbox = s.outbox ++ orders ∧
    outwardIn orders = acts

namespace Acts

variable {acts more : List Order}

theorem of_outbox
    (hOutbox : t.outbox = s.outbox) :
    Acts [] s t :=
  ⟨[], by rw [hOutbox, List.append_nil], rfl⟩

theorem trans
    (hFirst : Acts acts s t)
    (hSecond : Acts more t u) :
    Acts (acts ++ more) s u := by
  rcases hFirst with ⟨before, hBefore, rfl⟩
  rcases hSecond with ⟨after, hAfter, rfl⟩
  refine ⟨before ++ after, ?_, outwardIn_append before after⟩
  rw [hAfter, hBefore, List.append_assoc]

/- Something is done that is not seen from outside. -/
theorem quietly
    (hFirst : Acts acts s t)
    (hSecond : Acts [] t u) :
    Acts acts s u := by
  simpa using hFirst.trans hSecond

end Acts

@[simp] theorem outwardIn_entering
    (s : Session)
    (status : Status) :
    outwardIn (s.entering status) = [] := by
  unfold entering
  split <;> rfl

@[simp] theorem outwardIn_shutting
    (s : Session)
    (code : Int) :
    outwardIn (s.shutting code) = s.shutting code := by
  unfold shutting
  split <;> rfl

theorem shutting_of_closed
    (code : Int)
    (hClosed : s.socketOpen = false) :
    s.shutting code = [] := by
  simp [shutting, hClosed]

theorem order_acts
    (s : Session)
    (o : Order) :
    Acts (outwardIn [o]) s (s.order o) :=
  ⟨[o], rfl, rfl⟩

theorem setStatus_acts
    (s : Session)
    (status : Status) :
    Acts [] s (s.setStatus status) := by
  rw [setStatus_eq]
  exact ⟨_, rfl, outwardIn_entering s status⟩

theorem markActive_acts
    (s : Session)
    (now : Rat) :
    Acts [] s (s.markActive now) := by
  rw [markActive_eq]
  exact ⟨_, rfl, outwardIn_entering s .active⟩

theorem closeSocket_acts
    (s : Session)
    (code : Int) :
    Acts (s.shutting code) s (s.closeSocket code) := by
  rw [closeSocket_eq]
  exact ⟨_, rfl, outwardIn_shutting s code⟩

theorem finish_acts
    (s : Session)
    (failure : Option Cause) :
    Acts (s.shutting leaveCode) s (s.finish failure) := by
  rw [finish_eq]
  exact ⟨s.shutting leaveCode ++ s.entering .disconnected,
    by simp, by simp⟩

/- A session whose heartbeat is whole closes its socket. -/
theorem quieted_acts
    (hWhole : s.hasBrokenHeart = false ∨ s.socketOpen = false) :
    Acts (s.shutting resumeCode) s s.quieted := by
  cases hHeart : s.hasBrokenHeart with
  | false =>
      rw [quieted_of_whole hHeart]
      exact ⟨_, rfl, outwardIn_shutting s resumeCode⟩
  | true =>
      have hClosed : s.socketOpen = false := by
        simpa [hHeart] using hWhole
      rw [shutting_of_closed resumeCode hClosed]
      cases hBroken : s.heartbeat with
      | broken cause =>
          apply Acts.of_outbox
          simp [quieted, hBroken]
      | _ => simp [hasBrokenHeart, hBroken] at hHeart

------------------------------------------------------------
-- Sessions That Stop
------------------------------------------------------------

/-
  A session that was told to close. It waits for no attempt,
  only one that should be greeted has an open socket, and only
  a busy one beats.
-/
structure Stops
    (s : Session) : Prop where
  closing : s.closing = true
  calm : s.heartbeat ≠ .silent → s.isBusy = true
  unwaiting : ∀ until_, s.phase ≠ .waiting until_
  shut : s.socketOpen = true → s.isGreeting = true

/- A session that ends while it is being closed has stopped. -/
theorem stops_finish
    (failure : Option Cause)
    (hClosing : s.closing = true)
    (hSilent : s.heartbeat = .silent) :
    Stops (s.finish failure) ∧
      (s.finish failure).remnant = .nothing := by
  rw [finish_eq]
  refine ⟨⟨hClosing, ?_, by simp, by simp⟩, rfl⟩
  intro hBeats
  exact (hBeats hSilent).elim

/- It leaves its connection for good, but so as to resume. -/
theorem leave_of_closing
    (m : Moment)
    (failure : Option Cause)
    (hClosing : s.closing = true)
    (hWhole : s.hasBrokenHeart = false ∨ s.socketOpen = false) :
    (Stops (s.leave m failure) ∧
      (s.leave m failure).remnant = .nothing) ∧
        Acts (s.shutting resumeCode) s (s.leave m failure) := by
  rcases exists_ends_of_closing (s.cited failure) with
    ⟨final, hEnds⟩
  rw [leave_eq, hClosing, hEnds]
  refine ⟨stops_finish final
    ((quieted_fields s).1.trans hClosing)
    (quieted_fields s).2.2, ?_⟩
  have hClosed : s.quieted.socketOpen = false := by
    rcases hWhole with hWhole | hClosed
    · rw [quieted_of_whole hWhole]
    · unfold quieted
      split
      · exact hClosed
      · rw [closeSocket_eq]
  have hFinish := finish_acts s.quieted final
  rw [shutting_of_closed leaveCode hClosed] at hFinish
  exact (quieted_acts hWhole).quietly hFinish

/- An attempt that fails ends the session. -/
theorem lose_of_closing
    (m : Moment)
    (cause : Cause)
    (hClosing : s.closing = true)
    (hSilent : s.heartbeat = .silent)
    (hClosed : s.socketOpen = false) :
    (Stops (s.lose m cause) ∧
      (s.lose m cause).remnant = .nothing) ∧
        Acts [] s (s.lose m cause) := by
  rcases exists_ends_of_closing (some cause) with
    ⟨final, hEnds⟩
  rw [lose_eq, hClosing, hEnds]
  refine ⟨stops_finish final hClosing hSilent, ?_⟩
  have hFinish := finish_acts s final
  rwa [shutting_of_closed leaveCode hClosed] at hFinish

/- A session that is told to close stops. -/
theorem stops_close
    (hCalm : s.heartbeat ≠ .silent → s.isBusy = true)
    (hGoing : s.closing = false) :
    Stops s.close ∧ Acts (s.shutting leaveCode) s s.close ∧
      (s.isFetching = false → s.isOpening = false →
        s.close.remnant = .nothing) := by
  have hClosed :=
    closeSocket_acts { s with closing := true } leaveCode
  rw [closeSocket_eq] at hClosed
  unfold close
  simp only [hGoing, Bool.false_eq_true, if_false,
    closeSocket_eq]
  split
  · rename_i until_ hPhase
    have hWaiting : s.phase = .waiting until_ := hPhase
    have hSilent : s.heartbeat = .silent := by
      by_contra hBeats
      have hBusy := hCalm hBeats
      simp [isBusy, hWaiting] at hBusy
    have hEnds :=
      stops_finish
        (s := { s with
          closing := true
          socketOpen := false
          outbox := s.outbox ++ s.shutting leaveCode })
        none rfl hSilent
    refine ⟨hEnds.1, ?_, fun _ _ => hEnds.2⟩
    exact hClosed.quietly (finish_acts _ none)
  · rename_i hElse
    refine ⟨⟨rfl, hCalm, hElse, by simp⟩, hClosed, ?_⟩
    intro hFetches hOpens
    cases hPhase : s.phase <;>
      simp [remnant, isFetching, isOpening, hPhase]
        at hFetches hOpens ⊢

------------------------------------------------------------
-- One Step
------------------------------------------------------------

/-
  What a stimulus makes of a session that stops: what was under
  way goes on, and it is seen from outside if it comes to light.
-/
structure Winds
    (x : Stimulus)
    (s t : Session) : Prop where
  stops : Stops t
  remnant : t.remnant = s.remnant.step x
  acts :
    ∃ acts, Acts acts s t ∧
      if s.remnant.surfaces x then Escapes acts
      else acts = []

namespace Winds

/- Nothing is seen from outside. -/
theorem quietly
    (hStops : Stops t)
    (hRemnant : t.remnant = s.remnant.step x)
    (hHidden : s.remnant.surfaces x = false)
    (hActs : Acts [] s t) :
    Winds x s t :=
  ⟨hStops, hRemnant, [], hActs, by simp [hHidden]⟩

/- Nothing happens. -/
theorem unmoved
    (hStops : Stops s)
    (hUnmoved :
      s.remnant.step x = s.remnant ∧
        s.remnant.surfaces x = false) :
    Winds x s s :=
  quietly hStops hUnmoved.1.symm hUnmoved.2 (.of_outbox rfl)

/- A session without a socket leaves without a trace. -/
theorem of_leave
    (m : Moment)
    (failure : Option Cause)
    (hNothing : s.remnant = .nothing)
    (hActs : Acts [] s u)
    (hClosing : u.closing = true)
    (hClosed : u.socketOpen = false) :
    Winds x s (u.leave m failure) := by
  rcases leave_of_closing m failure hClosing
      (Or.inr hClosed) with ⟨⟨hStops, hLeft⟩, hActsNow⟩
  rw [shutting_of_closed resumeCode hClosed] at hActsNow
  refine quietly hStops ?_ ?_ (hActs.quietly hActsNow)
  · rw [hLeft, hNothing]
    rfl
  · rw [hNothing]
    rfl

end Winds

/- What is under way tells the phase. -/
theorem phase_of_remnant
    {deadline : Rat}
    (hRemnant : s.remnant = .greeting deadline) :
    (∃ resuming, s.phase = .greeting resuming deadline) ∧
      s.socketOpen = true := by
  cases hPhase : s.phase with
  | greeting resuming other =>
      cases hOpen : s.socketOpen <;>
        simp_all [remnant]
  | _ => simp [remnant, hPhase] at hRemnant

theorem isFetching_of_remnant
    (hRemnant : s.remnant = .address) :
    s.isFetching = true := by
  cases hPhase : s.phase with
  | fetching => simp [isFetching, hPhase]
  | greeting =>
      cases hOpen : s.socketOpen <;>
        simp [remnant, hPhase, hOpen] at hRemnant
  | _ => simp [remnant, hPhase] at hRemnant

theorem isOpening_of_remnant
    (hRemnant : s.remnant = .socket) :
    s.isOpening = true := by
  cases hPhase : s.phase with
  | opening => simp [isOpening, hPhase]
  | greeting =>
      cases hOpen : s.socketOpen <;>
        simp [remnant, hPhase, hOpen] at hRemnant
  | _ => simp [remnant, hPhase] at hRemnant

/- A session that is busy has nothing under way. -/
theorem remnant_of_isBusy
    (hBusy : s.isBusy = true) :
    s.remnant = .nothing := by
  cases hPhase : s.phase <;>
    simp [isBusy, remnant, hPhase] at hBusy ⊢

/- Only a session that should be greeted has an open socket. -/
theorem socketOpen_of_ungreeted
    (hStops : Stops s)
    (hOther : s.isGreeting = false) :
    s.socketOpen = false := by
  by_contra hOpen
  have hGreeting := hStops.shut (by simpa using hOpen)
  cases hOther.symm.trans hGreeting

theorem socketOpen_of_isBusy
    (hStops : Stops s)
    (hBusy : s.isBusy = true) :
    s.socketOpen = false := by
  apply socketOpen_of_ungreeted hStops
  cases hPhase : s.phase <;>
    simp [isBusy, isGreeting, hPhase] at hBusy ⊢

theorem heartbeat_of_idle
    (hStops : Stops s)
    (hIdle : s.isBusy = false) :
    s.heartbeat = .silent := by
  by_contra hBeats
  cases hIdle.symm.trans (hStops.calm hBeats)

/- A session that stops goes on only to leave. -/
theorem goOn_of_closing
    (m : Moment)
    (hClosing : s.closing = true) :
    s.goOn m = s.leave m none := by
  simp [goOn, hClosing]

/- Without a socket a beat is given up. -/
theorem pulse_of_closed
    (m : Moment)
    (hClosed : s.socketOpen = false) :
    ∃ missed isDead heartbeat,
      s.pulse m = { s with missed, isDead, heartbeat } := by
  have hBeat (missed : Nat) :
      { s with missed }.sendDueBeat m =
        { s with missed, heartbeat := .over } := by
    simp [sendDueBeat, beat, send, hClosed, bind, Except.bind,
      notOpen, isExpected]
  unfold pulse
  split
  · exact ⟨s.missed, s.isDead, .over, hBeat s.missed⟩
  · simp only
    split
    · refine ⟨s.missed + 1, true, .over, ?_⟩
      simp [closeSocket, hClosed]
    · exact ⟨s.missed + 1, s.isDead, .over,
        hBeat (s.missed + 1)⟩

/- A beat is due only to a busy session. -/
theorem isBusy_of_beatDue?
    {now : Rat}
    (hStops : Stops s)
    (hDue : s.beatDue?.any (· ≤ now) = true) :
    s.isBusy = true := by
  apply hStops.calm
  intro hSilent
  simp [beatDue?, hSilent] at hDue

/-
  A session leaves a connection that was not greeted; what it
  may have sent before needs an open socket.
-/
inductive Quits
    (m : Moment)
    (s : Session) : Session → Prop where
  | left {u : Session} {acts : List Order}
      {failure : Option Cause}
      (hClosing : u.closing = true)
      (hSocket : u.socketOpen = s.socketOpen)
      (hWhole : u.hasBrokenHeart = false)
      (hActs : Acts acts s u)
      (hClosed : s.socketOpen = false → acts = []) :
      Quits m s (u.leave m failure)

theorem Quits.at_once
    (m : Moment)
    (failure : Option Cause)
    (hClosing : s.closing = true)
    (hSilent : s.heartbeat = .silent) :
    Quits m s (s.leave m failure) :=
  .left hClosing rfl (by simp [hasBrokenHeart, hSilent])
    (.of_outbox rfl) fun _ => rfl

/- A frame is sent only by a socket that is open. -/
theorem socketOpen_of_send
    {frame : Payload}
    (hSent : s.send m frame = .ok t) :
    s.socketOpen = true := by
  have hOpen := toBool_send s m frame
  rw [hSent] at hOpen
  exact (Bool.and_eq_true_iff.mp hOpen.symm).1

theorem socketOpen_of_beat
    (hBeat : s.beat m = .ok t) :
    s.socketOpen = true := by
  by_contra hClosed
  rw [Bool.not_eq_true] at hClosed
  simp [beat, send, hClosed, bind, Except.bind] at hBeat

/- A greeting is answered, but then the session leaves. -/
theorem quits_greet
    (m : Moment)
    (resuming : Bool)
    (p : Payload)
    (hClosing : s.closing = true)
    (hSilent : s.heartbeat = .silent) :
    Quits m s (s.greet m resuming p) := by
  unfold greet
  split
  · exact .at_once m _ hClosing hSilent
  · rename_i interval _
    simp only [goOnOrLeave]
    split
    · rename_i t hSent
      unfold present at hSent
      have hOpen : (s.startHeartbeat m interval).socketOpen =
          true :=
        socketOpen_of_send hSent
      have hStill : t.closing = true := by
        rw [eq_order_of_send hSent]
        exact hClosing
      rw [goOn_of_closing m hStill, eq_order_of_send hSent]
      refine .left hClosing rfl rfl ⟨_, rfl, rfl⟩ ?_
      intro hClosed
      cases hOpen.symm.trans hClosed
    · exact .left hClosing rfl rfl (.of_outbox rfl)
        fun _ => rfl

/- Whatever is received first makes a session that stops leave. -/
theorem quits_receive
    {resuming : Bool}
    {deadline : Rat}
    (m : Moment)
    (i : Inbound)
    (hPhase : s.phase = .greeting resuming deadline)
    (hClosing : s.closing = true)
    (hSilent : s.heartbeat = .silent) :
    Quits m s (s.receive m i) := by
  cases i with
  | frame p =>
      simp only [Session.receive, hPhase, receiveFailure]
      exact quits_greet m resuming p hClosing hSilent
  | nothing =>
      simp only [Session.receive, hPhase, receiveFailure]
      exact quits_greet m resuming .null hClosing hSilent
  | closed code =>
      simp only [Session.receive, hPhase, receiveFailure]
      exact .at_once m _ hClosing hSilent
  | failed cause =>
      simp only [Session.receive, hPhase, receiveFailure]
      exact .at_once m _ hClosing hSilent

/- Quitting is seen exactly if the socket was open. -/
theorem Quits.winds
    {resuming : Bool}
    {deadline : Rat}
    (hQuits : Quits m s t)
    (hPhase : s.phase = .greeting resuming deadline)
    (hStep : (Remnant.greeting deadline).step x = .nothing)
    (hSurfaces :
      (Remnant.greeting deadline).surfaces x = true) :
    Winds x s t := by
  cases hQuits with
  | left hClosing hSocket hWhole hActs hClosed =>
    rename_i u acts failure
    rcases leave_of_closing m failure hClosing (Or.inl hWhole)
      with ⟨⟨hStops, hLeft⟩, hLeave⟩
    have hTotal := hActs.trans hLeave
    cases hOpen : s.socketOpen with
    | true =>
        have hRemnant : s.remnant = .greeting deadline := by
          simp [remnant, hPhase, hOpen]
        have hShut :
            u.shutting resumeCode = [.closeSocket resumeCode] := by
          simp [shutting, hSocket, hOpen]
        rw [hShut] at hTotal
        refine ⟨hStops, ?_, _, hTotal, ?_⟩
        · rw [hLeft, hRemnant, hStep]
        · rw [hRemnant, hSurfaces]
          simp [Escapes]
    | false =>
        have hRemnant : s.remnant = .nothing := by
          simp [remnant, hPhase, hOpen]
        have hUnseen : Acts [] s u := by
          rw [← hClosed hOpen]
          exact hActs
        exact .of_leave m failure hRemnant hUnseen hClosing
          (hSocket.trans hOpen)

/- What is heard is not seen from outside without a socket. -/
theorem Handling.acts
    {r : Handled}
    (hHandling : Handling s m p r)
    (hClosed : s.socketOpen = false) :
    Acts [] s r.1 := by
  have hCounted : Acts [] s (s.counted p) :=
    .of_outbox (counted_fields s p).2.2
  have hBegun (r : Event.Ready) (url : Option String) :
      Acts [] s ((s.counted p).begun r url) := by
    have hStored :
        Acts [] (s.counted p)
          { s.counted p with
            sessionId := some r.sessionId
            resumeUrl := url } :=
      .of_outbox rfl
    have hEntered :=
      (hCounted.quietly hStored).quietly
        (setStatus_acts _ .identified)
    exact hEntered.quietly (order_acts _ (.queue (.ready r)))
  cases hHandling with
  | ignored => exact .of_outbox rfl
  | acknowledged => exact .of_outbox rfl
  | answered _ hBeat =>
      cases (socketOpen_of_beat hBeat).symm.trans hClosed
  | unanswered => exact .of_outbox rfl
  | dismissed =>
      unfold kept
      split <;> exact .of_outbox rfl
  | incomparable => exact .of_outbox rfl
  | unread => exact hCounted
  | counted => exact hCounted
  | unusable => exact hCounted.quietly (.of_outbox rfl)
  | started =>
      exact (hBegun _ _).quietly
        (t := { (s.counted p).begun _ _ with phase := .hydrating })
        (order_acts _ (.hydrate _))
  | startedBare =>
      exact (hBegun _ _).quietly (markActive_acts _ m.now)
  | resumed =>
      have hQueued :=
        (hCounted.quietly (setStatus_acts _ .identified)).quietly
          (order_acts _ (.queue .resumed))
      exact hQueued.quietly (markActive_acts _ m.now)
  | queued =>
      exact hCounted.quietly (order_acts _ (.queue _))

/- An attempt that fails is not seen from outside. -/
theorem Winds.of_lose
    (m : Moment)
    (cause : Cause)
    (hStops : Stops s)
    (hSilent : s.heartbeat = .silent)
    (hClosed : s.socketOpen = false)
    (hStep : s.remnant.step x = .nothing)
    (hHidden : s.remnant.surfaces x = false) :
    Winds x s (s.lose m cause) := by
  rcases lose_of_closing m cause hStops.closing hSilent hClosed
    with ⟨⟨hStopsNow, hLeft⟩, hActs⟩
  exact .quietly hStopsNow (hLeft.trans hStep.symm) hHidden
    hActs

namespace Stops

/- A session that stops hydrates at most before it leaves. -/
theorem hear
    (m : Moment)
    (p : Payload)
    (hStops : Stops s)
    (hPhase : s.phase = .listening) :
    Winds (.received m (.frame p)) s (s.hear m p) := by
  have hBusy : s.isBusy = true := by simp [isBusy, hPhase]
  have hClosed := socketOpen_of_isBusy hStops hBusy
  have hNothing := remnant_of_isBusy hBusy
  have hHandling := handling_handle s m p
  have hActs := hHandling.acts hClosed
  have hClosing :=
    hHandling.keeps.closing.trans hStops.closing
  have hStill := hHandling.keeps.socketOpen.trans hClosed
  unfold Session.hear
  split
  · rename_i t cause hResult
    rw [hResult] at hActs hClosing hStill
    exact .of_leave m (some cause) hNothing hActs hClosing
      hStill
  · rename_i t hResult
    rw [hResult] at hActs hClosing hStill
    split
    · rename_i hHydrates
      have hBusyStill : t.isBusy = true := by
        simp [isBusy, hHydrates]
      refine .quietly
        ⟨hClosing, fun _ => hBusyStill,
          by simp [hHydrates], ?_⟩
        ?_ ?_ hActs
      · intro hOpen
        cases hStill.symm.trans hOpen
      · rw [remnant_of_isBusy hBusyStill, hNothing]
        rfl
      · rw [hNothing]
        rfl
    · rw [goOn_of_closing m hClosing]
      exact .of_leave m none hNothing hActs hClosing hStill

theorem receive
    (m : Moment)
    (i : Inbound)
    (hStops : Stops s) :
    Winds (.received m i) s (s.receive m i) := by
  cases hPhase : s.phase with
  | greeting resuming deadline =>
      have hSilent :=
        heartbeat_of_idle hStops (by simp [isBusy, hPhase])
      exact (quits_receive m i hPhase hStops.closing
        hSilent).winds hPhase rfl rfl
  | listening =>
      have hBusy : s.isBusy = true := by simp [isBusy, hPhase]
      have hClosed := socketOpen_of_isBusy hStops hBusy
      have hNothing := remnant_of_isBusy hBusy
      have hLeaves (failure : Option Cause) :
          Winds (.received m i) s (s.leave m failure) :=
        .of_leave m failure hNothing (.of_outbox rfl)
          hStops.closing hClosed
      cases i with
      | frame p =>
          simp only [Session.receive, hPhase, receiveFailure]
          exact hStops.hear m p hPhase
      | nothing =>
          simp only [Session.receive, hPhase, receiveFailure]
          rw [goOn_of_closing m hStops.closing]
          exact hLeaves none
      | closed code =>
          simp only [Session.receive, hPhase, receiveFailure]
          exact hLeaves _
      | failed cause =>
          simp only [Session.receive, hPhase, receiveFailure]
          exact hLeaves _
  | _ =>
      simp only [Session.receive, hPhase]
      apply Winds.unmoved hStops
      apply Remnant.unmoved_of_received
      intro deadline hRemnant
      rcases phase_of_remnant hRemnant with
        ⟨⟨resuming, hGreeting⟩, _⟩
      cases hPhase.symm.trans hGreeting

/- What was to be done for a new session does not matter. -/
theorem hydrated
    (m : Moment)
    (result : Except Cause Unit)
    (hStops : Stops s) :
    Winds (.hydrated m result) s (s.hydrated m result) := by
  unfold Session.hydrated
  cases hPhase : s.phase with
  | hydrating =>
      have hBusy : s.isBusy = true := by simp [isBusy, hPhase]
      have hClosed := socketOpen_of_isBusy hStops hBusy
      have hNothing := remnant_of_isBusy hBusy
      cases result with
      | ok =>
          have hKeeps := markActive_keeps s m.now
          have hClosing :=
            hKeeps.closing.trans hStops.closing
          rw [goOn_of_closing m hClosing]
          exact .of_leave m none hNothing
            (markActive_acts s m.now) hClosing
            (hKeeps.socketOpen.trans hClosed)
      | error cause =>
          exact .of_leave m (some cause) hNothing
            (.of_outbox rfl) hStops.closing hClosed
  | _ =>
      apply Winds.unmoved hStops
      cases s.remnant <;> exact ⟨rfl, rfl⟩

theorem fetched
    (m : Moment)
    (result : Except Cause String)
    (hStops : Stops s) :
    Winds (.fetched m result) s (s.fetched m result) := by
  unfold Session.fetched
  cases hPhase : s.phase with
  | fetching resuming =>
      have hSilent :=
        heartbeat_of_idle hStops (by simp [isBusy, hPhase])
      have hClosed :=
        socketOpen_of_ungreeted hStops
          (by simp [isGreeting, hPhase])
      have hRemnant : s.remnant = .address := by
        simp [remnant, hPhase]
      cases result with
      | ok url =>
          refine ⟨⟨hStops.closing, ?_, by simp [openAt, order],
            ?_⟩, ?_, [.openSocket url], ⟨_, rfl, rfl⟩, ?_⟩
          · intro hBeats
            exact (hBeats hSilent).elim
          · intro hOpen
            cases hClosed.symm.trans hOpen
          · rw [hRemnant]
            rfl
          · rw [hRemnant]
            exact Or.inl ⟨url, List.mem_singleton_self _⟩
      | error cause =>
          apply Winds.of_lose m cause hStops hSilent hClosed
          · rw [hRemnant]
            rfl
          · rw [hRemnant]
            rfl
  | _ =>
      have hOther : s.remnant ≠ .address := by
        intro hRemnant
        have hFetches := isFetching_of_remnant hRemnant
        simp [isFetching, hPhase] at hFetches
      exact .unmoved hStops
        (Remnant.unmoved_of_fetched m result hOther)

theorem opened
    (m : Moment)
    (result : Except Cause Unit)
    (hStops : Stops s) :
    Winds (.opened m result) s (s.opened m result) := by
  unfold Session.opened
  cases hPhase : s.phase with
  | opening resuming =>
      have hSilent :=
        heartbeat_of_idle hStops (by simp [isBusy, hPhase])
      have hClosed :=
        socketOpen_of_ungreeted hStops
          (by simp [isGreeting, hPhase])
      have hRemnant : s.remnant = .socket := by
        simp [remnant, hPhase]
      cases result with
      | ok =>
          refine .quietly
            ⟨hStops.closing, ?_, by simp, fun _ => rfl⟩ ?_ ?_
            (.of_outbox rfl)
          · intro hBeats
            exact (hBeats hSilent).elim
          · rw [hRemnant]
            rfl
          · rw [hRemnant]
            rfl
      | error cause =>
          apply Winds.of_lose m cause hStops hSilent hClosed
          · rw [hRemnant]
            rfl
          · rw [hRemnant]
            rfl
  | _ =>
      have hOther : s.remnant ≠ .socket := by
        intro hRemnant
        have hOpens := isOpening_of_remnant hRemnant
        simp [isOpening, hPhase] at hOpens
      exact .unmoved hStops
        (Remnant.unmoved_of_opened m result hOther)

/- Time lets a session that stops give up, not connect. -/
theorem tick
    (m : Moment)
    (hStops : Stops s) :
    Winds (.passed m) s (s.tick m) := by
  unfold Session.tick
  split
  · rename_i hDue
    have hBusy := isBusy_of_beatDue? hStops hDue
    have hClosed := socketOpen_of_isBusy hStops hBusy
    have hNothing := remnant_of_isBusy hBusy
    rcases pulse_of_closed m hClosed with
      ⟨missed, isDead, heartbeat, hPulse⟩
    rw [hPulse]
    refine .quietly
      ⟨hStops.closing, fun _ => hBusy, hStops.unwaiting,
        hStops.shut⟩ ?_ ?_ (.of_outbox rfl)
    · rw [hNothing]
      exact hNothing
    · rw [hNothing]
      rfl
  · split
    · rename_i hDue
      unfold runOut
      cases hPhase : s.phase with
      | greeting resuming deadline =>
          have hSilent :=
            heartbeat_of_idle hStops (by simp [isBusy, hPhase])
          have hLate : deadline ≤ m.now := by
            simpa [phaseDue?, hPhase] using hDue
          have hQuits :=
            Quits.at_once m (some .timedOut) hStops.closing
              hSilent
          exact hQuits.winds hPhase
            (by simp [Remnant.step, hLate])
            (by simp [Remnant.surfaces, hLate])
      | waiting until_ =>
          exact (hStops.unwaiting until_ hPhase).elim
      | _ => simp [phaseDue?, hPhase] at hDue
    · rename_i hEarly
      apply Winds.unmoved hStops
      apply Remnant.unmoved_of_passed
      intro deadline hRemnant hLate
      rcases phase_of_remnant hRemnant with
        ⟨⟨resuming, hPhase⟩, _⟩
      simp [phaseDue?, hPhase, hLate] at hEarly

/- A socket that is lost is not seen. -/
theorem lost
    (hStops : Stops s) :
    Winds .lost s { s with socketOpen := false } := by
  refine .quietly
    ⟨hStops.closing, hStops.calm, hStops.unwaiting, by simp⟩
    ?_ ?_ (.of_outbox rfl)
  · cases hPhase : s.phase with
    | greeting =>
        cases hOpen : s.socketOpen <;>
          simp [remnant, hPhase, hOpen, Remnant.step]
    | _ => simp [remnant, hPhase, Remnant.step]
  · cases s.remnant <;> rfl

/- Whatever comes, a session that stops winds down. -/
theorem react
    (x : Stimulus)
    (hStops : Stops s)
    (hOther : x ≠ .connect) :
    Winds x s (s.react x) := by
  cases x with
  | connect => contradiction
  | close =>
      have hSame : s.close = s := by
        simp [Session.close, hStops.closing]
      show Winds .close s s.close
      rw [hSame]
      apply Winds.unmoved hStops
      cases s.remnant <;> exact ⟨rfl, rfl⟩
  | fetched m result => exact hStops.fetched m result
  | opened m result => exact hStops.opened m result
  | received m i => exact hStops.receive m i
  | hydrated m result => exact hStops.hydrated m result
  | passed m => exact hStops.tick m
  | lost => exact hStops.lost

end Stops

------------------------------------------------------------
-- Runs
------------------------------------------------------------

/- In every run a session that was told to close stops. -/
theorem stops_course
    (hRest : s.IsAtRest)
    (xs : List Stimulus)
    (hTurn : s.IsInTurn xs)
    (hClosing : (s.course xs).closing = true) :
    Stops (s.course xs) := by
  induction xs with
  | nil =>
      rw [course, connect, (attempt_keeps _).closing,
        (setStatus_keeps _ _).closing] at hClosing
      cases hClosing
  | cons x xs hInduction =>
      have hCalm := (reckons_course hRest xs hTurn.1).calm
      by_cases hConnects : x = .connect
      · subst hConnects
        rw [course, Session.react, connect,
          (attempt_keeps _).closing,
          (setStatus_keeps _ _).closing] at hClosing
        cases hClosing
      · cases hBefore : (s.course xs).closing with
        | true =>
            exact ((hInduction hTurn.1 hBefore).react x
              hConnects).stops
        | false =>
            rcases closing_of_reaction
                (reaction_react (s.course xs) x) hClosing with
              hSame | rfl
            · cases hBefore.symm.trans hSame
            · exact (stops_close hCalm hBefore).1

/- What a session that stops does, it does while it winds down. -/
theorem winds_course
    (xs ys : List Stimulus)
    (hStops : Stops (s.course xs))
    (hOthers : .connect ∉ ys) :
    Stops (s.course (ys ++ xs)) ∧
      (s.course (ys ++ xs)).remnant =
          (s.course xs).remnant.after ys ∧
        ∃ acts, Acts acts (s.course xs) (s.course (ys ++ xs)) ∧
          if (s.course xs).remnant.surfacesIn ys then
            Escapes acts
          else acts = [] := by
  induction ys with
  | nil =>
      exact ⟨hStops, rfl, [], .of_outbox rfl,
        by simp [Remnant.surfacesIn]⟩
  | cons y ys hInduction =>
      rw [List.mem_cons, not_or] at hOthers
      rcases hInduction hOthers.2 with
        ⟨hStill, hRemnant, acts, hActs, hSeen⟩
      have hWinds := hStill.react y (Ne.symm hOthers.1)
      rcases hWinds.acts with ⟨more, hMore, hNow⟩
      refine ⟨hWinds.stops, ?_, acts ++ more,
        hActs.trans hMore, ?_⟩
      · show (Session.react (s.course (ys ++ xs)) y).remnant = _
        rw [hWinds.remnant, hRemnant]
        rfl
      · rw [hRemnant] at hNow
        rw [Remnant.surfacesIn]
        cases hBefore :
            (s.course xs).remnant.surfacesIn ys with
        | true =>
            rw [hBefore, if_pos rfl] at hSeen
            rw [Bool.or_true, if_pos rfl]
            rcases hSeen with ⟨url, hThere⟩ | hThere
            · exact Or.inl
                ⟨url, List.mem_append_left _ hThere⟩
            · exact Or.inr (List.mem_append_left _ hThere)
        | false =>
            rw [hBefore, if_neg Bool.false_ne_true] at hSeen
            rw [hSeen, List.nil_append, Bool.or_false]
            exact hNow

/-
  A close that nothing escapes is final if the open socket was
  left, and one that something escapes is not.
-/
theorem isFinal_append_iff
    {wasOpen escapes : Bool}
    {before acts : List Order}
    (hSeen : if escapes then Escapes acts else acts = []) :
    IsFinal wasOpen (before ++ acts) ↔
      escapes = false ∧ IsFinal wasOpen before := by
  cases escapes with
  | true =>
      rw [if_pos rfl] at hSeen
      refine ⟨fun hFinal => ?_, fun ⟨hNothing, _⟩ => ?_⟩
      · rcases hSeen with ⟨url, hThere⟩ | hThere
        · exact (hFinal.unopened url
            (List.mem_append_right before hThere)).elim
        · exact (hFinal.unresumed
            (List.mem_append_right before hThere)).elim
      · cases hNothing
  | false =>
      rw [if_neg Bool.false_ne_true] at hSeen
      simp [hSeen]

/- Leaving the socket for good is final. -/
theorem isFinal_shutting
    (s : Session) :
    IsFinal s.socketOpen (s.shutting leaveCode) := by
  cases hOpen : s.socketOpen with
  | true =>
      have hShut :
          s.shutting leaveCode = [.closeSocket leaveCode] := by
        simp [shutting, hOpen]
      rw [hShut]
      exact ⟨by simp, by simp,
        by simp [leaveCode, resumeCode], by simp⟩
  | false =>
      rw [shutting_of_closed leaveCode hOpen]
      exact ⟨by simp, by simp, by simp, by simp⟩

/-
  A session is told to close at any moment of a run. Nothing is
  opened, started, resumed or closed to be resumed after that,
  and an open socket is left for good, exactly if what was under
  way does not come to light, and the session was not told
  before while a socket has been opened since. So a close is
  final whenever the session neither waits for the address nor
  opens its socket, and is told for the first time.
-/
theorem isFinal_iff_of_close
    (hRest : s.IsAtRest)
    (xs ys : List Stimulus)
    (hTurn : s.IsInTurn xs)
    (hOthers : .connect ∉ ys) :
    let t := s.course xs
    ∃ orders,
      (s.course (ys ++ .close :: xs)).outbox =
          t.outbox ++ orders ∧
        (IsFinal t.socketOpen orders ↔
          t.close.remnant.surfacesIn ys = false ∧
            (t.closing = true → t.socketOpen = false)) ∧
          (t.closing = false →
            t.isFetching = false → t.isOpening = false →
              IsFinal t.socketOpen orders) := by
  intro t
  have hCalm := (reckons_course hRest xs hTurn).calm
  cases hClosing : t.closing with
  | true =>
      have hSame : t.close = t := by simp [close, hClosing]
      have hStops : Stops (s.course (.close :: xs)) := by
        show Stops t.close
        rw [hSame]
        exact stops_course hRest xs hTurn hClosing
      rcases winds_course (.close :: xs) ys hStops hOthers with
        ⟨_, _, acts, ⟨orders, hOrders, rfl⟩, hSeen⟩
      refine ⟨orders, ?_, ?_, by simp⟩
      · rw [hOrders]
        show t.close.outbox ++ orders = _
        rw [hSame]
      · have hFinal :
            IsFinal t.socketOpen [] ↔ t.socketOpen = false :=
          ⟨fun hFinal => by simpa using hFinal.left,
            fun hClosed => ⟨by simp, by simp, by simp,
              by simp [hClosed]⟩⟩
        rw [← isFinal_outwardIn_iff,
          ← List.nil_append (outwardIn orders),
          isFinal_append_iff hSeen, hFinal]
        simp [course, Session.react, t]
  | false =>
      rcases stops_close hCalm hClosing with
        ⟨hStops, ⟨before, hBefore, hShut⟩, hNothing⟩
      rcases winds_course (.close :: xs) ys hStops hOthers with
        ⟨_, _, acts, ⟨after, hAfter, rfl⟩, hSeen⟩
      have hFinal :
          IsFinal t.socketOpen (before ++ after) ↔
            t.close.remnant.surfacesIn ys = false := by
        rw [← isFinal_outwardIn_iff, outwardIn_append, hShut,
          isFinal_append_iff hSeen]
        exact and_iff_left (isFinal_shutting t)
      refine ⟨before ++ after, ?_, ?_, ?_⟩
      · rw [hAfter, ← List.append_assoc, ← hBefore]
        rfl
      · rw [hFinal]
        simp
      · intro _ hFetches hOpens
        rw [hFinal, hNothing hFetches hOpens]
        exact Remnant.surfacesIn_nothing ys

/-
  The address comes after the session was told to close; the
  socket opens, and the gateway greets.
-/
def lateAddress : List Stimulus :=
  [
    .received (momentAt 1) (.frame helloFrame),
    .opened (momentAt 1) (.ok ()),
    .fetched (momentAt 1) (.ok "wss://gateway")
  ]

/-
  A session is started after the close, and its socket is left
  as one to be resumed.
-/
theorem lateAddress_escapes :
    untouched.IsAtRest ∧
      untouched.IsInTurn [] ∧
        .connect ∉ lateAddress ∧
          (untouched.course []).isFetching = true ∧
            (untouched.course []).closing = false ∧
              let u := untouched.course (lateAddress ++ [.close])
              (u.outbox.any fun
                | .send frame => isKind frame .identify
                | _ => false) = true ∧
                (u.outbox.any fun
                  | .closeSocket code => code = resumeCode
                  | _ => false) = true ∧
                  ∃ orders,
                    u.outbox =
                        (untouched.course []).outbox ++ orders ∧
                      ¬ IsFinal false orders := by
  have hRest : untouched.IsAtRest := isAtRest_new _ _ _ _
  have hOthers : .connect ∉ lateAddress := by
    simp [lateAddress]
  rcases isFinal_iff_of_close hRest [] lateAddress trivial
      hOthers with ⟨orders, hOutbox, hFinal, _⟩
  refine ⟨hRest, trivial, hOthers, by decide +kernel,
    by decide +kernel, by decide +kernel, by decide +kernel,
    orders, hOutbox, ?_⟩
  intro hThere
  have hHidden := (hFinal.mp hThere).1
  have hSeen :
      (untouched.course []).close.remnant.surfacesIn
        lateAddress = true := by
    decide +kernel
  cases hSeen.symm.trans hHidden

end Session

end GuildWarden.Gateway
