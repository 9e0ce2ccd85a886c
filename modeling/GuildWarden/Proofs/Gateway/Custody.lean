import GuildWarden.Proofs.Gateway.Passage

/-
  This file shows that a session leaves nothing behind. Beside
  the session it keeps a record of every socket and heartbeat
  that was ever started. At any moment one socket is open and
  one heartbeat is alive at most, each heartbeat goes to the
  socket that it was started for, and nothing is open or alive
  once the session has ended.

  Key definitions include:
    * `Gateway.Custody`
    * `Gateway.Session.custody`
    * `Gateway.Session.midway`
    * `Gateway.Session.Stimulus.BeatsSafely`
    * `Gateway.Session.Guards`
    * `Gateway.Session.IsTidy`

  Main statements:
    * `Gateway.Session.Guards.isSole_meet`
    * `Gateway.Session.minds_of_reaction`
    * `Gateway.Session.guards_course`
    * `Gateway.Session.isAtRest_of_ended`
    * `Gateway.Session.isTidy_course`
-/

namespace GuildWarden.Gateway

open Session

variable {s t u : Session}
variable {m : Moment}
variable {cause : Cause}
variable {failure : Option Cause}
variable {x : Stimulus}
variable {p : Payload}

------------------------------------------------------------
-- The Record
------------------------------------------------------------

/- A heartbeat: for which socket it was started, and its state. -/
structure Loop where
  socket : Nat
  isAlive : Bool
deriving DecidableEq

/- A beat: for which socket it was meant, and where it went. -/
structure Ping where
  meant : Option Nat
  socket : Nat
deriving DecidableEq

/-
  Every socket that was ever opened and every heartbeat that
  was ever started, latest first, and the beats. A socket is
  numbered by the sockets there are when it was opened; it is
  recorded whether it is open.
-/
structure Custody where
  sockets : List Bool
  loops : List Loop
  pings : List Ping
deriving DecidableEq

namespace Custody

def empty : Custody :=
  ⟨[], [], []⟩

/- The latest socket is closed, by whichever side. -/
def shut
    (c : Custody) : Custody :=
  { c with sockets := c.sockets.modifyHead fun _ => false }

/- A socket is opened, whatever became of the ones before. -/
def opened
    (c : Custody) : Custody :=
  { c with sockets := true :: c.sockets }

/- A heartbeat is started, whatever became of the ones before. -/
def start
    (c : Custody) : Custody :=
  { c with loops := ⟨c.sockets.length, true⟩ :: c.loops }

/- A beat goes to the latest socket. -/
def ping
    (c : Custody) : Custody :=
  { c with
    pings :=
      ⟨c.loops.head?.map Loop.socket, c.sockets.length⟩ ::
        c.pings }

/- What is done about an order. -/
def observe
    (c : Custody) : Order → Custody
  | .closeSocket _ => c.shut
  | .send frame =>
    if isKind frame .heartbeat then c.ping else c
  | _ => c

/- Only the latest heartbeat can be stopped or go on. -/
def refresh
    (c : Custody)
    (isBeating : Bool) : Custody :=
  { c with
    loops :=
      c.loops.modifyHead fun l => { l with isAlive := isBeating } }

end Custody

namespace Session

/- Whether a session has a heartbeat. -/
def isBeating
    (s : Session) : Bool :=
  match s.heartbeat with
  | .due _ => true
  | _ => false

/- Whether a first frame comes that a session can greet. -/
def isGreetable
    (s : Session)
    (i : Inbound) : Bool :=
  s.isGreeting &&
    (firstFrame? i).any fun p => (readInterval p).toBool

/- What a stimulus opens, starts or closes by itself. -/
def meet
    (s : Session)
    (c : Custody) : Stimulus → Custody
  | .opened _ (.ok _) => if s.isOpening then c.opened else c
  | .received _ i => if s.isGreetable i then c.start else c
  | .lost => c.shut
  | _ => c

/- What is done about the orders between two states. -/
def watch
    (c : Custody)
    (s t : Session) : Custody :=
  (t.outbox.drop s.outbox.length).foldl Custody.observe c

/- The record of a session that connects. -/
def custody
    (s : Session) : List Stimulus → Custody
  | [] => (watch .empty s s.connect).refresh s.connect.isBeating
  | x :: xs =>
    let t := s.course xs
    (watch (t.meet (s.custody xs) x) t (t.react x)).refresh
      (t.react x).isBeating

/- What is on record after so many orders of a reaction. -/
def midway
    (s : Session)
    (c : Custody)
    (x : Stimulus)
    (n : Nat) : Custody :=
  (((s.react x).outbox.drop s.outbox.length).take n).foldl
    Custody.observe (s.meet c x)

/- A heartbeat fails, if at all, for an expected cause. -/
def Stimulus.BeatsSafely : Stimulus → Prop
  | .passed m =>
    ∀ cause, m.sendFailure = some cause →
      isExpected cause = true
  | _ => True

------------------------------------------------------------
-- Latest and Older
------------------------------------------------------------

/- What holds of the latest and of all older holds of all. -/
theorem forall_mem_of_latest
    {α : Type}
    {xs : List α}
    {holds : α → Prop}
    (hLatest : ∀ x, xs.head? = some x → holds x)
    (hOlder : ∀ x ∈ xs.tail, holds x) :
    ∀ x ∈ xs, holds x := by
  cases xs with
  | nil => simp
  | cons latest older =>
      rw [List.forall_mem_cons]
      exact ⟨hLatest latest rfl, hOlder⟩

/- Only the latest of some things can have a property. -/
theorem countP_le_one_of_tail
    {α : Type}
    {xs : List α}
    {holds : α → Bool}
    (hOlder : ∀ x ∈ xs.tail, holds x = false) :
    xs.countP holds ≤ 1 := by
  cases xs with
  | nil => simp
  | cons latest older =>
      have hNone : older.countP holds = 0 := by
        rw [List.countP_eq_zero]
        intro x hMember
        simp [hOlder x hMember]
      rw [List.countP_cons, hNone]
      split <;> omega

/-
  Only the latest socket can be open, and only the latest
  heartbeat can be alive.
-/
structure IsSole
    (c : Custody) : Prop where
  older : true ∉ c.sockets.tail
  silent : ∀ l ∈ c.loops.tail, l.isAlive = false

/- One socket is open and one heartbeat is alive at most. -/
structure IsSingle
    (c : Custody) : Prop where
  sockets : c.sockets.count true ≤ 1
  loops : c.loops.countP Loop.isAlive ≤ 1

variable {c d e : Custody}

namespace IsSole

theorem isSingle
    (hSole : IsSole c) :
    IsSingle c := by
  refine ⟨?_, countP_le_one_of_tail hSole.silent⟩
  rw [List.count_eq_countP]
  apply countP_le_one_of_tail
  intro isOpen hOlder
  cases isOpen with
  | false => rfl
  | true => exact (hSole.older hOlder).elim

theorem shut
    (hSole : IsSole c) :
    IsSole c.shut := by
  refine ⟨?_, hSole.silent⟩
  have hOlder := hSole.older
  cases hSockets : c.sockets with
  | nil => simp [Custody.shut, hSockets]
  | cons latest older =>
      rw [hSockets] at hOlder
      simpa [Custody.shut, hSockets] using hOlder

/- No order opens a socket or starts a heartbeat. -/
theorem observe
    (hSole : IsSole c)
    (o : Order) :
    IsSole (c.observe o) := by
  cases o with
  | closeSocket code => exact hSole.shut
  | send frame =>
      change IsSole (if isKind frame .heartbeat then c.ping else c)
      split
      · exact ⟨hSole.older, hSole.silent⟩
      · exact hSole
  | _ => exact hSole

theorem foldl_observe
    (hSole : IsSole c)
    (orders : List Order) :
    IsSole (orders.foldl Custody.observe c) := by
  induction orders generalizing c with
  | nil => exact hSole
  | cons o orders hInduction =>
      exact hInduction (hSole.observe o)

end IsSole

------------------------------------------------------------
-- Watching
------------------------------------------------------------

/- The orders between two states make one record of another. -/
def Watches
    (c : Custody)
    (s : Session)
    (d : Custody)
    (t : Session) : Prop :=
  ∃ orders, t.outbox = s.outbox ++ orders ∧
    orders.foldl Custody.observe c = d

namespace Watches

theorem of_outbox
    (c : Custody)
    (hOutbox : t.outbox = s.outbox) :
    Watches c s c t :=
  ⟨[], by rw [hOutbox, List.append_nil], rfl⟩

theorem refl
    (c : Custody)
    (s : Session) :
    Watches c s c s :=
  .of_outbox c rfl

theorem trans
    (hFirst : Watches c s d t)
    (hSecond : Watches d t e u) :
    Watches c s e u := by
  rcases hFirst with ⟨before, hBefore, rfl⟩
  rcases hSecond with ⟨after, hAfter, rfl⟩
  refine ⟨before ++ after, ?_, List.foldl_append⟩
  rw [hAfter, hBefore, List.append_assoc]

theorem watch_eq
    (hWatches : Watches c s d t) :
    watch c s t = d := by
  rcases hWatches with ⟨orders, hOrders, rfl⟩
  simp [watch, hOrders]

end Watches

/- Statuses are not recorded. -/
@[simp] theorem observe_entering
    (s : Session)
    (status : Status)
    (c : Custody) :
    (s.entering status).foldl Custody.observe c = c := by
  unfold entering
  split <;> rfl

@[simp] theorem observe_shutting
    (s : Session)
    (code : Int)
    (c : Custody) :
    (s.shutting code).foldl Custody.observe c =
      if s.socketOpen then c.shut else c := by
  unfold shutting
  split <;> rfl

@[simp] theorem observe_heartbeat
    (s : Session)
    (c : Custody) :
    c.observe (.send s.heartbeatFrame) = c.ping := by
  simp [Custody.observe, heartbeatFrame, isKind_frameOf]

@[simp] theorem observe_presentation
    (s : Session)
    (resuming : Bool)
    (c : Custody) :
    c.observe
        (.send
          (if resuming then s.resumeFrame
          else s.identifyFrame)) =
      c := by
  cases resuming <;>
    simp [Custody.observe, identifyFrame, resumeFrame,
      isKind_frameOf]

theorem order_watches
    (s : Session)
    {o : Order}
    (hUnseen : c.observe o = c) :
    Watches c s c (s.order o) :=
  ⟨[o], rfl, hUnseen⟩

theorem setStatus_watches
    (c : Custody)
    (s : Session)
    (status : Status) :
    Watches c s c (s.setStatus status) := by
  rw [setStatus_eq]
  exact ⟨_, rfl, observe_entering s status c⟩

theorem markActive_watches
    (c : Custody)
    (s : Session)
    (now : Rat) :
    Watches c s c (s.markActive now) := by
  rw [markActive_eq]
  exact ⟨_, rfl, observe_entering s .active c⟩

theorem counted_watches
    (c : Custody)
    (s : Session)
    (p : Payload) :
    Watches c s c (s.counted p) :=
  .of_outbox c (counted_fields s p).2.2

theorem begun_watches
    (c : Custody)
    (s : Session)
    (r : Event.Ready)
    (url : Option String) :
    Watches c s c (s.begun r url) := by
  unfold begun
  rw [setStatus_eq]
  refine ⟨_, List.append_assoc _ _ _, ?_⟩
  rw [List.foldl_append, observe_entering]
  rfl

------------------------------------------------------------
-- Custody
------------------------------------------------------------

/-
  The record agrees with the session: the latest socket is open
  if the session has one, and all older ones are closed. All
  beats went where they were meant to.
-/
structure Holds
    (c : Custody)
    (s : Session) : Prop extends IsSole c where
  latest : c.sockets.head?.getD false = s.socketOpen
  pings : ∀ ping ∈ c.pings, ping.meant = some ping.socket
  whole : s.hasBrokenHeart = false

/- The session has neither a socket nor a heartbeat. -/
structure Rests
    (c : Custody)
    (s : Session) : Prop extends Holds c s where
  closed : s.socketOpen = false
  still : s.heartbeat = .silent

/- The latest heartbeat was started for the latest socket. -/
def IsBound
    (c : Custody) : Prop :=
  c.loops.head?.map Loop.socket = some c.sockets.length

/-
  Only a connected session has a socket, and only one that is
  greeted has a heartbeat, which is meant for that socket.
-/
structure Minds
    (c : Custody)
    (s : Session) : Prop extends Holds c s where
  connected : s.socketOpen = true → s.isConnected = true
  calm :
    s.heartbeat ≠ .silent →
      s.phase = .listening ∨ s.phase = .hydrating
  bound :
    s.phase = .listening ∨ s.phase = .hydrating → IsBound c

/- The latest heartbeat is alive if the session has one. -/
structure Guards
    (c : Custody)
    (s : Session) : Prop extends Minds c s where
  beating :
    ∀ l, c.loops.head? = some l → l.isAlive = s.isBeating

namespace Holds

/- The socket stays as it is, and the heartbeat is not broken. -/
theorem of_whole
    (hHolds : Holds c s)
    (hSocket : t.socketOpen = s.socketOpen)
    (hWhole : t.hasBrokenHeart = false) :
    Holds c t := by
  refine ⟨hHolds.toIsSole, ?_, hHolds.pings, hWhole⟩
  rw [hSocket]
  exact hHolds.latest

theorem of_same
    (hHolds : Holds c s)
    (hSocket : t.socketOpen = s.socketOpen)
    (hHeart : t.heartbeat = s.heartbeat) :
    Holds c t := by
  apply hHolds.of_whole hSocket
  unfold hasBrokenHeart
  rw [hHeart]
  exact hHolds.whole

/- Without a socket of its own, a session has none open. -/
theorem none_open
    (hHolds : Holds c s)
    (hClosed : s.socketOpen = false) :
    true ∉ c.sockets := by
  have hAll : ∀ isOpen ∈ c.sockets, isOpen ≠ true := by
    apply forall_mem_of_latest
    · intro isOpen hLatest
      have hSame := hHolds.latest.trans hClosed
      rw [hLatest] at hSame
      simpa using hSame
    · intro isOpen hOlder hOpen
      exact hHolds.older (hOpen ▸ hOlder)
  exact fun hOpen => hAll true hOpen rfl

/- The socket is opened where none is. -/
theorem opened
    (hHolds : Holds c s)
    (hClosed : s.socketOpen = false)
    (hOpen : t.socketOpen = true)
    (hHeart : t.heartbeat = s.heartbeat) :
    Holds c.opened t := by
  refine ⟨⟨hHolds.none_open hClosed, hHolds.silent⟩,
    hOpen.symm, hHolds.pings, ?_⟩
  unfold hasBrokenHeart
  rw [hHeart]
  exact hHolds.whole

/- The socket is closed. -/
theorem shut
    (hHolds : Holds c s)
    (hClosed : t.socketOpen = false)
    (hWhole : t.hasBrokenHeart = false) :
    Holds c.shut t := by
  refine ⟨hHolds.toIsSole.shut, ?_, hHolds.pings, hWhole⟩
  rw [hClosed]
  cases hSockets : c.sockets <;> simp [Custody.shut, hSockets]

/- The socket is closed unless it is closed already. -/
theorem shutting
    (hHolds : Holds c s)
    (hClosed : t.socketOpen = false)
    (hWhole : t.hasBrokenHeart = false) :
    Holds (if s.socketOpen then c.shut else c) t := by
  cases hOpen : s.socketOpen with
  | true => exact hHolds.shut hClosed hWhole
  | false =>
      have hLatest :=
        (hHolds.latest.trans hOpen).trans hClosed.symm
      exact ⟨hHolds.toIsSole, hLatest, hHolds.pings, hWhole⟩

/- A beat goes where it is meant to. -/
theorem ping
    (hHolds : Holds c s)
    (hBound : IsBound c) :
    Holds c.ping s := by
  refine ⟨⟨hHolds.older, hHolds.silent⟩, hHolds.latest, ?_,
    hHolds.whole⟩
  intro ping hMember
  rcases List.mem_cons.mp hMember with rfl | hEarlier
  · exact hBound
  · exact hHolds.pings ping hEarlier

end Holds

theorem IsBound.ping
    (hBound : IsBound c) :
    IsBound c.ping :=
  hBound

theorem IsBound.shut
    (hBound : IsBound c) :
    IsBound c.shut := by
  simpa [IsBound, Custody.shut] using hBound

theorem IsBound.shutting
    (hBound : IsBound c) :
    IsBound (if s.socketOpen then c.shut else c) := by
  split
  · exact hBound.shut
  · exact hBound

/- A session that is not connected has nothing of its own. -/
theorem Minds.rests
    (hMinds : Minds c s)
    (hLeft : s.isConnected = false) :
    Rests c s := by
  refine ⟨hMinds.toHolds, ?_, ?_⟩
  · cases hOpen : s.socketOpen with
    | false => rfl
    | true => cases (hMinds.connected hOpen).symm.trans hLeft
  · by_contra hBeats
    rcases hMinds.calm hBeats with hPhase | hPhase
    · simp [isConnected, hPhase] at hLeft
    · simp [isConnected, hPhase] at hLeft

/- After a step it is recorded whether the heartbeat goes on. -/
theorem Minds.refresh
    (hMinds : Minds c s) :
    Guards (c.refresh s.isBeating) s := by
  have hTail :
      (c.refresh s.isBeating).loops.tail = c.loops.tail := by
    cases hLoops : c.loops <;> simp [Custody.refresh, hLoops]
  have hSocket :
      (c.refresh s.isBeating).loops.head?.map Loop.socket =
        c.loops.head?.map Loop.socket := by
    cases hLoops : c.loops <;> simp [Custody.refresh, hLoops]
  refine ⟨⟨⟨⟨hMinds.older, ?_⟩, hMinds.latest, hMinds.pings,
    hMinds.whole⟩, hMinds.connected, hMinds.calm, ?_⟩, ?_⟩
  · rw [hTail]
    exact hMinds.silent
  · intro hPhase
    exact hSocket.trans (hMinds.bound hPhase)
  · intro l hLatest
    cases hLoops : c.loops with
    | nil => simp [Custody.refresh, hLoops] at hLatest
    | cons first rest =>
        simp only [Custody.refresh, hLoops,
          List.modifyHead_cons, List.head?_cons,
          Option.some.injEq] at hLatest
        rw [← hLatest]

------------------------------------------------------------
-- Leaving and Trying
------------------------------------------------------------

theorem Rests.of_keeps
    (hRests : Rests c s)
    (hKeeps : Keeps s t) :
    Rests c t where
  toHolds :=
    hRests.toHolds.of_same hKeeps.socketOpen hKeeps.heartbeat
  closed := hKeeps.socketOpen.trans hRests.closed
  still := hKeeps.heartbeat.trans hRests.still

/- A session without a connection has nothing to mind. -/
theorem Rests.minds
    (hRests : Rests c s)
    (hLeft : s.isConnected = false) :
    Minds c s := by
  refine ⟨hRests.toHolds, ?_, ?_, ?_⟩
  · intro hOpen
    cases hRests.closed.symm.trans hOpen
  · exact fun hBeats => (hBeats hRests.still).elim
  · rintro (hPhase | hPhase)
    · simp [isConnected, hPhase] at hLeft
    · simp [isConnected, hPhase] at hLeft

/- One that goes on minds the heartbeat for its socket. -/
theorem minds_of_bound
    (hHolds : Holds c s)
    (hBound : IsBound c)
    (hPhase : s.phase = .listening ∨ s.phase = .hydrating) :
    Minds c s := by
  refine ⟨hHolds, ?_, fun _ => hPhase, fun _ => hBound⟩
  rcases hPhase with hPhase | hPhase
  · simp [isConnected, hPhase]
  · simp [isConnected, hPhase]

/- One whose phase is the same has no more to mind. -/
theorem Minds.of_phase
    (hMinds : Minds c s)
    (hHolds : Holds d t)
    (hPhase : t.phase = s.phase)
    (hSocket : t.socketOpen = true → s.socketOpen = true)
    (hHeart : t.heartbeat ≠ .silent → s.heartbeat ≠ .silent)
    (hBound : IsBound c → IsBound d) :
    Minds d t := by
  refine ⟨hHolds, ?_, ?_, ?_⟩
  · intro hOpen
    unfold isConnected
    rw [hPhase]
    exact hMinds.connected (hSocket hOpen)
  · intro hBeats
    rw [hPhase]
    exact hMinds.calm (hHeart hBeats)
  · intro hBusy
    rw [hPhase] at hBusy
    exact hBound (hMinds.bound hBusy)

theorem finish_minds
    (failure : Option Cause)
    (hRests : Rests c s) :
    Watches c s c (s.finish failure) ∧
      Minds c (s.finish failure) := by
  rw [finish_eq]
  refine ⟨⟨_, by rw [List.append_assoc], by simp [hRests.closed]⟩,
    Rests.minds ?_ rfl⟩
  exact hRests.of_keeps ⟨rfl, rfl, hRests.closed.symm, rfl⟩

/- A session that is closed while it waits just ends. -/
theorem ceased_minds
    (hRests : Rests c s) :
    let t := { s with closing := true }.closeSocket leaveCode
    Watches c s c (t.finish none) ∧ Minds c (t.finish none) := by
  intro t
  have hShut : Watches c s c t := by
    unfold t
    rw [closeSocket_eq]
    exact ⟨_, rfl, by simp [hRests.closed]⟩
  have hStill : Rests c t := by
    unfold t
    rw [closeSocket_eq]
    exact ⟨hRests.toHolds.of_same hRests.closed.symm rfl, rfl,
      hRests.still⟩
  rcases finish_minds none hStill with ⟨hFinish, hMinds⟩
  exact ⟨hShut.trans hFinish, hMinds⟩

/- A session that waits, or ends, has left all behind. -/
theorem obey_minds
    (m : Moment)
    (verdict : Verdict)
    (hRests : Rests c s) :
    Watches c s c (s.obey m verdict) ∧
      Minds c (s.obey m verdict) := by
  cases verdict with
  | ends failure => exact finish_minds failure hRests
  | retries isForgotten =>
      have hKept := hRests.of_keeps (kept_keeps s isForgotten)
      have hOutbox : (s.kept isForgotten).outbox = s.outbox := by
        unfold kept
        split <;> rfl
      rcases wait_eq (s.kept isForgotten) m with
        ⟨backoff, until_, hWait⟩
      simp only [obey, hWait, hOutbox]
      exact ⟨⟨_, rfl, by simp⟩,
        Rests.minds (hKept.of_keeps ⟨rfl, rfl, rfl, rfl⟩) rfl⟩

/- A session that leaves closes its socket first. -/
theorem quieted_rests
    (hHolds : Holds c s) :
    ∃ d, Watches c s d s.quieted ∧ Rests d s.quieted := by
  rw [quieted_of_whole hHolds.whole]
  exact ⟨_, ⟨_, rfl, observe_shutting s resumeCode c⟩,
    hHolds.shutting rfl rfl, rfl, rfl⟩

theorem leave_minds
    (m : Moment)
    (failure : Option Cause)
    (hHolds : Holds c s) :
    ∃ d, Watches c s d (s.leave m failure) ∧
      Minds d (s.leave m failure) := by
  rw [leave_eq]
  rcases quieted_rests hHolds with ⟨d, hQuieted, hRests⟩
  rcases obey_minds m (verdict s.closing (s.cited failure))
      hRests with ⟨hWatches, hMinds⟩
  exact ⟨d, hQuieted.trans hWatches, hMinds⟩

/- An attempt has nothing to mind yet. -/
theorem attempt_minds
    (hRests : Rests c s) :
    Watches c s c s.attempt ∧ Minds c s.attempt := by
  have hReadied : Watches c s c s.readied := by
    unfold readied
    split
    · exact .refl c s
    · exact setStatus_watches c s .connecting
  have hWatches : Watches c s c s.attempt := by
    rcases attempt_cases s with ⟨url, hOpens⟩ | hFetches
    · rw [hOpens]
      exact hReadied.trans ⟨[.openSocket url], rfl, rfl⟩
    · rw [hFetches]
      exact hReadied.trans ⟨[.fetch], rfl, rfl⟩
  have hLeft : s.attempt.isConnected = false := by
    rcases phase_attempt s with hPhase | hPhase
    · simp [isConnected, hPhase]
    · simp [isConnected, hPhase]
  exact ⟨hWatches,
    (hRests.of_keeps (attempt_keeps s)).minds hLeft⟩

/- Nor has a session that connects. -/
theorem connect_minds
    (hRests : Rests c s) :
    Watches c s c s.connect ∧ Minds c s.connect := by
  have hSetsOut : Watches c s c s.setOut :=
    setStatus_watches c { s with closing := false } .connecting
  have hReady : Rests c { s with closing := false } :=
    ⟨hRests.toHolds.of_same rfl rfl, hRests.closed, hRests.still⟩
  rcases attempt_minds
      (hReady.of_keeps (setStatus_keeps _ .connecting)) with
    ⟨hAttempt, hMinds⟩
  exact ⟨hSetsOut.trans hAttempt, hMinds⟩

------------------------------------------------------------
-- Reactions
------------------------------------------------------------

/- A frame that is handled is answered by a beat at most. -/
theorem Handling.watches
    {r : Handled}
    (hHandling : Handling s m p r)
    (hHolds : Holds c s)
    (hBound : IsBound c) :
    ∃ d, Watches c s d r.1 ∧ Holds d r.1 ∧ IsBound d := by
  have hKeeps := hHandling.keeps
  have hQuiet
      (hWatches : Watches c s c r.1) :
      ∃ d, Watches c s d r.1 ∧ Holds d r.1 ∧ IsBound d :=
    ⟨c, hWatches,
      hHolds.of_same hKeeps.socketOpen hKeeps.heartbeat, hBound⟩
  have hCounted := counted_watches c s p
  cases hHandling with
  | ignored => exact hQuiet (.refl c s)
  | acknowledged =>
      exact hQuiet (.of_outbox c rfl)
  | answered _ hBeat =>
      rw [eq_order_of_beat hBeat]
      exact ⟨c.ping, ⟨_, rfl, observe_heartbeat s c⟩,
        (hHolds.ping hBound).of_same rfl rfl, hBound.ping⟩
  | unanswered => exact hQuiet (.refl c s)
  | dismissed =>
      apply hQuiet
      unfold kept
      split <;> exact .of_outbox c rfl
  | incomparable => exact hQuiet (.refl c s)
  | unread => exact hQuiet hCounted
  | counted => exact hQuiet hCounted
  | unusable => exact hQuiet hCounted
  | started =>
      exact hQuiet
        ((hCounted.trans (begun_watches c _ _ _)).trans
          ⟨_, rfl, rfl⟩)
  | startedBare =>
      exact hQuiet
        ((hCounted.trans (begun_watches c _ _ _)).trans
          (markActive_watches c _ m.now))
  | resumed =>
      have hQueued :=
        (hCounted.trans (setStatus_watches c _ .identified)).trans
          (order_watches _ (o := .queue .resumed) rfl)
      exact hQuiet
        (hQueued.trans (markActive_watches c _ m.now))
  | queued =>
      exact hQuiet (hCounted.trans (order_watches _ rfl))

/- Only a greeting that can be read starts a heartbeat. -/
theorem meet_of_ungreetable
    {i : Inbound}
    (m : Moment)
    (c : Custody)
    (hGreetable : s.isGreetable i = false) :
    s.meet c (.received m i) = c := by
  simp [meet, hGreetable]

theorem isGreetable_of_other
    (i : Inbound)
    (hGreeting : s.isGreeting = false) :
    s.isGreetable i = false := by
  simp [isGreetable, hGreeting]

theorem isGreetable_of_read
    {i : Inbound}
    (hFrame : firstFrame? i = some p) :
    s.isGreetable i =
      (s.isGreeting && (readInterval p).toBool) := by
  simp [isGreetable, hFrame]

/- Without a heartbeat of its own, a session has none alive. -/
theorem Guards.none_alive
    (hGuards : Guards c s)
    (hSilent : s.heartbeat = .silent) :
    ∀ l ∈ c.loops, l.isAlive = false := by
  apply forall_mem_of_latest
  · intro l hLatest
    rw [hGuards.beating l hLatest, isBeating, hSilent]
  · exact hGuards.silent

/- A heartbeat is started where none is alive. -/
theorem Guards.none_alive_of_greeting
    (hGuards : Guards c s)
    (hGreeting : s.isGreeting = true) :
    ∀ l ∈ c.loops, l.isAlive = false := by
  apply hGuards.none_alive
  by_contra hBeats
  rcases hGuards.calm hBeats with hPhase | hPhase
  · simp [isGreeting, hPhase] at hGreeting
  · simp [isGreeting, hPhase] at hGreeting

theorem Guards.start
    {interval : Span}
    (m : Moment)
    (hGuards : Guards c s)
    (hGreeting : s.isGreeting = true) :
    Holds c.start (s.startHeartbeat m interval) where
  older := hGuards.older
  silent := hGuards.none_alive_of_greeting hGreeting
  latest := hGuards.latest
  pings := hGuards.pings
  whole := rfl

/- Nothing is opened or started beside something else. -/
theorem Guards.isSole_meet
    (hGuards : Guards c s)
    (x : Stimulus) :
    IsSole (s.meet c x) := by
  have hSole := hGuards.toIsSole
  cases x with
  | opened m result =>
      cases result with
      | error => exact hSole
      | ok =>
          change IsSole (if s.isOpening then c.opened else c)
          split
          · rename_i hOpening
            have hLeft : s.isConnected = false := by
              cases hPhase : s.phase <;>
                simp [isOpening, isConnected, hPhase]
                  at hOpening ⊢
            exact ⟨hGuards.none_open (hGuards.rests hLeft).closed,
              hSole.silent⟩
          · exact hSole
  | received m i =>
      change IsSole (if s.isGreetable i then c.start else c)
      split
      · rename_i hGreetable
        simp only [isGreetable, Bool.and_eq_true] at hGreetable
        exact ⟨hSole.older,
          hGuards.none_alive_of_greeting hGreetable.1⟩
      · exact hSole
  | lost => exact hSole.shut
  | _ => exact hSole

/- A session goes on with a heartbeat for its socket. -/
theorem GoesOn.watches
    (hGoes : GoesOn s x m t)
    (hGuards : Guards c s) :
    ∃ d, Watches (s.meet c x) s d t ∧ Holds d t ∧
      IsBound d := by
  have hUngreeted
      (hPhase : s.phase = .listening)
      (i : Inbound) :
      s.meet c (.received m i) = c :=
    meet_of_ungreetable m c
      (isGreetable_of_other i (by simp [isGreeting, hPhase]))
  cases hGoes with
  | greeted hPhase hFrame hRead hSent =>
      have hGreeting : s.isGreeting = true := by
        simp [isGreeting, hPhase]
      rename_i i _ _ _ _
      have hGreetable : s.isGreetable i = true := by
        rw [isGreetable_of_read hFrame, hGreeting, hRead]
        rfl
      rw [eq_order_of_send hSent, meet, if_pos hGreetable]
      refine ⟨c.start,
        ⟨_, rfl, observe_presentation _ _ c.start⟩,
        (hGuards.start m hGreeting).of_same rfl rfl, rfl⟩
  | heard hPhase hHandling =>
      rw [hUngreeted hPhase]
      exact hHandling.watches hGuards.toHolds
        (hGuards.bound (Or.inl hPhase))
  | unheard hPhase =>
      rw [hUngreeted hPhase]
      exact ⟨c, .refl c s, hGuards.toHolds,
        hGuards.bound (Or.inl hPhase)⟩
  | hydrated hPhase =>
      have hKeeps := markActive_keeps s m.now
      exact ⟨c, markActive_watches c s m.now,
        hGuards.toHolds.of_same hKeeps.socketOpen
          hKeeps.heartbeat,
        hGuards.bound (Or.inr hPhase)⟩

/- A session that leaves has its heartbeat and its socket still. -/
theorem Leaves.watches
    (hLeaves : Leaves s x m t failure)
    (hGuards : Guards c s) :
    ∃ d, Watches (s.meet c x) s d t ∧ Holds d t := by
  cases hLeaves with
  | refused hReceiving hFailure =>
      rename_i i _
      have hNone : firstFrame? i = none := by
        cases i with
        | closed => rfl
        | failed => rfl
        | frame => cases hFailure
        | nothing => cases hFailure
      rw [meet_of_ungreetable m c (by simp [isGreetable, hNone])]
      exact ⟨c, .refl c s, hGuards.toHolds⟩
  | ungreeted hGreeting hFrame hRead =>
      rename_i i _ _
      have hGreetable : s.isGreetable i = false := by
        rw [isGreetable_of_read hFrame, hGreeting, hRead]
        rfl
      rw [meet_of_ungreetable m c hGreetable]
      exact ⟨c, .refl c s, hGuards.toHolds⟩
  | unpresented hGreeting hFrame hRead =>
      rename_i i _ _ _ _ _
      have hGreetable : s.isGreetable i = true := by
        rw [isGreetable_of_read hFrame, hGreeting, hRead]
        rfl
      rw [meet, if_pos hGreetable]
      exact ⟨c.start, .of_outbox c.start rfl,
        hGuards.start m hGreeting⟩
  | failed hPhase hHandling =>
      rw [meet_of_ungreetable m c
        (isGreetable_of_other _ (by simp [isGreeting, hPhase]))]
      rcases hHandling.watches hGuards.toHolds
          (hGuards.bound (Or.inl hPhase)) with
        ⟨d, hWatches, hHolds, _⟩
      exact ⟨d, hWatches, hHolds⟩
  | unhydrated => exact ⟨c, .refl c s, hGuards.toHolds⟩
  | timedOut => exact ⟨c, .refl c s, hGuards.toHolds⟩
  | stopped hGoes =>
      rcases hGoes.watches hGuards with ⟨d, hWatches, hHolds, _⟩
      exact ⟨d, hWatches, hHolds⟩

/- Only what is awaited opens or starts anything by itself. -/
theorem meet_of_unawaited
    (c : Custody)
    (hUnawaited : s.awaits x = false) :
    s.meet c x = c := by
  cases x with
  | opened m result =>
      cases result with
      | ok =>
          have hOpening : s.isOpening = false := hUnawaited
          simp [meet, hOpening]
      | error => rfl
  | received m i =>
      apply meet_of_ungreetable
      apply isGreetable_of_other
      cases hPhase : s.phase <;>
        simp [awaits, isReceiving, isGreeting, hPhase]
          at hUnawaited ⊢
  | lost => cases hUnawaited
  | _ => rfl

/- What does not bear on the phase leaves all in custody. -/
theorem Aside.minds
    (hAside : Aside s x t)
    (hSafe : x.BeatsSafely)
    (hGuards : Guards c s) :
    ∃ d, Watches (s.meet c x) s d t ∧ Minds d t := by
  have hMinds := hGuards.toMinds
  have hHolds := hMinds.toHolds
  cases hAside with
  | unmoved hUnawaited =>
      rw [meet_of_unawaited c hUnawaited]
      exact ⟨c, .refl c s, hMinds⟩
  | closed =>
      rw [closeSocket_eq]
      exact ⟨_, ⟨_, rfl, observe_shutting _ _ c⟩,
        hMinds.of_phase
          (hHolds.shutting rfl hHolds.whole) rfl
          (fun hOpen => by cases hOpen) id IsBound.shutting⟩
  | lost =>
      exact ⟨c.shut, .of_outbox c.shut rfl,
        hMinds.of_phase
          (hHolds.shut rfl hHolds.whole) rfl
          (fun hOpen => by cases hOpen) id IsBound.shut⟩
  | beaten hDue hPulses =>
      have hBeats : s.heartbeat ≠ .silent := by
        intro hSilent
        simp [beatDue?, hSilent] at hDue
      have hBound := hMinds.bound (hMinds.calm hBeats)
      cases hPulses with
      | sent =>
          exact ⟨c.ping, ⟨_, rfl, observe_heartbeat s c⟩,
            hMinds.of_phase
              ((hHolds.ping hBound).of_whole rfl rfl) rfl id
              (fun _ => hBeats) IsBound.ping⟩
      | unsent hFailure =>
          rename_i cause
          have hExpected : isExpected cause = true := by
            rcases hFailure with rfl | hFailure
            · rfl
            · exact hSafe cause hFailure
          rw [if_pos hExpected]
          exact ⟨c, .of_outbox c rfl,
            hMinds.of_phase (hHolds.of_whole rfl rfl) rfl id
              (fun _ => hBeats) id⟩
      | died =>
          exact ⟨_, ⟨_, rfl, observe_shutting _ _ c⟩,
            hMinds.of_phase (hHolds.shutting rfl rfl) rfl
              (fun hOpen => by cases hOpen)
              (fun _ => hBeats) IsBound.shutting⟩

/- Whatever happens, a session leaves nothing behind. -/
theorem minds_of_reaction
    (hReaction : Reaction s x t)
    (hSafe : x.BeatsSafely)
    (hTurn : x = .connect → s.isConnected = false)
    (hGuards : Guards c s) :
    ∃ d, Watches (s.meet c x) s d t ∧ Minds d t := by
  have hMinds := hGuards.toMinds
  have hHolds := hMinds.toHolds
  cases hReaction with
  | aside hAside => exact hAside.minds hSafe hGuards
  | connected =>
      exact ⟨c, connect_minds (hMinds.rests (hTurn rfl))⟩
  | ceased hPhase =>
      exact ⟨c, ceased_minds
        (hMinds.rests (by simp [isConnected, hPhase]))⟩
  | fetched hPhase =>
      have hRests :=
        hMinds.rests (by simp [isConnected, hPhase])
      exact ⟨c, ⟨_, rfl, rfl⟩,
        Rests.minds (hRests.of_keeps ⟨rfl, rfl, rfl, rfl⟩) rfl⟩
  | opened hPhase =>
      have hRests :=
        hMinds.rests (by simp [isConnected, hPhase])
      refine ⟨c.opened, ⟨[], (List.append_nil _).symm, ?_⟩, ?_⟩
      · simp [meet, isOpening, hPhase]
      · refine ⟨hHolds.opened hRests.closed rfl rfl,
          fun _ => rfl, ?_, ?_⟩
        · exact fun hBeats => (hBeats hRests.still).elim
        · rintro (hListening | hHydrating)
          · cases hListening
          · cases hHydrating
  | retried hPhase =>
      exact ⟨c, attempt_minds
        (hMinds.rests (by simp [isConnected, hPhase]))⟩
  | hydrates hPhase hHandling hHydrating =>
      rw [meet_of_ungreetable _ c
        (isGreetable_of_other _ (by simp [isGreeting, hPhase]))]
      rcases hHandling.watches hHolds
          (hMinds.bound (Or.inl hPhase)) with
        ⟨d, hWatches, hStill, hBound⟩
      exact ⟨d, hWatches,
        minds_of_bound hStill hBound (Or.inr hHydrating)⟩
  | listens hGoes =>
      rcases hGoes.watches hGuards with
        ⟨d, hWatches, hStill, hBound⟩
      exact ⟨d, hWatches,
        minds_of_bound (hStill.of_same rfl rfl) hBound
          (Or.inl rfl)⟩
  | leaves hLeaves =>
      rcases hLeaves.watches hGuards with ⟨d, hWatches, hStill⟩
      rcases leave_minds _ _ hStill with ⟨e, hLeave, hLeft⟩
      exact ⟨e, hWatches.trans hLeave, hLeft⟩
  | loses hLoses =>
      have hUnmet : s.meet c x = c := by
        cases hLoses <;> rfl
      have hLeft : s.isConnected = false := by
        cases hLoses with
        | unfetched hPhase => simp [isConnected, hPhase]
        | unopened hPhase => simp [isConnected, hPhase]
      rw [hUnmet, lose_eq]
      exact ⟨c, obey_minds _ _ (hMinds.rests hLeft)⟩

------------------------------------------------------------
-- Runs
------------------------------------------------------------

/- The record of a session at rest is empty. -/
theorem rests_empty
    (hRest : s.IsAtRest) :
    Rests .empty s := by
  refine ⟨⟨⟨by simp [Custody.empty], by simp [Custody.empty]⟩,
    hRest.socketOpen.symm, by simp [Custody.empty], ?_⟩,
    hRest.socketOpen, hRest.heartbeat⟩
  simp [hasBrokenHeart, hRest.heartbeat]

/- All through a run the record agrees with the session. -/
theorem guards_course
    (hRest : s.IsAtRest)
    (xs : List Stimulus)
    (hTurn : s.IsInTurn xs)
    (hSafe : ∀ x ∈ xs, x.BeatsSafely) :
    Guards (s.custody xs) (s.course xs) := by
  induction xs with
  | nil =>
      rcases connect_minds (rests_empty hRest) with
        ⟨hWatches, hMinds⟩
      rw [custody, hWatches.watch_eq]
      exact hMinds.refresh
  | cons x xs hInduction =>
      have hGuards :=
        hInduction hTurn.1 fun y hLater =>
          hSafe y (List.mem_cons_of_mem _ hLater)
      have hReaction := reaction_react (s.course xs) x
      have hLeft
          (hConnect : x = .connect) :
          (s.course xs).isConnected = false :=
        isConnected_of_ended (hTurn.2 hConnect)
      rcases minds_of_reaction hReaction
          (hSafe x List.mem_cons_self) hLeft hGuards with
        ⟨d, hWatches, hMinds⟩
      rw [custody, hWatches.watch_eq]
      exact hMinds.refresh

/- A session that has ended is at rest, and can connect again. -/
theorem isAtRest_of_ended
    {xs : List Stimulus}
    (hRest : s.IsAtRest)
    (hTurn : s.IsInTurn xs)
    (hSafe : ∀ x ∈ xs, x.BeatsSafely)
    (hEnded : (s.course xs).hasEnded = true) :
    (s.course xs).IsAtRest := by
  have hGuards := guards_course hRest xs hTurn hSafe
  have hRests := hGuards.rests (isConnected_of_ended hEnded)
  exact ⟨Or.inr hEnded,
    status_of_ended (isPlaced_course xs hTurn) hEnded,
    hRests.still, hRests.closed⟩

/-
  One socket is open and one heartbeat is alive at most, also
  in the middle of whatever comes next, and all beats went
  where they were meant to. A session that has ended is
  disconnected and has left nothing behind.
-/
structure IsTidy
    (c : Custody)
    (s : Session) : Prop where
  single : IsSingle c
  midway : ∀ x n, IsSingle (s.midway c x n)
  pings : ∀ ping ∈ c.pings, ping.meant = some ping.socket
  closed : s.hasEnded = true → true ∉ c.sockets
  still :
    s.hasEnded = true → ∀ l ∈ c.loops, l.isAlive = false
  status : s.hasEnded = true → s.status = .disconnected

/- Whatever becomes of a session, all is tidy. -/
theorem isTidy_course
    {xs : List Stimulus}
    (hRest : s.IsAtRest)
    (hTurn : s.IsInTurn xs)
    (hSafe : ∀ x ∈ xs, x.BeatsSafely) :
    IsTidy (s.custody xs) (s.course xs) := by
  have hGuards := guards_course hRest xs hTurn hSafe
  have hOver := isAtRest_of_ended hRest hTurn hSafe
  refine ⟨hGuards.toIsSole.isSingle, ?_, hGuards.pings,
    ?_, ?_, ?_⟩
  · intro x n
    exact ((hGuards.isSole_meet x).foldl_observe _).isSingle
  · intro hEnded
    exact hGuards.none_open (hOver hEnded).socketOpen
  · intro hEnded
    exact hGuards.none_alive (hOver hEnded).heartbeat
  · intro hEnded
    exact (hOver hEnded).status

/-
  A session beats on one connection, loses it, and beats on
  the next one until it is closed.
-/
def twoConnections : List Stimulus :=
  [
    .received (momentAt 102) (.closed none),
    .close,
    .passed (momentAt 101),
    .received (momentAt 100) (.frame helloFrame),
    .opened (momentAt 100) (.ok ()),
    .passed (momentAt 100),
    .received (momentAt 2) (.closed (some 4000)),
    .passed (momentAt 1),
    .received (momentAt 0) (.frame helloFrame),
    .opened (momentAt 0) (.ok ()),
    .fetched (momentAt 0) (.ok "wss://gateway")
  ]

/- Two sockets and two heartbeats were there, and none is left. -/
theorem twoConnections_tidy :
    untouched.IsAtRest ∧
      untouched.IsInTurn twoConnections ∧
        (∀ x ∈ twoConnections, x.BeatsSafely) ∧
          IsTidy (untouched.custody twoConnections)
            (untouched.course twoConnections) ∧
          (untouched.course twoConnections).hasEnded = true ∧
            untouched.custody twoConnections =
              ⟨[false, false], [⟨2, false⟩, ⟨1, false⟩],
                [⟨some 2, 2⟩, ⟨some 1, 1⟩]⟩ := by
  have hRest : untouched.IsAtRest := isAtRest_new _ _ _ _
  have hTurn : untouched.IsInTurn twoConnections := by
    simp [twoConnections, IsInTurn]
  have hSafe : ∀ x ∈ twoConnections, x.BeatsSafely := by
    simp [twoConnections, Stimulus.BeatsSafely, momentAt]
  exact ⟨hRest, hTurn, hSafe, isTidy_course hRest hTurn hSafe,
    by decide +kernel, by decide +kernel⟩

end Session

end GuildWarden.Gateway
