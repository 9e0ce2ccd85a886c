import GuildWarden.Proofs.Gateway.Delivery
import GuildWarden.Proofs.Gateway.Reaction
import Mathlib.Data.List.Chain

/-
  This file shows how a session passes from status to status
  while it is connected. It is identified only by a start or a
  resumption that it takes in, and active only after that and,
  for a start, after what had to be done for it is done. It
  connects anew only where nothing can be resumed, and it is
  disconnected in the end and not before.

  Key definitions include:
    * `Gateway.Status.leadsTo`
    * `Gateway.Session.accepts?`
    * `Gateway.Session.hydration`
    * `Gateway.Session.Grounds`
    * `Gateway.Session.Moves`
    * `Gateway.Session.Passes`
    * `Gateway.Session.PassesInOrder`

  Main statements:
    * `Gateway.Session.passes_of_reaction`
    * `Gateway.Session.hydration_of_hydrating`
    * `Gateway.Session.passesInOrder_of_once`
-/

namespace GuildWarden.Gateway

open Session

variable {s t u : Session}
variable {m : Moment}
variable {cause : Cause}
variable {failure : Option Cause}
variable {x : Stimulus}
variable {p : Payload}

------------------------------------------------------------
-- Statuses
------------------------------------------------------------

/- Whether a status can follow another one. -/
def Status.leadsTo : Status → Status → Bool
  | .disconnected, .connecting => true
  | .connecting, .identified => true
  | .connecting, .reconnecting => true
  | .identified, .active => true
  | .identified, .reconnecting => true
  | .active, .identified => true
  | .active, .reconnecting => true
  | .reconnecting, .connecting => true
  | .reconnecting, .identified => true
  | .disconnected, .disconnected => false
  | _, .disconnected => true
  | _, _ => false

/- A status is followed by one that it leads to. -/
def Status.Precedes
    (a b : Status) : Prop :=
  a.leadsTo b = true

/- Whether a session in a phase can have a status. -/
def Phase.fits : Phase → Status → Bool
  | .fetching _, status =>
    status == .connecting || status == .reconnecting
  | .opening _, status =>
    status == .connecting || status == .reconnecting
  | .greeting _ _, status =>
    status == .connecting || status == .reconnecting
  | .listening, status =>
    status == .connecting || status == .reconnecting ||
      status == .active
  | .hydrating, status => status == .identified
  | .waiting _, status => status == .reconnecting
  | _, status => status == .disconnected

/- The statuses that are entered with some orders. -/
def statusesIn
    (orders : List Order) : List Status :=
  orders.filterMap fun
    | .status status => some status
    | _ => none

@[simp] theorem statusesIn_append
    (before after : List Order) :
    statusesIn (before ++ after) =
      statusesIn before ++ statusesIn after :=
  List.filterMap_append

namespace Session

/- The status of a session fits its phase. -/
def IsPlaced
    (s : Session) : Prop :=
  s.phase.fits s.status = true

/- The event that comes with a stimulus and is taken in. -/
def accepts?
    (s : Session) : Stimulus → Option Event
  | .received _ (.frame p) =>
    if s.phase = .listening then s.taken? p else none
  | _ => none

/- How far a session has come with what a start asks for. -/
inductive Progress where
  | pending
  | done
  | failed
deriving DecidableEq

/- A start that was taken in, and how far it was brought. -/
structure Hydration where
  ready : Event.Ready
  progress : Progress

/- A start whose address cannot be used fails at once. -/
def hydrationOf
    (s : Session)
    (r : Event.Ready) : Hydration where
  ready := r
  progress :=
    if hasReadableAddress r then
      if s.hydrates then .pending else .done
    else .failed

/- What a stimulus makes of the hydration of the last start. -/
def settle
    (s : Session)
    (last : Option Hydration)
    (x : Stimulus) : Option Hydration :=
  match s.accepts? x, x with
  | some (.ready r), _ => some (s.hydrationOf r)
  | _, .hydrated _ result =>
    if s.phase = .hydrating then
      last.map fun h =>
        { h with
          progress := if result.toBool then .done else .failed }
    else last
  | _, _ => last

/- The hydration of the last start that was taken in. -/
def hydration
    (s : Session) : List Stimulus → Option Hydration
  | [] => none
  | x :: xs => (s.course xs).settle (s.hydration xs) x

/- What makes a session enter a status when something happens. -/
inductive Grounds
    (s : Session)
    (x : Stimulus) : Status → Prop where
  | renewed {until_ : Rat}
      (hPhase : s.phase = .waiting until_)
      (hLast : s.canResume = false) :
      Grounds s x .connecting
  | started {r : Event.Ready}
      (hAccepts : s.accepts? x = some (.ready r)) :
      Grounds s x .identified
  | resumed
      (hAccepts : s.accepts? x = some .resumed) :
      Grounds s x .identified
  | startedBare {r : Event.Ready}
      (hAccepts : s.accepts? x = some (.ready r))
      (hHydrates : s.hydrates = false) :
      Grounds s x .active
  | resumedBare
      (hAccepts : s.accepts? x = some .resumed) :
      Grounds s x .active
  | hydrated {m : Moment}
      (hHydrated : x = .hydrated m (.ok ()))
      (hPhase : s.phase = .hydrating) :
      Grounds s x .active
  | failed : Grounds s x .reconnecting
  | ended : Grounds s x .disconnected

/- A status follows another one, on its grounds. -/
def Turn
    (s : Session)
    (x : Stimulus)
    (a b : Status) : Prop :=
  a.Precedes b ∧ Grounds s x b

------------------------------------------------------------
-- Moves
------------------------------------------------------------

/-
  A session goes on as another one that has entered some more
  statuses, each related to the one before.
-/
structure Moves
    (R : Status → Status → Prop)
    (path : List Status)
    (s t : Session) : Prop where
  entered :
    ∃ orders, t.outbox = s.outbox ++ orders ∧
      statusesIn orders = path
  status : ∃ front, s.status :: path = front ++ [t.status]
  chain : (s.status :: path).IsChain R

namespace Moves

variable {R : Status → Status → Prop}
variable {path more : List Status}

/- Orders that are no statuses do not move a session. -/
theorem of_orders
    (orders : List Order)
    (hOutbox : t.outbox = s.outbox ++ orders)
    (hNone : statusesIn orders = [])
    (hStatus : t.status = s.status) :
    Moves R [] s t :=
  ⟨⟨orders, hOutbox, hNone⟩, ⟨[], by rw [hStatus]; rfl⟩,
    .singleton _⟩

theorem of_outbox
    (hOutbox : t.outbox = s.outbox)
    (hStatus : t.status = s.status) :
    Moves R [] s t :=
  of_orders [] (by rw [hOutbox, List.append_nil]) rfl hStatus

/- The reasons for which statuses are related may be forgotten. -/
theorem imp
    {S : Status → Status → Prop}
    (hImplies : ∀ a b, R a b → S a b)
    (hMoves : Moves R path s t) :
    Moves S path s t :=
  ⟨hMoves.entered, hMoves.status, hMoves.chain.imp hImplies⟩

theorem trans
    (hFirst : Moves R path s t)
    (hSecond : Moves R more t u) :
    Moves R (path ++ more) s u := by
  rcases hFirst.entered with ⟨before, hBefore, rfl⟩
  rcases hSecond.entered with ⟨after, hAfter, rfl⟩
  rcases hFirst.status with ⟨front, hFront⟩
  rcases hSecond.status with ⟨back, hBack⟩
  have hJoined (rest : List Status) :
      s.status :: (statusesIn before ++ rest) =
        front ++ t.status :: rest := by
    rw [← List.cons_append, hFront, List.append_assoc]
    rfl
  refine ⟨⟨before ++ after, ?_, statusesIn_append _ _⟩,
    ⟨front ++ back, ?_⟩, ?_⟩
  · rw [hAfter, hBefore, List.append_assoc]
  · rw [hJoined, hBack, List.append_assoc]
  · have hChain := hFirst.chain
    rw [hFront] at hChain
    have hOverlap :=
      hChain.append_overlap hSecond.chain (by simp)
    rwa [List.append_assoc, List.singleton_append,
      ← hJoined] at hOverlap

end Moves

variable {R : Status → Status → Prop}

theorem order_moves
    (s : Session)
    {o : Order}
    (hNone : statusesIn [o] = []) :
    Moves R [] s (s.order o) :=
  .of_orders _ rfl hNone rfl

/- Closing the socket is no status. -/
@[simp] theorem statusesIn_shutting
    (s : Session)
    (code : Int) :
    statusesIn (s.shutting code) = [] := by
  unfold shutting
  split <;> rfl

theorem counted_moves
    (s : Session)
    (p : Payload) :
    Moves R [] s (s.counted p) := by
  unfold counted
  split <;> exact .of_outbox rfl rfl

theorem kept_moves
    (s : Session)
    (isForgotten : Bool) :
    Moves R [] s (s.kept isForgotten) := by
  unfold kept
  split <;> exact .of_outbox rfl rfl

theorem quieted_moves
    (s : Session) :
    Moves R [] s s.quieted := by
  unfold quieted
  split
  · exact .of_outbox rfl rfl
  · rw [closeSocket_eq]
    exact .of_orders _ rfl (statusesIn_shutting _ _) rfl

/- A status that is entered is another one than before. -/
theorem moves_of_entering
    {status : Status}
    (before after : List Order)
    (hOther : s.status ≠ status)
    (hRelated : R s.status status)
    (hOutbox :
      t.outbox =
        s.outbox ++ (before ++ s.entering status ++ after))
    (hBefore : statusesIn before = [])
    (hAfter : statusesIn after = [])
    (hStatus : t.status = status) :
    Moves R [status] s t := by
  refine ⟨⟨_, hOutbox, ?_⟩, ⟨[s.status], by rw [hStatus]; rfl⟩,
    List.isChain_pair.mpr hRelated⟩
  have hEntering :
      statusesIn (s.entering status) = [status] := by
    simp [entering, hOther, statusesIn]
  simp [hBefore, hAfter, hEntering]

theorem setStatus_moves
    {status : Status}
    (hOther : s.status ≠ status)
    (hRelated : R s.status status) :
    Moves R [status] s (s.setStatus status) := by
  rw [setStatus_eq]
  exact moves_of_entering [] [] hOther hRelated (by simp) rfl
    rfl rfl

theorem markActive_moves
    (now : Rat)
    (hOther : s.status ≠ .active)
    (hRelated : R s.status .active) :
    Moves R [.active] s (s.markActive now) := by
  rw [markActive_eq]
  exact moves_of_entering [] [] hOther hRelated (by simp) rfl
    rfl rfl

/- What is identified becomes active, on some grounds. -/
theorem Moves.activated
    {o : Session}
    {path : List Status}
    (now : Rat)
    (hMoves : Moves (Turn o x) path s t)
    (hIdentified : t.status = .identified)
    (hGrounds : Grounds o x .active) :
    Moves (Turn o x) (path ++ [.active]) s
      (t.markActive now) := by
  apply hMoves.trans
  apply markActive_moves now (by simp [hIdentified])
  rw [hIdentified]
  exact ⟨rfl, hGrounds⟩

@[simp] theorem begun_status
    (s : Session)
    (r : Event.Ready)
    (url : Option String) :
    (s.begun r url).status = .identified := by
  simp [begun, setStatus_eq, order]

theorem begun_moves
    (r : Event.Ready)
    (url : Option String)
    (hOther : s.status ≠ .identified)
    (hRelated : R s.status .identified) :
    Moves R [.identified] s (s.begun r url) := by
  unfold begun
  rw [setStatus_eq]
  exact moves_of_entering [] _ hOther hRelated
    (List.append_assoc _ _ _) rfl rfl rfl

------------------------------------------------------------
-- Placement
------------------------------------------------------------

/- A session that is at work is not disconnected. -/
theorem status_ne_of_isPlaced
    (hPlaced : s.IsPlaced)
    (hIdle : s.phase ≠ .idle)
    (hGoing : s.hasEnded = false) :
    s.status ≠ .disconnected := by
  intro hStatus
  unfold IsPlaced at hPlaced
  cases hPhase : s.phase <;>
    simp_all [Phase.fits, hasEnded]

/- The last status of a session that has ended. -/
def final
    (s : Session) : List Status :=
  if s.hasEnded then [.disconnected] else []

/-
  A session goes on as another one, and enters statuses that
  are related: `disconnected` in the end, and only then.
-/
def Passes
    (R : Status → Status → Prop)
    (s t : Session) : Prop :=
  ∃ before, Moves R (before ++ t.final) s t ∧
    .disconnected ∉ before ∧ t.IsPlaced

/- Moves that do not end a session come before others. -/
theorem Moves.passes
    {path : List Status}
    (hMoves : Moves R path s t)
    (hGoing : .disconnected ∉ path)
    (hPasses : Passes R t u) :
    Passes R s u := by
  rcases hPasses with ⟨before, hLast, hOther, hPlaced⟩
  refine ⟨path ++ before, ?_, ?_, hPlaced⟩
  · rw [List.append_assoc]
    exact hMoves.trans hLast
  · simp [hGoing, hOther]

/- A session that goes on has not entered its last status. -/
theorem passes_of_moves
    {path : List Status}
    (hMoves : Moves R path s t)
    (hOther : .disconnected ∉ path)
    (hGoing : t.hasEnded = false)
    (hPlaced : t.IsPlaced) :
    Passes R s t := by
  refine ⟨path, ?_, hOther, hPlaced⟩
  simpa [final, hGoing] using hMoves

/- Nor has one that enters no status. -/
theorem passes_of_still
    (hStill : Moves R [] s t)
    (hGoing : t.hasEnded = false)
    (hPlaced : t.IsPlaced) :
    Passes R s t :=
  passes_of_moves hStill (by simp) hGoing hPlaced

------------------------------------------------------------
-- Passing
------------------------------------------------------------

variable {o : Session}

theorem finish_passes
    (failure : Option Cause)
    (hStatus : s.status ≠ .disconnected) :
    Passes (Turn o x) s (s.finish failure) := by
  have hRelated : Turn o x s.status .disconnected := by
    refine ⟨?_, .ended⟩
    cases hSame : s.status <;>
      first | rfl | exact (hStatus hSame).elim
  rw [finish_eq]
  refine ⟨[], ?_, by simp, rfl⟩
  exact moves_of_entering _ [] hStatus hRelated (by simp)
    (statusesIn_shutting s leaveCode) rfl rfl

/- A session does what the verdict says: it ends, or waits. -/
theorem obey_passes
    (m : Moment)
    (verdict : Verdict)
    (hStatus : s.status ≠ .disconnected) :
    Passes (Turn o x) s (s.obey m verdict) := by
  cases verdict with
  | ends failure => exact finish_passes failure hStatus
  | retries isForgotten =>
      refine (kept_moves s isForgotten).passes (by simp) ?_
      have hKept : (s.kept isForgotten).status = s.status := by
        unfold kept
        split <;> rfl
      rcases wait_eq (s.kept isForgotten) m with
        ⟨backoff, until_, hWait⟩
      simp only [obey, hWait]
      by_cases hSame : (s.kept isForgotten).status = .reconnecting
      · refine passes_of_still ?_ rfl rfl
        refine .of_orders _ rfl ?_ hSame.symm
        simp [entering, hSame, statusesIn]
      · have hRelated :
            Turn o x (s.kept isForgotten).status
              .reconnecting := by
          refine ⟨?_, .failed⟩
          rw [hKept] at hSame ⊢
          cases hOther : s.status <;>
            first
            | rfl
            | exact (hStatus hOther).elim
            | exact (hSame hOther).elim
        exact passes_of_moves
          (moves_of_entering [] [] hSame hRelated (by simp) rfl
            rfl rfl)
          (by simp) rfl rfl

theorem leave_passes
    (m : Moment)
    (failure : Option Cause)
    (hStatus : s.status ≠ .disconnected) :
    Passes (Turn o x) s (s.leave m failure) := by
  rw [leave_eq]
  refine (quieted_moves s).passes (by simp) ?_
  apply obey_passes
  unfold quieted
  split
  · exact hStatus
  · rw [closeSocket_eq]
    exact hStatus

theorem lose_passes
    (m : Moment)
    (cause : Cause)
    (hStatus : s.status ≠ .disconnected) :
    Passes (Turn o x) s (s.lose m cause) := by
  rw [lose_eq]
  exact obey_passes m _ hStatus

/- An attempt connects anew where nothing can be resumed. -/
theorem attempt_passes
    (hStatus :
      s.status = .connecting ∨ s.status = .reconnecting)
    (hRelated :
      s.canResume = false → s.status = .reconnecting →
        R .reconnecting .connecting) :
    Passes R s s.attempt := by
  have hReadied :
      ∃ path, Moves R path s s.readied ∧
        .disconnected ∉ path ∧
          (s.readied.status = .connecting ∨
            s.readied.status = .reconnecting) := by
    unfold readied
    cases hResumes : s.canResume with
    | true =>
        exact ⟨[], .of_outbox rfl rfl, by simp, hStatus⟩
    | false =>
        rcases hStatus with hSame | hOther
        · refine ⟨[], ?_, by simp, Or.inl ?_⟩
          · simpa [setStatus, hSame] using
              Moves.of_outbox (R := R) (s := s) rfl rfl
          · simp [setStatus, hSame]
        · refine ⟨[.connecting], ?_, by simp, Or.inl ?_⟩
          · apply setStatus_moves (by simp [hOther])
            rw [hOther]
            exact hRelated hResumes hOther
          · simp [setStatus_eq]
  rcases hReadied with ⟨path, hMoves, hOther, hTrying⟩
  refine hMoves.passes hOther ?_
  rcases attempt_cases s with ⟨url, hOpens⟩ | hFetches
  · rw [hOpens]
    refine passes_of_still
      (.of_orders [.openSocket url] rfl rfl rfl) rfl ?_
    rcases hTrying with hTry | hTry <;>
      simp [IsPlaced, openAt, order, Phase.fits, hTry]
  · rw [hFetches]
    refine passes_of_still
      (.of_orders [.fetch] rfl rfl rfl) rfl ?_
    rcases hTrying with hTry | hTry <;>
      simp [IsPlaced, order, Phase.fits, hTry]

------------------------------------------------------------
-- Reactions
------------------------------------------------------------

/-
  A session that listens is in none of the statuses that it
  enters by a start or a resumption.
-/
theorem status_of_listening
    (hPlaced : s.IsPlaced)
    (hPhase : s.phase = .listening) :
    s.status ≠ .identified ∧
      s.status.leadsTo .identified = true := by
  unfold IsPlaced at hPlaced
  rw [hPhase] at hPlaced
  cases hStatus : s.status <;> rw [hStatus] at hPlaced <;>
    first | exact ⟨by simp, rfl⟩ | cases hPlaced

/- A session that keeps status and phase is placed as before. -/
theorem isPlaced_of_same
    (hPlaced : s.IsPlaced)
    (hStatus : t.status = s.status)
    (hPhase : t.phase = s.phase) :
    t.IsPlaced := by
  unfold IsPlaced
  rw [hStatus, hPhase]
  exact hPlaced

theorem accepts?_of_listening
    (m : Moment)
    (p : Payload)
    (hPhase : s.phase = .listening) :
    s.accepts? (.received m (.frame p)) = s.taken? p := by
  simp [accepts?, hPhase]

/- On its grounds, a session that listens becomes identified. -/
theorem turn_identified
    (p : Payload)
    (hPlaced : s.IsPlaced)
    (hPhase : s.phase = .listening)
    (hGrounds : Grounds s x .identified) :
    (s.counted p).status ≠ .identified ∧
      Turn s x (s.counted p).status .identified := by
  rcases status_of_listening hPlaced hPhase with
    ⟨hOther, hLeads⟩
  rw [(counted_fields s p).1]
  exact ⟨hOther, hLeads, hGrounds⟩

/- A start that is taken in identifies a session. -/
theorem started_moves
    {r : Event.Ready}
    (m : Moment)
    (url : Option String)
    (hPlaced : s.IsPlaced)
    (hPhase : s.phase = .listening)
    (hTaken : s.taken? p = some (.ready r)) :
    Moves (Turn s (.received m (.frame p))) [.identified] s
      ((s.counted p).begun r url) := by
  have hAccepts :=
    (accepts?_of_listening m p hPhase).trans hTaken
  rcases turn_identified p hPlaced hPhase (.started hAccepts)
    with ⟨hOther, hTurn⟩
  exact (counted_moves s p).trans
    (begun_moves r url hOther hTurn)

/- A resumption makes it active at once. -/
theorem resumed_moves
    (m : Moment)
    (hPlaced : s.IsPlaced)
    (hPhase : s.phase = .listening)
    (hTaken : s.taken? p = some .resumed) :
    Moves (Turn s (.received m (.frame p)))
      [.identified, .active] s
      ((((s.counted p).setStatus .identified).order
        (.queue .resumed)).markActive m.now) := by
  have hAccepts :=
    (accepts?_of_listening m p hPhase).trans hTaken
  rcases turn_identified p hPlaced hPhase (.resumed hAccepts)
    with ⟨hOther, hTurn⟩
  have hBegun :=
    (counted_moves s p).trans (setStatus_moves hOther hTurn)
  exact (hBegun.trans (order_moves _ rfl)).activated m.now
    (by simp [setStatus_eq, order]) (.resumedBare hAccepts)

/- What comes of a frame enters statuses on their grounds. -/
theorem Handling.moves
    {r : Handled}
    (hHandling : Handling s m p r)
    (hPlaced : s.IsPlaced)
    (hPhase : s.phase = .listening) :
    ∃ path,
      Moves (Turn s (.received m (.frame p))) path s r.1 ∧
        .disconnected ∉ path ∧ r.1.IsPlaced := by
  rcases counted_fields s p with ⟨hStatus, hListening, hOutbox⟩
  have hStays {t : Session} (orders : List Order)
      (hOrders : t.outbox = s.outbox ++ orders)
      (hNone : statusesIn orders = [])
      (hSame : t.status = s.status)
      (hThere : t.phase = s.phase) :
      ∃ path,
        Moves (Turn s (.received m (.frame p))) path s t ∧
          .disconnected ∉ path ∧ t.IsPlaced :=
    ⟨[], .of_orders _ hOrders hNone hSame, by simp,
      isPlaced_of_same hPlaced hSame hThere⟩
  cases hHandling with
  | answered _ hBeat =>
      rw [eq_order_of_beat hBeat]
      exact hStays _ rfl rfl rfl rfl
  | dismissed =>
      unfold kept
      split <;>
        exact hStays [] (List.append_nil _).symm rfl rfl rfl
  | unread =>
      exact hStays [] (by rw [hOutbox, List.append_nil]) rfl
        hStatus hListening
  | counted =>
      exact hStays [] (by rw [hOutbox, List.append_nil]) rfl
        hStatus hListening
  | unusable =>
      exact hStays [] (by rw [hOutbox, List.append_nil]) rfl
        hStatus hListening
  | started hTaken =>
      rename_i r url _ _
      have hBegun := started_moves m url hPlaced hPhase hTaken
      have hOrdered :=
        hBegun.trans
          (.of_orders [.hydrate r]
            (t := { (s.counted p).begun r url with
              phase := .hydrating }.order (.hydrate r))
            rfl rfl rfl)
      exact ⟨_, hOrdered, by simp,
        by simp [IsPlaced, Session.begun, setStatus_eq, order,
          Phase.fits]⟩
  | startedBare hTaken _ hHydrates =>
      rename_i r url _
      have hAccepts :=
        (accepts?_of_listening m p hPhase).trans hTaken
      have hBegun := started_moves m url hPlaced hPhase hTaken
      have hActive :=
        hBegun.activated m.now (begun_status _ r url)
          (.startedBare hAccepts hHydrates)
      exact ⟨_, hActive, by simp,
        by simp [IsPlaced, Session.begun, setStatus_eq, order,
          markActive_eq, hListening, hPhase, Phase.fits]⟩
  | resumed hTaken =>
      exact ⟨_, resumed_moves m hPlaced hPhase hTaken, by simp,
        by simp [IsPlaced, setStatus_eq, order,
          markActive_eq, hListening, hPhase, Phase.fits]⟩
  | queued =>
      rename_i e _ _ _
      exact hStays [.queue e] (by rw [← hOutbox]; rfl) rfl
        hStatus hListening
  | _ => exact hStays [] (List.append_nil _).symm rfl rfl rfl

/- A session that is not listening yet has no status of its own. -/
theorem status_of_greeting
    (hPlaced : s.IsPlaced)
    (hGreeting : s.isGreeting = true) :
    Phase.listening.fits s.status = true := by
  unfold IsPlaced at hPlaced
  unfold isGreeting at hGreeting
  split at hGreeting
  · rename_i hPhase
    rw [hPhase] at hPlaced
    simp only [Phase.fits] at hPlaced ⊢
    rw [hPlaced]
    rfl
  · cases hGreeting

/- A session that goes on does so in a status for listening. -/
theorem GoesOn.moves
    (hGoes : GoesOn s x m t)
    (hPlaced : s.IsPlaced) :
    ∃ path, Moves (Turn s x) path s t ∧
      .disconnected ∉ path ∧
        Phase.listening.fits t.status = true := by
  cases hGoes with
  | greeted hPhase _ _ hSent =>
      rw [eq_order_of_send hSent]
      have hGreeting : s.isGreeting = true := by
        simp [isGreeting, hPhase]
      exact ⟨[], .of_orders _ rfl rfl rfl, by simp,
        status_of_greeting hPlaced hGreeting⟩
  | heard hPhase hHandling hRests =>
      rcases hHandling.moves hPlaced hPhase with
        ⟨path, hMoves, hOther, hStill⟩
      refine ⟨path, hMoves, hOther, ?_⟩
      rcases hHandling.phase with hSame | hHydrating
      · unfold IsPlaced at hStill
        rwa [hSame, hPhase] at hStill
      · exact (hRests hHydrating).elim
  | unheard hPhase =>
      refine ⟨[], .of_outbox rfl rfl, by simp, ?_⟩
      unfold IsPlaced at hPlaced
      rwa [hPhase] at hPlaced
  | hydrated hPhase =>
      have hStatus : s.status = .identified := by
        unfold IsPlaced at hPlaced
        rw [hPhase] at hPlaced
        simpa [Phase.fits] using hPlaced
      have hStill : Moves (Turn s (.hydrated m (.ok ()))) [] s s :=
        .of_outbox rfl rfl
      exact ⟨[.active],
        hStill.activated m.now hStatus (.hydrated rfl hPhase),
        by simp, by simp [markActive_eq, Phase.fits]⟩

/- A session that is connected is not disconnected. -/
theorem status_ne_of_isConnected
    (hPlaced : s.IsPlaced)
    (hConnected : s.isConnected = true) :
    s.status ≠ .disconnected := by
  apply status_ne_of_isPlaced hPlaced <;>
    unfold isConnected at hConnected
  · intro hIdle
    simp [hIdle] at hConnected
  · unfold hasEnded
    split <;> simp_all

theorem status_ne_of_fits
    (hFits : Phase.listening.fits s.status = true) :
    s.status ≠ .disconnected := by
  intro hStatus
  rw [hStatus] at hFits
  cases hFits

/- A session leaves in a status that it has entered by then. -/
theorem Leaves.moves
    (hLeaves : Leaves s x m t failure)
    (hPlaced : s.IsPlaced) :
    ∃ path, Moves (Turn s x) path s t ∧
      .disconnected ∉ path ∧ t.status ≠ .disconnected := by
  have hStatus :=
    status_ne_of_isConnected hPlaced hLeaves.connected
  cases hLeaves with
  | failed hPhase hHandling =>
      rcases hHandling.moves hPlaced hPhase with
        ⟨path, hMoves, hOther, hStill⟩
      refine ⟨path, hMoves, hOther, ?_⟩
      apply status_ne_of_isConnected hStill
      rcases hHandling.phase with hSame | hHydrating
      · rw [isConnected, hSame, hPhase]
      · rw [isConnected, hHydrating]
  | stopped hGoes =>
      rcases hGoes.moves hPlaced with
        ⟨path, hMoves, hOther, hFits⟩
      exact ⟨path, hMoves, hOther, status_ne_of_fits hFits⟩
  | _ => exact ⟨[], .of_outbox rfl rfl, by simp, hStatus⟩

/- What does not bear on the phase does not move a session. -/
theorem Aside.moves
    (hAside : Aside s x t) :
    Moves R [] s t := by
  cases hAside with
  | unmoved => exact .of_outbox rfl rfl
  | closed =>
      rw [closeSocket_eq]
      exact .of_orders _ rfl (statusesIn_shutting _ _) rfl
  | lost => exact .of_outbox rfl rfl
  | beaten _ hPulses =>
      cases hPulses with
      | sent => exact .of_orders _ rfl rfl rfl
      | unsent => exact .of_outbox rfl rfl
      | died =>
          exact .of_orders _ rfl (statusesIn_shutting _ _) rfl

/- Whatever happens, a session passes from status to status. -/
theorem passes_of_reaction
    (hReaction : Reaction s x t)
    (hOther : x ≠ .connect)
    (hPlaced : s.IsPlaced)
    (hGoing : s.hasEnded = false) :
    Passes (Turn s x) s t := by
  cases hReaction with
  | aside hAside =>
      rcases hAside.fields with ⟨hPhase, hStatus, _⟩
      refine passes_of_moves hAside.moves (by simp) ?_
        (isPlaced_of_same hPlaced hStatus hPhase)
      rw [hasEnded, hPhase]
      exact hGoing
  | connected => exact (hOther rfl).elim
  | ceased hPhase =>
      have hStatus : s.status ≠ .disconnected :=
        status_ne_of_isPlaced hPlaced (by simp [hPhase]) hGoing
      have hClosed :
          Moves (Turn s .close) [] s
            ({ s with closing := true }.closeSocket
              leaveCode) := by
        rw [closeSocket_eq]
        exact .of_orders _ rfl (statusesIn_shutting _ _) rfl
      refine hClosed.passes (by simp) (finish_passes none ?_)
      rw [closeSocket_eq]
      exact hStatus
  | fetched hPhase =>
      refine passes_of_still (.of_orders _ rfl rfl rfl) rfl ?_
      rwa [IsPlaced, hPhase] at hPlaced
  | opened hPhase =>
      refine passes_of_still (.of_outbox rfl rfl) rfl ?_
      rwa [IsPlaced, hPhase] at hPlaced
  | retried hPhase =>
      have hStatus : s.status = .reconnecting := by
        rw [IsPlaced, hPhase] at hPlaced
        simpa [Phase.fits] using hPlaced
      apply attempt_passes (Or.inr hStatus)
      intro hLast _
      exact ⟨rfl, .renewed hPhase hLast⟩
  | hydrates hPhase hHandling hHydrating =>
      rcases hHandling.moves hPlaced hPhase with
        ⟨path, hMoves, hConnected, hStill⟩
      refine passes_of_moves hMoves hConnected ?_ hStill
      simp [hasEnded, hHydrating]
  | listens hGoes =>
      rename_i u _ _
      rcases hGoes.moves hPlaced with
        ⟨path, hMoves, hConnected, hFits⟩
      refine hMoves.passes hConnected ?_
      exact passes_of_still (.of_outbox rfl rfl) rfl hFits
  | leaves hLeaves =>
      rcases hLeaves.moves hPlaced with
        ⟨path, hMoves, hConnected, hStatus⟩
      exact hMoves.passes hConnected
        (leave_passes _ _ hStatus)
  | loses hLoses =>
      apply lose_passes
      apply status_ne_of_isPlaced hPlaced _ hGoing
      cases hLoses with
      | unfetched hPhase => simp [hPhase]
      | unopened hPhase => simp [hPhase]

------------------------------------------------------------
-- Runs
------------------------------------------------------------

theorem Passes.imp
    {S : Status → Status → Prop}
    (hImplies : ∀ a b, R a b → S a b)
    (hPasses : Passes R s t) :
    Passes S s t := by
  rcases hPasses with ⟨before, hMoves, hGoing, hPlaced⟩
  exact ⟨before, hMoves.imp hImplies, hGoing, hPlaced⟩

/- A session that has ended is disconnected. -/
theorem status_of_ended
    (hPlaced : s.IsPlaced)
    (hEnded : s.hasEnded = true) :
    s.status = .disconnected := by
  unfold hasEnded at hEnded
  split at hEnded
  · rename_i hPhase
    rw [IsPlaced, hPhase] at hPlaced
    simpa [Phase.fits] using hPlaced
  · cases hEnded

/- It has ended exactly if it is disconnected again. -/
theorem Passes.ended_iff
    (hPasses : Passes R s t)
    (hStatus : s.status ≠ .disconnected) :
    t.hasEnded = true ↔ t.status = .disconnected := by
  rcases hPasses with ⟨before, hMoves, hOther, hPlaced⟩
  constructor
  · exact status_of_ended hPlaced
  · intro hDisconnected
    cases hEnded : t.hasEnded with
    | true => rfl
    | false =>
        rw [final, hEnded] at hMoves
        rcases hMoves.status with ⟨front, hFront⟩
        have hMember : t.status ∈ front ++ [t.status] := by simp
        rw [← hFront, hDisconnected] at hMember
        simp [hOther, hStatus.symm] at hMember

/- A session that has not ended passes on. -/
theorem Passes.next
    (hPasses : Passes R s t)
    (hGoing : t.hasEnded = false)
    (hNext : Passes R t u) :
    Passes R s u := by
  rcases hPasses with ⟨before, hMoves, hOther, _⟩
  rw [final, hGoing] at hMoves
  exact hMoves.passes (by simpa using hOther) hNext

/- What does not bear on the phase adds nothing. -/
theorem Passes.aside
    (hPasses : Passes R s t)
    (hAside : Aside t x u) :
    Passes R s u := by
  rcases hPasses with ⟨before, hMoves, hOther, hPlaced⟩
  rcases hAside.fields with ⟨hPhase, hStatus, _⟩
  refine ⟨before, ?_, hOther,
    isPlaced_of_same hPlaced hStatus hPhase⟩
  have hSame : u.final = t.final := by
    rw [final, final, hasEnded, hasEnded, hPhase]
  rw [hSame]
  simpa using hMoves.trans hAside.moves

/- A session that connects, before it makes its first attempt. -/
def setOut
    (s : Session) : Session :=
  { s with closing := false }.setStatus .connecting

/- So a session passes on from where it was disconnected. -/
theorem setOut_moves
    (hStatus : s.status = .disconnected)
    (hRelated : R .disconnected .connecting) :
    Moves R [.connecting] s s.setOut := by
  unfold setOut
  rw [setStatus_eq]
  exact moves_of_entering [] [] (by simp [hStatus])
    (by rwa [hStatus]) (by simp [entering]) rfl rfl rfl

@[simp] theorem setOut_status
    (s : Session) :
    s.setOut.status = .connecting := by
  simp [setOut, setStatus_eq]

/- A session that connects has its first attempt under way. -/
theorem connect_passes
    (s : Session) :
    Passes R s.setOut s.connect := by
  apply attempt_passes (Or.inl (setOut_status s))
  intro _ hStatus
  cases (setOut_status s).symm.trans hStatus

/- The status of a session fits its phase through all its runs. -/
theorem isPlaced_course
    (xs : List Stimulus)
    (hTurn : s.IsInTurn xs) :
    (s.course xs).IsPlaced := by
  have hConnects (t : Session) : t.connect.IsPlaced := by
    rcases connect_passes (R := Status.Precedes) t with
      ⟨_, _, _, hPlaced⟩
    exact hPlaced
  induction xs with
  | nil => exact hConnects s
  | cons x xs hInduction =>
      have hPlaced := hInduction hTurn.1
      have hReaction := reaction_react (s.course xs) x
      by_cases hConnect : x = .connect
      · subst hConnect
        exact hConnects _
      · cases hEnded : (s.course xs).hasEnded with
        | true =>
            have hAside :=
              aside_of_ended hReaction hConnect hEnded
            rcases hAside.fields with ⟨hPhase, hStatus, _⟩
            exact isPlaced_of_same hPlaced hStatus hPhase
        | false =>
            rcases passes_of_reaction hReaction hConnect
                hPlaced hEnded with ⟨_, _, _, hStill⟩
            exact hStill

/- Once connecting, a session passes on until it has ended. -/
theorem passes_course
    (s : Session)
    (xs : List Stimulus)
    (hOnce : .connect ∉ xs) :
    Passes Status.Precedes s.setOut (s.course xs) := by
  induction xs with
  | nil => exact connect_passes s
  | cons x xs hInduction =>
      rw [List.mem_cons, not_or] at hOnce
      have hReaction := reaction_react (s.course xs) x
      have hOther : x ≠ .connect := fun hSame => hOnce.1 hSame.symm
      have hBefore := hInduction hOnce.2
      cases hEnded : (s.course xs).hasEnded with
      | true =>
          exact hBefore.aside
            (aside_of_ended hReaction hOther hEnded)
      | false =>
          rcases hBefore with ⟨_, _, _, hPlaced⟩
          have hTurns :=
            passes_of_reaction hReaction hOther hPlaced hEnded
          exact (hInduction hOnce.2).next hEnded
            (hTurns.imp fun _ _ hTurn => hTurn.1)

/- The statuses of a session that connects, from its first one. -/
def visited
    (s : Session)
    (xs : List Stimulus) : List Status :=
  s.status ::
    statusesIn ((s.course xs).outbox.drop s.outbox.length)

theorem visited_eq_of_moves
    {path : List Status}
    {xs : List Stimulus}
    (hMoves : Moves R path s (s.course xs)) :
    s.visited xs = s.status :: path := by
  rcases hMoves.entered with ⟨orders, hOrders, rfl⟩
  simp [visited, hOrders]

------------------------------------------------------------
-- Hydration
------------------------------------------------------------

/- What does not bear on the phase is no news of a start. -/
theorem settle_of_aside
    (last : Option Hydration)
    (hAside : Aside s x t) :
    s.settle last x = last := by
  cases hAside with
  | unmoved hUnawaited =>
      cases x with
      | received m i =>
          have hPhase : s.phase ≠ .listening := by
            intro hListening
            simp [awaits, isReceiving, hListening]
              at hUnawaited
          cases i <;> simp [settle, accepts?, hPhase]
      | hydrated m result =>
          have hPhase : s.phase ≠ .hydrating := by
            simpa [awaits] using hUnawaited
          simp [settle, accepts?, hPhase]
      | _ => rfl
  | closed => rfl
  | lost => rfl
  | beaten => rfl

/- A session that comes to hydrate has taken in a start. -/
theorem settle_of_hydrating
    {last : Option Hydration}
    (hReaction : Reaction s x t)
    (hHydrating : t.phase = .hydrating)
    (hBefore :
      s.phase = .hydrating → ∃ r, last = some ⟨r, .pending⟩) :
    ∃ r, s.settle last x = some ⟨r, .pending⟩ := by
  have hAttempt {u : Session}
      (hSame : u.attempt.phase = .hydrating) :
      False := by
    rcases phase_attempt u with hOpens | hFetches
    · cases hOpens.symm.trans hSame
    · cases hFetches.symm.trans hSame
  have hLeft
      (hDisconnected : t.isConnected = false) :
      False := by
    simp [isConnected, hHydrating] at hDisconnected
  cases hReaction with
  | aside hAside =>
      rw [settle_of_aside _ hAside]
      exact hBefore (hAside.fields.1.symm.trans hHydrating)
  | connected => exact (hAttempt hHydrating).elim
  | ceased => exact (hLeft (finish_disconnects _ _)).elim
  | fetched => cases hHydrating
  | opened => cases hHydrating
  | retried => exact (hAttempt hHydrating).elim
  | hydrates hPhase hHandling =>
      rcases hHandling.started_of_hydrating
          (by simp [hPhase]) hHydrating with
        ⟨r, url, hTaken, hUrl, hHydrates, _⟩
      refine ⟨r, ?_⟩
      simp [settle, accepts?, hPhase, hTaken, hydrationOf,
        hasReadableAddress_of_ok hUrl, hHydrates]
  | listens => cases hHydrating
  | leaves => exact (hLeft (leave_disconnects _ _ _)).elim
  | loses => exact (hLeft (lose_disconnects _ _ _)).elim

/- While a session hydrates, the last start is pending. -/
theorem hydration_of_hydrating
    (s : Session)
    (xs : List Stimulus)
    (hHydrating : (s.course xs).phase = .hydrating) :
    ∃ r, s.hydration xs = some ⟨r, .pending⟩ := by
  induction xs with
  | nil =>
      rcases phase_attempt s.setOut with hOpens | hFetches
      · cases hOpens.symm.trans hHydrating
      · cases hFetches.symm.trans hHydrating
  | cons x xs hInduction =>
      exact settle_of_hydrating
        (reaction_react (s.course xs) x) hHydrating hInduction

------------------------------------------------------------
-- The Order of Statuses
------------------------------------------------------------

/- A session that is placed hydrates exactly if it is identified. -/
theorem hydrating_iff_of_isPlaced
    (hPlaced : s.IsPlaced) :
    s.phase = .hydrating ↔ s.status = .identified := by
  unfold IsPlaced at hPlaced
  cases hPhase : s.phase <;> cases hStatus : s.status <;>
    simp_all [Phase.fits]

/-
  The statuses of a connected session, from the one in which it
  was disconnected to the present one.
-/
structure PassesInOrder
    (s : Session)
    (xs : List Stimulus) : Prop where
  chain : (s.visited xs).IsChain Status.Precedes
  current :
    (s.visited xs).getLast? = some (s.course xs).status
  between :
    ∃ between,
      s.visited xs =
          .disconnected :: .connecting ::
            (between ++ (s.course xs).final) ∧
        .disconnected ∉ between
  ended :
    (s.course xs).hasEnded = true ↔
      (s.course xs).status = .disconnected
  identified :
    (s.course xs).status = .identified ↔
      (s.course xs).phase = .hydrating
  pending :
    (s.course xs).phase = .hydrating →
      ∃ r, s.hydration xs = some ⟨r, .pending⟩
  next :
    ∀ x, x ≠ .connect →
      ∃ path, s.visited (x :: xs) = s.visited xs ++ path ∧
        ((s.course xs).status :: path).IsChain
          (Turn (s.course xs) x)

/-
  Whatever happens to a session that connects once: it enters
  `connecting` first, each status after one that leads to it
  and on its grounds, and `disconnected` exactly in the end. It
  is identified while the last start that was taken in pends.
-/
theorem passesInOrder_of_once
    (hStatus : s.status = .disconnected)
    (xs : List Stimulus)
    (hOnce : .connect ∉ xs) :
    PassesInOrder s xs := by
  have hSetsOut :=
    setOut_moves (R := Status.Precedes) hStatus rfl
  have hCourse := passes_course s xs hOnce
  have hEnded := hCourse.ended_iff (by simp)
  rcases hCourse with ⟨between, hMoves, hGoing, hPlaced⟩
  have hAll := hSetsOut.trans hMoves
  have hVisited := visited_eq_of_moves hAll
  refine ⟨?_, ?_, ⟨between, ?_, hGoing⟩, hEnded,
    (hydrating_iff_of_isPlaced hPlaced).symm,
    hydration_of_hydrating s xs, ?_⟩
  · rw [hVisited]
    exact hAll.chain
  · rcases hAll.status with ⟨front, hFront⟩
    rw [hVisited, hFront, List.getLast?_concat]
  · rw [hVisited, hStatus]
    rfl
  · intro x hOther
    rw [hVisited]
    have hReaction := reaction_react (s.course xs) x
    cases hOver : (s.course xs).hasEnded with
    | true =>
        have hAside := aside_of_ended hReaction hOther hOver
        refine ⟨[], ?_, .singleton _⟩
        exact visited_eq_of_moves (hAll.trans hAside.moves)
    | false =>
        rcases passes_of_reaction hReaction hOther hPlaced
            hOver with ⟨before, hTurns, _⟩
        refine ⟨before ++ (s.course (x :: xs)).final, ?_,
          hTurns.chain⟩
        exact visited_eq_of_moves
          (hAll.trans (hTurns.imp fun _ _ hTurn => hTurn.1))

/- A dispatch that resumes a session. -/
def resumedFrame : Payload :=
  .map
    [
      ("op", .int Opcode.dispatch.number),
      ("s", .int 2),
      ("t", .text "RESUMED"),
      ("d", .map [])
    ]

/- A session that was never connected, and hydrates. -/
def attentive : Session :=
  .new "token" 513 true (Backoff.ofBounds 1 60 120 0)

/-
  A session is hydrated and loses its connection. It is resumed
  on the next one, and then closed.
-/
def roundTrip : List Stimulus :=
  [
    .received (momentAt 101) (.closed none),
    .close,
    .received (momentAt 101) (.frame resumedFrame),
    .received (momentAt 100) (.frame helloFrame),
    .opened (momentAt 100) (.ok ()),
    .passed (momentAt 100),
    .received (momentAt 2) (.closed (some 4000)),
    .hydrated (momentAt 1) (.ok ()),
    .received (momentAt 0) (.frame readyFrame),
    .received (momentAt 0) (.frame helloFrame),
    .opened (momentAt 0) (.ok ()),
    .fetched (momentAt 0) (.ok "wss://gateway")
  ]

/- It enters each status on the way, and is disconnected again. -/
theorem roundTrip_passes :
    attentive.status = .disconnected ∧
      .connect ∉ roundTrip ∧
        PassesInOrder attentive roundTrip ∧
          attentive.visited roundTrip =
            [.disconnected, .connecting, .identified, .active,
              .reconnecting, .identified, .active,
              .disconnected] :=
  ⟨rfl, by simp [roundTrip],
    passesInOrder_of_once rfl roundTrip (by simp [roundTrip]),
    by decide +kernel⟩

end Session

end GuildWarden.Gateway
