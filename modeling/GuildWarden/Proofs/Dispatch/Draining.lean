import GuildWarden.Dispatch.Drain
import GuildWarden.Proofs.Dispatch.Schedule
import GuildWarden.Proofs.Dispatch.Slots
import Mathlib.Data.List.Count
import Mathlib.Data.List.Nodup
import Mathlib.Logic.Relation

/-
  This file follows the jobs of a pool out of it, and a pool
  and the drains of it through time. A job that ends, or is
  withdrawn, is counted until the pool hears of it, behind all
  that ended before; nothing else that the pool does changes
  which jobs are counted. Jobs may take turns, end and be heard
  of at any moment, and a drain goes on when it is over, when
  it is due, or when all that it has cancelled are gone. A job
  that was cancelled does not take a turn any more but to be
  withdrawn.

  Key definitions include:
    * `Pool.live`
    * `Pool.gone`
    * `Pool.Departs`
    * `Pool.Note`
    * `Pool.Drainage`
    * `Pool.Drainage.Step`
    * `Pool.Log.Admits`

  Main statements:
    * `Pool.departs_finish`
    * `Pool.departs_withdraw`
    * `Pool.gone_forget`
    * `Pool.Watch.depart`
    * `Pool.Watch.hear`
    * `Pool.Drainage.Invariant.step`
-/

namespace GuildWarden.Pool

variable {κ : Type}
variable {p q : Pool κ}
variable {id slots : Nat}

------------------------------------------------------------
-- Counted Jobs
------------------------------------------------------------

/- The numbers of the jobs that have not ended. -/
def live
    (p : Pool κ) : List Nat :=
  p.jobs.map (·.id)

/- The numbers of the jobs of whose ends the pool is yet to hear. -/
def gone
    (p : Pool κ) : List Nat :=
  p.departed.map (·.id)

theorem isLive_iff :
    p.isLive id = true ↔ id ∈ p.live := by
  simp [isLive, find?, live]

theorem isTracked_iff :
    p.isTracked id = true ↔ id ∈ p.live ∨ id ∈ p.gone := by
  simp [isTracked, tracked, live, gone]

theorem isTracked_eq_false_iff :
    p.isTracked id = false ↔ id ∉ p.live ∧ id ∉ p.gone := by
  rw [← Bool.not_eq_true, isTracked_iff, not_or]

theorem inFlight_eq
    (p : Pool κ) :
    p.inFlight = p.live.length + p.gone.length := by
  simp [inFlight, tracked, live, gone]

theorem live_eq_nil_iff : p.live = [] ↔ p.jobs = [] :=
  List.map_eq_nil_iff

theorem isRunning?_isSome_iff :
    (p.isRunning? id).isSome = true ↔ id ∈ p.live := by
  rw [← isLive_iff]
  simp [isRunning?, phase?, isLive]

/- A job that waits or runs has not ended. -/
theorem mem_live_of_isRunning?
    {runs : Bool}
    (hRuns : p.isRunning? id = some runs) :
    id ∈ p.live := by
  rw [← isRunning?_isSome_iff, hRuns]
  rfl

theorem live_eq_of_labels
    (hLabels : q.labels = p.labels) :
    q.live = p.live := by
  have hIds := congrArg (List.map Prod.fst) hLabels
  simpa [labels, live, List.map_map, Function.comp_def]
    using hIds

/- Jobs in the order of their numbers are different ones. -/
theorem IsSound.nodup_live
    (hSound : IsSound slots p) :
    p.live.Nodup :=
  (List.pairwise_map.mpr hSound.sorted).imp Nat.ne_of_lt

theorem IsSound.lt_nextId
    (hSound : IsSound slots p)
    (hLive : id ∈ p.live) :
    id < p.nextId := by
  rcases List.mem_map.mp hLive with ⟨j, hMember, rfl⟩
  exact hSound.numbered j hMember

------------------------------------------------------------
-- Turns and Submissions
------------------------------------------------------------

theorem departed_grant
    (p : Pool κ) :
    p.grant.departed = p.departed := by
  unfold grant
  split <;> rfl

theorem departed_ask
    (p : Pool κ)
    (id : Nat) :
    (p.ask id).departed = p.departed := by
  unfold ask
  split <;> rfl

theorem departed_follow
    (p : Pool κ)
    (id predecessor : Nat) :
    (p.follow id predecessor).departed = p.departed := by
  unfold follow
  split
  · rfl
  · exact departed_ask p id

theorem departed_step
    (p : Pool κ)
    (id : Nat) :
    (p.step id).departed = p.departed := by
  unfold step
  split
  · exact departed_ask p id
  · exact departed_follow p id _
  · exact departed_follow p id _
  · unfold takeUp
    simp only
    split
    · exact departed_grant _
    · rfl
  · rfl

/- A turn of a job changes nothing that is counted. -/
theorem live_step
    (p : Pool κ)
    (id : Nat) :
    (p.step id).live = p.live :=
  live_eq_of_labels (labels_step p id)

theorem gone_step
    (p : Pool κ)
    (id : Nat) :
    (p.step id).gone = p.gone := by
  rw [gone, departed_step, gone]

section Submission

variable [BEq κ]

theorem live_submit
    (hAccepting : p.accepting = true)
    (key : Option κ) :
    (p.submit key).2.live = p.live ++ [p.nextId] := by
  simp [submit, hAccepting, live]

theorem gone_submit
    (p : Pool κ)
    (key : Option κ) :
    (p.submit key).2.gone = p.gone := by
  unfold submit
  split <;> rfl

/- A closed pool accepts no job, and nothing happens to it. -/
theorem submit_of_closed
    (hClosed : p.accepting = false)
    (key : Option κ) :
    p.submit key = (none, p) := by
  simp [submit, hClosed]

end Submission

------------------------------------------------------------
-- Departures
------------------------------------------------------------

/-
  A job departs from a pool: the others are as they were, and
  the pool is to hear of it after all that departed before.
-/
structure Departs
    (p : Pool κ)
    (id : Nat)
    (q : Pool κ) : Prop where
  live : q.live = p.live.filter (· != id)
  gone : q.gone = p.gone ++ [id]
  intake : q.intake = p.intake
  labels : q.labels.Sublist p.labels
  isRunning? :
    ∀ other, q.isRunning? other =
      if other = id then none else p.isRunning? other

theorem filter_live_eq
    (hSound : IsSound slots p)
    (hLive : id ∈ p.live) :
    p.live.filter (· == id) = [id] := by
  have hCount : p.live.count id = 1 :=
    List.count_eq_one_of_mem hSound.nodup_live hLive
  rw [List.filter_beq, hCount]
  rfl

/- The job that is removed is the one that departs. -/
theorem gone_remove
    (hSound : IsSound slots p)
    (hLive : id ∈ p.live) :
    (p.remove id).gone = p.gone ++ [id] := by
  have hOne := filter_live_eq hSound hLive
  rw [live, List.filter_map] at hOne
  simp only [gone, remove, List.map_append]
  exact congrArg (p.gone ++ ·) hOne

theorem live_of_labels_remove
    (hLabels : q.labels = (p.remove id).labels) :
    q.live = p.live.filter (· != id) := by
  rw [live_eq_of_labels hLabels]
  simp only [live, remove, List.filter_map]
  rfl

theorem departs_finish
    (hSound : IsSound slots p)
    (hLive : id ∈ p.live) :
    Departs p id (p.finish id) where
  live := live_of_labels_remove (labels_finish p id)
  gone := by
    rw [← gone_remove hSound hLive]
    exact congrArg (List.map _) (departed_grant _)
  intake := intake_finish p id
  labels := by
    rw [labels_finish]
    exact labels_remove p id
  isRunning? := isRunning?_finish p id

theorem departs_withdraw
    (hSound : IsSound slots p)
    (hLive : id ∈ p.live) :
    Departs p id (p.withdraw id) where
  live := live_of_labels_remove (labels_withdraw p id)
  gone := by
    rw [← gone_remove hSound hLive]
    unfold withdraw
    simp only
    split
    · exact congrArg (List.map _) (departed_grant _)
    · rfl
  intake := intake_withdraw p id
  labels := by
    rw [labels_withdraw]
    exact labels_remove p id
  isRunning? := isRunning?_withdraw p id

/- A job that departs is counted as before. -/
theorem Departs.perm
    (hDeparts : Departs p id q)
    (hSound : IsSound slots p)
    (hLive : id ∈ p.live) :
    (q.live ++ q.gone).Perm (p.live ++ p.gone) := by
  have hParts :
      (p.live.filter (· != id) ++ [id]).Perm p.live := by
    rw [← filter_live_eq hSound hLive]
    exact List.perm_append_comm.trans
      (List.filter_append_perm (· == id) p.live)
  rw [hDeparts.live, hDeparts.gone]
  refine (List.perm_append_comm.append_left _).trans ?_
  rw [← List.append_assoc]
  exact hParts.append_right p.gone

theorem Departs.inFlight_eq
    (hDeparts : Departs p id q)
    (hSound : IsSound slots p)
    (hLive : id ∈ p.live) :
    q.inFlight = p.inFlight := by
  have hSame := (hDeparts.perm hSound hLive).length_eq
  simpa [Pool.inFlight_eq] using hSame

/- The pool hears of the job that departed first. -/
theorem gone_forget
    {rest : List Nat}
    (hNodup : p.gone.Nodup)
    (hGone : p.gone = id :: rest) :
    (p.forget id).gone = rest := by
  have hForget :
      (p.forget id).gone = p.gone.filter (· != id) := by
    simp only [gone, forget, List.filter_map]
    rfl
  rw [hGone] at hForget hNodup
  have hOthers :
      rest.filter (· != id) = rest := by
    rw [List.filter_eq_self]
    intro other hMember
    have hApart : other ≠ id := by
      rintro rfl
      exact (List.nodup_cons.mp hNodup).1 hMember
    simpa using hApart
  simpa [hOthers] using hForget

end GuildWarden.Pool

namespace GuildWarden.Pool

variable {κ : Type}

------------------------------------------------------------
-- Logs
------------------------------------------------------------

/-
  What is noted of a pool: what becomes of a body, that the
  pool has heard of the end of a job, and what its drains do.
-/
inductive Note (κ : Type) where
  | marked (mark : Mark κ)
  | heard (id : Nat)
  | began (drain : Nat) (grace : Span)
  | cancelled (drain : Nat) (left : List Nat)
  | returned (drain inFlight : Nat)
deriving DecidableEq

namespace Note

/- What a note says of a body. -/
def mark? : Note κ → Option (Mark κ)
  | .marked m => some m
  | _ => none

/- The body that a note says was accepted. -/
def accepted? : Note κ → Option Nat
  | .marked (.accepted b _) => some b
  | _ => none

/- The job of whose end the pool has heard by a note. -/
def heard? : Note κ → Option Nat
  | .heard id => some id
  | _ => none

/- Whether a note says nothing of a drain. -/
def isQuiet : Note κ → Bool
  | .marked _ => true
  | .heard _ => true
  | _ => false

end Note

/- The notes with their times, the latest first. -/
abbrev Log (κ : Type) :=
  List (Rat × Note κ)

namespace Log

variable {log past : Log κ}
variable {t : Rat}
variable {n : Note κ}

/- What a log says of the bodies. -/
def marks
    (log : Log κ) : List (Mark κ) :=
  log.filterMap (·.2.mark?)

/- The bodies that were accepted. -/
def accepted
    (log : Log κ) : List Nat :=
  log.filterMap (·.2.accepted?)

/- The jobs of whose ends the pool has heard. -/
def heard
    (log : Log κ) : List Nat :=
  log.filterMap (·.2.heard?)

theorem mem_marks_iff
    {mark : Mark κ} :
    mark ∈ log.marks ↔ ∃ t, (t, .marked mark) ∈ log := by
  simp only [marks, List.mem_filterMap]
  constructor
  · rintro ⟨⟨t, n⟩, hMember, hMark⟩
    cases n with
    | marked m =>
        cases hMark
        exact ⟨t, hMember⟩
    | _ => cases hMark
  · rintro ⟨t, hMember⟩
    exact ⟨_, hMember, rfl⟩

/- The grace of a drain is over at a time. -/
def IsDue
    (log : Log κ)
    (i : Nat)
    (t : Rat) : Prop :=
  ∃ s n, (s, .began i (.seconds n)) ∈ log ∧
    s + Number.greater 0 n ≤ t

/-
  What a note says about all that was noted before. No job is
  accepted after a drain began, and none starts after one has
  cancelled. A drain cancels only when it is due, and only jobs
  that have not ended. When it returns, all bodies have ended
  or were withdrawn; the pool may not have heard of all ends
  yet, but only if the drain was due and found none to cancel.
-/
def Admits
    (past : Log κ)
    (t : Rat) : Note κ → Prop
  | .marked (.accepted _ _) =>
    ∀ s i grace, (s, .began i grace) ∉ past
  | .marked (.started _) =>
    ∀ s i left, (s, .cancelled i left) ∉ past
  | .marked (.withdrawn b) =>
    ∃ s i left, (s, .cancelled i left) ∈ past ∧ b ∈ left
  | .cancelled i left =>
    past.IsDue i t ∧ ∀ b ∈ left, .ended b ∉ past.marks
  | .returned i n =>
    (∃ s grace, (s, .began i grace) ∈ past) ∧
      (∀ b key, .accepted b key ∈ past.marks →
        .ended b ∈ past.marks ∨ .withdrawn b ∈ past.marks) ∧
        n + past.heard.length = past.accepted.length ∧
          (n ≠ 0 →
            past.IsDue i t ∧
              ∀ s left, (s, .cancelled i left) ∉ past)
  | _ => True

/- Every note was right when it was made, and time went on. -/
inductive IsTruthful : Log κ → Prop where
  | nil : IsTruthful []
  | cons
      {past : Log κ}
      {t : Rat}
      {n : Note κ}
      (hAdmits : past.Admits t n)
      (hTime : ∀ e ∈ past, e.1 ≤ t)
      (hPast : IsTruthful past) :
      IsTruthful ((t, n) :: past)

/- A note is right after those before it, and later ones follow it. -/
theorem IsTruthful.split
    {later : Log κ}
    (hTruthful : IsTruthful (later ++ (t, n) :: past)) :
    past.Admits t n ∧ ∀ e ∈ later, t ≤ e.1 := by
  induction later with
  | nil =>
      cases hTruthful with
      | cons hAdmits => exact ⟨hAdmits, by simp⟩
  | cons e later hInduction =>
      cases hTruthful with
      | cons _ hTime hPast =>
          rcases hInduction hPast with ⟨hAdmits, hLater⟩
          refine ⟨hAdmits, ?_⟩
          intro e' hMember
          rcases List.mem_cons.mp hMember with rfl | hOld
          · exact hTime (t, n) (by simp)
          · exact hLater e' hOld

/- A later note is right after a note and all before that. -/
theorem IsTruthful.admits_of_later
    {later : Log κ}
    {s : Rat}
    {m : Note κ}
    (hTruthful : IsTruthful (later ++ (t, n) :: past))
    (hLater : (s, m) ∈ later) :
    ∃ before : Log κ,
      before.Admits s m ∧
        (t, n) ∈ before ∧ ∀ e ∈ past, e ∈ before := by
  rcases List.append_of_mem hLater with
    ⟨newest, between, hParts⟩
  rw [hParts, List.append_assoc] at hTruthful
  refine ⟨between ++ (t, n) :: past, hTruthful.split.1,
    by simp, ?_⟩
  intro e hMember
  exact List.mem_append_right _ (List.mem_cons_of_mem _ hMember)

end Log

------------------------------------------------------------
-- Drains
------------------------------------------------------------

/-
  How far a drain has come: it waits for the jobs that it
  found, it waits for those that it has cancelled, or it has
  returned.
-/
inductive Drain.Stage where
  | waiting
  | cancelling (left : List Nat)
  | returned
deriving DecidableEq

/-
  A pool and its drains: the time, the calls that submitted a
  body so far, the jobs that were cancelled, the drains in the
  order in which they began, and what has been noted.
-/
structure Drainage (κ : Type) where
  clock : Rat
  pool : Pool κ
  calls : Nat
  doomed : List Nat
  drains : List (Drain × Drain.Stage)
  log : Log κ

namespace Drainage

/- An unused pool. -/
def start
    (n : Int) : Drainage κ where
  clock := 0
  pool := ofSlots n
  calls := 0
  doomed := []
  drains := []
  log := []

/- Note something. -/
def note
    (c : Drainage κ)
    (n : Note κ) : Drainage κ :=
  { c with log := (c.clock, n) :: c.log }

/- Time passes. -/
def pass
    (c : Drainage κ)
    (t : Rat) : Drainage κ :=
  { c with clock := t }

/- A job has a turn; its body starts if the job runs then. -/
def turn
    (c : Drainage κ)
    (id : Nat) : Drainage κ :=
  let next := { c with pool := c.pool.step id }
  if c.pool.isRunning? id = some false ∧
      next.pool.isRunning? id = some true then
    next.note (.marked (.started id))
  else next

/- The body of a job ends, in whatever way. -/
def finish
    (c : Drainage κ)
    (id : Nat) : Drainage κ :=
  { c with pool := c.pool.finish id }.note (.marked (.ended id))

/- A job goes whose body has not started. -/
def withdraw
    (c : Drainage κ)
    (id : Nat) : Drainage κ :=
  { c with pool := c.pool.withdraw id }.note
    (.marked (.withdrawn id))

/- The pool hears of the end of a job. -/
def hear
    (c : Drainage κ)
    (id : Nat) : Drainage κ :=
  { c with pool := c.pool.forget id }.note (.heard id)

/- A drain closes the pool and looks for the jobs in it. -/
def begin
    (c : Drainage κ)
    (grace : Span) : Drainage κ :=
  let d := Drain.start c.pool c.clock grace
  { c with
    pool := c.pool.close
    drains := c.drains ++ [(d, Drain.Stage.waiting)] }.note
      (.began c.drains.length grace)

/- A drain returns. -/
def conclude
    (c : Drainage κ)
    (i : Nat)
    (d : Drain) : Drainage κ :=
  { c with drains := c.drains.set i (d, .returned) }.note
    (.returned i c.pool.inFlight)

/- A drain cancels the jobs that are left, one right after another. -/
def cancelLeft
    (c : Drainage κ)
    (i : Nat)
    (d : Drain) : Drainage κ :=
  let left := d.left c.pool
  { c with
    drains := c.drains.set i (d, .cancelling left)
    doomed := c.doomed ++ left }.note (.cancelled i left)

/- A drain whose grace is over returns if no job is left. -/
def expire
    (c : Drainage κ)
    (i : Nat)
    (d : Drain) : Drainage κ :=
  if (d.left c.pool).isEmpty then c.conclude i d
  else c.cancelLeft i d

variable [DecidableEq κ]

/- The next body is submitted. -/
def submit
    (c : Drainage κ)
    (key : Option κ) : Drainage κ :=
  match c.pool.submit key with
  | (some id, pool) =>
    { c with pool, calls := c.calls + 1 }.note
      (.marked (.accepted id key))
  | (none, pool) =>
    { c with pool, calls := c.calls + 1 }.note
      (.marked (.rejected c.calls))

/-
  What may happen next. A job that was cancelled before its
  body started is withdrawn instead of taking a turn; a body
  that was started ends when it pleases. The pool hears of the
  ends of its jobs in their order.
-/
inductive Step : Drainage κ → Drainage κ → Prop where
  | submitted
      (c : Drainage κ)
      (key : Option κ) :
      Step c (c.submit key)
  | turned
      (c : Drainage κ)
      (id : Nat)
      (hSpared : id ∉ c.doomed) :
      Step c (c.turn id)
  | ended
      (c : Drainage κ)
      (id : Nat)
      (hRuns : c.pool.isRunning? id = some true) :
      Step c (c.finish id)
  | withdrew
      (c : Drainage κ)
      (id : Nat)
      (hDoomed : id ∈ c.doomed)
      (hWaits : c.pool.isRunning? id = some false) :
      Step c (c.withdraw id)
  | heard
      (c : Drainage κ)
      (id : Nat)
      (hFirst : c.pool.gone.head? = some id) :
      Step c (c.hear id)
  | passed
      (c : Drainage κ)
      (t : Rat)
      (hLater : c.clock ≤ t) :
      Step c (c.pass t)
  | began
      (c : Drainage κ)
      (grace : Span) :
      Step c (c.begin grace)
  | completed
      {c : Drainage κ}
      {i : Nat}
      {d : Drain}
      (hDrain : c.drains[i]? = some (d, .waiting))
      (hOver : d.isOver c.pool = true) :
      Step c (c.conclude i d)
  | expired
      {c : Drainage κ}
      {i : Nat}
      {d : Drain}
      (hDrain : c.drains[i]? = some (d, .waiting))
      (hDue : d.isDue c.clock = true) :
      Step c (c.expire i d)
  | settled
      {c : Drainage κ}
      {i : Nat}
      {d : Drain}
      (left : List Nat)
      (hDrain : c.drains[i]? = some (d, .cancelling left))
      (hGone : ∀ id ∈ left, c.pool.isTracked id = false) :
      Step c (c.conclude i d)

/- What an unused pool may come to. -/
def Reaches
    (n : Int)
    (c : Drainage κ) : Prop :=
  Relation.ReflTransGen Step (start n) c

end Drainage

------------------------------------------------------------
-- Watching over the Jobs
------------------------------------------------------------

/-
  A drain has cancelled the jobs that were left. They are all
  that have not ended, and the pool hears of their ends after
  it has heard of all the others.
-/
structure Cancels
    (left doomed : List Nat)
    (p : Pool κ) : Prop where
  nonempty : left ≠ []
  covers : ∀ id ∈ p.live, id ∈ left
  doomed : ∀ id ∈ left, id ∈ doomed
  inTurn : p.gone.Pairwise fun a b => a ∈ left → b ∈ left
  heard :
    ∀ id ∈ left, id ∉ p.live → id ∉ p.gone →
      ∀ other ∈ p.gone, other ∈ left

/- What a pool is like while a drain is at a stage. -/
def Drain.Stage.Fits
    (doomed : List Nat)
    (p : Pool κ) :
    Drain.Stage → Prop
  | .waiting => True
  | .cancelling left => Cancels left doomed p
  | .returned => p.live = []

/- A drain has found all jobs that are there. -/
structure Watch
    (p : Pool κ)
    (doomed : List Nat)
    (x : Drain × Drain.Stage) : Prop where
  closed : p.accepting = false
  live : ∀ id ∈ p.live, id ∈ x.1.found
  gone : ∀ id ∈ p.gone, id ∈ x.1.found
  fits : x.2.Fits doomed p

section Watch

variable {p q : Pool κ}
variable {left doomed rest : List Nat}
variable {x : Drain × Drain.Stage}
variable {id : Nat}

theorem accepting_of_intake
    (hIntake : q.intake = p.intake) :
    q.accepting = p.accepting :=
  congrArg Prod.snd hIntake

/- It matters at two stages only what the pool is like. -/
theorem Drain.Stage.Fits.imp
    {stage : Drain.Stage}
    {more : List Nat}
    (hFits : stage.Fits doomed p)
    (hCancels :
      ∀ left, Cancels left doomed p → Cancels left more q)
    (hReturned : p.live = [] → q.live = []) :
    stage.Fits more q := by
  cases stage with
  | waiting => trivial
  | cancelling left => exact hCancels left hFits
  | returned => exact hReturned hFits

theorem Cancels.of_same
    (hCancels : Cancels left doomed p)
    (hLive : q.live = p.live)
    (hGone : q.gone = p.gone) :
    Cancels left doomed q where
  nonempty := hCancels.nonempty
  covers := by
    rw [hLive]
    exact hCancels.covers
  doomed := hCancels.doomed
  inTurn := by
    rw [hGone]
    exact hCancels.inTurn
  heard := by
    rw [hLive, hGone]
    exact hCancels.heard

/- The pool changes, but no job comes or goes. -/
theorem Watch.of_same
    (hWatch : Watch p doomed x)
    (hAccepting : q.accepting = p.accepting)
    (hLive : q.live = p.live)
    (hGone : q.gone = p.gone) :
    Watch q doomed x where
  closed := hAccepting.trans hWatch.closed
  live := by
    rw [hLive]
    exact hWatch.live
  gone := by
    rw [hGone]
    exact hWatch.gone
  fits :=
    hWatch.fits.imp
      (fun _ hCancels => hCancels.of_same hLive hGone)
      hLive.trans

/- More jobs are cancelled. -/
theorem Watch.doom
    (hWatch : Watch p doomed x)
    (more : List Nat) :
    Watch p (doomed ++ more) x where
  closed := hWatch.closed
  live := hWatch.live
  gone := hWatch.gone
  fits := by
    refine hWatch.fits.imp ?_ fun hNone => hNone
    intro left hCancels
    refine { hCancels with doomed := ?_ }
    intro id hMember
    exact List.mem_append_left more (hCancels.doomed id hMember)

/- A job that departs is among those that were cancelled. -/
theorem Cancels.depart
    (hCancels : Cancels left doomed p)
    (hDeparts : Departs p id q)
    (hMember : id ∈ p.live) :
    Cancels left doomed q where
  nonempty := hCancels.nonempty
  covers := by
    intro other hThere
    rw [hDeparts.live] at hThere
    exact hCancels.covers other (List.mem_of_mem_filter hThere)
  doomed := hCancels.doomed
  inTurn := by
    rw [hDeparts.gone, List.pairwise_append]
    refine ⟨hCancels.inTurn, List.pairwise_singleton _ _, ?_⟩
    intro a _ b hLast _
    rw [List.mem_singleton.mp hLast]
    exact hCancels.covers id hMember
  heard := by
    intro other hLeft hNotLive hNotGone
    rw [hDeparts.live] at hNotLive
    rw [hDeparts.gone] at hNotGone ⊢
    have hApart : other ≠ id := by
      rintro rfl
      simp at hNotGone
    have hWasNotLive : other ∉ p.live := by
      intro hLive
      exact hNotLive
        (List.mem_filter.mpr ⟨hLive, by simpa using hApart⟩)
    have hWasNotGone : other ∉ p.gone :=
      fun hGone => hNotGone (List.mem_append_left _ hGone)
    intro third hThird
    rcases List.mem_append.mp hThird with hOld | hLast
    · exact hCancels.heard other hLeft hWasNotLive
        hWasNotGone third hOld
    · rw [List.mem_singleton.mp hLast]
      exact hCancels.covers id hMember

theorem Watch.depart
    (hWatch : Watch p doomed x)
    (hDeparts : Departs p id q)
    (hMember : id ∈ p.live) :
    Watch q doomed x where
  closed :=
    (accepting_of_intake hDeparts.intake).trans hWatch.closed
  live := by
    intro other hThere
    rw [hDeparts.live] at hThere
    exact hWatch.live other (List.mem_of_mem_filter hThere)
  gone := by
    intro other hThere
    rw [hDeparts.gone] at hThere
    rcases List.mem_append.mp hThere with hOld | hLast
    · exact hWatch.gone other hOld
    · rw [List.mem_singleton.mp hLast]
      exact hWatch.live id hMember
  fits := by
    refine hWatch.fits.imp
      (fun _ hCancels => hCancels.depart hDeparts hMember) ?_
    intro hNone
    rw [hNone] at hMember
    cases hMember

/-
  Once the pool hears of a job that was cancelled, it hears of
  no other one any more.
-/
theorem Cancels.hear
    (hCancels : Cancels left doomed p)
    (hGone : p.gone = id :: rest)
    (hLive : q.live = p.live)
    (hRest : q.gone = rest) :
    Cancels left doomed q where
  nonempty := hCancels.nonempty
  covers := by
    rw [hLive]
    exact hCancels.covers
  doomed := hCancels.doomed
  inTurn := by
    have hInTurn := hCancels.inTurn
    rw [hGone] at hInTurn
    rw [hRest]
    exact hInTurn.of_cons
  heard := by
    intro other hLeft hNotLive hNotGone third hThird
    rw [hLive] at hNotLive
    rw [hRest] at hNotGone hThird
    by_cases hFirst : other = id
    · have hInTurn := hCancels.inTurn
      rw [hGone] at hInTurn
      exact (List.pairwise_cons.mp hInTurn).1 third hThird
        (hFirst ▸ hLeft)
    · apply hCancels.heard other hLeft hNotLive
      · rw [hGone]
        simp [hFirst, hNotGone]
      · rw [hGone]
        exact List.mem_cons_of_mem _ hThird

theorem Watch.hear
    (hWatch : Watch p doomed x)
    (hAccepting : q.accepting = p.accepting)
    (hGone : p.gone = id :: rest)
    (hLive : q.live = p.live)
    (hRest : q.gone = rest) :
    Watch q doomed x where
  closed := hAccepting.trans hWatch.closed
  live := by
    rw [hLive]
    exact hWatch.live
  gone := by
    intro other hThere
    rw [hRest] at hThere
    apply hWatch.gone other
    rw [hGone]
    exact List.mem_cons_of_mem _ hThere
  fits :=
    hWatch.fits.imp
      (fun _ hCancels => hCancels.hear hGone hLive hRest)
      hLive.trans

/- All jobs are gone when the pool has heard of the cancelled ones. -/
theorem Cancels.eq_nil
    (hCancels : Cancels left doomed p)
    (hHeard : ∀ id ∈ left, p.isTracked id = false) :
    p.live = [] ∧ p.gone = [] := by
  have hAway (id : Nat) (hMember : id ∈ left) :=
    isTracked_eq_false_iff.mp (hHeard id hMember)
  have hLive : p.live = [] := by
    rw [List.eq_nil_iff_forall_not_mem]
    intro id hThere
    exact (hAway id (hCancels.covers id hThere)).1 hThere
  refine ⟨hLive, ?_⟩
  rcases List.exists_mem_of_ne_nil left hCancels.nonempty with
    ⟨first, hFirst⟩
  rw [List.eq_nil_iff_forall_not_mem]
  intro id hThere
  have hLeft := hCancels.heard first hFirst
    (hAway first hFirst).1 (hAway first hFirst).2 id hThere
  exact (hAway id hLeft).2 hThere

/- A drain that is over has no jobs to wait for. -/
theorem Watch.eq_nil
    (hWatch : Watch p doomed x)
    (hOver : x.1.isOver p = true) :
    p.live = [] ∧ p.gone = [] := by
  have hAway (id : Nat) (hFound : id ∈ x.1.found) :
      id ∉ p.live ∧ id ∉ p.gone := by
    rw [← isTracked_eq_false_iff]
    have hHeard := List.all_eq_true.mp hOver id hFound
    simpa using hHeard
  constructor
  · rw [List.eq_nil_iff_forall_not_mem]
    intro id hThere
    exact (hAway id (hWatch.live id hThere)).1 hThere
  · rw [List.eq_nil_iff_forall_not_mem]
    intro id hThere
    exact (hAway id (hWatch.gone id hThere)).2 hThere

/- The jobs that are left to a drain are all there are. -/
theorem Watch.mem_left_iff
    (hWatch : Watch p doomed x) :
    id ∈ x.1.left p ↔ id ∈ p.live := by
  unfold Drain.left
  rw [List.mem_filter, isLive_iff]
  exact ⟨fun h => h.2, fun h => ⟨hWatch.live id h, h⟩⟩

end Watch

end GuildWarden.Pool
