import GuildWarden.Proofs.Dispatch.Bookkeeping

/-
  This file shows that a drain settles its pool. The books of
  the jobs, the files of the drains and what was noted of both
  agree at every moment, so that what a drain promises can be
  read off the notes. When it returns, no body waits or runs.
  The pool counts some of them still if they have ended at the
  last moment, when it has not heard of that.

  Key definitions include:
    * `Pool.Drainage.Invariant`
    * `Pool.Drainage.IsSettled`

  Main statements:
    * `Pool.Drainage.Invariant.step`
    * `Pool.Drainage.Invariant.exists_returned`
    * `Pool.Drainage.isSettled_of_reaches`
-/

namespace GuildWarden.Pool

open Course (Ledger Stands)

variable {κ : Type}
variable [DecidableEq κ]

namespace Drainage

variable {c : Drainage κ}
variable {p q : Pool κ}
variable {n : Note κ}
variable {t : Rat}
variable {i id slots : Nat}

------------------------------------------------------------
-- The Invariant
------------------------------------------------------------

/-
  What holds of a pool and its drains at every moment. Once a
  drain has cancelled what was left, every job that still
  waits is one of those that were cancelled.
-/
structure Invariant
    (slots : Nat)
    (c : Drainage κ) : Prop
    extends Books slots c where
  files : Files c.drains c.log
  watched : ∀ x ∈ c.drains, Watch c.pool c.doomed x
  sentenced :
    ∀ id ∈ c.doomed, ∃ s i left,
      (s, .cancelled i left) ∈ c.log ∧ id ∈ left
  spent :
    ∀ s i left, (s, .cancelled i left) ∈ c.log →
      ∀ id, c.pool.isRunning? id = some false →
        id ∈ c.doomed
  timed : ∀ e ∈ c.log, e.1 ≤ c.clock
  truthful : c.log.IsTruthful

/- An unused pool. -/
theorem invariant_start
    (n : Int) :
    Invariant (max 1 n).toNat (start n : Drainage κ) where
  sound := isSound_ofSlots n
  ledger := (Course.invariant_start n).ledger
  calls_ge := Nat.le_refl _
  distinct := List.nodup_nil
  given := by simp [start, ofSlots, gone]
  tallied := rfl
  files := by constructor <;> simp [start]
  watched := by simp [start]
  sentenced := by simp [start]
  spent := by simp [start]
  timed := by simp [start]
  truthful := .nil

/- A drain has closed the pool. -/
theorem Invariant.drains_eq_nil
    (hInvariant : Invariant slots c)
    (hOpen : c.pool.accepting = true) :
    c.drains = [] := by
  rw [List.eq_nil_iff_forall_not_mem]
  intro x hDrain
  have hClosed := (hInvariant.watched x hDrain).closed
  rw [hOpen] at hClosed
  cases hClosed

/- A drain that was noted is watched. -/
theorem Invariant.watch
    {x : Drain × Drain.Stage}
    (hInvariant : Invariant slots c)
    (hDrain : c.drains[i]? = some x) :
    Watch c.pool c.doomed x :=
  hInvariant.watched x (List.mem_of_getElem? hDrain)

/- A drain that began has closed the pool. -/
theorem Invariant.closed
    {s : Rat}
    {grace : Span}
    (hInvariant : Invariant slots c)
    (hBegan : (s, .began i grace) ∈ c.log) :
    c.pool.accepting = false := by
  rcases hInvariant.files.listed s i grace hBegan with
    ⟨x, hDrain, _⟩
  exact (hInvariant.watch hDrain).closed

/- A note of now is no earlier than all that was noted before. -/
theorem Invariant.timed_note
    (hInvariant : Invariant slots c)
    (n : Note κ) :
    ∀ e ∈ (c.note n).log, e.1 ≤ c.clock := by
  intro e hMember
  rcases List.mem_cons.mp hMember with rfl | hOld
  · exact Rat.le_refl
  · exact hInvariant.timed e hOld

theorem Invariant.sentenced_note
    (hInvariant : Invariant slots c)
    (n : Note κ) :
    ∀ id ∈ c.doomed, ∃ s i left,
      (s, .cancelled i left) ∈ (c.note n).log ∧
        id ∈ left := by
  intro id hDoomed
  rcases hInvariant.sentenced id hDoomed with
    ⟨s, i, left, hThere, hLeft⟩
  exact ⟨s, i, left, List.mem_cons_of_mem _ hThere, hLeft⟩

/- Something happens to the jobs that says nothing of a drain. -/
theorem Invariant.quietly
    {calls : Nat}
    (hInvariant : Invariant slots c)
    (hBooks :
      Books slots ({ c with pool := q, calls }.note n))
    (hQuiet : n.isQuiet = true)
    (hAdmits : c.log.Admits c.clock n)
    (hWatched : ∀ x ∈ c.drains, Watch q c.doomed x)
    (hWaits :
      c.drains ≠ [] → ∀ id, q.isRunning? id = some false →
        c.pool.isRunning? id = some false) :
    Invariant slots ({ c with pool := q, calls }.note n) where
  toBooks := hBooks
  files := hInvariant.files.quiet hQuiet
  watched := hWatched
  sentenced := hInvariant.sentenced_note _
  spent := by
    intro s i left hMember id hStill
    have hOld : (s, .cancelled i left) ∈ c.log := by
      refine mem_of_mem_note hMember ?_
      rintro rfl
      cases hQuiet
    rcases hInvariant.files.issued s i left hOld with
      ⟨x, hDrain, _⟩
    have hSome : c.drains ≠ [] :=
      List.ne_nil_of_mem (List.mem_of_getElem? hDrain)
    exact hInvariant.spent s i left hOld id
      (hWaits hSome id hStill)
  timed := hInvariant.timed_note n
  truthful :=
    .cons hAdmits hInvariant.timed hInvariant.truthful

------------------------------------------------------------
-- Jobs
------------------------------------------------------------

/- A turn of a job that was not cancelled. -/
theorem Invariant.turn
    (hInvariant : Invariant slots c)
    (hSpared : id ∉ c.doomed) :
    Invariant slots (c.turn id) := by
  have hBooks := hInvariant.toBooks.turn id
  have hWatched (x : Drain × Drain.Stage)
      (hDrain : x ∈ c.drains) :
      Watch (c.pool.step id) c.doomed x :=
    (hInvariant.watched x hDrain).of_same
      (accepting_of_intake (intake_step c.pool id))
      (live_step c.pool id) (gone_step c.pool id)
  rcases turn_cases c id with
    ⟨hWaits, hRuns, hTurn⟩ | ⟨hSame, hTurn⟩
  · rw [hTurn] at hBooks ⊢
    refine hInvariant.quietly hBooks rfl ?_ hWatched ?_
    · intro s i left hCancelled
      exact hSpared
        (hInvariant.spent s i left hCancelled id hWaits)
    · intro _ other hStill
      by_cases hOther : other = id
      · rw [hOther]
        exact hWaits
      · rw [← isRunning?_step_of_ne c.pool hOther]
        exact hStill
  · rw [hTurn] at hBooks ⊢
    refine ⟨hBooks, hInvariant.files, hWatched,
      hInvariant.sentenced, ?_, hInvariant.timed,
      hInvariant.truthful⟩
    intro s i left hCancelled other hStill
    change (c.pool.step id).isRunning? other = _ at hStill
    rw [hSame] at hStill
    exact hInvariant.spent s i left hCancelled other hStill

/- A job departs. -/
theorem Invariant.depart
    {mark : Mark κ}
    (hInvariant : Invariant slots c)
    (hDeparts : Departs c.pool id q)
    (hLive : id ∈ c.pool.live)
    (hSound : IsSound slots q)
    (hMoved : mark.moved? = some id)
    (hStands : Stands (mark :: c.log.marks) id none)
    (hAdmits : c.log.Admits c.clock (.marked mark)) :
    Invariant slots
      ({ c with pool := q }.note (.marked mark)) := by
  refine hInvariant.quietly
    (hInvariant.toBooks.depart hDeparts hLive hSound hMoved
      hStands) rfl hAdmits ?_ ?_
  · intro x hDrain
    exact (hInvariant.watched x hDrain).depart hDeparts hLive
  · intro _ other hStill
    rw [hDeparts.isRunning?] at hStill
    split at hStill
    · cases hStill
    · exact hStill

/- The end of a body. -/
theorem Invariant.finish
    (hInvariant : Invariant slots c)
    (hRuns : c.pool.isRunning? id = some true) :
    Invariant slots (c.finish id) := by
  have hLive := mem_live_of_isRunning? hRuns
  have hRunning := isRunning?_eq_some_true_iff.mp hRuns
  exact hInvariant.depart
    (departs_finish hInvariant.sound hLive) hLive
    (hInvariant.sound.finish hRunning) rfl
    (hInvariant.stands hRuns).ended trivial

/- A job that was cancelled goes before its body starts. -/
theorem Invariant.withdraw
    (hInvariant : Invariant slots c)
    (hDoomed : id ∈ c.doomed)
    (hWaits : c.pool.isRunning? id = some false) :
    Invariant slots (c.withdraw id) := by
  have hLive := mem_live_of_isRunning? hWaits
  rcases Option.map_eq_some_iff.mp hWaits with
    ⟨phase, hPhase, hNot⟩
  exact hInvariant.depart
    (departs_withdraw hInvariant.sound hLive) hLive
    (hInvariant.sound.withdraw hPhase (by simpa using hNot))
    rfl (hInvariant.stands hWaits).withdrawn
    (hInvariant.sentenced id hDoomed)

/- The pool hears of the end of a job. -/
theorem Invariant.hear
    {rest : List Nat}
    (hInvariant : Invariant slots c)
    (hGone : c.pool.gone = id :: rest) :
    Invariant slots (c.hear id) := by
  have hNodup :=
    (List.nodup_append.mp hInvariant.distinct).2.1
  refine hInvariant.quietly (hInvariant.toBooks.hear hGone)
    rfl trivial ?_ fun _ _ hStill => hStill
  intro x hDrain
  exact (hInvariant.watched x hDrain).hear rfl hGone rfl
    (gone_forget hNodup hGone)

/- Time passes. -/
theorem Invariant.pass
    (hInvariant : Invariant slots c)
    (hLater : c.clock ≤ t) :
    Invariant slots (c.pass t) where
  sound := hInvariant.sound
  ledger := hInvariant.ledger
  calls_ge := hInvariant.calls_ge
  distinct := hInvariant.distinct
  given := hInvariant.given
  tallied := hInvariant.tallied
  files := hInvariant.files
  watched := hInvariant.watched
  sentenced := hInvariant.sentenced
  spent := hInvariant.spent
  timed := fun e hMember =>
    Rat.le_trans (hInvariant.timed e hMember) hLater
  truthful := hInvariant.truthful

/- A body is submitted. -/
theorem Invariant.submit
    (hInvariant : Invariant slots c)
    (key : Option κ) :
    Invariant slots (c.submit key) := by
  have hBooks := hInvariant.toBooks.submit key
  rcases submit_cases c key with
    ⟨hAccepting, hSubmit⟩ | ⟨_, hSubmit⟩
  · have hNone := hInvariant.drains_eq_nil hAccepting
    rw [hSubmit] at hBooks ⊢
    refine hInvariant.quietly hBooks rfl ?_ ?_ ?_
    · intro s i grace hBegan
      have hClosed := hInvariant.closed hBegan
      rw [hAccepting] at hClosed
      cases hClosed
    · rw [hNone]
      intro x hDrain
      cases hDrain
    · intro hSome
      exact absurd hNone hSome
  · rw [hSubmit] at hBooks ⊢
    exact hInvariant.quietly hBooks rfl trivial
      hInvariant.watched fun _ _ hStill => hStill

------------------------------------------------------------
-- Drains
------------------------------------------------------------

/- A drain begins. -/
theorem Invariant.begin
    (hInvariant : Invariant slots c)
    (grace : Span) :
    Invariant slots (c.begin grace) where
  toBooks := hInvariant.toBooks.close.jot rfl c.doomed _
  files := hInvariant.files.begin rfl
  watched := by
    intro x hDrain
    rcases List.mem_append.mp hDrain with hOld | hNew
    · have hWatch := hInvariant.watched x hOld
      exact hWatch.of_same hWatch.closed.symm rfl rfl
    · rw [List.mem_singleton.mp hNew]
      refine ⟨rfl, ?_, ?_, trivial⟩
      · intro id hLive
        simp only [Drain.start, tracked, List.map_append,
          List.mem_append]
        exact Or.inl hLive
      · intro id hGone
        simp only [Drain.start, tracked, List.map_append,
          List.mem_append]
        exact Or.inr hGone
  sentenced := hInvariant.sentenced_note _
  spent := by
    intro s i left hMember
    exact hInvariant.spent s i left
      (mem_of_mem_note hMember (by simp))
  timed := hInvariant.timed_note _
  truthful :=
    .cons trivial hInvariant.timed hInvariant.truthful

/- The grace of a drain that is due is over by the notes. -/
theorem Invariant.isDue
    {d : Drain}
    {stage : Drain.Stage}
    (hInvariant : Invariant slots c)
    (hDrain : c.drains[i]? = some (d, stage))
    (hDue : d.isDue c.clock = true) :
    c.log.IsDue i c.clock := by
  rcases hInvariant.files.recorded i _ hDrain with
    ⟨s, grace, hBegan, hSame⟩
  change d.due = _ at hSame
  cases grace with
  | seconds n =>
      refine ⟨s, n, hBegan, ?_⟩
      simpa [Drain.isDue, hSame, Drain.dueAfter] using hDue
  | endless =>
      simp [Drain.isDue, hSame, Drain.dueAfter] at hDue

/- A drain returns when no job is left. -/
theorem Invariant.conclude
    {d : Drain}
    {stage : Drain.Stage}
    (hInvariant : Invariant slots c)
    (hDrain : c.drains[i]? = some (d, stage))
    (hGoesOn : stage ≠ .returned)
    (hEmpty : c.pool.live = [])
    (hUnheard :
      c.pool.inFlight ≠ 0 →
        c.log.IsDue i c.clock ∧
          ∀ s left, (s, .cancelled i left) ∉ c.log) :
    Invariant slots (c.conclude i d) where
  toBooks := hInvariant.toBooks.jot rfl c.doomed _
  files := hInvariant.files.move hDrain hGoesOn
    (Or.inr ⟨_, rfl, rfl⟩)
  watched := by
    intro x hThere
    rcases List.mem_or_eq_of_mem_set hThere with hOld | rfl
    · exact hInvariant.watched x hOld
    · have hWatch := hInvariant.watch hDrain
      exact ⟨hWatch.closed, hWatch.live, hWatch.gone, hEmpty⟩
  sentenced := hInvariant.sentenced_note _
  spent := by
    intro s i left hMember
    exact hInvariant.spent s i left
      (mem_of_mem_note hMember (by simp))
  timed := hInvariant.timed_note _
  truthful := by
    rcases hInvariant.files.recorded i _ hDrain with
      ⟨s, grace, hBegan, _⟩
    refine .cons
      ⟨⟨s, grace, hBegan⟩, ?_, hInvariant.tallied, hUnheard⟩
      hInvariant.timed hInvariant.truthful
    intro b key hAccepted
    exact hInvariant.ended_or_withdrawn hEmpty hAccepted

/- A drain cancels the jobs that are left. -/
theorem Invariant.cancelLeft
    {d : Drain}
    (hInvariant : Invariant slots c)
    (hDrain : c.drains[i]? = some (d, .waiting))
    (hDue : c.log.IsDue i c.clock)
    (hSome : d.left c.pool ≠ []) :
    Invariant slots (c.cancelLeft i d) := by
  have hWatch := hInvariant.watch hDrain
  have hLeft (id : Nat) :
      id ∈ d.left c.pool ↔ id ∈ c.pool.live :=
    hWatch.mem_left_iff
  have hApart (id : Nat) (hGone : id ∈ c.pool.gone) :
      id ∉ d.left c.pool := by
    rw [hLeft]
    intro hLive
    exact (List.nodup_append.mp hInvariant.distinct).2.2 id
      hLive id hGone rfl
  refine
    ⟨hInvariant.toBooks.jot rfl _ _,
      hInvariant.files.move hDrain (by simp)
        (Or.inl ⟨_, rfl, rfl⟩), ?_, ?_, ?_,
      hInvariant.timed_note _,
      .cons ⟨hDue, ?_⟩ hInvariant.timed
        hInvariant.truthful⟩
  · intro x hThere
    rcases List.mem_or_eq_of_mem_set hThere with hOld | rfl
    · exact (hInvariant.watched x hOld).doom _
    · refine ⟨hWatch.closed, hWatch.live, hWatch.gone, ?_⟩
      constructor
      · exact hSome
      · exact fun id hLive => (hLeft id).mpr hLive
      · exact fun id hMember =>
          List.mem_append_right _ hMember
      · apply List.pairwise_of_forall_mem_list
        intro a hGone _ _ hMember
        exact absurd hMember (hApart a hGone)
      · intro id hMember hNotLive
        exact absurd ((hLeft id).mp hMember) hNotLive
  · intro id hDoomed
    rcases List.mem_append.mp hDoomed with hOld | hNew
    · exact hInvariant.sentenced_note _ id hOld
    · exact ⟨c.clock, i, d.left c.pool, List.mem_cons_self,
        hNew⟩
  · intro s j left _ id hWaits
    exact List.mem_append_right _
      ((hLeft id).mpr (mem_live_of_isRunning? hWaits))
  · intro b hMember hEnded
    have hLive : (c.pool.isRunning? b).isSome = true := by
      rw [isRunning?_isSome_iff]
      exact (hLeft b).mp hMember
    rcases Option.isSome_iff_exists.mp hLive with
      ⟨runs, hRuns⟩
    have hStands := hInvariant.stands hRuns
    cases runs with
    | true => exact hStands.2.1 hEnded
    | false => exact hStands.2.1 hEnded

/- The grace of a drain is over. -/
theorem Invariant.expire
    {d : Drain}
    (hInvariant : Invariant slots c)
    (hDrain : c.drains[i]? = some (d, .waiting))
    (hDue : d.isDue c.clock = true) :
    Invariant slots (c.expire i d) := by
  have hOver := hInvariant.isDue hDrain hDue
  unfold Drainage.expire
  split
  · rename_i hNone
    have hEmpty : c.pool.live = [] := by
      rw [List.eq_nil_iff_forall_not_mem]
      intro id hLive
      have hMember :=
        (hInvariant.watch hDrain).mem_left_iff.mpr hLive
      rw [List.isEmpty_iff.mp hNone] at hMember
      cases hMember
    refine hInvariant.conclude hDrain (by simp) hEmpty ?_
    refine fun _ => ⟨hOver, ?_⟩
    intro s left hCancelled
    rcases hInvariant.files.issued s i left hCancelled with
      ⟨x, hThere, hStage⟩
    rw [hDrain] at hThere
    cases hThere
    exact hStage rfl
  · rename_i hSome
    exact hInvariant.cancelLeft hDrain hOver
      (by simpa using hSome)

/- No job is counted any more when a drain has waited for all. -/
theorem Invariant.settle
    {d : Drain}
    {stage : Drain.Stage}
    (hInvariant : Invariant slots c)
    (hDrain : c.drains[i]? = some (d, stage))
    (hGoesOn : stage ≠ .returned)
    (hNone : c.pool.live = [] ∧ c.pool.gone = []) :
    Invariant slots (c.conclude i d) := by
  refine hInvariant.conclude hDrain hGoesOn hNone.1 ?_
  intro hCounted
  rw [inFlight_eq, hNone.1, hNone.2] at hCounted
  exact absurd rfl hCounted

------------------------------------------------------------
-- All Courses
------------------------------------------------------------

/- Whatever happens next, the invariant is kept. -/
theorem Invariant.step
    {e : Drainage κ}
    (hInvariant : Invariant slots c)
    (hStep : Step c e) :
    Invariant slots e := by
  cases hStep with
  | submitted key => exact hInvariant.submit key
  | turned id hSpared => exact hInvariant.turn hSpared
  | ended id hRuns => exact hInvariant.finish hRuns
  | withdrew id hDoomed hWaits =>
      exact hInvariant.withdraw hDoomed hWaits
  | heard id hFirst =>
      rcases List.head?_eq_some_iff.mp hFirst with ⟨_, hGone⟩
      exact hInvariant.hear hGone
  | passed t hLater => exact hInvariant.pass hLater
  | began grace => exact hInvariant.begin grace
  | completed hDrain hOver =>
      exact hInvariant.settle hDrain (by simp)
        ((hInvariant.watch hDrain).eq_nil hOver)
  | expired hDrain hDue => exact hInvariant.expire hDrain hDue
  | settled left hDrain hGone =>
      have hCancels : Cancels left c.doomed c.pool :=
        (hInvariant.watch hDrain).fits
      exact hInvariant.settle hDrain (by simp)
        (hCancels.eq_nil hGone)

theorem invariant_of_reaches
    {m : Int}
    (hReaches : Reaches m c) :
    Invariant (max 1 m).toNat c := by
  induction hReaches with
  | refl => exact invariant_start m
  | tail _ hStep hInvariant => exact hInvariant.step hStep

------------------------------------------------------------
-- Progress
------------------------------------------------------------

/-
  A drain that has cancelled what was left can return: one job
  after another goes, and the pool hears of all of them. The
  induction is on the jobs that are counted, and once more on
  those that have not ended.
-/
theorem Invariant.exists_settled
    {d : Drain}
    {left : List Nat}
    (hInvariant : Invariant slots c)
    (hDrain : c.drains[i]? = some (d, .cancelling left)) :
    ∃ e, Relation.ReflTransGen Step c e ∧
      ∃ t k, (t, .returned i k) ∈ e.log := by
  induction hSize : c.pool.inFlight + c.pool.live.length using
    Nat.strongRecOn generalizing c with
  | ind size hInduction =>
      have hNext {e : Drainage κ}
          (hStep : Step c e)
          (hDrains : e.drains = c.drains)
          (hLess :
            e.pool.inFlight + e.pool.live.length < size) :
          ∃ e, Relation.ReflTransGen Step c e ∧
            ∃ t k, (t, .returned i k) ∈ e.log := by
        rcases hInduction _ hLess (hInvariant.step hStep)
          (hDrains ▸ hDrain) rfl with
          ⟨last, hReaches, hReturned⟩
        exact ⟨last, .head hStep hReaches, hReturned⟩
      have hCancels : Cancels left c.doomed c.pool :=
        (hInvariant.watch hDrain).fits
      have hLess {q : Pool κ} {id : Nat}
          (hDeparts : Departs c.pool id q)
          (hLive : id ∈ c.pool.live) :
          q.inFlight + q.live.length < size := by
        have hSame :=
          hDeparts.inFlight_eq hInvariant.sound hLive
        have hShorter : q.live.length < c.pool.live.length := by
          rw [hDeparts.live]
          exact List.length_filter_lt_length_iff_exists.mpr
            ⟨id, hLive, by simp⟩
        omega
      cases hLive : c.pool.live with
      | cons id rest =>
          have hMember : id ∈ c.pool.live := by simp [hLive]
          have hSome := isRunning?_isSome_iff.mpr hMember
          rcases Option.isSome_iff_exists.mp hSome with
            ⟨runs, hRuns⟩
          cases runs with
          | true =>
              exact hNext (.ended c id hRuns) rfl
                (hLess (departs_finish hInvariant.sound
                  hMember) hMember)
          | false =>
              have hDoomed := hCancels.doomed id
                (hCancels.covers id hMember)
              exact hNext (.withdrew c id hDoomed hRuns) rfl
                (hLess (departs_withdraw hInvariant.sound
                  hMember) hMember)
      | nil =>
          cases hGone : c.pool.gone with
          | cons id rest =>
              refine hNext (.heard c id (by simp [hGone])) rfl ?_
              have hNodup :=
                (List.nodup_append.mp hInvariant.distinct).2.1
              change (c.pool.forget id).inFlight +
                c.pool.live.length < size
              rw [inFlight_eq, gone_forget hNodup hGone]
              rw [inFlight_eq, hGone] at hSize
              change c.pool.live.length + _ + _ < _
              simp only [List.length_cons] at hSize
              omega
          | nil =>
              have hHeard (id : Nat) (_ : id ∈ left) :
                  c.pool.isTracked id = false := by
                rw [isTracked_eq_false_iff, hLive, hGone]
                simp
              exact ⟨_, .single (.settled left hDrain hHeard), _, _,
                List.mem_cons_self⟩

/- A drain whose grace is over can return. -/
theorem Invariant.exists_returned_of_due
    {d : Drain}
    (hInvariant : Invariant slots c)
    (hDrain : c.drains[i]? = some (d, .waiting))
    (hDue : d.isDue c.clock = true) :
    ∃ e, Relation.ReflTransGen Step c e ∧
      ∃ t k, (t, .returned i k) ∈ e.log := by
  have hExpired : Step c (c.expire i d) :=
    .expired hDrain hDue
  by_cases hNone : (d.left c.pool).isEmpty = true
  · refine ⟨c.expire i d, .single hExpired, ?_⟩
    rw [Drainage.expire, if_pos hNone]
    exact ⟨_, _, List.mem_cons_self⟩
  · have hCancelling :
        (c.expire i d).drains[i]? =
          some (d, .cancelling (d.left c.pool)) := by
      rw [Drainage.expire, if_neg hNone]
      exact (getElem?_set_of_some hDrain _ i).trans
        (if_pos rfl)
    rcases (hInvariant.step hExpired).exists_settled
      hCancelling with ⟨e, hReaches, hReturned⟩
    exact ⟨e, .head hExpired hReaches, hReturned⟩

/- A drain with a limited grace can return at any rate. -/
theorem Invariant.exists_returned
    {s m : Rat}
    (hInvariant : Invariant slots c)
    (hBegan : (s, .began i (.seconds m)) ∈ c.log) :
    ∃ e, Relation.ReflTransGen Step c e ∧
      ∃ t k, (t, .returned i k) ∈ e.log := by
  rcases hInvariant.files.listed s i _ hBegan with
    ⟨⟨d, stage⟩, hDrain, hDue⟩
  cases stage with
  | returned =>
      rcases hInvariant.files.concluded i d hDrain with
        ⟨t, k, hReturned⟩
      exact ⟨c, .refl, t, k, hReturned⟩
  | cancelling left => exact hInvariant.exists_settled hDrain
  | waiting =>
      change d.due = some (s + Number.greater 0 m) at hDue
      have hLate :
          ∃ t, c.clock ≤ t ∧ d.isDue t = true := by
        simp only [Drain.isDue, hDue, Option.any_some,
          decide_eq_true_eq]
        rcases Rat.le_total (a := c.clock)
          (b := s + Number.greater 0 m) with
          hBefore | hAfter
        · exact ⟨_, hBefore, Rat.le_refl⟩
        · exact ⟨c.clock, Rat.le_refl, hAfter⟩
      rcases hLate with ⟨t, hLater, hIsDue⟩
      have hPassed : Step c (c.pass t) := .passed c t hLater
      rcases (hInvariant.step hPassed).exists_returned_of_due
        hDrain hIsDue with ⟨e, hReaches, hReturned⟩
      exact ⟨e, .head hPassed hReaches, hReturned⟩

------------------------------------------------------------
-- What a Drain Promises
------------------------------------------------------------

/-
  What is promised of the drains of a pool. Once one began, no
  body is accepted, and one that is rejected never starts. A
  drain cancels only when its grace is over, and no job that
  has ended by then. After that no body starts any more. When
  it returns, no job waits or runs; as many are counted as the
  pool has not heard the ends of, which are none unless the
  drain had become due and found none to cancel. And it can
  return, if its grace has an end.
-/
structure IsSettled
    (c : Drainage κ) : Prop where
  closed :
    ∀ later past t i grace,
      c.log = later ++ (t, .began i grace) :: past →
        (∀ b key, .accepted b key ∉ Log.marks later) ∧
          ∀ key, c.pool.submit key = (none, c.pool)
  unstarted :
    ∀ b, .rejected b ∈ c.log.marks →
      .started b ∉ c.log.marks
  spared :
    ∀ later past t i left,
      c.log = later ++ (t, .cancelled i left) :: past →
        Log.IsDue past i t ∧
          ∀ b ∈ left, .ended b ∉ Log.marks past ∧
            ∀ s, (s, .marked (.ended b)) ∈ c.log → t ≤ s
  sentenced :
    ∀ later past t b,
      c.log = later ++ (t, .marked (.withdrawn b)) :: past →
        ∃ s i left, (s, .cancelled i left) ∈ past ∧ b ∈ left
  unbegun :
    ∀ later past t i left,
      c.log = later ++ (t, .cancelled i left) :: past →
        ∀ b, .started b ∉ Log.marks later
  emptied :
    ∀ later past t i k,
      c.log = later ++ (t, .returned i k) :: past →
        c.pool.jobs = [] ∧
          ∀ b key, .accepted b key ∈ c.log.marks →
            .ended b ∈ Log.marks past ∨
              .withdrawn b ∈ Log.marks past
  counted :
    ∀ later past t i k,
      c.log = later ++ (t, .returned i k) :: past →
        k + (Log.heard past).length =
            (Log.accepted past).length ∧
          (k ≠ 0 →
            Log.IsDue past i t ∧
              ∀ s left, (s, .cancelled i left) ∉ past)
  returns :
    ∀ s i m, (s, .began i (.seconds m)) ∈ c.log →
      ∃ e, Relation.ReflTransGen Step c e ∧
        ∃ t k, (t, .returned i k) ∈ e.log

/- No body is accepted after a drain began. -/
theorem Invariant.accepted_not_mem
    {later past : Log κ}
    {s : Rat}
    {grace : Span}
    (hInvariant : Invariant slots c)
    (hLog : c.log = later ++ (t, n) :: past)
    (hBegan : (s, .began i grace) ∈ (t, n) :: past)
    (b : Nat)
    (key : Option κ) :
    .accepted b key ∉ Log.marks later := by
  intro hAccepted
  rcases Log.mem_marks_iff.mp hAccepted with ⟨_, hLater⟩
  have hTruthful := hInvariant.truthful
  rw [hLog] at hTruthful
  rcases hTruthful.admits_of_later hLater with
    ⟨before, hAdmits, hThis, hPast⟩
  refine hAdmits s i grace ?_
  rcases List.mem_cons.mp hBegan with hIs | hOld
  · rw [hIs]
    exact hThis
  · exact hPast _ hOld

/-
  However bodies are submitted and end, and whenever the drains
  of a pool begin and go on, they keep their promise.
-/
theorem isSettled_of_reaches
    {m : Int}
    (hReaches : Reaches m c) :
    IsSettled c := by
  have hInvariant := invariant_of_reaches hReaches
  have hSplit {later past : Log κ} {t : Rat} {n : Note κ}
      (hLog : c.log = later ++ (t, n) :: past) :
      past.Admits t n ∧ ∀ e ∈ later, t ≤ e.1 :=
    (hLog ▸ hInvariant.truthful).split
  constructor
  · intro later past t i grace hLog
    have hBegan : (t, .began i grace) ∈ c.log := by
      rw [hLog]
      simp
    exact
      ⟨hInvariant.accepted_not_mem hLog List.mem_cons_self,
        submit_of_closed (hInvariant.closed hBegan)⟩
  · intro b hRejected
    have hUnknown := hInvariant.ledger.unknown b
      (hInvariant.ledger.rejected b hRejected).1
    exact List.count_eq_zero.mp hUnknown.1
  · intro later past t i left hLog
    rcases hSplit hLog with ⟨⟨hDue, hNotEnded⟩, hLater⟩
    refine ⟨hDue, ?_⟩
    intro b hLeft
    refine ⟨hNotEnded b hLeft, ?_⟩
    intro s hEnded
    rw [hLog] at hEnded
    rcases List.mem_append.mp hEnded with hAfter | hRest
    · exact hLater _ hAfter
    · have hBefore := mem_of_mem_note hRest (by simp)
      exact absurd (Log.mem_marks_iff.mpr ⟨s, hBefore⟩)
        (hNotEnded b hLeft)
  · intro later past t b hLog
    exact (hSplit hLog).1
  · intro later past t i left hLog b hStarted
    rcases Log.mem_marks_iff.mp hStarted with ⟨_, hLater⟩
    have hTruthful := hInvariant.truthful
    rw [hLog] at hTruthful
    rcases hTruthful.admits_of_later hLater with
      ⟨before, hAdmits, hThis, _⟩
    exact hAdmits t i left hThis
  · intro later past t i k hLog
    rcases (hSplit hLog).1 with ⟨⟨s, grace, hBegan⟩, hAll, _⟩
    have hReturned : (t, .returned i k) ∈ c.log := by
      rw [hLog]
      simp
    rcases hInvariant.files.returned t i k hReturned with
      ⟨d, hDrain⟩
    have hEmpty : c.pool.live = [] :=
      (hInvariant.watch hDrain).fits
    refine ⟨live_eq_nil_iff.mp hEmpty, ?_⟩
    intro b key hAccepted
    have hNotLater := hInvariant.accepted_not_mem hLog
      (List.mem_cons_of_mem _ hBegan) b key
    rw [hLog, Log.marks, List.filterMap_append] at hAccepted
    rcases List.mem_append.mp hAccepted with hLater | hPast
    · exact absurd hLater hNotLater
    · exact hAll b key hPast
  · intro later past t i k hLog
    rcases (hSplit hLog).1 with ⟨_, _, hTallied, hUnheard⟩
    exact ⟨hTallied, hUnheard⟩
  · intro s i m hBegan
    exact hInvariant.exists_returned hBegan

/-
  A drain without grace. The only job ends when the drain is
  due, and the pool does not hear of it before it returns.
-/
def hasty : Drainage Nat :=
  (((((start 1).submit none).begin (.seconds 0)).turn 0).finish
    0).expire 0 ⟨[0], some 0⟩

theorem reaches_hasty : Reaches 1 hasty := by
  refine ((((Relation.ReflTransGen.refl.tail
    (.submitted _ none)).tail (.began _ (.seconds 0))).tail
      (.turned _ 0 ?_)).tail (.ended _ 0 ?_)).tail
        (.expired ?_ ?_)
  all_goals decide +kernel

/-
  A drain that cancels a job and one that waits for it. The
  one that waits is withdrawn first.
-/
def stern : Drainage Nat :=
  (((((((((((start 1).submit (some 7)).submit (some 7)).turn
    0).turn 1).begin (.seconds 0)).expire 0
      ⟨[0, 1], some 0⟩).withdraw 1).finish 0).hear 1).hear
        0).conclude 0 ⟨[0, 1], some 0⟩

theorem reaches_stern : Reaches 1 stern := by
  refine ((((((((((Relation.ReflTransGen.refl.tail
    (.submitted _ (some 7))).tail
      (.submitted _ (some 7))).tail (.turned _ 0 ?_)).tail
        (.turned _ 1 ?_)).tail (.began _ (.seconds 0))).tail
          (.expired ?_ ?_)).tail (.withdrew _ 1 ?_ ?_)).tail
            (.ended _ 0 ?_)).tail (.heard _ 1 ?_)).tail
              (.heard _ 0 ?_)).tail (.settled [0, 1] ?_ ?_)
  all_goals decide +kernel

/- A hasty drain returns before the pool has heard of all ends. -/
theorem isSettled_hasty_stern :
    (hasty.log =
        [(0, .returned 0 1), (0, .marked (.ended 0)),
          (0, .marked (.started 0)),
          (0, .began 0 (.seconds 0)),
          (0, .marked (.accepted 0 none))] ∧
      Reaches 1 hasty ∧ IsSettled hasty) ∧
    (stern.log =
        [(0, .returned 0 0), (0, .heard 0), (0, .heard 1),
          (0, .marked (.ended 0)),
          (0, .marked (.withdrawn 1)),
          (0, .cancelled 0 [0, 1]),
          (0, .began 0 (.seconds 0)),
          (0, .marked (.started 0)),
          (0, .marked (.accepted 1 (some 7))),
          (0, .marked (.accepted 0 (some 7)))] ∧
      Reaches 1 stern ∧ IsSettled stern) :=
  ⟨⟨by decide, reaches_hasty,
      isSettled_of_reaches reaches_hasty⟩,
    by decide +kernel, reaches_stern,
      isSettled_of_reaches reaches_stern⟩

end Drainage

end GuildWarden.Pool
