import GuildWarden.Proofs.Dispatch.Schedule

/-
  This file shows that a pool never comes to a standstill. A
  job waits only for earlier ones and has no slot meanwhile,
  and a slot is not left free while a job waits for it. So
  whenever no body is running, one that is left can start.

  Key definitions include:
    * `Pool.Phase.isInLine`
    * `Pool.IsLined`
    * `Pool.IsServed`
    * `Pool.Course.IsDue`
    * `Pool.Course.IsLively`

  Main statements:
    * `Pool.IsLined.isServed_grant`
    * `Pool.IsServed.step`
    * `Pool.IsServed.exists_starts`
    * `Pool.Course.isLively_of_reaches`
-/

namespace GuildWarden.Pool

variable {κ : Type}
variable {p q : Pool κ}
variable {id slots : Nat}
variable {phase : Phase}

------------------------------------------------------------
-- The Queue
------------------------------------------------------------

/- Whether a job in a phase has asked for a slot and waits for it. -/
def Phase.isInLine : Phase → Bool
  | .queued => true
  | .granted => true
  | _ => false

/-
  The jobs in the queue are those that have asked for a slot
  and have not taken it up, and a job waits for no later one.
-/
structure IsLined
    (p : Pool κ) : Prop where
  mem_queue_iff :
    ∀ id, id ∈ p.queue ↔
      (p.phase? id).any Phase.isInLine = true
  earlier :
    ∀ id phase predecessor, p.phase? id = some phase →
      phase.predecessor? = some predecessor →
        predecessor < id

/-
  A slot is free while a job waits for one only if a job was
  granted one, which hands on what is free when it takes it up.
-/
structure IsServed
    (p : Pool κ) : Prop
    extends IsLined p where
  served :
    ∀ id, 0 < p.free → p.phase? id = some .queued →
      ∃ other, p.phase? other = some .granted

/- A job that is there is in the phase that it is set to. -/
theorem phase?_setPhase_of_some
    (hPhase : p.phase? id = some phase)
    (new : Phase)
    (other : Nat) :
    (p.setPhase id new).phase? other =
      if other = id then some new else p.phase? other := by
  rw [phase?_setPhase]
  split
  · rename_i hSame
    rw [hSame, hPhase]
    rfl
  · rfl

/- A slot that was granted is still granted after another job moved. -/
theorem exists_granted_of_update
    {new : Option Phase}
    (hPhases :
      ∀ other, q.phase? other =
        if other = id then new else p.phase? other)
    (hOther : p.phase? id ≠ some .granted)
    (hGranted : ∃ other, p.phase? other = some .granted) :
    ∃ other, q.phase? other = some .granted := by
  rcases hGranted with ⟨lucky, hGranted⟩
  refine ⟨lucky, ?_⟩
  rw [hPhases, if_neg]
  · exact hGranted
  · rintro rfl
    exact hOther hGranted

/- A job in another phase was not granted a slot. -/
theorem ne_granted_of_aside
    (hPhase : p.phase? id = some phase)
    (hAside : phase.isInLine = false) :
    p.phase? id ≠ some .granted := by
  rw [hPhase]
  intro hGranted
  cases hGranted
  cases hAside

/- One job changes its phase, and its place in the queue with it. -/
theorem IsLined.update
    {new : Option Phase}
    (hLined : IsLined p)
    (hPhases :
      ∀ other, q.phase? other =
        if other = id then new else p.phase? other)
    (hQueue :
      ∀ other, other ∈ q.queue ↔
        if other = id then new.any Phase.isInLine = true
        else other ∈ p.queue)
    (hEarlier :
      ∀ phase predecessor, new = some phase →
        phase.predecessor? = some predecessor →
          predecessor < id) :
    IsLined q where
  mem_queue_iff := by
    intro other
    rw [hQueue, hPhases]
    split
    · exact Iff.rfl
    · exact hLined.mem_queue_iff other
  earlier := by
    intro other phase predecessor hPhase hWaits
    rw [hPhases] at hPhase
    split at hPhase
    · rename_i hSame
      rw [hSame]
      exact hEarlier phase predecessor hPhase hWaits
    · exact hLined.earlier other phase predecessor hPhase
        hWaits

/- A job in the queue waits for a slot, or was granted one. -/
theorem IsLined.phase?_cases
    (hLined : IsLined p)
    (hMember : id ∈ p.queue) :
    p.phase? id = some .queued ∨
      p.phase? id = some .granted := by
  have hInLine := (hLined.mem_queue_iff id).mp hMember
  cases hPhase : p.phase? id with
  | none =>
      rw [hPhase] at hInLine
      cases hInLine
  | some phase =>
      rw [hPhase] at hInLine
      cases phase with
      | queued => exact Or.inl rfl
      | granted => exact Or.inr rfl
      | _ => cases hInLine

/- A job that has not asked for a slot is not in the queue. -/
theorem IsLined.not_mem_queue
    (hLined : IsLined p)
    (hPhase : p.phase? id = some phase)
    (hAside : phase.isInLine = false) :
    id ∉ p.queue := by
  rw [hLined.mem_queue_iff, hPhase]
  simpa using hAside

------------------------------------------------------------
-- Grants
------------------------------------------------------------

/- The first one that waits is granted a slot, if there is one. -/
theorem phase?_grant
    (p : Pool κ)
    (other : Nat) :
    p.grant.phase? other =
      if p.firstQueued? = some other then some .granted
      else p.phase? other := by
  unfold grant
  split
  · rename_i id hFirst
    have hQueued := phase?_of_firstQueued? hFirst
    have hChanged := phase?_setPhase p id other .granted
    change (p.setPhase id .granted).phase? other = _
    rw [hChanged, hFirst]
    by_cases hSame : other = id
    · simp [hSame, hQueued]
    · have hApart : ¬ id = other := fun h => hSame h.symm
      simp [hSame, hApart]
  · rename_i hNone
    simp [hNone]

theorem queue_grant
    (p : Pool κ) :
    p.grant.queue = p.queue := by
  unfold grant
  split <;> rfl

/- After a grant nobody waits, or somebody was granted a slot. -/
theorem IsLined.isServed_grant
    (hLined : IsLined p) :
    IsServed p.grant := by
  cases hFirst : p.firstQueued? with
  | none =>
      have hSame : p.grant = p := by
        simp [grant, hFirst]
      rw [hSame]
      refine ⟨hLined, ?_⟩
      intro id _ hQueued
      have hMember : id ∈ p.queue := by
        rw [hLined.mem_queue_iff, hQueued]
        rfl
      have hNot := List.find?_eq_none.mp hFirst id hMember
      simp [hQueued] at hNot
  | some id =>
      have hQueued := phase?_of_firstQueued? hFirst
      have hPhases (other : Nat) :
          p.grant.phase? other =
            if other = id then some .granted
            else p.phase? other := by
        rw [phase?_grant, hFirst]
        simp only [Option.some.injEq, eq_comm (a := id)]
      refine ⟨hLined.update hPhases ?_ ?_, ?_⟩
      · intro other
        rw [queue_grant]
        split
        · rename_i hSame
          rw [hSame, hLined.mem_queue_iff, hQueued]
          exact Iff.rfl
        · exact Iff.rfl
      · intro phase predecessor hGranted hWaits
        cases hGranted
        cases hWaits
      · intro _ _ _
        exact ⟨id, by rw [hPhases, if_pos rfl]⟩

------------------------------------------------------------
-- Turns
------------------------------------------------------------

/- A job that had not asked for a slot waits for something else. -/
theorem IsServed.setPhase
    {new : Phase}
    (hServed : IsServed p)
    (hPhase : p.phase? id = some phase)
    (hAside : phase.isInLine = false)
    (hStaysAside : new.isInLine = false)
    (hEarlier :
      ∀ predecessor, new.predecessor? = some predecessor →
        predecessor < id) :
    IsServed (p.setPhase id new) := by
  have hPhases := phase?_setPhase_of_some hPhase new
  have hNotQueued := hServed.not_mem_queue hPhase hAside
  refine ⟨hServed.update hPhases ?_ ?_, ?_⟩
  · intro other
    change other ∈ p.queue ↔ _
    split
    · rename_i hSame
      rw [hSame]
      simp [hNotQueued, hStaysAside]
    · exact Iff.rfl
  · intro phase predecessor hSame hWaits
    cases hSame
    exact hEarlier predecessor hWaits
  · intro other hFree hQueued
    rw [hPhases] at hQueued
    split at hQueued
    · cases hQueued
      cases hStaysAside
    · exact exists_granted_of_update hPhases
        (ne_granted_of_aside hPhase hAside)
        (hServed.served other hFree hQueued)

/- A job asks for a slot, and takes it if nobody else waits. -/
theorem IsServed.ask
    (hServed : IsServed p)
    (hPhase : p.phase? id = some phase)
    (hAside : phase.isInLine = false) :
    IsServed (p.ask id) := by
  have hNotQueued := hServed.not_mem_queue hPhase hAside
  have hPhases := phase?_setPhase_of_some hPhase
  unfold Pool.ask
  split
  · rename_i hTaken
    refine ⟨hServed.update (hPhases .queued) ?_ ?_, ?_⟩
    · intro other
      change other ∈ p.queue ++ [id] ↔ _
      rw [List.mem_append, List.mem_singleton]
      split
      · rename_i hSame
        simp [hSame, Phase.isInLine]
      · rename_i hOther
        simp [hOther]
    · intro phase predecessor hSame hWaits
      cases hSame
      cases hWaits
    · -- A free slot was left to somebody in the queue.
      intro _ hFree _
      have hSomebody : p.queue ≠ [] := by
        intro hEmpty
        have hNone : p.free = 0 := by
          simpa [hEmpty] using hTaken
        exact Nat.ne_of_gt hFree hNone
      rcases List.exists_mem_of_ne_nil _ hSomebody with
        ⟨first, hMember⟩
      refine exists_granted_of_update (hPhases .queued)
        (ne_granted_of_aside hPhase hAside) ?_
      rcases hServed.phase?_cases hMember with
        hQueued | hGranted
      · exact hServed.served first hFree hQueued
      · exact ⟨first, hGranted⟩
  · rename_i hFree
    have hEmpty : p.queue = [] := by
      simp only [Bool.or_eq_true, decide_eq_true_eq, not_or,
        Bool.not_eq_true', Bool.not_eq_false,
        List.isEmpty_iff] at hFree
      exact hFree.2
    refine ⟨hServed.update (hPhases .running) ?_ ?_, ?_⟩
    · intro other
      change other ∈ p.queue ↔ _
      split
      · rename_i hSame
        rw [hSame]
        simp [hNotQueued, Phase.isInLine]
      · exact Iff.rfl
    · intro phase predecessor hSame hWaits
      cases hSame
      cases hWaits
    · intro other _ hQueued
      have hOld := (hPhases .running other).symm.trans hQueued
      split at hOld
      · cases hOld
      · have hMember := (hServed.mem_queue_iff other).mpr
          (by rw [hOld]; rfl)
        rw [hEmpty] at hMember
        cases hMember

/- A job waits for its predecessor, or asks for a slot. -/
theorem IsServed.follow
    {predecessor : Nat}
    (hServed : IsServed p)
    (hPhase : p.phase? id = some phase)
    (hWaits : phase.predecessor? = some predecessor) :
    IsServed (p.follow id predecessor) := by
  have hAside : phase.isInLine = false := by
    cases phase with
    | queued => cases hWaits
    | granted => cases hWaits
    | _ => rfl
  unfold Pool.follow
  split
  · refine hServed.setPhase hPhase hAside rfl ?_
    intro other hSame
    cases hSame
    exact hServed.earlier id phase predecessor hPhase hWaits
  · exact hServed.ask hPhase hAside

/- A job takes a slot up and hands on what else is free. -/
theorem IsServed.takeUp
    (hServed : IsServed p)
    (hPhase : p.phase? id = some .granted) :
    IsServed (p.takeUp id) := by
  have hPhases (other : Nat) :
      ((p.leave id).setPhase id .running).phase? other =
        if other = id then some .running
        else p.phase? other :=
    phase?_setPhase_of_some (p := p.leave id) hPhase .running
      other
  have hLined :
      IsLined ((p.leave id).setPhase id .running) := by
    refine hServed.update hPhases ?_ ?_
    · intro other
      change other ∈ p.queue.filter _ ↔ _
      rw [List.mem_filter, bne_iff_ne]
      split
      · rename_i hSame
        simp [hSame, Phase.isInLine]
      · rename_i hOther
        simp [hOther]
    · intro phase predecessor hSame hWaits
      cases hSame
      cases hWaits
  unfold Pool.takeUp
  simp only
  split
  · exact hLined.isServed_grant
  · rename_i hNone
    exact ⟨hLined, fun _ hFree _ => absurd hFree hNone⟩

/- A turn of a job leaves no slot free in vain. -/
theorem IsServed.step
    (hServed : IsServed p)
    (id : Nat) :
    IsServed (p.step id) := by
  unfold Pool.step
  split
  · rename_i hPhase
    exact hServed.ask hPhase rfl
  · rename_i hPhase
    exact hServed.follow hPhase rfl
  · rename_i hPhase
    exact hServed.follow hPhase rfl
  · rename_i hPhase
    exact hServed.takeUp hPhase
  · exact hServed

------------------------------------------------------------
-- Ends
------------------------------------------------------------

/- A job that is removed leaves the queue in order. -/
theorem IsLined.leave
    (hLined : IsLined p)
    (id : Nat) :
    IsLined ((p.remove id).leave id) := by
  refine hLined.update (phase?_remove p id) ?_ ?_
  · intro other
    change other ∈ p.queue.filter _ ↔ _
    rw [List.mem_filter, bne_iff_ne]
    split
    · rename_i hSame
      simp [hSame]
    · rename_i hOther
      simp [hOther]
  · intro phase predecessor hNone
    cases hNone

/- The slot of a job that has run goes to the next one. -/
theorem IsServed.finish
    (hServed : IsServed p)
    (hRunning : p.phase? id = some .running) :
    IsServed (p.finish id) := by
  have hNotQueued := hServed.not_mem_queue hRunning rfl
  apply IsLined.isServed_grant
  refine hServed.update (phase?_remove p id) ?_ ?_
  · intro other
    change other ∈ p.queue ↔ _
    split
    · rename_i hSame
      rw [hSame]
      simp [hNotQueued]
    · exact Iff.rfl
  · intro phase predecessor hNone
    cases hNone

/- The slot that a withdrawn job was granted goes to the next one. -/
theorem IsServed.withdraw
    (hServed : IsServed p)
    (id : Nat) :
    IsServed (p.withdraw id) := by
  have hLined := hServed.leave id
  unfold Pool.withdraw
  simp only
  split
  · apply IsLined.isServed_grant
    exact ⟨hLined.mem_queue_iff, hLined.earlier⟩
  · rename_i hNotGranted
    refine ⟨hLined, ?_⟩
    intro other hFree hQueued
    have hOld := (phase?_remove p id other).symm.trans hQueued
    split at hOld
    · cases hOld
    · refine exists_granted_of_update (phase?_remove p id) ?_
        (hServed.served other hFree hOld)
      simpa using hNotGranted

theorem IsServed.foldl_cancel
    (hServed : IsServed p)
    (ids : List Nat) :
    IsServed (ids.foldl cancel p) := by
  induction ids generalizing p with
  | nil => exact hServed
  | cons id rest hInduction =>
      apply hInduction
      unfold cancel
      split
      · exact hServed.withdraw id
      · exact hServed

------------------------------------------------------------
-- Submissions
------------------------------------------------------------

/- The last job of a key is an earlier one than the next. -/
theorem lt_of_tail?
    [BEq κ]
    {key : κ}
    {last : Nat}
    (hSound : IsSound slots p)
    (hTail : p.tail? key = some last) :
    last < p.nextId := by
  rcases Option.map_eq_some_iff.mp hTail with
    ⟨j, hFound, rfl⟩
  exact hSound.numbered j
    (List.mem_reverse.mp (List.mem_of_find?_eq_some hFound))

/- A new job waits aside. -/
theorem IsServed.submit
    [BEq κ]
    (hServed : IsServed p)
    (hSound : IsSound slots p)
    (key : Option κ) :
    IsServed (p.submit key).2 := by
  cases hAccepting : p.accepting with
  | false =>
      have hSame : (p.submit key).2 = p := by
        simp [Pool.submit, hAccepting]
      rw [hSame]
      exact hServed
  | true =>
      have hPhases := phase?_submit hSound hAccepting key
      have hRest :
          (p.submit key).2.queue = p.queue ∧
            (p.submit key).2.free = p.free := by
        simp [Pool.submit, hAccepting]
      have hUnknown : p.phase? p.nextId = none := by
        rw [phase?_eq_none_iff]
        intro j hMember
        exact Nat.ne_of_lt (hSound.numbered j hMember)
      refine ⟨hServed.update hPhases ?_ ?_, ?_⟩
      · intro other
        rw [hRest.1]
        split
        · rename_i hSame
          rw [hSame, hServed.mem_queue_iff, hUnknown]
          simp [Phase.isInLine]
        · exact Iff.rfl
      · intro phase predecessor hSame hWaits
        cases hSame
        rcases Option.bind_eq_some_iff.mp hWaits with
          ⟨k, _, hTail⟩
        exact lt_of_tail? hSound hTail
      · intro other hFree hQueued
        rw [hRest.2] at hFree
        rw [hPhases] at hQueued
        split at hQueued
        · cases hQueued
        · refine exists_granted_of_update hPhases ?_
            (hServed.served other hFree hQueued)
          simp [hUnknown]

/- An empty pool has nobody to serve. -/
theorem isServed_ofSlots
    (n : Int) :
    IsServed (ofSlots n : Pool κ) := by
  refine ⟨⟨?_, ?_⟩, ?_⟩
  · intro id
    simp [ofSlots, phase?, find?]
  · intro id phase predecessor hPhase
    simp [ofSlots, phase?, find?] at hPhase
  · intro id _ hQueued
    simp [ofSlots, phase?, find?] at hQueued

------------------------------------------------------------
-- Who Can Start
------------------------------------------------------------

/- A job that was granted a slot runs at its next turn. -/
theorem isRunning?_step_of_granted
    (hGranted : p.phase? id = some .granted) :
    (p.step id).isRunning? id = some true := by
  have hTaken :
      ((p.leave id).setPhase id .running).isRunning? id =
        some true := by
    rw [isRunning?_setPhase, if_pos rfl]
    change (p.isRunning? id).map _ = _
    simp [isRunning?, hGranted]
  unfold step
  simp only [hGranted]
  unfold takeUp
  simp only
  split
  · rw [isRunning?_grant]
    exact hTaken
  · exact hTaken

/- A job that asks for a free slot that nobody waits for runs. -/
theorem isRunning?_ask_of_free
    (hPhase : p.phase? id = some phase)
    (hFree : p.free ≠ 0)
    (hEmpty : p.queue = []) :
    (p.ask id).isRunning? id = some true := by
  unfold ask
  rw [if_neg (by simp [hFree, hEmpty])]
  change (p.setPhase id .running).isRunning? id = _
  rw [isRunning?_setPhase, if_pos rfl]
  simp [isRunning?, hPhase]

/- The first job of all does not wait for another one. -/
theorem IsServed.step_first
    {j : Job κ}
    {rest : List (Job κ)}
    (hServed : IsServed p)
    (hSorted : p.jobs.Pairwise fun a b => a.id < b.id)
    (hJobs : p.jobs = j :: rest)
    (hEmpty : p.queue = [])
    (hIdle : j.phase ≠ .running) :
    p.step j.id = p.ask j.id := by
  have hMember : j ∈ p.jobs := by
    rw [hJobs]
    exact List.mem_cons_self
  have hPhase := phase?_of_mem hSorted hMember
  have hAside : j.phase.isInLine ≠ true := by
    intro hInLine
    have hQueued := (hServed.mem_queue_iff j.id).mpr
      (by rw [hPhase]; exact hInLine)
    rw [hEmpty] at hQueued
    cases hQueued
  have hFollow (predecessor : Nat)
      (hWaits : j.phase.predecessor? = some predecessor) :
      p.follow j.id predecessor = p.ask j.id := by
    have hLess :=
      hServed.earlier j.id j.phase predecessor hPhase hWaits
    have hEnded : p.isLive predecessor = false := by
      have hNone : p.phase? predecessor = none := by
        rw [phase?_eq_none_iff, hJobs]
        rw [hJobs] at hSorted
        intro x hThere
        rcases List.mem_cons.mp hThere with rfl | hLater
        · exact Nat.ne_of_gt hLess
        · have hAfter :=
            (List.pairwise_cons.mp hSorted).1 x hLater
          exact Nat.ne_of_gt (Nat.lt_trans hLess hAfter)
      simpa [phase?, isLive] using hNone
    simp [Pool.follow, hEnded]
  unfold Pool.step
  rw [hPhase]
  cases hIs : j.phase with
  | fresh predecessor =>
      cases predecessor with
      | none => rfl
      | some predecessor =>
          exact hFollow predecessor (by rw [hIs]; rfl)
  | following predecessor =>
      exact hFollow predecessor (by rw [hIs]; rfl)
  | queued => exact absurd (by rw [hIs]; rfl) hAside
  | granted => exact absurd (by rw [hIs]; rfl) hAside
  | running => exact absurd hIs hIdle

/-
  If there are jobs and none of them runs, the next turn of
  one of them makes it run: of one that was granted a slot, or
  of the first one, since all slots are free then.
-/
theorem IsServed.exists_starts
    (hServed : IsServed p)
    (hSound : IsSound slots p)
    (hSlots : 0 < slots)
    (hLeft : p.jobs ≠ [])
    (hIdle : p.running = []) :
    ∃ id, p.isRunning? id = some false ∧
      (p.step id).isRunning? id = some true := by
  have hNoneRuns (j : Job κ) (hMember : j ∈ p.jobs) :
      j.phase ≠ .running := by
    intro hRuns
    have hThere : j.id ∈ p.running := by
      rw [mem_running_iff hSound.sorted,
        isRunning?_eq_some_true_iff,
        phase?_of_mem hSound.sorted hMember, hRuns]
    rw [hIdle] at hThere
    cases hThere
  by_cases hGranted : ∃ id, p.phase? id = some .granted
  · rcases hGranted with ⟨id, hGranted⟩
    refine ⟨id, ?_, isRunning?_step_of_granted hGranted⟩
    simp [isRunning?, hGranted]
  · have hHeld : p.held = 0 := by
      rw [held, List.countP_eq_zero]
      intro j hMember
      have hPhase := phase?_of_mem hSound.sorted hMember
      have hRuns := hNoneRuns j hMember
      cases hIs : j.phase with
      | granted =>
          exact absurd ⟨j.id, hPhase.trans (by rw [hIs])⟩
            hGranted
      | running => exact absurd hIs hRuns
      | _ => simp [Phase.hasSlot]
    have hFree : p.free ≠ 0 := by
      have hTotal := hSound.accounted
      omega
    have hEmpty : p.queue = [] := by
      rw [List.eq_nil_iff_forall_not_mem]
      intro id hMember
      rcases hServed.phase?_cases hMember with
        hQueued | hLucky
      · exact hGranted (hServed.served id
          (Nat.pos_of_ne_zero hFree) hQueued)
      · exact hGranted ⟨id, hLucky⟩
    rcases List.exists_cons_of_ne_nil hLeft with
      ⟨j, rest, hJobs⟩
    have hMember : j ∈ p.jobs := by
      rw [hJobs]
      exact List.mem_cons_self
    have hPhase := phase?_of_mem hSound.sorted hMember
    have hRuns := hNoneRuns j hMember
    refine ⟨j.id, ?_, ?_⟩
    · simpa [isRunning?, hPhase] using hRuns
    · rw [hServed.step_first hSound.sorted hJobs hEmpty hRuns]
      exact isRunning?_ask_of_free hPhase hFree hEmpty

------------------------------------------------------------
-- All Courses
------------------------------------------------------------

namespace Course

variable {c d : Course κ}

/- What a job does to the pool is not changed by notes. -/
theorem pool_turn
    (c : Course κ)
    (id : Nat) :
    (c.turn id).pool = c.pool.step id := by
  unfold turn
  simp only
  split
  · exact (frame_note { c with pool := c.pool.step id } id
      _).1
  · rfl

variable [DecidableEq κ]

theorem pool_submit
    (c : Course κ)
    (key : Option κ) :
    (c.submit key).pool = (c.pool.submit key).2 := by
  unfold submit
  split <;> simp_all

/- No slot is ever left free in vain. -/
theorem isServed_of_reaches
    {n : Int}
    (hReaches : Reaches n c) :
    IsServed c.pool := by
  induction hReaches with
  | refl => exact isServed_ofSlots n
  | tail hEarlier hStep hServed =>
      have hSound := (invariant_of_reaches hEarlier).sound
      cases hStep with
      | submitted key =>
          rw [pool_submit]
          exact hServed.submit hSound key
      | turned id =>
          rw [pool_turn]
          exact hServed.step id
      | ended id hRunning =>
          rw [Course.finish, (frame_note _ id _).1]
          exact hServed.finish hRunning
      | drained =>
          exact ⟨⟨hServed.mem_queue_iff, hServed.earlier⟩,
            hServed.served⟩
      | cancelled found order hFound hOrder =>
          rw [(frame_foldl_cancel order _).1]
          exact hServed.foldl_cancel order

/-
  An accepted body that has not started and was not withdrawn
  starts at the next turn of its job.
-/
structure IsDue
    (c : Course κ)
    (id : Nat) : Prop where
  accepted : ∃ key, .accepted id key ∈ c.history
  notStarted : .started id ∉ c.history
  notWithdrawn : .withdrawn id ∉ c.history
  starts : (c.turn id).history = .started id :: c.history

/-
  What is promised of a pool with a number of slots: those who
  wait for a predecessor have none of the slots and wait for
  earlier ones only, and a body that is left can start when no
  body is running.
-/
structure IsLively
    (slots : Nat)
    (c : Course κ) : Prop where
  accounted : c.pool.free + c.pool.held = slots
  waiting :
    ∀ j ∈ c.pool.jobs, ∀ predecessor,
      j.phase.predecessor? = some predecessor →
        j.phase.hasSlot = false ∧ predecessor < j.id
  startable :
    ∀ b key, .accepted b key ∈ c.history →
      .ended b ∉ c.history → .withdrawn b ∉ c.history →
        c.running = [] → ∃ id, c.IsDue id

/- A job that waits and runs after its turn has its body start. -/
theorem Invariant.isDue
    {id slots : Nat}
    (hInvariant : Invariant slots c)
    (hWaits : c.pool.isRunning? id = some false)
    (hStarts : (c.pool.step id).isRunning? id = some true) :
    c.IsDue id := by
  have hLess := hInvariant.lt_nextId hWaits
  have hStands := hInvariant.ledger.standing id hLess
  rw [hWaits] at hStands
  have hNoted :=
    note_of_lt (c := { c with pool := c.pool.step id })
      hInvariant.bodies hLess .started
  refine ⟨?_, List.count_eq_zero.mp hStands.1, hStands.2.2, ?_⟩
  · have hThere : c.pool.isRunning? id ≠ none := by simp [hWaits]
    rw [ne_eq, isRunning?_eq_none_iff] at hThere
    push Not at hThere
    rcases hThere with ⟨j, hMember, rfl⟩
    exact ⟨j.key, hInvariant.ledger.listed j hMember⟩
  · simp only [Course.turn, hWaits, hStarts, true_and, if_true,
      hNoted]

/- However it is used, a pool never comes to a standstill. -/
theorem isLively_of_reaches
    {n : Int}
    (hReaches : Reaches n c) :
    IsLively (max 1 n).toNat c := by
  have hInvariant := invariant_of_reaches hReaches
  have hServed := isServed_of_reaches hReaches
  refine ⟨hInvariant.sound.accounted, ?_, ?_⟩
  · intro j hMember predecessor hWaits
    have hPhase := phase?_of_mem hInvariant.sound.sorted hMember
    refine ⟨?_, hServed.earlier j.id j.phase predecessor hPhase
      hWaits⟩
    cases hIs : j.phase with
    | granted =>
        rw [hIs] at hWaits
        cases hWaits
    | running =>
        rw [hIs] at hWaits
        cases hWaits
    | _ => rfl
  · intro b key hAccepted hNotEnded hNotWithdrawn hIdle
    have hStands := hInvariant.ledger.standing b
      (hInvariant.ledger.accepted b key hAccepted)
    have hLeft : c.pool.jobs ≠ [] := by
      intro hNone
      have hGone : c.pool.isRunning? b = none := by
        rw [isRunning?_eq_none_iff, hNone]
        simp
      rw [hGone] at hStands
      rcases hStands with hEnded | hWithdrawn
      · exact hNotEnded hEnded.2.1
      · exact hNotWithdrawn hWithdrawn.2.2
    have hSlots : 0 < (max 1 n).toNat := by omega
    rw [hInvariant.running_eq] at hIdle
    rcases hServed.exists_starts hInvariant.sound hSlots hLeft
      hIdle with ⟨id, hWaits, hStarts⟩
    exact ⟨id, hInvariant.isDue hWaits hStarts⟩

/-
  One slot, two bodies of one key and one without a key. The
  first body has ended; the second one still waits for it, and
  the third one was granted the slot.
-/
def relay : Course Nat :=
  (((((((start 1).submit (some 7)).submit (some 7)).submit
    none).turn 0).turn 1).turn 2).finish 0

theorem reaches_relay : Reaches 1 relay := by
  refine ((((((Relation.ReflTransGen.refl.tail
    (.submitted _ _)).tail (.submitted _ _)).tail
      (.submitted _ _)).tail (.turned _ 0)).tail
        (.turned _ 1)).tail (.turned _ 2)).tail (.ended _ 0 ?_)
  decide

/- No body runs, two are left, and one of them can start. -/
theorem isLively_relay :
    Reaches 1 relay ∧
      relay.pool.jobs.map (fun j => (j.id, j.phase)) =
          [(1, .following 0), (2, .granted)] ∧
        relay.running = [] ∧
          IsLively (max 1 (1 : Int)).toNat relay ∧
            ∃ id, relay.IsDue id :=
  ⟨reaches_relay, by decide, by decide,
    isLively_of_reaches reaches_relay,
    (isLively_of_reaches reaches_relay).startable 1 (some 7)
      (by decide) (by decide) (by decide) (by decide)⟩

end Course

end GuildWarden.Pool
