import GuildWarden.Proofs.Dispatch.Slots

/-
  This file shows that the jobs of one key of a pool wait for
  one another. A job that may ask for a slot has no job of its
  key before it. A withdrawn job breaks such a line, so this
  is kept only when all jobs that wait are withdrawn together.

  Key definitions include:
    * `Pool.Phase.predecessor?`
    * `Pool.InTurn`
    * `Pool.cancel`

  Main statements:
    * `Pool.InTurn.not_lt_of_not_waiting`
    * `Pool.InTurn.step`
    * `Pool.InTurn.finish`
    * `Pool.InTurn.foldl_cancel`
-/

namespace GuildWarden.Pool

variable {κ : Type}
variable {p q : Pool κ}
variable {id : Nat}
variable {slots : Nat}

/- The job whose end a job in a phase waits for. -/
def Phase.predecessor? : Phase → Option Nat
  | .fresh q => q
  | .following q => some q
  | _ => none

/-
  A job that has another one of its key before it waits for
  one of its key that is not before that.
-/
def InTurn
    (p : Pool κ) : Prop :=
  ∀ i ∈ p.jobs, ∀ j ∈ p.jobs, ∀ k : κ,
    i.key = some k → j.key = some k → i.id < j.id →
      ∃ b ∈ p.jobs, b.key = some k ∧ i.id ≤ b.id ∧
        j.phase.predecessor? = some b.id

/- A job that waits for no other is the first of its key. -/
theorem InTurn.not_lt_of_not_waiting
    {i j : Job κ}
    {k : κ}
    (hTurn : InTurn p)
    (hFirst : i ∈ p.jobs)
    (hSecond : j ∈ p.jobs)
    (hFirstKey : i.key = some k)
    (hSecondKey : j.key = some k)
    (hNone : j.phase.predecessor? = none) :
    ¬ i.id < j.id := by
  intro hBefore
  rcases hTurn i hFirst j hSecond k hFirstKey hSecondKey
    hBefore with ⟨b, _, _, _, hSome⟩
  rw [hNone] at hSome
  cases hSome

------------------------------------------------------------
-- What a Turn Depends on
------------------------------------------------------------

/- What the order of the jobs of one key depends on. -/
def Job.turn
    (j : Job κ) : Nat × Option κ × Option Nat :=
  (j.id, j.key, j.phase.predecessor?)

/- Nothing but the turns of the jobs matters for their order. -/
theorem InTurn.of_turns
    (hTurn : InTurn p)
    (hSame : q.jobs.map Job.turn = p.jobs.map Job.turn) :
    InTurn q := by
  have hOld (j : Job κ)
      (hMember : j ∈ q.jobs) :
      ∃ j' ∈ p.jobs, j'.turn = j.turn :=
    List.mem_map.mp (hSame ▸ List.mem_map_of_mem hMember)
  have hNew (j : Job κ)
      (hMember : j ∈ p.jobs) :
      ∃ j' ∈ q.jobs, j'.turn = j.turn :=
    List.mem_map.mp (hSame ▸ List.mem_map_of_mem hMember)
  intro i hi j hj k hiKey hjKey hBefore
  rcases hOld i hi with ⟨i', hi', hiTurn⟩
  rcases hOld j hj with ⟨j', hj', hjTurn⟩
  simp only [Job.turn, Prod.mk.injEq] at hiTurn hjTurn
  rcases hiTurn with ⟨hiId, hiSame, _⟩
  rcases hjTurn with ⟨hjId, hjSame, hjWaits⟩
  rcases hTurn i' hi' j' hj' k (hiSame.trans hiKey)
    (hjSame.trans hjKey) (by omega) with
    ⟨b, hb, hbKey, hNotBefore, hWaits⟩
  rcases hNew b hb with ⟨b', hb', hbTurn⟩
  simp only [Job.turn, Prod.mk.injEq] at hbTurn
  rcases hbTurn with ⟨hbId, hbSame, _⟩
  refine ⟨b', hb', hbSame.trans hbKey, by omega, ?_⟩
  rw [← hjWaits, hWaits, hbId]

/- A change of phase that keeps the predecessor. -/
theorem turns_setPhase
    {old new : Phase}
    (hSorted : p.jobs.Pairwise fun a b => a.id < b.id)
    (hPhase : p.phase? id = some old)
    (hWaits : new.predecessor? = old.predecessor?) :
    (p.setPhase id new).jobs.map Job.turn =
      p.jobs.map Job.turn := by
  simp only [setPhase, List.map_map]
  apply List.map_congr_left
  intro j hMember
  simp only [Function.comp]
  split
  · rename_i hId
    have hOld : j.phase = old := by
      have hFound := phase?_of_mem hSorted hMember
      rw [hId, hPhase] at hFound
      exact (Option.some.inj hFound).symm
    simp [Job.turn, hWaits, hOld]
  · rfl

/- A grant changes no predecessor. -/
theorem turns_grant
    (hSorted : p.jobs.Pairwise fun a b => a.id < b.id) :
    p.grant.jobs.map Job.turn = p.jobs.map Job.turn := by
  unfold grant
  split
  · rename_i id hFirst
    exact turns_setPhase hSorted (phase?_of_firstQueued? hFirst)
      rfl
  · rfl

------------------------------------------------------------
-- Order Among Jobs of a Key
------------------------------------------------------------

/- The last job of a key is not before any other of the key. -/
theorem exists_of_tail?
    [DecidableEq κ]
    {j : Job κ}
    {k : κ}
    (hSorted : p.jobs.Pairwise fun a b => a.id < b.id)
    (hMember : j ∈ p.jobs)
    (hKey : j.key = some k) :
    ∃ b ∈ p.jobs, b.key = some k ∧ j.id ≤ b.id ∧
      p.tail? k = some b.id := by
  have hFound :
      (p.jobs.reverse.find? fun j =>
        j.key == some k).isSome = true := by
    rw [List.find?_isSome]
    exact ⟨j, List.mem_reverse.mpr hMember, by simp [hKey]⟩
  rcases Option.isSome_iff_exists.mp hFound with ⟨b, hSome⟩
  rcases List.find?_eq_some_iff_append.mp hSome with
    ⟨hTest, after, before, hSplit, hAfter⟩
  have hThere : b ∈ p.jobs :=
    List.mem_reverse.mp (List.mem_of_find?_eq_some hSome)
  refine ⟨b, hThere, by simpa using hTest, ?_, ?_⟩
  · rw [← List.mem_reverse, hSplit] at hMember
    rw [← List.pairwise_reverse, hSplit] at hSorted
    rcases List.mem_append.mp hMember with hLater | hRest
    · have hOther := hAfter j hLater
      simp [hKey] at hOther
    · rcases List.mem_cons.mp hRest with hSame | hEarlier
      · exact Nat.le_of_eq (congrArg (·.id) hSame)
      · have hOrdered :=
          (List.pairwise_append.mp hSorted).2.1
        exact Nat.le_of_lt
          ((List.pairwise_cons.mp hOrdered).1 j hEarlier)
  · simp [tail?, hSome]

/- A new job waits for the last one of its key. -/
theorem InTurn.submit
    [DecidableEq κ]
    (hTurn : InTurn p)
    (hSound : IsSound slots p)
    (key : Option κ) :
    InTurn (p.submit key).2 := by
  unfold Pool.submit
  split
  · intro i hi j hj k hiKey hjKey hBefore
    simp only [List.mem_append, List.mem_singleton]
      at hi hj ⊢
    rcases hj with hOld | hNew
    · have hThere : i ∈ p.jobs := by
        rcases hi with hThere | hLast
        · exact hThere
        · have hNumber := hSound.numbered j hOld
          rw [hLast] at hBefore
          exact absurd hBefore (Nat.not_lt_of_lt hNumber)
      rcases hTurn i hThere j hOld k hiKey hjKey hBefore with
        ⟨b, hb, hRest⟩
      exact ⟨b, Or.inl hb, hRest⟩
    · subst hNew
      have hThere : i ∈ p.jobs := by
        rcases hi with hThere | hLast
        · exact hThere
        · rw [hLast] at hBefore
          exact absurd hBefore (Nat.lt_irrefl _)
      have hKey : key = some k := hjKey
      rcases exists_of_tail? hSound.sorted hThere hiKey with
        ⟨b, hb, hbKey, hNotBefore, hTail⟩
      refine ⟨b, Or.inl hb, hbKey, hNotBefore, ?_⟩
      simp [Phase.predecessor?, hKey, hTail]
  · exact hTurn

/- A job whose predecessor has ended is the first of its key. -/
theorem InTurn.setPhase_of_ended
    {phase new : Phase}
    {predecessor : Nat}
    (hTurn : InTurn p)
    (hSorted : p.jobs.Pairwise fun a b => a.id < b.id)
    (hPhase : p.phase? id = some phase)
    (hWaits : phase.predecessor? = some predecessor)
    (hEnded : p.isLive predecessor = false) :
    InTurn (p.setPhase id new) := by
  have hAlone (b : Job κ)
      (hMember : b ∈ p.jobs) :
      b.id ≠ predecessor := by
    intro hSame
    have hFound := phase?_of_mem hSorted hMember
    rw [hSame] at hFound
    simp [phase?, isLive] at hFound hEnded
    simp [hEnded] at hFound
  intro i hi j hj k hiKey hjKey hBefore
  rcases List.mem_map.mp hi with ⟨i', hi', rfl⟩
  rcases List.mem_map.mp hj with ⟨j', hj', rfl⟩
  have hLabels (x : Job κ) :
      (if x.id = id then { x with phase := new } else x).id =
          x.id ∧
        (if x.id = id then { x with phase := new }
          else x).key = x.key := by
    split <;> exact ⟨rfl, rfl⟩
  rw [(hLabels i').2] at hiKey
  rw [(hLabels j').2] at hjKey
  rw [(hLabels i').1, (hLabels j').1] at hBefore
  rcases hTurn i' hi' j' hj' k hiKey hjKey hBefore with
    ⟨b, hb, hbKey, hNotBefore, hSome⟩
  have hOther : j'.id ≠ id := by
    intro hSame
    have hFound := phase?_of_mem hSorted hj'
    rw [hSame, hPhase] at hFound
    rw [← Option.some.inj hFound, hWaits] at hSome
    exact hAlone b hb (Option.some.inj hSome).symm
  refine
    ⟨_, List.mem_map_of_mem hb, (hLabels b).2.trans hbKey,
      ?_, ?_⟩
  · rw [(hLabels i').1, (hLabels b).1]
    exact hNotBefore
  · rw [(hLabels b).1, if_neg hOther]
    exact hSome

/- A job that asks for a slot has no predecessor any more. -/
theorem inTurn_ask
    (hNew : ∀ phase, phase.predecessor? = none →
      InTurn (p.setPhase id phase)) :
    InTurn (p.ask id) := by
  unfold Pool.ask
  split
  · exact hNew .queued rfl
  · exact hNew .running rfl

theorem InTurn.follow
    {phase : Phase}
    {predecessor : Nat}
    (hTurn : InTurn p)
    (hSorted : p.jobs.Pairwise fun a b => a.id < b.id)
    (hPhase : p.phase? id = some phase)
    (hWaits : phase.predecessor? = some predecessor) :
    InTurn (p.follow id predecessor) := by
  unfold Pool.follow
  split
  · exact hTurn.of_turns
      (turns_setPhase hSorted hPhase hWaits.symm)
  · rename_i hEnded
    have hGone : p.isLive predecessor = false := by
      simpa using hEnded
    exact inTurn_ask fun phase _ =>
      hTurn.setPhase_of_ended hSorted hPhase hWaits hGone

/- A turn of a job keeps the jobs of a key in order. -/
theorem InTurn.step
    (hTurn : InTurn p)
    (hSorted : p.jobs.Pairwise fun a b => a.id < b.id)
    (id : Nat) :
    InTurn (p.step id) := by
  unfold Pool.step
  split
  · rename_i hPhase
    exact inTurn_ask fun phase hNone =>
      hTurn.of_turns (turns_setPhase hSorted hPhase hNone)
  · rename_i hPhase
    exact hTurn.follow hSorted hPhase rfl
  · rename_i hPhase
    exact hTurn.follow hSorted hPhase rfl
  · rename_i hPhase
    have hTurns :
        ((p.leave id).setPhase id .running).jobs.map
            Job.turn =
          (p.leave id).jobs.map Job.turn :=
      turns_setPhase hSorted hPhase rfl
    have hTaken :
        InTurn ((p.leave id).setPhase id .running) :=
      hTurn.of_turns hTurns
    unfold takeUp
    simp only
    split
    · refine hTaken.of_turns (turns_grant ?_)
      apply sorted_of_labels hSorted
      rw [labels_setPhase]
      exact List.Sublist.refl _
    · exact hTaken
  · exact hTurn

/- A job without a predecessor leaves the line at its head. -/
theorem InTurn.remove
    {phase : Phase}
    (hTurn : InTurn p)
    (hSorted : p.jobs.Pairwise fun a b => a.id < b.id)
    (hPhase : p.phase? id = some phase)
    (hNone : phase.predecessor? = none) :
    InTurn (p.remove id) := by
  intro i hi j hj k hiKey hjKey hBefore
  simp only [Pool.remove, List.mem_filter, bne_iff_ne]
    at hi hj ⊢
  rcases hTurn i hi.1 j hj.1 k hiKey hjKey hBefore with
    ⟨b, hb, hbKey, hNotBefore, hWaits⟩
  refine ⟨b, ⟨hb, ?_⟩, hbKey, hNotBefore, hWaits⟩
  intro hSame
  have hFound := phase?_of_mem hSorted hb
  rw [hSame, hPhase] at hFound
  have hFirst : b.phase.predecessor? = none := by
    rw [← Option.some.inj hFound, hNone]
  have hDistinct : i.id ≠ b.id := by
    rw [hSame]
    exact hi.2
  exact hTurn.not_lt_of_not_waiting hi.1 hb hiKey hbKey
    hFirst (by omega)

/- A job that has run lets the next one of its key go on. -/
theorem InTurn.finish
    (hTurn : InTurn p)
    (hSorted : p.jobs.Pairwise fun a b => a.id < b.id)
    (hRunning : p.phase? id = some .running) :
    InTurn (p.finish id) := by
  have hRest := hTurn.remove hSorted hRunning rfl
  have hOrdered :=
    sorted_of_labels hSorted (labels_remove p id)
  exact hRest.of_turns (turns_grant
    (p := { p.remove id with free := p.free + 1 }) hOrdered)

/- Jobs that were running all at once have different keys. -/
theorem InTurn.of_running
    (hTurn : InTurn p)
    (hSorted : p.jobs.Pairwise fun a b => a.id < b.id)
    (hLabels : q.labels.Sublist p.labels)
    (hRunning :
      ∀ j ∈ q.jobs, p.isRunning? j.id = some true) :
    InTurn q := by
  intro i hi j hj k hiKey hjKey hBefore
  rcases exists_job_of_labels hLabels hi with
    ⟨i', hi', hiId, hiSame⟩
  rcases exists_job_of_labels hLabels hj with
    ⟨j', hj', hjId, hjSame⟩
  have hPhase := isRunning?_eq_some_true_iff.mp
    (hRunning j hj)
  rw [← hjId, phase?_of_mem hSorted hj'] at hPhase
  have hNone : j'.phase.predecessor? = none := by
    rw [Option.some.inj hPhase]
    rfl
  exact absurd (by omega)
    (hTurn.not_lt_of_not_waiting hi' hj'
      (hiSame.trans hiKey) (hjSame.trans hjKey) hNone)

------------------------------------------------------------
-- Cancellation
------------------------------------------------------------

/- Cancel a job: it is withdrawn if it does not run yet. -/
def cancel
    (p : Pool κ)
    (id : Nat) : Pool κ :=
  if p.isRunning? id = some false then p.withdraw id else p

theorem isRunning?_cancel
    (p : Pool κ)
    (id other : Nat) :
    (p.cancel id).isRunning? other =
      if other = id then (p.isRunning? other).filter (·)
      else p.isRunning? other := by
  unfold cancel
  split
  · rename_i hWaits
    rw [isRunning?_withdraw]
    split
    · rename_i hSame
      rw [hSame, hWaits]
      rfl
    · rfl
  · rename_i hNot
    split
    · rename_i hSame
      subst hSame
      cases hRuns : p.isRunning? other with
      | none => rfl
      | some b =>
          cases b with
          | true => rfl
          | false => exact absurd hRuns hNot
    · rfl

theorem labels_cancel
    (p : Pool κ)
    (id : Nat) :
    (p.cancel id).labels.Sublist p.labels := by
  unfold cancel
  split
  · rw [labels_withdraw]
    exact labels_remove p id
  · exact List.Sublist.refl _

theorem intake_cancel
    (p : Pool κ)
    (id : Nat) :
    (p.cancel id).intake = p.intake := by
  unfold cancel
  split
  · exact intake_withdraw p id
  · rfl

theorem IsSound.cancel
    (hSound : IsSound slots p)
    (id : Nat) :
    IsSound slots (p.cancel id) := by
  unfold Pool.cancel
  split
  · rename_i hWaits
    rcases Option.map_eq_some_iff.mp hWaits with
      ⟨phase, hPhase, hNot⟩
    exact hSound.withdraw hPhase (by simpa using hNot)
  · exact hSound

/- After a cancellation only running jobs are left. -/
theorem isRunning?_foldl_cancel
    (ids : List Nat)
    (p : Pool κ)
    (other : Nat) :
    (ids.foldl cancel p).isRunning? other =
      if other ∈ ids then (p.isRunning? other).filter (·)
      else p.isRunning? other := by
  induction ids generalizing p with
  | nil => simp
  | cons id rest hInduction =>
      rw [List.foldl_cons, hInduction, isRunning?_cancel]
      by_cases hSame : other = id
      · subst hSame
        simp [Option.filter_filter]
      · simp [hSame]

theorem intake_foldl_cancel
    (ids : List Nat)
    (p : Pool κ) :
    (ids.foldl cancel p).intake = p.intake := by
  induction ids generalizing p with
  | nil => rfl
  | cons id rest hInduction =>
      exact (hInduction (p.cancel id)).trans
        (intake_cancel p id)

theorem labels_foldl_cancel
    (ids : List Nat)
    (p : Pool κ) :
    (ids.foldl cancel p).labels.Sublist p.labels := by
  induction ids generalizing p with
  | nil => exact List.Sublist.refl _
  | cons id rest hInduction =>
      exact (hInduction (p.cancel id)).trans
        (labels_cancel p id)

/- No job waits when all that there are were cancelled. -/
theorem isRunning?_foldl_cancel_ne
    {ids : List Nat}
    (hAll : ∀ j ∈ p.jobs, j.id ∈ ids)
    (other : Nat) :
    (ids.foldl cancel p).isRunning? other ≠
      some false := by
  rw [isRunning?_foldl_cancel]
  split
  · intro hWaits
    have hKept := (Option.filter_eq_some_iff.mp hWaits).2
    cases hKept
  · rename_i hNotListed
    have hGone : p.isRunning? other = none := by
      rw [isRunning?_eq_none_iff]
      rintro j hMember rfl
      exact hNotListed (hAll j hMember)
    rw [hGone]
    simp

/- The jobs that are left when all jobs are cancelled. -/
theorem isRunning?_of_mem_foldl_cancel
    {ids : List Nat}
    {j : Job κ}
    (hSorted : p.jobs.Pairwise fun a b => a.id < b.id)
    (hAll : ∀ j ∈ p.jobs, j.id ∈ ids)
    (hMember : j ∈ (ids.foldl cancel p).jobs) :
    p.isRunning? j.id = some true ∧ j.phase = .running := by
  have hRest := sorted_of_labels hSorted
    (labels_foldl_cancel ids p)
  rcases exists_job_of_labels (labels_foldl_cancel ids p)
    hMember with ⟨i, hi, hId, _⟩
  have hListed : j.id ∈ ids := hId ▸ hAll i hi
  have hStatus := isRunning?_foldl_cancel ids p j.id
  rw [if_pos hListed, isRunning?,
    phase?_of_mem hRest hMember] at hStatus
  have hKept := hStatus.symm
  rw [Option.map_some, Option.filter_eq_some_iff] at hKept
  have hRuns : (j.phase == .running) = true := hKept.2
  exact ⟨by rw [hKept.1, hRuns], by simpa using hRuns⟩

/- No job waits for another when all are cancelled. -/
theorem InTurn.foldl_cancel
    {ids : List Nat}
    (hTurn : InTurn p)
    (hSorted : p.jobs.Pairwise fun a b => a.id < b.id)
    (hAll : ∀ j ∈ p.jobs, j.id ∈ ids) :
    InTurn (ids.foldl cancel p) :=
  hTurn.of_running hSorted (labels_foldl_cancel ids p)
    fun _ hMember =>
      (isRunning?_of_mem_foldl_cancel hSorted hAll
        hMember).1

end GuildWarden.Pool
