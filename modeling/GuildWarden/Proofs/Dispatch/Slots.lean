import GuildWarden.Dispatch.Pool
import Mathlib.Data.List.Nodup

/-
  This file counts the slots of a pool. Every slot is free,
  granted to a job, or taken by a running one, whatever the
  pool does; and no operation but a turn of a job itself makes
  that job run.

  Key definitions include:
    * `Pool.held`
    * `Pool.isRunning?`
    * `Pool.IsSound`

  Main statements:
    * `Pool.isRunning?_step_of_ne`
    * `Pool.IsSound.step`
    * `Pool.IsSound.finish`
    * `Pool.IsSound.withdraw`
    * `Pool.IsSound.length_running_le`
-/

namespace GuildWarden.Pool

variable {κ : Type}
variable {p q : Pool κ}
variable {id other : Nat}
variable {phase : Phase}

------------------------------------------------------------
-- Views
------------------------------------------------------------

/- Whether a job in a phase has a slot. -/
def Phase.hasSlot : Phase → Bool
  | .granted => true
  | .running => true
  | _ => false

/- The number of slots that jobs have. -/
def held
    (p : Pool κ) : Nat :=
  p.jobs.countP (·.phase.hasSlot)

/- Whether a job that has not ended is running. -/
def isRunning?
    (p : Pool κ)
    (id : Nat) : Option Bool :=
  (p.phase? id).map (· == .running)

/-
  The jobs are in the order of their numbers, which were all
  given out, and no slot is lost or made up.
-/
structure IsSound
    (slots : Nat)
    (p : Pool κ) : Prop where
  sorted : p.jobs.Pairwise fun a b => a.id < b.id
  numbered : ∀ j ∈ p.jobs, j.id < p.nextId
  accounted : p.free + p.held = slots

------------------------------------------------------------
-- Jobs
------------------------------------------------------------

/- A job that has not ended is found among the jobs. -/
theorem exists_job_of_phase?
    (hPhase : p.phase? id = some phase) :
    ∃ j ∈ p.jobs, j.id = id ∧ j.phase = phase := by
  unfold phase? find? at hPhase
  rcases Option.map_eq_some_iff.mp hPhase with
    ⟨j, hFound, hSame⟩
  exact
    ⟨j, List.mem_of_find?_eq_some hFound,
      by simpa using List.find?_some hFound, hSame⟩

/- Jobs of one number are the same. -/
theorem eq_of_id_eq
    {j k : Job κ}
    (hSorted : p.jobs.Pairwise fun a b => a.id < b.id)
    (hFirst : j ∈ p.jobs)
    (hSecond : k ∈ p.jobs)
    (hId : j.id = k.id) :
    j = k := by
  have hDistinct : (p.jobs.map (·.id)).Nodup :=
    (List.pairwise_map.mpr hSorted).imp Nat.ne_of_lt
  exact List.inj_on_of_nodup_map hDistinct hFirst hSecond hId

/- A job is found under its number. -/
theorem phase?_of_mem
    {j : Job κ}
    (hSorted : p.jobs.Pairwise fun a b => a.id < b.id)
    (hMember : j ∈ p.jobs) :
    p.phase? j.id = some j.phase := by
  have hFound : (p.find? j.id).isSome = true := by
    unfold find?
    rw [List.find?_isSome]
    exact ⟨j, hMember, by simp⟩
  rcases Option.isSome_iff_exists.mp hFound with
    ⟨k, hSome⟩
  have hId : k.id = j.id := by
    simpa using List.find?_some hSome
  have hEqual : k = j :=
    eq_of_id_eq hSorted (List.mem_of_find?_eq_some hSome)
      hMember hId
  simp [phase?, hSome, hEqual]

/- A number without a job. -/
theorem phase?_eq_none_iff :
    p.phase? id = none ↔ ∀ j ∈ p.jobs, j.id ≠ id := by
  simp [phase?, find?, List.find?_eq_none]

/- The jobs around a job that has not ended. -/
theorem exists_split_of_phase?
    (hSorted : p.jobs.Pairwise fun a b => a.id < b.id)
    (hPhase : p.phase? id = some phase) :
    ∃ before j after,
      p.jobs = before ++ j :: after ∧
        j.id = id ∧ j.phase = phase ∧
        (∀ x ∈ before, x.id < id) ∧
        ∀ x ∈ after, id < x.id := by
  rcases exists_job_of_phase? hPhase with
    ⟨j, hMember, hId, hSame⟩
  rcases List.append_of_mem hMember with
    ⟨before, after, hJobs⟩
  rw [hJobs, List.pairwise_append] at hSorted
  refine ⟨before, j, after, hJobs, hId, hSame, ?_, ?_⟩
  · intro x hBefore
    rw [← hId]
    exact hSorted.2.2 x hBefore j List.mem_cons_self
  · intro x hAfter
    rw [← hId]
    exact (List.pairwise_cons.mp hSorted.2.1).1 x hAfter

/- Whether a job is live is whether it is found. -/
theorem isRunning?_eq_none_iff :
    p.isRunning? id = none ↔ ∀ j ∈ p.jobs, j.id ≠ id := by
  unfold isRunning?
  rw [Option.map_eq_none_iff, phase?_eq_none_iff]

theorem isRunning?_eq_some_true_iff :
    p.isRunning? id = some true ↔
      p.phase? id = some .running := by
  simp [isRunning?]

/- The running jobs are those whose phase says so. -/
theorem mem_running_iff
    (hSorted : p.jobs.Pairwise fun a b => a.id < b.id) :
    id ∈ p.running ↔ p.isRunning? id = some true := by
  rw [isRunning?_eq_some_true_iff]
  simp only [running, List.mem_map, List.mem_filter,
    beq_iff_eq]
  constructor
  · rintro ⟨j, ⟨hMember, hPhase⟩, rfl⟩
    rw [phase?_of_mem hSorted hMember, hPhase]
  · intro hPhase
    rcases exists_job_of_phase? hPhase with
      ⟨j, hMember, hId, hSame⟩
    exact ⟨j, ⟨hMember, hSame⟩, hId⟩

------------------------------------------------------------
-- Labels
------------------------------------------------------------

/- The numbers and keys of the jobs. -/
def labels
    (p : Pool κ) : List (Nat × Option κ) :=
  p.jobs.map fun j => (j.id, j.key)

/- Jobs that are among ordered ones are ordered. -/
theorem sorted_of_labels
    (hSorted : p.jobs.Pairwise fun a b => a.id < b.id)
    (hLabels : q.labels.Sublist p.labels) :
    q.jobs.Pairwise fun a b => a.id < b.id := by
  have hOrdered :
      p.labels.Pairwise fun a b => a.1 < b.1 :=
    List.pairwise_map.mpr hSorted
  have hRest := hOrdered.sublist hLabels
  rw [labels, List.pairwise_map] at hRest
  exact hRest

/- A job that is among others is one of them. -/
theorem exists_job_of_labels
    {j : Job κ}
    (hLabels : q.labels.Sublist p.labels)
    (hMember : j ∈ q.jobs) :
    ∃ i ∈ p.jobs, i.id = j.id ∧ i.key = j.key := by
  have hThere : (j.id, j.key) ∈ p.labels :=
    hLabels.subset (List.mem_map_of_mem hMember)
  rcases List.mem_map.mp hThere with ⟨i, hi, hSame⟩
  exact ⟨i, hi, congrArg Prod.fst hSame,
    congrArg Prod.snd hSame⟩

theorem labels_setPhase
    (p : Pool κ)
    (id : Nat)
    (phase : Phase) :
    (p.setPhase id phase).labels = p.labels := by
  simp only [labels, setPhase, List.map_map]
  apply List.map_congr_left
  intro j _
  simp only [Function.comp]
  split <;> rfl

theorem labels_remove
    (p : Pool κ)
    (id : Nat) :
    (p.remove id).labels.Sublist p.labels :=
  List.Sublist.map _ List.filter_sublist

theorem labels_grant
    (p : Pool κ) :
    p.grant.labels = p.labels := by
  unfold grant
  split
  · exact labels_setPhase p _ .granted
  · rfl

theorem labels_release
    (p : Pool κ) :
    p.release.labels = p.labels :=
  labels_grant _

theorem labels_ask
    (p : Pool κ)
    (id : Nat) :
    (p.ask id).labels = p.labels := by
  unfold ask
  split
  · exact labels_setPhase p id .queued
  · exact labels_setPhase p id .running

theorem labels_follow
    (p : Pool κ)
    (id predecessor : Nat) :
    (p.follow id predecessor).labels = p.labels := by
  unfold follow
  split
  · exact labels_setPhase p id _
  · exact labels_ask p id

/- A turn of a job changes nothing but phases. -/
theorem labels_step
    (p : Pool κ)
    (id : Nat) :
    (p.step id).labels = p.labels := by
  have hTaken :
      ((p.leave id).setPhase id .running).labels =
        p.labels :=
    labels_setPhase (p.leave id) id .running
  unfold step
  split
  · exact labels_ask p id
  · exact labels_follow p id _
  · exact labels_follow p id _
  · unfold takeUp
    simp only
    split
    · rw [labels_grant, hTaken]
    · exact hTaken
  · rfl

/- A job that ends leaves the others as they are. -/
theorem labels_finish
    (p : Pool κ)
    (id : Nat) :
    (p.finish id).labels = (p.remove id).labels :=
  labels_release _

theorem labels_withdraw
    (p : Pool κ)
    (id : Nat) :
    (p.withdraw id).labels = (p.remove id).labels := by
  unfold withdraw
  simp only
  split
  · exact labels_release ((p.remove id).leave id)
  · rfl

------------------------------------------------------------
-- Intake
------------------------------------------------------------

/- The number of the next job, and whether it is accepted. -/
def intake
    (p : Pool κ) : Nat × Bool :=
  (p.nextId, p.accepting)

theorem intake_grant
    (p : Pool κ) :
    p.grant.intake = p.intake := by
  unfold grant
  split <;> rfl

theorem intake_ask
    (p : Pool κ)
    (id : Nat) :
    (p.ask id).intake = p.intake := by
  unfold ask
  split <;> rfl

theorem intake_follow
    (p : Pool κ)
    (id predecessor : Nat) :
    (p.follow id predecessor).intake = p.intake := by
  unfold follow
  split
  · rfl
  · exact intake_ask p id

theorem intake_step
    (p : Pool κ)
    (id : Nat) :
    (p.step id).intake = p.intake := by
  unfold step
  split
  · exact intake_ask p id
  · exact intake_follow p id _
  · exact intake_follow p id _
  · unfold takeUp
    simp only
    split
    · exact intake_grant _
    · rfl
  · rfl

theorem intake_finish
    (p : Pool κ)
    (id : Nat) :
    (p.finish id).intake = p.intake :=
  intake_grant _

theorem intake_withdraw
    (p : Pool κ)
    (id : Nat) :
    (p.withdraw id).intake = p.intake := by
  unfold withdraw
  simp only
  split
  · exact intake_grant _
  · rfl

------------------------------------------------------------
-- Changes of a Job
------------------------------------------------------------

theorem phase?_setPhase
    (p : Pool κ)
    (id other : Nat)
    (phase : Phase) :
    (p.setPhase id phase).phase? other =
      if other = id then (p.phase? other).map fun _ => phase
      else p.phase? other := by
  have hId (j : Job κ) :
      (if j.id = id then { j with phase } else j).id =
        j.id := by
    split <;> rfl
  unfold phase? find? setPhase
  rw [List.find?_map]
  have hTest :
      ((fun j : Job κ => j.id == other) ∘ fun j =>
          if j.id = id then { j with phase } else j) =
        fun j => j.id == other := by
    funext j
    simp [hId]
  rw [hTest, Option.map_map]
  cases hFound : p.jobs.find? fun j => j.id == other with
  | none => simp
  | some j =>
      have hOther : j.id = other := by
        simpa using List.find?_some hFound
      by_cases hSame : other = id
      · simp [hOther, hSame]
      · simp [hOther, hSame]

theorem phase?_remove
    (p : Pool κ)
    (id other : Nat) :
    (p.remove id).phase? other =
      if other = id then none else p.phase? other := by
  unfold phase? find? remove
  rw [List.find?_filter]
  by_cases hSame : other = id
  · subst hSame
    rw [if_pos rfl, Option.map_eq_none_iff,
      List.find?_eq_none]
    intro j _
    simp
  · rw [if_neg hSame]
    congr 2
    funext j
    by_cases hId : j.id = other
    · simp [hId, hSame]
    · simp [hId]

/- A job that changes its phase keeps or changes its slot. -/
theorem held_setPhase
    (new : Phase)
    (hSorted : p.jobs.Pairwise fun a b => a.id < b.id)
    (hPhase : p.phase? id = some phase) :
    (p.setPhase id new).held + phase.hasSlot.toNat =
      p.held + new.hasSlot.toNat := by
  rcases exists_split_of_phase? hSorted hPhase with
    ⟨before, j, after, hJobs, hId, hSame, hBefore, hAfter⟩
  have hKeep (xs : List (Job κ))
      (hOthers : ∀ x ∈ xs, x.id ≠ id) :
      xs.map (fun x =>
        if x.id = id then { x with phase := new } else x) =
        xs := by
    calc
      _ = xs.map (fun x => x) := by
        apply List.map_congr_left
        intro x hMember
        rw [if_neg (hOthers x hMember)]
      _ = xs := List.map_id' xs
  have hFront :=
    hKeep before fun x hx => Nat.ne_of_lt (hBefore x hx)
  have hBack :=
    hKeep after fun x hx => Nat.ne_of_gt (hAfter x hx)
  simp only [held, setPhase, hJobs, List.map_append,
    List.map_cons, hFront, hBack, if_pos hId,
    List.countP_append, List.countP_cons, hSame]
  cases phase.hasSlot <;> cases new.hasSlot <;> simp
  all_goals omega

/- A job that is removed takes its slot with it. -/
theorem held_remove
    (hSorted : p.jobs.Pairwise fun a b => a.id < b.id)
    (hPhase : p.phase? id = some phase) :
    (p.remove id).held + phase.hasSlot.toNat = p.held := by
  rcases exists_split_of_phase? hSorted hPhase with
    ⟨before, j, after, hJobs, hId, hSame, hBefore, hAfter⟩
  have hFront :
      before.filter (fun x => x.id != id) = before := by
    rw [List.filter_eq_self]
    intro x hx
    simpa using Nat.ne_of_lt (hBefore x hx)
  have hBack :
      after.filter (fun x => x.id != id) = after := by
    rw [List.filter_eq_self]
    intro x hx
    simpa using Nat.ne_of_gt (hAfter x hx)
  have hGone : (j.id != id) = false := by
    simp [hId]
  simp only [held, remove, hJobs, List.filter_append,
    List.filter_cons, hFront, hBack, hGone,
    List.countP_append, List.countP_cons, hSame]
  cases phase.hasSlot <;> simp
  omega

------------------------------------------------------------
-- Who Runs
------------------------------------------------------------

theorem isRunning?_setPhase
    (p : Pool κ)
    (id other : Nat)
    (phase : Phase) :
    (p.setPhase id phase).isRunning? other =
      if other = id then
        (p.isRunning? other).map fun _ => phase == .running
      else p.isRunning? other := by
  unfold isRunning?
  rw [phase?_setPhase]
  split
  · rw [Option.map_map, Option.map_map]
    rfl
  · rfl

theorem isRunning?_remove
    (p : Pool κ)
    (id other : Nat) :
    (p.remove id).isRunning? other =
      if other = id then none else p.isRunning? other := by
  unfold isRunning?
  rw [phase?_remove]
  split <;> rfl

/- The first job in the queue waits for a slot. -/
theorem phase?_of_firstQueued?
    (hFirst : p.firstQueued? = some id) :
    p.phase? id = some .queued := by
  simpa using List.find?_some hFirst

/- A slot that is granted makes nobody run. -/
theorem isRunning?_grant
    (p : Pool κ)
    (other : Nat) :
    p.grant.isRunning? other = p.isRunning? other := by
  unfold grant
  split
  · rename_i id hFirst
    have hQueued := phase?_of_firstQueued? hFirst
    have hChanged := isRunning?_setPhase p id other .granted
    change (p.setPhase id .granted).isRunning? other = _
    rw [hChanged]
    split
    · rename_i hSame
      simp [hSame, isRunning?, hQueued]
    · rfl
  · rfl

/- A slot that is given back makes nobody run. -/
theorem isRunning?_release
    (p : Pool κ)
    (other : Nat) :
    p.release.isRunning? other = p.isRunning? other :=
  isRunning?_grant _ other

/- A job that has run is no longer there. -/
theorem isRunning?_finish
    (p : Pool κ)
    (id other : Nat) :
    (p.finish id).isRunning? other =
      if other = id then none else p.isRunning? other := by
  rw [finish, isRunning?_release, isRunning?_remove]

/- A job that is withdrawn is no longer there. -/
theorem isRunning?_withdraw
    (p : Pool κ)
    (id other : Nat) :
    (p.withdraw id).isRunning? other =
      if other = id then none else p.isRunning? other := by
  have hRest :
      ((p.remove id).leave id).isRunning? other =
        if other = id then none else p.isRunning? other :=
    isRunning?_remove p id other
  unfold withdraw
  simp only
  split
  · rw [isRunning?_release, hRest]
  · exact hRest

theorem isRunning?_ask_of_ne
    (p : Pool κ)
    (hOther : other ≠ id) :
    (p.ask id).isRunning? other = p.isRunning? other := by
  unfold ask
  split
  · exact (isRunning?_setPhase p id other .queued).trans
      (if_neg hOther)
  · exact (isRunning?_setPhase p id other .running).trans
      (if_neg hOther)

theorem isRunning?_follow_of_ne
    (p : Pool κ)
    (predecessor : Nat)
    (hOther : other ≠ id) :
    (p.follow id predecessor).isRunning? other =
      p.isRunning? other := by
  unfold follow
  split
  · exact (isRunning?_setPhase p id other _).trans
      (if_neg hOther)
  · exact isRunning?_ask_of_ne p hOther

theorem isRunning?_takeUp_of_ne
    (p : Pool κ)
    (hOther : other ≠ id) :
    (p.takeUp id).isRunning? other = p.isRunning? other := by
  have hTaken :
      ((p.leave id).setPhase id .running).isRunning? other =
        p.isRunning? other :=
    (isRunning?_setPhase _ id other .running).trans
      (if_neg hOther)
  unfold takeUp
  simp only
  split
  · rw [isRunning?_grant, hTaken]
  · exact hTaken

/- A turn of a job makes no other job run or end. -/
theorem isRunning?_step_of_ne
    (p : Pool κ)
    (hOther : other ≠ id) :
    (p.step id).isRunning? other = p.isRunning? other := by
  unfold step
  split
  · exact isRunning?_ask_of_ne p hOther
  · exact isRunning?_follow_of_ne p _ hOther
  · exact isRunning?_follow_of_ne p _ hOther
  · exact isRunning?_takeUp_of_ne p hOther
  · rfl

/- A running job does nothing more in the pool. -/
theorem step_of_running
    (hRunning : p.isRunning? id = some true) :
    p.step id = p := by
  rw [isRunning?_eq_some_true_iff] at hRunning
  simp [step, hRunning]

/- A job that has ended does nothing more in the pool. -/
theorem step_of_ended
    (hEnded : p.isRunning? id = none) :
    p.step id = p := by
  have hNone : p.phase? id = none := by
    simpa [isRunning?] using hEnded
  simp [step, hNone]

/- A turn of a job that waits does not end it. -/
theorem isSome_isRunning?_step
    (hLive : (p.isRunning? id).isSome = true) :
    ((p.step id).isRunning? id).isSome = true := by
  have hAsk : ((p.ask id).isRunning? id).isSome = true := by
    unfold ask
    split
    · have hQueued := isRunning?_setPhase p id id .queued
      change
        ((p.setPhase id .queued).isRunning? id).isSome = true
      rw [hQueued, if_pos rfl, Option.isSome_map]
      exact hLive
    · have hRuns := isRunning?_setPhase p id id .running
      change
        ((p.setPhase id .running).isRunning? id).isSome =
          true
      rw [hRuns, if_pos rfl, Option.isSome_map]
      exact hLive
  have hFollow (q : Nat) :
      ((p.follow id q).isRunning? id).isSome = true := by
    unfold follow
    split
    · rw [isRunning?_setPhase, if_pos rfl,
        Option.isSome_map]
      exact hLive
    · exact hAsk
  unfold step
  split
  · exact hAsk
  · exact hFollow _
  · exact hFollow _
  · have hTaken :
        (((p.leave id).setPhase id .running).isRunning?
          id).isSome = true := by
      rw [isRunning?_setPhase, if_pos rfl,
        Option.isSome_map]
      exact hLive
    unfold takeUp
    simp only
    split
    · rw [isRunning?_grant]
      exact hTaken
    · exact hTaken
  · exact hLive

/- A job that waits is the only one that may start. -/
theorem isRunning?_step_cases
    (p : Pool κ)
    (id : Nat) :
    p.isRunning? id = some false ∧
        (p.step id).isRunning? id = some true ∨
      ∀ b, (p.step id).isRunning? b = p.isRunning? b := by
  cases hRuns : p.isRunning? id with
  | none =>
      exact Or.inr fun b => by rw [step_of_ended hRuns]
  | some runs =>
      cases runs with
      | true =>
          exact Or.inr fun b => by rw [step_of_running hRuns]
      | false =>
          have hLive :
              ((p.step id).isRunning? id).isSome = true := by
            apply isSome_isRunning?_step
            rw [hRuns]
            rfl
          cases hNext : (p.step id).isRunning? id with
          | none =>
              rw [hNext] at hLive
              cases hLive
          | some runs =>
              cases runs with
              | true => exact Or.inl ⟨rfl, rfl⟩
              | false =>
                  refine Or.inr fun b => ?_
                  by_cases hSame : b = id
                  · rw [hSame, hNext, hRuns]
                  · exact isRunning?_step_of_ne p hSame

------------------------------------------------------------
-- Soundness
------------------------------------------------------------

variable {slots : Nat}

/- A pool is sound if its jobs are among those of a sound one. -/
theorem IsSound.of_labels
    (hSound : IsSound slots p)
    (hLabels : q.labels.Sublist p.labels)
    (hNext : q.nextId = p.nextId)
    (k : Nat)
    (hAccounted : q.free + q.held = k) :
    IsSound k q where
  sorted := sorted_of_labels hSound.sorted hLabels
  numbered := by
    intro j hMember
    rcases exists_job_of_labels hLabels hMember with
      ⟨i, hThere, hId, _⟩
    rw [hNext, ← hId]
    exact hSound.numbered i hThere
  accounted := hAccounted

/- One job changes its phase, and the free slots with it. -/
theorem IsSound.relabel
    (hSound : IsSound slots p)
    (new : Phase)
    (hPhase : p.phase? id = some phase)
    (hJobs : q.jobs = (p.setPhase id new).jobs)
    (hNext : q.nextId = p.nextId)
    (hFree :
      q.free + new.hasSlot.toNat =
        p.free + phase.hasSlot.toNat) :
    IsSound slots q := by
  apply hSound.of_labels _ hNext
  · have hHeld :=
      held_setPhase new hSound.sorted hPhase
    have hSame : q.held = (p.setPhase id new).held := by
      simp only [held, hJobs]
    have hTotal := hSound.accounted
    omega
  · have hSame : q.labels = p.labels := by
      rw [labels, hJobs]
      exact labels_setPhase p id new
    rw [hSame]

/- A job leaves the pool, and its slot goes with it. -/
theorem IsSound.without
    {k : Nat}
    (hSound : IsSound slots p)
    (hPhase : p.phase? id = some phase)
    (hSlots : k + phase.hasSlot.toNat = slots) :
    IsSound k (p.remove id) := by
  apply hSound.of_labels
  · exact labels_remove p id
  · rfl
  · have hHeld := held_remove hSound.sorted hPhase
    have hTotal := hSound.accounted
    have hFree : (p.remove id).free = p.free := rfl
    omega

/- A free slot is granted to a job that waits for it. -/
theorem IsSound.grant
    (hSound : IsSound slots p)
    (hFree : 0 < p.free) :
    IsSound slots p.grant := by
  unfold Pool.grant
  split
  · rename_i id hFirst
    have hQueued := phase?_of_firstQueued? hFirst
    refine hSound.relabel .granted hQueued rfl rfl ?_
    simp [Phase.hasSlot]
    omega
  · exact hSound

/- A slot more comes back and may be granted again. -/
theorem IsSound.release
    (hSound : IsSound slots p) :
    IsSound (slots + 1) p.release := by
  have hMore :
      IsSound (slots + 1) { p with free := p.free + 1 } := by
    refine ⟨hSound.sorted, hSound.numbered, ?_⟩
    have hTotal := hSound.accounted
    simp only [held] at hTotal ⊢
    omega
  exact hMore.grant (Nat.succ_pos _)

/- A job without a slot asks for one. -/
theorem IsSound.ask
    (hSound : IsSound slots p)
    (hPhase : p.phase? id = some phase)
    (hWaits : phase.hasSlot = false) :
    IsSound slots (p.ask id) := by
  unfold Pool.ask
  split
  · refine hSound.relabel .queued hPhase rfl rfl ?_
    rw [hWaits]
    rfl
  · rename_i hFree
    refine hSound.relabel .running hPhase rfl rfl ?_
    simp only [Bool.or_eq_true, decide_eq_true_eq, not_or]
      at hFree
    rw [hWaits]
    exact Nat.sub_add_cancel (Nat.pos_of_ne_zero hFree.1)

theorem IsSound.follow
    (hSound : IsSound slots p)
    (hPhase : p.phase? id = some phase)
    (hWaits : phase.hasSlot = false)
    (predecessor : Nat) :
    IsSound slots (p.follow id predecessor) := by
  unfold Pool.follow
  split
  · refine hSound.relabel (.following predecessor) hPhase
      rfl rfl ?_
    rw [hWaits]
    rfl
  · exact hSound.ask hPhase hWaits

theorem IsSound.takeUp
    (hSound : IsSound slots p)
    (hPhase : p.phase? id = some .granted) :
    IsSound slots (p.takeUp id) := by
  have hTaken :
      IsSound slots ((p.leave id).setPhase id .running) :=
    hSound.relabel .running hPhase rfl rfl rfl
  unfold Pool.takeUp
  simp only
  split
  · rename_i hFree
    exact hTaken.grant hFree
  · exact hTaken

/- A turn of a job keeps the account of the slots. -/
theorem IsSound.step
    (hSound : IsSound slots p)
    (id : Nat) :
    IsSound slots (p.step id) := by
  unfold Pool.step
  split
  · rename_i hPhase
    exact hSound.ask hPhase rfl
  · rename_i hPhase
    exact hSound.follow hPhase rfl _
  · rename_i hPhase
    exact hSound.follow hPhase rfl _
  · rename_i hPhase
    exact hSound.takeUp hPhase
  · exact hSound

/- A job that has run gives its slot back. -/
theorem IsSound.finish
    (hSound : IsSound slots p)
    (hRunning : p.phase? id = some .running) :
    IsSound slots (p.finish id) := by
  have hHeld := held_remove hSound.sorted hRunning
  have hTotal := hSound.accounted
  have hSlots :
      (slots - 1) + (Phase.running.hasSlot).toNat =
        slots := by
    simp [Phase.hasSlot] at hHeld ⊢
    omega
  have hRest := (hSound.without hRunning hSlots).release
  have hSame : slots - 1 + 1 = slots := by
    simpa [Phase.hasSlot] using hSlots
  rw [hSame] at hRest
  exact hRest

/- A job is withdrawn with its place and its slot. -/
theorem IsSound.withdraw
    (hSound : IsSound slots p)
    (hPhase : p.phase? id = some phase)
    (hNotRunning : phase ≠ .running) :
    IsSound slots (p.withdraw id) := by
  have hLeft {k : Nat}
      (hRest : IsSound k (p.remove id)) :
      IsSound k ((p.remove id).leave id) :=
    ⟨hRest.sorted, hRest.numbered, hRest.accounted⟩
  have hHeld := held_remove hSound.sorted hPhase
  have hTotal := hSound.accounted
  unfold Pool.withdraw
  simp only [hPhase]
  split
  · rename_i hGranted
    have hIsGranted : phase = .granted := by
      simpa using hGranted
    subst hIsGranted
    have hSame : slots - 1 + 1 = slots := by
      simp [Phase.hasSlot] at hHeld
      omega
    have hRest :=
      (hLeft (hSound.without hPhase (k := slots - 1) (by
        simpa [Phase.hasSlot] using hSame))).release
    rw [hSame] at hRest
    exact hRest
  · rename_i hNotGranted
    have hWaits : phase.hasSlot = false := by
      cases phase <;> simp_all [Phase.hasSlot]
    exact hLeft (hSound.without hPhase (by simp [hWaits]))

/- A new job gets the next number. -/
theorem IsSound.submit
    [BEq κ]
    (hSound : IsSound slots p)
    (key : Option κ) :
    IsSound slots (p.submit key).2 := by
  unfold Pool.submit
  split
  · constructor
    · rw [List.pairwise_append]
      refine ⟨hSound.sorted, by simp, ?_⟩
      intro j hMember k hNew
      have hId : k.id = p.nextId := by
        rw [List.mem_singleton.mp hNew]
      rw [hId]
      exact hSound.numbered j hMember
    · intro j hMember
      rcases List.mem_append.mp hMember with hOld | hNew
      · exact Nat.lt_succ_of_lt (hSound.numbered j hOld)
      · rw [List.mem_singleton.mp hNew]
        exact Nat.lt_succ_self _
    · have hTotal := hSound.accounted
      simpa [held, Phase.hasSlot] using hTotal
  · exact hSound

/- A new job has the next number, and no other one changes. -/
theorem phase?_submit
    [BEq κ]
    (hSound : IsSound slots p)
    (hAccepting : p.accepting = true)
    (key : Option κ)
    (other : Nat) :
    (p.submit key).2.phase? other =
      if other = p.nextId then
        some (.fresh (key.bind p.tail?))
      else p.phase? other := by
  simp only [submit, hAccepting, if_true, phase?, find?,
    List.find?_append]
  by_cases hSame : other = p.nextId
  · have hNone :
        p.jobs.find? (fun j => j.id == other) = none := by
      rw [List.find?_eq_none]
      intro j hMember
      have hLess := hSound.numbered j hMember
      simp only [beq_iff_eq]
      omega
    rw [hNone]
    simp [hSame]
  · have hApart : ¬ p.nextId = other := fun h => hSame h.symm
    simp [hSame, hApart]

/- A new job waits, and nothing happens to the others. -/
theorem isRunning?_submit
    [BEq κ]
    (hSound : IsSound slots p)
    (hAccepting : p.accepting = true)
    (key : Option κ)
    (other : Nat) :
    (p.submit key).2.isRunning? other =
      if other = p.nextId then some false
      else p.isRunning? other := by
  unfold isRunning?
  rw [phase?_submit hSound hAccepting]
  split
  · rfl
  · rfl

/- An empty pool has at least one slot. -/
theorem isSound_ofSlots
    (n : Int) :
    IsSound (max 1 n).toNat (ofSlots n : Pool κ) :=
  ⟨.nil, by simp [ofSlots], by simp [ofSlots, held]⟩

end GuildWarden.Pool
