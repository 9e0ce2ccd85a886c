import GuildWarden.Proofs.Dispatch.Draining

/-
  This file keeps the books of the jobs of a pool and the
  files of its drains. What was noted of the bodies fits the
  jobs that are there, each job is counted until the pool has
  heard of its end, and what was noted of the drains fits how
  far they have come.

  Key definitions include:
    * `Pool.Drainage.Files`
    * `Pool.Drainage.Books`

  Main statements:
    * `Pool.Drainage.Files.move`
    * `Pool.Drainage.Books.depart`
    * `Pool.Drainage.Books.submit`
-/

namespace GuildWarden.Pool

open Course (Ledger Stands)

variable {κ : Type}

/- A pool that is closed has the same books. -/
theorem Course.Ledger.close
    [DecidableEq κ]
    {p : Pool κ}
    {history : List (Mark κ)}
    (hLedger : Ledger p history) :
    Ledger p.close history where
  accepted := hLedger.accepted
  rejected := fun b hMember =>
    ⟨(hLedger.rejected b hMember).1, rfl⟩
  listed := hLedger.listed
  unique := hLedger.unique
  standing := hLedger.standing
  unknown := hLedger.unknown

namespace Drainage

variable {c : Drainage κ}
variable {p q : Pool κ}
variable {n : Note κ}
variable {t : Rat}
variable {i id slots : Nat}

------------------------------------------------------------
-- Files
------------------------------------------------------------

/- What was noted of the drains fits how far they have come. -/
structure Files
    (drains : List (Drain × Drain.Stage))
    (log : Log κ) : Prop where
  recorded :
    ∀ i x, drains[i]? = some x →
      ∃ s grace, (s, .began i grace) ∈ log ∧
        x.1.due = Drain.dueAfter s grace
  listed :
    ∀ s i grace, (s, .began i grace) ∈ log →
      ∃ x, drains[i]? = some x ∧
        x.1.due = Drain.dueAfter s grace
  issued :
    ∀ s i left, (s, .cancelled i left) ∈ log →
      ∃ x, drains[i]? = some x ∧ x.2 ≠ .waiting
  returned :
    ∀ s i k, (s, .returned i k) ∈ log →
      ∃ d, drains[i]? = some (d, .returned)
  concluded :
    ∀ i d, drains[i]? = some (d, .returned) →
      ∃ s k, (s, .returned i k) ∈ log

section Files

variable {drains : List (Drain × Drain.Stage)}
variable {log : Log κ}
variable {d : Drain}
variable {stage new : Drain.Stage}

/- An old note is not a new one of another kind. -/
theorem mem_of_mem_note
    {m : Note κ}
    {s : Rat}
    (hMember : (s, m) ∈ (t, n) :: log)
    (hOther : m ≠ n) :
    (s, m) ∈ log := by
  rcases List.mem_cons.mp hMember with hNew | hOld
  · exact absurd (congrArg Prod.snd hNew) hOther
  · exact hOld

/- A note that says nothing of a drain. -/
theorem Files.quiet
    (hFiles : Files drains log)
    (hQuiet : n.isQuiet = true) :
    Files drains ((t, n) :: log) where
  recorded := by
    intro i x hDrain
    rcases hFiles.recorded i x hDrain with
      ⟨s, grace, hBegan, hDue⟩
    exact ⟨s, grace, List.mem_cons_of_mem _ hBegan, hDue⟩
  listed := by
    intro s i grace hMember
    refine hFiles.listed s i grace (mem_of_mem_note hMember ?_)
    rintro rfl
    cases hQuiet
  issued := by
    intro s i left hMember
    refine hFiles.issued s i left (mem_of_mem_note hMember ?_)
    rintro rfl
    cases hQuiet
  returned := by
    intro s i k hMember
    refine hFiles.returned s i k (mem_of_mem_note hMember ?_)
    rintro rfl
    cases hQuiet
  concluded := by
    intro i d hDrain
    rcases hFiles.concluded i d hDrain with ⟨s, k, hThere⟩
    exact ⟨s, k, List.mem_cons_of_mem _ hThere⟩

/- The drain that began last is behind all others. -/
theorem getElem?_append_cases
    {x y : Drain × Drain.Stage}
    (hDrain : (drains ++ [y])[i]? = some x) :
    drains[i]? = some x ∨ i = drains.length ∧ x = y := by
  rw [List.getElem?_append] at hDrain
  split at hDrain
  · exact Or.inl hDrain
  · rename_i hNotLess
    rw [List.getElem?_singleton] at hDrain
    split at hDrain
    · exact Or.inr ⟨by omega, (Option.some.inj hDrain).symm⟩
    · cases hDrain

/- A drain that is there stays where it is when another begins. -/
theorem getElem?_append_of_some
    {x y : Drain × Drain.Stage}
    (hDrain : drains[i]? = some x) :
    (drains ++ [y])[i]? = some x := by
  rw [List.getElem?_append_left]
  · exact hDrain
  · exact (List.getElem?_eq_some_iff.mp hDrain).1

/- A drain begins. -/
theorem Files.begin
    {grace : Span}
    (hFiles : Files drains log)
    (hDue : d.due = Drain.dueAfter t grace) :
    Files (drains ++ [(d, .waiting)])
      ((t, .began drains.length grace) :: log) where
  recorded := by
    intro i x hDrain
    rcases getElem?_append_cases hDrain with
      hOld | ⟨rfl, rfl⟩
    · rcases hFiles.recorded i x hOld with
        ⟨s, grace', hBegan, hSame⟩
      exact ⟨s, grace', List.mem_cons_of_mem _ hBegan, hSame⟩
    · exact ⟨t, grace, List.mem_cons_self, hDue⟩
  listed := by
    intro s i grace' hMember
    rcases List.mem_cons.mp hMember with hNew | hOld
    · cases hNew
      exact ⟨(d, .waiting), by simp, hDue⟩
    · rcases hFiles.listed s i grace' hOld with
        ⟨x, hDrain, hSame⟩
      exact ⟨x, getElem?_append_of_some hDrain, hSame⟩
  issued := by
    intro s i left hMember
    rcases hFiles.issued s i left
      (mem_of_mem_note hMember (by simp)) with
      ⟨x, hDrain, hStage⟩
    exact ⟨x, getElem?_append_of_some hDrain, hStage⟩
  returned := by
    intro s i k hMember
    rcases hFiles.returned s i k
      (mem_of_mem_note hMember (by simp)) with ⟨d, hDrain⟩
    exact ⟨d, getElem?_append_of_some hDrain⟩
  concluded := by
    intro i d' hDrain
    rcases getElem?_append_cases hDrain with hOld | ⟨_, hNew⟩
    · rcases hFiles.concluded i d' hOld with ⟨s, k, hThere⟩
      exact ⟨s, k, List.mem_cons_of_mem _ hThere⟩
    · cases hNew

/- A drain that comes to another stage. -/
theorem getElem?_set_of_some
    (hDrain : drains[i]? = some (d, stage))
    (new : Drain.Stage)
    (j : Nat) :
    (drains.set i (d, new))[j]? =
      if j = i then some (d, new) else drains[j]? := by
  have hLess := (List.getElem?_eq_some_iff.mp hDrain).1
  rw [List.getElem?_set]
  by_cases hSame : i = j
  · rw [if_pos hSame, if_pos hLess, if_pos hSame.symm]
  · rw [if_neg hSame, if_neg (Ne.symm hSame)]

/- A drain goes on, and notes that it has cancelled or returned. -/
theorem Files.move
    (hFiles : Files drains log)
    (hDrain : drains[i]? = some (d, stage))
    (hGoesOn : stage ≠ .returned)
    (hNote :
      (∃ left, n = .cancelled i left ∧
          new = .cancelling left) ∨
        ∃ k, n = .returned i k ∧ new = .returned) :
    Files (drains.set i (d, new)) ((t, n) :: log) where
  recorded := by
    intro j x hThere
    rw [getElem?_set_of_some hDrain] at hThere
    have hOld :
        ∃ s grace, (s, .began j grace) ∈ log ∧
          x.1.due = Drain.dueAfter s grace := by
      split at hThere
      · rename_i hSame
        cases hThere
        rw [hSame]
        exact hFiles.recorded i (d, stage) hDrain
      · exact hFiles.recorded j x hThere
    rcases hOld with ⟨s, grace, hBegan, hDue⟩
    exact ⟨s, grace, List.mem_cons_of_mem _ hBegan, hDue⟩
  listed := by
    intro s j grace hMember
    have hOld : (s, .began j grace) ∈ log := by
      refine mem_of_mem_note hMember ?_
      rintro rfl
      rcases hNote with ⟨_, hNote, _⟩ | ⟨_, hNote, _⟩ <;>
        cases hNote
    rcases hFiles.listed s j grace hOld with
      ⟨x, hThere, hDue⟩
    rw [getElem?_set_of_some hDrain]
    split
    · rename_i hSame
      rw [hSame, hDrain] at hThere
      cases hThere
      exact ⟨_, rfl, hDue⟩
    · exact ⟨x, hThere, hDue⟩
  issued := by
    intro s j left' hMember
    rw [getElem?_set_of_some hDrain]
    split
    · refine ⟨_, rfl, ?_⟩
      rcases hNote with ⟨_, _, hNew⟩ | ⟨_, _, hNew⟩ <;>
        simp [hNew]
    · rename_i hOther
      refine hFiles.issued s j left'
        (mem_of_mem_note hMember ?_)
      rintro rfl
      rcases hNote with ⟨_, hNote, _⟩ | ⟨_, hNote, _⟩
      · cases hNote
        exact hOther rfl
      · cases hNote
  returned := by
    intro s j k' hMember
    rw [getElem?_set_of_some hDrain]
    rcases List.mem_cons.mp hMember with hNew | hOld
    · rcases hNote with ⟨_, hNote, _⟩ | ⟨_, hNote, hOver⟩
      · rw [hNote] at hNew
        cases hNew
      · rw [hNote] at hNew
        cases hNew
        exact ⟨d, by rw [if_pos rfl, hOver]⟩
    · rcases hFiles.returned s j k' hOld with ⟨d', hThere⟩
      rw [if_neg]
      · exact ⟨d', hThere⟩
      · rintro rfl
        rw [hDrain] at hThere
        cases hThere
        exact hGoesOn rfl
  concluded := by
    intro j d' hThere
    rw [getElem?_set_of_some hDrain] at hThere
    split at hThere
    · rename_i hSame
      rcases hNote with ⟨_, _, hNew⟩ | ⟨k, hNote, _⟩
      · rw [hNew] at hThere
        cases hThere
      · exact ⟨t, k, by rw [hSame, hNote]; simp⟩
    · rcases hFiles.concluded j d' hThere with
        ⟨s, k', hOld⟩
      exact ⟨s, k', List.mem_cons_of_mem _ hOld⟩

end Files

------------------------------------------------------------
-- Books
------------------------------------------------------------

/- A turn starts the body of the job, or no body moves. -/
theorem turn_cases
    (c : Drainage κ)
    (id : Nat) :
    (c.pool.isRunning? id = some false ∧
        (c.pool.step id).isRunning? id = some true ∧
          c.turn id =
            { c with pool := c.pool.step id }.note
              (.marked (.started id))) ∨
      (∀ b, (c.pool.step id).isRunning? b =
          c.pool.isRunning? b) ∧
        c.turn id = { c with pool := c.pool.step id } := by
  rcases isRunning?_step_cases c.pool id with
    ⟨hWaits, hRuns⟩ | hSame
  · exact Or.inl ⟨hWaits, hRuns, if_pos ⟨hWaits, hRuns⟩⟩
  · refine Or.inr ⟨hSame, if_neg ?_⟩
    rintro ⟨hWaits, hRuns⟩
    rw [← hSame id] at hWaits
    exact absurd (hWaits.symm.trans hRuns) (by simp)

variable [DecidableEq κ]

/-
  What was noted of the bodies fits the jobs, and each job is
  counted from when it was accepted until the pool has heard
  of its end.
-/
structure Books
    (slots : Nat)
    (c : Drainage κ) : Prop where
  sound : IsSound slots c.pool
  ledger : Ledger c.pool c.log.marks
  calls_ge : c.pool.nextId ≤ c.calls
  distinct : (c.pool.live ++ c.pool.gone).Nodup
  given : ∀ id ∈ c.pool.gone, id < c.pool.nextId
  tallied :
    c.pool.inFlight + c.log.heard.length =
      c.log.accepted.length

/- What was noted of a job that has not ended. -/
theorem Books.stands
    {runs : Bool}
    (hBooks : Books slots c)
    (hRuns : c.pool.isRunning? id = some runs) :
    Stands c.log.marks id (some runs) := by
  rw [← hRuns]
  exact hBooks.ledger.standing id
    (hBooks.sound.lt_nextId (mem_live_of_isRunning? hRuns))

/- A body of a pool without jobs has ended or was withdrawn. -/
theorem Books.ended_or_withdrawn
    {b : Nat}
    {key : Option κ}
    (hBooks : Books slots c)
    (hEmpty : c.pool.live = [])
    (hAccepted : .accepted b key ∈ c.log.marks) :
    .ended b ∈ c.log.marks ∨ .withdrawn b ∈ c.log.marks := by
  have hGone : c.pool.isRunning? b = none := by
    rw [← Option.not_isSome_iff_eq_none,
      isRunning?_isSome_iff, hEmpty]
    simp
  have hStands := hBooks.ledger.standing b
    (hBooks.ledger.accepted b key hAccepted)
  rw [hGone] at hStands
  rcases hStands with hEnded | hWithdrawn
  · exact Or.inl hEnded.2.1
  · exact Or.inr hWithdrawn.2.2

/- A note of a drain changes nothing in the books. -/
theorem Books.jot
    (hBooks : Books slots c)
    (hNote : n.isQuiet = false)
    (doomed : List Nat)
    (drains : List (Drain × Drain.Stage)) :
    Books slots ({ c with doomed, drains }.note n) := by
  cases n with
  | marked mark => cases hNote
  | heard id => cases hNote
  | began i grace =>
      exact ⟨hBooks.sound, hBooks.ledger, hBooks.calls_ge,
        hBooks.distinct, hBooks.given, hBooks.tallied⟩
  | cancelled i left =>
      exact ⟨hBooks.sound, hBooks.ledger, hBooks.calls_ge,
        hBooks.distinct, hBooks.given, hBooks.tallied⟩
  | returned i k =>
      exact ⟨hBooks.sound, hBooks.ledger, hBooks.calls_ge,
        hBooks.distinct, hBooks.given, hBooks.tallied⟩

theorem Books.close
    (hBooks : Books slots c) :
    Books slots { c with pool := c.pool.close } where
  sound :=
    ⟨hBooks.sound.sorted, hBooks.sound.numbered,
      hBooks.sound.accounted⟩
  ledger := hBooks.ledger.close
  calls_ge := hBooks.calls_ge
  distinct := hBooks.distinct
  given := hBooks.given
  tallied := hBooks.tallied

theorem Books.turn
    (hBooks : Books slots c)
    (id : Nat) :
    Books slots (c.turn id) := by
  have hLabels :
      (c.pool.step id).labels.Sublist c.pool.labels := by
    rw [labels_step]
  have hIntake := intake_step c.pool id
  have hNext : (c.pool.step id).nextId = c.pool.nextId :=
    congrArg Prod.fst hIntake
  have hCalls : (c.pool.step id).nextId ≤ c.calls :=
    hNext ▸ hBooks.calls_ge
  have hDistinct :
      ((c.pool.step id).live ++
        (c.pool.step id).gone).Nodup := by
    rw [live_step, gone_step]
    exact hBooks.distinct
  have hGiven :
      ∀ other ∈ (c.pool.step id).gone,
        other < (c.pool.step id).nextId := by
    rw [gone_step, hNext]
    exact hBooks.given
  have hTallied :
      (c.pool.step id).inFlight + c.log.heard.length =
        c.log.accepted.length := by
    rw [inFlight_eq, live_step, gone_step, ← inFlight_eq]
    exact hBooks.tallied
  rcases turn_cases c id with
    ⟨hWaits, hRuns, hTurn⟩ | ⟨hSame, hTurn⟩
  · have hLess := hBooks.sound.lt_nextId
      (mem_live_of_isRunning? hWaits)
    have hLedger :
        Ledger (c.pool.step id)
          (.started id :: c.log.marks) := by
      refine hBooks.ledger.moved rfl hLess hLabels hIntake
        (fun b hOther => isRunning?_step_of_ne c.pool hOther)
        ?_
      rw [hRuns]
      exact (hBooks.stands hWaits).started
    rw [hTurn]
    exact ⟨hBooks.sound.step id, hLedger, hCalls, hDistinct,
      hGiven, hTallied⟩
  · rw [hTurn]
    exact ⟨hBooks.sound.step id,
      hBooks.ledger.of_same hLabels hIntake hSame, hCalls,
      hDistinct, hGiven, hTallied⟩

/- A job departs, and it is noted what has become of its body. -/
theorem Books.depart
    {mark : Mark κ}
    (hBooks : Books slots c)
    (hDeparts : Departs c.pool id q)
    (hLive : id ∈ c.pool.live)
    (hSound : IsSound slots q)
    (hMoved : mark.moved? = some id)
    (hStands : Stands (mark :: c.log.marks) id none) :
    Books slots
      ({ c with pool := q }.note (.marked mark)) := by
  have hLess := hBooks.sound.lt_nextId hLive
  have hNext : q.nextId = c.pool.nextId :=
    congrArg Prod.fst hDeparts.intake
  have hMember (other : Nat)
      (hGone : other ∈ q.gone) :
      other ∈ c.pool.live ∨ other ∈ c.pool.gone := by
    rw [← List.mem_append]
    exact (hDeparts.perm hBooks.sound hLive).mem_iff.mp
      (List.mem_append_right _ hGone)
  have hLedger : Ledger q (mark :: c.log.marks) := by
    refine hBooks.ledger.moved hMoved hLess hDeparts.labels
      hDeparts.intake ?_ ?_
    · intro b hOther
      rw [hDeparts.isRunning?, if_neg hOther]
    · rw [hDeparts.isRunning?, if_pos rfl]
      exact hStands
  have hAccepted :
      Log.accepted ((c.clock, .marked mark) :: c.log) =
        c.log.accepted := by
    cases mark with
    | accepted b key => cases hMoved
    | _ => rfl
  constructor
  · exact hSound
  · exact hLedger
  · exact hNext ▸ hBooks.calls_ge
  · exact (hDeparts.perm hBooks.sound hLive).nodup_iff.mpr
      hBooks.distinct
  · intro other hGone
    change other < q.nextId
    rw [hNext]
    rcases hMember other hGone with hThere | hThere
    · exact hBooks.sound.lt_nextId hThere
    · exact hBooks.given other hThere
  · change q.inFlight + c.log.heard.length =
      (Log.accepted ((c.clock, .marked mark) :: c.log)).length
    rw [hDeparts.inFlight_eq hBooks.sound hLive, hAccepted]
    exact hBooks.tallied

/- The pool hears of the end of a job and counts it no more. -/
theorem Books.hear
    {rest : List Nat}
    (hBooks : Books slots c)
    (hGone : c.pool.gone = id :: rest) :
    Books slots (c.hear id) := by
  have hDistinct := List.nodup_append.mp hBooks.distinct
  have hRest : (c.pool.forget id).gone = rest :=
    gone_forget hDistinct.2.1 hGone
  have hSublist : rest.Sublist c.pool.gone := by
    rw [hGone]
    exact List.sublist_cons_self id rest
  constructor
  · exact ⟨hBooks.sound.sorted, hBooks.sound.numbered,
      hBooks.sound.accounted⟩
  · exact hBooks.ledger.of_same (List.Sublist.refl _) rfl
      fun _ => rfl
  · exact hBooks.calls_ge
  · change (c.pool.live ++ (c.pool.forget id).gone).Nodup
    rw [hRest]
    exact hBooks.distinct.sublist (hSublist.append_left _)
  · intro other hThere
    change other ∈ (c.pool.forget id).gone at hThere
    rw [hRest] at hThere
    exact hBooks.given other (hSublist.subset hThere)
  · have hTallied := hBooks.tallied
    rw [inFlight_eq, hGone] at hTallied
    change (c.pool.forget id).inFlight +
      (id :: c.log.heard).length = c.log.accepted.length
    rw [inFlight_eq, hRest]
    change c.pool.live.length + rest.length + _ = _
    simp only [List.length_cons] at hTallied ⊢
    omega

/- A submission is accepted by an open pool, and by no other. -/
theorem submit_cases
    (c : Drainage κ)
    (key : Option κ) :
    c.pool.accepting = true ∧
        c.submit key =
          { c with
            pool := (c.pool.submit key).2
            calls := c.calls + 1 }.note
              (.marked (.accepted c.pool.nextId key)) ∨
      c.pool.accepting = false ∧
        c.submit key =
          { c with calls := c.calls + 1 }.note
            (.marked (.rejected c.calls)) := by
  unfold submit
  cases hAccepting : c.pool.accepting with
  | true => simp [Pool.submit, hAccepting]
  | false => simp [submit_of_closed hAccepting]

theorem Books.submit
    (hBooks : Books slots c)
    (key : Option κ) :
    Books slots (c.submit key) := by
  rcases submit_cases c key with
    ⟨hAccepting, hSubmit⟩ | ⟨hClosed, hSubmit⟩
  · have hNext :
        (c.pool.submit key).2.nextId = c.pool.nextId + 1 := by
      simp [Pool.submit, hAccepting]
    have hNew :
        c.pool.nextId ∉ c.pool.live ++ c.pool.gone := by
      intro hMember
      rcases List.mem_append.mp hMember with hLive | hGone
      · exact absurd (hBooks.sound.lt_nextId hLive)
          (Nat.lt_irrefl _)
      · exact absurd (hBooks.given _ hGone)
          (Nat.lt_irrefl _)
    rw [hSubmit]
    constructor
    · exact hBooks.sound.submit key
    · exact hBooks.ledger.accept hBooks.sound hAccepting key
    · change (c.pool.submit key).2.nextId ≤ c.calls + 1
      rw [hNext]
      exact Nat.succ_le_succ hBooks.calls_ge
    · change ((c.pool.submit key).2.live ++
        (c.pool.submit key).2.gone).Nodup
      rw [live_submit hAccepting, gone_submit,
        List.append_assoc]
      exact (List.perm_middle.nodup_iff.mpr
        (List.nodup_cons.mpr ⟨hNew, hBooks.distinct⟩))
    · change ∀ id ∈ (c.pool.submit key).2.gone,
        id < (c.pool.submit key).2.nextId
      rw [gone_submit, hNext]
      exact fun id hGone =>
        Nat.lt_succ_of_lt (hBooks.given id hGone)
    · have hTallied := hBooks.tallied
      rw [inFlight_eq] at hTallied
      change (c.pool.submit key).2.inFlight +
        c.log.heard.length =
          (c.pool.nextId :: c.log.accepted).length
      rw [inFlight_eq, live_submit hAccepting, gone_submit]
      simp only [List.length_append, List.length_cons,
        List.length_nil]
      omega
  · rw [hSubmit]
    exact ⟨hBooks.sound,
      hBooks.ledger.reject hClosed hBooks.calls_ge,
      Nat.le_succ_of_le hBooks.calls_ge, hBooks.distinct,
      hBooks.given, hBooks.tallied⟩

end Drainage

end GuildWarden.Pool
