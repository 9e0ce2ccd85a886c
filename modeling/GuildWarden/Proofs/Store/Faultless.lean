import GuildWarden.Proofs.Store.Bans
import GuildWarden.Proofs.Store.Interruption

/-
  This file says what one statement in a transaction comes to
  without a fault of the store: it succeeds or fails as the
  tables make it, and it is kept exactly if it succeeds.

  Key definitions include:
    * `Program.IsFaultless`

  Main statements:
    * `Program.performs_transaction_of_run`
    * `Program.mem_of_transaction_fails`
    * `Program.performs_transaction_of_faultless`
-/

namespace GuildWarden.Program

open Store

variable {α : Type}
variable {w later : Shared}
variable {trace : List Exchange}
variable {s : Statement}

------------------------------------------------------------
-- Success
------------------------------------------------------------

/- A statement succeeds if its table is there and it has room. -/
theorem exists_run_of_fits
    {c : Connection}
    {a : s.Answer}
    {t : Tables}
    (hTable : s.lacksTable c.current = false)
    (hFits : s.numbers.all Statement.fits = true)
    (hEffect : s.effect c.current = .ok (a, t)) :
    ∃ after, c.run s = (.ok a, after) := by
  refine ⟨c.after s t, ?_⟩
  simp [Connection.run, Statement.execute, hTable, hFits,
    hEffect]

theorem performs_reading_of_run
    {a : s.Answer}
    {after : Connection}
    (hRun : w.store.run s = (.ok a, after)) :
    Performs w (reading (execute s))
      [.asked .reachStore (.ok ()),
        .asked (.statement s) (.ok a)]
      (.ok a) { w with store := after } := by
  have hReach : w.Serves w .reachStore (.ok ()) := ⟨rfl, rfl⟩
  exact .ask hReach
    (performs_request_iff.mpr ⟨rfl, hRun, rfl⟩)

/- A statement that succeeds is kept by its transaction. -/
theorem performs_transaction_of_run
    {a : s.Answer}
    {after : Connection}
    (hRest : w.IsAtRest)
    (hRun : w.store.run s = (.ok a, after)) :
    Performs w (transaction (execute s))
      [.asked .reachStore (.ok ()),
        .asked .lockStore (.ok ()),
        .asked (.statement s) (.ok a),
        .asked .commit (.ok ()),
        .asked .unlockStore (.ok ())]
      (.ok a) { w with store := .ofTables after.current } := by
  have hReach : w.Serves w .reachStore (.ok ()) := ⟨rfl, rfl⟩
  have hLock : w.Serves w.locked .lockStore (.ok ()) :=
    ⟨hRest.free, rfl, rfl⟩
  have hStatement :
      w.locked.Serves { w.locked with store := after }
        (.statement s) (.ok a) :=
    ⟨hRun, rfl⟩
  have hCommit :
      Shared.Serves { w.locked with store := after }
        { w.locked with store := after.commit }
        .commit (.ok ()) :=
    rfl
  have hUnlock :
      Shared.Serves { w.locked with store := after.commit }
        { w with store := .ofTables after.current }
        .unlockStore (.ok ()) := by
    refine ⟨rfl, ?_⟩
    simp only [Shared.locked, Connection.commit, hRest.free]
  exact .ask hReach (.ask hLock (.ask hStatement
    (.ask hCommit (.ask hUnlock (.done _ a)))))

------------------------------------------------------------
-- Failure
------------------------------------------------------------

/- A transaction ends as its work did. -/
theorem performs_closing
    {outcome result : Except Cause α}
    (hPerforms :
      Performs w (closing outcome) trace result later) :
    result = outcome := by
  rcases performs_bind_iff.mp hPerforms with
    ⟨_, _, hFail⟩ | ⟨_, undone, _, _, rfl, hUndoing, hUnlock⟩
  · rcases performs_attempt_iff.mp hFail with ⟨_, hOk, _⟩
    cases hOk
  rcases performs_attempt_iff.mp hUndoing with
    ⟨_, hSame, hUndoing⟩
  cases hSame
  have hUndone : undone = outcome := by
    cases outcome with
    | ok a => exact (performs_done_iff.mp hUndoing).2.1
    | error cause =>
        simp only [undoing] at hUndoing
        split at hUndoing
        · exact (performs_undoing hUndoing).2.1
        · exact (performs_fail_iff.mp hUndoing).2.1
  rcases performs_bind_iff.mp hUnlock with
    ⟨_, _, hFail⟩ | ⟨_, _, _, _, rfl, _, hSettle⟩
  · cases (performs_request_iff.mp hFail).2.1
  · rw [← hUndone]
    exact (performs_settle_iff.mp hSettle).2.1

/- A transaction of one statement fails with it or its commit. -/
theorem mem_of_transaction_fails
    {cause : Cause}
    (hPerforms :
      Performs w (transaction (execute s)) trace (.error cause)
        later) :
    .asked (.statement s) (.error cause) ∈ trace ∨
      .asked .commit (.error cause) ∈ trace := by
  rw [transaction_eq] at hPerforms
  cases hPerforms with
  | ask hReach hLock =>
  rcases hReach with ⟨rfl, rfl⟩
  cases hLock with
  | ask hLocks hWorking =>
  rcases hLocks with ⟨_, rfl, rfl⟩
  change
    Performs _ ((work (execute s)).attempt.bind closing) _ _
      later at hWorking
  rcases performs_bind_iff.mp hWorking with
    ⟨_, _, hFail⟩ | ⟨middle, _, ending, _, rfl, hWork, hClosing⟩
  · rcases performs_attempt_iff.mp hFail with ⟨_, hOk, _⟩
    cases hOk
  rcases performs_attempt_iff.mp hWork with
    ⟨outcome, hSame, hWork⟩
  cases hSame
  cases performs_closing hClosing
  have hLater
      {e : Exchange}
      (hMember : e ∈ middle) :
      e ∈ .asked .reachStore (.ok ()) ::
        .asked .lockStore (.ok ()) :: (middle ++ ending) :=
    List.mem_cons_of_mem _
      (List.mem_cons_of_mem _ (List.mem_append_left _ hMember))
  rcases performs_bind_iff.mp hWork with
    ⟨_, hSame, hFail⟩ | ⟨_, _, _, _, rfl, _, hCommit⟩
  · cases hSame
    rcases performs_request_iff.mp hFail with ⟨rfl, _⟩
    exact Or.inl (hLater (List.mem_singleton_self _))
  · rcases performs_bind_iff.mp hCommit with
      ⟨_, hSame, hFail⟩ | ⟨_, _, _, _, _, _, hDone⟩
    · cases hSame
      rcases performs_request_iff.mp hFail with ⟨rfl, _⟩
      exact Or.inr (hLater
        (List.mem_append_right _ (List.mem_singleton_self _)))
    · cases (performs_done_iff.mp hDone).2.1

/-
  No commit fails, and no statement but those that the tables
  refuse, which fail as the tables say.
-/
structure IsFaultless
    (t : Tables)
    (trace : List Exchange) : Prop where
  statements :
    ∀ s cause,
      .asked (.statement s) (.error cause) ∈ trace →
        s.execute t = .error cause
  commits : ∀ cause, .asked .commit (.error cause) ∉ trace

theorem IsFaultless.of_subset
    {t : Tables}
    {part : List Exchange}
    (hFaultless : IsFaultless t trace)
    (hPart : part ⊆ trace) :
    IsFaultless t part where
  statements s cause hMember :=
    hFaultless.statements s cause (hPart hMember)
  commits cause hMember :=
    hFaultless.commits cause (hPart hMember)

/-
  Without a fault a statement has the effect that it has on
  the tables, or fails as it does on them.
-/
theorem performs_transaction_of_faultless
    {result : Except Cause s.Answer}
    (hOld : ∀ name, s ≠ .createTable name)
    (hRest : w.IsAtRest)
    (hFaultless : IsFaultless w.store.current trace)
    (hPerforms :
      Performs w (transaction (execute s)) trace result
        later) :
    (∃ a t, s.execute w.store.current = .ok (a, t) ∧
      result = .ok a ∧
        later = { w with store := .ofTables t }) ∨
    (∃ cause, s.execute w.store.current = .error cause ∧
      result = .error cause ∧ later = w) := by
  rcases performs_transaction_execute hOld hRest hPerforms with
    ⟨a, after, rfl, _, hRun, rfl⟩ | ⟨cause, rfl, _, rfl⟩
  · rcases Connection.exists_execute_of_run hRun with
      ⟨t, hExecute, rfl⟩
    refine Or.inl ⟨a, t, hExecute, rfl, ?_⟩
    rw [Connection.current_after]
  · rcases mem_of_transaction_fails hPerforms with
      hStatement | hCommit
    · exact Or.inr
        ⟨cause, hFaultless.statements s cause hStatement, rfl,
          rfl⟩
    · exact absurd hCommit (hFaultless.commits cause)

end GuildWarden.Program
