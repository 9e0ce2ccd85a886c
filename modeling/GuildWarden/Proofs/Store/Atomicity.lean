import GuildWarden.Proofs.Effect.Service
import GuildWarden.Store.Transaction

/-
  This file shows that a transaction happens as a whole or
  not at all, although any statement in it may be refused: it
  leaves nothing pending, and the tables are as they were
  unless it was committed.

  Key definitions include:
    * `Program.Shared.IsAtRest`
    * `Program.IsOfRows`
    * `Program.Endures`

  Main statements:
    * `Store.Connection.effect_of_run`
    * `Program.performs_transaction`
    * `Program.performs_transaction_execute`
-/

namespace GuildWarden

namespace Store

------------------------------------------------------------
-- Pending Writes
------------------------------------------------------------

/- What is seen is permanent as long as nothing is pending. -/
def Connection.IsTidy
    (c : Connection) : Prop :=
  c.pending = false → c.current = c.permanent

/- Nothing is pending. -/
def Connection.IsSettled
    (c : Connection) : Prop :=
  c = .ofTables c.current

theorem Connection.IsSettled.isTidy
    {c : Connection}
    (hSettled : c.IsSettled) :
    c.IsTidy := by
  intro _
  rw [hSettled]
  rfl

/- What a connection that is settled would be rolled back to. -/
theorem Connection.IsSettled.ofTables_permanent
    {c : Connection}
    (hSettled : c.IsSettled) :
    .ofTables c.permanent = c := by
  rw [hSettled]
  rfl

/- Only a write or a new table changes the tables. -/
theorem Statement.tables_of_effect
    {s : Statement}
    {t t' : Tables}
    {answer : s.Answer}
    (hRead : s.isWrite = false)
    (hOld : ∀ name, s ≠ .createTable name)
    (hEffect : s.effect t = .ok (answer, t')) :
    t' = t := by
  cases s with
  | createTable name => exact absurd rfl (hOld name)
  | markVersion v => simp [isWrite, verb] at hRead
  | putTag row => simp [isWrite, verb] at hRead
  | dropTag g key => simp [isWrite, verb] at hRead
  | addBinding row => simp [isWrite, verb] at hRead
  | dropBindings g => simp [isWrite, verb] at hRead
  | putBan row => simp [isWrite, verb] at hRead
  | dropBan g u => simp [isWrite, verb] at hRead
  | _ =>
      cases hEffect
      rfl

theorem Statement.effect_of_execute
    {s : Statement}
    {t : Tables}
    {outcome : s.Answer × Tables}
    (hExecute : s.execute t = .ok outcome) :
    s.effect t = .ok outcome := by
  unfold Statement.execute at hExecute
  split at hExecute
  · cases hExecute
  · split at hExecute
    · cases hExecute
    · exact hExecute

/- A binding is added if its reaction was not bound before. -/
theorem Statement.effect_addBinding
    {row : Binding}
    {t t' : Tables}
    {answer : Unit}
    (hEffect :
      (Statement.addBinding row).effect t = .ok (answer, t')) :
    (∀ r ∈ t.bindings, row.sameReaction r = false) ∧
      t' = { t with bindings := t.bindings ++ [row] } := by
  simp only [effect] at hEffect
  split at hEffect
  · cases hEffect
  · rename_i hNone
    cases hEffect
    refine ⟨?_, rfl⟩
    intro r hMember
    refine eq_false_of_ne_true ?_
    intro hSame
    exact hNone (List.any_eq_true.mpr ⟨r, hMember, hSame⟩)

/- A statement that succeeds was executed. -/
theorem Connection.exists_execute_of_run
    {c after : Connection}
    {s : Statement}
    {answer : s.Answer}
    (hRun : c.run s = (.ok answer, after)) :
    ∃ t, s.execute c.current = .ok (answer, t) ∧
      after = c.after s t := by
  unfold Connection.run at hRun
  split at hRun
  · rename_i answer' t hExecute
    cases hRun
    exact ⟨t, hExecute, rfl⟩
  · cases hRun

theorem Connection.current_after
    (c : Connection)
    (s : Statement)
    (t : Tables) :
    (c.after s t).current = t := by
  unfold Connection.after
  split <;> rfl

/- A statement that succeeds leaves what its effect is. -/
theorem Connection.effect_of_run
    {c later : Connection}
    {s : Statement}
    {answer : s.Answer}
    (hRun : c.run s = (.ok answer, later)) :
    s.effect c.current = .ok (answer, later.current) := by
  rcases Connection.exists_execute_of_run hRun with
    ⟨t, hExecute, rfl⟩
  rw [Connection.current_after]
  exact Statement.effect_of_execute hExecute

/- A statement on rows leaves what is permanent. -/
theorem Connection.permanent_of_run
    {c after : Connection}
    {s : Statement}
    {answer : s.Answer}
    (hTidy : c.IsTidy)
    (hOld : ∀ name, s ≠ .createTable name)
    (hRun : c.run s = (.ok answer, after)) :
    after.permanent = c.permanent ∧ after.IsTidy := by
  rcases Connection.exists_execute_of_run hRun with
    ⟨t, hExecute, rfl⟩
  unfold Connection.after
  split
  · exact ⟨rfl, fun hPending => by cases hPending⟩
  · rename_i hIdle
    have hIdle : s.isWrite = false ∧ c.pending = false := by
      simpa using hIdle
    have hSame : t = c.current :=
      Statement.tables_of_effect hIdle.1 hOld
        (Statement.effect_of_execute hExecute)
    exact ⟨hSame.trans (hTidy hIdle.2), fun _ => rfl⟩

/- What is read from a settled connection leaves it. -/
theorem Connection.IsSettled.run_read
    {c after : Connection}
    {s : Statement}
    {answer : s.Answer}
    (hSettled : c.IsSettled)
    (hRead : s.isWrite = false)
    (hOld : ∀ name, s ≠ .createTable name)
    (hRun : c.run s = (.ok answer, after)) :
    s.effect c.current = .ok (answer, c.current) ∧
      after = c := by
  rcases Connection.exists_execute_of_run hRun with
    ⟨t, hExecute, rfl⟩
  have hEffect := Statement.effect_of_execute hExecute
  have hSame : t = c.current :=
    Statement.tables_of_effect hRead hOld hEffect
  have hIdle : c.pending = false := by
    rw [hSettled]
    rfl
  refine ⟨hSame ▸ hEffect, ?_⟩
  simp only [Connection.after, hRead, hIdle, Bool.or_false,
    Bool.false_eq_true, if_false, hSame]
  exact hSettled.symm

end Store

namespace Program

open Store

variable {α β : Type}
variable {w later : Shared}
variable {p : Program α}
variable {f : α → Program β}
variable {trace : List Exchange}
variable {s : Statement}

/- Nobody uses the store, and nothing is pending. -/
structure Shared.IsAtRest
    (w : Shared) : Prop where
  free : w.isLocked = false
  settled : w.store.IsSettled

------------------------------------------------------------
-- Statements on Rows
------------------------------------------------------------

/- A request for a statement that makes no table. -/
def IsOfRows : Request → Prop
  | .statement s => ∀ name, s ≠ .createTable name
  | _ => False

/- Statements leave what is permanent, and the lock. -/
theorem permanent_of_performs
    {result : Except Cause α}
    (hRows : p.Requests IsOfRows)
    (hTidy : w.store.IsTidy)
    (hPerforms : Performs w p trace result later) :
    later.store.permanent = w.store.permanent := by
  induction hPerforms with
  | done => rfl
  | fail => rfl
  | access => exact hRows.elim
  | @ask w between _ r answer _ _ _ hServes hNext hInduction =>
      have hOld := hRows.1
      cases r with
      | statement s =>
          have hBetween :
              between.store.permanent = w.store.permanent ∧
                between.store.IsTidy := by
            cases answer with
            | ok a =>
                exact Connection.permanent_of_run hTidy hOld
                  hServes.1
            | error cause =>
                rcases hServes with ⟨_, rfl⟩
                refine ⟨rfl, ?_⟩
                intro hIdle
                exact hTidy (Bool.or_eq_false_iff.mp hIdle).1
          exact (hInduction (hRows.2 _) hBetween.2).trans
            hBetween.1
      | _ => exact hOld.elim

/- Statements change the store only. -/
theorem eq_of_rows
    {result : Except Cause α}
    (hRows : p.Requests IsOfRows)
    (hPerforms : Performs w p trace result later) :
    later = { w with store := later.store } := by
  induction hPerforms with
  | done => rfl
  | fail => rfl
  | access => exact hRows.elim
  | @ask w between _ r answer _ _ _ hServes hNext hInduction =>
      have hOld := hRows.1
      cases r with
      | statement s =>
          have hBetween :
              between = { w with store := between.store } := by
            cases answer with
            | ok a => exact hServes.2
            | error cause =>
                rw [hServes.2]
          rw [hInduction (hRows.2 _), hBetween]
      | _ => exact hOld.elim

------------------------------------------------------------
-- Endurance
------------------------------------------------------------

/- A program is cancelled only if a request of it is. -/
def Endures : Program α → Prop
  | .done _ => True
  | .fail cause => cause ≠ .cancelled
  | .access _ next => ∀ m, (next m).Endures
  | .ask _ next =>
    ∀ answer, answer ≠ .error .cancelled →
      (next answer).Endures

theorem Endures.bind
    (hFirst : p.Endures)
    (hRest : ∀ a, (f a).Endures) :
    (p.bind f).Endures := by
  induction p with
  | done a => exact hRest a
  | fail cause => exact hFirst
  | access change next hInduction =>
      intro m
      exact hInduction m (hFirst m)
  | ask r next hInduction =>
      intro answer hServed
      exact hInduction answer (hFirst answer hServed)

theorem Endures.settle
    {result : Except Cause α}
    (hResult : result ≠ .error .cancelled) :
    (settle result).Endures := by
  cases result with
  | ok a => trivial
  | error cause =>
      intro hCancelled
      exact hResult (congrArg Except.error hCancelled)

theorem Endures.request
    (r : Request) :
    (request r).Endures :=
  fun _ hServed => Endures.settle hServed

/- No statement is cancelled. -/
theorem Shared.Serves.ne_cancelled
    {answer : Except Cause (Request.Answer (.statement s))}
    (hServes : w.Serves later (.statement s) answer) :
    answer ≠ .error .cancelled := by
  rintro rfl
  exact hServes.1 rfl

theorem Endures.ne_cancelled
    {result : Except Cause α}
    (hEndures : p.Endures)
    (hRows : p.Requests IsOfRows)
    (hPerforms : Performs w p trace result later) :
    result ≠ .error .cancelled := by
  induction hPerforms with
  | done => simp
  | fail =>
      intro hCancelled
      cases hCancelled
      exact hEndures rfl
  | access => exact hRows.elim
  | @ask _ _ _ r _ _ _ _ hServes hNext hInduction =>
      have hOld := hRows.1
      cases r with
      | statement s =>
          exact hInduction
            (hEndures _ hServes.ne_cancelled) (hRows.2 _)
      | _ => exact hOld.elim

------------------------------------------------------------
-- Reading
------------------------------------------------------------

theorem performs_reading
    {body : Program α}
    {result : Except Cause α}
    (hPerforms :
      Performs w (reading body) trace result later) :
    ∃ inner, trace = .asked .reachStore (.ok ()) :: inner ∧
      Performs w body inner result later := by
  cases hPerforms with
  | ask hReach hBody =>
  rcases hReach with ⟨rfl, hSame⟩
  exact ⟨_, rfl, hSame ▸ hBody⟩

/- A statement that only reads leaves what is settled. -/
theorem performs_execute_read
    {result : Except Cause s.Answer}
    (hRead : s.isWrite = false)
    (hOld : ∀ name, s ≠ .createTable name)
    (hSettled : w.store.IsSettled)
    (hPerforms : Performs w (execute s) trace result later) :
    trace = [.asked (.statement s) result] ∧ later = w ∧
      ∀ a, result = .ok a →
        s.effect w.store.current =
          .ok (a, w.store.current) := by
  rcases performs_request_iff.mp hPerforms with
    ⟨rfl, hServes⟩
  refine ⟨rfl, ?_⟩
  cases result with
  | ok a =>
      rcases hSettled.run_read hRead hOld hServes.1 with
        ⟨hEffect, hStore⟩
      refine ⟨by rw [hServes.2, hStore], ?_⟩
      rintro _ ⟨⟩
      exact hEffect
  | error cause =>
      refine ⟨?_, by simp⟩
      rw [hServes.2, refuse, hRead, Bool.or_false]

------------------------------------------------------------
-- Transactions
------------------------------------------------------------

/- A transaction of statements calls nobody. -/
theorem requests_transaction
    {body : Program α}
    (hRows : body.Requests IsOfRows) :
    (transaction body).Requests fun r => ¬ IsCall r := by
  have hBody : body.Requests fun r => ¬ IsCall r := by
    refine hRows.mono ?_
    intro r hRow hCall
    cases r with
    | statement s => exact hCall
    | _ => exact hRow
  refine Requests.bind (Requests.request id) fun _ => ?_
  refine Requests.bind (Requests.request id) fun _ => ?_
  refine Requests.bind (Requests.attempt ?_) fun attempted =>
    Requests.bind (Requests.request id) fun _ =>
      Requests.settle attempted
  refine Requests.handling (Requests.bind hBody fun a =>
    Requests.bind (Requests.request id) fun _ => trivial) ?_
  intro cause
  exact Requests.bind (Requests.request id) fun _ => trivial

/- A state whose lock is taken. -/
def Shared.locked
    (w : Shared) : Shared :=
  { w with isLocked := true }

/- What is undone, and then fails. -/
theorem performs_undoing
    {cause : Cause}
    {result : Except Cause α}
    (hPerforms :
      Performs w
        ((request .rollback).bind fun _ => .fail cause)
        trace result later) :
    trace = [.asked .rollback (.ok ())] ∧
      result = .error cause ∧
        later = { w with store := w.store.rollback } := by
  rcases performs_bind_iff.mp hPerforms with
    ⟨_, rfl, hRollback⟩ | ⟨_, ⟨⟩, _, _, rfl, hRollback, hThrow⟩
  · cases (performs_request_iff.mp hRollback).2.1
  · rcases performs_request_iff.mp hRollback with
      ⟨rfl, _, rfl⟩
    rcases performs_fail_iff.mp hThrow with ⟨rfl, rfl, rfl⟩
    exact ⟨rfl, rfl, rfl⟩

/- What is done until a body and its commit have ended. -/
theorem performs_committing
    {body : Program α}
    {result : Except Cause α}
    (hRows : body.Requests IsOfRows)
    (hEndures : body.Endures)
    (hPerforms :
      Performs w (committing body) trace result later) :
    (∃ a inner between, result = .ok a ∧
      Performs w body inner (.ok a) between ∧
        trace = inner ++ [.asked .commit (.ok ())] ∧
          later =
            { between with store := between.store.commit }) ∨
    (∃ cause attempted inner between, result = .error cause ∧
      Performs w body inner attempted between ∧
        .asked .commit (.ok ()) ∉ trace ∧
          later =
            { between with
              store := between.store.rollback }) := by
  rcases performs_handling_iff.mp hPerforms with
    ⟨attempted, before, between, after, rfl, hFirst, hRest⟩
  rcases performs_bind_iff.mp hFirst with
    ⟨cause, rfl, hBody⟩ |
      ⟨inner, a, ending, after', rfl, hBody, hCommit⟩
  · -- The body failed, and is undone.
    have hCause : cause ≠ .cancelled := by
      intro hCancelled
      exact hEndures.ne_cancelled hRows hBody
        (congrArg Except.error hCancelled)
    have hInner : .asked .commit (.ok ()) ∉ before := by
      intro hMember
      exact hRows.of_performs hBody _ _ hMember
    simp only [ne_eq, hCause, not_false_eq_true, and_self,
      if_true] at hRest
    rcases performs_undoing hRest with ⟨rfl, rfl, rfl⟩
    exact Or.inr ⟨cause, _, before, between, rfl, hBody,
      by simpa using hInner, rfl⟩
  have hInner : .asked .commit (.ok ()) ∉ inner := by
    intro hMember
    exact hRows.of_performs hBody _ _ hMember
  rcases performs_bind_iff.mp hCommit with
    ⟨cause, rfl, hFail⟩ | ⟨_, ⟨⟩, _, _, rfl, hDone, hReturn⟩
  · -- The commit failed, and the body is undone.
    rcases performs_request_iff.mp hFail with
      ⟨rfl, hCause, rfl⟩
    simp only [ne_eq, hCause, not_false_eq_true, and_self,
      if_true] at hRest
    rcases performs_undoing hRest with ⟨rfl, rfl, rfl⟩
    have hOther :
        Exchange.asked .commit (.ok ()) ≠
          .asked .commit (.error cause) := by
      intro hSame
      cases hSame
    refine Or.inr ⟨cause, _, inner, _, rfl, hBody, ?_, rfl⟩
    simp only [List.mem_append, List.mem_singleton, not_or]
    exact ⟨⟨hInner, hOther⟩, by simp⟩
  · rcases performs_request_iff.mp hDone with ⟨rfl, rfl⟩
    rcases performs_done_iff.mp hReturn with ⟨rfl, rfl, rfl⟩
    rcases hRest with ⟨rfl, rfl, rfl⟩
    refine Or.inl ⟨a, inner, after', rfl, hBody, ?_, rfl⟩
    rw [List.append_nil, List.append_nil]
    rfl

/-
  A transaction is a body and its commit, or leaves everything
  as it was.
-/
theorem performs_transaction
    {body : Program α}
    {result : Except Cause α}
    (hRows : body.Requests IsOfRows)
    (hEndures : body.Endures)
    (hRest : w.IsAtRest)
    (hPerforms :
      Performs w (transaction body) trace result later) :
    (∃ a inner between, result = .ok a ∧
      Performs w.locked body inner (.ok a) between ∧
        trace =
          [.asked .reachStore (.ok ()),
            .asked .lockStore (.ok ())] ++
            inner ++
              [.asked .commit (.ok ()),
                .asked .unlockStore (.ok ())] ∧
          later =
            { w with
              store := .ofTables between.store.current }) ∨
    (∃ cause, result = .error cause ∧
      .asked .commit (.ok ()) ∉ trace ∧ later = w) := by
  cases hPerforms with
  | ask hReach hAfter =>
  rcases hReach with ⟨rfl, hSame⟩
  rw [hSame] at hAfter
  cases hAfter with
  | ask hLock hAfter =>
  rcases hLock with ⟨_, rfl, rfl⟩
  change
    Performs w.locked
      ((committing body).attempt.bind fun result =>
        (request .unlockStore).bind fun _ => settle result)
      _ result later at hAfter
  rcases performs_bind_iff.mp hAfter with
    ⟨_, _, hFail⟩ | ⟨middle, attempted, ending, between, rfl,
      hCommitting, hUnlock⟩
  · rcases performs_attempt_iff.mp hFail with ⟨_, hOk, _⟩
    cases hOk
  rcases performs_attempt_iff.mp hCommitting with
    ⟨_, hSame, hCommitting⟩
  cases hSame
  rcases performs_bind_iff.mp hUnlock with
    ⟨_, _, hFail⟩ | ⟨_, ⟨⟩, _, _, rfl, hUnlock, hSettle⟩
  · cases (performs_request_iff.mp hFail).2.1
  rcases performs_request_iff.mp hUnlock with ⟨rfl, _, rfl⟩
  rcases performs_settle_iff.mp hSettle with ⟨rfl, rfl, rfl⟩
  rcases performs_committing hRows hEndures hCommitting with
    ⟨a, inner, between, rfl, hBody, rfl, rfl⟩ |
      ⟨cause, attempted, inner, between, rfl, hBody, hNone,
        rfl⟩
  · refine Or.inl ⟨a, inner, between, rfl, hBody, by simp, ?_⟩
    rw [eq_of_rows hRows hBody]
    simp only [Shared.locked, Connection.commit, ← hRest.free]
  · refine Or.inr ⟨cause, rfl, by simpa using hNone, ?_⟩
    have hPermanent :
        between.store.permanent = w.store.permanent :=
      permanent_of_performs (w := w.locked) hRows
        hRest.settled.isTidy hBody
    rw [eq_of_rows hRows hBody]
    simp only [Shared.locked, Connection.rollback, hPermanent,
      hRest.settled.ofTables_permanent, ← hRest.free]

/- A transaction of one statement. -/
theorem performs_transaction_execute
    {result : Except Cause s.Answer}
    (hOld : ∀ name, s ≠ .createTable name)
    (hRest : w.IsAtRest)
    (hPerforms :
      Performs w (transaction (execute s)) trace result
        later) :
    (∃ a after, result = .ok a ∧
      trace =
        [.asked .reachStore (.ok ()),
          .asked .lockStore (.ok ()),
          .asked (.statement s) (.ok a),
          .asked .commit (.ok ()),
          .asked .unlockStore (.ok ())] ∧
        w.store.run s = (.ok a, after) ∧
          later = { w with store := .ofTables after.current }) ∨
    (∃ cause, result = .error cause ∧
      .asked .commit (.ok ()) ∉ trace ∧ later = w) := by
  rcases performs_transaction
    (Requests.request (r := .statement s) hOld)
    (Endures.request _) hRest hPerforms with
    ⟨a, inner, between, rfl, hBody, rfl, rfl⟩ | hFailed
  · rcases performs_request_iff.mp hBody with ⟨rfl, hRun, _⟩
    exact Or.inl ⟨a, between.store, rfl, rfl, hRun, rfl⟩
  · exact Or.inr hFailed

end Program

end GuildWarden
