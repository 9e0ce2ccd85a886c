import GuildWarden.Proofs.Store.Chronicle
import GuildWarden.Rehearsal.Archive

/-
  This file shows what becomes of a transaction that is
  interrupted at any point, by any cause. It is rolled back
  unless it was cancelled; then its statements stay pending,
  and a later commit on the same connection makes them
  permanent. To close the store does not.

  Key definitions include:
    * `Store.work`
    * `Store.closing`

  Main statements:
    * `Store.transaction_eq`
    * `Store.holds_of_records`
    * `Store.turnAfter_of_interrupted`
    * `Store.connection_of_failed`
    * `Store.file_closeStore`
    * `Store.mem_kept_iff_of_interrupted`
-/

namespace GuildWarden.Store

open Program

variable {α β : Type}
variable {p : Program α}
variable {body : Program α}
variable {trace : List Exchange}
variable {n i : Nat}
variable {e : Exchange}
variable {h later : Chronicle}
variable {initial : Connection}

------------------------------------------------------------
-- Runs of a Transaction
------------------------------------------------------------

/- A body and its commit, which a transaction carries out. -/
def work
    (body : Program α) : Program α :=
  body.bind fun a => (request .commit).bind fun _ => .done a

/- How a transaction begins once it has the lock. -/
def opening : List Exchange :=
  [.asked .reachStore (.ok ()), .asked .lockStore (.ok ())]

/- What follows the work of a transaction: it is undone, or not. -/
def undoing : Except Cause α → Program α
  | .ok a => .done a
  | .error cause =>
    if cause ≠ .cancelled then
      (request .rollback).bind fun _ => .fail cause
    else .fail cause

/- How a transaction ends after its work. -/
def closing
    (outcome : Except Cause α) : Program α :=
  (undoing outcome).attempt.bind fun result =>
    (request .unlockStore).bind fun _ => settle result

theorem committing_eq
    (body : Program α) :
    committing body = (work body).attempt.bind undoing := by
  change
    (work body).attempt.bind _ = (work body).attempt.bind _
  congr
  funext outcome
  cases outcome with
  | ok a => rfl
  | error cause =>
      by_cases hCancelled : cause = .cancelled
      · subst hCancelled
        rfl
      · simp [undoing, hCancelled]
        rfl

theorem transaction_eq
    (body : Program α) :
    transaction body =
      (request .reachStore).bind fun _ =>
        (request .lockStore).bind fun _ =>
          (work body).attempt.bind closing := by
  have hClosing :
      (committing body).attempt.bind (fun result =>
        (request .unlockStore).bind fun _ => settle result) =
      (work body).attempt.bind closing := by
    rw [committing_eq, attempt_bind, attempt_attempt, bind_assoc,
      bind_assoc]
    rfl
  change
    (request .reachStore).bind (fun _ =>
      (request .lockStore).bind fun _ =>
        (committing body).attempt.bind (fun result =>
          (request .unlockStore).bind fun _ =>
            settle result)) = _
  rw [hClosing]

/- The work of a transaction is a body and at most a commit. -/
theorem exists_inner_of_work
    {outcome : Except Cause α}
    (hRuns : Runs (work body) trace outcome) :
    ∃ inner result, Runs body inner result ∧
      (trace = inner ∧ (∃ cause, outcome = .error cause) ∨
        ∃ answer, trace = inner ++ [.asked .commit answer] ∧
          ∀ cause, outcome = .error cause →
            answer = .error cause) := by
  rcases runs_bind_iff.mp hRuns with
    ⟨cause, rfl, hBody⟩ | ⟨inner, a, rest, rfl, hBody, hRest⟩
  · exact ⟨trace, _, hBody, Or.inl ⟨rfl, cause, rfl⟩⟩
  · refine ⟨inner, _, hBody, Or.inr ?_⟩
    cases hRest with
    | ask answer hDone =>
        refine ⟨answer, ?_⟩
        cases answer with
        | ok a' =>
            rcases runs_done_iff.mp hDone with ⟨rfl, rfl⟩
            exact ⟨rfl, by simp⟩
        | error cause =>
            rcases runs_fail_iff.mp hDone with ⟨rfl, rfl⟩
            refine ⟨rfl, ?_⟩
            intro failure hFailure
            cases hFailure
            rfl

/- After an attempt the lock is given back. -/
theorem runs_unlocking
    {undone result : Except Cause α}
    (hRuns :
      Runs
        ((settle undone).attempt.bind fun result =>
          (request .unlockStore).bind fun _ => settle result)
        trace result) :
    ∃ answer, trace = [.asked .unlockStore answer] ∧
      (answer = .ok () → result = undone) := by
  rw [attempt_settle] at hRuns
  cases hRuns with
  | ask answer hRest =>
      refine ⟨answer, ?_⟩
      cases answer with
      | ok a =>
          rcases runs_settle_iff.mp hRest with ⟨rfl, rfl⟩
          exact ⟨rfl, fun _ => rfl⟩
      | error cause =>
          rcases runs_fail_iff.mp hRest with ⟨rfl, rfl⟩
          exact ⟨rfl, fun hOk => by cases hOk⟩

/- Work that failed is undone before the lock is given back. -/
theorem runs_closing_of_failed
    {cause : Cause}
    {result : Except Cause α}
    (hCause : cause ≠ .cancelled)
    (hRuns : Runs (closing (.error cause)) trace result) :
    ∃ answer last,
      trace =
        [.asked .rollback answer, .asked .unlockStore last] := by
  have hUndoing :
      undoing (.error cause : Except Cause α) =
        (request .rollback).bind fun _ => .fail cause :=
    if_pos hCause
  unfold closing at hRuns
  rw [hUndoing] at hRuns
  cases hRuns with
  | ask answer hRest =>
      have hUndone :
          ∃ failure : Cause,
            (settle answer).bind (fun _ => .fail cause) =
              (settle (.error failure) : Program α) := by
        cases answer with
        | ok a => exact ⟨cause, rfl⟩
        | error failure => exact ⟨failure, rfl⟩
      rcases hUndone with ⟨failure, hUndone⟩
      change
        Runs
          (((settle answer).bind fun _ => .fail cause).attempt.bind
            fun result => (request .unlockStore).bind fun _ =>
              settle result)
          _ result at hRest
      rw [hUndone] at hRest
      rcases runs_unlocking hRest with ⟨last, rfl, _⟩
      exact ⟨answer, last, rfl⟩

/- Work that succeeded or is cancelled is left as it is. -/
theorem runs_closing_of_left
    {outcome result : Except Cause α}
    (hOutcome :
      ∀ cause, outcome = .error cause → cause = .cancelled)
    (hRuns : Runs (closing outcome) trace result) :
    ∃ last, trace = [.asked .unlockStore last] ∧
      (last = .ok () → result = outcome) := by
  have hUndoing : undoing outcome = settle outcome := by
    cases outcome with
    | ok a => rfl
    | error cause =>
        rw [hOutcome cause rfl]
        rfl
  unfold closing at hRuns
  rw [hUndoing] at hRuns
  exact runs_unlocking hRuns

/- A body of statements on rows. -/
theorem encloses_of_rows
    (hRows : body.Requests IsOfRows) :
    Encloses body := by
  intro trace result hRuns e hMember
  rcases hRows.of_runs hRuns e hMember with
    ⟨r, answer, rfl, hRow⟩
  cases r with
  | statement s =>
      cases s with
      | createTable name => exact (hRow name rfl).elim
      | _ => rfl
  | _ => exact hRow.elim

/- A transaction does not begin, or does its work and ends. -/
theorem runs_transaction_cases
    {result : Except Cause α}
    (hRuns : Runs (transaction body) trace result) :
    (∀ e ∈ trace, isOfStore e = false) ∨
    ∃ working outcome ending,
      trace = opening ++ working ++ ending ∧
        Runs (work body) working outcome ∧
          Runs (closing outcome) ending result := by
  rw [transaction_eq] at hRuns
  cases hRuns with
  | ask reached hReached =>
  cases reached with
  | error cause =>
      rcases runs_fail_iff.mp hReached with ⟨rfl, _⟩
      exact Or.inl (by simp [isOfStore])
  | ok reach =>
  cases hReached with
  | ask locked hLocked =>
  cases locked with
  | error cause =>
      rcases runs_fail_iff.mp hLocked with ⟨rfl, _⟩
      exact Or.inl (by simp [isOfStore])
  | ok lock =>
  change Runs ((work body).attempt.bind closing) _ _ at hLocked
  rcases runs_bind_iff.mp hLocked with
    ⟨_, _, hFail⟩ | ⟨working, outcome, ending, rfl, hWork,
      hClosing⟩
  · exact (runs_attempt_ne_error hFail).elim
  · exact Or.inr ⟨working, outcome, ending, rfl,
      runs_attempt_iff.mp hWork, hClosing⟩

/- What does not concern the store may stand in a body. -/
theorem isInner_of_other
    (hOther : isOfStore e = false) :
    isInner e = true := by
  unfold isOfStore at hOther
  unfold isInner
  split <;> simp_all

/- A transaction executes no statement after its body. -/
theorem exists_body_of_runs
    {result : Except Cause α}
    (hEncloses : Encloses body)
    (hRuns : Runs (transaction body) trace result) :
    ∃ before after, trace = before ++ after ∧
      (∀ e ∈ before, isInner e = true) ∧
        ∀ e ∈ after, isStatement e = false := by
  rcases runs_transaction_cases hRuns with
    hOther | ⟨working, outcome, ending, rfl, hWork, hClosing⟩
  · exact ⟨trace, [], (List.append_nil trace).symm,
      fun e hMember => isInner_of_other (hOther e hMember),
      by simp⟩
  have hEnding : ∀ e ∈ ending, isStatement e = false := by
    by_cases hLeft :
        ∀ cause, outcome = .error cause → cause = .cancelled
    · rcases runs_closing_of_left hLeft hClosing with
        ⟨_, rfl, _⟩
      simp [isStatement]
    · rcases Classical.not_forall.mp hLeft with ⟨cause, hLeft⟩
      rcases Classical.not_imp.mp hLeft with ⟨rfl, hCause⟩
      rcases runs_closing_of_failed hCause hClosing with
        ⟨_, _, rfl⟩
      simp [isStatement]
  rcases exists_inner_of_work hWork with
    ⟨inner, _, hBody, ⟨rfl, _⟩ | ⟨answer, rfl, _⟩⟩
  · refine ⟨opening ++ working, ending, rfl, ?_, hEnding⟩
    simpa [opening, isInner] using hEncloses _ _ hBody
  · refine ⟨opening ++ inner, .asked .commit answer :: ending,
      by simp, ?_, ?_⟩
    · simpa [opening, isInner] using hEncloses _ _ hBody
    · simpa [isStatement] using hEnding

/- A transaction that failed inside has undone its body. -/
theorem ending_of_interrupted
    {cause : Cause}
    {result : Except Cause α}
    {working ending : List Exchange}
    (hRun :
      Runs (transaction body) (opening ++ working ++ ending)
        result)
    (hInterrupted : Runs (work body) working (.error cause))
    (hCause : cause ≠ .cancelled) :
    ∃ answer last,
      ending =
        [.asked .rollback answer, .asked .unlockStore last] := by
  rw [transaction_eq, List.append_assoc] at hRun
  cases hRun with
  | ask _ hReached =>
  cases hReached with
  | ask _ hLocked =>
  have hClosing :=
    runs_of_attempt_bind hInterrupted
      (f := closing) hLocked
  exact runs_closing_of_failed hCause hClosing

------------------------------------------------------------
-- Histories
------------------------------------------------------------

variable {traces newer older : List (List Exchange)}

/- A chronicle is right up to any later transaction. -/
theorem Chronicle.Holds.mono
    {m : Nat}
    (hHolds : h.Holds initial n)
    (hLater : n ≤ m) :
    h.Holds initial m :=
  { hHolds with
    numbered := fun x hDone =>
      Nat.le_trans (hHolds.numbered x hDone) hLater
    turned := fun turn hMember =>
      Nat.le_trans (hHolds.turned turn hMember) hLater }

/- A transaction keeps a chronicle right, wherever it stops. -/
theorem IsTransaction.holds
    (hTransaction : IsTransaction trace)
    (hWrites : WritesAll n trace h later)
    (hHolds : h.Holds initial n)
    (hOpen : h.turnAfter n = none) :
    later.Holds initial n := by
  rcases hTransaction with ⟨α, body, result, hEncloses, hRuns⟩
  rcases exists_body_of_runs hEncloses hRuns with
    ⟨before, after, rfl, hInner, hOuter⟩
  rcases writesAll_append hWrites with
    ⟨between, hBefore, hAfter⟩
  have hBetween := hBefore.holds_inner hInner hHolds hOpen
  exact hAfter.holds_outer hOuter hBetween.1

/- So it is right after every history. -/
theorem holds_of_records
    (hSettled : initial.IsSettled)
    (hHistory : Records initial traces h) :
    h.Holds initial traces.length ∧
      ∀ turn ∈ h.turns, turn.1 < traces.length := by
  induction hHistory with
  | nil =>
      exact ⟨.start hSettled, by simp [Chronicle.start]⟩
  | @cons older trace h later _ hTransaction hWrites hInduction =>
      have hHolds :=
        hTransaction.holds hWrites hInduction.1
          (turnAfter_of_lt hInduction.2)
      refine ⟨hHolds.mono (Nat.le_succ _), ?_⟩
      intro turn hMember
      exact Nat.lt_succ_of_le (hHolds.turned turn hMember)

/- A turn that was taken stays. -/
theorem Writes.turns
    (hWrites : Writes n e h later) :
    ∃ more, later.turns = h.turns ++ more := by
  cases hWrites with
  | committed answer hAnswer => exact ⟨[(n, true)], rfl⟩
  | rolledBack answer hAnswer => exact ⟨[(n, false)], rfl⟩
  | _ => exact ⟨[], (List.append_nil _).symm⟩

theorem WritesAll.turns
    (hWrites : WritesAll n trace h later) :
    ∃ more, later.turns = h.turns ++ more := by
  induction hWrites with
  | nil h => exact ⟨[], (List.append_nil _).symm⟩
  | cons hFirst hRest hInduction =>
      rcases hFirst.turns with ⟨first, hFirst⟩
      rcases hInduction with ⟨rest, hRest⟩
      exact ⟨first ++ rest, by
        rw [hRest, hFirst, List.append_assoc]⟩

/- Any history has gone through its earlier parts. -/
theorem Records.exists_older
    (hHistory : Records initial (newer ++ older) h) :
    ∃ before more, Records initial older before ∧
      h.turns = before.turns ++ more := by
  induction newer generalizing h with
  | nil => exact ⟨h, [], hHistory, (List.append_nil _).symm⟩
  | cons trace newer hInduction =>
      cases hHistory with
      | cons hOlder hTransaction hWrites =>
          rcases hInduction hOlder with
            ⟨before, first, hBefore, hFirst⟩
          rcases hWrites.turns with ⟨rest, hRest⟩
          exact ⟨before, first ++ rest, hBefore, by
            rw [hRest, hFirst, List.append_assoc]⟩

/- The first turn does not change. -/
theorem turnAfter_of_append
    {isCommit : Bool}
    {more : List (Nat × Bool)}
    (hTurns : later.turns = h.turns ++ more)
    (hTurn : h.turnAfter i = some isCommit) :
    later.turnAfter i = some isCommit := by
  unfold Chronicle.turnAfter at hTurn ⊢
  rw [hTurns, List.find?_append]
  cases hFind : h.turns.find? fun turn => i ≤ turn.1 with
  | none =>
      rw [hFind] at hTurn
      cases hTurn
  | some turn =>
      rw [hFind] at hTurn
      exact hTurn

/- Work that failed is written like its body alone. -/
theorem exists_inner_of_failed
    {cause : Cause}
    {working : List Exchange}
    (hEncloses : Encloses body)
    (hInterrupted : Runs (work body) working (.error cause))
    (hCause : cause ≠ .cancelled)
    (hWrites : WritesAll n working h later) :
    ∃ inner, (∀ e ∈ inner, isInner e = true) ∧
      WritesAll n inner h later := by
  rcases exists_inner_of_work hInterrupted with
    ⟨inner, _, hBody, ⟨rfl, _⟩ | ⟨answer, rfl, hAnswer⟩⟩
  · exact ⟨working, hEncloses _ _ hBody, hWrites⟩
  · rcases writesAll_append hWrites with
      ⟨between, hInner, hCommit⟩
    rw [hAnswer cause rfl] at hCommit
    rcases hCommit with _ | ⟨hCommit, ⟨⟩⟩
    cases hCommit with
    | committed _ hAnswer =>
        rcases hAnswer with hOk | hCancelled
        · cases hOk
        · exact (hCause (by simpa using hCancelled)).elim
    | uncommitted => exact ⟨inner, hEncloses _ _ hBody, hInner⟩
    | passed hOther => cases hOther

/- A transaction that failed is written, and then undone. -/
theorem exists_rollback_of_interrupted
    {cause : Cause}
    {result : Except Cause α}
    {working ending : List Exchange}
    (hEncloses : Encloses body)
    (hRun :
      Runs (transaction body) (opening ++ working ++ ending)
        result)
    (hInterrupted : Runs (work body) working (.error cause))
    (hCause : cause ≠ .cancelled)
    (hWrites :
      WritesAll n (opening ++ working ++ ending) h later) :
    ∃ inner between, (∀ e ∈ inner, isInner e = true) ∧
      WritesAll n inner h between ∧
        later = between.rollback n := by
  rcases ending_of_interrupted hRun hInterrupted hCause with
    ⟨answer, last, rfl⟩
  rcases writesAll_append hWrites with
    ⟨between, hWritten, hEnding⟩
  rcases writesAll_append hWritten with
    ⟨opened, hOpening, hWorking⟩
  have hOpened : opened = h :=
    hOpening.eq_of_other (by simp [opening, isOfStore])
  subst hOpened
  rcases exists_inner_of_failed hEncloses hInterrupted hCause
    hWorking with ⟨inner, hInner, hWritten⟩
  refine ⟨inner, between, hInner, hWritten, ?_⟩
  rcases hEnding with _ | ⟨hRollback, hUnlock⟩
  rw [hUnlock.eq_of_other (by simp [isOfStore])]
  cases hRollback with
  | rolledBack => rfl
  | passed hOther => cases hOther

/- The statements of a body that failed are undone. -/
theorem turnAfter_of_interrupted
    {cause : Cause}
    {result : Except Cause α}
    {working ending : List Exchange}
    (hEncloses : Encloses body)
    (hRun :
      Runs (transaction body) (opening ++ working ++ ending)
        result)
    (hInterrupted : Runs (work body) working (.error cause))
    (hCause : cause ≠ .cancelled)
    (hWrites :
      WritesAll n (opening ++ working ++ ending) h later)
    (hHolds : h.Holds initial n)
    (hOpen : h.turnAfter n = none) :
    later.turnAfter n = some false := by
  rcases exists_rollback_of_interrupted hEncloses hRun
    hInterrupted hCause hWrites with
    ⟨inner, between, hInner, hWritten, rfl⟩
  have hBetween := hWritten.holds_inner hInner hHolds hOpen
  rw [turnAfter_of_turns rfl (Nat.le_refl n), hBetween.2]
  rfl

/- A transaction that failed leaves a settled connection. -/
theorem connection_of_failed
    {cause : Cause}
    (hEncloses : Encloses body)
    (hFailed : Runs (transaction body) trace (.error cause))
    (hCause : cause ≠ .cancelled)
    (hUnlocked :
      ∀ failure, .asked .unlockStore (.error failure) ∉ trace)
    (hSettled : h.connection.IsSettled)
    (hWrites : WritesAll n trace h later) :
    later.connection = h.connection := by
  rcases runs_transaction_cases hFailed with
    hOther | ⟨working, outcome, ending, rfl, hWork, hClosing⟩
  · rw [hWrites.eq_of_other hOther]
  by_cases hLeft :
      ∀ cause, outcome = .error cause → cause = .cancelled
  · -- Then the transaction would have ended otherwise.
    rcases runs_closing_of_left hLeft hClosing with
      ⟨last, rfl, hResult⟩
    cases last with
    | error failure => exact (hUnlocked failure (by simp)).elim
    | ok _ => exact (hCause (hLeft cause (hResult rfl).symm)).elim
  · rcases Classical.not_forall.mp hLeft with ⟨first, hLeft⟩
    rcases Classical.not_imp.mp hLeft with ⟨rfl, hFirst⟩
    rcases exists_rollback_of_interrupted hEncloses hFailed
      hWork hFirst hWrites with
      ⟨inner, between, hInner, hWritten, rfl⟩
    have hPermanent :=
      hWritten.permanent
        (fun e hMember => isLasting_of_inner (hInner e hMember))
        hSettled.isTidy
    change Connection.ofTables between.connection.permanent = _
    rw [hPermanent.1, hSettled.ofTables_permanent]

/- Without a commit it makes nothing permanent at all. -/
theorem permanent_of_uncommitted
    {result : Except Cause α}
    (hEncloses : Encloses body)
    (hRuns : Runs (transaction body) trace result)
    (hUncommitted : ∀ answer, .asked .commit answer ∉ trace)
    (hSettled : h.connection.IsSettled)
    (hWrites : WritesAll n trace h later) :
    later.connection.permanent = h.connection.permanent := by
  rcases exists_body_of_runs hEncloses hRuns with
    ⟨before, after, rfl, hInner, hOuter⟩
  refine (hWrites.permanent ?_ hSettled.isTidy).1
  intro e hMember
  rcases List.mem_append.mp hMember with hBefore | hAfter
  · exact isLasting_of_inner (hInner e hBefore)
  · have hStatement := hOuter e hAfter
    unfold isLasting
    split
    · cases hStatement
    · exact (hUncommitted _ hMember).elim
    · rfl

------------------------------------------------------------
-- Closing the Store
------------------------------------------------------------

open Rehearsal (World)

/- To close the store makes nothing permanent. -/
theorem file_closeStore
    {w : World}
    {c : Connection}
    (hConnection : w.connection = some c)
    (hTidy : c.IsTidy)
    (hFile : w.file = c.permanent) :
    w.closeStore.file = c.permanent := by
  have hOpen : w.isOpen = true := by
    simp [World.isOpen, hConnection]
  have hClose : w.closeStore.file = w.settleStore.file := by
    simp [World.closeStore, hOpen]
  rw [hClose]
  unfold World.settleStore World.execute
  cases Rehearsal.takeFault
    (.configure "wal_checkpoint") w.faults with
  | mk isHit faults =>
  cases isHit with
  | true => simpa [hConnection] using hFile
  | false =>
      have hRun :
          c.run (.configure "wal_checkpoint") =
            (.ok (), c.after (.configure "wal_checkpoint")
              c.current) :=
        rfl
      cases hPending : c.pending with
      | true =>
          simp [hConnection, hRun, Connection.after, hPending,
            Connection.checkpoint]
      | false =>
          have hWrite :
              (Statement.configure "wal_checkpoint").isWrite =
                false := by
            decide
          simp [hConnection, hRun, Connection.after, hPending,
            hWrite, Connection.checkpoint, World.commit,
            Connection.commit, Connection.ofTables,
            hTidy hPending]

------------------------------------------------------------
-- Interrupted Transactions
------------------------------------------------------------

/-
  A statement of a transaction that is interrupted becomes
  permanent exactly if the transaction was cancelled, so that
  nothing undid it, and the first turn after it is a commit, be
  it a late one of its own or that of a later transaction. To
  close the store makes none permanent.
-/
theorem mem_kept_iff_of_interrupted
    {cause : Cause}
    {result : Except Cause α}
    {working ending : List Exchange}
    (hSettled : initial.IsSettled)
    (hEncloses : Encloses body)
    (hRun :
      Runs (transaction body) (opening ++ working ++ ending)
        result)
    (hInterrupted : Runs (work body) working (.error cause))
    (hHistory :
      Records initial
        (newer ++ (opening ++ working ++ ending) :: older) h) :
    (∀ s, (older.length, s) ∈ h.done →
      ((older.length, s) ∈ h.kept ↔
        cause = .cancelled ∧
          h.turnAfter older.length = some true)) ∧
    h.connection.permanent =
      tablesAfter initial.permanent (h.kept.map (·.2)) ∧
    ∀ w : World, w.connection = some h.connection →
      w.file = h.connection.permanent →
        w.closeStore.file = h.connection.permanent := by
  have hHolds := (holds_of_records hSettled hHistory).1
  refine ⟨?_, hHolds.permanent, ?_⟩
  · intro s hDone
    rw [hHolds.mem_kept_iff hDone]
    refine ⟨fun hTurn => ⟨?_, hTurn⟩, fun hBoth => hBoth.2⟩
    by_cases hCause : cause = .cancelled
    · exact hCause
    -- Any other interruption has undone the transaction.
    rcases hHistory.exists_older with
      ⟨after, more, hAfter, hTurns⟩
    cases hAfter with
    | cons hOlder hTransaction hWrites =>
        have hBefore := holds_of_records hSettled hOlder
        have hUndone :=
          turnAfter_of_interrupted hEncloses hRun hInterrupted
            hCause hWrites hBefore.1
            (turnAfter_of_lt hBefore.2)
        rw [turnAfter_of_append hTurns hUndone] at hTurn
        cases hTurn
  · intro w hConnection hFile
    exact file_closeStore hConnection hHolds.tidy hFile

/- A ban of some user. -/
def someBan
    (userId : Int) : Statement :=
  .putBan ⟨1, userId, 0, "reason"⟩

/- A connection to a file without bans. -/
def unbanned : Connection :=
  .ofTables { Tables.blank with created := [.bans] }

/- A statement that took effect although it was cancelled. -/
def cancelling : List Exchange :=
  [.asked (.statement (someBan 2)) (.error .cancelled)]

/- A later transaction that is committed. -/
def committed : List Exchange :=
  [
    .asked .reachStore (.ok ()),
    .asked .lockStore (.ok ()),
    .asked (.statement (someBan 3)) (.ok ()),
    .asked .commit (.ok ()),
    .asked .unlockStore (.ok ())
  ]

/- The chronicle of the two. -/
def swept : Chronicle :=
  let first := (unbanned.run (someBan 2)).2
  let second := (first.run (someBan 3)).2
  (((Chronicle.start unbanned).execute 0 (someBan 2)
    first).execute 1 (someBan 3) second).commit 1

/-
  The statement of the cancelled transaction is permanent after
  the later one.
-/
theorem swept_keeps_cancelled :
    Runs (transaction (execute (someBan 2)))
        (opening ++ cancelling ++
          [.asked .unlockStore (.ok ())])
        (.error .cancelled) ∧
      Records unbanned
        [committed,
          opening ++ cancelling ++
            [.asked .unlockStore (.ok ())]]
        swept ∧
      (0, someBan 2) ∈ swept.kept := by
  have hEncloses (userId : Int) :
      Encloses (execute (someBan userId)) :=
    encloses_of_rows
      (Requests.request fun name hSame => by cases hSame)
  have hRun :
      Runs (transaction (execute (someBan 2)))
        (opening ++ cancelling ++
          [.asked .unlockStore (.ok ())])
        (.error .cancelled) :=
    .ask _ (.ask _ (.ask _ (.ask _ (.fail _))))
  have hInterrupted :
      Runs (work (execute (someBan 2))) cancelling
        (.error .cancelled) :=
    .ask _ (.fail _)
  have hLater :
      Runs (transaction (execute (someBan 3))) committed
        (.ok ()) :=
    .ask _ (.ask _ (.ask _ (.ask _ (.ask _ (.done _)))))
  have hFirst :
      Records unbanned
        [opening ++ cancelling ++
          [.asked .unlockStore (.ok ())]]
        ((Chronicle.start unbanned).execute 0 (someBan 2)
          (unbanned.run (someBan 2)).2) :=
    .cons .nil ⟨_, _, _, hEncloses 2, hRun⟩
      (.cons (.passed rfl) (.cons (.passed rfl)
        (.cons (.executed (s := someBan 2) (a := ()) _ rfl
            (Or.inr ⟨_, rfl⟩))
          (.cons (.passed rfl) (.nil _)))))
  have hHistory :
      Records unbanned
        ([committed] ++
          [opening ++ cancelling ++
            [.asked .unlockStore (.ok ())]])
        swept :=
    .cons hFirst ⟨_, _, _, hEncloses 3, hLater⟩
      (.cons (.passed rfl) (.cons (.passed rfl)
        (.cons (.executed (s := someBan 3) (a := ()) _ rfl
            (Or.inl rfl))
          (.cons (.committed _ (Or.inl rfl))
            (.cons (.passed rfl) (.nil _))))))
  have hSettled : unbanned.IsSettled := rfl
  have hKept :=
    mem_kept_iff_of_interrupted hSettled (hEncloses 2) hRun
      hInterrupted hHistory
  refine ⟨hRun, hHistory, ?_⟩
  exact (hKept.1 (someBan 2) (by decide)).mpr
    ⟨rfl, by decide⟩

end GuildWarden.Store
