import GuildWarden.Proofs.Store.Atomicity

/-
  This file tells what becomes of statements on a connection
  while transactions run on it one after another, each of which
  may be interrupted at any of its exchanges: statements stay
  pending until a turn is taken, by their own transaction or a
  later one.

  Key definitions include:
    * `Store.Chronicle`
    * `Store.Chronicle.turnAfter`
    * `Store.Writes`
    * `Store.Records`
    * `Store.Chronicle.Tallies`
    * `Store.Chronicle.Holds`

  Main statements:
    * `Store.Chronicle.Holds.mem_kept_iff`
    * `Store.WritesAll.holds_inner`
    * `Store.WritesAll.holds_outer`
-/

namespace GuildWarden.Store

open Program

variable {trace : List Exchange}
variable {n : Nat}

------------------------------------------------------------
-- Chronicles
------------------------------------------------------------

/- A statement, with the number of its transaction. -/
abbrev Numbered :=
  Nat × Statement

/-
  A connection, the statements that took effect on it, those
  among them that are permanent and those that are pending, and
  which transactions took a turn: committed (`true`) or rolled
  back (`false`), the earliest first.
-/
structure Chronicle where
  connection : Connection
  done : List Numbered
  kept : List Numbered
  pending : List Numbered
  turns : List (Nat × Bool)

namespace Chronicle

/- Nothing has happened on a connection. -/
def start
    (c : Connection) : Chronicle where
  connection := c
  done := []
  kept := []
  pending := []
  turns := []

/- A statement took effect. -/
def execute
    (h : Chronicle)
    (n : Nat)
    (s : Statement)
    (after : Connection) : Chronicle :=
  { h with
    connection := after
    done := h.done ++ [(n, s)]
    pending := h.pending ++ [(n, s)] }

/- Pending statements are made permanent. -/
def commit
    (h : Chronicle)
    (n : Nat) : Chronicle :=
  { h with
    connection := h.connection.commit
    kept := h.kept ++ h.pending
    pending := []
    turns := h.turns ++ [(n, true)] }

/- Pending statements are undone. -/
def rollback
    (h : Chronicle)
    (n : Nat) : Chronicle :=
  { h with
    connection := h.connection.rollback
    pending := []
    turns := h.turns ++ [(n, false)] }

/- The first turn that a transaction, or a later one, took. -/
def turnAfter
    (h : Chronicle)
    (n : Nat) : Option Bool :=
  (h.turns.find? fun turn => n ≤ turn.1).map (·.2)

end Chronicle

/- The tables after statements that take effect. -/
def tablesAfter
    (t : Tables)
    (statements : List Statement) : Tables :=
  statements.foldl
    (fun t s =>
      match s.execute t with
      | .ok (_, t) => t
      | .error _ => t)
    t

------------------------------------------------------------
-- Interrupted Exchanges
------------------------------------------------------------

/- Whether an exchange concerns what is pending. -/
def isOfStore : Exchange → Bool
  | .asked (.statement _) _ => true
  | .asked .commit _ => true
  | .asked .rollback _ => true
  | .asked .openStore _ => true
  | .asked .closeStore _ => true
  | _ => false

/-
  What an exchange makes of a chronicle. A statement that is
  interrupted has taken effect or not. A commit that fails has
  not; one that is cancelled may still be carried out, and a
  rollback always is.
-/
inductive Writes
    (n : Nat) :
    Exchange → Chronicle → Chronicle → Prop where
  | executed
      {h : Chronicle}
      {s : Statement}
      {a : s.Answer}
      {after : Connection}
      (answer : Except Cause (Request.Answer (.statement s)))
      (hRun : h.connection.run s = (.ok a, after))
      (hAnswer : answer = .ok a ∨ ∃ cause, answer = .error cause) :
      Writes n (.asked (.statement s) answer) h
        (h.execute n s after)
  | failed
      {h : Chronicle}
      {s : Statement}
      {cause : Cause}
      (after : Connection)
      (hAfter :
        after = h.connection ∨ after = refuse h.connection s) :
      Writes n (.asked (.statement s) (.error cause)) h
        { h with connection := after }
  | committed
      {h : Chronicle}
      (answer : Except Cause (Request.Answer .commit))
      (hAnswer : answer = .ok () ∨ answer = .error .cancelled) :
      Writes n (.asked .commit answer) h (h.commit n)
  | uncommitted
      {h : Chronicle}
      (cause : Cause) :
      Writes n (.asked .commit (.error cause)) h h
  | rolledBack
      {h : Chronicle}
      (answer : Except Cause (Request.Answer .rollback))
      (hAnswer : answer = .ok () ∨ answer = .error .cancelled) :
      Writes n (.asked .rollback answer) h (h.rollback n)
  | passed
      {h : Chronicle}
      {e : Exchange}
      (hOther : isOfStore e = false) :
      Writes n e h h

/- What the exchanges of a transaction make of a chronicle. -/
inductive WritesAll
    (n : Nat) :
    List Exchange → Chronicle → Chronicle → Prop where
  | nil
      (h : Chronicle) :
      WritesAll n [] h h
  | cons
      {e : Exchange}
      {trace : List Exchange}
      {h between later : Chronicle}
      (hFirst : Writes n e h between)
      (hRest : WritesAll n trace between later) :
      WritesAll n (e :: trace) h later

/- Whether an exchange may stand in the body of a transaction. -/
def isInner : Exchange → Bool
  | .asked (.statement (.createTable _)) _ => false
  | .asked .commit _ => false
  | .asked .rollback _ => false
  | .asked .openStore _ => false
  | .asked .closeStore _ => false
  | _ => true

/- A body leaves the transaction around it as it is. -/
def Encloses
    {α : Type}
    (body : Program α) : Prop :=
  ∀ trace result, Runs body trace result →
    ∀ e ∈ trace, isInner e = true

/- The exchanges of a run of some transaction. -/
def IsTransaction
    (trace : List Exchange) : Prop :=
  ∃ (α : Type) (body : Program α) (result : Except Cause α),
    Encloses body ∧ Runs (transaction body) trace result

/-
  A history of a connection: transactions run one after another
  on it, the latest first, and each may be interrupted at any
  of its exchanges.
-/
inductive Records
    (initial : Connection) :
    List (List Exchange) → Chronicle → Prop where
  | nil :
      Records initial [] (.start initial)
  | cons
      {older : List (List Exchange)}
      {trace : List Exchange}
      {h later : Chronicle}
      (hOlder : Records initial older h)
      (hTransaction : IsTransaction trace)
      (hWrites : WritesAll older.length trace h later) :
      Records initial (trace :: older) later

------------------------------------------------------------
-- Turns
------------------------------------------------------------

variable {h later : Chronicle}
variable {initial : Connection}
variable {i : Nat}

/- A turn counts for a transaction that had none before. -/
theorem turnAfter_of_turns
    {isCommit : Bool}
    (hTurns : later.turns = h.turns ++ [(n, isCommit)])
    (hNumber : i ≤ n) :
    later.turnAfter i = (h.turnAfter i).or (some isCommit) := by
  unfold Chronicle.turnAfter
  rw [hTurns, List.find?_append]
  cases h.turns.find? fun turn => i ≤ turn.1 with
  | none => simp [hNumber]
  | some turn => rfl

/- Before a transaction no turn counts for it. -/
theorem turnAfter_of_lt
    (hTurns : ∀ turn ∈ h.turns, turn.1 < n) :
    h.turnAfter n = none := by
  unfold Chronicle.turnAfter
  rw [Option.map_eq_none_iff, List.find?_eq_none]
  intro turn hMember
  have hBefore := hTurns turn hMember
  simpa using hBefore

------------------------------------------------------------
-- What Holds in a History
------------------------------------------------------------

/- A connection on which a statement failed is left tidy. -/
theorem isTidy_of_failed
    {c after : Connection}
    {s : Statement}
    (hTidy : c.IsTidy)
    (hAfter : after = c ∨ after = refuse c s) :
    after.permanent = c.permanent ∧ after.IsTidy := by
  rcases hAfter with rfl | rfl
  · exact ⟨rfl, hTidy⟩
  · refine ⟨rfl, ?_⟩
    intro hIdle
    exact hTidy (Bool.or_eq_false_iff.mp hIdle).1

/-
  The tables of a chronicle are those after its statements: the
  permanent ones after the kept statements, and all after the
  pending ones, too.
-/
structure Chronicle.Tallies
    (initial : Connection)
    (h : Chronicle) : Prop where
  tidy : h.connection.IsTidy
  permanent :
    h.connection.permanent =
      tablesAfter initial.permanent (h.kept.map (·.2))
  current :
    h.connection.current =
      tablesAfter initial.permanent
        ((h.kept ++ h.pending).map (·.2))

namespace Chronicle.Tallies

theorem start
    (hSettled : initial.IsSettled) :
    Tallies initial (.start initial) where
  tidy := hSettled.isTidy
  permanent := rfl
  current := by
    rw [hSettled]
    rfl

theorem execute
    {s : Statement}
    {a : s.Answer}
    {after : Connection}
    (hTallies : Tallies initial h)
    (hOld : ∀ name, s ≠ .createTable name)
    (hRun : h.connection.run s = (.ok a, after)) :
    Tallies initial (h.execute n s after) := by
  rcases Connection.permanent_of_run hTallies.tidy hOld hRun with
    ⟨hPermanent, hTidy⟩
  rcases Connection.exists_execute_of_run hRun with
    ⟨t, hExecute, rfl⟩
  refine ⟨hTidy, hPermanent.trans hTallies.permanent, ?_⟩
  change (h.connection.after s t).current = _
  rw [Connection.current_after]
  unfold tablesAfter
  simp only [Chronicle.execute, List.map_append,
    List.foldl_append, List.map_cons, List.map_nil,
    List.foldl_cons, List.foldl_nil]
  have hCurrent := hTallies.current
  unfold tablesAfter at hCurrent
  rw [List.map_append, List.foldl_append] at hCurrent
  rw [← hCurrent, hExecute]

theorem failed
    {s : Statement}
    {after : Connection}
    (hTallies : Tallies initial h)
    (hAfter :
      after = h.connection ∨ after = refuse h.connection s) :
    Tallies initial { h with connection := after } := by
  have hKept := isTidy_of_failed hTallies.tidy hAfter
  refine ⟨hKept.2, hKept.1.trans hTallies.permanent, ?_⟩
  rcases hAfter with rfl | rfl <;> exact hTallies.current

/- After a turn nothing is pending. -/
theorem turn
    {later : Chronicle}
    (hTables :
      later.connection = .ofTables
        (tablesAfter initial.permanent
          (later.kept.map Prod.snd)))
    (hPending : later.pending = []) :
    Tallies initial later := by
  refine ⟨?_, ?_, ?_⟩
  · intro _
    rw [hTables]
    rfl
  · rw [hTables]
    rfl
  · rw [hTables, hPending, List.append_nil]
    rfl

theorem commit
    (hTallies : Tallies initial h) :
    Tallies initial (h.commit n) :=
  turn (congrArg Connection.ofTables hTallies.current) rfl

theorem rollback
    (hTallies : Tallies initial h) :
    Tallies initial (h.rollback n) :=
  turn (congrArg Connection.ofTables hTallies.permanent) rfl

end Chronicle.Tallies

/-
  A chronicle up to a transaction is right: the permanent tables
  are those after the kept statements, all are seen with the
  pending ones, and the first turn after a statement tells what
  became of it.
-/
structure Chronicle.Holds
    (initial : Connection)
    (n : Nat)
    (h : Chronicle) : Prop where
  tidy : h.connection.IsTidy
  permanent :
    h.connection.permanent =
      tablesAfter initial.permanent (h.kept.map (·.2))
  current :
    h.connection.current =
      tablesAfter initial.permanent
        ((h.kept ++ h.pending).map (·.2))
  numbered : ∀ x ∈ h.done, x.1 ≤ n
  turned : ∀ turn ∈ h.turns, turn.1 ≤ n
  kept :
    ∀ x ∈ h.kept, x ∈ h.done ∧ h.turnAfter x.1 = some true
  pending :
    ∀ x ∈ h.pending, x ∈ h.done ∧ h.turnAfter x.1 = none
  fate :
    ∀ x ∈ h.done,
      x ∈ h.kept ∨ x ∈ h.pending ∨
        h.turnAfter x.1 = some false

namespace Chronicle.Holds

theorem tallies
    (hHolds : Holds initial n h) :
    Tallies initial h :=
  ⟨hHolds.tidy, hHolds.permanent, hHolds.current⟩

theorem start
    (hSettled : initial.IsSettled) :
    Holds initial n (.start initial) where
  tidy := (Tallies.start hSettled).tidy
  permanent := (Tallies.start hSettled).permanent
  current := (Tallies.start hSettled).current
  numbered := by simp [Chronicle.start]
  turned := by simp [Chronicle.start]
  kept := by simp [Chronicle.start]
  pending := by simp [Chronicle.start]
  fate := by simp [Chronicle.start]

/- A statement is permanent exactly if a commit came first. -/
theorem mem_kept_iff
    {x : Numbered}
    (hHolds : Holds initial n h)
    (hDone : x ∈ h.done) :
    x ∈ h.kept ↔ h.turnAfter x.1 = some true := by
  refine ⟨fun hKept => (hHolds.kept x hKept).2, ?_⟩
  intro hTurn
  rcases hHolds.fate x hDone with hKept | hPending | hUndone
  · exact hKept
  · rw [(hHolds.pending x hPending).2] at hTurn
    cases hTurn
  · rw [hUndone] at hTurn
    cases hTurn

/- A statement takes effect before a turn of its transaction. -/
theorem execute
    {s : Statement}
    {a : s.Answer}
    {after : Connection}
    (hHolds : Holds initial n h)
    (hOpen : h.turnAfter n = none)
    (hOld : ∀ name, s ≠ .createTable name)
    (hRun : h.connection.run s = (.ok a, after)) :
    Holds initial n (h.execute n s after) := by
  have hTallies :=
    hHolds.tallies.execute (n := n) hOld hRun
  refine ⟨hTallies.tidy, hTallies.permanent, hTallies.current,
    ?_, hHolds.turned, ?_, ?_, ?_⟩
  · intro x hDone
    rcases List.mem_append.mp hDone with hBefore | hNew
    · exact hHolds.numbered x hBefore
    · exact Nat.le_of_eq
        (congrArg Prod.fst (List.mem_singleton.mp hNew))
  · intro x hKept
    have hKnown := hHolds.kept x hKept
    exact ⟨List.mem_append_left _ hKnown.1, hKnown.2⟩
  · intro x hPending
    rcases List.mem_append.mp hPending with hBefore | hNew
    · have hKnown := hHolds.pending x hBefore
      exact ⟨List.mem_append_left _ hKnown.1, hKnown.2⟩
    · rw [List.mem_singleton.mp hNew]
      exact ⟨List.mem_append_right _ (List.mem_singleton.mpr rfl),
        hOpen⟩
  · intro x hDone
    rcases List.mem_append.mp hDone with hBefore | hNew
    · rcases hHolds.fate x hBefore with
        hKept | hPending | hUndone
      · exact Or.inl hKept
      · exact Or.inr (Or.inl (List.mem_append_left _ hPending))
      · exact Or.inr (Or.inr hUndone)
    · exact Or.inr (Or.inl (List.mem_append_right _ hNew))

/- A statement that failed has changed no table. -/
theorem failed
    {s : Statement}
    {after : Connection}
    (hHolds : Holds initial n h)
    (hAfter :
      after = h.connection ∨ after = refuse h.connection s) :
    Holds initial n { h with connection := after } := by
  have hTallies := hHolds.tallies.failed hAfter
  exact ⟨hTallies.tidy, hTallies.permanent, hTallies.current,
    hHolds.numbered, hHolds.turned, hHolds.kept,
    hHolds.pending, hHolds.fate⟩

/- After a turn, what was pending is kept or undone. -/
theorem turn
    {isCommit : Bool}
    (hHolds : Holds initial n h)
    (hTables :
      later.connection = .ofTables
        (tablesAfter initial.permanent
          (later.kept.map Prod.snd)))
    (hDone : later.done = h.done)
    (hKept :
      later.kept =
        if isCommit then h.kept ++ h.pending else h.kept)
    (hPending : later.pending = [])
    (hTurns : later.turns = h.turns ++ [(n, isCommit)]) :
    Holds initial n later := by
  have hTurn (x : Numbered) (hBefore : x ∈ h.done) :
      later.turnAfter x.1 =
        (h.turnAfter x.1).or (some isCommit) :=
    turnAfter_of_turns hTurns (hHolds.numbered x hBefore)
  have hTallies := Tallies.turn hTables hPending
  refine ⟨hTallies.tidy, hTallies.permanent, hTallies.current,
    ?_, ?_, ?_, by simp [hPending], ?_⟩
  · rw [hDone]
    exact hHolds.numbered
  · rw [hTurns]
    intro turn hMember
    rcases List.mem_append.mp hMember with hBefore | hNew
    · exact hHolds.turned turn hBefore
    · exact Nat.le_of_eq
        (congrArg Prod.fst (List.mem_singleton.mp hNew))
  · intro x hMember
    rw [hDone]
    by_cases hBefore : x ∈ h.kept
    · have hKnown := hHolds.kept x hBefore
      rw [hTurn x hKnown.1, hKnown.2]
      exact ⟨hKnown.1, rfl⟩
    · cases isCommit with
      | false =>
          rw [hKept] at hMember
          exact (hBefore hMember).elim
      | true =>
          rw [hKept] at hMember
          have hKnown := hHolds.pending x
            ((List.mem_append.mp hMember).resolve_left hBefore)
          rw [hTurn x hKnown.1, hKnown.2]
          exact ⟨hKnown.1, rfl⟩
  · intro x hMember
    rw [hDone] at hMember
    rw [hTurn x hMember, hKept]
    -- A turn decides only on what was pending until now.
    rcases hHolds.fate x hMember with
      hBefore | hBefore | hUndone
    · cases isCommit <;> simp [hBefore]
    · rw [(hHolds.pending x hBefore).2]
      cases isCommit <;> simp [hBefore]
    · simp [hUndone]

theorem commit
    (hHolds : Holds initial n h) :
    Holds initial n (h.commit n) := by
  have hTables :=
    congrArg Connection.ofTables hHolds.current
  exact Holds.turn hHolds hTables rfl
    (if_pos rfl).symm rfl rfl

theorem rollback
    (hHolds : Holds initial n h) :
    Holds initial n (h.rollback n) := by
  have hTables :=
    congrArg Connection.ofTables hHolds.permanent
  exact Holds.turn hHolds hTables rfl
    (if_neg Bool.false_ne_true).symm rfl rfl

end Chronicle.Holds

------------------------------------------------------------
-- Steps
------------------------------------------------------------

/- Whether an exchange is a statement. -/
def isStatement : Exchange → Bool
  | .asked (.statement _) _ => true
  | _ => false

variable {e : Exchange}

/- An inner exchange takes effect while no turn was taken. -/
theorem Writes.holds_inner
    (hInner : isInner e = true)
    (hWrites : Writes n e h later)
    (hHolds : h.Holds initial n)
    (hOpen : h.turnAfter n = none) :
    later.Holds initial n ∧ later.turnAfter n = none := by
  cases hWrites with
  | executed answer hRun hAnswer =>
      refine ⟨hHolds.execute hOpen ?_ hRun, hOpen⟩
      rintro name rfl
      cases hInner
  | failed after hAfter => exact ⟨hHolds.failed hAfter, hOpen⟩
  | committed answer hAnswer => cases hInner
  | uncommitted cause => cases hInner
  | rolledBack answer hAnswer => cases hInner
  | passed hOther => exact ⟨hHolds, hOpen⟩

theorem WritesAll.holds_inner
    (hInner : ∀ e ∈ trace, isInner e = true)
    (hWrites : WritesAll n trace h later)
    (hHolds : h.Holds initial n)
    (hOpen : h.turnAfter n = none) :
    later.Holds initial n ∧ later.turnAfter n = none := by
  induction hWrites with
  | nil h => exact ⟨hHolds, hOpen⟩
  | cons hFirst hRest hInduction =>
      rw [List.forall_mem_cons] at hInner
      have hStep :=
        hFirst.holds_inner hInner.1 hHolds hOpen
      exact hInduction hInner.2 hStep.1 hStep.2

/- What does not concern the store passes. -/
theorem WritesAll.eq_of_other
    (hOther : ∀ e ∈ trace, isOfStore e = false)
    (hWrites : WritesAll n trace h later) :
    later = h := by
  induction hWrites with
  | nil h => rfl
  | cons hFirst hRest hInduction =>
      rw [List.forall_mem_cons] at hOther
      have hSame := hInduction hOther.2
      cases hFirst with
      | passed => exact hSame
      | _ => cases hOther.1

/- Whether an exchange may change the permanent tables. -/
def isLasting : Exchange → Bool
  | .asked (.statement (.createTable _)) _ => true
  | .asked .commit _ => true
  | _ => false

theorem isLasting_of_inner
    (hInner : isInner e = true) :
    isLasting e = false := by
  unfold isInner at hInner
  unfold isLasting
  split <;> simp_all

/- Any other exchange leaves the permanent tables. -/
theorem Writes.permanent
    (hPassing : isLasting e = false)
    (hWrites : Writes n e h later)
    (hTidy : h.connection.IsTidy) :
    later.connection.permanent = h.connection.permanent ∧
      later.connection.IsTidy := by
  cases hWrites with
  | executed answer hRun hAnswer =>
      refine Connection.permanent_of_run hTidy ?_ hRun
      rintro name rfl
      cases hPassing
  | failed after hAfter =>
      exact isTidy_of_failed hTidy hAfter
  | committed answer hAnswer => cases hPassing
  | uncommitted cause => cases hPassing
  | rolledBack answer hAnswer => exact ⟨rfl, fun _ => rfl⟩
  | passed hOther => exact ⟨rfl, hTidy⟩

theorem WritesAll.permanent
    (hPassing : ∀ e ∈ trace, isLasting e = false)
    (hWrites : WritesAll n trace h later)
    (hTidy : h.connection.IsTidy) :
    later.connection.permanent = h.connection.permanent ∧
      later.connection.IsTidy := by
  induction hWrites with
  | nil h => exact ⟨rfl, hTidy⟩
  | cons hFirst hRest hInduction =>
      rw [List.forall_mem_cons] at hPassing
      have hStep := hFirst.permanent hPassing.1 hTidy
      have hLater := hInduction hPassing.2 hStep.2
      exact ⟨hLater.1.trans hStep.1, hLater.2⟩

/- What is no statement at most takes a turn. -/
theorem Writes.holds_outer
    (hOuter : isStatement e = false)
    (hWrites : Writes n e h later)
    (hHolds : h.Holds initial n) :
    later.Holds initial n := by
  cases hWrites with
  | executed answer hRun hAnswer => cases hOuter
  | failed after hAfter => cases hOuter
  | committed answer hAnswer => exact hHolds.commit
  | uncommitted cause => exact hHolds
  | rolledBack answer hAnswer => exact hHolds.rollback
  | passed hOther => exact hHolds

theorem WritesAll.holds_outer
    (hOuter : ∀ e ∈ trace, isStatement e = false)
    (hWrites : WritesAll n trace h later)
    (hHolds : h.Holds initial n) :
    later.Holds initial n := by
  induction hWrites with
  | nil h => exact hHolds
  | cons hFirst hRest hInduction =>
      rw [List.forall_mem_cons] at hOuter
      exact hInduction hOuter.2
        (hFirst.holds_outer hOuter.1 hHolds)

theorem writesAll_append
    {before after : List Exchange}
    (hWrites : WritesAll n (before ++ after) h later) :
    ∃ between, WritesAll n before h between ∧
      WritesAll n after between later := by
  induction before generalizing h with
  | nil => exact ⟨h, .nil h, hWrites⟩
  | cons e before hInduction =>
      cases hWrites with
      | cons hFirst hRest =>
          rcases hInduction hRest with
            ⟨between, hBefore, hAfter⟩
          exact ⟨between, .cons hFirst hBefore, hAfter⟩

end GuildWarden.Store
