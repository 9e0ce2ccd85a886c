import GuildWarden.Proofs.Effect.Relaying
import GuildWarden.Proofs.Store.Interruption
import GuildWarden.Proofs.Store.Tags

/-
  This file tells what becomes of a statement that is executed
  in a transaction of its own, however the store answers, and
  what the end of a longer run has to do with it: a run that
  ends well has committed the statement, and one that ends ill
  has not, unless what failed is the commit or came after it.

  Key definitions include:
    * `Store.sinceCommit`
    * `Store.IsCut`
    * `Store.Fate`

  Main statements:
    * `Store.fate_of_execute`
    * `Store.Fate.before`
    * `Store.Fate.after`
-/

namespace GuildWarden.Store

open Program

variable {α : Type}
variable {s : Statement}
variable {t : Tables}
variable {made : Tables → Prop}
variable {isWell : Prop}
variable {trace : List Exchange}
variable {n : Nat}
variable {h later : Chronicle}

------------------------------------------------------------
-- Exchanges
------------------------------------------------------------

def isCommit : Exchange → Bool
  | .asked .commit _ => true
  | _ => false

/- What is exchanged from the first commit on. -/
def sinceCommit
    (trace : List Exchange) : List Exchange :=
  trace.dropWhile fun e => !isCommit e

def isCut : Exchange → Bool
  | .asked (.statement _) (.error .cancelled) => true
  | .asked .commit (.error .cancelled) => true
  | _ => false

/- A statement or a commit was cancelled. -/
def IsCut
    (trace : List Exchange) : Prop :=
  ∃ e ∈ trace, isCut e = true

/-
  What has become of a change that a transaction was to make to
  some tables, when a run is over that has ended well or not.
  Once it is committed it is made, whatever comes then; before
  that nothing is permanent, and what is seen is changed only
  if the transaction was cut off.
-/
structure Fate
    (made : Tables → Prop)
    (t : Tables)
    (n : Nat)
    (isWell : Prop)
    (trace : List Exchange)
    (later : Chronicle) : Prop where
  well :
    isWell →
      (n, true) ∈ later.turns ∧
        ¬ IsRefused (sinceCommit trace)
  ill :
    ¬ isWell → (n, true) ∈ later.turns →
      IsRefused (sinceCommit trace) ∨
        later.connection.permanent = t
  kept :
    (n, true) ∈ later.turns →
      (∃ e ∈ trace, isCommit e = true) ∧
        made later.connection.permanent ∧
          later.connection.IsSettled
  left :
    (n, true) ∉ later.turns →
      later.connection.permanent = t ∧
        (later.connection.current = t ∨
          made later.connection.current ∧ IsCut trace)

------------------------------------------------------------
-- Longer Runs
------------------------------------------------------------

theorem isRefused_append_iff
    {before after : List Exchange} :
    IsRefused (before ++ after) ↔
      IsRefused before ∨ IsRefused after := by
  simp only [IsRefused, List.mem_append, exists_or]

theorem not_isRefused_nil :
    ¬ IsRefused [] := by
  rintro ⟨r, cause, hMember⟩
  cases hMember

/- A request that is answered is not refused. -/
theorem isRefused_cons_ok_iff
    {r : Request}
    {a : r.Answer} :
    IsRefused (.asked r (.ok a) :: trace) ↔ IsRefused trace := by
  constructor
  · rintro ⟨r', cause, hMember⟩
    rcases List.mem_cons.mp hMember with hSame | hLater
    · cases hSame
    · exact ⟨r', cause, hLater⟩
  · rintro ⟨r', cause, hMember⟩
    exact ⟨r', cause, List.mem_cons_of_mem _ hMember⟩

theorem isCommit_of_other
    {e : Exchange}
    (hOther : isOfStore e = false) :
    isCommit e = false := by
  unfold isCommit
  split
  · cases hOther
  · rfl

/- What comes before the first commit does not count. -/
theorem sinceCommit_append_of_none
    {before : List Exchange}
    (hNone : ∀ e ∈ before, isCommit e = false) :
    sinceCommit (before ++ trace) = sinceCommit trace := by
  unfold sinceCommit
  refine List.dropWhile_append_of_pos ?_
  intro e hMember
  rw [hNone e hMember]
  rfl

theorem sinceCommit_append
    {after : List Exchange}
    (hCommit : ∃ e ∈ trace, isCommit e = true) :
    sinceCommit (trace ++ after) = sinceCommit trace ++ after := by
  unfold sinceCommit
  induction trace with
  | nil => simp at hCommit
  | cons e trace hInduction =>
      cases hFirst : isCommit e with
      | true => simp [hFirst]
      | false =>
          have hLater : ∃ e ∈ trace, isCommit e = true := by
            simpa [hFirst] using hCommit
          simpa [hFirst] using hInduction hLater

/- What is part of a longer run is cut off in it, too. -/
theorem IsCut.mono
    {longer : List Exchange}
    (hCut : IsCut trace)
    (hPart : trace ⊆ longer) :
    IsCut longer := by
  rcases hCut with ⟨e, hMember, hCut⟩
  exact ⟨e, hPart hMember, hCut⟩

namespace Fate

theorem mono
    {made' : Tables → Prop}
    (hFate : Fate made t n isWell trace later)
    (hMade : ∀ t', made t' → made' t') :
    Fate made' t n isWell trace later where
  well := hFate.well
  ill := hFate.ill
  kept hTurn := by
    rcases hFate.kept hTurn with ⟨hCommit, hDone, hSettled⟩
    exact ⟨hCommit, hMade _ hDone, hSettled⟩
  left hNone := by
    rcases hFate.left hNone with ⟨hPermanent, hSeen⟩
    exact ⟨hPermanent,
      hSeen.imp_right fun hBoth => ⟨hMade _ hBoth.1, hBoth.2⟩⟩

/- Without a commit nothing is permanent, and the run ends ill. -/
theorem of_uncommitted
    (hNone : (n, true) ∉ later.turns)
    (hIll : ¬ isWell)
    (hPermanent : later.connection.permanent = t)
    (hSeen :
      later.connection.current = t ∨
        made later.connection.current ∧ IsCut trace) :
    Fate made t n isWell trace later where
  well hWell := (hIll hWell).elim
  ill _ hTurn := (hNone hTurn).elim
  kept hTurn := (hNone hTurn).elim
  left _ := ⟨hPermanent, hSeen⟩

/- Tables that are settled as they were have not been changed. -/
theorem of_untouched
    (hNone : (n, true) ∉ later.turns)
    (hIll : ¬ isWell)
    (hSame : later.connection = .ofTables t) :
    Fate made t n isWell trace later := by
  refine of_uncommitted hNone hIll ?_ (Or.inl ?_)
  · rw [hSame]
    rfl
  · rw [hSame]
    rfl

/- What comes before the transaction has no part in it. -/
theorem before
    {before : List Exchange}
    (hNone : ∀ e ∈ before, isCommit e = false)
    (hFate : Fate made t n isWell trace later) :
    Fate made t n isWell (before ++ trace) later := by
  have hSince :
      sinceCommit (before ++ trace) = sinceCommit trace :=
    sinceCommit_append_of_none hNone
  refine ⟨?_, ?_, ?_, ?_⟩
  · rw [hSince]
    exact hFate.well
  · rw [hSince]
    exact hFate.ill
  · intro hTurn
    rcases hFate.kept hTurn with ⟨⟨e, hMember, hCommit⟩, hDone⟩
    exact ⟨⟨e, List.mem_append_right _ hMember, hCommit⟩, hDone⟩
  · intro hTurn
    rcases hFate.left hTurn with ⟨hPermanent, hSeen⟩
    refine ⟨hPermanent, hSeen.imp_right ?_⟩
    exact fun hBoth =>
      ⟨hBoth.1, hBoth.2.mono (List.subset_append_right _ _)⟩

/-
  What follows the transaction leaves the tables alone; a run
  ends well only if nothing in it is refused.
-/
theorem after
    {isWell' : Prop}
    {after : List Exchange}
    (hWell : isWell' ↔ isWell ∧ ¬ IsRefused after)
    (hFate : Fate made t n isWell trace later) :
    Fate made t n isWell' (trace ++ after) later := by
  refine ⟨?_, ?_, ?_, ?_⟩
  · intro hEnd
    rcases hWell.mp hEnd with ⟨hEnd, hAfter⟩
    rcases hFate.well hEnd with ⟨hTurn, hSince⟩
    refine ⟨hTurn, ?_⟩
    rw [sinceCommit_append (hFate.kept hTurn).1,
      isRefused_append_iff]
    exact not_or.mpr ⟨hSince, hAfter⟩
  · intro hEnd hTurn
    rw [sinceCommit_append (hFate.kept hTurn).1,
      isRefused_append_iff]
    by_cases hAfter : IsRefused after
    · exact Or.inl (Or.inr hAfter)
    · have hIll : ¬ isWell :=
        fun hBefore => hEnd (hWell.mpr ⟨hBefore, hAfter⟩)
      exact (hFate.ill hIll hTurn).imp_left Or.inl
  · intro hTurn
    rcases hFate.kept hTurn with ⟨⟨e, hMember, hCommit⟩, hDone⟩
    exact ⟨⟨e, List.mem_append_left _ hMember, hCommit⟩, hDone⟩
  · intro hTurn
    rcases hFate.left hTurn with ⟨hPermanent, hSeen⟩
    refine ⟨hPermanent, hSeen.imp_right ?_⟩
    exact fun hBoth =>
      ⟨hBoth.1, hBoth.2.mono (List.subset_append_left _ _)⟩

end Fate

------------------------------------------------------------
-- Reading
------------------------------------------------------------

/- Whether an exchange at most reads from the store. -/
def isReading : Exchange → Bool
  | .asked (.statement s) _ => s.verb == "SELECT"
  | e => !isOfStore e

theorem isCommit_of_reading
    {e : Exchange}
    (hReading : isReading e = true) :
    isCommit e = false := by
  unfold isCommit
  split
  · cases hReading
  · rfl

/- A statement that selects neither writes nor makes a table. -/
theorem Statement.isWrite_of_selects
    (hSelects : s.verb = "SELECT") :
    s.isWrite = false ∧ ∀ name, s ≠ .createTable name := by
  refine ⟨by simp [isWrite, hSelects], ?_⟩
  rintro name rfl
  simp [verb] at hSelects

/- What is read from a settled connection leaves it. -/
theorem Writes.eq_of_reading
    {e : Exchange}
    (hReading : isReading e = true)
    (hSettled : h.connection.IsSettled)
    (hWrites : Writes n e h later) :
    later.connection = h.connection ∧ later.turns = h.turns := by
  cases hWrites with
  | executed answer hRun hAnswer =>
      have hSelects := Statement.isWrite_of_selects
        (by simpa [isReading] using hReading)
      exact ⟨(hSettled.run_read hSelects.1 hSelects.2 hRun).2,
        rfl⟩
  | failed after hAfter =>
      have hSelects := Statement.isWrite_of_selects
        (by simpa [isReading] using hReading)
      refine ⟨?_, rfl⟩
      rcases hAfter with rfl | rfl
      · rfl
      · simp [refuse, hSelects.1]
  | committed => cases hReading
  | uncommitted => cases hReading
  | rolledBack => cases hReading
  | passed => exact ⟨rfl, rfl⟩

theorem WritesAll.eq_of_reading
    (hReading : ∀ e ∈ trace, isReading e = true)
    (hSettled : h.connection.IsSettled)
    (hWrites : WritesAll n trace h later) :
    later.connection = h.connection ∧ later.turns = h.turns := by
  induction hWrites with
  | nil h => exact ⟨rfl, rfl⟩
  | cons hFirst hRest hInduction =>
      rw [List.forall_mem_cons] at hReading
      rcases hFirst.eq_of_reading hReading.1 hSettled with
        ⟨hSame, hTurns⟩
      rw [← hSame] at hSettled
      rcases hInduction hReading.2 hSettled with
        ⟨hSame', hTurns'⟩
      exact ⟨hSame'.trans hSame, hTurns'.trans hTurns⟩

------------------------------------------------------------
-- One Statement
------------------------------------------------------------

/- What a statement of a transaction may have done. -/
theorem Writes.of_statement
    {answer : Except Cause (Request.Answer (.statement s))}
    (hOld : ∀ name, s ≠ .createTable name)
    (hStart : h.connection = .ofTables t)
    (hWrites : Writes n (.asked (.statement s) answer) h later) :
    later.turns = h.turns ∧
      later.connection.permanent = t ∧
        (later.connection.current = t ∧
            (∃ cause, answer = .error cause) ∨
          ∃ a, s.effect t = .ok (a, later.connection.current) ∧
            (answer = .ok a ∨ ∃ cause, answer = .error cause)) := by
  have hTidy : h.connection.IsTidy := by
    rw [hStart]
    exact fun _ => rfl
  have hPermanent : h.connection.permanent = t := by
    rw [hStart]
    rfl
  have hCurrent : h.connection.current = t := by
    rw [hStart]
    rfl
  cases hWrites with
  | executed _ hRun hAnswer =>
      refine ⟨rfl, ?_, Or.inr ⟨_, ?_, hAnswer⟩⟩
      · exact (Connection.permanent_of_run hTidy hOld hRun).1.trans
          hPermanent
      · rw [← hCurrent]
        exact Connection.effect_of_run hRun
  | failed after hAfter =>
      refine ⟨rfl, ?_, Or.inl ⟨?_, _, rfl⟩⟩
      · exact (isTidy_of_failed hTidy hAfter).1.trans hPermanent
      · rcases hAfter with rfl | rfl <;> exact hCurrent
  | passed hOther => cases hOther

/- The work of a transaction of one statement. -/
theorem runs_work_execute
    {outcome : Except Cause s.Answer}
    (hRuns : Runs (work (execute s)) trace outcome) :
    (∃ cause, outcome = .error cause ∧
      trace = [.asked (.statement s) (.error cause)]) ∨
    ∃ a answer, outcome = answer.map (fun _ => a) ∧
      trace =
        [.asked (.statement s) (.ok a),
          .asked .commit answer] := by
  cases hRuns with
  | ask executed hRest =>
  cases executed with
  | error cause =>
      rcases runs_fail_iff.mp hRest with ⟨rfl, rfl⟩
      exact Or.inl ⟨cause, rfl, rfl⟩
  | ok a =>
      cases hRest with
      | ask answer hDone =>
      refine Or.inr ⟨a, answer, ?_⟩
      cases answer with
      | error cause =>
          rcases runs_fail_iff.mp hDone with ⟨rfl, rfl⟩
          exact ⟨rfl, rfl⟩
      | ok _ =>
          rcases runs_done_iff.mp hDone with ⟨rfl, rfl⟩
          exact ⟨rfl, rfl⟩

/- A transaction that ends well has done its work well. -/
theorem runs_closing_ok
    {outcome : Except Cause α}
    {a : α}
    (hRuns : Runs (closing outcome) trace (.ok a)) :
    outcome = .ok a ∧ trace = [.asked .unlockStore (.ok ())] := by
  rcases exists_runs_of_attempt_bind hRuns with
    ⟨before, undone, after, rfl, hUndone, hRest⟩
  rcases runs_bind_ok_iff.mp hRest with
    ⟨unlocking, _, rest, rfl, hUnlock, hSettle⟩
  rcases runs_settle_iff.mp hSettle with ⟨rfl, rfl⟩
  rw [runs_request_iff.mp hUnlock]
  cases outcome with
  | ok a' =>
      rcases runs_done_iff.mp hUndone with ⟨rfl, hSame⟩
      exact ⟨hSame.symm, rfl⟩
  | error cause =>
      change
        Runs (if cause ≠ .cancelled then _ else _) _ _ at hUndone
      split at hUndone
      · rcases runs_bind_ok_iff.mp hUndone with
          ⟨_, _, _, _, _, hFail⟩
        cases hFail
      · cases hUndone

/- It is undone when its work has failed but is not cancelled. -/
theorem writesAll_closing
    {outcome result : Except Cause α}
    (hRuns : Runs (closing outcome) trace result)
    (hWrites : WritesAll n trace h later) :
    (later = h.rollback n ∧
      ∃ cause, outcome = .error cause ∧ cause ≠ .cancelled) ∨
    (later = h ∧
      (∀ cause, outcome = .error cause → cause = .cancelled) ∧
        (IsRefused trace ∨ result = outcome)) := by
  by_cases hLeft :
      ∀ cause, outcome = .error cause → cause = .cancelled
  · rcases runs_closing_of_left hLeft hRuns with
      ⟨last, rfl, hResult⟩
    refine Or.inr
      ⟨hWrites.eq_of_other (by simp [isOfStore]), hLeft, ?_⟩
    cases last with
    | ok _ => exact Or.inr (hResult rfl)
    | error cause => exact Or.inl ⟨_, cause, List.mem_cons_self⟩
  · rcases Classical.not_forall.mp hLeft with ⟨cause, hLeft⟩
    rcases Classical.not_imp.mp hLeft with ⟨rfl, hCause⟩
    rcases runs_closing_of_failed hCause hRuns with
      ⟨answer, last, rfl⟩
    refine Or.inl ⟨?_, cause, rfl, hCause⟩
    rcases hWrites with _ | ⟨hRollback, hUnlock⟩
    rw [hUnlock.eq_of_other (by simp [isOfStore])]
    cases hRollback with
    | rolledBack => rfl
    | passed hOther => cases hOther

/- A transaction that ends well has asked for its commit. -/
theorem exists_commit_of_ok
    {body : Program α}
    {a : α}
    (hRuns : Runs (transaction body) trace (.ok a)) :
    ∃ answer, .asked .commit answer ∈ trace := by
  rw [transaction_eq] at hRuns
  rcases runs_bind_ok_iff.mp hRuns with
    ⟨_, _, _, rfl, _, hReached⟩
  rcases runs_bind_ok_iff.mp hReached with
    ⟨_, _, _, rfl, _, hLocked⟩
  rcases exists_runs_of_attempt_bind hLocked with
    ⟨working, outcome, ending, rfl, hWork, hClosing⟩
  rcases runs_closing_ok hClosing with ⟨rfl, _⟩
  rcases exists_inner_of_work hWork with
    ⟨_, _, _, ⟨_, _, hError⟩ | ⟨answer, rfl, _⟩⟩
  · cases hError
  · exact ⟨answer, by simp⟩

variable {executed between : Chronicle}
variable {result : Except Cause s.Answer}

/- A statement that was refused is undone, unless it was cut off. -/
theorem fate_of_refused
    {cause : Cause}
    {ending : List Exchange}
    (hOld : ∀ name, s ≠ .createTable name)
    (hStart : h.connection = .ofTables t)
    (hNone : (n, true) ∉ h.turns)
    (hExecuted :
      Writes n (.asked (.statement s) (.error cause)) h between)
    (hClosing :
      Runs (closing (.error cause : Except Cause s.Answer)) ending
        result)
    (hEnding : WritesAll n ending between later) :
    Fate (fun t' => ∃ a, s.effect t = .ok (a, t')) t n
      (∃ a, result = .ok a)
      (.asked (.statement s) (.error cause) :: ending) later := by
  have hIll : ¬ ∃ a, result = .ok a := by
    rintro ⟨a, rfl⟩
    cases (runs_closing_ok hClosing).1
  rcases hExecuted.of_statement hOld hStart with
    ⟨hTurns, hPermanent, hSeen⟩
  rw [← hTurns] at hNone
  rcases writesAll_closing hClosing hEnding with
    ⟨rfl, _⟩ | ⟨rfl, hCancelled, _⟩
  · refine .of_untouched ?_ hIll
      (congrArg Connection.ofTables hPermanent)
    simpa [Chronicle.rollback] using hNone
  · cases hCancelled cause rfl
    refine .of_uncommitted hNone hIll hPermanent ?_
    refine hSeen.imp And.left ?_
    rintro ⟨a, hEffect, _⟩
    exact ⟨⟨a, hEffect⟩, _, List.mem_cons_self, rfl⟩

/- A statement that was answered is made permanent by a commit. -/
theorem fate_of_answered
    {a : s.Answer}
    {answer : Except Cause (Request.Answer .commit)}
    {ending : List Exchange}
    (hOld : ∀ name, s ≠ .createTable name)
    (hStart : h.connection = .ofTables t)
    (hNone : (n, true) ∉ h.turns)
    (hExecuted :
      Writes n (.asked (.statement s) (.ok a)) h executed)
    (hCommit : Writes n (.asked .commit answer) executed between)
    (hClosing :
      Runs (closing (answer.map fun _ => a)) ending result)
    (hEnding : WritesAll n ending between later) :
    Fate (fun t' => s.effect t = .ok (a, t')) t n
      (result = .ok a)
      ([.asked (.statement s) (.ok a), .asked .commit answer] ++
        ending)
      later := by
  have hSince :
      sinceCommit
          ([.asked (.statement s) (.ok a),
            .asked .commit answer] ++ ending) =
        .asked .commit answer :: ending :=
    rfl
  rcases hExecuted.of_statement hOld hStart with
    ⟨hTurns, hPermanent, ⟨_, _, hError⟩ | ⟨a', hEffect, hSame⟩⟩
  · cases hError
  have hAnswer : a' = a := by
    rcases hSame with hSame | ⟨_, hError⟩
    · exact (Except.ok.inj hSame).symm
    · cases hError
  subst hAnswer
  rw [← hTurns] at hNone
  cases hCommit with
  | committed _ hCarried =>
      have hTurn :
          (n, true) ∈ (executed.commit n).turns :=
        List.mem_append_right _ List.mem_cons_self
      rcases writesAll_closing hClosing hEnding with
        ⟨_, cause, hCause, hOther⟩ | ⟨rfl, _, hResult⟩
      · -- A commit that was carried out has not failed.
        rcases hCarried with rfl | rfl
        · cases hCause
        · cases hCause
          exact (hOther rfl).elim
      refine ⟨?_, ?_, ?_, fun hNot => (hNot hTurn).elim⟩
      · rintro rfl
        rcases runs_closing_ok hClosing with ⟨hOk, rfl⟩
        refine ⟨hTurn, ?_⟩
        rcases hCarried with rfl | rfl
        · rw [hSince]
          intro hRefused
          exact not_isRefused_nil (isRefused_cons_ok_iff.mp
            (isRefused_cons_ok_iff.mp hRefused))
        · cases hOk
      · intro hIll _
        rw [hSince]
        refine Or.inl ?_
        rcases hCarried with rfl | rfl
        · have hRefused := hResult.resolve_right hIll
          rcases hRefused with ⟨r, cause, hMember⟩
          exact ⟨r, cause, List.mem_cons_of_mem _ hMember⟩
        · exact ⟨_, _, List.mem_cons_self⟩
      · intro _
        exact ⟨⟨_, List.mem_cons_of_mem _ List.mem_cons_self,
          rfl⟩, hEffect, rfl⟩
  | uncommitted cause =>
      have hIll : result ≠ .ok a' := by
        rintro rfl
        cases (runs_closing_ok hClosing).1
      rcases writesAll_closing hClosing hEnding with
        ⟨rfl, _⟩ | ⟨rfl, hCancelled, _⟩
      · refine .of_untouched ?_ hIll
          (congrArg Connection.ofTables hPermanent)
        simpa [Chronicle.rollback] using hNone
      · cases hCancelled cause rfl
        exact .of_uncommitted hNone hIll hPermanent
          (Or.inr ⟨hEffect, _,
            List.mem_cons_of_mem _ List.mem_cons_self, rfl⟩)
  | passed hOther => cases hOther

/-
  What becomes of a statement in a transaction of its own. The
  transaction ends well only with the answer of the statement.
-/
theorem fate_of_execute
    (hOld : ∀ name, s ≠ .createTable name)
    (hRuns : Runs (transaction (execute s)) trace result)
    (hStart : h.connection = .ofTables t)
    (hNone : (n, true) ∉ h.turns)
    (hWrites : WritesAll n trace h later) :
    Fate (fun t' => ∃ a, s.effect t = .ok (a, t')) t n
        (∃ a, result = .ok a) trace later ∧
      ∀ a, result = .ok a →
        ∃ t', s.effect t = .ok (a, t') := by
  rcases runs_transaction_cases hRuns with
    hOther | ⟨working, outcome, ending, rfl, hWork, hClosing⟩
  · have hSame := hWrites.eq_of_other hOther
    have hIll (a : s.Answer) : result ≠ .ok a := by
      rintro rfl
      rcases exists_commit_of_ok hRuns with ⟨answer, hCommit⟩
      cases hOther _ hCommit
    rw [hSame]
    exact ⟨.of_untouched hNone (fun ⟨a, hOk⟩ => hIll a hOk) hStart,
      fun a hOk => (hIll a hOk).elim⟩
  rcases writesAll_append hWrites with
    ⟨worked, hWritten, hEnding⟩
  rcases writesAll_append hWritten with
    ⟨opened, hOpening, hWorking⟩
  have hOpened : opened = h :=
    hOpening.eq_of_other (by simp [opening, isOfStore])
  subst hOpened
  have hResult (a : s.Answer) (hOk : result = .ok a) :
      outcome = .ok a := by
    rw [hOk] at hClosing
    exact (runs_closing_ok hClosing).1
  have hBefore : ∀ e ∈ opening, isCommit e = false := by
    simp [opening, isCommit]
  rw [List.append_assoc]
  rcases runs_work_execute hWork with
    ⟨cause, rfl, rfl⟩ | ⟨a, answer, rfl, rfl⟩
  · rcases hWorking with _ | ⟨hExecuted, ⟨⟩⟩
    refine ⟨(fate_of_refused hOld hStart hNone hExecuted hClosing
      hEnding).before hBefore, ?_⟩
    intro a hOk
    cases hResult a hOk
  · rcases hWorking with _ | ⟨hExecuted, _ | ⟨hCommit, ⟨⟩⟩⟩
    have hFate :=
      fate_of_answered hOld hStart hNone hExecuted hCommit hClosing
        hEnding
    have hOnly : (∃ a', result = .ok a') ↔ result = .ok a := by
      refine ⟨?_, fun hOk => ⟨a, hOk⟩⟩
      rintro ⟨a', hOk⟩
      have hSame := hResult a' hOk
      cases answer with
      | ok _ =>
          cases hSame
          exact hOk
      | error _ => cases hSame
    refine ⟨?_, ?_⟩
    · rw [hOnly]
      exact (hFate.before hBefore).mono fun t' hDone => ⟨a, hDone⟩
    · intro a' hOk
      have hSame := hOnly.mp ⟨a', hOk⟩
      cases hOk.symm.trans hSame
      exact ⟨_, (hFate.kept (hFate.well hSame).1).2.1⟩

end GuildWarden.Store
