import GuildWarden.Cause
import GuildWarden.Effect.Program
import Mathlib.Data.List.Forall2

/-
  This file describes what a program may do. A run is a list
  of what the program saw in the memory and what it asked for
  and was answered; the memory may be any at each look and the
  answer any at each request, since other programs and the
  outside go on meanwhile. Before that come attempts, which ask
  for nothing: one after another, or one for each member of a
  list.

  Key definitions include:
    * `Cause.FailsBy`
    * `Program.Exchange`
    * `Program.Runs`
    * `Program.Only`

  Main statements:
    * `Cause.bind_eq_ok_iff`
    * `Cause.mapM_eq_error_iff`
    * `Cause.mapM_eq_ok_iff`
    * `Cause.exists_mapM_iff`
    * `Cause.mem_mapM_iff`
    * `Program.bind_assoc`
    * `Program.attempt_bind`
    * `Program.within_eq_ite`
    * `Program.runs_bind_iff`
    * `Program.runs_attempt_iff`
    * `Program.runs_bind_settle_iff`
    * `Program.runs_handling_iff`
    * `Program.runs_of_bind`
    * `Program.runs_of_attempt_bind`
    * `Program.Only.of_runs`
-/

namespace GuildWarden.Cause

variable {α β : Type}

/- What is done in two parts succeeds if both of them do. -/
theorem bind_eq_ok_iff
    {first : Except Cause α}
    {next : α → Except Cause β}
    {b : β} :
    first >>= next = .ok b ↔
      ∃ a, first = .ok a ∧ next a = .ok b := by
  cases first with
  | error cause =>
      constructor
      · intro hDone
        cases hDone
      · rintro ⟨a, hFirst, _⟩
        cases hFirst
  | ok a =>
      constructor
      · exact fun hDone => ⟨a, rfl, hDone⟩
      · rintro ⟨_, hFirst, hDone⟩
        cases hFirst
        exact hDone

/- The members of a list are read one by one until one fails. -/
theorem mapM_eq_error_iff
    {read : α → Except Cause β}
    {snag? : α → Option Cause}
    (hSnag : ∀ a cause,
      read a = .error cause ↔ snag? a = some cause)
    {items : List α}
    {cause : Cause} :
    items.mapM read = .error cause ↔
      items.findSome? snag? = some cause := by
  induction items with
  | nil =>
      rw [List.mapM_nil, List.findSome?_nil]
      constructor <;>
      · intro hFails
        cases hFails
  | cons item items hInduction =>
      rw [List.mapM_cons, List.findSome?_cons]
      cases hRead : read item with
      | error failure =>
          rw [(hSnag item failure).mp hRead]
          change
            (Except.error failure : Except Cause (List β)) =
              .error cause ↔ some failure = some cause
          rw [Except.error.injEq, Option.some.injEq]
      | ok b =>
          have hNone : snag? item = none := by
            cases hFound : snag? item with
            | none => rfl
            | some failure =>
                rw [(hSnag item failure).mpr hFound] at hRead
                cases hRead
          rw [hNone, ← hInduction]
          cases items.mapM read with
          | error failure => rfl
          | ok bs =>
              constructor <;>
              · intro hFails
                cases hFails

/- Members that are all read are read in their order. -/
theorem mapM_eq_ok_iff
    {read : α → Except Cause β}
    {items : List α}
    {bs : List β} :
    items.mapM read = .ok bs ↔
      List.Forall₂ (fun a b => read a = .ok b) items bs := by
  constructor
  · intro hRead
    induction items generalizing bs with
    | nil =>
        rw [List.mapM_nil] at hRead
        cases hRead
        exact .nil
    | cons item items hInduction =>
        rw [List.mapM_cons] at hRead
        rcases bind_eq_ok_iff.mp hRead with
          ⟨b, hFirst, hLater⟩
        rcases bind_eq_ok_iff.mp hLater with
          ⟨rest, hRest, hDone⟩
        cases hDone
        exact .cons hFirst (hInduction hRest)
  · intro hEach
    induction hEach with
    | nil => rfl
    | cons hFirst _ hInduction =>
        rw [List.mapM_cons, hFirst, hInduction]
        rfl

/- All members are read if each of them can be. -/
theorem exists_mapM_iff
    {read : α → Except Cause β}
    {items : List α} :
    (∃ bs, items.mapM read = .ok bs) ↔
      ∀ a ∈ items, ∃ b, read a = .ok b := by
  simp only [mapM_eq_ok_iff]
  induction items with
  | nil =>
      simp only [List.forall₂_nil_left_iff, exists_eq,
        List.not_mem_nil, false_implies, implies_true]
  | cons item items hInduction =>
      rw [List.forall_mem_cons, ← hInduction]
      constructor
      · rintro ⟨_, hEach⟩
        cases hEach with
        | cons hFirst hRest => exact ⟨⟨_, hFirst⟩, _, hRest⟩
      · rintro ⟨⟨b, hFirst⟩, bs, hRest⟩
        exact ⟨b :: bs, .cons hFirst hRest⟩

/- What is read from a list is read from one of its members. -/
theorem mem_mapM_iff
    {read : α → Except Cause β}
    {items : List α}
    {bs : List β}
    {b : β}
    (hRead : items.mapM read = .ok bs) :
    b ∈ bs ↔ ∃ a ∈ items, read a = .ok b := by
  induction mapM_eq_ok_iff.mp hRead with
  | nil => simp only [List.not_mem_nil, false_and, exists_false]
  | cons hFirst hRest hInduction =>
      rw [List.mem_cons, List.exists_mem_cons_iff, hFirst,
        hInduction (mapM_eq_ok_iff.mpr hRest), Except.ok.injEq,
        eq_comm]

------------------------------------------------------------
-- Failures
------------------------------------------------------------

/- An attempt that only fails with certain causes. -/
def FailsBy
    (P : Cause → Prop)
    (attempt : Except Cause α) : Prop :=
  ∀ cause, attempt = .error cause → P cause

variable {P : Cause → Prop}

theorem failsBy_ok
    (a : α) : FailsBy P (.ok a) :=
  nofun

theorem failsBy_error
    {cause : Cause}
    (hCause : P cause) :
    FailsBy P (.error cause : Except Cause α) := by
  rintro _ ⟨⟩
  exact hCause

theorem failsBy_map
    {attempt : Except Cause α}
    (f : α → β)
    (hAttempt : FailsBy P attempt) :
    FailsBy P (attempt.map f) := by
  cases attempt with
  | error cause => exact failsBy_error (hAttempt cause rfl)
  | ok a => exact failsBy_ok (f a)

theorem failsBy_bind
    {first : Except Cause α}
    {next : α → Except Cause β}
    (hFirst : FailsBy P first)
    (hNext : ∀ a, FailsBy P (next a)) :
    FailsBy P (first >>= next) := by
  cases first with
  | error cause => exact failsBy_error (hFirst cause rfl)
  | ok a => exact hNext a

theorem failsBy_mapM
    {read : α → Except Cause β}
    (hRead : ∀ a, FailsBy P (read a))
    (items : List α) :
    FailsBy P (items.mapM read) := by
  induction items with
  | nil => exact failsBy_ok []
  | cons item items hInduction =>
      rw [List.mapM_cons]
      exact failsBy_bind (hRead item) fun b =>
        failsBy_bind hInduction fun bs => failsBy_ok (b :: bs)

end GuildWarden.Cause

namespace GuildWarden.Program

variable {α β γ : Type}

------------------------------------------------------------
-- Laws
------------------------------------------------------------

theorem pure_eq
    (a : α) :
    (pure a : Program α) = .done a :=
  rfl

theorem bind_eq
    (p : Program α)
    (f : α → Program β) :
    p >>= f = p.bind f :=
  rfl

theorem throw_eq
    (cause : Cause) :
    (throw cause : Program α) = .fail cause :=
  rfl

theorem bind_done
    (p : Program α) :
    p.bind .done = p := by
  induction p with
  | done a => rfl
  | fail cause => rfl
  | access change next hInduction =>
      simp only [bind, hInduction]
  | ask r next hInduction =>
      simp only [bind, hInduction]

theorem bind_assoc
    (p : Program α)
    (f : α → Program β)
    (g : β → Program γ) :
    (p.bind f).bind g = p.bind fun a => (f a).bind g := by
  induction p with
  | done a => rfl
  | fail cause => rfl
  | access change next hInduction =>
      simp only [bind, hInduction]
  | ask r next hInduction =>
      simp only [bind, hInduction]

/- A program that goes on is attempted in two parts. -/
theorem attempt_bind
    (p : Program α)
    (f : α → Program β) :
    (p.bind f).attempt =
      p.attempt.bind fun
        | .ok a => (f a).attempt
        | .error cause => .done (.error cause) := by
  induction p with
  | done a => rfl
  | fail cause => rfl
  | access change next hInduction =>
      simp only [bind, attempt, hInduction]
  | ask r next hInduction =>
      simp only [bind, attempt, hInduction]

/- An attempt does not fail, and so may be attempted again. -/
theorem attempt_attempt
    (p : Program α) :
    p.attempt.attempt = p.attempt.bind (.done ∘ .ok) := by
  induction p with
  | done a => rfl
  | fail cause => rfl
  | access change next hInduction =>
      simp only [bind, attempt, hInduction]
  | ask r next hInduction =>
      simp only [bind, attempt, hInduction]

/- What is settled is attempted without a request. -/
theorem attempt_settle
    (result : Except Cause α) :
    (settle result).attempt = .done result := by
  cases result <;> rfl

------------------------------------------------------------
-- Timers
------------------------------------------------------------

/- Whether there is no time at all. -/
def isHopeless : Span → Bool
  | .seconds n => n ≤ 0
  | .endless => false

/- A program that was cancelled when its time expired. -/
def expire
    (result : Except Cause α)
    (expired : Bool) : Except Cause α :=
  match result with
  | .error .cancelled =>
    .error (if expired then .timedOut else .cancelled)
  | result => result

/- What it is to run within a time. -/
theorem within_eq_ite
    (span : Span)
    (p : Program α) :
    within span p =
      if isHopeless span then .fail .timedOut
      else
        (request (.startTimer span)).bind fun _ =>
          p.attempt.bind fun result =>
            (request .stopTimer).bind fun expired =>
              settle (expire result expired) := by
  have hTimed :
      ((request (.startTimer span)).bind fun _ =>
        p.attempt.bind fun result =>
          (request .stopTimer).bind fun expired =>
            settle (expire result expired)) =
      (request (.startTimer span)).bind fun _ =>
        p.attempt.bind fun result =>
          (request .stopTimer).bind fun (expired : Bool) =>
            match result with
            | .error .cancelled =>
              .fail (if expired then .timedOut else .cancelled)
            | r => settle r := by
    congr
    funext _
    congr
    funext result
    congr
    funext expired
    cases result with
    | ok a => rfl
    | error cause => cases cause <;> rfl
  rw [hTimed]
  cases span with
  | endless => rfl
  | seconds n =>
      unfold within
      by_cases hHopeless : n ≤ 0
      · simp only [isHopeless, hHopeless, decide_true, if_true]
        rfl
      · simp only [isHopeless, hHopeless, decide_false]
        rfl

------------------------------------------------------------
-- Runs
------------------------------------------------------------

/- What a program sees or asks for in a run. -/
inductive Exchange where
  | saw (m : Memory)
  | asked (r : Request) (answer : Except Cause r.Answer)

/- The runs of a program, and how each of them ends. -/
inductive Runs :
    Program α → List Exchange → Except Cause α → Prop where
  | done
      (a : α) :
      Runs (.done a) [] (.ok a)
  | fail
      (cause : Cause) :
      Runs (.fail cause) [] (.error cause)
  | access
      {change : Memory → Memory}
      {next : Memory → Program α}
      {trace : List Exchange}
      {result : Except Cause α}
      (m : Memory)
      (hNext : Runs (next m) trace result) :
      Runs (.access change next) (.saw m :: trace) result
  | ask
      {r : Request}
      {next : Except Cause r.Answer → Program α}
      {trace : List Exchange}
      {result : Except Cause α}
      (answer : Except Cause r.Answer)
      (hNext : Runs (next answer) trace result) :
      Runs (.ask r next) (.asked r answer :: trace) result

variable {p : Program α}
variable {f : α → Program β}
variable {trace : List Exchange}

theorem runs_done_iff
    {a : α}
    {result : Except Cause α} :
    Runs (.done a) trace result ↔
      trace = [] ∧ result = .ok a := by
  constructor
  · intro hRuns
    cases hRuns
    exact ⟨rfl, rfl⟩
  · rintro ⟨rfl, rfl⟩
    exact .done a

theorem runs_fail_iff
    {cause : Cause}
    {result : Except Cause α} :
    Runs (.fail cause) trace result ↔
      trace = [] ∧ result = .error cause := by
  constructor
  · intro hRuns
    cases hRuns
    exact ⟨rfl, rfl⟩
  · rintro ⟨rfl, rfl⟩
    exact .fail cause

/- A program that goes on fails early or runs in two parts. -/
theorem runs_bind_iff
    {result : Except Cause β} :
    Runs (p.bind f) trace result ↔
      (∃ cause, result = .error cause ∧
        Runs p trace (.error cause)) ∨
      ∃ before a after, trace = before ++ after ∧
        Runs p before (.ok a) ∧ Runs (f a) after result := by
  induction p generalizing trace with
  | done a =>
      constructor
      · intro hRuns
        exact Or.inr ⟨[], a, trace, rfl, .done a, hRuns⟩
      · rintro (⟨cause, _, hFail⟩ | ⟨before, a', after, rfl,
          hFirst, hRest⟩)
        · cases hFail
        · cases hFirst
          exact hRest
  | fail cause =>
      constructor
      · intro hRuns
        rcases runs_fail_iff.mp hRuns with ⟨rfl, rfl⟩
        exact Or.inl ⟨cause, rfl, .fail cause⟩
      · rintro (⟨cause', rfl, hFail⟩ | ⟨before, a, after, rfl,
          hFirst, _⟩)
        · rcases runs_fail_iff.mp hFail with ⟨rfl, hSame⟩
          cases hSame
          exact .fail cause
        · cases hFirst
  | access change next hInduction =>
      constructor
      · intro hRuns
        cases hRuns with
        | access m hNext =>
            rcases (hInduction m).mp hNext with
              ⟨cause, hResult, hFail⟩ |
                ⟨before, a, after, hSplit, hFirst, hRest⟩
            · exact Or.inl ⟨cause, hResult, .access m hFail⟩
            · exact Or.inr ⟨.saw m :: before, a, after,
                by rw [hSplit, List.cons_append],
                .access m hFirst, hRest⟩
      · rintro (⟨cause, hResult, hFail⟩ | ⟨before, a, after,
          rfl, hFirst, hRest⟩)
        · cases hFail with
          | access m hNext =>
              exact .access m ((hInduction m).mpr
                (Or.inl ⟨cause, hResult, hNext⟩))
        · cases hFirst with
          | access m hNext =>
              exact .access m ((hInduction m).mpr
                (Or.inr ⟨_, a, after, rfl, hNext, hRest⟩))
  | ask r next hInduction =>
      constructor
      · intro hRuns
        cases hRuns with
        | ask answer hNext =>
            rcases (hInduction answer).mp hNext with
              ⟨cause, hResult, hFail⟩ |
                ⟨before, a, after, hSplit, hFirst, hRest⟩
            · exact Or.inl ⟨cause, hResult, .ask answer hFail⟩
            · exact Or.inr ⟨.asked r answer :: before, a,
                after, by rw [hSplit, List.cons_append],
                .ask answer hFirst, hRest⟩
      · rintro (⟨cause, hResult, hFail⟩ | ⟨before, a, after,
          rfl, hFirst, hRest⟩)
        · cases hFail with
          | ask answer hNext =>
              exact .ask answer ((hInduction answer).mpr
                (Or.inl ⟨cause, hResult, hNext⟩))
        · cases hFirst with
          | ask answer hNext =>
              exact .ask answer ((hInduction answer).mpr
                (Or.inr ⟨_, a, after, rfl, hNext, hRest⟩))

/- A program that goes on and succeeds runs in two parts. -/
theorem runs_bind_ok_iff
    {b : β} :
    Runs (p.bind f) trace (.ok b) ↔
      ∃ before a after, trace = before ++ after ∧
        Runs p before (.ok a) ∧ Runs (f a) after (.ok b) := by
  rw [runs_bind_iff, or_iff_right]
  rintro ⟨_, hResult, _⟩
  cases hResult

/- An attempt runs as what it attempts. -/
theorem runs_attempt_iff
    {result : Except Cause α} :
    Runs p.attempt trace (.ok result) ↔
      Runs p trace result := by
  induction p generalizing trace with
  | done a =>
      rw [attempt, runs_done_iff, runs_done_iff,
        Except.ok.injEq]
  | fail cause =>
      rw [attempt, runs_done_iff, runs_fail_iff,
        Except.ok.injEq]
  | access change next hInduction =>
      constructor
      · intro hRuns
        cases hRuns with
        | access m hNext =>
            exact .access m ((hInduction m).mp hNext)
      · intro hRuns
        cases hRuns with
        | access m hNext =>
            exact .access m ((hInduction m).mpr hNext)
  | ask r next hInduction =>
      constructor
      · intro hRuns
        cases hRuns with
        | ask answer hNext =>
            exact .ask answer ((hInduction answer).mp hNext)
      · intro hRuns
        cases hRuns with
        | ask answer hNext =>
            exact .ask answer ((hInduction answer).mpr hNext)

/- What is settled runs without an exchange. -/
theorem runs_settle_iff
    {given result : Except Cause α} :
    Runs (settle given) trace result ↔
      trace = [] ∧ result = given := by
  cases given with
  | ok a => exact runs_done_iff
  | error cause => exact runs_fail_iff

/- What is settled in the end takes no exchange of its own. -/
theorem runs_bind_settle_iff
    {make : α → Except Cause β}
    {result : Except Cause β} :
    Runs (p.bind fun a => settle (make a)) trace result ↔
      ∃ first, Runs p trace first ∧ result = first.bind make := by
  constructor
  · intro hRuns
    rcases runs_bind_iff.mp hRuns with
      ⟨cause, rfl, hFail⟩ | ⟨before, a, after, rfl, hFirst, hRest⟩
    · exact ⟨.error cause, hFail, rfl⟩
    · rcases runs_settle_iff.mp hRest with ⟨rfl, rfl⟩
      rw [List.append_nil]
      exact ⟨.ok a, hFirst, rfl⟩
  · rintro ⟨first, hFirst, rfl⟩
    cases first with
    | error cause =>
        exact runs_bind_iff.mpr (Or.inl ⟨cause, rfl, hFirst⟩)
    | ok a =>
        exact runs_bind_iff.mpr (Or.inr
          ⟨trace, a, [], (List.append_nil trace).symm, hFirst,
            runs_settle_iff.mpr ⟨rfl, rfl⟩⟩)

/- A request runs by its answer. -/
theorem runs_request_iff
    {r : Request}
    {result : Except Cause r.Answer} :
    Runs (request r) trace result ↔
      trace = [.asked r result] := by
  constructor
  · intro hRuns
    cases hRuns with
    | ask answer hNext =>
        rcases runs_settle_iff.mp hNext with ⟨rfl, rfl⟩
        rfl
  · rintro rfl
    exact .ask result (runs_settle_iff.mpr ⟨rfl, rfl⟩)

/- A program whose failures are handled ends in two ways. -/
theorem runs_handling_ok
    {test : Cause → Bool}
    {handle : Cause → Program α}
    {a : α}
    (hRuns : Runs (p.handling test handle) trace (.ok a)) :
    Runs p trace (.ok a) ∨
      ∃ before cause after, trace = before ++ after ∧
        Runs p before (.error cause) ∧
          Runs (handle cause) after (.ok a) := by
  rcases runs_bind_ok_iff.mp hRuns with
    ⟨before, result, after, rfl, hAttempt, hRest⟩
  have hFirst := runs_attempt_iff.mp hAttempt
  cases result with
  | ok a' =>
      rcases runs_done_iff.mp hRest with ⟨rfl, hSame⟩
      cases hSame
      rw [List.append_nil]
      exact Or.inl hFirst
  | error cause =>
      simp only at hRest
      split at hRest
      · exact Or.inr ⟨before, cause, after, rfl, hFirst, hRest⟩
      · cases hRest

------------------------------------------------------------
-- Runs in Parts
------------------------------------------------------------

/- An attempt does not fail. -/
theorem runs_attempt_ne_error
    {cause : Cause}
    (hRuns : Runs p.attempt trace (.error cause)) :
    False := by
  induction p generalizing trace with
  | done a => cases hRuns
  | fail cause => cases hRuns
  | access change next hInduction =>
      cases hRuns with
      | access m hNext => exact hInduction m hNext
  | ask r next hInduction =>
      cases hRuns with
      | ask answer hNext => exact hInduction answer hNext

/- What follows an attempt goes on with how that ended. -/
theorem exists_runs_of_attempt_bind
    {f : Except Cause α → Program β}
    {result : Except Cause β}
    (hRuns : Runs (p.attempt.bind f) trace result) :
    ∃ before first after, trace = before ++ after ∧
      Runs p before first ∧ Runs (f first) after result := by
  rcases runs_bind_iff.mp hRuns with
    ⟨_, _, hFail⟩ | ⟨before, first, after, hSplit, hFirst, hRest⟩
  · exact (runs_attempt_ne_error hFail).elim
  · exact ⟨before, first, after, hSplit,
      runs_attempt_iff.mp hFirst, hRest⟩

/- A failure is handled unless the test says otherwise. -/
theorem runs_handling_iff
    {test : Cause → Bool}
    {handle : Cause → Program α}
    {result : Except Cause α} :
    Runs (p.handling test handle) trace result ↔
      ∃ before first after, trace = before ++ after ∧
        Runs p before first ∧
          match first with
          | .ok a => after = [] ∧ result = .ok a
          | .error cause =>
            if cause ≠ .cancelled ∧ test cause = true then
              Runs (handle cause) after result
            else after = [] ∧ result = .error cause := by
  have hStep (first : Except Cause α) (after : List Exchange) :
      Runs
          (match first with
            | .ok a => .done a
            | .error cause =>
              if cause != .cancelled && test cause then
                handle cause
              else .fail cause)
          after result ↔
        match first with
        | .ok a => after = [] ∧ result = .ok a
        | .error cause =>
          if cause ≠ .cancelled ∧ test cause = true then
            Runs (handle cause) after result
          else after = [] ∧ result = .error cause := by
    cases first with
    | ok a => exact runs_done_iff
    | error cause =>
        by_cases hHandled :
            cause ≠ .cancelled ∧ test cause = true
        · simp [hHandled]
        · have hElse :
              (cause != .cancelled && test cause) = false := by
            simpa using hHandled
          simp only [hElse, if_neg hHandled]
          exact runs_fail_iff
  constructor
  · intro hRuns
    rcases exists_runs_of_attempt_bind hRuns with
      ⟨before, first, after, hSplit, hFirst, hRest⟩
    exact ⟨before, first, after, hSplit, hFirst,
      (hStep first after).mp hRest⟩
  · rintro ⟨before, first, after, hSplit, hFirst, hRest⟩
    exact runs_bind_iff.mpr (Or.inr
      ⟨before, first, after, hSplit,
        runs_attempt_iff.mpr hFirst,
        (hStep first after).mpr hRest⟩)

/- What was attempted has been done when its run is over. -/
theorem runs_of_attempt_bind
    {f : Except Cause α → Program β}
    {before after : List Exchange}
    {first : Except Cause α}
    {result : Except Cause β}
    (hFirst : Runs p before first)
    (hRuns : Runs (p.attempt.bind f) (before ++ after) result) :
    Runs (f first) after result := by
  induction hFirst with
  | done a => exact hRuns
  | fail cause => exact hRuns
  | access m hNext hInduction =>
      cases hRuns with
      | access _ hRest => exact hInduction hRest
  | ask answer hNext hInduction =>
      cases hRuns with
      | ask _ hRest => exact hInduction hRest

/- What comes first has been done when its run is over. -/
theorem runs_of_bind
    {a : α}
    {before after : List Exchange}
    {result : Except Cause β}
    (hFirst : Runs p before (.ok a))
    (hRuns : Runs (p.bind f) (before ++ after) result) :
    Runs (f a) after result := by
  induction p generalizing before with
  | done a' =>
      rcases runs_done_iff.mp hFirst with ⟨rfl, hSame⟩
      cases hSame
      exact hRuns
  | fail cause => cases hFirst
  | access change next hInduction =>
      cases hFirst with
      | access m hNext =>
          cases hRuns with
          | access _ hRest => exact hInduction m hNext hRest
  | ask r next hInduction =>
      cases hFirst with
      | ask answer hNext =>
          cases hRuns with
          | ask _ hRest => exact hInduction answer hNext hRest

/- What failed has been handled, or not, when its run is over. -/
theorem runs_of_handling_bind
    {test : Cause → Bool}
    {handle : Cause → Program α}
    {cause : Cause}
    {before after : List Exchange}
    {result : Except Cause β}
    (hFailed : Runs p before (.error cause))
    (hRuns :
      Runs ((p.handling test handle).bind f) (before ++ after)
        result) :
    Runs
      ((if cause != .cancelled && test cause then handle cause
        else .fail cause).bind f)
      after result := by
  change
    Runs ((p.attempt.bind _).bind f) (before ++ after) result
    at hRuns
  rw [bind_assoc] at hRuns
  exact runs_of_attempt_bind hFailed hRuns

------------------------------------------------------------
-- Requests of a Run
------------------------------------------------------------

/-
  A program asks for nothing else, whatever it is answered and
  whatever it finds in the memory.
-/
def Only
    (P : Request → Prop) : Program α → Prop
  | .done _ => True
  | .fail _ => True
  | .access _ next => ∀ m, (next m).Only P
  | .ask r next => P r ∧ ∀ answer, (next answer).Only P

namespace Only

variable {P : Request → Prop}

theorem bind
    (hFirst : p.Only P)
    (hRest : ∀ a, (f a).Only P) :
    (p.bind f).Only P := by
  induction p with
  | done a => exact hRest a
  | fail cause => trivial
  | access change next hInduction =>
      exact fun m => hInduction m (hFirst m)
  | ask r next hInduction =>
      exact ⟨hFirst.1, fun answer =>
        hInduction answer (hFirst.2 answer)⟩

theorem attempt
    (hOnly : p.Only P) :
    p.attempt.Only P := by
  induction p with
  | done a => trivial
  | fail cause => trivial
  | access change next hInduction =>
      exact fun m => hInduction m (hOnly m)
  | ask r next hInduction =>
      exact ⟨hOnly.1, fun answer =>
        hInduction answer (hOnly.2 answer)⟩

theorem settle
    (result : Except Cause α) :
    (settle result).Only P := by
  cases result <;> trivial

theorem request
    {r : Request}
    (hRequest : P r) :
    (request r).Only P :=
  ⟨hRequest, settle⟩

theorem handling
    {test : Cause → Bool}
    {handle : Cause → Program α}
    (hOnly : p.Only P)
    (hHandle : ∀ cause, (handle cause).Only P) :
    (p.handling test handle).Only P := by
  refine Only.bind hOnly.attempt ?_
  intro result
  cases result with
  | ok a => trivial
  | error cause =>
      simp only
      split
      · exact hHandle cause
      · trivial

/- So nothing else is asked for when it runs. -/
theorem of_runs
    {result : Except Cause α}
    (hOnly : p.Only P)
    (hRuns : Runs p trace result) :
    ∀ r answer, .asked r answer ∈ trace → P r := by
  induction hRuns with
  | done a => simp
  | fail cause => simp
  | access m hNext hInduction =>
      intro r answer hMember
      rcases List.mem_cons.mp hMember with hSame | hLater
      · cases hSame
      · exact hInduction (hOnly m) r answer hLater
  | ask answer hNext hInduction =>
      intro r answer' hMember
      rcases List.mem_cons.mp hMember with hSame | hLater
      · cases hSame
        exact hOnly.1
      · exact hInduction (hOnly.2 answer) r answer' hLater

end Only

end GuildWarden.Program
