import GuildWarden.Platform.Client
import GuildWarden.Proofs.Effect.Interleaving

/-
  This file describes programs that run alone while the store
  may refuse any statement. The platform answers whatever it
  likes, and time passes until it does.

  Key definitions include:
    * `Program.Shared.Serves`
    * `Program.Performs`
    * `Program.Requests`

  Main statements:
    * `Program.performs_bind_iff`
    * `Program.performs_attempt_iff`
    * `Program.performs_handling_iff`
    * `Program.Requests.of_performs`
    * `Program.eq_of_calls`
-/

namespace GuildWarden.Program

variable {α β : Type}

------------------------------------------------------------
-- Service
------------------------------------------------------------

/- The connection after a statement that the store refused. -/
def refuse
    (c : Store.Connection)
    (s : Store.Statement) : Store.Connection :=
  { c with pending := c.pending || s.isWrite }

/-
  The answer to a request, and what is shared afterwards. A
  statement, or a commit, may fail for any cause but being
  cancelled, and then it has changed no table. A lock that is
  taken is waited for.
-/
def Shared.Serves
    (w later : Shared) :
    (r : Request) → Except Cause r.Answer → Prop
  | .platform _, _ =>
    ∃ now, w.clock ≤ now ∧ later = { w with clock := now }
  | .now, answer => answer = .ok w.clock ∧ later = w
  | .reachStore, answer => answer = .ok () ∧ later = w
  | .lockStore, answer =>
    w.isLocked = false ∧ answer = .ok () ∧
      later = { w with isLocked := true }
  | .unlockStore, answer =>
    answer = .ok () ∧ later = { w with isLocked := false }
  | .statement s, .ok a =>
    w.store.run s = (.ok a, later.store) ∧
      later = { w with store := later.store }
  | .statement s, .error cause =>
    cause ≠ .cancelled ∧
      later = { w with store := refuse w.store s }
  | .commit, .ok _ =>
    later = { w with store := w.store.commit }
  | .commit, .error cause => cause ≠ .cancelled ∧ later = w
  | .rollback, answer =>
    answer = .ok () ∧
      later = { w with store := w.store.rollback }
  | _, _ => False

/-
  What a program does from a shared state: what it sees and
  asks for, how it ends, and what is shared then.
-/
inductive Performs :
    Shared → Program α → List Exchange → Except Cause α →
      Shared → Prop where
  | done
      (w : Shared)
      (a : α) :
      Performs w (.done a) [] (.ok a) w
  | fail
      (w : Shared)
      (cause : Cause) :
      Performs w (.fail cause) [] (.error cause) w
  | access
      {w later : Shared}
      {change : Memory → Memory}
      {next : Memory → Program α}
      {trace : List Exchange}
      {result : Except Cause α}
      (hNext :
        Performs { w with memory := change w.memory }
          (next w.memory) trace result later) :
      Performs w (.access change next)
        (.saw w.memory :: trace) result later
  | ask
      {w between later : Shared}
      {r : Request}
      {answer : Except Cause r.Answer}
      {next : Except Cause r.Answer → Program α}
      {trace : List Exchange}
      {result : Except Cause α}
      (hServes : w.Serves between r answer)
      (hNext :
        Performs between (next answer) trace result later) :
      Performs w (.ask r next) (.asked r answer :: trace)
        result later

variable {w later : Shared}
variable {p : Program α}
variable {f : α → Program β}
variable {trace : List Exchange}

theorem performs_done_iff
    {a : α}
    {result : Except Cause α} :
    Performs w (.done a) trace result later ↔
      trace = [] ∧ result = .ok a ∧ later = w := by
  constructor
  · intro hPerforms
    cases hPerforms
    exact ⟨rfl, rfl, rfl⟩
  · rintro ⟨rfl, rfl, rfl⟩
    exact .done _ a

theorem performs_fail_iff
    {cause : Cause}
    {result : Except Cause α} :
    Performs w (.fail cause) trace result later ↔
      trace = [] ∧ result = .error cause ∧ later = w := by
  constructor
  · intro hPerforms
    cases hPerforms
    exact ⟨rfl, rfl, rfl⟩
  · rintro ⟨rfl, rfl, rfl⟩
    exact .fail _ cause

/- A program that goes on fails early or ends in two parts. -/
theorem performs_bind_iff
    {result : Except Cause β} :
    Performs w (p.bind f) trace result later ↔
      (∃ cause, result = .error cause ∧
        Performs w p trace (.error cause) later) ∨
      ∃ before a after between, trace = before ++ after ∧
        Performs w p before (.ok a) between ∧
          Performs between (f a) after result later := by
  constructor
  · intro hPerforms
    induction p generalizing w trace with
    | done a =>
        exact Or.inr ⟨[], a, trace, w, rfl, .done w a, hPerforms⟩
    | fail cause =>
        rcases performs_fail_iff.mp hPerforms with
          ⟨rfl, rfl, rfl⟩
        exact Or.inl ⟨cause, rfl, .fail _ cause⟩
    | access change next hInduction =>
        cases hPerforms with
        | access hNext =>
            rcases hInduction _ hNext with
              ⟨cause, hResult, hFail⟩ |
                ⟨before, a, after, between, rfl, hFirst, hRest⟩
            · exact Or.inl ⟨cause, hResult, .access hFail⟩
            · exact Or.inr ⟨_, a, after, between, rfl,
                .access hFirst, hRest⟩
    | ask r next hInduction =>
        cases hPerforms with
        | ask hServes hNext =>
            rcases hInduction _ hNext with
              ⟨cause, hResult, hFail⟩ |
                ⟨before, a, after, between, rfl, hFirst, hRest⟩
            · exact Or.inl
                ⟨cause, hResult, .ask hServes hFail⟩
            · exact Or.inr ⟨_, a, after, between, rfl,
                .ask hServes hFirst, hRest⟩
  · rintro (⟨cause, rfl, hFail⟩ |
      ⟨before, a, after, between, rfl, hFirst, hRest⟩)
    · induction p generalizing w trace with
      | done a => cases hFail
      | fail cause' =>
          rcases performs_fail_iff.mp hFail with
            ⟨rfl, hSame, rfl⟩
          cases hSame
          exact .fail _ cause
      | access change next hInduction =>
          cases hFail with
          | access hNext =>
              exact .access (hInduction _ hNext)
      | ask r next hInduction =>
          cases hFail with
          | ask hServes hNext =>
              exact .ask hServes (hInduction _ hNext)
    · induction p generalizing w before with
      | done a' =>
          rcases performs_done_iff.mp hFirst with
            ⟨rfl, hSame, rfl⟩
          cases hSame
          exact hRest
      | fail cause => cases hFirst
      | access change next hInduction =>
          cases hFirst with
          | access hNext =>
              exact .access (hInduction _ _ hNext)
      | ask r next hInduction =>
          cases hFirst with
          | ask hServes hNext =>
              exact .ask hServes (hInduction _ _ hNext)

/- A program that goes on and succeeds ends in two parts. -/
theorem performs_bind_ok_iff
    {b : β} :
    Performs w (p.bind f) trace (.ok b) later ↔
      ∃ before a after between, trace = before ++ after ∧
        Performs w p before (.ok a) between ∧
          Performs between (f a) after (.ok b) later := by
  rw [performs_bind_iff, or_iff_right]
  rintro ⟨_, hResult, _⟩
  cases hResult

/- An attempt does what it attempts, and does not fail. -/
theorem performs_attempt_iff
    {result : Except Cause (Except Cause α)} :
    Performs w p.attempt trace result later ↔
      ∃ attempted, result = .ok attempted ∧
        Performs w p trace attempted later := by
  induction p generalizing w trace with
  | done a =>
      rw [attempt, performs_done_iff]
      constructor
      · rintro ⟨rfl, rfl, rfl⟩
        exact ⟨.ok a, rfl, .done _ a⟩
      · rintro ⟨attempted, rfl, hDone⟩
        rcases performs_done_iff.mp hDone with
          ⟨rfl, rfl, rfl⟩
        exact ⟨rfl, rfl, rfl⟩
  | fail cause =>
      rw [attempt, performs_done_iff]
      constructor
      · rintro ⟨rfl, rfl, rfl⟩
        exact ⟨.error cause, rfl, .fail _ cause⟩
      · rintro ⟨attempted, rfl, hFail⟩
        rcases performs_fail_iff.mp hFail with
          ⟨rfl, rfl, rfl⟩
        exact ⟨rfl, rfl, rfl⟩
  | access change next hInduction =>
      constructor
      · intro hPerforms
        cases hPerforms with
        | access hNext =>
            rcases (hInduction _).mp hNext with
              ⟨attempted, rfl, hRest⟩
            exact ⟨attempted, rfl, .access hRest⟩
      · rintro ⟨attempted, rfl, hPerforms⟩
        cases hPerforms with
        | access hNext =>
            exact .access
              ((hInduction _).mpr ⟨attempted, rfl, hNext⟩)
  | ask r next hInduction =>
      constructor
      · intro hPerforms
        cases hPerforms with
        | ask hServes hNext =>
            rcases (hInduction _).mp hNext with
              ⟨attempted, rfl, hRest⟩
            exact ⟨attempted, rfl, .ask hServes hRest⟩
      · rintro ⟨attempted, rfl, hPerforms⟩
        cases hPerforms with
        | ask hServes hNext =>
            exact .ask hServes
              ((hInduction _).mpr ⟨attempted, rfl, hNext⟩)

/- What is settled ends at once. -/
theorem performs_settle_iff
    {given result : Except Cause α} :
    Performs w (settle given) trace result later ↔
      trace = [] ∧ result = given ∧ later = w := by
  cases given with
  | ok a => exact performs_done_iff
  | error cause => exact performs_fail_iff

/- A request ends as it is answered. -/
theorem performs_request_iff
    {r : Request}
    {result : Except Cause r.Answer} :
    Performs w (request r) trace result later ↔
      trace = [.asked r result] ∧
        w.Serves later r result := by
  constructor
  · intro hPerforms
    cases hPerforms with
    | ask hServes hNext =>
        rcases performs_settle_iff.mp hNext with
          ⟨rfl, rfl, rfl⟩
        exact ⟨rfl, hServes⟩
  · rintro ⟨rfl, hServes⟩
    exact .ask hServes
      (performs_settle_iff.mpr ⟨rfl, rfl, rfl⟩)

/- A failure is handled unless the test says otherwise. -/
theorem performs_handling_iff
    {test : Cause → Bool}
    {handle : Cause → Program α}
    {result : Except Cause α} :
    Performs w (p.handling test handle) trace result later ↔
      ∃ attempted before between after,
        trace = before ++ after ∧
          Performs w p before attempted between ∧
            match attempted with
            | .ok a =>
              after = [] ∧ result = .ok a ∧ later = between
            | .error cause =>
              if cause ≠ .cancelled ∧ test cause = true then
                Performs between (handle cause) after result
                  later
              else
                after = [] ∧ result = .error cause ∧
                  later = between := by
  have hStep (between : Shared) (attempted : Except Cause α)
      (after : List Exchange) :
      Performs between
          (match attempted with
            | .ok a => .done a
            | .error cause =>
              if cause != .cancelled && test cause then
                handle cause
              else .fail cause)
          after result later ↔
        match attempted with
        | .ok a => after = [] ∧ result = .ok a ∧ later = between
        | .error cause =>
          if cause ≠ .cancelled ∧ test cause = true then
            Performs between (handle cause) after result later
          else
            after = [] ∧ result = .error cause ∧
              later = between := by
    cases attempted with
    | ok a => exact performs_done_iff
    | error cause =>
        by_cases hHandled :
            cause ≠ .cancelled ∧ test cause = true
        · simp [hHandled]
        · have hElse :
              (cause != .cancelled && test cause) = false := by
            simpa using hHandled
          simp only [hElse, if_neg hHandled]
          exact performs_fail_iff
  constructor
  · intro hPerforms
    rcases performs_bind_iff.mp hPerforms with
      ⟨cause, _, hFail⟩ |
        ⟨before, attempted, after, between, hSplit, hFirst,
          hRest⟩
    · rcases performs_attempt_iff.mp hFail with
        ⟨_, hResult, _⟩
      cases hResult
    · rcases performs_attempt_iff.mp hFirst with
        ⟨_, hSame, hFirst⟩
      cases hSame
      exact ⟨attempted, before, between, after, hSplit, hFirst,
        (hStep between attempted after).mp hRest⟩
  · rintro ⟨attempted, before, between, after, hSplit, hFirst,
      hRest⟩
    exact performs_bind_iff.mpr (Or.inr
      ⟨before, attempted, after, between, hSplit,
        performs_attempt_iff.mpr ⟨attempted, rfl, hFirst⟩,
        (hStep between attempted after).mpr hRest⟩)

/- What a program does from a state is one of its runs. -/
theorem Performs.runs
    {result : Except Cause α}
    (hPerforms : Performs w p trace result later) :
    Runs p trace result := by
  induction hPerforms with
  | done w a => exact .done a
  | fail w cause => exact .fail cause
  | access hNext hInduction => exact .access _ hInduction
  | ask hServes hNext hInduction => exact .ask _ hInduction

------------------------------------------------------------
-- Requests of a Program
------------------------------------------------------------

/-
  All that a program may ask for, however it is answered, if
  it does not use the memory.
-/
def Requests
    (P : Request → Prop) :
    Program α → Prop
  | .done _ => True
  | .fail _ => True
  | .access _ _ => False
  | .ask r next => P r ∧ ∀ answer, (next answer).Requests P

namespace Requests

variable {P : Request → Prop}

theorem mono
    {Q : Request → Prop}
    (hRequests : p.Requests P)
    (hWeaker : ∀ r, P r → Q r) :
    p.Requests Q := by
  induction p with
  | done a => trivial
  | fail cause => trivial
  | access change next => exact hRequests
  | ask r next hInduction =>
      refine ⟨hWeaker r hRequests.1, ?_⟩
      intro answer
      exact hInduction answer (hRequests.2 answer)

theorem bind
    (hFirst : p.Requests P)
    (hRest : ∀ a, (f a).Requests P) :
    (p.bind f).Requests P := by
  induction p with
  | done a => exact hRest a
  | fail cause => trivial
  | access change next => exact hFirst
  | ask r next hInduction =>
      refine ⟨hFirst.1, ?_⟩
      intro answer
      exact hInduction answer (hFirst.2 answer)

theorem attempt
    (hRequests : p.Requests P) :
    p.attempt.Requests P := by
  induction p with
  | done a => trivial
  | fail cause => trivial
  | access change next => exact hRequests
  | ask r next hInduction =>
      refine ⟨hRequests.1, ?_⟩
      intro answer
      exact hInduction answer (hRequests.2 answer)

theorem settle
    (result : Except Cause α) :
    (settle result).Requests P := by
  cases result <;> trivial

theorem request
    {r : Request}
    (hRequest : P r) :
    (request r).Requests P :=
  ⟨hRequest, Requests.settle⟩

theorem handling
    {test : Cause → Bool}
    {handle : Cause → Program α}
    (hRequests : p.Requests P)
    (hHandle : ∀ cause, (handle cause).Requests P) :
    (p.handling test handle).Requests P := by
  refine Requests.bind hRequests.attempt ?_
  intro attempted
  cases attempted with
  | ok a => trivial
  | error cause =>
      simp only
      split
      · exact hHandle cause
      · trivial

/- A program asks for nothing else when it is run. -/
theorem of_performs
    {result : Except Cause α}
    (hRequests : p.Requests P)
    (hPerforms : Performs w p trace result later) :
    ∀ r answer, .asked r answer ∈ trace → P r := by
  induction hPerforms with
  | done => simp
  | fail => simp
  | access => exact hRequests.elim
  | ask hServes hNext hInduction =>
      intro r answer hMember
      rcases List.mem_cons.mp hMember with hSame | hLater
      · cases hSame
        exact hRequests.1
      · exact hInduction (hRequests.2 _) r answer hLater

/- Nor for anything else however it is answered. -/
theorem of_runs
    {result : Except Cause α}
    (hRequests : p.Requests P)
    (hRuns : Runs p trace result) :
    ∀ e ∈ trace, ∃ r answer, e = .asked r answer ∧ P r := by
  induction hRuns with
  | done => simp
  | fail => simp
  | access => exact hRequests.elim
  | ask answer hNext hInduction =>
      rw [List.forall_mem_cons]
      exact ⟨⟨_, answer, rfl, hRequests.1⟩,
        hInduction (hRequests.2 answer)⟩

end Requests

/- A request to the platform. -/
def IsCall : Request → Prop
  | .platform _ => True
  | _ => False

theorem requests_perform
    (c : Platform.Call) :
    (Platform.perform c).Requests IsCall :=
  Requests.bind (Requests.request trivial) fun _ => trivial

theorem requests_sendMessage
    (channelId : Int)
    (content : Payload)
    (card : Option Payload) :
    (Platform.sendMessage channelId content card).Requests
      IsCall := by
  refine Requests.bind (Requests.settle _) ?_
  intro fitted
  exact Requests.request trivial

theorem requests_sendDirectMessage
    (userId : Int)
    (content : Payload) :
    (Platform.sendDirectMessage userId content).Requests
      IsCall := by
  refine Requests.bind (Requests.request trivial) ?_
  intro channel
  refine Requests.bind (Requests.settle _) ?_
  intro channelId
  exact requests_sendMessage _ _ _

/- Only time passes while the platform is called. -/
theorem eq_of_calls
    {result : Except Cause α}
    (hCalls : p.Requests IsCall)
    (hPerforms : Performs w p trace result later) :
    later = { w with clock := later.clock } := by
  induction hPerforms with
  | done => rfl
  | fail => rfl
  | access => exact hCalls.elim
  | @ask _ _ _ r _ _ _ _ hServes hNext hInduction =>
      have hRest := hInduction (hCalls.2 _)
      cases r with
      | platform call =>
          rcases hServes with ⟨now, _, rfl⟩
          exact hRest
      | _ => exact hCalls.1.elim

------------------------------------------------------------
-- Runs That Are Served
------------------------------------------------------------

/-
  What a program does when it is served, with the answers that
  the platform would give at each of its exchanges.
-/
def carryOut
    (w : Shared) :
    List (Except Cause Payload) → Program α →
      Option (List Exchange × Except Cause α × Shared)
  | [], .done a => some ([], .ok a, w)
  | [], .fail cause => some ([], .error cause, w)
  | [], _ => none
  | given :: rest, p => do
    let (e, between, q) ← p.advance w given
    let (trace, result, later) ← carryOut between rest q
    some (e :: trace, result, later)

theorem Shared.serves_of_serve
    {given : Except Cause Payload}
    {r : Request}
    {answer : Except Cause r.Answer}
    (hServe : w.serve given r = some (answer, later)) :
    w.Serves later r answer := by
  cases r with
  | platform call =>
      cases hServe
      exact ⟨w.clock, Rat.le_refl, rfl⟩
  | lockStore =>
      simp only [Shared.serve] at hServe
      split at hServe
      · cases hServe
      · rename_i hFree
        cases hServe
        exact ⟨eq_false_of_ne_true hFree, rfl, rfl⟩
  | statement s =>
      simp only [Shared.serve] at hServe
      split at hServe
      · rename_i a store hRun
        cases hServe
        exact ⟨hRun, rfl⟩
      · cases hServe
  | now =>
      cases hServe
      exact ⟨rfl, rfl⟩
  | reachStore =>
      cases hServe
      exact ⟨rfl, rfl⟩
  | unlockStore =>
      cases hServe
      exact ⟨rfl, rfl⟩
  | commit =>
      cases hServe
      exact rfl
  | rollback =>
      cases hServe
      exact ⟨rfl, rfl⟩
  | _ => cases hServe

theorem performs_of_carryOut
    {given : List (Except Cause Payload)}
    {result : Except Cause α}
    (hDone :
      carryOut w given p = some (trace, result, later)) :
    Performs w p trace result later := by
  induction given generalizing w p trace with
  | nil =>
      cases p with
      | done a =>
          cases hDone
          exact .done _ a
      | fail cause =>
          cases hDone
          exact .fail _ cause
      | access change next => cases hDone
      | ask r next => cases hDone
  | cons answer rest hInduction =>
      rcases Option.bind_eq_some_iff.mp hDone with
        ⟨⟨e, between, q⟩, hAdvance, hDone⟩
      rcases Option.bind_eq_some_iff.mp hDone with
        ⟨⟨trace', result', later'⟩, hRest, hSame⟩
      cases hSame
      cases p with
      | done a => cases hAdvance
      | fail cause => cases hAdvance
      | access change next =>
          cases hAdvance
          exact .access (hInduction hRest)
      | ask r next =>
          rcases Option.map_eq_some_iff.mp hAdvance with
            ⟨⟨answer', later'⟩, hServe, hSame⟩
          cases hSame
          exact .ask (Shared.serves_of_serve hServe)
            (hInduction hRest)

end GuildWarden.Program
