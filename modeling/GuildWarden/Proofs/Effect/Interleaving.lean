import GuildWarden.Proofs.Effect.Runs
import GuildWarden.Store.Connection

/-
  This file describes how programs share a clock, a memory and
  a store. A program makes one exchange at a time, and others
  may go on between any two of its exchanges. The platform
  answers whatever it likes; everything else succeeds, or the
  program does not go on yet.

  Key definitions include:
    * `Program.Shared`
    * `Program.advance`
    * `Program.Exchange.IsServed`
    * `Program.Replays`
    * `Program.Asks`

  Main statements:
    * `Program.runs_of_advance`
    * `Program.asks_of_runs`
-/

namespace GuildWarden.Program

variable {α β : Type}

------------------------------------------------------------
-- Shared State
------------------------------------------------------------

/- What programs share. -/
structure Shared where
  clock : Rat
  memory : Memory
  store : Store.Connection
  isLocked : Bool

/-
  The answer to a request, and what is shared afterwards. The
  answer of the platform is given. A lock that is taken is
  waited for, and a statement that would fail is not executed.
-/
def Shared.serve
    (w : Shared)
    (given : Except Cause Payload) :
    (r : Request) → Option (Except Cause r.Answer × Shared)
  | .platform _ => some (given, w)
  | .now => some (.ok w.clock, w)
  | .reachStore => some (.ok (), w)
  | .lockStore =>
    if w.isLocked then none
    else some (.ok (), { w with isLocked := true })
  | .unlockStore => some (.ok (), { w with isLocked := false })
  | .statement s =>
    match w.store.run s with
    | (.ok answer, store) => some (.ok answer, { w with store })
    | (.error _, _) => none
  | .commit =>
    some (.ok (), { w with store := w.store.commit })
  | .rollback =>
    some (.ok (), { w with store := w.store.rollback })
  | _ => none

/- A program makes its next exchange, if it has one. -/
def advance
    (w : Shared)
    (given : Except Cause Payload) :
    Program α → Option (Exchange × Shared × Program α)
  | .done _ => none
  | .fail _ => none
  | .access change next =>
    some (.saw w.memory,
      { w with memory := change w.memory }, next w.memory)
  | .ask r next =>
    (w.serve given r).map fun (answer, later) =>
      (.asked r answer, later, next answer)

/- Whether a program has no exchange left. -/
def hasEnded : Program α → Bool
  | .done _ => true
  | .fail _ => true
  | _ => false

/- How a program that has ended has ended. -/
theorem runs_of_hasEnded
    {p : Program α}
    (hEnded : p.hasEnded = true) :
    ∃ result, Runs p [] result ∧ p = settle result := by
  cases p with
  | done a => exact ⟨.ok a, .done a, rfl⟩
  | fail cause => exact ⟨.error cause, .fail cause, rfl⟩
  | access change next => cases hEnded
  | ask r next => cases hEnded

variable {w later : Shared}
variable {given : Except Cause Payload}
variable {e : Exchange}
variable {p q : Program α}

/- An exchange that is made is the first of what follows. -/
theorem runs_of_advance
    {trace : List Exchange}
    {result : Except Cause α}
    (hAdvance : p.advance w given = some (e, later, q))
    (hRuns : Runs q trace result) :
    Runs p (e :: trace) result := by
  cases p with
  | done a => cases hAdvance
  | fail cause => cases hAdvance
  | access change next =>
      cases hAdvance
      exact .access w.memory hRuns
  | ask r next =>
      rcases Option.map_eq_some_iff.mp hAdvance with
        ⟨⟨answer, later'⟩, _, hSame⟩
      cases hSame
      exact .ask answer hRuns

theorem hasEnded_of_advance
    (hAdvance : p.advance w given = some (e, later, q)) :
    p.hasEnded = false := by
  cases p with
  | done a => cases hAdvance
  | fail cause => cases hAdvance
  | access change next => rfl
  | ask r next => rfl

------------------------------------------------------------
-- The Store
------------------------------------------------------------

/- What an exchange makes of the store. -/
def Exchange.Moves
    (e : Exchange)
    (before after : Store.Connection) : Prop :=
  match e with
  | .asked (.statement s) answer =>
    before.run s = (answer, after)
  | .asked .commit _ => after = before.commit
  | .asked .rollback _ => after = before.rollback
  | _ => after = before

/- Only the platform may refuse a request. -/
def Exchange.IsServed : Exchange → Prop
  | .saw _ => True
  | .asked (.platform _) _ => True
  | .asked _ answer => ∃ a, answer = .ok a

/- An exchange that is made has its effect and is served. -/
theorem moves_of_advance
    (hAdvance : p.advance w given = some (e, later, q)) :
    e.Moves w.store later.store ∧ e.IsServed := by
  cases p with
  | done a => cases hAdvance
  | fail cause => cases hAdvance
  | access change next =>
      cases hAdvance
      exact ⟨rfl, trivial⟩
  | ask r next =>
      rcases Option.map_eq_some_iff.mp hAdvance with
        ⟨⟨answer, later'⟩, hServe, hSame⟩
      cases hSame
      cases r with
      | platform call =>
          cases hServe
          exact ⟨rfl, trivial⟩
      | lockStore =>
          simp only [Shared.serve] at hServe
          split at hServe
          · cases hServe
          · cases hServe
            exact ⟨rfl, _, rfl⟩
      | statement s =>
          simp only [Shared.serve] at hServe
          split at hServe
          · rename_i answer' store hRun
            cases hServe
            exact ⟨hRun, _, rfl⟩
          · cases hServe
      | now =>
          cases hServe
          exact ⟨rfl, _, rfl⟩
      | reachStore =>
          cases hServe
          exact ⟨rfl, _, rfl⟩
      | unlockStore =>
          cases hServe
          exact ⟨rfl, _, rfl⟩
      | commit =>
          cases hServe
          exact ⟨rfl, _, rfl⟩
      | rollback =>
          cases hServe
          exact ⟨rfl, _, rfl⟩
      | _ => cases hServe

/- The store after a log of exchanges, the latest first. -/
inductive Replays
    {ι : Type}
    (initial : Store.Connection) :
    List (ι × Exchange) → Store.Connection → Prop where
  | nil :
      Replays initial [] initial
  | cons
      {log : List (ι × Exchange)}
      {before after : Store.Connection}
      (x : ι × Exchange)
      (hLog : Replays initial log before)
      (hMoves : x.2.Moves before after) :
      Replays initial (x :: log) after

theorem replays_append
    {ι : Type}
    {initial final : Store.Connection}
    {newer older : List (ι × Exchange)}
    (hReplays : Replays initial (newer ++ older) final) :
    ∃ between, Replays initial older between ∧
      Replays between newer final := by
  induction newer generalizing final with
  | nil => exact ⟨final, hReplays, .nil⟩
  | cons x newer hInduction =>
      cases hReplays with
      | cons _ hLog hMoves =>
          rcases hInduction hLog with
            ⟨between, hOlder, hNewer⟩
          exact ⟨between, hOlder, .cons x hNewer hMoves⟩

------------------------------------------------------------
-- Requests of a Program
------------------------------------------------------------

/- All that a program asks for, as long as it is served. -/
def Asks
    (P : Exchange → Prop) :
    Program α → Prop
  | .done _ => True
  | .fail _ => True
  | .access _ next =>
    ∀ m, P (.saw m) ∧ (next m).Asks P
  | .ask r next =>
    ∀ answer, Exchange.IsServed (.asked r answer) →
      P (.asked r answer) ∧ (next answer).Asks P

variable {P : Exchange → Prop}
variable {f : α → Program β}

theorem asks_bind
    (hFirst : p.Asks P)
    (hRest : ∀ a, (f a).Asks P) :
    (p.bind f).Asks P := by
  induction p with
  | done a => exact hRest a
  | fail cause => trivial
  | access change next hInduction =>
      intro m
      exact ⟨(hFirst m).1, hInduction m (hFirst m).2⟩
  | ask r next hInduction =>
      intro answer hServed
      rcases hFirst answer hServed with ⟨hExchange, hNext⟩
      exact ⟨hExchange, hInduction answer hNext⟩

theorem asks_attempt
    (hAsks : p.Asks P) :
    p.attempt.Asks P := by
  induction p with
  | done a => trivial
  | fail cause => trivial
  | access change next hInduction =>
      intro m
      exact ⟨(hAsks m).1, hInduction m (hAsks m).2⟩
  | ask r next hInduction =>
      intro answer hServed
      rcases hAsks answer hServed with ⟨hExchange, hNext⟩
      exact ⟨hExchange, hInduction answer hNext⟩

theorem asks_handling
    {test : Cause → Bool}
    {handle : Cause → Program α}
    (hAsks : p.Asks P)
    (hHandle : ∀ cause, (handle cause).Asks P) :
    (p.handling test handle).Asks P := by
  refine asks_bind (asks_attempt hAsks) ?_
  intro result
  cases result with
  | ok a => trivial
  | error cause =>
      simp only
      split
      · exact hHandle cause
      · trivial

theorem asks_settle
    (result : Except Cause α) :
    (settle result).Asks P := by
  cases result <;> trivial

theorem asks_request
    {r : Request}
    (hRequest :
      ∀ answer, Exchange.IsServed (.asked r answer) →
        P (.asked r answer)) :
    (request r).Asks P :=
  fun answer hServed =>
    ⟨hRequest answer hServed, asks_settle answer⟩

/- What a program asks for is found in its runs. -/
theorem asks_of_runs
    {trace : List Exchange}
    {result : Except Cause α}
    (hRuns : Runs p trace result)
    (hAsks : p.Asks P)
    (hServed : ∀ e ∈ trace, e.IsServed) :
    ∀ e ∈ trace, P e := by
  induction hRuns with
  | done a => simp
  | fail cause => simp
  | access m hNext hInduction =>
      rcases hAsks m with ⟨hExchange, hRest⟩
      intro e hMember
      rcases List.mem_cons.mp hMember with rfl | hLater
      · exact hExchange
      · exact hInduction hRest
          (fun e hThere =>
            hServed e (List.mem_cons_of_mem _ hThere))
          e hLater
  | ask answer hNext hInduction =>
      rcases hAsks answer (hServed _ List.mem_cons_self) with
        ⟨hExchange, hRest⟩
      intro e hMember
      rcases List.mem_cons.mp hMember with rfl | hLater
      · exact hExchange
      · exact hInduction hRest
          (fun e hThere =>
            hServed e (List.mem_cons_of_mem _ hThere))
          e hLater

end GuildWarden.Program
