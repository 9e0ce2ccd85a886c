import GuildWarden.Proofs.Effect.Service
import GuildWarden.Store.Transaction

/-
  This file describes programs that make up no failure: they
  fail only with a cause that a request of theirs was answered
  with. Transactions and readings of such programs make up
  none either.

  Key definitions include:
    * `Program.Relays`
    * `Program.IsRefused`

  Main statements:
    * `Program.Relays.of_runs`
    * `Program.Relays.of_performs`
    * `Program.ne_cancelled_of_relays`
    * `Program.relays_transaction`
-/

namespace GuildWarden.Program

variable {α β : Type}

/-
  A program fails only with a cause that is known, or that a
  request of it was answered with.
-/
def Relays
    (known : Cause → Prop) : Program α → Prop
  | .done _ => True
  | .fail cause => known cause
  | .access _ next => ∀ m, (next m).Relays known
  | .ask _ next =>
    ∀ answer,
      (next answer).Relays fun cause =>
        known cause ∨ answer = .error cause

/- Some request was answered with a failure. -/
def IsRefused
    (trace : List Exchange) : Prop :=
  ∃ r cause, .asked r (.error cause) ∈ trace

variable {known : Cause → Prop}
variable {p : Program α}
variable {f : α → Program β}

namespace Relays

theorem mono
    {others : Cause → Prop}
    (hRelays : p.Relays known)
    (hMore : ∀ cause, known cause → others cause) :
    p.Relays others := by
  induction p generalizing known others with
  | done a => trivial
  | fail cause => exact hMore cause hRelays
  | access change next hInduction =>
      intro m
      exact hInduction m (hRelays m) hMore
  | ask r next hInduction =>
      intro answer
      exact hInduction answer (hRelays answer) fun cause =>
        Or.imp_left (hMore cause)

theorem settle
    (result : Except Cause α) :
    (settle result).Relays fun cause => result = .error cause := by
  cases result with
  | ok a => trivial
  | error cause => rfl

theorem request
    (r : Request) :
    (request r).Relays known :=
  fun answer => (settle answer).mono fun _ => Or.inr

theorem bind
    (hFirst : p.Relays known)
    (hRest : ∀ a, (f a).Relays known) :
    (p.bind f).Relays known := by
  induction p generalizing known with
  | done a => exact hRest a
  | fail cause => exact hFirst
  | access change next hInduction =>
      intro m
      exact hInduction m (hFirst m) hRest
  | ask r next hInduction =>
      intro answer
      exact hInduction answer (hFirst answer) fun a =>
        (hRest a).mono fun _ => Or.inl

/- What is attempted may fail again with the same cause. -/
theorem attempt_bind
    {f : Except Cause α → Program β}
    (hFirst : p.Relays known)
    (hOk : ∀ a, (f (.ok a)).Relays known)
    (hError : ∀ cause, (f (.error cause)).Relays (· = cause)) :
    (p.attempt.bind f).Relays known := by
  induction p generalizing known with
  | done a => exact hOk a
  | fail cause =>
      refine (hError cause).mono ?_
      rintro _ rfl
      exact hFirst
  | access change next hInduction =>
      intro m
      exact hInduction m (hFirst m) hOk
  | ask r next hInduction =>
      intro answer
      exact hInduction answer (hFirst answer) fun a =>
        (hOk a).mono fun _ => Or.inl

/- So may what is handled, if its handler fails with it alone. -/
theorem handling
    {test : Cause → Bool}
    {handle : Cause → Program α}
    (hFirst : p.Relays known)
    (hHandle : ∀ cause, (handle cause).Relays (· = cause)) :
    (p.handling test handle).Relays known := by
  refine attempt_bind hFirst (fun _ => trivial) ?_
  intro cause
  simp only
  split
  · exact hHandle cause
  · exact rfl

variable {w later : Shared}
variable {trace : List Exchange}

theorem of_runs
    {cause : Cause}
    (hRelays : p.Relays known)
    (hRuns : Runs p trace (.error cause)) :
    known cause ∨ ∃ r, .asked r (.error cause) ∈ trace := by
  generalize hResult : Except.error cause = result at hRuns
  induction hRuns generalizing known with
  | done => cases hResult
  | fail =>
      cases hResult
      exact Or.inl hRelays
  | access m hNext hInduction =>
      rcases hInduction (hRelays _) hResult with
        hKnown | ⟨r, hMember⟩
      · exact Or.inl hKnown
      · exact Or.inr ⟨r, List.mem_cons_of_mem _ hMember⟩
  | @ask r _ _ _ answer hNext hInduction =>
      rcases hInduction (hRelays _) hResult with
        (hKnown | rfl) | ⟨r, hMember⟩
      · exact Or.inl hKnown
      · exact Or.inr ⟨r, List.mem_cons_self⟩
      · exact Or.inr ⟨r, List.mem_cons_of_mem _ hMember⟩

theorem of_performs
    {cause : Cause}
    (hRelays : p.Relays known)
    (hPerforms : Performs w p trace (.error cause) later) :
    known cause ∨ ∃ r, .asked r (.error cause) ∈ trace :=
  hRelays.of_runs hPerforms.runs

end Relays

------------------------------------------------------------
-- Causes
------------------------------------------------------------

variable {w later : Shared}
variable {trace : List Exchange}

/- What was answered was served. -/
theorem exists_serves_of_mem
    {result : Except Cause α}
    {r : Request}
    {answer : Except Cause r.Answer}
    (hPerforms : Performs w p trace result later)
    (hMember : .asked r answer ∈ trace) :
    ∃ before after : Shared, before.Serves after r answer := by
  induction hPerforms with
  | done => cases hMember
  | fail => cases hMember
  | access hNext hInduction =>
      rcases List.mem_cons.mp hMember with hSame | hLater
      · cases hSame
      · exact hInduction hLater
  | ask hServes hNext hInduction =>
      rcases List.mem_cons.mp hMember with hSame | hLater
      · cases hSame
        exact ⟨_, _, hServes⟩
      · exact hInduction hLater

/- Nothing but a call is cancelled. -/
theorem Shared.Serves.isCall_of_cancelled
    {r : Request}
    (hServes : w.Serves later r (.error .cancelled)) :
    IsCall r := by
  cases r with
  | platform call => trivial
  | statement s => exact hServes.1 rfl
  | commit => exact hServes.1 rfl
  | now => cases hServes.1
  | reachStore => cases hServes.1
  | lockStore => cases hServes.2.1
  | unlockStore => cases hServes.1
  | rollback => cases hServes.1
  | _ => exact hServes.elim

/- A program that calls nobody was refused if it fails. -/
theorem ne_cancelled_of_relays
    {cause : Cause}
    (hRelays : p.Relays fun _ => False)
    (hOwn : p.Requests fun r => ¬ IsCall r)
    (hPerforms : Performs w p trace (.error cause) later) :
    cause ≠ .cancelled ∧ IsRefused trace := by
  rcases hRelays.of_performs hPerforms with
    hNever | ⟨r, hMember⟩
  · exact hNever.elim
  refine ⟨?_, r, cause, hMember⟩
  rintro rfl
  rcases exists_serves_of_mem hPerforms hMember with
    ⟨_, _, hServes⟩
  exact hOwn.of_performs hPerforms r _ hMember
    hServes.isCall_of_cancelled

------------------------------------------------------------
-- The Store
------------------------------------------------------------

theorem relays_reading
    {body : Program α}
    (hBody : body.Relays known) :
    (Store.reading body).Relays known :=
  (Relays.request .reachStore).bind fun _ => hBody

theorem relays_committing
    {body : Program α}
    (hBody : body.Relays known) :
    (Store.committing body).Relays known := by
  refine Relays.attempt_bind (hBody.bind fun a =>
    (Relays.request .commit).bind fun _ => trivial)
      (fun _ => trivial) ?_
  intro cause
  simp only [Bool.and_true]
  split
  · exact (Relays.request .rollback).bind fun _ => rfl
  · exact rfl

theorem relays_transaction
    {body : Program α}
    (hBody : body.Relays known) :
    (Store.transaction body).Relays known := by
  refine (Relays.request .reachStore).bind fun _ =>
    (Relays.request .lockStore).bind fun _ =>
      Relays.attempt_bind (relays_committing hBody) ?_ ?_
  · intro a
    exact (Relays.request .unlockStore).bind fun _ => trivial
  · intro cause
    exact (Relays.request .unlockStore).bind fun _ => rfl

end GuildWarden.Program
