import GuildWarden.Proofs.Effect.Service

/-
  This file lets programs run beside each other. One gives way
  to the others only while it waits for the platform; what it
  does between two calls it does in one go. A property of what
  is shared holds whenever all of them rest if each program
  restores it before it rests.

  Key definitions include:
    * `Program.Rests`
    * `Program.Proceeds`
    * `Program.Abides`
    * `Program.Company`
    * `Program.Company.Reaches`

  Main statements:
    * `Program.Abides.bind`
    * `Program.Abides.of_performs`
    * `Program.Abides.of_proceeds`
    * `Program.Company.invariant_of_reaches`
-/

namespace GuildWarden.Program

variable {α β : Type}

------------------------------------------------------------
-- Blocks
------------------------------------------------------------

/- A program that has ended or is about to call the platform. -/
def Rests : Program α → Prop
  | .done _ => True
  | .fail _ => True
  | .access _ _ => False
  | .ask r _ => IsCall r

/- A program goes on, up to some point, without a call. -/
inductive Proceeds :
    Shared → Program α → Shared → Program α → Prop where
  | here
      (w : Shared)
      (p : Program α) :
      Proceeds w p w p
  | access
      {w later : Shared}
      {change : Memory → Memory}
      {next : Memory → Program α}
      {q : Program α}
      (hNext :
        Proceeds { w with memory := change w.memory }
          (next w.memory) later q) :
      Proceeds w (.access change next) later q
  | ask
      {w between later : Shared}
      {r : Request}
      {answer : Except Cause r.Answer}
      {next : Except Cause r.Answer → Program α}
      {q : Program α}
      (hOwn : ¬ IsCall r)
      (hServes : w.Serves between r answer)
      (hNext : Proceeds between (next answer) later q) :
      Proceeds w (.ask r next) later q

/- What is left of a program when its call is answered. -/
def answered
    (answer : Except Cause Payload) :
    Program α → Program α
  | .ask (.platform _) next => next answer
  | p => p

/- Whether a program is about to call the platform. -/
def isCalling : Program α → Bool
  | .ask (.platform _) _ => true
  | _ => false

/- Some exchanges of a program without a call, all served. -/
def goOn :
    Nat → Shared → Program α → Option (Shared × Program α)
  | 0, w, p => some (w, p)
  | n + 1, w, p =>
    if p.isCalling then none
    else
      (p.advance w (.ok .null)).bind fun (_, between, q) =>
        goOn n between q

theorem proceeds_of_goOn
    {n : Nat}
    {w later : Shared}
    {p q : Program α}
    (hDone : goOn n w p = some (later, q)) :
    Proceeds w p later q := by
  induction n generalizing w p with
  | zero =>
      cases hDone
      exact .here _ _
  | succ n hInduction =>
      unfold goOn at hDone
      split at hDone
      · cases hDone
      rename_i hOwn
      rcases Option.bind_eq_some_iff.mp hDone with
        ⟨⟨e, between, rest⟩, hAdvance, hRest⟩
      cases p with
      | done a => cases hAdvance
      | fail cause => cases hAdvance
      | access change next =>
          cases hAdvance
          exact .access (hInduction hRest)
      | ask r next =>
          rcases Option.map_eq_some_iff.mp hAdvance with
            ⟨⟨answer, between'⟩, hServe, hSame⟩
          cases hSame
          refine .ask ?_ (Shared.serves_of_serve hServe)
            (hInduction hRest)
          intro hCall
          cases r with
          | platform call => exact hOwn rfl
          | _ => exact hCall

------------------------------------------------------------
-- Restored Invariants
------------------------------------------------------------

/-
  A request may be answered: a call whenever the invariant
  holds again, since others went on meanwhile.
-/
def Resumes
    (I : Shared → Prop)
    (w later : Shared) :
    (r : Request) → Except Cause r.Answer → Prop
  | .platform _, _ => I later
  | r, answer => w.Serves later r answer

/-
  A program keeps an invariant: it holds before each call, and
  in the end the result and the state are as they should be.
-/
def Abides
    (I : Shared → Prop)
    (Q : Except Cause α → Shared → Prop)
    (w : Shared) :
    Program α → Prop
  | .done a => Q (.ok a) w
  | .fail cause => Q (.error cause) w
  | .access change next =>
    (next w.memory).Abides I Q
      { w with memory := change w.memory }
  | .ask r next =>
    (IsCall r → I w) ∧
      ∀ answer later, Resumes I w later r answer →
        (next answer).Abides I Q later

variable {I : Shared → Prop}
variable {w later : Shared}
variable {p q : Program α}
variable {f : α → Program β}

theorem resumes_iff
    {r : Request}
    {answer : Except Cause r.Answer}
    (hOwn : ¬ IsCall r) :
    Resumes I w later r answer ↔ w.Serves later r answer := by
  cases r with
  | platform call => exact absurd trivial hOwn
  | _ => exact Iff.rfl

namespace Abides

theorem mono
    {Q Q' : Except Cause α → Shared → Prop}
    (hAbides : Abides I Q w p)
    (hWeaker : ∀ result w, Q result w → Q' result w) :
    Abides I Q' w p := by
  induction p generalizing w with
  | done a => exact hWeaker _ _ hAbides
  | fail cause => exact hWeaker _ _ hAbides
  | access change next hInduction =>
      exact hInduction _ hAbides
  | ask r next hInduction =>
      refine ⟨hAbides.1, ?_⟩
      intro answer later hResumes
      exact hInduction answer (hAbides.2 answer later hResumes)

/- What follows a program starts where that ends. -/
theorem bind
    {Q : Except Cause β → Shared → Prop}
    (hAbides :
      Abides I
        (fun result w =>
          match result with
          | .ok a => Abides I Q w (f a)
          | .error cause => Q (.error cause) w)
        w p) :
    Abides I Q w (p.bind f) := by
  induction p generalizing w with
  | done a => exact hAbides
  | fail cause => exact hAbides
  | access change next hInduction =>
      exact hInduction _ hAbides
  | ask r next hInduction =>
      refine ⟨hAbides.1, ?_⟩
      intro answer later hResumes
      exact hInduction answer (hAbides.2 answer later hResumes)

theorem attempt
    {Q : Except Cause (Except Cause α) → Shared → Prop}
    (hAbides :
      Abides I (fun result => Q (.ok result)) w p) :
    Abides I Q w p.attempt := by
  induction p generalizing w with
  | done a => exact hAbides
  | fail cause => exact hAbides
  | access change next hInduction =>
      exact hInduction _ hAbides
  | ask r next hInduction =>
      refine ⟨hAbides.1, ?_⟩
      intro answer later hResumes
      exact hInduction answer (hAbides.2 answer later hResumes)

theorem settle
    {Q : Except Cause α → Shared → Prop}
    {result : Except Cause α}
    (hResult : Q result w) :
    Abides I Q w (settle result) := by
  cases result with
  | ok a => exact hResult
  | error cause => exact hResult

theorem handling
    {Q : Except Cause α → Shared → Prop}
    {test : Cause → Bool}
    {handle : Cause → Program α}
    (hAbides :
      Abides I
        (fun result w =>
          match result with
          | .ok a => Q (.ok a) w
          | .error cause =>
            Q (.error cause) w ∧
              Abides I Q w (handle cause))
        w p) :
    Abides I Q w (p.handling test handle) := by
  refine Abides.bind (Abides.attempt (hAbides.mono ?_))
  intro result w hResult
  cases result with
  | ok a => exact hResult
  | error cause =>
      simp only
      split
      · exact hResult.2
      · exact hResult.1

/- A program that only calls the platform changes nothing. -/
theorem of_calls
    (hCalls : p.Requests IsCall)
    (hHolds : I w) :
    Abides I (fun _ => I) w p := by
  induction p generalizing w with
  | done a => exact hHolds
  | fail cause => exact hHolds
  | access change next => exact hCalls.elim
  | ask r next hInduction =>
      refine ⟨fun _ => hHolds, ?_⟩
      intro answer later hResumes
      refine hInduction answer (hCalls.2 answer) ?_
      cases r with
      | platform call => exact hResumes
      | _ => exact hCalls.1.elim

/- A program without a call is one block. -/
theorem of_performs
    {Q : Except Cause α → Shared → Prop}
    (hOwn : p.Requests fun r => ¬ IsCall r)
    (hPerforms :
      ∀ trace result later,
        Performs w p trace result later → Q result later) :
    Abides I Q w p := by
  induction p generalizing w with
  | done a => exact hPerforms _ _ _ (.done w a)
  | fail cause => exact hPerforms _ _ _ (.fail w cause)
  | access change next => exact hOwn.elim
  | ask r next hInduction =>
      refine ⟨fun hCall => absurd hCall hOwn.1, ?_⟩
      intro answer later hResumes
      refine hInduction answer (hOwn.2 answer) ?_
      intro trace result final hRest
      exact hPerforms _ _ _
        (.ask ((resumes_iff hOwn.1).mp hResumes) hRest)

/- A program still abides after it went on by itself. -/
theorem of_proceeds
    {Q : Except Cause α → Shared → Prop}
    (hAbides : Abides I Q w p)
    (hProceeds : Proceeds w p later q) :
    Abides I Q later q := by
  induction hProceeds with
  | here => exact hAbides
  | access hNext hInduction => exact hInduction hAbides
  | ask hOwn hServes hNext hInduction =>
      exact hInduction
        (hAbides.2 _ _ ((resumes_iff hOwn).mpr hServes))

/- The invariant holds while a program rests. -/
theorem of_rests
    (hAbides : Abides I (fun _ => I) w q)
    (hRests : q.Rests) :
    I w ∧ ∀ w', I w' → Abides I (fun _ => I) w' q := by
  cases q with
  | done a => exact ⟨hAbides, fun _ hHolds => hHolds⟩
  | fail cause => exact ⟨hAbides, fun _ hHolds => hHolds⟩
  | access change next => exact hRests.elim
  | ask r next =>
      refine ⟨hAbides.1 hRests, ?_⟩
      intro w' hHolds
      refine ⟨fun _ => hHolds, ?_⟩
      intro answer later hResumes
      cases r with
      | platform call => exact hAbides.2 answer later hResumes
      | _ => exact hRests.elim

end Abides

------------------------------------------------------------
-- Companies
------------------------------------------------------------

/- Programs beside each other, and what they share. -/
structure Company where
  shared : Shared
  tasks : List (Program Unit)

namespace Company

/-
  One step: a program is started, the platform answers a call,
  a program goes on by itself until it rests, or time passes.
-/
inductive Steps
    (IsTask : Program Unit → Prop) :
    Company → Company → Prop where
  | start
      {c : Company}
      (p : Program Unit)
      (hTask : IsTask p) :
      Steps IsTask c { c with tasks := c.tasks ++ [p] }
  | answer
      {c : Company}
      {n : Nat}
      {call : Platform.Call}
      {next : Except Cause Payload → Program Unit}
      (answer : Except Cause Payload)
      (hTask :
        c.tasks[n]? = some (.ask (.platform call) next)) :
      Steps IsTask c
        { c with tasks := c.tasks.set n (next answer) }
  | block
      {c : Company}
      {n : Nat}
      {p q : Program Unit}
      {later : Shared}
      (hTask : c.tasks[n]? = some p)
      (hProceeds : Proceeds c.shared p later q)
      (hRests : q.Rests) :
      Steps IsTask c
        {
          shared := later
          tasks := c.tasks.set n q
        }
  | pass
      {c : Company}
      (now : Rat)
      (hNow : c.shared.clock ≤ now) :
      Steps IsTask c
        { c with shared := { c.shared with clock := now } }

/- A call of a task is answered. -/
theorem Steps.of_isCalling
    {IsTask : Program Unit → Prop}
    {c : Company}
    {p : Program Unit}
    (n : Nat)
    (answer : Except Cause Payload)
    (hTask : c.tasks[n]? = some p)
    (hCalling : p.isCalling = true) :
    Steps IsTask c
      { c with tasks := c.tasks.set n (p.answered answer) } := by
  cases p with
  | ask r next =>
      cases r with
      | platform call => exact .answer answer hTask
      | _ => cases hCalling
  | _ => cases hCalling

/- What can come about, from nothing to do on. -/
inductive Reaches
    (IsTask : Program Unit → Prop)
    (w : Shared) : Company → Prop where
  | start :
      Reaches IsTask w ⟨w, []⟩
  | step
      {c d : Company}
      (hReaches : Reaches IsTask w c)
      (hSteps : Steps IsTask c d) :
      Reaches IsTask w d

/- What holds of a company after each step. -/
structure Invariant
    (I : Shared → Prop)
    (c : Company) : Prop where
  holds : I c.shared
  abides :
    ∀ p ∈ c.tasks, ∀ w, I w → Abides I (fun _ => I) w p

variable {IsTask : Program Unit → Prop}
variable {c d : Company}

theorem Invariant.set
    {n : Nat}
    (hInvariant : Invariant I c)
    (hHolds : I later)
    {p : Program Unit}
    (hAbides : ∀ w, I w → Abides I (fun _ => I) w p) :
    Invariant I ⟨later, c.tasks.set n p⟩ where
  holds := hHolds
  abides := by
    intro q hMember
    rcases List.mem_or_eq_of_mem_set hMember with
      hOld | rfl
    · exact hInvariant.abides q hOld
    · exact hAbides

theorem Invariant.of_steps
    (hTasks :
      ∀ p, IsTask p → ∀ w, I w →
        Abides I (fun _ => I) w p)
    (hClock :
      ∀ w now, I w → I { w with clock := now })
    (hInvariant : Invariant I c)
    (hSteps : Steps IsTask c d) :
    Invariant I d := by
  cases hSteps with
  | start p hTask =>
      refine ⟨hInvariant.holds, ?_⟩
      intro q hMember
      rcases List.mem_append.mp hMember with hOld | hNew
      · exact hInvariant.abides q hOld
      · rw [List.mem_singleton.mp hNew]
        exact hTasks p hTask
  | answer answer hTask =>
      have hCall := hInvariant.abides _
        (List.mem_of_getElem? hTask) _ hInvariant.holds
      exact hInvariant.set hInvariant.holds (hCall.2 answer)
  | block hTask hProceeds hRests =>
      have hAbides := hInvariant.abides _
        (List.mem_of_getElem? hTask) _ hInvariant.holds
      rcases (hAbides.of_proceeds hProceeds).of_rests hRests
        with ⟨hHolds, hLater⟩
      exact hInvariant.set hHolds hLater
  | pass now _ =>
      exact ⟨hClock _ _ hInvariant.holds, hInvariant.abides⟩

/- What each program restores always holds. -/
theorem invariant_of_reaches
    (hTasks :
      ∀ p, IsTask p → ∀ w, I w →
        Abides I (fun _ => I) w p)
    (hClock :
      ∀ w now, I w → I { w with clock := now })
    (hStart : I w)
    (hReaches : Reaches IsTask w c) :
    Invariant I c := by
  induction hReaches with
  | start => exact ⟨hStart, by simp⟩
  | step _ hSteps hInduction =>
      exact hInduction.of_steps hTasks hClock hSteps

end Company

end GuildWarden.Program
