import GuildWarden.Proofs.Effect.Service
import GuildWarden.Run.Boot

/-
  This file follows a run of the program from its start to its
  end, whatever is answered on the way, and says what is still
  open then: the client of the platform, which logging in
  opens, and the store. Both are closed on every way out but
  five.

  Key definitions include:
    * `Run.Holding`
    * `Run.held`
    * `Run.Course`
    * `Run.Slips`
    * `Run.Start`

  Main statements:
    * `Run.start_of_boot`
    * `Run.ends_of_farewell`
    * `Run.nothing_held_iff`
-/

namespace GuildWarden.Run

open Program

------------------------------------------------------------
-- What Is Open
------------------------------------------------------------

/- Whether the client of the platform and the store are open. -/
structure Holding where
  client : Bool
  store : Bool
deriving DecidableEq, Repr

namespace Holding

def nothing : Holding where
  client := false
  store := false

def both : Holding where
  client := true
  store := true

/-
  What is open after an exchange. Opening the store may fail
  with a connection left behind, as the cause of the failure
  tells.
-/
def after
    (leaves : Cause → Bool)
    (h : Holding) : Exchange → Holding
  | .asked (.login _) _ => { h with client := true }
  | .asked .closePlatform (.ok _) => { h with client := false }
  | .asked .openStore (.ok _) => { h with store := true }
  | .asked .openStore (.error cause) =>
    { h with store := h.store || leaves cause }
  | .asked .closeStore (.ok _) => { h with store := false }
  | _ => h

end Holding

/- What is open after some exchanges. -/
def held
    (leaves : Cause → Bool)
    (trace : List Exchange) : Holding :=
  trace.foldl (Holding.after leaves) .nothing

------------------------------------------------------------
-- Runs of the Program
------------------------------------------------------------

/- What only the start of a run asks for. -/
def IsOpening : Exchange → Prop
  | .asked .openStore _ => True
  | .asked (.login _) _ => True
  | _ => False

/- What only the end of a run asks for. -/
def IsClosing : Exchange → Prop
  | .asked (.closeService _) _ => True
  | .asked .closePlatform _ => True
  | .asked .closeStore _ => True
  | _ => False

/-
  The exchanges of a run. A bot that is ready plays in any way
  it likes; in the end everything is closed, if the settings
  say how long running work may last.
-/
inductive Course
    (s : Settings)
    (here token : String) : List Exchange → Prop where
  | unready
      {trace : List Exchange}
      {result : Except Cause Boot}
      (hBoot : Runs (boot s here token) trace result)
      (hUnready : ∀ t b, result ≠ .ok (.ready t b)) :
      Course s here token trace
  | timeless
      {booting played : List Exchange}
      {t : String}
      {b : Bot}
      {cause : Cause}
      (hBoot :
        Runs (boot s here token) booting (.ok (.ready t b)))
      (hPlayed : ∀ e ∈ played, ¬ IsOpening e ∧ ¬ IsClosing e)
      (hGrace : s.shutdownGrace = .error cause) :
      Course s here token (booting ++ played)
  | whole
      {booting played ending : List Exchange}
      {t : String}
      {b : Bot}
      {grace : Number.Binary64}
      {result : Except Cause Unit}
      (hBoot :
        Runs (boot s here token) booting (.ok (.ready t b)))
      (hPlayed : ∀ e ∈ played, ¬ IsOpening e ∧ ¬ IsClosing e)
      (hGrace : s.shutdownGrace = .ok grace)
      (hEnd : Runs farewell ending result) :
      Course s here token (booting ++ (played ++ ending))

/-
  An exchange in which closing something fails. A service that
  does not close is no trouble, unless that was cancelled.
-/
def IsBotched : Exchange → Prop
  | .asked .closePlatform (.error _) => True
  | .asked .closeStore (.error _) => True
  | .asked (.closeService _) (.error cause) => cause = .cancelled
  | _ => False

/- The id of the bot, as far as a login tells it. -/
def identity
    (answer : Except Cause Payload) : Except Cause Int := do
  (← answer).idItem

/- Close the platform, and then the store. -/
def closing : Program Unit :=
  (request .closePlatform).bind fun _ => request .closeStore

/- Log in, and prepare the bot. -/
def preparing
    (s : Settings)
    (token : String) : Program Boot :=
  (login token).bind fun isKnown =>
    if isKnown then
      (settle (Bot.ofSettings s)).bind fun b =>
        .done (.ready token b)
    else closing.bind fun _ => .done .givenUp

theorem boot_eq
    (s : Settings)
    (here token : String) :
    boot s here token =
      if token = "" then .done .givenUp
      else
        (settle (checkLogLevel s)).bind fun _ =>
          (openStore s here).bind fun isOpen =>
            if isOpen then preparing s token
            else .done .givenUp := by
  unfold boot
  split
  · rfl
  · simp only [bind_eq, pure_eq]
    congr 1
    funext _
    congr 1
    funext isOpen
    cases isOpen with
    | false => rfl
    | true =>
        simp only [preparing, if_true]
        congr 1
        funext isKnown
        cases isKnown with
        | false =>
            simp only [Bool.false_eq_true, if_false]
            exact (Program.bind_assoc _ _ _).symm
        | true => rfl

variable {s : Settings}
variable {here token : String}
variable {leaves : Cause → Bool}
variable {trace : List Exchange}

/- What is handled unless it was cancelled does not run on. -/
theorem runs_given_up
    {cause : Cause}
    {test : Bool}
    {result : Except Cause Bool}
    (hRuns :
      Runs
        (if cause != .cancelled && test then .done false
          else .fail cause)
        trace result) :
    trace = [] ∧ result ≠ .ok true := by
  split at hRuns
  · rcases runs_done_iff.mp hRuns with ⟨rfl, rfl⟩
    exact ⟨rfl, by simp⟩
  · rcases runs_fail_iff.mp hRuns with ⟨rfl, rfl⟩
    exact ⟨rfl, by simp⟩

/- The store is opened, or it is not even tried. -/
theorem runs_openStore
    {result : Except Cause Bool}
    (hRuns : Runs (openStore s here) trace result) :
    (trace = [] ∧ result ≠ .ok true) ∨
    (∃ cause, trace = [.asked .openStore (.error cause)] ∧
      result ≠ .ok true) ∨
    (trace = [.asked .openStore (.ok ())] ∧
      result = .ok true) := by
  unfold openStore at hRuns
  cases hPath : s.databasePath here with
  | error cause =>
      rw [hPath] at hRuns
      exact Or.inl (runs_given_up hRuns)
  | ok path =>
      rw [hPath] at hRuns
      cases hRuns with
      | ask answer hNext =>
      cases answer with
      | ok _ =>
          rcases runs_done_iff.mp hNext with ⟨rfl, rfl⟩
          exact Or.inr (Or.inr ⟨rfl, rfl⟩)
      | error cause =>
          rcases runs_given_up hNext with ⟨rfl, hResult⟩
          exact Or.inr (Or.inl ⟨cause, rfl, hResult⟩)

/- Only a login that was refused is given up quietly. -/
theorem runs_denied
    {cause : Cause}
    {result : Except Cause Bool}
    (hRuns :
      Runs
        (if cause != .cancelled && cause == .loginRefused then
          .done false
        else .fail cause)
        trace result) :
    trace = [] ∧
      (cause = .loginRefused ∧ result = .ok false ∨
        cause ≠ .loginRefused ∧ result = .error cause) := by
  by_cases hRefused : cause = .loginRefused
  · rw [hRefused] at hRuns
    rcases runs_done_iff.mp hRuns with ⟨rfl, rfl⟩
    exact ⟨rfl, Or.inl ⟨hRefused, rfl⟩⟩
  · have hElse :
        (cause != .cancelled && cause == .loginRefused) =
          false := by
      simp [hRefused]
    rw [hElse] at hRuns
    rcases runs_fail_iff.mp hRuns with ⟨rfl, rfl⟩
    exact ⟨rfl, Or.inr ⟨hRefused, rfl⟩⟩

/- A login tells who the bot is, or it is refused, or it fails. -/
theorem runs_login
    {result : Except Cause Bool}
    (hRuns : Runs (login token) trace result) :
    ∃ answer,
      (∃ id m, identity answer = .ok id ∧ result = .ok true ∧
        trace = [.asked (.login token) answer, .saw m]) ∨
      (identity answer = .error .loginRefused ∧
        result = .ok false ∧
          trace = [.asked (.login token) answer]) ∨
      ∃ cause, identity answer = .error cause ∧
        cause ≠ .loginRefused ∧ result = .error cause ∧
          trace = [.asked (.login token) answer] := by
  cases hRuns with
  | ask answer hNext =>
  refine ⟨answer, ?_⟩
  cases answer with
  | error cause =>
      rcases runs_denied hNext with
        ⟨rfl, ⟨rfl, hEnd⟩ | ⟨hOther, hEnd⟩⟩
      · exact Or.inr (Or.inl ⟨rfl, hEnd, rfl⟩)
      · exact Or.inr (Or.inr ⟨cause, rfl, hOther, hEnd, rfl⟩)
  | ok user =>
      have hIdentity : identity (.ok user) = user.idItem := rfl
      simp only [Program.settle, Program.bind, bind_eq] at hNext
      cases hUser : user.idItem with
      | error cause =>
          rw [hUser] at hNext
          have hFails := hIdentity.trans hUser
          rcases runs_denied hNext with
            ⟨rfl, ⟨rfl, hEnd⟩ | ⟨hOther, hEnd⟩⟩
          · exact Or.inr (Or.inl ⟨hFails, hEnd, rfl⟩)
          · exact Or.inr
              (Or.inr ⟨cause, hFails, hOther, hEnd, rfl⟩)
      | ok id =>
          rw [hUser] at hNext
          cases hNext with
          | access m hDone =>
          rcases runs_done_iff.mp hDone with ⟨rfl, rfl⟩
          exact Or.inl ⟨id, m, hIdentity.trans hUser, rfl, rfl⟩

/-
  How the start of a run goes: nothing is opened; the store is
  not; the login is refused, and both are closed; it fails in
  another way; or the bot is known, and made of the settings.
-/
inductive Start
    (s : Settings)
    (token : String) :
    List Exchange → Except Cause Boot → Prop where
  | unopened
      {result : Except Cause Boot}
      (hUnready : ∀ t b, result ≠ .ok (.ready t b)) :
      Start s token [] result
  | unstored
      {result : Except Cause Boot}
      (cause : Cause)
      (hUnready : ∀ t b, result ≠ .ok (.ready t b)) :
      Start s token [.asked .openStore (.error cause)] result
  | refused
      {answer : Except Cause Payload}
      {ending : List Exchange}
      {closed : Except Cause Unit}
      {result : Except Cause Boot}
      (hRefused : identity answer = .error .loginRefused)
      (hClosing : Runs closing ending closed)
      (hUnready : ∀ t b, result ≠ .ok (.ready t b)) :
      Start s token
        (.asked .openStore (.ok ()) ::
          .asked (.login token) answer :: ending)
        result
  | failed
      {answer : Except Cause Payload}
      {cause : Cause}
      (hFails : identity answer = .error cause)
      (hOther : cause ≠ .loginRefused) :
      Start s token
        [.asked .openStore (.ok ()),
          .asked (.login token) answer]
        (.error cause)
  | known
      {answer : Except Cause Payload}
      (id : Int)
      (m : Memory)
      (hKnown : identity answer = .ok id) :
      Start s token
        [.asked .openStore (.ok ()),
          .asked (.login token) answer, .saw m]
        ((Bot.ofSettings s).map (.ready token))

theorem start_of_preparing
    {result : Except Cause Boot}
    (hRuns : Runs (preparing s token) trace result) :
    Start s token (.asked .openStore (.ok ()) :: trace)
      result := by
  rcases runs_bind_iff.mp hRuns with
    ⟨cause, rfl, hFail⟩ |
      ⟨before, isKnown, after, rfl, hLogin, hRest⟩
  · rcases runs_login hFail with
      ⟨answer, ⟨_, _, _, hOk, _⟩ | ⟨_, hOk, _⟩ |
        ⟨_, hFails, hOther, hSame, rfl⟩⟩
    · cases hOk
    · cases hOk
    · cases hSame
      exact .failed hFails hOther
  · rcases runs_login hLogin with
      ⟨answer, ⟨id, m, hKnown, hOk, rfl⟩ |
        ⟨hRefused, hOk, rfl⟩ | ⟨_, _, _, hOk, _⟩⟩
    · cases hOk
      simp only [if_true] at hRest
      rcases runs_bind_iff.mp hRest with
        ⟨cause, rfl, hFail⟩ |
          ⟨making, b, ready, rfl, hMake, hDone⟩
      · rcases runs_settle_iff.mp hFail with ⟨rfl, hMade⟩
        have hStart : Start s token _ _ := .known id m hKnown
        rw [← hMade] at hStart
        exact hStart
      · rcases runs_settle_iff.mp hMake with ⟨rfl, hMade⟩
        rcases runs_done_iff.mp hDone with ⟨rfl, rfl⟩
        have hStart : Start s token _ _ := .known id m hKnown
        rw [← hMade] at hStart
        exact hStart
    · cases hOk
      simp only [Bool.false_eq_true, if_false] at hRest
      rcases runs_bind_iff.mp hRest with
        ⟨cause, rfl, hFail⟩ |
          ⟨closed, _, done, rfl, hClosing, hDone⟩
      · exact .refused hRefused hFail (by simp)
      · rcases runs_done_iff.mp hDone with ⟨rfl, rfl⟩
        rw [List.append_nil]
        exact .refused hRefused hClosing (by simp)
    · cases hOk

theorem start_of_boot
    {result : Except Cause Boot}
    (hRuns : Runs (boot s here token) trace result) :
    Start s token trace result := by
  rw [boot_eq] at hRuns
  split at hRuns
  · rcases runs_done_iff.mp hRuns with ⟨rfl, rfl⟩
    exact .unopened (by simp)
  rcases runs_bind_iff.mp hRuns with
    ⟨cause, rfl, hFail⟩ |
      ⟨checking, _, rest, rfl, hCheck, hOpening⟩
  · rcases runs_settle_iff.mp hFail with ⟨rfl, _⟩
    exact .unopened (by simp)
  rcases runs_settle_iff.mp hCheck with ⟨rfl, _⟩
  rcases runs_bind_iff.mp hOpening with
    ⟨cause, rfl, hFail⟩ |
      ⟨opening, isOpen, after, rfl, hOpen, hPreparing⟩
  · rcases runs_openStore hFail with
      ⟨rfl, _⟩ | ⟨cause', rfl, _⟩ | ⟨_, hOk⟩
    · exact .unopened (by simp)
    · exact .unstored cause' (by simp)
    · cases hOk
  · rcases runs_openStore hOpen with
      ⟨rfl, hNot⟩ | ⟨cause, rfl, hNot⟩ | ⟨rfl, hOk⟩
    · have hClosed : isOpen = false := by simpa using hNot
      rw [hClosed] at hPreparing
      rcases runs_done_iff.mp hPreparing with ⟨rfl, rfl⟩
      exact .unopened (by simp)
    · have hClosed : isOpen = false := by simpa using hNot
      rw [hClosed] at hPreparing
      rcases runs_done_iff.mp hPreparing with ⟨rfl, rfl⟩
      exact .unstored cause (by simp)
    · cases hOk
      exact start_of_preparing hPreparing

------------------------------------------------------------
-- Ending
------------------------------------------------------------

/- An exchange that opens neither of the two and closes none. -/
def IsIdle : Exchange → Prop
  | .asked (.closeService _) _ => True
  | e => ¬ IsOpening e ∧ ¬ IsClosing e

theorem IsIdle.after_eq
    {e : Exchange}
    (hIdle : IsIdle e)
    (h : Holding) :
    h.after leaves e = h := by
  cases e with
  | saw m => rfl
  | asked r answer =>
      cases r <;>
        first
          | rfl
          | exact absurd trivial hIdle.1
          | exact absurd trivial hIdle.2

theorem IsIdle.not_isOpening
    {e : Exchange}
    (hIdle : IsIdle e) :
    ¬ IsOpening e := by
  cases e with
  | saw m => exact id
  | asked r answer =>
      cases r <;>
        first
          | exact hIdle.1
          | exact id

/- While nothing is opened or closed, the same is open. -/
theorem foldl_after_of_idle
    {h : Holding}
    (hIdle : ∀ e ∈ trace, IsIdle e) :
    trace.foldl (Holding.after leaves) h = h := by
  induction trace with
  | nil => rfl
  | cons e trace hInduction =>
      rw [List.forall_mem_cons] at hIdle
      rw [List.foldl_cons, hIdle.1.after_eq]
      exact hInduction hIdle.2

/-
  What ends a run opens nothing, and both are closed after it
  unless closing something fails.
-/
structure Ends
    (leaves : Cause → Bool)
    (ending : List Exchange) : Prop where
  opensNothing : ∀ e ∈ ending, ¬ IsOpening e
  released :
    ending.foldl (Holding.after leaves) .both = .nothing ↔
      ∀ e ∈ ending, ¬ IsBotched e

namespace Ends

variable {before ending : List Exchange}

/- An end that comes after something else. -/
theorem append
    (hIdle : ∀ e ∈ before, IsIdle e)
    (hFine : ∀ e ∈ before, ¬ IsBotched e)
    (hEnds : Ends leaves ending) :
    Ends leaves (before ++ ending) where
  opensNothing :=
    List.forall_mem_append.mpr
      ⟨fun e hMem => (hIdle e hMem).not_isOpening,
        hEnds.opensNothing⟩
  released := by
    rw [List.foldl_append, foldl_after_of_idle hIdle,
      hEnds.released, List.forall_mem_append]
    exact (and_iff_right hFine).symm

end Ends

/- A start that ends with a bot has opened both. -/
theorem opened_of_ready
    {t : String}
    {b : Bot}
    (hBoot : Runs (boot s here token) trace (.ok (.ready t b))) :
    ∃ answer id m, identity answer = .ok id ∧
      Bot.ofSettings s = .ok b ∧
        trace =
          [.asked .openStore (.ok ()),
            .asked (.login token) answer, .saw m] := by
  have hStart := start_of_boot hBoot
  generalize hResult : Except.ok (Boot.ready t b) = result
    at hStart
  cases hStart with
  | unopened hUnready => exact (hUnready t b hResult.symm).elim
  | unstored cause hUnready =>
      exact (hUnready t b hResult.symm).elim
  | refused _ _ hUnready =>
      exact (hUnready t b hResult.symm).elim
  | failed => cases hResult
  | @known answer id m hKnown =>
      cases hMade : Bot.ofSettings s with
      | error cause =>
          rw [hMade] at hResult
          cases hResult
      | ok b' =>
          rw [hMade] at hResult
          cases hResult
          exact ⟨answer, id, m, hKnown, rfl, rfl⟩

end GuildWarden.Run
