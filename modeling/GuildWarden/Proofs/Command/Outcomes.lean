import GuildWarden.Proofs.Command.Admission

/-
  This file says how the routing of a message can end. A call
  is judged first, and that does not fail; its handler runs at
  most once meanwhile. Then a call that went well is handled
  without a word, and for any other the caller gets one reply.
  A reply that the platform refuses changes nothing, but any
  other failure of the reply is what the routing ends with.

  Key definitions include:
    * `Router.Gate.admission`
    * `Router.Gate.judge`
    * `Router.Gate.Judges`
    * `Router.Gate.Answers`

  Main statements:
    * `Router.Gate.around_eq`
    * `Router.Gate.runs_judge_iff`
    * `Router.Gate.runs_answer_iff`
    * `Router.runs_route_iff`
-/

namespace GuildWarden

open Program

variable {trace : List Exchange}

namespace Permission

variable {s : RoleSettings}
variable {tier : Tier}
variable {cause : Cause}

/- A look at the role cache does not fail. -/
theorem not_fails_hasTier
    {guildId : Option Int}
    {known : IdMap String}
    {held : Option IdSet} :
    ¬ Runs (hasTier s guildId tier known held) trace
      (.error cause) := by
  intro hRuns
  unfold hasTier at hRuns
  split at hRuns
  · cases hRuns
  · cases hRuns
  · split at hRuns
    · cases hRuns with
      | access m hNext => cases hNext
    · cases hRuns

theorem not_fails_holds
    {guildId : Option Int}
    {userId : Int}
    {fresh : Option IdSet} :
    ¬ Runs (holds s guildId userId tier fresh) trace
      (.error cause) := by
  intro hRuns
  unfold holds at hRuns
  split at hRuns
  · exact not_fails_hasTier hRuns
  · cases hRuns with
    | access m hNext => exact not_fails_hasTier hNext

end Permission

namespace Router

/- A reply that the platform refuses is as good as one made. -/
def heard : Except Cause Unit → Except Cause Unit
  | .error (.refused _) => .ok ()
  | said => said

/- Every other failure is heard. -/
theorem error_eq_heard_iff
    {said : Except Cause Unit}
    {failure : Cause} :
    .error failure = heard said ↔
      said = .error failure ∧
        ∀ status, failure ≠ .refused status := by
  cases said with
  | ok _ => simp [heard]
  | error cause =>
      cases cause with
      | refused status =>
          constructor
          · intro hHeard
            cases hHeard
          · rintro ⟨hSame, hOther⟩
            cases hSame
            exact (hOther status rfl).elim
      | _ =>
          constructor
          · intro hHeard
            cases hHeard
            exact ⟨rfl, by simp⟩
          · rintro ⟨hSame, _⟩
            exact hSame.symm

theorem safeReply_eq
    (ctx : Command.Context)
    (s : String) :
    safeReply ctx s =
      (ctx.say s).attempt.bind fun said =>
        settle (heard said) := by
  unfold safeReply handling
  simp only [bind_eq, pure_eq, throw_eq]
  congr
  funext said
  cases said with
  | ok _ => rfl
  | error cause => cases cause <;> rfl

/- It runs as the reply itself, and ends as that is heard. -/
theorem runs_safeReply_iff
    {ctx : Command.Context}
    {s : String}
    {result : Except Cause Unit} :
    Runs (safeReply ctx s) trace result ↔
      ∃ said, Runs (ctx.say s) trace said ∧
        result = heard said := by
  rw [safeReply_eq]
  constructor
  · intro hRuns
    rcases exists_runs_of_attempt_bind hRuns with
      ⟨before, said, after, rfl, hSaid, hAfter⟩
    rcases runs_settle_iff.mp hAfter with ⟨rfl, hHeard⟩
    rw [List.append_nil]
    exact ⟨said, hSaid, hHeard⟩
  · rintro ⟨said, hSaid, hHeard⟩
    exact runs_bind_iff.mpr (Or.inr ⟨trace, said, [],
      (List.append_nil trace).symm, runs_attempt_iff.mpr hSaid,
      runs_settle_iff.mpr ⟨rfl, hHeard⟩⟩)

namespace Gate

variable {g : Gate}
variable {handled : Program Unit}

------------------------------------------------------------
-- Judging a Call
------------------------------------------------------------

/- The verdict on a call, once its timer is to be stopped. -/
def verdict
    (ended : Except Cause Unit) :
    Except Cause Bool → Except Cause Unit
  | .error cause => .error cause
  | .ok expired => expire ended expired

/- The timer is stopped, and the call is judged. -/
def stop
    (ended : Except Cause Unit) :
    Program (Except Cause Unit) :=
  (request .stopTimer).attempt.bind fun stopped =>
    .done (verdict ended stopped)

/-
  Whether a call comes to its handler. One that does not has
  its verdict already.
-/
def admission
    (g : Gate) : Program (Option (Except Cause Unit)) :=
  (Permission.holds g.roles g.context.guildId
    g.context.author.id g.info.tier
      g.context.memberRoles).bind fun
    | false =>
      .done (some (.error (.permissionDenied g.info.name)))
    | true =>
      if isHopeless g.timeout then
        .done (some (.error .timedOut))
      else
        (request (.startTimer g.timeout)).attempt.bind fun
          | .error cause => .done (some (.error cause))
          | .ok _ =>
            g.check.attempt.bind fun
              | .ok _ => .done none
              | .error cause =>
                (stop (.error cause)).bind fun v =>
                  .done (some v)

/- A call is judged by its admission, or by its handler. -/
def judge
    (g : Gate)
    (handled : Program Unit) :
    Program (Except Cause Unit) :=
  g.admission.bind fun
    | some v => .done v
    | none => handled.attempt.bind stop

theorem leave_eq
    (g : Gate)
    (ended : Except Cause Unit) :
    g.leave ended = (stop ended).bind g.answer := by
  unfold leave stop
  rw [Program.bind_assoc]
  congr
  funext stopped
  cases stopped <;> rfl

/- One who is turned away is answered by the verdict. -/
theorem enter_eq
    (g : Gate) :
    g.enter =
      g.admission.bind fun
        | none => .done none
        | some v => (g.answer v).bind fun o => .done (some o) := by
  unfold enter admission
  rw [Program.bind_assoc]
  congr
  funext allowed
  cases allowed with
  | false =>
      simp only [Program.bind, answer, excuse,
        Program.bind_assoc]
  | true =>
      simp only
      split
      · rfl
      · rw [Program.bind_assoc]
        congr
        funext started
        cases started with
        | error cause => rfl
        | ok _ =>
            simp only
            rw [Program.bind_assoc]
            congr
            funext checked
            cases checked with
            | ok _ => rfl
            | error cause =>
                simp only
                rw [leave_eq, Program.bind_assoc,
                  Program.bind_assoc]
                rfl

/- A call is judged, and then its caller is answered. -/
theorem around_eq
    (g : Gate)
    (handled : Program Unit) :
    g.around handled = (g.judge handled).bind g.answer := by
  unfold around judge
  rw [enter_eq, Program.bind_assoc, Program.bind_assoc]
  congr
  funext admitted
  cases admitted with
  | none =>
      simp only [Program.bind]
      rw [Program.bind_assoc]
      congr
      funext ended
      exact leave_eq g ended
  | some v =>
      simp only
      exact bind_turnedAway (g.answer v) _

/- The timer is stopped, or not, without a failure. -/
theorem runs_stop_iff
    {ended : Except Cause Unit}
    {result : Except Cause (Except Cause Unit)} :
    Runs (stop ended) trace result ↔
      ∃ stopped, trace = [.asked .stopTimer stopped] ∧
        result = .ok (verdict ended stopped) := by
  constructor
  · intro hRuns
    rcases exists_runs_of_attempt_bind hRuns with
      ⟨before, stopped, after, rfl, hStop, hDone⟩
    rcases runs_done_iff.mp hDone with ⟨rfl, hSame⟩
    rw [runs_request_iff.mp hStop]
    exact ⟨stopped, rfl, hSame⟩
  · rintro ⟨stopped, rfl, rfl⟩
    exact runs_bind_ok_iff.mpr ⟨_, stopped, [], rfl,
      runs_attempt_iff.mpr (runs_request_iff.mpr rfl), .done _⟩

/- A call is admitted, or turned away, without a failure. -/
theorem not_fails_admission
    {cause : Cause} :
    ¬ Runs g.admission trace (.error cause) := by
  intro hRuns
  rcases runs_bind_iff.mp hRuns with
    ⟨_, _, hHolds⟩ | ⟨_, allowed, _, _, _, hAllowed⟩
  · exact Permission.not_fails_holds hHolds
  cases allowed with
  | false => cases hAllowed
  | true =>
      simp only at hAllowed
      split at hAllowed
      · cases hAllowed
      · rcases exists_runs_of_attempt_bind hAllowed with
          ⟨_, started, _, _, _, hStarted⟩
        cases started with
        | error _ => cases hStarted
        | ok _ =>
            rcases exists_runs_of_attempt_bind hStarted with
              ⟨_, checked, _, _, _, hChecked⟩
            cases checked with
            | ok _ => cases hChecked
            | error _ =>
                rcases runs_bind_iff.mp hChecked with
                  ⟨_, _, hStop⟩ | ⟨_, _, _, _, _, hDone⟩
                · rcases runs_stop_iff.mp hStop with
                    ⟨_, _, hError⟩
                  cases hError
                · cases hDone

/- So a call is judged without one. -/
theorem not_fails_judge
    {cause : Cause} :
    ¬ Runs (g.judge handled) trace (.error cause) := by
  intro hRuns
  rcases runs_bind_iff.mp hRuns with
    ⟨_, _, hFails⟩ | ⟨_, admitted, _, _, _, hRest⟩
  · exact not_fails_admission hFails
  · cases admitted with
    | some v => cases hRest
    | none =>
        rcases exists_runs_of_attempt_bind hRest with
          ⟨_, ended, _, _, _, hStopped⟩
        rcases runs_stop_iff.mp hStopped with ⟨_, _, hError⟩
        cases hError

/-
  How a call is judged: it is turned away, or the handler runs
  once, and then the timer is stopped.
-/
inductive Judges
    (g : Gate)
    (handled : Program Unit) :
    List Exchange → Except Cause Unit → Prop where
  | turnedAway {entering : List Exchange}
      {v : Except Cause Unit}
      (hEntered : Runs g.admission entering (.ok (some v))) :
      Judges g handled entering v
  | ran {entering handling : List Exchange}
      {ended : Except Cause Unit}
      {stopped : Except Cause Bool}
      (hEntered : Runs g.admission entering (.ok none))
      (hHandled : Runs handled handling ended) :
      Judges g handled
        (entering ++ (handling ++ [.asked .stopTimer stopped]))
        (verdict ended stopped)

/- The judging of a call runs just so. -/
theorem runs_judge_iff
    {v : Except Cause Unit} :
    Runs (g.judge handled) trace (.ok v) ↔
      Judges g handled trace v := by
  constructor
  · intro hRuns
    rcases runs_bind_ok_iff.mp hRuns with
      ⟨entering, admitted, rest, rfl, hEntered, hRest⟩
    cases admitted with
    | some w =>
        rcases runs_done_iff.mp hRest with ⟨rfl, hSame⟩
        cases hSame
        rw [List.append_nil]
        exact .turnedAway hEntered
    | none =>
        rcases exists_runs_of_attempt_bind hRest with
          ⟨handling, ended, after, rfl, hHandled, hStop⟩
        rcases runs_stop_iff.mp hStop with
          ⟨stopped, rfl, hVerdict⟩
        cases hVerdict
        exact .ran hEntered hHandled
  · intro hJudges
    cases hJudges with
    | turnedAway hEntered =>
        exact runs_bind_ok_iff.mpr ⟨trace, some v, [],
          (List.append_nil trace).symm, hEntered, .done v⟩
    | ran hEntered hHandled =>
        exact runs_bind_ok_iff.mpr ⟨_, none, _, rfl, hEntered,
          runs_bind_ok_iff.mpr ⟨_, _, _, rfl,
            runs_attempt_iff.mpr hHandled,
            runs_stop_iff.mpr ⟨_, rfl, rfl⟩⟩⟩

------------------------------------------------------------
-- Answering the Caller
------------------------------------------------------------

/-
  How the caller is answered: not at all if the call went well
  or was cancelled, and otherwise with one reply that goes with
  the outcome. The outcome stands if the platform refuses the
  reply. If the reply fails otherwise, there is no outcome.
-/
inductive Answers
    (g : Gate) :
    Except Cause Unit → List Exchange →
      Except Cause Outcome → Prop where
  | handled : Answers g (.ok ()) [] (.ok .handled)
  | cancelled :
      Answers g (.error .cancelled) [] (.error .cancelled)
  | told {cause : Cause} {replying : List Exchange}
      {said : Except Cause Unit}
      (hCause : cause ≠ .cancelled)
      (hSaid :
        Runs (g.context.say (g.excuse cause).1) replying said)
      (hHeard : heard said = .ok ()) :
      Answers g (.error cause) replying
        (.ok (g.excuse cause).2)
  | untold {cause failure : Cause} {replying : List Exchange}
      (hCause : cause ≠ .cancelled)
      (hSaid :
        Runs (g.context.say (g.excuse cause).1) replying
          (.error failure))
      (hOther : ∀ status, failure ≠ .refused status) :
      Answers g (.error cause) replying (.error failure)

theorem answer_of_ne_cancelled
    {cause : Cause}
    (hCause : cause ≠ .cancelled) :
    g.answer (.error cause) =
      (safeReply g.context (g.excuse cause).1).bind fun _ =>
        .done (g.excuse cause).2 := by
  cases cause with
  | cancelled => contradiction
  | _ => rfl

/- The caller is answered just so. -/
theorem runs_answer_iff
    {v : Except Cause Unit}
    {result : Except Cause Outcome} :
    Runs (g.answer v) trace result ↔
      Answers g v trace result := by
  cases v with
  | ok _ =>
      refine runs_done_iff.trans ⟨?_, fun hAnswers => ?_⟩
      · rintro ⟨rfl, rfl⟩
        exact .handled
      · cases hAnswers
        exact ⟨rfl, rfl⟩
  | error cause =>
      by_cases hCause : cause = .cancelled
      · subst hCause
        refine runs_fail_iff.trans ⟨?_, fun hAnswers => ?_⟩
        · rintro ⟨rfl, rfl⟩
          exact .cancelled
        · cases hAnswers with
          | cancelled => exact ⟨rfl, rfl⟩
          | told hOther => contradiction
          | untold hOther => contradiction
      · rw [answer_of_ne_cancelled hCause, runs_bind_iff]
        constructor
        · rintro (⟨failure, rfl, hFails⟩ |
            ⟨before, _, after, rfl, hReplied, hDone⟩)
          · rcases runs_safeReply_iff.mp hFails with
              ⟨said, hSaid, hHeard⟩
            rcases error_eq_heard_iff.mp hHeard with
              ⟨rfl, hOther⟩
            exact .untold hCause hSaid hOther
          · rcases runs_safeReply_iff.mp hReplied with
              ⟨said, hSaid, hHeard⟩
            rcases runs_done_iff.mp hDone with ⟨rfl, rfl⟩
            rw [List.append_nil]
            exact .told hCause hSaid hHeard.symm
        · intro hAnswers
          cases hAnswers with
          | cancelled => contradiction
          | told _ hSaid hHeard =>
              exact Or.inr ⟨trace, (), [],
                (List.append_nil trace).symm,
                runs_safeReply_iff.mpr
                  ⟨_, hSaid, hHeard.symm⟩, .done _⟩
          | untold _ hSaid hOther =>
              exact Or.inl ⟨_, rfl, runs_safeReply_iff.mpr
                ⟨_, hSaid, error_eq_heard_iff.mpr
                  ⟨rfl, hOther⟩⟩⟩

end Gate

/-
  How a message is routed. One that calls no command is ignored.
  Any other call is judged, and its handler runs at most once.
  Then the caller is answered: a call that went well is handled
  without a reply, and any other gets one reply, with the text
  that goes with its outcome. The routing fails exactly if it
  is cancelled, or if its reply fails otherwise than by a
  refusal of the platform.
-/
theorem runs_route_iff
    (r : Router)
    (m : Command.Message)
    (trace : List Exchange)
    (result : Except Cause Outcome) :
    Runs (r.route m) trace result ↔
      (r.select m.text = none ∧ trace = [] ∧
        result = .ok .ignored) ∨
      ∃ c tail, r.select m.text = some (c, tail) ∧
        ∃ judging v replying, trace = judging ++ replying ∧
          Gate.Judges (r.gate m c tail)
            (c.handler (r.contextOf m) tail) judging v ∧
          Gate.Answers (r.gate m c tail) v replying result := by
  cases hSelect : r.select m.text with
  | none =>
      have hRoute : r.route m = .done .ignored := by
        unfold route
        rw [hSelect]
        rfl
      rw [hRoute, runs_done_iff]
      simp
  | some call =>
      rcases call with ⟨c, tail⟩
      rw [route_eq_of_select hSelect, Gate.around_eq,
        runs_bind_iff]
      constructor
      · rintro (⟨failure, _, hFails⟩ |
          ⟨judging, v, replying, rfl, hJudge, hAnswer⟩)
        · exact (Gate.not_fails_judge hFails).elim
        · exact Or.inr ⟨c, tail, rfl, judging, v, replying, rfl,
            Gate.runs_judge_iff.mp hJudge,
            Gate.runs_answer_iff.mp hAnswer⟩
      · rintro (⟨hNone, _⟩ | ⟨c', tail', hSame, judging, v,
          replying, rfl, hJudges, hAnswers⟩)
        · cases hNone
        · cases hSame
          exact Or.inr ⟨judging, v, replying, rfl,
            Gate.runs_judge_iff.mpr hJudges,
            Gate.runs_answer_iff.mpr hAnswers⟩

/- A command for moderators. -/
def banning : Command where
  info := ⟨"ban", .moderator, "", ""⟩
  arity := 0
  confirms := false
  timeout := none
  handler := fun _ _ => .done ()

/- A router with this one command. -/
def guarded : Router where
  roles := ⟨IdSet.ofList [], [], IdSet.ofList [], [], none⟩
  mark := "?"
  timeout := .seconds 15
  keepsHistory := false
  entries := [("ban", Command.alone banning)]

/- A message by one who is no moderator. -/
def stranger : Command.Message where
  text := "?ban 5"
  author := ⟨4, "member", false⟩
  guildId := some 100
  channelId := 20
  messageId := some 10
  memberRoles := none

/- The network fails when the caller is told. -/
def toldInVain : List Exchange :=
  [.asked
    (.platform
      (.sendMessage 20 (some (.text deniedReply)) none))
    (.error (.system "down"))]

/- The call is denied, but the routing ends with the failure. -/
theorem toldInVain_raises :
    guarded.select stranger.text = some (banning, "5") ∧
      Gate.Judges (guarded.gate stranger banning "5") (.done ())
        [.saw .empty, .saw .empty]
        (.error (.permissionDenied "ban")) ∧
        ((guarded.gate stranger banning "5").excuse
            (.permissionDenied "ban")).2 = .denied ∧
          Runs (guarded.route stranger)
            ([.saw .empty, .saw .empty] ++ toldInVain)
            (.error (.system "down")) := by
  have hSelect :
      guarded.select stranger.text = some (banning, "5") := rfl
  have hDenied :
      Gate.Judges (guarded.gate stranger banning "5") (.done ())
        [.saw .empty, .saw .empty]
        (.error (.permissionDenied "ban")) :=
    .turnedAway (.access _ (.access _ (.done _)))
  have hUntold :
      Gate.Answers (guarded.gate stranger banning "5")
        (.error (.permissionDenied "ban")) toldInVain
        (.error (.system "down")) :=
    .untold (by simp) (.ask _ (.fail _)) (by simp)
  exact ⟨hSelect, hDenied, rfl,
    (runs_route_iff _ _ _ _).mpr
      (Or.inr ⟨banning, "5", hSelect, _, _, _, rfl, hDenied,
        hUntold⟩)⟩

end Router

end GuildWarden
