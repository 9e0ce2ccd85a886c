import GuildWarden.Command.Router
import GuildWarden.Proofs.Permission.Grant
import GuildWarden.Proofs.Text.Words

/-
  This file shows that a message runs the handler of the
  command that it calls, once, and nobody else's, and only
  when its author may do so. The command is the one of the
  first word of its text, or the subcommand of the second. What
  happens before and after the handler is described by programs
  that know no handler.

  Key definitions include:
    * `Command.Entry.Chooses`
    * `Router.Selects`
    * `Router.Gate`
    * `Router.Gate.enter`
    * `Router.Gate.leave`
    * `Router.Gate.Admits`

  Main statements:
    * `Router.select_eq_some_iff`
    * `Router.route_eq_of_select`
    * `Router.Gate.admits_of_enter`
    * `Router.Gate.enter_of_judge`
    * `Router.route_admits`
-/

namespace GuildWarden

open Program Text

section

variable {tail : String}
variable {c : Command}

------------------------------------------------------------
-- Subcommands
------------------------------------------------------------

/-
  A rest of a text chooses the subcommand that its first word
  names; the tail is what follows the word. If the word names
  none, the command itself is chosen and the rest is its tail.
-/
def Command.Entry.Chooses
    (e : Command.Entry)
    (rest : List Char)
    (c : Command)
    (tail : String) : Prop :=
  (∃ word left,
    IsCut rest word left ∧
      e.subcommands.lookup (lower (String.ofList word)) =
        some c ∧
      tail = String.ofList left) ∨
  (c = e.command ∧ tail = String.ofList rest ∧
    ∀ word left, IsCut rest word left →
      e.subcommands.lookup (lower (String.ofList word)) =
        none)

theorem Command.Entry.resolve_eq_iff
    {e : Command.Entry}
    {rest : List Char}
    (hFilled : StartsFilled rest) :
    e.resolve (String.ofList rest) = (c, tail) ↔
      e.Chooses rest c tail := by
  unfold resolve Chooses
  rw [String.toList_ofList]
  cases hSplit : splitWord? rest with
  | none =>
      have hNone (word left : List Char) :
          ¬ IsCut rest word left := by
        rw [← splitWord?_eq_some_iff hFilled, hSplit]
        simp
      simp [hNone, eq_comm]
  | some p =>
      rcases p with ⟨word, left⟩
      have hCut (word' left' : List Char) :
          IsCut rest word' left' ↔
            word' = word ∧ left' = left := by
        rw [← splitWord?_eq_some_iff hFilled, hSplit]
        simp [eq_comm]
      simp only [hCut]
      cases hFound :
          e.subcommands.lookup (lower (String.ofList word)) with
      | none =>
          constructor
          · rintro ⟨rfl, rfl⟩
            refine Or.inr ⟨rfl, rfl, ?_⟩
            rintro _ _ ⟨rfl, rfl⟩
            exact hFound
          · rintro (⟨_, _, ⟨rfl, rfl⟩, hSome, _⟩ | hChosen)
            · rw [hFound] at hSome
              cases hSome
            · rw [hChosen.1, hChosen.2.1]
      | some sub =>
          constructor
          · rintro ⟨rfl, rfl⟩
            exact Or.inl
              ⟨word, left, ⟨rfl, rfl⟩, hFound, rfl⟩
          · rintro (⟨_, _, ⟨rfl, rfl⟩, hSome, rfl⟩ | hChosen)
            · rw [hFound] at hSome
              cases hSome
              rfl
            · have hNone := hChosen.2.2 word left ⟨rfl, rfl⟩
              rw [hFound] at hNone
              cases hNone

------------------------------------------------------------
-- Commands
------------------------------------------------------------

/-
  A text calls a command of a router: after the mark stands a
  word that names an entry, and the rest chooses the command.
-/
def Router.Selects
    (r : Router)
    (text : String)
    (c : Command)
    (tail : String) : Prop :=
  ∃ body name rest e,
    text.toList = r.mark.toList ++ body ∧
      IsCut body name rest ∧
        r.entries.lookup (lower (String.ofList name)) =
          some e ∧
          e.Chooses rest c tail

/- What an invocation is. -/
theorem Invocation.parse?_eq_some_iff
    {mark text : String}
    {i : Invocation} :
    parse? mark text = some i ↔
      ∃ body name rest,
        text.toList = mark.toList ++ body ∧
          IsCut body name rest ∧
            i = ⟨lower (String.ofList name),
              String.ofList rest⟩ := by
  unfold parse?
  constructor
  · intro hParse
    split at hParse
    · cases hParse
    · cases hParse
    · rename_i letter body hAfter
      split at hParse
      · cases hParse
      · rename_i hLetter
        have hFilled : StartsFilled (letter :: body) := by
          intro d hHead
          cases hHead
          simpa using hLetter
        rcases Option.map_eq_some_iff.mp hParse with
          ⟨⟨name, rest⟩, hSplit, hSame⟩
        exact ⟨letter :: body, name, rest,
          dropPrefix?_eq_some_iff.mp hAfter,
          (splitWord?_eq_some_iff hFilled).mp hSplit,
          hSame.symm⟩
  · rintro ⟨body, name, rest, hText, hCut, rfl⟩
    have hFilled := hCut.startsFilled
    have hSplit := (splitWord?_eq_some_iff hFilled).mpr hCut
    rw [dropPrefix?_eq_some_iff.mpr hText]
    cases body with
    | nil => cases hSplit
    | cons letter body =>
        have hLetter : isBlank letter = false :=
          hFilled letter rfl
        simp [hLetter, hSplit]

/- A router selects what the text calls. -/
theorem Router.select_eq_some_iff
    {r : Router}
    {text : String} :
    r.select text = some (c, tail) ↔
      r.Selects text c tail := by
  simp only [select, Option.bind_eq_bind, Option.pure_def,
    Option.bind_eq_some_iff, Invocation.parse?_eq_some_iff]
  constructor
  · rintro ⟨_, ⟨body, name, rest, hText, hCut, rfl⟩, e,
      hFound, hChosen⟩
    refine ⟨body, name, rest, e, hText, hCut, hFound, ?_⟩
    exact (Command.Entry.resolve_eq_iff
      hCut.startsFilled_rest).mp (Option.some.inj hChosen)
  · rintro ⟨body, name, rest, e, hText, hCut, hFound,
      hChosen⟩
    refine ⟨_, ⟨body, name, rest, hText, hCut, rfl⟩, e,
      hFound, ?_⟩
    exact congrArg some ((Command.Entry.resolve_eq_iff
      hCut.startsFilled_rest).mpr hChosen)

end

namespace Router

------------------------------------------------------------
-- The Gate
------------------------------------------------------------

/- What decides on a call: everything but the handler. -/
structure Gate where
  roles : RoleSettings
  info : Command.Info
  arity : Int
  confirms : Bool
  timeout : Span
  context : Command.Context
  tail : String

/- The gate before the handler of a command. -/
def gate
    (r : Router)
    (m : Command.Message)
    (c : Command)
    (tail : String) : Gate where
  roles := r.roles
  info := c.info
  arity := c.arity
  confirms := c.confirms
  timeout := c.timeout.getD r.timeout
  context := r.contextOf m
  tail := tail

namespace Gate

/- What the caller is told about a failure, and the outcome. -/
def excuse
    (g : Gate) :
    Cause → String × Outcome
  | .timedOut => (failureReply, .timedOut)
  | .permissionDenied _ => (deniedReply, .denied)
  | .notFound s => (s, .notFound)
  | .usage s =>
    ((if s = "" then "" else s ++ "\n") ++
      "Usage: `" ++ g.info.usageLine g.context.mark ++ "`",
      .usageError)
  | _ => (failureReply, .failed)

/- How a call ends that was let in, or turned away late. -/
def answer
    (g : Gate) :
    Except Cause Unit → Program Outcome
  | .ok () => .done .handled
  | .error .cancelled => .fail .cancelled
  | .error cause =>
    (safeReply g.context (g.excuse cause).1).bind fun _ =>
      .done (g.excuse cause).2

/- The timer is stopped, and the caller is answered. -/
def leave
    (g : Gate)
    (result : Except Cause Unit) : Program Outcome :=
  (request .stopTimer).attempt.bind fun
    | .error cause => g.answer (.error cause)
    | .ok expired => g.answer (expire result expired)

/- The tail is checked, and the platform asked if need be. -/
def check
    (g : Gate) : Program Unit :=
  if ((words g.tail.toList).length : Int) < g.arity then
    .fail (.usage "")
  else if g.confirms then
    (Permission.confirm g.roles g.context.guildId
      g.context.author.id g.info.tier).bind fun
      | true => .done ()
      | false => .fail (.permissionDenied g.info.name)
  else .done ()

/-
  What is done before the handler. A call that is turned away
  has an outcome already.
-/
def enter
    (g : Gate) : Program (Option Outcome) :=
  (Permission.holds g.roles g.context.guildId
    g.context.author.id g.info.tier
      g.context.memberRoles).bind fun
    | false =>
      (safeReply g.context deniedReply).bind fun _ =>
        .done (some .denied)
    | true =>
      if isHopeless g.timeout then
        (g.answer (.error .timedOut)).bind fun o =>
          .done (some o)
      else
        (request (.startTimer g.timeout)).attempt.bind fun
          | .error cause =>
            (g.answer (.error cause)).bind fun o =>
              .done (some o)
          | .ok _ =>
            g.check.attempt.bind fun
              | .ok _ => .done none
              | .error cause =>
                (g.leave (.error cause)).bind fun o =>
                  .done (some o)

/- What is done around a handler, which runs at most once. -/
def around
    (g : Gate)
    (handled : Program Unit) : Program Outcome :=
  g.enter.bind fun
    | some outcome => .done outcome
    | none => handled.attempt.bind g.leave

/-
  What is known when a call has come to the handler: the tail
  has the words it needs; a role that grants the tier was seen
  in the cache; and if the command confirms, the platform has
  reported such a role since.
-/
structure Admits
    (g : Gate)
    (trace : List Exchange) : Prop where
  arity : g.arity ≤ ((words g.tail.toList).length : Int)
  granted :
    g.info.tier = .everyone ∨
      ∃ guildId m rest held,
        g.context.guildId = some guildId ∧
          trace = .saw m :: rest ∧
            (g.context.memberRoles.orElse fun _ =>
              m.roles.rolesOf guildId g.context.author.id) =
              some held ∧
            g.info.tier.Grants g.roles
              (m.roles.namesOf guildId)
              (held.contains · = true)
  confirmed :
    g.confirms = true → g.info.tier ≠ .everyone →
      ∃ guildId known before after, ∃ member : Payload,
        g.context.guildId = some guildId ∧
          trace =
            before ++
              .asked
                (.platform
                  (.getMember guildId g.context.author.id))
                (.ok member) :: after ∧
          Permission.Names guildId after known ∧
            g.info.tier.Grants g.roles known
              (Permission.Reports member)

end Gate

------------------------------------------------------------
-- The Way Through the Gate
------------------------------------------------------------

variable {r : Router}
variable {m : Command.Message}
variable {c : Command}
variable {tail : String}

/- A call is checked, and then the handler runs. -/
theorem invoke_eq :
    r.invoke c (r.contextOf m) tail =
      (r.gate m c tail).check.bind fun _ =>
        c.handler (r.contextOf m) tail := by
  unfold invoke Gate.check gate
  simp only [bind_eq, throw_eq]
  split
  · rfl
  · split
    · rw [bind_assoc]
      congr 1
      funext confirmed
      cases confirmed <;> rfl
    · rfl

/- However a run within its time ends, it is answered alike. -/
theorem run_eq :
    r.run c (r.contextOf m) tail =
      (within (c.timeout.getD r.timeout)
        (r.invoke c (r.contextOf m) tail)).attempt.bind
          (r.gate m c tail).answer := by
  unfold run handling
  simp only [bind_eq, pure_eq]
  rw [attempt_bind, bind_assoc]
  congr 1
  funext result
  cases result with
  | ok _ => rfl
  | error cause => cases cause <;> rfl

/- A program that runs within a time is left by the gate. -/
theorem within_eq
    (g : Gate)
    (p : Program Unit) :
    (within g.timeout p).attempt.bind g.answer =
      if isHopeless g.timeout then g.answer (.error .timedOut)
      else
        (request (.startTimer g.timeout)).attempt.bind fun
          | .error cause => g.answer (.error cause)
          | .ok _ => p.attempt.bind g.leave := by
  rw [within_eq_ite]
  split
  · rfl
  · rw [attempt_bind, bind_assoc]
    congr
    funext started
    cases started with
    | error cause => rfl
    | ok _ =>
        -- What is attempted is attempted once more here.
        have hTwice :
            p.attempt.attempt = p.attempt.bind (.done ∘ .ok) :=
          attempt_attempt p
        simp only [attempt_bind, hTwice, bind_assoc]
        congr
        funext result
        simp only [Function.comp, Program.bind]
        rw [Program.bind_assoc]
        congr
        funext stopped
        cases stopped with
        | error cause => rfl
        | ok expired =>
            exact congrArg
              (fun q : Program (Except Cause Unit) =>
                q.bind g.answer)
              (attempt_settle (expire result expired))

/- One who is turned away does not come to the handler. -/
theorem bind_turnedAway
    (p handled : Program Outcome) :
    ((p.bind fun o => .done (some o)).bind fun
      | some outcome => .done outcome
      | none => handled) = p := by
  rw [Program.bind_assoc]
  exact bind_done p

/- A message is routed through the gate. -/
theorem route_eq_of_select
    (hSelect : r.select m.text = some (c, tail)) :
    r.route m =
      (r.gate m c tail).around
        (c.handler (r.contextOf m) tail) := by
  have hRoute :
      r.route m =
        (Permission.holds r.roles m.guildId m.author.id
          c.info.tier m.memberRoles).bind fun
          | true => r.run c (r.contextOf m) tail
          | false =>
            (safeReply (r.contextOf m) deniedReply).bind
              fun _ => .done .denied := by
    unfold route
    simp only [hSelect, bind_eq, pure_eq]
    congr
    funext allowed
    cases allowed <;> rfl
  rw [hRoute, Gate.around, Gate.enter, Program.bind_assoc]
  congr
  funext allowed
  cases allowed with
  | false =>
      simp only
      rw [Program.bind_assoc]
      rfl
  | true =>
      have hTimed :=
        within_eq (r.gate m c tail)
          (r.invoke c (r.contextOf m) tail)
      simp only
      rw [run_eq]
      refine hTimed.trans ?_
      split
      · rw [bind_turnedAway]
      · rw [Program.bind_assoc]
        congr
        funext started
        cases started with
        | error cause =>
            simp only
            rw [bind_turnedAway]
        | ok _ =>
            simp only
            rw [invoke_eq, attempt_bind, Program.bind_assoc,
              Program.bind_assoc]
            congr
            funext checked
            cases checked with
            | error cause =>
                simp only
                rw [bind_turnedAway]
                rfl
            | ok _ => rfl

------------------------------------------------------------
-- Authorization
------------------------------------------------------------

/- A check that ends well. -/
theorem Gate.confirmed_of_check
    {g : Gate}
    {trace : List Exchange}
    (hRuns : Runs g.check trace (.ok ())) :
    g.arity ≤ ((words g.tail.toList).length : Int) ∧
      (g.confirms = true →
        Runs
          (Permission.confirm g.roles g.context.guildId
            g.context.author.id g.info.tier) trace
          (.ok true)) := by
  unfold check at hRuns
  split at hRuns
  · cases hRuns
  · rename_i hWords
    refine ⟨Int.not_lt.mp hWords, ?_⟩
    intro hConfirms
    rw [if_pos hConfirms] at hRuns
    rcases runs_bind_ok_iff.mp hRuns with
      ⟨before, confirmed, after, rfl, hConfirm, hRest⟩
    cases confirmed with
    | false => cases hRest
    | true =>
        rcases runs_done_iff.mp hRest with ⟨rfl, _⟩
        rw [List.append_nil]
        exact hConfirm

/- Nobody comes to a handler who may not. -/
theorem Gate.admits_of_enter
    {g : Gate}
    {trace : List Exchange}
    (hRuns : Runs g.enter trace (.ok none)) :
    g.Admits trace := by
  have hTurned
      {p : Program Outcome}
      {rest : List Exchange} :
      ¬ Runs (p.bind fun o => .done (some o)) rest
        (.ok none) := by
    intro hRuns
    rcases runs_bind_ok_iff.mp hRuns with
      ⟨_, _, _, _, _, hDone⟩
    cases hDone
  rcases runs_bind_ok_iff.mp hRuns with
    ⟨looked, allowed, later, rfl, hHolds, hLater⟩
  cases allowed with
  | false =>
      rcases runs_bind_ok_iff.mp hLater with
        ⟨_, _, _, _, _, hDone⟩
      cases hDone
  | true =>
      simp only at hLater
      split at hLater
      · exact absurd hLater hTurned
      · rcases runs_bind_ok_iff.mp hLater with
          ⟨timed, started, rest, rfl, _, hRest⟩
        cases started with
        | error cause => exact absurd hRest hTurned
        | ok _ =>
            rcases runs_bind_ok_iff.mp hRest with
              ⟨asked, checked, ended, rfl, hAttempt, hEnd⟩
            cases checked with
            | error cause => exact absurd hEnd hTurned
            | ok _ =>
                rcases runs_done_iff.mp hEnd with ⟨rfl, _⟩
                rcases confirmed_of_check
                  (runs_attempt_iff.mp hAttempt) with
                  ⟨hArity, hConfirm⟩
                refine ⟨hArity, ?_, ?_⟩
                · rcases Permission.grants_of_holds hHolds with
                    hEveryone | ⟨guildId, m, seen, held,
                      hGuild, rfl, hHeld, hGrants⟩
                  · exact Or.inl hEveryone
                  · exact Or.inr ⟨guildId, m, _, held, hGuild,
                      rfl, hHeld, hGrants⟩
                · intro hConfirms hTier
                  rcases Permission.grants_of_confirm
                    (hConfirm hConfirms) with
                    hEveryone | ⟨guildId, known, after, member,
                      hGuild, rfl, hNames, hGrants⟩
                  · exact absurd hEveryone hTier
                  · refine ⟨guildId, known, looked ++ timed,
                      after, member, hGuild, ?_, hNames,
                      hGrants⟩
                    simp

/- One who may comes to the handler of a command that confirms. -/
theorem Gate.enter_of_judge
    {g : Gate}
    {guildId : Int}
    {m later : Memory}
    {member : Payload}
    {held : IdSet}
    (hTime : isHopeless g.timeout = false)
    (hArity : g.arity ≤ ((words g.tail.toList).length : Int))
    (hConfirms : g.confirms = true)
    (hTier : g.info.tier ≠ .everyone)
    (hGuild : g.context.guildId = some guildId)
    (hGranted :
      g.info.tier.judge g.roles true (m.roles.namesOf guildId)
        (g.context.memberRoles.orElse fun _ =>
          m.roles.rolesOf guildId g.context.author.id) =
        .granted)
    (hMember : Permission.rolesInMember member = .ok held)
    (hKnown : (later.roles.namesOf guildId).isEmpty = false)
    (hStill :
      g.info.tier.judge g.roles true
        (later.roles.namesOf guildId) (some held) =
        .granted) :
    Runs g.enter
      [.saw m, .asked (.startTimer g.timeout) (.ok ()),
        .asked
          (.platform
            (.getMember guildId g.context.author.id))
          (.ok member),
        .saw later] (.ok none) := by
  have hCheck :
      Runs g.check
        [.asked
          (.platform
            (.getMember guildId g.context.author.id))
          (.ok member),
          .saw later] (.ok ()) := by
    unfold Gate.check
    rw [if_neg (Int.not_lt.mpr hArity), if_pos hConfirms,
      hGuild]
    exact runs_bind_ok_iff.mpr ⟨_, true, [], rfl,
      Permission.runs_confirm hTier hMember hKnown hStill,
      .done ()⟩
  unfold Gate.enter
  rw [hGuild]
  refine runs_bind_ok_iff.mpr ⟨[.saw m], true, _, rfl,
    Permission.runs_holds hGranted, ?_⟩
  simp only [hTime]
  refine runs_bind_ok_iff.mpr
    ⟨[.asked (.startTimer g.timeout) (.ok ())], .ok (), _, rfl,
      runs_attempt_iff.mpr (runs_request_iff.mpr rfl), ?_⟩
  exact runs_bind_ok_iff.mpr ⟨_, .ok (), [], rfl,
    runs_attempt_iff.mpr hCheck, .done none⟩

/-
  A message that calls no command is ignored. Otherwise it
  calls one command, whose handler runs at most once and no
  other; and whatever the memory holds and the platform
  answers, the handler runs only if its gate admits the call.
-/
theorem route_admits
    (r : Router)
    (m : Command.Message) :
    ((∀ c tail, ¬ r.Selects m.text c tail) ∧
        r.route m = .done .ignored) ∨
      ∃ c tail,
        (∀ c' tail', r.Selects m.text c' tail' ↔
          c' = c ∧ tail' = tail) ∧
        r.route m =
          (r.gate m c tail).around
            (c.handler (r.contextOf m) tail) ∧
        ∀ trace,
          Runs (r.gate m c tail).enter trace (.ok none) →
            (r.gate m c tail).Admits trace := by
  cases hSelect : r.select m.text with
  | none =>
      refine Or.inl ⟨?_, ?_⟩
      · intro c tail
        rw [← select_eq_some_iff, hSelect]
        simp
      · unfold route
        rw [hSelect]
        rfl
  | some call =>
      rcases call with ⟨c, tail⟩
      refine Or.inr ⟨c, tail, ?_,
        route_eq_of_select hSelect,
        fun _ => Gate.admits_of_enter⟩
      intro c' tail'
      rw [← select_eq_some_iff, hSelect, Option.some.injEq,
        Prod.mk.injEq]
      exact and_congr eq_comm eq_comm

end Router

end GuildWarden
