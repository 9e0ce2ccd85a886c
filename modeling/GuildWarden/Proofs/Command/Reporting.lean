import GuildWarden.Proofs.Command.Admission
import GuildWarden.Proofs.Command.Respect
import GuildWarden.Proofs.Effect.Runs
import GuildWarden.Proofs.Store.Fate

/-
  This file says what a reply sends, and what the outcome of a
  message tells of the handler that it calls. A text that fits
  into one message is sent as it is, and a longer one is cut;
  either is the whole content of a new message or of the
  earlier reply. The outcome tells that the handler has run and
  ended well, and that nothing was refused since. What is done
  around a handler does not concern the store.

  Key definitions include:
    * `Platform.Call.Carries`
    * `Program.IsElsewhere`

  Main statements:
    * `Platform.fitted_text_iff`
    * `Command.Context.only_say`
    * `Command.Context.only_say_of_fits`
    * `Router.Gate.handled_iff_of_leave`
    * `Router.handler_of_route`
-/

namespace GuildWarden

open Program

------------------------------------------------------------
-- Lengths
------------------------------------------------------------

namespace Platform

variable {text : String}

/- A text that is not too long is not cut. -/
theorem truncate_of_fits
    (hShort : text.length ≤ 2000) :
    Message.truncate text Message.maxLength = text := by
  have hFits : (text.length : Int) ≤ Message.maxLength :=
    Int.ofNat_le.mpr hShort
  rw [Message.truncate, if_pos hFits]

/- A text that is cut to a message has the length of one. -/
theorem length_truncate
    (hLong : 2000 < text.length) :
    (Message.truncate text Message.maxLength).length = 2000 := by
  have hOver : ¬ (text.length : Int) ≤ Message.maxLength :=
    fun hShort =>
      Nat.not_le.mpr hLong (Int.ofNat_le.mp hShort)
  have hSlice :
      Message.sliceTo text.toList (Message.maxLength - 1) =
        text.toList.take 1999 :=
    rfl
  rw [Message.truncate, if_neg hOver, hSlice, String.length_ofList,
    List.length_append, List.length_take, String.length_toList,
    List.length_singleton]
  omega

/- A text is sent as it is if it fits into one message. -/
theorem fitted_text_iff
    (text : String) :
    fitted (.text text) = .ok (.text text) ↔
      text.length ≤ 2000 := by
  simp only [fitted, Except.ok.injEq, Payload.text.injEq]
  refine ⟨?_, truncate_of_fits⟩
  intro hSame
  apply Nat.not_lt.mp
  intro hLong
  have hCut := length_truncate hLong
  rw [hSame] at hCut
  omega

/- A call with a text, and nothing else, for a channel. -/
def Call.Carries
    (channelId : Int)
    (text : String) : Call → Prop
  | .sendMessage id content card =>
    id = channelId ∧ content = some (.text text) ∧ card = none
  | .editMessage id _ content card =>
    id = channelId ∧ content = .text text ∧ card = none
  | _ => False

end Platform

------------------------------------------------------------
-- Replies
------------------------------------------------------------

namespace Command.Context

variable {c : Context}
variable {s : String}
variable {P : Request → Prop}

/- The text that stands in a message for another one. -/
def sentText
    (s : String) : String :=
  Message.truncate s Message.maxLength

theorem only_changeEarlier
    (hCalls :
      ∀ call : Platform.Call,
        call.Carries c.channelId (sentText s) →
          P (.platform call)) :
    (c.changeEarlier (.text s) none).Only P := by
  have hSame :
      Platform.fitted ((Payload.text s).orElse (.text "")) =
        .ok (.text (sentText s)) := by
    by_cases hEmpty : s = ""
    · rw [hEmpty]
      rfl
    · simp [Payload.orElse, Payload.isFilled, hEmpty,
        Platform.fitted, sentText]
  unfold changeEarlier
  split
  · intro m
    simp only [Program.bind]
    split
    · refine Only.handling ?_ fun _ _ => trivial
      refine Only.bind ?_ fun _ => trivial
      unfold Platform.editMessage
      rw [hSame]
      exact Only.request (hCalls _ ⟨rfl, rfl, rfl⟩)
    · trivial
  · trivial

theorem only_record
    (reply : Payload)
    (hNow : P .now) :
    (c.record reply).Only P := by
  unfold record
  split
  · split
    · refine (Only.settle _).bind fun _ => ?_
      exact Only.bind (Only.request hNow) fun _ _ => trivial
    · trivial
  · trivial

/- A reply sends its text, cut if need be, and asks for the time. -/
theorem only_say
    (hNow : P .now)
    (hCalls :
      ∀ call : Platform.Call,
        call.Carries c.channelId (sentText s) →
          P (.platform call)) :
    (c.say s).Only P := by
  unfold say
  rw [reply_eq]
  refine (only_changeEarlier hCalls).bind ?_
  intro kept
  unfold afresh
  split
  · trivial
  · refine Only.bind ?_ fun reply => only_record reply hNow
    exact Only.request (hCalls _ ⟨rfl, rfl, rfl⟩)

/- A reply with a text that fits sends just this text. -/
theorem only_say_of_fits
    (hShort : s.length ≤ 2000) :
    (c.say s).Only fun r =>
      r = .now ∨
        ∃ call : Platform.Call, r = .platform call ∧
          call.Carries c.channelId s := by
  refine only_say (Or.inl rfl) ?_
  intro call hCarries
  rw [sentText, Platform.truncate_of_fits hShort] at hCarries
  exact Or.inr ⟨call, rfl, hCarries⟩

end Command.Context

end GuildWarden

namespace GuildWarden

open Program Store

------------------------------------------------------------
-- Away From the Store
------------------------------------------------------------

/- A request that does not concern what the store holds. -/
def Program.IsElsewhere
    (r : Request) : Prop :=
  ∀ answer, isOfStore (.asked r answer) = false

variable {α : Type}
variable {p : Program α}
variable {trace : List Exchange}

/- What asks for nothing of the store leaves it alone. -/
theorem Program.Only.isOfStore_of_runs
    {result : Except Cause α}
    (hOnly : p.Only IsElsewhere)
    (hRuns : Runs p trace result) :
    ∀ e ∈ trace, isOfStore e = false := by
  intro e hMember
  cases e with
  | saw m => rfl
  | asked r answer =>
      exact hOnly.of_runs hRuns r answer hMember answer

theorem Platform.only_call
    (c : Platform.Call) :
    (Platform.call c).Only IsElsewhere :=
  .request fun _ => rfl

namespace Command.Context

variable {ctx : Context}

/- A reply leaves the store alone. -/
theorem only_say_elsewhere
    (s : String) :
    (ctx.say s).Only IsElsewhere :=
  only_say (fun _ => rfl) fun _ _ _ => rfl

theorem only_acknowledge :
    ctx.acknowledge.Only IsElsewhere := by
  unfold acknowledge
  split
  · exact (Platform.only_call _).bind fun _ => trivial
  · trivial

end Command.Context

namespace Permission

variable {s : RoleSettings}
variable {tier : Tier}

/- The role cache is looked at without any request. -/
theorem only_hasTier
    {P : Request → Prop}
    (guildId : Option Int)
    (known : IdMap String)
    (held : Option IdSet) :
    (hasTier s guildId tier known held).Only P := by
  unfold hasTier
  split
  · trivial
  · trivial
  · split
    · exact fun _ => trivial
    · trivial

theorem only_holds
    {P : Request → Prop}
    (guildId : Option Int)
    (userId : Int)
    (fresh : Option IdSet) :
    (holds s guildId userId tier fresh).Only P := by
  unfold holds
  split
  · exact only_hasTier _ _ _
  · exact fun m => only_hasTier _ _ _

theorem only_roleNames
    (guildId : Int) :
    (roleNames guildId).Only IsElsewhere := by
  intro m
  simp only [Program.bind]
  split
  · exact (Platform.only_call _).bind fun _ => .settle _
  · trivial

theorem only_confirm
    (guildId : Option Int)
    (userId : Int) :
    (confirm s guildId userId tier).Only IsElsewhere := by
  unfold confirm
  split
  · trivial
  · split
    · refine Only.bind (Only.handling
        ((Platform.only_call _).bind fun _ => trivial)
        fun _ => trivial) ?_
      intro asked
      cases asked with
      | none => trivial
      | some member =>
          refine (Only.settle _).bind fun held => ?_
          exact (only_roleNames _).bind fun _ =>
            only_hasTier _ _ _
    · trivial

end Permission

namespace Router

------------------------------------------------------------
-- Around a Handler
------------------------------------------------------------

namespace Gate

variable {g : Gate}

theorem only_answer
    (result : Except Cause Unit) :
    (g.answer result).Only IsElsewhere := by
  unfold answer
  split
  · trivial
  · trivial
  · refine Only.bind ?_ fun _ => trivial
    exact (Command.Context.only_say_elsewhere _).handling
      fun _ => trivial

theorem only_leave
    (result : Except Cause Unit) :
    (g.leave result).Only IsElsewhere := by
  refine Only.bind (Only.request fun _ => rfl).attempt ?_
  intro stopped
  cases stopped with
  | error cause => exact only_answer _
  | ok expired => exact only_answer _

theorem only_check :
    g.check.Only IsElsewhere := by
  unfold check
  split
  · trivial
  · split
    · refine (Permission.only_confirm _ _).bind ?_
      intro confirmed
      cases confirmed <;> trivial
    · trivial

theorem only_enter :
    g.enter.Only IsElsewhere := by
  refine (Permission.only_holds _ _ _).bind ?_
  intro allowed
  cases allowed with
  | false =>
      refine Only.bind ?_ fun _ => trivial
      exact (Command.Context.only_say_elsewhere _).handling
        fun _ => trivial
  | true =>
      simp only
      split
      · exact (only_answer _).bind fun _ => trivial
      · refine Only.bind (Only.request fun _ => rfl).attempt ?_
        intro started
        cases started with
        | error cause =>
            exact (only_answer _).bind fun _ => trivial
        | ok _ =>
            refine only_check.attempt.bind ?_
            intro checked
            cases checked with
            | ok _ => trivial
            | error cause =>
                exact (only_leave _).bind fun _ => trivial

/- A failure is not reported as a success. -/
theorem excuse_ne_handled
    (cause : Cause) :
    (g.excuse cause).2 ≠ .handled := by
  cases cause <;> simp [excuse]

theorem ne_handled_of_answer
    {cause : Cause}
    {outcome : Outcome}
    (hRuns :
      Runs (g.answer (.error cause)) trace (.ok outcome)) :
    outcome ≠ .handled := by
  cases cause with
  | cancelled => cases hRuns
  | _ =>
      rcases runs_bind_ok_iff.mp hRuns with
        ⟨_, _, _, _, _, hDone⟩
      rcases runs_done_iff.mp hDone with ⟨_, hSame⟩
      rw [Except.ok.inj hSame]
      exact excuse_ne_handled _

/-
  A call is reported as handled if the handler ended well and
  the timer could be stopped.
-/
theorem handled_iff_of_leave
    {result : Except Cause Unit}
    {outcome : Outcome}
    (hRuns : Runs (g.leave result) trace (.ok outcome)) :
    outcome = .handled ↔
      result = .ok () ∧ ¬ IsRefused trace := by
  rcases exists_runs_of_attempt_bind hRuns with
    ⟨before, stopped, after, rfl, hStop, hAnswer⟩
  cases runs_request_iff.mp hStop
  cases stopped with
  | error cause =>
      refine iff_of_false (ne_handled_of_answer hAnswer) ?_
      rintro ⟨_, hServed⟩
      exact hServed ⟨_, cause, List.mem_cons_self⟩
  | ok expired =>
      cases result with
      | ok _ =>
          rcases runs_done_iff.mp hAnswer with ⟨rfl, hSame⟩
          refine iff_of_true (Except.ok.inj hSame) ⟨rfl, ?_⟩
          intro hRefused
          exact not_isRefused_nil
            (isRefused_cons_ok_iff.mp hRefused)
      | error cause =>
          have hFailed :
              ∃ failure : Cause,
                expire (.error cause : Except Cause Unit)
                    expired =
                  .error failure := by
            unfold expire
            split <;> exact ⟨_, rfl⟩
          rcases hFailed with ⟨failure, hFailed⟩
          simp only [hFailed] at hAnswer
          refine iff_of_false (ne_handled_of_answer hAnswer) ?_
          rintro ⟨hOk, _⟩
          cases hOk

/- Who is turned away is not told that the call was handled. -/
theorem ne_handled_of_enter
    {outcome : Outcome}
    (hRuns : Runs g.enter trace (.ok (some outcome))) :
    outcome ≠ .handled := by
  have hTurned
      {p : Program Outcome}
      {rest : List Exchange}
      (hRuns :
        Runs (p.bind fun o => .done (some o)) rest
          (.ok (some outcome))) :
      ∃ before, Runs p before (.ok outcome) := by
    rcases runs_bind_ok_iff.mp hRuns with
      ⟨before, o, _, _, hFirst, hDone⟩
    rcases runs_done_iff.mp hDone with ⟨_, hSame⟩
    cases hSame
    exact ⟨before, hFirst⟩
  rcases runs_bind_ok_iff.mp hRuns with
    ⟨_, allowed, _, _, _, hLater⟩
  cases allowed with
  | false =>
      rcases runs_bind_ok_iff.mp hLater with
        ⟨_, _, _, _, _, hDone⟩
      cases hDone
      simp
  | true =>
      simp only at hLater
      split at hLater
      · rcases hTurned hLater with ⟨_, hAnswer⟩
        exact ne_handled_of_answer hAnswer
      · rcases runs_bind_ok_iff.mp hLater with
          ⟨_, started, _, _, _, hStarted⟩
        cases started with
        | error cause =>
            rcases hTurned hStarted with ⟨_, hAnswer⟩
            exact ne_handled_of_answer hAnswer
        | ok _ =>
            rcases runs_bind_ok_iff.mp hStarted with
              ⟨_, checked, _, _, _, hChecked⟩
            cases checked with
            | ok _ => cases hChecked
            | error cause =>
                rcases hTurned hChecked with ⟨_, hLeave⟩
                intro hHandled
                cases ((handled_iff_of_leave hLeave).mp
                  hHandled).1

end Gate

/-
  How a message is routed that calls a command. The handler is
  not come to, and the call is not handled; or it runs, and
  the call is handled if it ends well and nothing is refused
  after it. All the rest is away from the store.
-/
theorem handler_of_route
    {r : Router}
    {m : Command.Message}
    {c : Command}
    {tail : String}
    {outcome : Outcome}
    (hSelect : r.select m.text = some (c, tail))
    (hRuns : Runs (r.route m) trace (.ok outcome)) :
    (outcome ≠ .handled ∧ ∀ e ∈ trace, isOfStore e = false) ∨
    ∃ entering handling leaving result,
      trace = entering ++ handling ++ leaving ∧
        Runs (c.handler (r.contextOf m) tail) handling result ∧
        (∀ e ∈ entering, isOfStore e = false) ∧
        (∀ e ∈ leaving, isOfStore e = false) ∧
        (outcome = .handled ↔
          result = .ok () ∧ ¬ IsRefused leaving) := by
  rw [route_eq_of_select hSelect] at hRuns
  rcases runs_bind_ok_iff.mp hRuns with
    ⟨entering, entered, rest, rfl, hEnter, hRest⟩
  have hEntering := Gate.only_enter.isOfStore_of_runs hEnter
  cases entered with
  | some o =>
      rcases runs_done_iff.mp hRest with ⟨rfl, hSame⟩
      cases hSame
      rw [List.append_nil]
      exact Or.inl ⟨Gate.ne_handled_of_enter hEnter, hEntering⟩
  | none =>
      rcases exists_runs_of_attempt_bind hRest with
        ⟨handling, result, leaving, rfl, hHandler, hLeave⟩
      exact Or.inr ⟨entering, handling, leaving, result,
        (List.append_assoc _ _ _).symm, hHandler, hEntering,
        (Gate.only_leave _).isOfStore_of_runs hLeave,
        Gate.handled_iff_of_leave hLeave⟩

end Router

end GuildWarden
