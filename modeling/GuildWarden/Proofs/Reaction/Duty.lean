import GuildWarden.Proofs.Effect.Interleaving
import GuildWarden.Reaction.Role

/-
  This file says which role call a reaction leads to while the
  bindings are fixed, and shows that the job of a reaction
  makes this call and no other one, and ends with its answer.

  Key definitions include:
    * `ReactionRole.due`
    * `Program.AsksOnce`
    * `ReactionRole.Owes`

  Main statements:
    * `Program.AsksOnce.handling`
    * `ReactionRole.owes_of_seen`
-/

namespace GuildWarden

namespace Program

variable {α β : Type}
variable {p : Program α}
variable {f : α → Program β}
variable {call : Platform.Call}

------------------------------------------------------------
-- Programs of One Call
------------------------------------------------------------

theorem hasEnded_settle
    (result : Except Cause α) :
    (settle result).hasEnded = true := by
  cases result <;> rfl

theorem hasEnded_bind
    (hFirst : p.hasEnded = true)
    (hRest : ∀ a, (f a).hasEnded = true) :
    (p.bind f).hasEnded = true := by
  cases p with
  | done a => exact hRest a
  | fail cause => rfl
  | access change next => cases hFirst
  | ask r next => cases hFirst

theorem hasEnded_attempt
    (hEnded : p.hasEnded = true) :
    p.attempt.hasEnded = true := by
  cases p with
  | done a => rfl
  | fail cause => rfl
  | access change next => cases hEnded
  | ask r next => cases hEnded

/- A program makes one call and ends with its answer. -/
def AsksOnce
    (call : Platform.Call)
    (p : Program α) : Prop :=
  ∃ next, p = .ask (.platform call) next ∧
    ∀ answer, (next answer).hasEnded = true

theorem asksOnce_perform
    (call : Platform.Call) :
    AsksOnce call (Platform.perform call) :=
  ⟨_, rfl, fun answer =>
    hasEnded_bind (hasEnded_settle answer) fun _ => rfl⟩

namespace AsksOnce

theorem bind
    (hAsks : AsksOnce call p)
    (hRest : ∀ a, (f a).hasEnded = true) :
    AsksOnce call (p.bind f) := by
  rcases hAsks with ⟨next, rfl, hEnds⟩
  exact ⟨_, rfl, fun answer => hasEnded_bind (hEnds answer) hRest⟩

theorem attempt
    (hAsks : AsksOnce call p) :
    AsksOnce call p.attempt := by
  rcases hAsks with ⟨next, rfl, hEnds⟩
  exact ⟨_, rfl, fun answer => hasEnded_attempt (hEnds answer)⟩

/- It still does if its failure is handled without a request. -/
theorem handling
    {test : Cause → Bool}
    {handle : Cause → Program α}
    (hAsks : AsksOnce call p)
    (hHandle : ∀ cause, (handle cause).hasEnded = true) :
    AsksOnce call (p.handling test handle) := by
  refine hAsks.attempt.bind ?_
  intro attempted
  cases attempted with
  | ok a => rfl
  | error cause =>
      simp only
      split
      · exact hHandle cause
      · rfl

end AsksOnce

end Program

namespace ReactionRole

open Program Store

------------------------------------------------------------
-- Duties
------------------------------------------------------------

/- Whether a call gives or takes a role. -/
def isRoleCall : Platform.Call → Bool
  | .addRole _ _ _ _ => true
  | .removeRole _ _ _ _ => true
  | _ => false

/-
  The role call that a reaction leads to, if it is bound, is
  not made in another guild than its binding, and is not one of
  the bot.
-/
def due
    (table : List Binding)
    (bot : Int)
    (r : Event.Reaction) : Option Platform.Call :=
  match r.emoji with
  | .text emoji =>
    (table.find? fun b => b.isOf r.messageId emoji).bind fun b =>
      if r.userId ≠ bot ∧
          (r.guildId = none ∨ r.guildId = some b.guildId)
        then some (roleCall b r)
      else none
  | _ => none

/- The job of a reaction. -/
def following
    (r : Event.Reaction) : Program Unit :=
  (follow r).bind fun _ => .done ()

variable {table : List Binding}
variable {bot : Int}
variable {p : Program Unit}
variable {calls : List Platform.Call}

/- The role calls that the rest of the job of a reaction owes. -/
inductive Owes
    (table : List Binding)
    (bot : Int)
    (p : Program Unit) :
    List Platform.Call → Prop where
  | waiting
      (r : Event.Reaction)
      (hProgram : p = following r) :
      Owes table bot p (due table bot r).toList
  | asking
      {call : Platform.Call}
      (hAsks : AsksOnce call p) :
      Owes table bot p ([call].filter isRoleCall)
  | ended
      (hEnded : p.hasEnded = true) :
      Owes table bot p []

/- The program after a look at the memory. -/
def seen
    (m : Memory) :
    Program Unit → Program Unit
  | .access _ next => next m
  | p => p

theorem isRoleCall_roleCall
    (b : Binding)
    (r : Event.Reaction) :
    isRoleCall (roleCall b r) = true := by
  unfold roleCall
  split <;> rfl

theorem asksOnce_applyRole
    (b : Binding)
    (r : Event.Reaction) :
    AsksOnce (roleCall b r) (applyRole b r) :=
  AsksOnce.handling
    ((asksOnce_perform _).bind fun _ => rfl) fun _ => rfl

theorem asksOnce_removeForeign
    (r : Event.Reaction) :
    AsksOnce
      (.removeReaction r.channelId r.messageId r.emoji r.userId)
      (removeForeign r) :=
  AsksOnce.handling (asksOnce_perform _) fun _ => rfl

/- What is due depends on the binding that the tracker finds. -/
theorem due_of_bindingOf
    {m : Memory}
    {r : Event.Reaction}
    {found : Option Binding}
    (hBinding : bindingOf m r = .ok found) :
    due m.bindings bot r =
      found.bind fun b =>
        if r.userId ≠ bot ∧
            (r.guildId = none ∨ r.guildId = some b.guildId)
          then some (roleCall b r)
        else none := by
  unfold bindingOf at hBinding
  unfold due
  cases hEmoji : r.emoji with
  | text emoji =>
      rw [hEmoji] at hBinding
      cases hBinding
      rfl
  | list items =>
      rw [hEmoji] at hBinding
      cases hBinding
  | map fields =>
      rw [hEmoji] at hBinding
      cases hBinding
  | _ =>
      rw [hEmoji] at hBinding
      cases hBinding
      rfl

/- An emoji that cannot be looked up is bound to nothing. -/
theorem due_of_unknown
    {m : Memory}
    {r : Event.Reaction}
    {cause : Cause}
    (hBinding : bindingOf m r = .error cause) :
    due table bot r = none := by
  unfold bindingOf at hBinding
  unfold due
  cases hEmoji : r.emoji with
  | text emoji =>
      rw [hEmoji] at hBinding
      cases hBinding
  | _ => rfl

/- Nothing is due for the reactions of the bot. -/
theorem due_of_own
    {r : Event.Reaction}
    (hOwn : r.userId = bot) :
    due table bot r = none := by
  unfold due
  split
  · rename_i emoji _
    cases table.find? fun b => b.isOf r.messageId emoji with
    | none => rfl
    | some b => exact if_neg fun hBoth => hBoth.1 hOwn
  · rfl

/- The role of a binding is changed in its guild only. -/
theorem owes_of_bound
    {b : Binding}
    {r : Event.Reaction}
    (hOther : r.userId ≠ bot) :
    Owes table bot
      (Program.bind
        (if (r.guildId.any fun g => g != b.guildId) = true
          then .done false
          else applyRole b r)
        fun _ => .done ())
      (Option.toList
        (if r.userId ≠ bot ∧
            (r.guildId = none ∨ r.guildId = some b.guildId)
          then some (roleCall b r)
          else none)) := by
  by_cases hPlace :
      r.guildId = none ∨ r.guildId = some b.guildId
  · have hHere :
        (r.guildId.any fun g => g != b.guildId) = false := by
      rcases hPlace with hPlace | hPlace <;> simp [hPlace]
    have hCalls :
        [roleCall b r].filter isRoleCall = [roleCall b r] := by
      simp [isRoleCall_roleCall]
    rw [hHere, if_neg Bool.false_ne_true,
      if_pos ⟨hOther, hPlace⟩]
    change Owes table bot _ [roleCall b r]
    rw [← hCalls]
    exact .asking ((asksOnce_applyRole b r).bind fun _ => rfl)
  · have hElsewhere :
        (r.guildId.any fun g => g != b.guildId) = true := by
      cases hGuild : r.guildId with
      | none => exact (hPlace (Or.inl hGuild)).elim
      | some g =>
          rw [hGuild] at hPlace
          simpa using hPlace
    rw [hElsewhere, if_pos rfl,
      if_neg fun hBoth => hPlace hBoth.2]
    exact .ended rfl

/- A job of a reaction does what is due once it saw the memory. -/
theorem owes_of_seen
    {m : Memory}
    (r : Event.Reaction)
    (hBindings : m.bindings = table)
    (hBot : m.botUserId = some bot) :
    Owes table bot (seen m (following r))
      (due table bot r).toList := by
  unfold following follow
  simp only [Program.bind_eq, memory, Program.bind, seen, hBot]
  subst hBindings
  -- The job asks for the same things as what is due, in turn.
  by_cases hOwn : bot = r.userId
  · rw [due_of_own hOwn.symm, if_pos (congrArg some hOwn)]
    exact .ended rfl
  rw [if_neg fun hSame => hOwn (Option.some.inj hSame)]
  cases hBinding : bindingOf m r with
  | error cause =>
      rw [due_of_unknown hBinding]
      exact .ended rfl
  | ok found =>
      rw [due_of_bindingOf hBinding]
      cases found with
      | none =>
          change
            Owes m.bindings bot
              (Program.bind
                (if (r.added && isBoundMessage m r.messageId) =
                    true
                  then (removeForeign r).bind fun _ => .done false
                  else .done false)
                fun _ => .done ())
              []
          split
          · exact .asking (((asksOnce_removeForeign r).bind
              fun _ => rfl).bind fun _ => rfl)
          · exact .ended rfl
      | some b => exact owes_of_bound (Ne.symm hOwn)

------------------------------------------------------------
-- Steps of a Job
------------------------------------------------------------

/- The job of a reaction starts with a look at the memory. -/
theorem following_eq
    (r : Event.Reaction) :
    following r = .access id fun m => seen m (following r) :=
  rfl

/- A look at the memory changes neither it nor what is owed. -/
theorem Owes.access
    {m : Memory}
    {change : Memory → Memory}
    {next : Memory → Program Unit}
    (hOwes : Owes table bot (.access change next) calls)
    (hBindings : m.bindings = table)
    (hBot : m.botUserId = some bot) :
    change m = m ∧ Owes table bot (next m) calls := by
  cases hOwes with
  | waiting r hProgram =>
      rw [following_eq] at hProgram
      cases hProgram
      exact ⟨rfl, owes_of_seen r hBindings hBot⟩
  | asking hAsks =>
      rcases hAsks with ⟨_, hSame, _⟩
      cases hSame
  | ended hEnded => cases hEnded

/- A job of a reaction that is answered has made its call. -/
theorem Owes.answer
    {r : Request}
    {next : Except Cause r.Answer → Program Unit}
    (hOwes : Owes table bot (.ask r next) calls)
    (answer : Except Cause r.Answer) :
    (∃ call, r = .platform call ∧
      calls = [call].filter isRoleCall) ∧
        (next answer).hasEnded = true := by
  cases hOwes with
  | waiting r' hProgram =>
      rw [following_eq] at hProgram
      cases hProgram
  | @asking call hAsks =>
      rcases hAsks with ⟨next', hSame, hEnds⟩
      cases hSame
      exact ⟨⟨call, rfl, rfl⟩, hEnds answer⟩
  | ended hEnded => cases hEnded

/- A job of a reaction that has ended owes nothing. -/
theorem Owes.eq_nil
    (hOwes : Owes table bot p calls)
    (hEnded : p.hasEnded = true) :
    calls = [] := by
  cases hOwes with
  | waiting r hProgram =>
      rw [hProgram, following_eq] at hEnded
      cases hEnded
  | asking hAsks =>
      rcases hAsks with ⟨_, rfl, _⟩
      cases hEnded
  | ended => rfl

------------------------------------------------------------
-- Calls That Are Under Way
------------------------------------------------------------

/- The role call that a program waits for. -/
def pending? : Program Unit → Option Platform.Call
  | .ask (.platform call) _ =>
    if isRoleCall call then some call else none
  | _ => none

/- A role call that is under way was owed, and nothing else. -/
theorem Owes.pending?
    (hOwes : Owes table bot p calls) :
    (∃ r, p = following r) ∨ (pending? p).toList = calls := by
  cases hOwes with
  | waiting r hProgram => exact Or.inl ⟨r, hProgram⟩
  | @asking call hAsks =>
      rcases hAsks with ⟨next, rfl, _⟩
      right
      cases hRole : isRoleCall call <;>
        simp [ReactionRole.pending?, hRole]
  | ended hEnded =>
      right
      cases p with
      | done a => rfl
      | fail cause => rfl
      | access change next => cases hEnded
      | ask r next => cases hEnded

end ReactionRole

end GuildWarden
