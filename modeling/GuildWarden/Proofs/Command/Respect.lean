import GuildWarden.Command.Context
import GuildWarden.Proofs.Effect.Runs
import GuildWarden.Store.Transaction

/-
  This file describes programs that respect the reply history.
  Such a program works for one command at most. It records a
  reply only where it saw none, and forgets only a reply that
  the platform does not know any more. What is known of roles
  and the own user id it leaves alone.

  Key definitions include:
    * `Memory.Retains`
    * `Command.Insight`
    * `Command.Insight.Learns`
    * `Command.Insight.Edits`
    * `Program.Respects`

  Main statements:
    * `Program.Respects.bind`
    * `Command.Context.respects_reply`
-/

namespace GuildWarden

variable {α β : Type}

/- The roles and the own user id are the same as before. -/
structure Memory.Retains
    (before after : Memory) : Prop where
  roles : after.roles = before.roles
  botUserId : after.botUserId = before.botUserId

namespace Command

------------------------------------------------------------
-- Insights
------------------------------------------------------------

/-
  What a program knows of the recorded reply to its command:
  nothing; that it is a given one, if there is one; that this
  one is gone; or that there is none.
-/
inductive Insight where
  | nothing
  | earlier (replyId : Int)
  | missing (replyId : Int)
  | vacant

namespace Insight

/- What was seen in the history. -/
def seen : Option ReplyEntry → Insight
  | some e => .earlier e.replyId
  | none => .vacant

/- An insight fits a history. -/
def Holds
    (owner : Option Int)
    (h : ReplyHistory) : Insight → Prop
  | .nothing => True
  | .earlier r =>
    ∀ id e, owner = some id → h.find? id = some e →
      e.replyId = r
  | .missing r =>
    ∀ id e, owner = some id → h.find? id = some e →
      e.replyId = r
  | .vacant => ∀ id, owner = some id → h.find? id = none

/-
  What is known after an answer. An earlier reply that cannot
  be edited since nobody knows it is gone.
-/
def Learns
    (before after : Insight) :
    (r : Request) → Except Cause r.Answer → Prop
  | .platform (.editMessage _ replyId _ _), .error cause =>
    after = .nothing ∨ after = before ∨
      cause.isUnknownTarget = true ∧
        before = .earlier replyId ∧ after = .missing replyId
  | _, _ => after = .nothing ∨ after = before

/-
  How the history may be changed by a program that works for a
  command, and what it knows then: it looks at it, it forgets
  a reply that is gone, or it records one where there is none.
-/
def Edits
    (owner : Option Int)
    (before after : Insight)
    (h h' : ReplyHistory) : Prop :=
  (h' = h ∧
      (after = .nothing ∨
        ∃ id, owner = some id ∧ after = seen (h.find? id))) ∨
    (∃ id r, owner = some id ∧ before = .missing r ∧
      h' = h.erase id ∧ after = .vacant) ∨
    ∃ e, owner = some e.commandId ∧ before = .vacant ∧
      h' = h.record e ∧ after = .nothing

theorem learns_nothing
    (before : Insight)
    (r : Request)
    (answer : Except Cause r.Answer) :
    before.Learns .nothing r answer := by
  unfold Learns
  split
  · exact Or.inl rfl
  · exact Or.inl rfl

theorem learns_same
    (before : Insight)
    (r : Request)
    (answer : Except Cause r.Answer) :
    before.Learns before r answer := by
  unfold Learns
  split
  · exact Or.inr (Or.inl rfl)
  · exact Or.inr rfl

/- Who knows nothing learns nothing from an answer. -/
theorem eq_nothing_of_learns
    {after : Insight}
    {r : Request}
    {answer : Except Cause r.Answer}
    (hLearns : Insight.nothing.Learns after r answer) :
    after = .nothing := by
  unfold Learns at hLearns
  split at hLearns
  · rcases hLearns with hNone | hSame | ⟨_, hEarlier, _⟩
    · exact hNone
    · exact hSame
    · cases hEarlier
  · rcases hLearns with hNone | hSame
    · exact hNone
    · exact hSame

/- Who knows nothing may only look. -/
theorem edits_of_nothing
    {owner : Option Int}
    {after : Insight}
    {h h' : ReplyHistory}
    (before : Insight)
    (hEdits : Insight.nothing.Edits owner after h h') :
    before.Edits owner after h h' := by
  rcases hEdits with hLook | ⟨_, _, _, hMissing, _⟩ |
    ⟨_, _, hVacant, _⟩
  · exact Or.inl hLook
  · cases hMissing
  · cases hVacant

end Insight

end Command

------------------------------------------------------------
-- Respect
------------------------------------------------------------

namespace Program

open Command

/- A program changes the history only as it may, and no roles. -/
inductive Respects
    (owner : Option Int) :
    Program α → Insight → Prop where
  | done
      (a : α)
      (known : Insight) :
      Respects owner (.done a) known
  | fail
      (cause : Cause)
      (known : Insight) :
      Respects owner (.fail cause) known
  | access
      {known : Insight}
      {change : Memory → Memory}
      {next : Memory → Program α}
      (after : Memory → Insight)
      (hEdits :
        ∀ m, known.Edits owner (after m) m.history
          (change m).history)
      (hRetains : ∀ m, Memory.Retains m (change m))
      (hNext : ∀ m, Respects owner (next m) (after m)) :
      Respects owner (.access change next) known
  | ask
      {known : Insight}
      {r : Request}
      {next : Except Cause r.Answer → Program α}
      (after : Except Cause r.Answer → Insight)
      (hLearns :
        ∀ answer, known.Learns (after answer) r answer)
      (hNext :
        ∀ answer, Respects owner (next answer) (after answer)) :
      Respects owner (.ask r next) known

variable {owner : Option Int}
variable {known : Insight}
variable {p : Program α}
variable {f : α → Program β}

namespace Respects

/- It does no harm to know more. -/
theorem weaken
    (hRespects : p.Respects owner .nothing) :
    p.Respects owner known := by
  cases hRespects with
  | done a => exact .done a known
  | fail cause => exact .fail cause known
  | access after hEdits hRetains hNext =>
      refine .access after ?_ hRetains hNext
      intro m
      exact Insight.edits_of_nothing known (hEdits m)
  | ask after hLearns hNext =>
      refine .ask (fun _ => .nothing) ?_ ?_
      · intro answer
        exact Insight.learns_nothing _ _ _
      · intro answer
        rw [← Insight.eq_nothing_of_learns (hLearns answer)]
        exact hNext answer

/- What follows a program may know nothing of what it found. -/
theorem bind
    (hFirst : p.Respects owner known)
    (hRest : ∀ a, (f a).Respects owner .nothing) :
    (p.bind f).Respects owner known := by
  induction hFirst with
  | done a known => exact (hRest a).weaken
  | fail cause known => exact .fail cause known
  | access after hEdits hRetains _ hInduction =>
      exact .access after hEdits hRetains hInduction
  | ask after hLearns _ hInduction =>
      exact .ask after hLearns hInduction

theorem attempt
    (hRespects : p.Respects owner known) :
    p.attempt.Respects owner known := by
  induction hRespects with
  | done a known => exact .done (Except.ok a) known
  | fail cause known =>
      exact .done (Except.error cause) known
  | access after hEdits hRetains _ hInduction =>
      exact .access after hEdits hRetains hInduction
  | ask after hLearns _ hInduction =>
      exact .ask after hLearns hInduction

theorem handling
    {test : Cause → Bool}
    {handle : Cause → Program α}
    (hRespects : p.Respects owner known)
    (hHandle : ∀ cause, (handle cause).Respects owner .nothing) :
    (p.handling test handle).Respects owner known := by
  apply Respects.bind hRespects.attempt
  intro result
  cases result with
  | ok a => exact .done a _
  | error cause =>
      simp only
      split
      · exact hHandle cause
      · exact .fail cause _

theorem settle
    (result : Except Cause α) :
    (settle result).Respects owner known := by
  cases result with
  | ok a => exact .done a known
  | error cause => exact .fail cause known

theorem request
    (r : Request) :
    (request r).Respects owner known :=
  .ask (fun _ => .nothing)
    (fun _ => Insight.learns_nothing _ _ _)
    (fun answer => .settle answer)

theorem memory :
    Program.memory.Respects owner known :=
  .access (fun _ => .nothing)
    (fun _ => Or.inl ⟨rfl, Or.inl rfl⟩)
    (fun _ => ⟨rfl, rfl⟩)
    (fun m => .done m _)

/- The memory is changed, but not the history or the roles. -/
theorem change
    {f : Memory → Memory}
    (hSame :
      ∀ m, (f m).history = m.history ∧ m.Retains (f m)) :
    (change f).Respects owner known :=
  .access (fun _ => .nothing)
    (fun m => Or.inl ⟨(hSame m).1, Or.inl rfl⟩)
    (fun m => (hSame m).2)
    (fun _ => .done () _)

theorem within
    (span : Span)
    (hRespects : p.Respects owner .nothing) :
    (within span p).Respects owner known := by
  rw [within_eq_ite]
  split
  · exact .fail _ _
  · apply (Respects.request _).bind
    intro _
    apply hRespects.attempt.bind
    intro result
    apply (Respects.request _).bind
    intro expired
    exact .settle _

/- Each choice respects the history. -/
theorem ite
    {test : Prop}
    [Decidable test]
    {q : Program α}
    (hFirst : test → p.Respects owner known)
    (hSecond : ¬ test → q.Respects owner known) :
    (if test then p else q).Respects owner known := by
  by_cases hTest : test
  · rw [if_pos hTest]
    exact hFirst hTest
  · rw [if_neg hTest]
    exact hSecond hTest

end Respects

end Program

------------------------------------------------------------
-- Transactions
------------------------------------------------------------

namespace Store

open Program

variable {owner : Option Int}
variable {known : Command.Insight}
variable {body : Program α}

theorem respects_reading
    (hBody : body.Respects owner .nothing) :
    (reading body).Respects owner known := by
  apply (Respects.request _).bind
  intro _
  exact hBody

theorem respects_execute
    (s : Statement) :
    (execute s).Respects owner known :=
  .request _

theorem respects_committing
    (hBody : body.Respects owner .nothing) :
    (committing body).Respects owner .nothing := by
  apply Respects.handling
  · apply hBody.bind
    intro a
    apply (Respects.request _).bind
    intro _
    exact .done _ _
  · intro cause
    apply (Respects.request _).bind
    intro _
    exact .fail _ _

theorem respects_transaction
    (hBody : body.Respects owner .nothing) :
    (transaction body).Respects owner known := by
  apply (Respects.request _).bind
  intro _
  apply (Respects.request _).bind
  intro _
  apply (respects_committing hBody).attempt.bind
  intro result
  apply (Respects.request _).bind
  intro _
  exact .settle result

end Store

------------------------------------------------------------
-- Calls
------------------------------------------------------------

namespace Platform

open Program

variable {owner : Option Int}
variable {known : Command.Insight}

/- A content that cannot be sent has no length. -/
theorem eq_badType_of_fitted
    {content : Payload}
    {cause : Cause}
    (hFit : fitted content = .error cause) :
    cause = .badType := by
  unfold fitted at hFit
  split at hFit
  · cases hFit
  · split at hFit
    · cases hFit
    · exact (Except.error.inj hFit).symm
  · split at hFit
    · cases hFit
    · exact (Except.error.inj hFit).symm
  · exact (Except.error.inj hFit).symm

theorem respects_perform
    (c : Call) :
    (perform c).Respects owner known := by
  apply (Respects.request _).bind
  intro _
  exact .done _ _

theorem respects_sendMessage
    (channelId : Int)
    (content : Payload)
    (card : Option Payload) :
    (sendMessage channelId content card).Respects owner
      known := by
  apply (Respects.settle _).bind
  intro fit
  exact .request _

theorem respects_sendDirectMessage
    (userId : Int)
    (content : Payload) :
    (sendDirectMessage userId content).Respects owner known := by
  apply (Respects.request _).bind
  intro channel
  apply (Respects.settle _).bind
  intro channelId
  exact respects_sendMessage channelId content none

end Platform

------------------------------------------------------------
-- Replies
------------------------------------------------------------

namespace Command.Context

open Program

variable {owner : Option Int}
variable {c : Context}

/- Replies are recorded under no other command. -/
def IsOf
    (c : Context)
    (owner : Option Int) : Prop :=
  ∀ id, c.recordedId? = some id → owner = some id

/- A message is recorded where there is no reply. -/
theorem respects_record
    (reply : Payload)
    (hOf : c.IsOf owner) :
    (c.record reply).Respects owner .vacant := by
  unfold record
  cases hId : c.recordedId? with
  | none => exact .done _ _
  | some id =>
      simp only
      split
      · cases reply.idItem with
        | error cause => exact .fail _ _
        | ok replyId =>
            refine .ask (fun _ => .vacant)
              (fun _ => Insight.learns_same _ _ _) ?_
            intro answer
            cases answer with
            | error cause => exact .fail _ _
            | ok time =>
                refine .access (fun _ => .nothing) ?_
                  (fun _ => ⟨rfl, rfl⟩) (fun _ => .done _ _)
                intro m
                exact Or.inr (Or.inr
                  ⟨⟨id, c.channelId, replyId, time⟩,
                    hOf id hId, rfl, rfl, rfl⟩)
      · exact .done _ _

/- Nothing is recorded without a command. -/
theorem respects_record_of_none
    {known : Insight}
    (reply : Payload)
    (hId : c.recordedId? = none) :
    (c.record reply).Respects owner known := by
  unfold record
  rw [hId]
  exact .done _ _

/- A message is sent and then recorded as a reply. -/
theorem respects_post
    (content : Payload)
    (card : Option Payload)
    (hOf : c.IsOf owner) :
    ((Platform.sendMessage c.channelId content card).bind
      c.record).Respects owner .vacant := by
  unfold Platform.sendMessage
  cases Platform.contentOf content with
  | error cause => exact .fail _ _
  | ok fit =>
      refine .ask (fun _ => .vacant)
        (fun _ => Insight.learns_same _ _ _) ?_
      intro answer
      cases answer with
      | error cause => exact .fail _ _
      | ok reply => exact respects_record reply hOf

/- What is left of a reply when it is not a new one. -/
def afresh
    (c : Context)
    (content : Payload)
    (card : Option Payload)
    (kept : Bool) : Program Unit :=
  if kept then .done ()
  else
    (Platform.sendMessage c.channelId content card).bind
      c.record

theorem reply_eq
    (c : Context)
    (content : Payload)
    (card : Option Payload) :
    c.reply content card =
      (c.changeEarlier content card).bind
        (c.afresh content card) := by
  unfold reply
  congr 1

/- What is known of a reply that was edited, or was not. -/
def edited
    (replyId : Int) :
    Except Cause Payload → Insight
  | .error cause =>
    if cause.isUnknownTarget then .missing replyId else .nothing
  | .ok _ => .nothing

theorem learns_edited
    (channelId replyId : Int)
    (content : Payload)
    (card : Option Payload)
    (answer : Except Cause Payload) :
    (Insight.earlier replyId).Learns (edited replyId answer)
      (.platform
        (.editMessage channelId replyId content card))
      answer := by
  cases answer with
  | ok payload => exact Or.inl rfl
  | error cause =>
      by_cases hGone : cause.isUnknownTarget = true
      · have hMissing :
            edited replyId (.error cause) = .missing replyId := by
          simp [edited, hGone]
        rw [hMissing]
        exact Or.inr (Or.inr ⟨hGone, rfl, rfl⟩)
      · have hNothing :
            edited replyId (.error cause) = .nothing := by
          simp [edited, hGone]
        rw [hNothing]
        exact Or.inl rfl

/- A reply that is gone is replaced by a new one. -/
theorem respects_replace
    {id : Int}
    (replyId : Int)
    (content : Payload)
    (card : Option Payload)
    (hOf : c.IsOf owner)
    (hId : c.recordedId? = some id) :
    ((c.change id replyId content card).bind
      (c.afresh content card)).Respects owner
        (.earlier replyId) := by
  unfold change Platform.editMessage
  cases hFit : Platform.fitted (content.orElse (.text "")) with
  | error cause =>
      rw [Platform.eq_badType_of_fitted hFit]
      exact .fail _ _
  | ok fit =>
      refine .ask (edited replyId)
        (learns_edited c.channelId replyId fit card) ?_
      intro answer
      cases answer with
      | ok payload => exact .done _ _
      | error cause =>
          by_cases hGone : cause.isUnknownTarget = true
          · have hCause : cause = .refused 404 := by
              simpa [Cause.isUnknownTarget] using hGone
            subst hCause
            refine .access (fun _ => .vacant) ?_
              (fun _ => ⟨rfl, rfl⟩) ?_
            · intro m
              exact Or.inr (Or.inl
                ⟨id, replyId, hOf id hId, rfl, rfl, rfl⟩)
            · intro m
              exact respects_post content card hOf
          · simp only [attempt, Program.bind, Program.settle,
              pure_eq, hGone, Bool.and_false]
            exact .fail _ _

/- A reply respects the history. -/
theorem respects_reply
    (content : Payload)
    (card : Option Payload)
    (hOf : c.IsOf owner) :
    (c.reply content card).Respects owner .nothing := by
  rw [reply_eq]
  unfold changeEarlier
  cases hId : c.recordedId? with
  | none =>
      apply (Platform.respects_sendMessage _ _ _).bind
      intro reply
      exact respects_record_of_none reply hId
  | some id =>
      refine .access
        (fun m => Insight.seen (m.history.find? id)) ?_
        (fun _ => ⟨rfl, rfl⟩) ?_
      · intro m
        exact Or.inl ⟨rfl, Or.inr ⟨id, hOf id hId, rfl⟩⟩
      · intro m
        cases hFind : m.history.find? id with
        | none =>
            have hNone : m.history.replyTo? id = none := by
              rw [ReplyHistory.replyTo?, hFind]
              rfl
            simp only [Program.bind, hNone]
            exact respects_post content card hOf
        | some e =>
            have hSome :
                m.history.replyTo? id = some e.replyId := by
              rw [ReplyHistory.replyTo?, hFind]
              rfl
            simp only [Program.bind, hSome]
            exact respects_replace e.replyId content card hOf
              hId

end Command.Context

end GuildWarden
