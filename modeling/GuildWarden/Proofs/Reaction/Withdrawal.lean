import GuildWarden.Proofs.Reaction.Agreement
import GuildWarden.Proofs.Store.Interruption

/-
  This file shows what is left behind when a message was posted
  and its binding could not be stored, at whichever statement
  and for whichever cause. The memory and the tables are as
  before and no reaction was added; but the message is deleted
  only for some causes.

  Key definitions include:
    * `ReactionRole.Alters`
    * `ReactionRole.complaint`
    * `ReactionRole.raised`
    * `ReactionRole.Surrounds`

  Main statements:
    * `ReactionRole.runs_discard`
    * `ReactionRole.runs_of_unpersisted`
    * `ReactionRole.outcome_of_unpersisted`
-/

namespace GuildWarden.ReactionRole

open Program Store

variable {h later : Chronicle}
variable {n : Nat}
variable {trace : List Exchange}
variable {b : Binding}
variable {cause : Cause}

/-
  What exchanges make of the memory: it may change only when a
  program looks at it.
-/
inductive Alters : Memory → List Exchange → Memory → Prop where
  | nil
      (m : Memory) :
      Alters m [] m
  | saw
      {m later : Memory}
      {trace : List Exchange}
      (after : Memory)
      (hRest : Alters after trace later) :
      Alters m (.saw m :: trace) later
  | asked
      {m later : Memory}
      {r : Request}
      {trace : List Exchange}
      (answer : Except Cause r.Answer)
      (hRest : Alters m trace later) :
      Alters m (.asked r answer :: trace) later

theorem Alters.eq_of_unseen
    {m later : Memory}
    (hUnseen : ∀ m, .saw m ∉ trace)
    (hAlters : Alters m trace later) :
    later = m := by
  induction hAlters with
  | nil m => rfl
  | saw after hRest =>
      exact (hUnseen _ List.mem_cons_self).elim
  | asked answer hRest hInduction =>
      exact hInduction fun m hMember =>
        hUnseen m (List.mem_cons_of_mem _ hMember)

------------------------------------------------------------
-- Parts of a Run
------------------------------------------------------------

variable {guildId channelId roleId messageId : Int}
variable {content emoji : String}
variable {sent : Payload}
variable {posting persisting ending : List Exchange}

/- A message is posted by one call. -/
theorem posting_of_runs
    {card : Option Payload}
    (hPosted :
      Runs
        (Platform.sendMessage channelId (.text content) card)
        posting (.ok sent)) :
    ∃ fitted, posting =
      [.asked (.platform (.sendMessage channelId fitted card))
        (.ok sent)] :=
  ⟨_, runs_request_iff.mp hPosted⟩

/- The failure that is raised for a message without a binding. -/
def complaint : Cause → Cause
  | .externalService s => .externalService s
  | _ =>
    .externalService "could not persist reaction-role binding"

theorem discard_eq
    (b : Binding)
    (cause : Cause) :
    discard b cause =
      (handling
        (Platform.perform
          (.deleteMessage b.channelId b.messageId))
        Cause.isRefusal fun _ => .done ()).bind fun _ =>
          .fail (complaint cause) := by
  cases cause <;> rfl

/- What is raised once the deletion of a message was answered. -/
def raised
    (cause : Cause) :
    Except Cause Payload → Cause
  | .ok _ => complaint cause
  | .error failure =>
    if failure.isRefusal then complaint cause else failure

/- A message is deleted by one call, and then a failure raised. -/
theorem runs_discard
    {result : Except Cause Unit}
    (hRuns : Runs (discard b cause) trace result) :
    ∃ answer, trace =
        [.asked
          (.platform (.deleteMessage b.channelId b.messageId))
          answer] ∧
      result = .error (raised cause answer) := by
  rw [discard_eq] at hRuns
  cases hRuns with
  | ask answer hRest =>
      refine ⟨answer, ?_⟩
      cases answer with
      | ok a =>
          rcases runs_fail_iff.mp hRest with ⟨rfl, rfl⟩
          exact ⟨rfl, rfl⟩
      | error failure =>
          have hFailure :
              Runs
                (Program.bind
                  (if failure != .cancelled &&
                      failure.isRefusal then .done ()
                    else .fail failure)
                  fun _ => .fail (complaint cause))
                _ result :=
            hRest
          cases hRefusal : failure.isRefusal with
          | false =>
              simp only [hRefusal, Bool.and_false,
                Bool.false_eq_true, if_false] at hFailure
              rcases runs_fail_iff.mp hFailure with ⟨rfl, rfl⟩
              simp [raised, hRefusal]
          | true =>
              have hHandled : (failure != .cancelled) = true := by
                cases failure <;> simp_all [Cause.isRefusal]
              simp only [hRefusal, hHandled, Bool.and_true,
                if_true] at hFailure
              rcases runs_fail_iff.mp hFailure with ⟨rfl, rfl⟩
              simp [raised, hRefusal]

/- A message whose binding was not stored is withdrawn or not. -/
theorem runs_of_unpersisted
    {result : Except Cause Binding}
    (hPosted :
      Runs
        (Platform.sendMessage channelId (.text content) none)
        posting (.ok sent))
    (hNumber : sent.idItem = .ok messageId)
    (hFailed :
      Runs
        (persist
          ⟨guildId, channelId, messageId, emoji, roleId⟩)
        persisting (.error cause))
    (hRuns :
      Runs
        (bindReaction guildId channelId roleId content emoji)
        (posting ++ persisting ++ ending) result) :
    if isUnbound cause then
      ∃ answer, ending =
          [.asked
            (.platform (.deleteMessage channelId messageId))
            answer] ∧
        result = .error (raised cause answer)
    else ending = [] ∧ result = .error cause := by
  rw [List.append_assoc] at hRuns
  have hNumbered := runs_of_bind hPosted hRuns
  simp only [hNumber] at hNumbered
  have hHandled := runs_of_handling_bind hFailed hNumbered
  cases hCause : isUnbound cause with
  | false =>
      simp only [hCause, Bool.and_false, Bool.false_eq_true,
        if_false] at hHandled ⊢
      exact runs_fail_iff.mp hHandled
  | true =>
      have hGeneral : (cause != .cancelled) = true := by
        cases cause <;> simp_all [isUnbound, Cause.isStorageFault]
      simp only [hCause, hGeneral, Bool.and_true, if_true]
        at hHandled ⊢
      rcases runs_bind_iff.mp hHandled with
        ⟨failure, rfl, hDiscard⟩ | ⟨_, _, _, _, hDiscard, _⟩
      · rcases runs_discard hDiscard with ⟨answer, rfl, ⟨⟩⟩
        exact ⟨answer, rfl, rfl⟩
      · rcases runs_discard hDiscard with ⟨_, _, hRaised⟩
        cases hRaised

------------------------------------------------------------
-- Bindings That Are Not Stored
------------------------------------------------------------

/- Whether an exchange is a call of the platform. -/
def isCall : Exchange → Bool
  | .asked (.platform _) _ => true
  | _ => false

theorem isOfStore_of_isCall
    {e : Exchange}
    (hCall : isCall e = true) :
    isOfStore e = false := by
  unfold isCall at hCall
  split at hCall
  · rfl
  · cases hCall

/-
  A run in three parts: it calls the platform, does something
  else without a look at the memory, and calls it again.
-/
structure Surrounds
    (posting persisting ending : List Exchange) : Prop where
  first : ∀ e ∈ posting, isCall e = true
  middle :
    ∀ e ∈ persisting, isCall e = false ∧ ∀ m, e ≠ .saw m
  last : ∀ e ∈ ending, isCall e = true

namespace Surrounds

/- Only what stands between the calls concerns the store. -/
theorem writes
    (hParts : Surrounds posting persisting ending)
    (hWrites :
      WritesAll n (posting ++ persisting ++ ending) h later) :
    WritesAll n persisting h later := by
  rcases writesAll_append hWrites with
    ⟨stored, hWritten, hAfter⟩
  rcases writesAll_append hWritten with
    ⟨posted, hBefore, hPersisted⟩
  have hPosted : posted = h :=
    hBefore.eq_of_other fun e hMember =>
      isOfStore_of_isCall (hParts.first e hMember)
  have hStored : later = stored :=
    hAfter.eq_of_other fun e hMember =>
      isOfStore_of_isCall (hParts.last e hMember)
  rw [hStored, ← hPosted]
  exact hPersisted

/- Only what stands around it calls the platform. -/
theorem calls
    (hParts : Surrounds posting persisting ending) :
    (posting ++ persisting ++ ending).filter isCall =
      posting ++ ending := by
  have hMiddle : persisting.filter isCall = [] := by
    rw [List.filter_eq_nil_iff]
    intro e hMember
    rw [(hParts.middle e hMember).1]
    exact Bool.false_ne_true
  rw [List.filter_append, List.filter_append, hMiddle,
    List.filter_eq_self.mpr hParts.first,
    List.filter_eq_self.mpr hParts.last, List.append_nil]

theorem unseen
    (hParts : Surrounds posting persisting ending)
    (m : Memory) :
    .saw m ∉ posting ++ persisting ++ ending := by
  intro hMember
  rcases List.mem_append.mp hMember with hEarly | hLast
  · rcases List.mem_append.mp hEarly with hFirst | hMiddle
    · cases hParts.first _ hFirst
    · exact (hParts.middle _ hMiddle).2 m rfl
  · cases hParts.last _ hLast

end Surrounds

/- So it is when a binding was not stored. -/
theorem surrounds_of_unpersisted
    {result : Except Cause Binding}
    (hPosted :
      Runs
        (Platform.sendMessage channelId (.text content) none)
        posting (.ok sent))
    (hNumber : sent.idItem = .ok messageId)
    (hFailed :
      Runs
        (persist
          ⟨guildId, channelId, messageId, emoji, roleId⟩)
        persisting (.error cause))
    (hRuns :
      Runs
        (bindReaction guildId channelId roleId content emoji)
        (posting ++ persisting ++ ending) result) :
    Surrounds posting persisting ending where
  first := by
    rcases posting_of_runs hPosted with ⟨fitted, rfl⟩
    simp [isCall]
  middle := by
    intro e hMember
    rcases (requests_transaction (requests_filing _)).of_runs
      hFailed e hMember with ⟨r, answer, rfl, hOther⟩
    refine ⟨?_, fun m hSame => by cases hSame⟩
    cases r with
    | platform c => exact (hOther trivial).elim
    | _ => rfl
  last := by
    have hWithdrawn :=
      runs_of_unpersisted hPosted hNumber hFailed hRuns
    split at hWithdrawn
    · rcases hWithdrawn with ⟨answer, rfl, _⟩
      simp [isCall]
    · simp [hWithdrawn.1]

/-
  When a message was posted and its binding was not stored, be
  it for a statement, for the commit or for a cancellation, the
  memory is as before, and so is the store unless it was
  cancelled. After the post no call is made but one: the
  message is deleted and a failure of the service is raised for
  the causes that the database or the tracker raises itself.
  Any other cause is raised as it is and leaves the message.
-/
theorem outcome_of_unpersisted
    {result : Except Cause Binding}
    {m left : Memory}
    (hSplit : trace = posting ++ persisting ++ ending)
    (hPosted :
      Runs
        (Platform.sendMessage channelId (.text content) none)
        posting (.ok sent))
    (hNumber : sent.idItem = .ok messageId)
    (hFailed :
      Runs
        (persist
          ⟨guildId, channelId, messageId, emoji, roleId⟩)
        persisting (.error cause))
    (hRuns :
      Runs
        (bindReaction guildId channelId roleId content emoji)
        trace result)
    (hUnlocked :
      ∀ failure,
        .asked .unlockStore (.error failure) ∉ persisting)
    (hSettled : h.connection.IsSettled)
    (hWrites : WritesAll n trace h later)
    (hMemory : Alters m trace left) :
    left = m ∧
    (cause ≠ .cancelled → later.connection = h.connection) ∧
    ((∀ answer, .asked .commit answer ∉ trace) →
      later.connection.permanent = h.connection.permanent) ∧
    if isUnbound cause then
      ∃ answer,
        trace.filter isCall =
          posting ++
            [.asked
              (.platform (.deleteMessage channelId messageId))
              answer] ∧
        result = .error (raised cause answer)
    else
      trace.filter isCall = posting ∧
        result = .error cause := by
  subst hSplit
  have hEncloses :=
    encloses_of_rows (requests_filing
      ⟨guildId, channelId, messageId, emoji, roleId⟩)
  have hParts :=
    surrounds_of_unpersisted hPosted hNumber hFailed hRuns
  have hPersisted := hParts.writes hWrites
  have hWithdrawn :=
    runs_of_unpersisted hPosted hNumber hFailed hRuns
  refine ⟨hMemory.eq_of_unseen hParts.unseen, ?_, ?_, ?_⟩
  · intro hCause
    exact connection_of_failed hEncloses hFailed hCause
      hUnlocked hSettled hPersisted
  · intro hUncommitted
    refine permanent_of_uncommitted hEncloses hFailed ?_
      hSettled hPersisted
    intro answer hMember
    exact hUncommitted answer (List.mem_append_left _
      (List.mem_append_right _ hMember))
  · rw [hParts.calls]
    cases hCause : isUnbound cause with
    | false =>
        rw [hCause] at hWithdrawn
        rcases hWithdrawn with ⟨rfl, hResult⟩
        exact ⟨List.append_nil posting, hResult⟩
    | true =>
        rw [hCause] at hWithdrawn
        rcases hWithdrawn with ⟨answer, rfl, hResult⟩
        exact ⟨answer, rfl, hResult⟩

/- A binding in a channel whose number has over 64 bits. -/
def distant : Binding :=
  ⟨100, 21000000000000000000, 9000, checkMark, 400⟩

/- The welcome message is posted there. -/
def distantPosting : List Exchange :=
  [.asked
    (.platform (.sendMessage distant.channelId
      (some (.text
        (Message.truncate welcome Message.maxLength))) none))
    (.ok (.map [("id", .int 9000)]))]

/- Its binding is refused by the store. -/
def distantPersisting : List Exchange :=
  [
    .asked .reachStore (.ok ()),
    .asked .lockStore (.ok ()),
    .asked (.statement (.isBound 9000 checkMark))
      (.ok (false : Bool)),
    .asked (.statement (.boundMessages 100))
      (.ok ([] : List Int)),
    .asked (.statement (.dropBindings 100)) (.ok ()),
    .asked (.statement (.addBinding distant))
      (.error .outOfRange),
    .asked .rollback (.ok ()),
    .asked .unlockStore (.ok ())
  ]

/-
  The refusal is raised as it is, and the message is left
  without a binding.
-/
theorem distant_leaves_message :
    Runs (establish 100 distant.channelId 400)
        (distantPosting ++ distantPersisting ++ [])
        (.error .outOfRange) ∧
      (distantPosting ++ distantPersisting ++ []).filter isCall =
        distantPosting := by
  have hPosted :
      Runs
        (Platform.sendMessage distant.channelId (.text welcome)
          none)
        distantPosting (.ok (.map [("id", .int 9000)])) :=
    .ask _ (.done _)
  have hFailed :
      Runs (persist distant) distantPersisting
        (.error .outOfRange) :=
    .ask _ (.ask _ (.ask _ (.ask _ (.ask _ (.ask _ (.ask _
      (.ask _ (.fail _))))))))
  have hRuns :
      Runs (establish 100 distant.channelId 400)
        (distantPosting ++ distantPersisting ++ [])
        (.error .outOfRange) :=
    .ask _ (.ask _ (.ask _ (.ask _ (.ask _ (.ask _ (.ask _
      (.ask _ (.ask _ (.fail _)))))))))
  have hWrites :
      WritesAll 0 (distantPosting ++ distantPersisting ++ [])
        (.start unbound.store) _ :=
    .cons (.passed rfl) (.cons (.passed rfl)
      (.cons (.passed rfl)
        (.cons (.executed (s := .isBound 9000 checkMark)
            (a := (false : Bool)) _ rfl (Or.inl rfl))
          (.cons (.executed (s := .boundMessages 100)
              (a := ([] : List Int)) _ rfl (Or.inl rfl))
            (.cons (.executed (s := .dropBindings 100)
                (a := ()) _ rfl (Or.inl rfl))
              (.cons (.failed _ (Or.inr rfl))
                (.cons (.rolledBack _ (Or.inl rfl))
                  (.cons (.passed rfl) (.nil _)))))))))
  have hMemory :
      Alters Memory.empty
        (distantPosting ++ distantPersisting ++ []) Memory.empty :=
    .asked _ (.asked _ (.asked _ (.asked _ (.asked _ (.asked _
      (.asked _ (.asked _ (.asked _ (.nil _)))))))))
  have hSettled :
      (Chronicle.start unbound.store).connection.IsSettled :=
    rfl
  have hLeft :=
    outcome_of_unpersisted rfl hPosted rfl hFailed hRuns
      (by simp [distantPersisting]) hSettled hWrites hMemory
  exact ⟨hRuns, hLeft.2.2.2.1⟩

end GuildWarden.ReactionRole
