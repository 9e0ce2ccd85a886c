import GuildWarden.Proofs.Effect.Company
import GuildWarden.Proofs.Store.Bindings
import GuildWarden.Reaction.Role

/-
  This file shows that the bindings in memory are the stored
  ones, whichever bindings are made and loaded at the same
  time, whatever the platform answers and whichever statements
  the store refuses.

  Key definitions include:
    * `ReactionRole.Agrees`
    * `ReactionRole.IsTask`
    * `ReactionRole.IsConsistent`

  Main statements:
    * `ReactionRole.performs_persist`
    * `ReactionRole.performs_loadBindings`
    * `ReactionRole.isConsistent_of_reaches`
-/

namespace GuildWarden.ReactionRole

open Program Store

variable {w later : Shared}
variable {trace : List Exchange}
variable {b : Binding}

------------------------------------------------------------
-- Storing a Binding
------------------------------------------------------------

/- The statements by which a free reaction is bound. -/
def replacing
    (b : Binding) : Program Unit :=
  (execute (.boundMessages b.guildId)).bind fun _ =>
    (execute (.dropBindings b.guildId)).bind fun _ =>
      execute (.addBinding b)

/- The statements by which a reaction is bound if it is free. -/
def filing
    (b : Binding) : Program Unit :=
  (execute (.isBound b.messageId b.emoji)).bind
    fun (taken : Bool) =>
      if taken then .fail (alreadyBound b) else replacing b

theorem persist_eq
    (b : Binding) :
    persist b = transaction (filing b) :=
  rfl

theorem requests_filing
    (b : Binding) :
    (filing b).Requests IsOfRows := by
  refine Requests.bind
    (Requests.request (by simp [IsOfRows])) ?_
  intro (taken : Bool)
  cases taken with
  | true => trivial
  | false =>
      exact Requests.bind
        (Requests.request (by simp [IsOfRows])) fun _ =>
          Requests.bind
            (Requests.request (by simp [IsOfRows])) fun _ =>
              Requests.request (by simp [IsOfRows])

theorem endures_filing
    (b : Binding) :
    (filing b).Endures := by
  refine (Endures.request _).bind ?_
  intro (taken : Bool)
  cases taken with
  | true => simp [alreadyBound, Endures]
  | false =>
      exact (Endures.request _).bind fun _ =>
        (Endures.request _).bind fun _ => Endures.request _

/- The tables when a free reaction is bound in place of others. -/
structure IsReplaced
    (b : Binding)
    (before after : Tables) : Prop where
  bindings :
    after.bindings = replaceGuild before.bindings b
  free :
    ∀ r ∈ before.bindings.filter fun r =>
        r.guildId != b.guildId,
      b.sameReaction r = false
  has :
    before.has .bindings = true → after.has .bindings = true

theorem performs_replacing
    (hPerforms :
      Performs w (replacing b) trace (.ok ()) later) :
    IsReplaced b w.store.current later.store.current := by
  rcases performs_bind_ok_iff.mp hPerforms with
    ⟨_, _, _, read, rfl, hRead, hPerforms⟩
  rcases performs_bind_ok_iff.mp hPerforms with
    ⟨_, _, _, dropped, rfl, hDrop, hAdd⟩
  have hRead := (performs_request_iff.mp hRead).2.1
  have hDrop := (performs_request_iff.mp hDrop).2.1
  have hAdd := (performs_request_iff.mp hAdd).2.1
  have hBindings :
      dropped.store.current.bindings =
        w.store.current.bindings.filter fun r =>
          r.guildId != b.guildId := by
    rw [Connection.bindings_of_run hDrop,
      Statement.bindingsAfter,
      Connection.bindings_of_run hRead]
    rfl
  refine ⟨?_, ?_, ?_⟩
  · rw [Connection.bindings_of_run hAdd,
      Statement.bindingsAfter, hBindings]
    rfl
  · rw [← hBindings]
    exact Connection.not_sameReaction_of_run hAdd
  · intro hHas
    exact Connection.has_of_run hAdd
      (Connection.has_of_run hDrop
        (Connection.has_of_run hRead hHas))

/- A binding is stored in place of others, or not at all. -/
theorem performs_persist
    {result : Except Cause Unit}
    (hRest : w.IsAtRest)
    (hPerforms : Performs w (persist b) trace result later) :
    (∃ t, result = .ok () ∧
      later = { w with store := .ofTables t } ∧
        IsReplaced b w.store.current t) ∨
    (∃ cause, result = .error cause ∧ later = w) := by
  rw [persist_eq] at hPerforms
  rcases performs_transaction (requests_filing b)
    (endures_filing b) hRest hPerforms with
    ⟨⟨⟩, inner, between, rfl, hBody, _, rfl⟩ |
      ⟨cause, rfl, _, hSame⟩
  · refine Or.inl ⟨_, rfl, rfl, ?_⟩
    rcases performs_bind_ok_iff.mp hBody with
      ⟨_, taken, _, asked, _, hAsk, hBody⟩
    have hSame := (performs_execute_read (w := w.locked) rfl
      (by simp) hRest.settled hAsk).2.1
    rw [hSame] at hBody
    cases (taken : Bool) with
    | true => cases hBody
    | false =>
        exact performs_replacing (w := w.locked) hBody
  · exact Or.inr ⟨cause, rfl, hSame⟩

------------------------------------------------------------
-- Loading
------------------------------------------------------------

/- The memory with the given bindings. -/
def withBindings
    (m : Memory)
    (bindings : List Binding) : Memory :=
  { m with bindings }

/- What is loaded are the stored bindings, if it succeeds. -/
theorem performs_loadBindings
    {result : Except Cause Nat}
    (hSettled : w.store.IsSettled)
    (hPerforms : Performs w loadBindings trace result later) :
    (∃ n, result = .ok n ∧
      later =
        { w with
          memory :=
            withBindings w.memory
              (Memory.gatherBindings
                w.store.current.bindings) }) ∨
    (∃ cause, result = .error cause ∧ later = w) := by
  rcases performs_bind_iff.mp hPerforms with
    ⟨cause, rfl, hRead⟩ |
      ⟨_, rows, _, read, _, hRead, hRemember⟩
  · rcases performs_reading hRead with ⟨_, _, hRead⟩
    exact Or.inr ⟨cause, rfl, (performs_execute_read rfl
      (by simp) hSettled hRead).2.1⟩
  · rcases performs_reading hRead with ⟨_, _, hRead⟩
    rcases performs_execute_read rfl (by simp) hSettled hRead
      with ⟨_, hSame, hAnswer⟩
    cases hAnswer rows rfl
    rw [hSame] at hRemember
    cases hRemember with
    | access hDone =>
    rcases performs_done_iff.mp hDone with ⟨_, rfl, rfl⟩
    exact Or.inl ⟨_, rfl, rfl⟩

------------------------------------------------------------
-- Agreement
------------------------------------------------------------

/- The bindings in memory are the stored ones. -/
structure Agrees
    (w : Shared) : Prop where
  rest : w.IsAtRest
  cached : w.memory.bindings = w.store.current.bindings
  distinct : IsDistinct w.store.current.bindings
  single : IsSingle w.store.current.bindings
  created : w.store.current.has .bindings = true

/- Loading does not change what is in memory already. -/
theorem Agrees.of_loaded
    (hAgrees : Agrees w) :
    Agrees
      { w with
        memory :=
          withBindings w.memory
            (Memory.gatherBindings
              w.store.current.bindings) } :=
  {
    rest := ⟨hAgrees.rest.free, hAgrees.rest.settled⟩
    cached :=
      Memory.gatherBindings_of_isDistinct hAgrees.distinct
    distinct := hAgrees.distinct
    single := hAgrees.single
    created := hAgrees.created
  }

/- A binding that was stored is put into the memory. -/
theorem Agrees.of_stored
    {t : Tables}
    (hAgrees : Agrees w)
    (hReplaced : IsReplaced b w.store.current t) :
    Agrees
      { w with
        store := .ofTables t
        memory := w.memory.putBinding b } where
  rest := ⟨hAgrees.rest.free, rfl⟩
  cached := by
    have hFree := hReplaced.free
    rw [← hAgrees.cached] at hFree
    change
      (w.memory.putBinding b).bindings = t.bindings
    rw [Memory.bindings_putBinding hFree, hReplaced.bindings,
      hAgrees.cached]
  distinct := by
    change IsDistinct t.bindings
    rw [hReplaced.bindings]
    exact isDistinct_replaceGuild hAgrees.distinct
      hReplaced.free
  single := by
    change IsSingle t.bindings
    rw [hReplaced.bindings]
    exact isSingle_replaceGuild hAgrees.single
  created := hReplaced.has hAgrees.created

theorem abides_loadBindings
    (hAgrees : Agrees w) :
    Abides Agrees (fun _ => Agrees) w loadBindings := by
  refine Abides.bind (Abides.of_performs ?_ ?_)
  · exact Requests.bind (Requests.request id) fun _ =>
      Requests.request id
  · intro trace result later hPerforms
    rcases performs_reading hPerforms with ⟨_, _, hRead⟩
    rcases performs_execute_read rfl (by simp)
      hAgrees.rest.settled hRead with ⟨_, rfl, hAnswer⟩
    cases result with
    | ok rows =>
        cases hAnswer rows rfl
        exact hAgrees.of_loaded
    | error cause => exact hAgrees

/- A message that could not be bound is deleted, and no more. -/
theorem abides_discard
    (b : Binding)
    (cause : Cause)
    (hAgrees : Agrees w) :
    Abides Agrees
      (fun result w =>
        (∃ cause, result = .error cause) ∧ Agrees w)
      w (discard b cause) := by
  have hCalls :
      (handling
        (Platform.perform
          (.deleteMessage b.channelId b.messageId))
        Cause.isRefusal fun _ => .done ()).Requests IsCall :=
    Requests.handling (requests_perform _) fun _ => trivial
  refine Abides.bind ((Abides.of_calls hCalls hAgrees).mono ?_)
  intro result w hAgrees
  cases result with
  | error cause' => exact ⟨⟨cause', rfl⟩, hAgrees⟩
  | ok _ => cases cause <;> exact ⟨⟨_, rfl⟩, hAgrees⟩

/- A binding is made without others seeing half of it. -/
theorem abides_bindReaction
    (guildId channelId roleId : Int)
    (content emoji : String)
    (hAgrees : Agrees w) :
    Abides Agrees (fun _ => Agrees) w
      (bindReaction guildId channelId roleId content
        emoji) := by
  refine Abides.bind ((Abides.of_calls
    (requests_sendMessage _ _ _) hAgrees).mono ?_)
  intro sent w hAgrees
  cases sent with
  | error cause => exact hAgrees
  | ok sent =>
  refine Abides.bind (Abides.settle ?_)
  cases sent.idItem with
  | error cause => exact hAgrees
  | ok messageId =>
  refine Abides.bind (Abides.handling (Abides.of_performs
    (requests_transaction (requests_filing _)) ?_))
  intro trace result later hPerforms
  rcases performs_persist hAgrees.rest hPerforms with
    ⟨t, rfl, rfl, hReplaced⟩ | ⟨cause, rfl, rfl⟩
  · -- The binding was stored, and is put into the memory.
    have hCalls (b : Binding) :
        ((Platform.perform
          (.addReaction channelId messageId emoji)).bind
            fun _ => .done b).Requests IsCall :=
      Requests.bind (requests_perform _) fun _ => trivial
    change
      Abides Agrees (fun _ => Agrees)
        { w with
          store := .ofTables t
          memory := w.memory.putBinding _ }
        (Program.bind (Platform.perform _) fun _ => .done _)
    exact Abides.of_calls (hCalls _)
      (hAgrees.of_stored hReplaced)
  · refine ⟨hAgrees, (abides_discard _ _ hAgrees).mono ?_⟩
    rintro _ _ ⟨⟨cause', rfl⟩, hAgrees⟩
    exact hAgrees

------------------------------------------------------------
-- Companies of Trackers
------------------------------------------------------------

/- What is done: bindings are loaded, or one is made. -/
inductive IsTask : Program Unit → Prop where
  | load :
      IsTask (loadBindings.bind fun _ => .done ())
  | make
      (guildId channelId roleId : Int)
      (content emoji : String) :
      IsTask
        ((bindReaction guildId channelId roleId content
          emoji).bind fun _ => .done ())

theorem abides_of_isTask
    {p : Program Unit}
    (hTask : IsTask p)
    (hAgrees : Agrees w) :
    Abides Agrees (fun _ => Agrees) w p := by
  cases hTask with
  | load =>
      refine Abides.bind
        ((abides_loadBindings hAgrees).mono ?_)
      intro result w hAgrees
      cases result <;> exact hAgrees
  | make guildId channelId roleId content emoji =>
      refine Abides.bind ((abides_bindReaction guildId channelId
        roleId content emoji hAgrees).mono ?_)
      intro result w hAgrees
      cases result <;> exact hAgrees

/- A new start with the permanent tables. -/
def restarted
    (w : Shared)
    (m : Memory) : Shared where
  clock := w.clock
  memory := m
  store := .ofTables w.store.permanent
  isLocked := false

/-
  The bindings in memory and the stored ones are one map from
  reactions, with one binding for a guild at most, and so are
  those that are loaded after a new start.
-/
structure IsConsistent
    (w : Shared) : Prop where
  remembered : IsDistinct w.memory.bindings
  stored : IsDistinct w.store.current.bindings
  cached :
    ∀ messageId emoji,
      bindingFor w.memory messageId emoji =
        w.store.current.bindings.find? fun r =>
          r.isOf messageId emoji
  single :
    IsSingle w.memory.bindings ∧
      IsSingle w.store.current.bindings
  loads :
    ∀ m, ∃ trace n later,
      Performs (restarted w m) loadBindings trace (.ok n) later
  reloaded :
    ∀ m trace n later,
      Performs (restarted w m) loadBindings trace (.ok n)
          later →
        ∀ messageId emoji,
          bindingFor later.memory messageId emoji =
            bindingFor w.memory messageId emoji

/- The stored bindings can be loaded. -/
theorem exists_performs_loadBindings
    (hCreated : w.store.current.has .bindings = true) :
    ∃ trace n later,
      Performs w loadBindings trace (.ok n) later := by
  have hRun :
      w.store.run .allBindings =
        (.ok w.store.current.bindings,
          w.store.after .allBindings w.store.current) := by
    simp [Connection.run, Statement.execute,
      Statement.lacksTable, Statement.table?, hCreated,
      Statement.numbers, Statement.effect]
  have hReach : w.Serves w .reachStore (.ok ()) := ⟨rfl, rfl⟩
  have hRead :
      Performs w (reading (execute .allBindings)) _
        (.ok w.store.current.bindings)
        { w with
          store := w.store.after .allBindings w.store.current } :=
    .ask hReach (performs_request_iff.mpr ⟨rfl, hRun, rfl⟩)
  exact ⟨_, _, _, performs_bind_iff.mpr (Or.inr
    ⟨_, _, _, _, rfl, hRead, .access (.done _ _)⟩)⟩

theorem Agrees.isConsistent
    (hAgrees : Agrees w) :
    IsConsistent w where
  remembered := hAgrees.cached ▸ hAgrees.distinct
  stored := hAgrees.distinct
  cached := by
    intro messageId emoji
    rw [bindingFor, hAgrees.cached]
  single := ⟨hAgrees.cached ▸ hAgrees.single, hAgrees.single⟩
  loads := by
    intro m
    refine exists_performs_loadBindings ?_
    rw [restarted, hAgrees.rest.settled.ofTables_permanent]
    exact hAgrees.created
  reloaded := by
    intro m trace n later hPerforms messageId emoji
    rw [restarted, hAgrees.rest.settled.ofTables_permanent]
      at hPerforms
    rcases performs_loadBindings
      (w := { w with memory := m, isLocked := false })
      hAgrees.rest.settled hPerforms with
      ⟨_, _, rfl⟩ | ⟨_, hFail, _⟩
    · simp only [bindingFor, withBindings,
        Memory.gatherBindings_of_isDistinct hAgrees.distinct,
        hAgrees.cached]
    · cases hFail

/-
  However the making and the loading of bindings are mixed,
  the bindings in memory are the stored ones after each step.
-/
theorem isConsistent_of_reaches
    {c : Company}
    (hRest : w.IsAtRest)
    (hCreated : w.store.current.has .bindings = true)
    (hStored : w.store.current.bindings = [])
    (hNew : w.memory.bindings = [])
    (hReaches : Company.Reaches IsTask w c) :
    IsConsistent c.shared := by
  have hStart : Agrees w :=
    {
      rest := hRest
      cached := hNew.trans hStored.symm
      distinct := hStored ▸ List.Pairwise.nil
      single := hStored ▸ List.Pairwise.nil
      created := hCreated
    }
  have hInvariant :=
    Company.invariant_of_reaches
      (fun _ hTask _ hAgrees => abides_of_isTask hTask hAgrees)
      (fun _ _ hAgrees =>
        ⟨⟨hAgrees.rest.free, hAgrees.rest.settled⟩,
          hAgrees.cached, hAgrees.distinct, hAgrees.single,
          hAgrees.created⟩)
      hStart hReaches
  exact hInvariant.holds.isConsistent

------------------------------------------------------------
-- A Binding That Is Made
------------------------------------------------------------

/- Nothing is bound yet. -/
def unbound : Shared where
  clock := 0
  memory := Memory.empty
  store :=
    .ofTables { Tables.blank with created := [.bindings] }
  isLocked := false

/- A check mark is to be bound in guild 1, channel 2. -/
def making : Program Unit :=
  (bindReaction 1 2 3 "Welcome" checkMark).bind
    fun _ => .done ()

/- The message is number 7; the binding is made in one go. -/
def made : Shared × Program Unit :=
  (goOn 9 unbound
    (making.answered
      (.ok (.map [("id", .text "7")])))).getD
    (unbound, making)

theorem reaches_made :
    Company.Reaches IsTask unbound ⟨made.1, [made.2]⟩ := by
  have hStarted :
      Company.Reaches IsTask unbound ⟨unbound, [making]⟩ :=
    .step .start (.start making (.make 1 2 3 _ _))
  have hSent :
      Company.Reaches IsTask unbound
        ⟨unbound,
          [making.answered
            (.ok (.map [("id", .text "7")]))]⟩ :=
    .step hStarted (.of_isCalling 0 _ rfl rfl)
  exact .step hSent (.block (n := 0) rfl
    (proceeds_of_goOn (n := 9) rfl) trivial)

theorem isConsistent_made :
    made.1.memory.bindings = [⟨1, 2, 7, checkMark, 3⟩] ∧
      IsConsistent made.1 := by
  have hRest : unbound.IsAtRest := ⟨rfl, rfl⟩
  exact ⟨rfl,
    isConsistent_of_reaches hRest rfl rfl rfl reaches_made⟩

end GuildWarden.ReactionRole
