import GuildWarden.Proofs.Dispatch.Deletion
import GuildWarden.Proofs.Reaction.Duty

/-
  This file shows that the role calls for a user and a message
  follow the reactions of the user to the message, while the
  bindings are fixed: whatever else happens at the same time
  and however the calls are answered, each reaction leads to
  the call that is due, in their order and one after another.

  Key definitions include:
    * `Dispatcher.Course.dueCalls`
    * `Dispatcher.Course.answeredCalls`
    * `Dispatcher.Course.pendingCalls`
    * `Dispatcher.Course.Keeps`
    * `Dispatcher.Course.Tracks`

  Main statements:
    * `Dispatcher.Course.Tracks.of_keeps`
    * `Dispatcher.Course.calls_follow_reactions`
-/

namespace GuildWarden.Dispatcher.Course

open Program
open ReactionRole (isRoleCall due following Owes pending?)

variable {b : Bot}
variable {c d : Course}
variable {table : List Store.Binding}
variable {bot messageId userId : Int}
variable {k : Key}
variable {before after tasks : List Task}
variable {s t : Task}

------------------------------------------------------------
-- Calls
------------------------------------------------------------

/- The role call that is due for something that has happened. -/
def dueOf
    (table : List Store.Binding)
    (bot messageId userId : Int) :
    Happening → Option Platform.Call
  | .took (.reaction r) _ =>
    if r.messageId = messageId ∧ r.userId = userId then
      due table bot r
    else none
  | _ => none

/-
  The role calls that are due for the reactions of a user to a
  message, in the order in which these were taken.
-/
def dueCalls
    (table : List Store.Binding)
    (bot messageId userId : Int)
    (log : List Happening) : List Platform.Call :=
  log.reverse.filterMap (dueOf table bot messageId userId)

/- The role call of a job with a key that was answered. -/
def answeredOf
    (k : Key) :
    Happening → Option Platform.Call
  | .asked key (.platform call) _ _ =>
    if key = some k ∧ isRoleCall call = true then some call
    else none
  | _ => none

/-
  The role calls for a user and a message that were answered,
  whether they succeeded or not, in the order of the answers.
-/
def answeredCalls
    (messageId userId : Int)
    (log : List Happening) : List Platform.Call :=
  log.reverse.filterMap
    (answeredOf (.reaction messageId userId))

/- The tasks with a key, in the order of their submission. -/
def ofKey
    (k : Key)
    (tasks : List Task) : List Task :=
  tasks.filter fun t => t.key = some k

/- The role calls for a user and a message that are under way. -/
def pendingCalls
    (messageId userId : Int)
    (tasks : List Task) : List Platform.Call :=
  (ofKey (.reaction messageId userId) tasks).filterMap
    fun t => pending? t.program

/- A bot that has just started and remembers something. -/
def startWith
    (b : Bot)
    (m : Memory) : Course :=
  { start b with memory := m }

/- A step that leaves the bindings and the bot as they are. -/
def Keeps
    (table : List Store.Binding)
    (bot : Int)
    (c d : Course) : Prop :=
  Steps c d ∧ d.memory.bindings = table ∧
    d.memory.botUserId = some bot

------------------------------------------------------------
-- Tasks of One Key
------------------------------------------------------------

namespace Manages

variable {p : Pool Key}

/- A task that runs is the first of its key. -/
theorem ofKey_of_running
    (hManages : Manages p (before ++ t :: after))
    (hKey : t.key = some k)
    (hRunning : p.isRunning? t.id = some true) :
    ofKey k before = [] := by
  rw [ofKey, List.filter_eq_nil_iff]
  intro s hBefore hSame
  have hLess : s.id < t.id := by
    have hOrdered := hManages.pairwise
    rw [List.pairwise_append] at hOrdered
    exact hOrdered.2.2 s hBefore t List.mem_cons_self
  exact hManages.not_running_of_lt
    (List.mem_append_left _ hBefore)
    (List.mem_append_right _ List.mem_cons_self)
    (of_decide_eq_true hSame) hKey hLess hRunning

/- The other tasks of its key do not run. -/
theorem not_running_of_ofKey
    (hManages : Manages p tasks)
    (hTasks : ofKey k tasks = t :: after)
    (hLater : s ∈ after) :
    p.isRunning? s.id ≠ some true := by
  have hMember (u : Task) (hThere : u ∈ t :: after) :
      u ∈ tasks ∧ u.key = some k := by
    rw [← hTasks, ofKey, List.mem_filter] at hThere
    exact ⟨hThere.1, of_decide_eq_true hThere.2⟩
  have hOrdered :
      (t :: after).Pairwise fun s t => s.id < t.id := by
    rw [← hTasks]
    exact hManages.pairwise.sublist List.filter_sublist
  have hFirst := hMember t List.mem_cons_self
  have hSecond := hMember s (List.mem_cons_of_mem _ hLater)
  exact hManages.not_running_of_lt hFirst.1 hSecond.1 hFirst.2
    hSecond.2 ((List.pairwise_cons.mp hOrdered).1 s hLater)

end Manages

theorem ofKey_append
    (before after : List Task) :
    ofKey k (before ++ after) =
      ofKey k before ++ ofKey k after :=
  List.filter_append before after

theorem ofKey_cons_of_key
    (hKey : t.key = some k) :
    ofKey k (t :: after) = t :: ofKey k after :=
  List.filter_cons_of_pos (by simpa using hKey)

theorem ofKey_cons_of_ne
    (hKey : t.key ≠ some k) :
    ofKey k (t :: after) = ofKey k after :=
  List.filter_cons_of_neg (by simpa using hKey)

------------------------------------------------------------
-- The Balance
------------------------------------------------------------

variable {log : List Happening}
variable {h : ReplyHistory}

theorem dueCalls_cons
    (x : Happening)
    (log : List Happening) :
    dueCalls table bot messageId userId (x :: log) =
      dueCalls table bot messageId userId log ++
        (dueOf table bot messageId userId x).toList := by
  unfold dueCalls
  rw [List.reverse_cons, List.filterMap_append]
  cases hDue : dueOf table bot messageId userId x <;>
    simp [hDue]

theorem answeredCalls_cons
    (x : Happening)
    (log : List Happening) :
    answeredCalls messageId userId (x :: log) =
      answeredCalls messageId userId log ++
        (answeredOf (.reaction messageId userId) x).toList := by
  unfold answeredCalls
  rw [List.reverse_cons, List.filterMap_append]
  cases hAnswered : answeredOf (.reaction messageId userId) x <;>
    simp [hAnswered]

/-
  What is due for the reactions that were taken was answered,
  or is owed by the tasks in their order.
-/
def Balances
    (table : List Store.Binding)
    (bot messageId userId : Int)
    (log : List Happening)
    (tasks : List Task) : Prop :=
  ∃ owed,
    List.Forall₂
      (fun t calls => Owes table bot t.program calls) tasks
      owed ∧
    dueCalls table bot messageId userId log =
      answeredCalls messageId userId log ++ owed.flatten

/- A reaction is taken, and its task waits behind the others. -/
theorem Balances.taken
    {r : Event.Reaction}
    (hBalances : Balances table bot messageId userId log tasks)
    (hMessage : r.messageId = messageId)
    (hUser : r.userId = userId)
    (hProgram : t.program = following r) :
    Balances table bot messageId userId
      (.took (.reaction r) h :: log) (tasks ++ [t]) := by
  rcases hBalances with ⟨owed, hOwed, hEqual⟩
  refine ⟨owed ++ [(due table bot r).toList], ?_, ?_⟩
  · exact List.rel_append hOwed
      (.cons (.waiting r hProgram) .nil)
  · have hDue :
        dueOf table bot messageId userId
          (.took (.reaction r) h) = due table bot r :=
      if_pos ⟨hMessage, hUser⟩
    have hAnswered :
        answeredOf (.reaction messageId userId)
          (.took (.reaction r) h) = none :=
      rfl
    rw [dueCalls_cons, answeredCalls_cons, hDue, hAnswered,
      hEqual]
    simp

/- Anything else that happens changes nothing. -/
theorem Balances.passed
    {x : Happening}
    (hBalances : Balances table bot messageId userId log tasks)
    (hDue : dueOf table bot messageId userId x = none)
    (hAnswered :
      answeredOf (.reaction messageId userId) x = none) :
    Balances table bot messageId userId (x :: log) tasks := by
  rcases hBalances with ⟨owed, hOwed, hEqual⟩
  refine ⟨owed, hOwed, ?_⟩
  rw [dueCalls_cons, answeredCalls_cons, hDue, hAnswered,
    hEqual]
  simp

/- The first task goes on without a call. -/
theorem Balances.gone
    (hBalances :
      Balances table bot messageId userId log (t :: after))
    (hSame :
      ∀ calls, Owes table bot t.program calls →
        Owes table bot s.program calls) :
    Balances table bot messageId userId log (s :: after) := by
  rcases hBalances with ⟨_, ⟨⟩ | ⟨hFirst, hRest⟩, hEqual⟩
  exact ⟨_, .cons (hSame _ hFirst) hRest, hEqual⟩

/- The call of the first task is answered. -/
theorem Balances.answered
    {r : Request}
    {next : Except Cause r.Answer → Program Unit}
    {left : Program Unit}
    (hBalances :
      Balances table bot messageId userId log (t :: after))
    (answer : Except Cause r.Answer)
    (hProgram : t.program = .ask r next)
    (hLater : s.program = next answer) :
    Balances table bot messageId userId
      (.asked (some (.reaction messageId userId)) r answer
        left :: log)
      (s :: after) := by
  rcases hBalances with ⟨_, ⟨⟩ | ⟨hFirst, hRest⟩, hEqual⟩
  rw [hProgram] at hFirst
  rcases hFirst.answer answer with ⟨⟨call, rfl, rfl⟩, hEnded⟩
  rw [← hLater] at hEnded
  refine ⟨_, .cons (.ended hEnded) hRest, ?_⟩
  rw [dueCalls_cons, answeredCalls_cons, hEqual]
  cases hRole : isRoleCall call <;>
    simp [dueOf, answeredOf, hRole]

/- The first task has ended. -/
theorem Balances.ended
    (hBalances :
      Balances table bot messageId userId log (t :: after))
    (hEnded : t.program.hasEnded = true) :
    Balances table bot messageId userId log after := by
  rcases hBalances with ⟨_, ⟨⟩ | ⟨hFirst, hRest⟩, hEqual⟩
  refine ⟨_, hRest, ?_⟩
  rw [hFirst.eq_nil hEnded] at hEqual
  exact hEqual

------------------------------------------------------------
-- Events
------------------------------------------------------------

/- Only a reaction leads to a job with the key of a reaction. -/
theorem exists_reaction_of_job
    {now : Rat}
    {m : Memory}
    {e : Event}
    {job : Job}
    {dispatcher : Dispatcher}
    (hJob : (dispatcher.take now m e).job = some job)
    (hKey : job.key = some (.reaction messageId userId)) :
    ∃ r, e = .reaction r ∧ r.messageId = messageId ∧
      r.userId = userId ∧ job.program = following r := by
  cases leadsTo_of_take hJob with
  | run _ hRun =>
      have hOther := hKey.symm.trans (key_runOnce hRun)
      cases hOther
  | deletion id entry => cases hKey
  | reaction r =>
      cases hKey
      exact ⟨r, rfl, rfl, rfl, rfl⟩
  | unban guildId userId => cases hKey

------------------------------------------------------------
-- The Invariant
------------------------------------------------------------

/-
  What holds after each step: the tasks of the reactions that
  do not run have not begun, and what is due was answered or is
  owed by the tasks.
-/
structure Tracks
    (table : List Store.Binding)
    (bot messageId userId : Int)
    (c : Course) : Prop where
  manages : Manages c.pool c.tasks
  bindings : c.memory.bindings = table
  botUserId : c.memory.botUserId = some bot
  waiting :
    ∀ t ∈ c.tasks, t.key = some (.reaction messageId userId) →
      c.pool.isRunning? t.id = some true ∨
        ∃ r, t.program = following r
  balance :
    Balances table bot messageId userId c.log
      (ofKey (.reaction messageId userId) c.tasks)

theorem Tracks.start
    {m : Memory}
    (hBindings : m.bindings = table)
    (hBot : m.botUserId = some bot) :
    Tracks table bot messageId userId (startWith b m) where
  manages := .start b.workers
  bindings := hBindings
  botUserId := hBot
  waiting := by
    intro t hMember
    cases hMember
  balance := ⟨[], .nil, rfl⟩

/- An event is taken. -/
theorem Tracks.take
    (hTracks : Tracks table bot messageId userId c)
    (now : Rat)
    (e : Event)
    (hBindings : (c.take now e).memory.bindings = table)
    (hBot : (c.take now e).memory.botUserId = some bot) :
    Tracks table bot messageId userId (c.take now e) := by
  rcases exists_submitted now e hTracks.manages with
    ⟨pool, added, hTake, hManages, hRunning, hAdded⟩
  rw [hTake] at hBindings hBot ⊢
  have hNew (t : Task) (hMember : t ∈ added)
      (hKey : t.key = some (.reaction messageId userId)) :
      ∃ r, e = .reaction r ∧ r.messageId = messageId ∧
        r.userId = userId ∧ t.program = following r := by
    have hThere :
        (t.key, t.program) ∈
          added.map fun t => (t.key, t.program) :=
      List.mem_map_of_mem hMember
    rw [hAdded] at hThere
    rcases List.mem_map.mp hThere with ⟨job, hJob, hSame⟩
    rcases Prod.mk.inj hSame with ⟨hJobKey, hProgram⟩
    rw [← hProgram]
    exact exists_reaction_of_job (Option.mem_toList.mp hJob)
      (hJobKey.trans hKey)
  refine ⟨hManages, hBindings, hBot, ?_, ?_⟩
  · intro t hMember hKey
    rcases List.mem_append.mp hMember with hOld | hAddedNow
    · exact (hTracks.waiting t hOld hKey).imp_left
        (hRunning t.id)
    · rcases hNew t hAddedNow hKey with ⟨r, _, _, _, hProgram⟩
      exact Or.inr ⟨r, hProgram⟩
  · change
      Balances table bot messageId userId
        (.took e c.memory.history :: c.log)
        (ofKey _ (c.tasks ++ added))
    rw [ofKey_append]
    by_cases hReaction :
        ∃ r, e = .reaction r ∧ r.messageId = messageId ∧
          r.userId = userId
    · -- One more call is due, and one more task owes it.
      rcases hReaction with ⟨r, rfl, rfl, rfl⟩
      have hJob :
          added.map (fun t => (t.key, t.program)) =
            [(some (.reaction r.messageId r.userId),
              following r)] :=
        hAdded
      rcases List.map_eq_singleton_iff.mp hJob with
        ⟨t, rfl, hSame⟩
      rcases Prod.mk.inj hSame with ⟨hKey, hProgram⟩
      rw [ofKey_cons_of_key hKey]
      exact hTracks.balance.taken rfl rfl hProgram
    · have hNone :
          ofKey (.reaction messageId userId) added = [] := by
        rw [ofKey, List.filter_eq_nil_iff]
        intro t hMember hKey
        rcases hNew t hMember (of_decide_eq_true hKey) with
          ⟨r, hEvent, hMessage, hUser, _⟩
        exact hReaction ⟨r, hEvent, hMessage, hUser⟩
      rw [hNone, List.append_nil]
      refine hTracks.balance.passed ?_ rfl
      cases e with
      | reaction r =>
          exact if_neg fun hBoth => hReaction ⟨r, rfl, hBoth⟩
      | _ => rfl

/- A job has a turn. -/
theorem Tracks.turn
    (hTracks : Tracks table bot messageId userId c)
    (id : Nat) :
    Tracks table bot messageId userId
      { c with pool := c.pool.step id } where
  manages := hTracks.manages.step id
  bindings := hTracks.bindings
  botUserId := hTracks.botUserId
  waiting := by
    intro t hMember hKey
    refine (hTracks.waiting t hMember hKey).imp_left ?_
    exact Manages.isRunning?_step id
  balance := hTracks.balance

/-
  A running task goes on with another program. If it works for
  the reactions, it is the first of their tasks.
-/
theorem Tracks.replace
    {m : Memory}
    {log : List Happening}
    (hTracks : Tracks table bot messageId userId c)
    (hTasks : c.tasks = before ++ t :: after)
    (hRunning : c.pool.isRunning? t.id = some true)
    (hId : s.id = t.id)
    (hKey : s.key = t.key)
    (hBindings : m.bindings = table)
    (hBot : m.botUserId = some bot)
    (hOwn :
      ∀ rest, t.key = some (.reaction messageId userId) →
        Balances table bot messageId userId c.log (t :: rest) →
          Balances table bot messageId userId log (s :: rest))
    (hOther :
      ∀ rest, t.key ≠ some (.reaction messageId userId) →
        Balances table bot messageId userId c.log rest →
          Balances table bot messageId userId log rest) :
    Tracks table bot messageId userId
      { c with
        memory := m
        tasks := before ++ s :: after
        log := log } := by
  have hManages := hTasks ▸ hTracks.manages
  have hBalance := hTasks ▸ hTracks.balance
  refine ⟨hManages.replace hId hKey, hBindings, hBot, ?_, ?_⟩
  · intro u hMember hReaction
    rcases mem_split_iff.mp hMember with rfl | hOther
    · refine Or.inl ?_
      rw [hId]
      exact hRunning
    · refine hTracks.waiting u ?_ hReaction
      rw [hTasks, mem_split_iff]
      exact Or.inr hOther
  · change
      Balances table bot messageId userId log
        (ofKey _ (before ++ s :: after))
    rw [ofKey_append] at hBalance ⊢
    by_cases hMine : t.key = some (.reaction messageId userId)
    · -- It runs, so that none of its key is before it.
      rw [hManages.ofKey_of_running hMine hRunning,
        ofKey_cons_of_key hMine] at hBalance
      rw [hManages.ofKey_of_running hMine hRunning,
        ofKey_cons_of_key (hKey.trans hMine)]
      exact hOwn _ hMine hBalance
    · rw [ofKey_cons_of_ne hMine] at hBalance
      rw [ofKey_cons_of_ne (hKey ▸ hMine)]
      exact hOther _ hMine hBalance

/- A running task has ended. -/
theorem Tracks.finish
    (hTracks : Tracks table bot messageId userId c)
    (hTasks : c.tasks = before ++ t :: after)
    (hRunning : c.pool.isRunning? t.id = some true)
    (hEnded : t.program.hasEnded = true) :
    Tracks table bot messageId userId
      { c with
        pool := c.pool.finish t.id
        tasks := before ++ after } := by
  have hManages := hTasks ▸ hTracks.manages
  have hBalance := hTasks ▸ hTracks.balance
  refine ⟨hManages.finish hRunning, hTracks.bindings,
    hTracks.botUserId, ?_, ?_⟩
  · intro u hMember hReaction
    have hOld : u ∈ c.tasks := by
      rw [hTasks, mem_split_iff]
      exact Or.inr hMember
    refine (hTracks.waiting u hOld hReaction).imp_left ?_
    intro hRuns
    change (c.pool.finish t.id).isRunning? u.id = some true
    rw [Pool.isRunning?_finish,
      if_neg (hManages.ne_of_mem hMember)]
    exact hRuns
  · change
      Balances table bot messageId userId c.log
        (ofKey _ (before ++ after))
    rw [ofKey_append] at hBalance ⊢
    by_cases hMine : t.key = some (.reaction messageId userId)
    · rw [hManages.ofKey_of_running hMine hRunning,
        ofKey_cons_of_key hMine] at hBalance
      rw [hManages.ofKey_of_running hMine hRunning]
      exact hBalance.ended hEnded
    · rw [ofKey_cons_of_ne hMine] at hBalance
      exact hBalance

theorem Tracks.of_keeps
    (hTracks : Tracks table bot messageId userId c)
    (hKeeps : Keeps table bot c d) :
    Tracks table bot messageId userId d := by
  rcases hKeeps with ⟨hSteps, hBindings, hBot⟩
  cases hSteps with
  | take now e => exact hTracks.take now e hBindings hBot
  | turn id => exact hTracks.turn id
  | access hTasks hRunning =>
      refine hTracks.replace hTasks hRunning rfl rfl hBindings
        hBot ?_ fun _ _ => id
      intro rest _ hBalance
      refine hBalance.gone ?_
      intro calls hOwes
      exact (hOwes.access hTracks.bindings
        hTracks.botUserId).2
  | answer answer hTimely hTasks hRunning =>
      refine hTracks.replace hTasks hRunning rfl rfl hBindings
        hBot ?_ ?_
      · rintro rest rfl hBalance
        exact hBalance.answered answer rfl rfl
      · intro rest hOther hBalance
        refine hBalance.passed rfl ?_
        unfold answeredOf
        split
        · rename_i hSame
          cases hSame
          exact if_neg fun hBoth => hOther hBoth.1
        · rfl
  | finish hTasks hRunning hEnded =>
      exact hTracks.finish hTasks hRunning hEnded
  | change m hSame =>
      exact ⟨hTracks.manages, hBindings, hBot, hTracks.waiting,
        hTracks.balance⟩

theorem tracks_of_keeps
    {m : Memory}
    (hBindings : m.bindings = table)
    (hBot : m.botUserId = some bot)
    (hReaches :
      Relation.ReflTransGen (Keeps table bot) (startWith b m)
        c) :
    Tracks table bot messageId userId c := by
  induction hReaches with
  | refl => exact .start hBindings hBot
  | tail _ hKeeps hTracks => exact hTracks.of_keeps hKeeps

------------------------------------------------------------
-- Role Calls in the Order of Reactions
------------------------------------------------------------

/- No call is under way but that of the first task. -/
theorem Tracks.pending?_of_later
    (hTracks : Tracks table bot messageId userId c)
    (hTasks :
      ofKey (.reaction messageId userId) c.tasks =
        t :: after) :
    (t :: after).filterMap (fun t => pending? t.program) =
      (pending? t.program).toList := by
  have hLater :
      after.filterMap (fun t => pending? t.program) = [] := by
    rw [List.filterMap_eq_nil_iff]
    intro s hMember
    have hThere :
        s ∈ ofKey (.reaction messageId userId) c.tasks := by
      rw [hTasks]
      exact List.mem_cons_of_mem _ hMember
    rw [ofKey, List.mem_filter] at hThere
    have hIdle :=
      hTracks.manages.not_running_of_ofKey hTasks hMember
    rcases (hTracks.waiting s hThere.1
      (of_decide_eq_true hThere.2)).resolve_left hIdle with
      ⟨r, hProgram⟩
    rw [hProgram]
    rfl
  rw [List.filterMap_cons, hLater]
  cases pending? t.program <;> rfl

/-
  While the bindings are fixed, the role calls that were
  answered for a user and a message and the one that is under
  way, of which there is at most one, are the first that are
  due for the reactions of the user to the message. When no job
  of these reactions is left, all of them were answered.
-/
theorem calls_follow_reactions
    {m : Memory}
    (hBindings : m.bindings = table)
    (hBot : m.botUserId = some bot)
    (hReaches :
      Relation.ReflTransGen (Keeps table bot) (startWith b m)
        c)
    (messageId userId : Int) :
    answeredCalls messageId userId c.log ++
        pendingCalls messageId userId c.tasks <+:
      dueCalls table bot messageId userId c.log ∧
    (pendingCalls messageId userId c.tasks).length ≤ 1 ∧
    (ofKey (.reaction messageId userId) c.tasks = [] →
      answeredCalls messageId userId c.log =
        dueCalls table bot messageId userId c.log) := by
  have hTracks : Tracks table bot messageId userId c :=
    tracks_of_keeps hBindings hBot hReaches
  rcases hTracks.balance with ⟨owed, hOwed, hEqual⟩
  cases hTasks : ofKey (.reaction messageId userId) c.tasks with
  | nil =>
      have hPending :
          pendingCalls messageId userId c.tasks = [] := by
        rw [pendingCalls, hTasks]
        rfl
      rw [hTasks] at hOwed
      cases hOwed
      rw [List.flatten_nil, List.append_nil] at hEqual
      rw [hPending, hEqual, List.append_nil]
      exact ⟨List.prefix_refl _, Nat.zero_le 1, fun _ => rfl⟩
  | cons t after =>
      have hPending :
          pendingCalls messageId userId c.tasks =
            (pending? t.program).toList := by
        rw [pendingCalls, hTasks,
          hTracks.pending?_of_later hTasks]
      rw [hTasks] at hOwed
      rcases hOwed with _ | @⟨_, calls, _, rest, hFirst, _⟩
      rw [hPending, hEqual, List.flatten_cons]
      refine ⟨?_, ?_, fun hNone => by cases hNone⟩
      · -- The first task makes the first call that is owed.
        rw [List.prefix_append_right_inj]
        rcases hFirst.pending? with ⟨r, hProgram⟩ | hSame
        · rw [hProgram]
          exact List.nil_prefix
        · rw [hSame]
          exact List.prefix_append _ _
      · cases pending? t.program with
        | none => exact Nat.zero_le 1
        | some call => exact Nat.le_refl 1

------------------------------------------------------------
-- A Reaction That Is Taken Back
------------------------------------------------------------

variable {serve : (r : Request) → Except Cause r.Answer}

/- Make choices that leave the bindings and the bot. -/
def playFixed
    (serve : (r : Request) → Except Cause r.Answer)
    (table : List Store.Binding)
    (bot : Int)
    (c : Course) : List Choice → Option Course
  | [] => some c
  | choice :: rest =>
    (c.next serve choice).bind fun d =>
      if d.memory.bindings = table ∧
          d.memory.botUserId = some bot then
        d.playFixed serve table bot rest
      else none

theorem keeps_of_playFixed
    {choices : List Choice}
    (hTimely : ∀ r, IsTimely r (serve r))
    (hPlay : c.playFixed serve table bot choices = some d) :
    Relation.ReflTransGen (Keeps table bot) c d := by
  induction choices generalizing c with
  | nil =>
      cases hPlay
      exact .refl
  | cons choice rest hInduction =>
      rcases Option.bind_eq_some_iff.mp hPlay with
        ⟨between, hNext, hRest⟩
      split at hRest
      · rename_i hFixed
        exact .head ⟨steps_of_next hTimely hNext, hFixed⟩
          (hInduction hRest)
      · cases hRest

/- The reaction x on message 7 grants role 3 in guild 100. -/
def oneBinding : List Store.Binding :=
  [⟨100, 20, 7, "x", 3⟩]

/- What is remembered once the bot is logged in. -/
def loggedIn : Memory :=
  { Memory.empty with
    bindings := oneBinding
    botUserId := some 999 }

/- User 4 adds the reaction, or takes it back. -/
def reacting
    (added : Bool) : Event :=
  .reaction ⟨added, some 100, 20, 7, 4, .text "x", none⟩

/- The service is out of order when the role is granted. -/
def faltering : (r : Request) → Except Cause r.Answer
  | .platform (.addRole _ _ _ _) => .error (.refused 500)
  | r => granting r

theorem isTimely_faltering
    (r : Request) :
    IsTimely r (faltering r) := by
  cases r with
  | now => exact ⟨(0 : Rat), rfl⟩
  | _ => trivial

/- Both reactions are taken before the first job runs. -/
def wavering : List Choice :=
  [.take 0 (reacting true), .take 0 (reacting false), .turn 1,
    .turn 0, .goOn, .goOn, .goOn, .turn 1, .goOn]

def wavered : Course :=
  ((startWith usual loggedIn).playFixed faltering oneBinding 999
    wavering).getD (start usual)

/- The calls to grant and to revoke the role. -/
def granted : Platform.Call :=
  .addRole 100 4 3 (some "Accepted the code of conduct")

def revoked : Platform.Call :=
  .removeRole 100 4 3
    (some "Withdrew code of conduct acceptance")

/- The role is revoked after the call to grant it has failed. -/
theorem wavered_follows_reactions :
    Relation.ReflTransGen (Keeps oneBinding 999)
        (startWith usual loggedIn) wavered ∧
      dueCalls oneBinding 999 7 4 wavered.log =
          [granted, revoked] ∧
        answeredCalls 7 4 wavered.log = [granted] ∧
          pendingCalls 7 4 wavered.tasks = [revoked] ∧
            answeredCalls 7 4 wavered.log ++
                pendingCalls 7 4 wavered.tasks <+:
              dueCalls oneBinding 999 7 4 wavered.log := by
  have hPlay :
      (startWith usual loggedIn).playFixed faltering oneBinding
        999 wavering = some wavered := by
    with_unfolding_all rfl
  have hReaches := keeps_of_playFixed isTimely_faltering hPlay
  have hBindings : loggedIn.bindings = oneBinding := rfl
  have hBot : loggedIn.botUserId = some 999 := rfl
  have hFollows :=
    calls_follow_reactions hBindings hBot hReaches 7 4
  refine ⟨hReaches, ?_, ?_, ?_, hFollows.1⟩
  · with_unfolding_all rfl
  · with_unfolding_all rfl
  · with_unfolding_all rfl

end GuildWarden.Dispatcher.Course
