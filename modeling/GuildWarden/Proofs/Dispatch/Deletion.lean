import GuildWarden.Proofs.Dispatch.Retraction

/-
  This file shows what becomes of the replies to a command
  whose message is deleted. Those that are in the history when
  the deletion is handled are deleted. One that is recorded
  later is never found again, and stays in the history.

  Key definitions include:
    * `Dispatcher.Course.Confirms`
    * `Dispatcher.Course.Invariant`

  Main statements:
    * `Dispatcher.Course.Invariant.of_steps`
    * `Dispatcher.Course.deleted_or_kept`
-/

namespace GuildWarden.Dispatcher.Course

open Program

variable {c d : Course}
variable {before after : List Task}
variable {t : Task}
variable {id channelId replyId : Int}

------------------------------------------------------------
-- The Log
------------------------------------------------------------

theorem Lost.mono
    (hLost : c.Lost id replyId)
    (hLog : c.log ⊆ d.log) :
    d.Lost id replyId := by
  rcases hLost with
    ⟨channel, content, card, cause, left, hMember, hGone⟩
  exact ⟨channel, content, card, cause, left, hLog hMember,
    hGone⟩

theorem Found.mono
    (hFound : c.Found id channelId replyId)
    (hLog : c.log ⊆ d.log) :
    d.Found id channelId replyId := by
  rcases hFound with ⟨e, h, hMember, hDeletion, hHolds⟩
  exact ⟨e, h, hLog hMember, hDeletion, hHolds⟩

theorem Deleted.mono
    (hDeleted : c.Deleted channelId replyId)
    (hLog : c.log ⊆ d.log) :
    d.Deleted channelId replyId := by
  rcases hDeleted with ⟨key, answer, left, hMember⟩
  exact ⟨key, answer, left, hLog hMember⟩

/- Who works for a command has the key of its message. -/
theorem key_of_owner?
    {key : Option Key}
    (hOwner : Key.owner? key = some id) :
    key = some (.message id) := by
  cases key with
  | none => cases hOwner
  | some k =>
      cases k with
      | message messageId =>
          cases hOwner
          rfl
      | reaction messageId userId => cases hOwner

------------------------------------------------------------
-- What Jobs Know
------------------------------------------------------------

/-
  What a job knows is so. It knows something only while it
  runs, and that a reply is gone only from the platform.
-/
structure Confirms
    (c : Course)
    (t : Task)
    (known : Command.Insight) : Prop where
  holds : known.Holds (Key.owner? t.key) c.memory.history
  gone :
    ∀ id replyId, known = .missing replyId →
      Key.owner? t.key = some id → c.Lost id replyId
  running :
    known = .nothing ∨ c.pool.isRunning? t.id = some true

/- The program of a job respects what the job knows. -/
def Attends
    (c : Course)
    (t : Task) : Prop :=
  ∃ known, t.program.Respects (Key.owner? t.key) known ∧
    c.Confirms t known

variable {known learnt : Command.Insight}

/- A job that knows nothing is never wrong. -/
theorem confirms_nothing
    (c : Course)
    (t : Task) :
    c.Confirms t .nothing where
  holds := trivial
  gone := by
    intro id replyId hMissing
    cases hMissing
  running := Or.inl rfl

/- What a job knows is so as long as no reply is recorded. -/
theorem Confirms.mono
    (hConfirms : c.Confirms t known)
    (hLog : c.log ⊆ d.log)
    (hRunning :
      c.pool.isRunning? t.id = some true →
        d.pool.isRunning? t.id = some true)
    (hFewer :
      ∀ id e, Key.owner? t.key = some id →
        d.memory.history.find? id = some e →
          c.memory.history.find? id = some e) :
    d.Confirms t known where
  holds := hConfirms.holds.mono hFewer
  gone := by
    intro id replyId hMissing hOwner
    exact (hConfirms.gone id replyId hMissing hOwner).mono hLog
  running := hConfirms.running.imp_right hRunning

/-
  What another job does to the history does no harm to what a
  job knows: jobs that run at once work for other messages.
-/
theorem Confirms.of_edits
    {s : Task}
    {known' : Command.Insight}
    {h : ReplyHistory}
    (hConfirms : c.Confirms s known)
    (hManages : Manages c.pool c.tasks)
    (hFirst : s ∈ c.tasks)
    (hSecond : t ∈ c.tasks)
    (hApart : s.id ≠ t.id)
    (hRunning : c.pool.isRunning? t.id = some true)
    (hEdits :
      known'.Edits (Key.owner? t.key) learnt c.memory.history h)
    (hPool : d.pool = c.pool)
    (hLog : d.log = c.log)
    (hHistory : d.memory.history = h) :
    d.Confirms s known := by
  rcases hConfirms.running with rfl | hRuns
  · exact confirms_nothing d s
  · apply hConfirms.mono
    · rw [hLog]
      exact List.Subset.refl _
    · intro _
      rw [hPool]
      exact hRuns
    · intro id e hOwner hFind
      have hOther : Key.owner? t.key ≠ some id := by
        intro hSame
        exact hApart (hManages.eq_of_running hFirst hSecond
          (key_of_owner? hOwner) (key_of_owner? hSame) hRuns
          hRunning)
      rw [← hEdits.find?_of_ne hOther, ← hHistory]
      exact hFind

/- What a job learns from an answer is so. -/
theorem Confirms.of_learns
    {r : Request}
    {answer : Except Cause r.Answer}
    {program left : Program Unit}
    {n : Nat}
    {key : Option Key}
    (hConfirms : c.Confirms ⟨n, key, program⟩ known)
    (hLearns : known.Learns learnt r answer)
    (hRunning : c.pool.isRunning? n = some true) :
    Confirms
      { c with
        tasks := before ++ ⟨n, key, left⟩ :: after
        log := .asked key r answer left :: c.log }
      ⟨n, key, left⟩ learnt where
  holds :=
    Command.Insight.holds_of_learns hLearns hConfirms.holds
  gone := by
    intro id replyId hMissing hOwner
    have hKey := key_of_owner? hOwner
    have hLog :
        c.log ⊆ .asked key r answer left :: c.log :=
      List.subset_cons_self _ _
    have hOld (hSame : learnt = known) :
        Lost
          { c with
            tasks := before ++ ⟨n, key, left⟩ :: after
            log := .asked key r answer left :: c.log }
          id replyId :=
      (hConfirms.gone id replyId (hSame ▸ hMissing)
        hOwner).mono hLog
    unfold Command.Insight.Learns at hLearns
    split at hLearns
    · rename_i channel lostId content card cause
      rcases hLearns with hNone | hSame | ⟨hGone, _, hLater⟩
      · rw [hMissing] at hNone
        cases hNone
      · exact hOld hSame
      · rw [hMissing] at hLater
        cases hLater
        subst hKey
        exact ⟨channel, content, card, cause, left,
          List.mem_cons_self, hGone⟩
    · rcases hLearns with hNone | hSame
      · rw [hMissing] at hNone
        cases hNone
      · exact hOld hSame
  running := Or.inr hRunning

/- A reply leaves the history only when it is gone. -/
theorem Confirms.holds_or_lost
    {h : ReplyHistory}
    (hConfirms : c.Confirms t known)
    (hEdits :
      known.Edits (Key.owner? t.key) learnt c.memory.history h)
    (hHolds : Holds c.memory.history id channelId replyId) :
    Holds h id channelId replyId ∨ c.Lost id replyId := by
  rcases hHolds with ⟨time, hFind⟩
  by_cases hOwner : Key.owner? t.key = some id
  · rcases hEdits with ⟨rfl, _⟩ | ⟨id', r, _, rfl, _⟩ |
      ⟨e, _, rfl, _⟩
    · exact Or.inl ⟨time, hFind⟩
    · have hSame : replyId = r :=
        hConfirms.holds id _ hOwner hFind
      rw [hSame]
      exact Or.inr (hConfirms.gone id r rfl hOwner)
    · have hNone := hConfirms.holds id hOwner
      rw [hFind] at hNone
      cases hNone
  · refine Or.inl ⟨time, ?_⟩
    rw [hEdits.find?_of_ne hOwner]
    exact hFind

------------------------------------------------------------
-- The Invariant
------------------------------------------------------------

/- What has become of a reply that was posted. -/
def IsAccounted
    (c : Course)
    (id channelId replyId : Int) : Prop :=
  c.Found id channelId replyId ∨ c.Lost id replyId ∨
    Holds c.memory.history id channelId replyId ∨
      ∃ t ∈ c.tasks, Awaits id channelId replyId t

/- What holds of a course after each step. -/
structure Invariant
    (c : Course) : Prop where
  router : c.dispatcher.router.IsRespectful
  manages : Manages c.pool c.tasks
  attends : ∀ t ∈ c.tasks, c.Attends t
  posted :
    ∀ id channelId replyId, c.Posted id channelId replyId →
      c.IsAccounted id channelId replyId
  found :
    ∀ id channelId replyId, c.Found id channelId replyId →
      c.Deleted channelId replyId ∨
        ∃ t ∈ c.tasks, IsDeleting channelId replyId t.program

theorem Invariant.start
    {s : Settings}
    {b : Bot}
    (hBot : Bot.ofSettings s = .ok b) :
    Invariant (start b) where
  router := Bot.isRespectful_router hBot
  manages := .start b.workers
  attends := by
    intro t hMember
    cases hMember
  posted := by
    intro id channelId replyId hPosted
    rcases hPosted with ⟨_, _, _, _, _, hMember, _⟩
    cases hMember
  found := by
    intro id channelId replyId hFound
    rcases hFound with ⟨_, _, hMember, _⟩
    cases hMember

------------------------------------------------------------
-- Events
------------------------------------------------------------

/- The jobs that an event leads to respect the history. -/
theorem exists_take
    (now : Rat)
    (e : Event)
    (hRouter : c.dispatcher.router.IsRespectful)
    (hManages : Manages c.pool c.tasks) :
    ∃ pool added,
      c.take now e =
        { dispatcher :=
            (c.dispatcher.take now c.memory e).dispatcher
          memory := (c.dispatcher.take now c.memory e).memory
          pool
          tasks := c.tasks ++ added
          log := .took e c.memory.history :: c.log } ∧
      Manages pool (c.tasks ++ added) ∧
      (∀ n, c.pool.isRunning? n = some true →
        pool.isRunning? n = some true) ∧
      (∀ t ∈ added,
        t.program.Respects (Key.owner? t.key) .nothing) ∧
      ∀ job, (c.dispatcher.take now c.memory e).job =
          some job →
        ∃ t ∈ added, t.program = job.program := by
  rcases exists_submitted now e hManages with
    ⟨pool, added, hTake, hManages, hRunning, hAdded⟩
  refine ⟨pool, added, hTake, hManages, hRunning, ?_, ?_⟩
  · intro t hMember
    rcases List.mem_map.mp
      (hAdded ▸ List.mem_map_of_mem hMember) with
      ⟨job, hJob, hSame⟩
    rcases Prod.mk.inj hSame with ⟨hKey, hProgram⟩
    rw [← hKey, ← hProgram]
    exact respects_take hRouter (Option.mem_toList.mp hJob)
  · intro job hJob
    have hThere :
        (job.key, job.program) ∈
          added.map fun t => (t.key, t.program) := by
      rw [hAdded, hJob]
      exact List.mem_singleton_self _
    rcases List.mem_map.mp hThere with ⟨t, hMember, hSame⟩
    exact ⟨t, hMember, (Prod.mk.inj hSame).2⟩

/- The deletion of a message deletes the reply in the history. -/
theorem Invariant.take
    (hInvariant : Invariant c)
    (now : Rat)
    (e : Event) :
    Invariant (c.take now e) := by
  rcases exists_take now e hInvariant.router
    hInvariant.manages with
    ⟨pool, added, hTake, hManages, hRunning, hAdded, hJob⟩
  rcases take_frame c.dispatcher now c.memory e with
    ⟨hRouter, hFind⟩
  have hLog :
      c.log ⊆ .took e c.memory.history :: c.log :=
    List.subset_cons_self _ _
  rw [hTake]
  refine ⟨?_, hManages, ?_, ?_, ?_⟩
  · rw [hRouter]
    exact hInvariant.router
  · intro t hMember
    rcases List.mem_append.mp hMember with hOld | hNew
    · rcases hInvariant.attends t hOld with
        ⟨known, hRespects, hConfirms⟩
      refine ⟨known, hRespects,
        hConfirms.mono hLog (hRunning t.id) ?_⟩
      intro id e' _ hSome
      rw [hFind] at hSome
      split at hSome
      · cases hSome
      · exact hSome
    · exact ⟨.nothing, hAdded t hNew, confirms_nothing _ t⟩
  · intro id channelId replyId hPosted
    have hOld : c.Posted id channelId replyId := by
      rcases hPosted with
        ⟨channel, content, card, answer, left, hMember, hNotes⟩
      rcases List.mem_cons.mp hMember with hEvent | hEarlier
      · cases hEvent
      · exact ⟨channel, content, card, answer, left, hEarlier,
          hNotes⟩
    rcases hInvariant.posted id channelId replyId hOld with
      hFound | hLost | hHolds | ⟨t, hMember, hAwaits⟩
    · exact Or.inl (hFound.mono hLog)
    · exact Or.inr (Or.inl (hLost.mono hLog))
    · by_cases hDeletion : isDeletionOf id e = true
      · exact Or.inl ⟨e, c.memory.history,
          List.mem_cons_self, hDeletion, hHolds⟩
      · rcases hHolds with ⟨time, hSome⟩
        refine Or.inr (Or.inr (Or.inl ⟨time, ?_⟩))
        rw [hFind, if_neg hDeletion]
        exact hSome
    · exact Or.inr (Or.inr (Or.inr
        ⟨t, List.mem_append_left _ hMember, hAwaits⟩))
  · intro id channelId replyId hFound
    rcases hFound with ⟨e', h, hMember, hDeletion, hHolds⟩
    rcases List.mem_cons.mp hMember with hEvent | hEarlier
    · cases hEvent
      rcases hHolds with ⟨time, hSome⟩
      rcases hJob _ (job_of_isDeletionOf hDeletion hSome) with
        ⟨t, hNew, hProgram⟩
      refine Or.inr ⟨t, List.mem_append_right _ hNew, ?_⟩
      rw [hProgram]
      exact ⟨_, rfl⟩
    · rcases hInvariant.found id channelId replyId
        ⟨e', h, hEarlier, hDeletion, hHolds⟩ with
        hDeleted | ⟨t, hThere, hDeleting⟩
      · exact Or.inl (hDeleted.mono hLog)
      · exact Or.inr
          ⟨t, List.mem_append_left _ hThere, hDeleting⟩

------------------------------------------------------------
-- Steps of Jobs
------------------------------------------------------------

theorem mem_split_iff
    {s : Task} :
    s ∈ before ++ t :: after ↔ s = t ∨ s ∈ before ++ after := by
  rw [List.perm_middle.mem_iff, List.mem_cons]

/- A task with a property is a given one or one around it. -/
theorem exists_split_iff
    {P : Task → Prop} :
    (∃ s ∈ before ++ t :: after, P s) ↔
      P t ∨ ∃ s ∈ before ++ after, P s := by
  simp only [mem_split_iff, or_and_right, exists_or,
    exists_eq_left]

/-
  A posted reply is accounted for after a job went on, if that
  is so for what this job did to the history or had yet to
  record.
-/
theorem Invariant.posted_of_step
    (hInvariant : Invariant c)
    (hTasks : c.tasks = before ++ t :: after)
    (hOthers : before ++ after ⊆ d.tasks)
    (hLog : c.log ⊆ d.log)
    (hHistory :
      Holds c.memory.history id channelId replyId →
        d.IsAccounted id channelId replyId)
    (hOwn :
      Awaits id channelId replyId t →
        d.IsAccounted id channelId replyId)
    (hPosted : c.Posted id channelId replyId) :
    d.IsAccounted id channelId replyId := by
  rcases hInvariant.posted id channelId replyId hPosted with
    hFound | hLost | hHolds | hAwaits
  · exact Or.inl (hFound.mono hLog)
  · exact Or.inr (Or.inl (hLost.mono hLog))
  · exact hHistory hHolds
  · rw [hTasks, exists_split_iff] at hAwaits
    rcases hAwaits with hThis | ⟨s, hOther, hRest⟩
    · exact hOwn hThis
    · exact Or.inr (Or.inr (Or.inr ⟨s, hOthers hOther, hRest⟩))

/- A reply that was found is still to be deleted, or deleted. -/
theorem Invariant.found_of_step
    (hInvariant : Invariant c)
    (hTasks : c.tasks = before ++ t :: after)
    (hOthers : before ++ after ⊆ d.tasks)
    (hLog : c.log ⊆ d.log)
    (hOwn :
      IsDeleting channelId replyId t.program →
        d.Deleted channelId replyId)
    (hFound : c.Found id channelId replyId) :
    d.Deleted channelId replyId ∨
      ∃ s ∈ d.tasks, IsDeleting channelId replyId s.program := by
  rcases hInvariant.found id channelId replyId hFound with
    hDeleted | hDeleting
  · exact Or.inl (hDeleted.mono hLog)
  · rw [hTasks, exists_split_iff] at hDeleting
    rcases hDeleting with hThis | ⟨s, hOther, hRest⟩
    · exact Or.inl (hOwn hThis)
    · exact Or.inr ⟨s, hOthers hOther, hRest⟩

theorem subset_split
    (before after : List Task)
    (t : Task) :
    before ++ after ⊆ before ++ t :: after := by
  intro s hMember
  exact mem_split_iff.mpr (Or.inr hMember)

/- Nothing that is kept matters when nobody reads the history. -/
theorem Invariant.turn
    (hInvariant : Invariant c)
    (n : Nat) :
    Invariant { c with pool := c.pool.step n } where
  router := hInvariant.router
  manages := hInvariant.manages.step n
  attends := by
    intro t hMember
    rcases hInvariant.attends t hMember with
      ⟨known, hRespects, hConfirms⟩
    refine ⟨known, hRespects, ?_⟩
    exact hConfirms.mono (List.Subset.refl _)
      (Manages.isRunning?_step n) fun _ _ _ hFind => hFind
  posted := hInvariant.posted
  found := hInvariant.found

theorem Invariant.change
    (hInvariant : Invariant c)
    (m : Memory)
    (hSame : m.history = c.memory.history) :
    Invariant { c with memory := m } where
  router := hInvariant.router
  manages := hInvariant.manages
  attends := by
    intro t hMember
    rcases hInvariant.attends t hMember with
      ⟨known, hRespects, hConfirms⟩
    refine ⟨known, hRespects,
      hConfirms.mono (List.Subset.refl _) (fun h => h) ?_⟩
    intro id e _ hFind
    exact hSame ▸ hFind
  posted := by
    intro id channelId replyId hPosted
    have hOld := hInvariant.posted id channelId replyId hPosted
    unfold IsAccounted at hOld ⊢
    simp only [hSame]
    exact hOld
  found := hInvariant.found

/- A job records the reply that it posted. -/
theorem holds_of_awaits
    {n : Nat}
    {key : Option Key}
    {change : Memory → Memory}
    {next : Memory → Program Unit}
    (hAwaits :
      Awaits id channelId replyId ⟨n, key, .access change next⟩)
    (m : Memory) :
    Holds (change m).history id channelId replyId := by
  rcases hAwaits with ⟨_, ⟨_, hAsk, _⟩ | hRecording⟩
  · cases hAsk
  · rcases hRecording with ⟨_, _, time, hSame, hRecord⟩
    cases hSame
    refine ⟨time, ?_⟩
    rw [hRecord m, ReplyHistory.find?_record, if_pos rfl]

/- A running job looks at the memory and changes it. -/
theorem Invariant.access
    {n : Nat}
    {key : Option Key}
    {change : Memory → Memory}
    {next : Memory → Program Unit}
    (hInvariant : Invariant c)
    (hTasks :
      c.tasks = before ++ ⟨n, key, .access change next⟩ :: after)
    (hRunning : c.pool.isRunning? n = some true) :
    Invariant
      { c with
        memory := change c.memory
        tasks := before ++ ⟨n, key, next c.memory⟩ :: after } := by
  have hManages := hTasks ▸ hInvariant.manages
  have hMember : ⟨n, key, .access change next⟩ ∈ c.tasks := by
    rw [hTasks, mem_split_iff]
    exact Or.inl rfl
  rcases hInvariant.attends _ hMember with
    ⟨known, hRespects, hConfirms⟩
  cases hRespects with
  | access learnt hEdits _ hNext =>
    have hEdit := hEdits c.memory
    refine ⟨hInvariant.router, hManages.replace rfl rfl, ?_, ?_,
      ?_⟩
    · intro s hThere
      rcases mem_split_iff.mp hThere with rfl | hOther
      · refine ⟨learnt c.memory, hNext c.memory, hEdit.holds, ?_,
          Or.inr hRunning⟩
        intro id replyId hMissing _
        exact absurd hMissing (hEdit.ne_missing replyId)
      · have hOld : s ∈ c.tasks := by
          rw [hTasks, mem_split_iff]
          exact Or.inr hOther
        rcases hInvariant.attends s hOld with
          ⟨known', hRespects', hConfirms'⟩
        exact ⟨known', hRespects',
          hConfirms'.of_edits hInvariant.manages hOld hMember
            (hManages.ne_of_mem hOther) hRunning hEdit rfl rfl
            rfl⟩
    · intro id channelId replyId hPosted
      refine hInvariant.posted_of_step hTasks
        (subset_split before after _) (List.Subset.refl _) ?_ ?_
        hPosted
      · intro hHolds
        rcases hConfirms.holds_or_lost hEdit hHolds with
          hKept | hLost
        · exact Or.inr (Or.inr (Or.inl hKept))
        · exact Or.inr (Or.inl hLost)
      · intro hAwaits
        exact Or.inr (Or.inr (Or.inl
          (holds_of_awaits hAwaits c.memory)))
    · intro id channelId replyId hFound
      refine hInvariant.found_of_step hTasks
        (subset_split before after _) (List.Subset.refl _) ?_
        hFound
      rintro ⟨_, hAsk⟩
      cases hAsk

/- A job that asks for the time records the reply then. -/
theorem awaits_of_answer
    {n : Nat}
    {key : Option Key}
    {r : Request}
    {answer : Except Cause r.Answer}
    {next : Except Cause r.Answer → Program Unit}
    (hTimely : IsTimely r answer)
    (hAwaits :
      Awaits id channelId replyId ⟨n, key, .ask r next⟩) :
    Awaits id channelId replyId ⟨n, key, next answer⟩ := by
  rcases hAwaits with
    ⟨hKey, ⟨_, hAsk, hThen⟩ | ⟨_, _, _, hAccess, _⟩⟩
  · cases hAsk
    rcases hTimely with ⟨time, rfl⟩
    exact ⟨hKey, Or.inr (hThen time)⟩
  · cases hAccess

/- A running job is answered. -/
theorem Invariant.answer
    {n : Nat}
    {key : Option Key}
    {r : Request}
    {next : Except Cause r.Answer → Program Unit}
    (hInvariant : Invariant c)
    (answer : Except Cause r.Answer)
    (hTimely : IsTimely r answer)
    (hTasks :
      c.tasks = before ++ ⟨n, key, .ask r next⟩ :: after)
    (hRunning : c.pool.isRunning? n = some true) :
    Invariant
      { c with
        tasks := before ++ ⟨n, key, next answer⟩ :: after
        log := .asked key r answer (next answer) :: c.log } := by
  have hManages := hTasks ▸ hInvariant.manages
  have hLog :
      c.log ⊆ .asked key r answer (next answer) :: c.log :=
    List.subset_cons_self _ _
  have hMember : ⟨n, key, .ask r next⟩ ∈ c.tasks := by
    rw [hTasks, mem_split_iff]
    exact Or.inl rfl
  rcases hInvariant.attends _ hMember with
    ⟨known, hRespects, hConfirms⟩
  cases hRespects with
  | ask learnt hLearns hNext =>
    refine ⟨hInvariant.router, hManages.replace rfl rfl, ?_, ?_,
      ?_⟩
    · intro s hThere
      rcases mem_split_iff.mp hThere with rfl | hOther
      · exact ⟨learnt answer, hNext answer,
          hConfirms.of_learns (hLearns answer) hRunning⟩
      · have hOld : s ∈ c.tasks := by
          rw [hTasks, mem_split_iff]
          exact Or.inr hOther
        rcases hInvariant.attends s hOld with
          ⟨known', hRespects', hConfirms'⟩
        exact ⟨known', hRespects',
          hConfirms'.mono hLog (fun h => h)
            fun _ _ _ hFind => hFind⟩
    · intro id channelId replyId hPosted
      rcases hPosted with
        ⟨channel, content, card, given, left, hThere, hNotes⟩
      rcases List.mem_cons.mp hThere with hNew | hEarlier
      · cases hNew
        exact Or.inr (Or.inr (Or.inr
          ⟨_, mem_split_iff.mpr (Or.inl rfl), rfl,
            Or.inl hNotes⟩))
      · refine hInvariant.posted_of_step hTasks
          (subset_split before after _) hLog ?_ ?_
          ⟨channel, content, card, given, left, hEarlier, hNotes⟩
        · intro hHolds
          exact Or.inr (Or.inr (Or.inl hHolds))
        · intro hAwaits
          exact Or.inr (Or.inr (Or.inr
            ⟨_, mem_split_iff.mpr (Or.inl rfl),
              awaits_of_answer hTimely hAwaits⟩))
    · intro id channelId replyId hFound
      have hOld : c.Found id channelId replyId := by
        rcases hFound with ⟨e, h, hThere, hRest⟩
        rcases List.mem_cons.mp hThere with hNew | hEarlier
        · cases hNew
        · exact ⟨e, h, hEarlier, hRest⟩
      refine hInvariant.found_of_step hTasks
        (subset_split before after _) hLog ?_ hOld
      rintro ⟨_, hAsk⟩
      cases hAsk
      exact ⟨key, answer, _, List.mem_cons_self⟩

/- A running job has ended. -/
theorem Invariant.finish
    (hInvariant : Invariant c)
    (hTasks : c.tasks = before ++ t :: after)
    (hRunning : c.pool.isRunning? t.id = some true)
    (hEnded : t.program.hasEnded = true) :
    Invariant
      { c with
        pool := c.pool.finish t.id
        tasks := before ++ after } := by
  have hManages := hTasks ▸ hInvariant.manages
  refine ⟨hInvariant.router, hManages.finish hRunning, ?_, ?_,
    ?_⟩
  · intro s hOther
    have hOld : s ∈ c.tasks := by
      rw [hTasks, mem_split_iff]
      exact Or.inr hOther
    rcases hInvariant.attends s hOld with
      ⟨known, hRespects, hConfirms⟩
    refine ⟨known, hRespects,
      hConfirms.mono (List.Subset.refl _) ?_
        fun _ _ _ hFind => hFind⟩
    intro hRuns
    change (c.pool.finish t.id).isRunning? s.id = some true
    rw [Pool.isRunning?_finish,
      if_neg (hManages.ne_of_mem hOther)]
    exact hRuns
  · intro id channelId replyId hPosted
    refine hInvariant.posted_of_step hTasks
      (List.Subset.refl _) (List.Subset.refl _) ?_ ?_ hPosted
    · intro hHolds
      exact Or.inr (Or.inr (Or.inl hHolds))
    · rintro ⟨_, ⟨_, hAsk, _⟩ | ⟨_, _, _, hAccess, _⟩⟩
      · rw [hAsk] at hEnded
        cases hEnded
      · rw [hAccess] at hEnded
        cases hEnded
  · intro id channelId replyId hFound
    refine hInvariant.found_of_step hTasks
      (List.Subset.refl _) (List.Subset.refl _) ?_ hFound
    rintro ⟨_, hAsk⟩
    rw [hAsk] at hEnded
    cases hEnded

/- Every step keeps the invariant. -/
theorem Invariant.of_steps
    (hInvariant : Invariant c)
    (hSteps : Steps c d) :
    Invariant d := by
  cases hSteps with
  | take now e => exact hInvariant.take now e
  | turn n => exact hInvariant.turn n
  | access hTasks hRunning =>
      exact hInvariant.access hTasks hRunning
  | answer answer hTimely hTasks hRunning =>
      exact hInvariant.answer answer hTimely hTasks hRunning
  | finish hTasks hRunning hEnded =>
      exact hInvariant.finish hTasks hRunning hEnded
  | change m hSame => exact hInvariant.change m hSame

theorem invariant_of_reaches
    {s : Settings}
    {b : Bot}
    (hBot : Bot.ofSettings s = .ok b)
    (hReaches : Reaches b c) :
    Invariant c := by
  induction hReaches with
  | refl => exact .start hBot
  | tail _ hSteps hInvariant =>
      exact hInvariant.of_steps hSteps

/-
  When all jobs have ended, a reply that was in the history
  when the deletion of its command was handled was deleted,
  and any other one that the platform still knows is in the
  history.
-/
theorem deleted_or_kept
    {s : Settings}
    {b : Bot}
    (hBot : Bot.ofSettings s = .ok b)
    (hReaches : Reaches b c)
    (hEnded : c.tasks = [])
    (hPosted : c.Posted id channelId replyId)
    (hKnown : ¬ c.Lost id replyId) :
    (c.Found id channelId replyId →
        c.Deleted channelId replyId) ∧
      (¬ c.Found id channelId replyId →
        Holds c.memory.history id channelId replyId) := by
  have hInvariant := invariant_of_reaches hBot hReaches
  constructor
  · intro hFound
    rcases hInvariant.found id channelId replyId hFound with
      hDeleted | ⟨t, hThere, _⟩
    · exact hDeleted
    · rw [hEnded] at hThere
      cases hThere
  · intro hNotFound
    rcases hInvariant.posted id channelId replyId hPosted with
      hFound | hLost | hHolds | ⟨t, hThere, _⟩
    · exact absurd hFound hNotFound
    · exact absurd hLost hKnown
    · exact hHolds
    · rw [hEnded] at hThere
      cases hThere

------------------------------------------------------------
-- Commands That Were Answered
------------------------------------------------------------

theorem log_submit
    (c : Course)
    (job : Job) :
    (c.submit job).log = c.log := by
  unfold Course.submit
  split
  · rfl
  · rfl

/- What has happened stays so. -/
theorem log_subset_of_steps
    (hSteps : Steps c d) :
    c.log ⊆ d.log := by
  cases hSteps with
  | take now e =>
      unfold take
      simp only
      split
      · rw [log_submit]
        exact List.subset_cons_self _ _
      · exact List.subset_cons_self _ _
  | answer _ _ _ _ => exact List.subset_cons_self _ _
  | turn _ => exact List.Subset.refl _
  | access _ _ => exact List.Subset.refl _
  | finish _ _ _ => exact List.Subset.refl _
  | change _ _ => exact List.Subset.refl _

theorem log_subset_of_reflTransGen
    (hSteps : Relation.ReflTransGen Steps c d) :
    c.log ⊆ d.log := by
  induction hSteps with
  | refl => exact List.Subset.refl _
  | tail _ hLast hEarlier =>
      exact List.Subset.trans hEarlier
        (log_subset_of_steps hLast)

/-
  When no job of a command is left as its message is deleted,
  every reply that was posted is deleted in the end.
-/
theorem deleted_of_idle
    {s : Settings}
    {b : Bot}
    {now : Rat}
    {e : Event}
    (hBot : Bot.ofSettings s = .ok b)
    (hReaches : Reaches b c)
    (hIdle : ∀ t ∈ c.tasks, t.key ≠ some (.message id))
    (hPosted : c.Posted id channelId replyId)
    (hKnown : ¬ c.Lost id replyId)
    (hDeletion : isDeletionOf id e = true)
    (hLater : Relation.ReflTransGen Steps (c.take now e) d)
    (hEnded : d.tasks = []) :
    d.Deleted channelId replyId := by
  have hInvariant := invariant_of_reaches hBot hReaches
  have hReached : Reaches b d :=
    (hReaches.tail (.take c now e)).trans hLater
  have hTaken : .took e c.memory.history ∈ (c.take now e).log := by
    rcases exists_take now e hInvariant.router
      hInvariant.manages with ⟨pool, added, hTake, _⟩
    rw [hTake]
    exact List.mem_cons_self
  have hFound : d.Found id channelId replyId := by
    rcases hInvariant.posted id channelId replyId hPosted with
      hFound | hLost | hHolds | ⟨t, hThere, hKey, _⟩
    · apply hFound.mono
      exact List.Subset.trans
        (log_subset_of_steps (.take c now e))
        (log_subset_of_reflTransGen hLater)
    · exact absurd hLost hKnown
    · exact ⟨e, c.memory.history,
        log_subset_of_reflTransGen hLater hTaken, hDeletion,
        hHolds⟩
    · exact absurd hKey (hIdle t hThere)
  rcases (invariant_of_reaches hBot hReached).found id channelId
    replyId hFound with hDeleted | ⟨t, hThere, _⟩
  · exact hDeleted
  · rw [hEnded] at hThere
    cases hThere

------------------------------------------------------------
-- A Reply That Stays
------------------------------------------------------------

/-
  What happens next: an event is taken, a job has a turn, or
  the first task goes on.
-/
inductive Choice where
  | take (now : Rat) (e : Event)
  | turn (n : Nat)
  | goOn

variable {serve : (r : Request) → Except Cause r.Answer}

/- The first task goes on, if it runs. -/
def goOn
    (serve : (r : Request) → Except Cause r.Answer)
    (c : Course) : Option Course :=
  match c.tasks with
  | [] => none
  | ⟨n, key, program⟩ :: rest =>
    if c.pool.isRunning? n = some true then
      match program with
      | .access change next =>
        some
          { c with
            memory := change c.memory
            tasks := ⟨n, key, next c.memory⟩ :: rest }
      | .ask r next =>
        some
          { c with
            tasks := ⟨n, key, next (serve r)⟩ :: rest
            log :=
              .asked key r (serve r) (next (serve r)) ::
                c.log }
      | _ => some { c with pool := c.pool.finish n, tasks := rest }
    else none

/- The course after a choice, if that can be made. -/
def next
    (serve : (r : Request) → Except Cause r.Answer)
    (c : Course) : Choice → Option Course
  | .take now e => some (c.take now e)
  | .turn n => some { c with pool := c.pool.step n }
  | .goOn => c.goOn serve

/- Make choices one after another. -/
def play
    (serve : (r : Request) → Except Cause r.Answer)
    (c : Course) : List Choice → Option Course
  | [] => some c
  | choice :: rest =>
    (c.next serve choice).bind fun d => d.play serve rest

theorem steps_of_goOn
    (hTimely : ∀ r, IsTimely r (serve r))
    (hNext : c.goOn serve = some d) :
    Steps c d := by
  unfold goOn at hNext
  split at hNext
  · cases hNext
  · rename_i n key program rest hTasks
    split at hNext
    · rename_i hRunning
      split at hNext
      · rename_i change next
        have hSplit :
            c.tasks =
              [] ++ ⟨n, key, .access change next⟩ :: rest :=
          hTasks
        cases hNext
        exact .access hSplit hRunning
      · rename_i r next
        have hSplit :
            c.tasks = [] ++ ⟨n, key, .ask r next⟩ :: rest :=
          hTasks
        cases hNext
        exact .answer (serve r) (hTimely r) hSplit hRunning
      · rename_i hNotAccess hNotAsk
        have hSplit :
            c.tasks = [] ++ ⟨n, key, program⟩ :: rest :=
          hTasks
        cases hNext
        refine .finish hSplit hRunning ?_
        cases program with
        | done a => rfl
        | fail cause => rfl
        | access change next =>
            exact absurd rfl (hNotAccess change next)
        | ask r next => exact absurd rfl (hNotAsk r next)
    · cases hNext

/- A choice is a step. -/
theorem steps_of_next
    {choice : Choice}
    (hTimely : ∀ r, IsTimely r (serve r))
    (hNext : c.next serve choice = some d) :
    Steps c d := by
  cases choice with
  | take now e =>
      cases hNext
      exact .take c now e
  | turn n =>
      cases hNext
      exact .turn c n
  | goOn => exact steps_of_goOn hTimely hNext

/- What choices lead to may come about. -/
theorem reaches_of_play
    {b : Bot}
    {choices : List Choice}
    (hTimely : ∀ r, IsTimely r (serve r))
    (hReaches : Reaches b c)
    (hPlay : c.play serve choices = some d) :
    Reaches b d := by
  induction choices generalizing c with
  | nil =>
      cases hPlay
      exact hReaches
  | cons choice rest hInduction =>
      rcases Option.bind_eq_some_iff.mp hPlay with
        ⟨between, hNext, hRest⟩
      exact hInduction
        (hReaches.tail (steps_of_next hTimely hNext)) hRest

/- A store without tags. -/
def untagged : Store.Connection :=
  .ofTables { Store.Tables.blank with created := [.tags] }

/- Everything is granted; a new message gets the id 9000. -/
def granting : (r : Request) → Except Cause r.Answer
  | .platform _ => .ok (.map [("id", .text "9000")])
  | .login _ => .ok .null
  | .service _ => .ok .null
  | .statement s => (untagged.run s).1
  | .now => .ok (0 : Rat)
  | .stopTimer => .ok false
  | .closePlatform => .ok ()
  | .openService _ _ _ => .ok ()
  | .closeService _ => .ok ()
  | .openStore => .ok ()
  | .closeStore => .ok ()
  | .reachStore => .ok ()
  | .lockStore => .ok ()
  | .unlockStore => .ok ()
  | .commit => .ok ()
  | .rollback => .ok ()
  | .pause _ => .ok ()
  | .startTimer _ => .ok ()
  | .note _ => .ok ()

theorem isTimely_granting
    (r : Request) :
    IsTimely r (granting r) := by
  cases r with
  | now => exact ⟨(0 : Rat), rfl⟩
  | _ => trivial

/- A bot with the usual settings. -/
def usual : Bot :=
  (Bot.ofSettings ⟨[]⟩).toOption.get rfl

theorem ofSettings_usual :
    Bot.ofSettings ⟨[]⟩ = .ok usual :=
  rfl

/-
  Message 10 asks for the tags. It is deleted while the reply
  is being posted.
-/
def hasty : List Choice :=
  [.take 0 (.messageCreate
      ⟨10, 20, some 100, ⟨4, "user", false⟩, "?tags", none,
        none⟩),
    .turn 0] ++
    List.replicate 5 .goOn ++
      .take 1 (.messageDelete 10 20 (some 100)) ::
        List.replicate 6 .goOn

def missed : Course :=
  ((start usual).play granting hasty).getD (start usual)

theorem reaches_missed : Reaches usual missed := by
  have hPlay :
      (start usual).play granting hasty = some missed := by
    with_unfolding_all rfl
  exact reaches_of_play isTimely_granting .refl hPlay

theorem tasks_missed : missed.tasks = [] := by
  with_unfolding_all rfl

/- Where the command is called, and by whom. -/
def caller : Command.Context :=
  ⟨some 100, 20, ⟨4, "user", false⟩, some 10, none, true, "?"⟩

theorem posted_missed : missed.Posted 10 20 9000 := by
  have hNotes :
      IsNoting 10 20 9000
        (caller.record (.map [("id", .text "9000")])) := by
    apply isNoting_record
    · rfl
    · rfl
    · rfl
  refine ⟨20, some (.text "No tags found"), none,
    .map [("id", .text "9000")], ?left, ?logged, ?noting⟩
  case logged =>
    apply List.mem_of_getElem? (i := 3)
    with_unfolding_all exact rfl
  case noting =>
    -- The handler is timed, and its failures are caught.
    apply IsNoting.bind
    apply IsNoting.bind
    apply IsNoting.attempt
    apply IsNoting.bind
    apply IsNoting.bind
    exact hNotes.attempt

/- Whether a message is edited or deleted. -/
def isChangeOf
    (replyId : Int) : Happening → Bool
  | .asked _ (.platform (.editMessage _ r _ _)) _ _ =>
    r == replyId
  | .asked _ (.platform (.deleteMessage _ r)) _ _ =>
    r == replyId
  | _ => false

theorem unchanged_missed :
    ∀ x ∈ missed.log, isChangeOf 9000 x = false := by
  have hNone :
      missed.log.all (fun x => !isChangeOf 9000 x) = true := by
    with_unfolding_all rfl
  intro x hMember
  simpa using List.all_eq_true.mp hNone x hMember

theorem not_lost_missed : ¬ missed.Lost 10 9000 := by
  rintro ⟨channel, content, card, cause, left, hMember, _⟩
  have hNot := unchanged_missed _ hMember
  simp [isChangeOf] at hNot

theorem not_deleted_missed : ¬ missed.Deleted 20 9000 := by
  rintro ⟨key, answer, left, hMember⟩
  have hNot := unchanged_missed _ hMember
  simp [isChangeOf] at hNot

/- The message was deleted, and its reply stays behind. -/
theorem missed_keeps_reply :
    Bot.ofSettings ⟨[]⟩ = .ok usual ∧
      Reaches usual missed ∧ missed.tasks = [] ∧
        missed.Posted 10 20 9000 ∧ ¬ missed.Lost 10 9000 ∧
          (∃ e h, .took e h ∈ missed.log ∧
            isDeletionOf 10 e = true) ∧
          ¬ missed.Deleted 20 9000 ∧
            (missed.Found 10 20 9000 →
              missed.Deleted 20 9000) ∧
            (¬ missed.Found 10 20 9000 →
              Holds missed.memory.history 10 20 9000) := by
  refine ⟨ofSettings_usual, reaches_missed, tasks_missed,
    posted_missed, not_lost_missed,
    ⟨.messageDelete 10 20 (some 100), ?history, ?taken, rfl⟩,
    not_deleted_missed,
    deleted_or_kept ofSettings_usual reaches_missed
      tasks_missed posted_missed not_lost_missed⟩
  case taken =>
    apply List.mem_of_getElem? (i := 4)
    with_unfolding_all exact rfl

end GuildWarden.Dispatcher.Course
