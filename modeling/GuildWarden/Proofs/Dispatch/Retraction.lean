import GuildWarden.Proofs.Command.Handlers
import GuildWarden.Proofs.Dispatch.Turns
import GuildWarden.Proofs.Effect.Interleaving
import Mathlib.Logic.Relation

/-
  This file follows the dispatcher and its pool through any
  course of events, turns and answers, and says what may
  become of the replies to a command: they are recorded, they
  are found in the history when the message is deleted, and
  they are deleted themselves.

  Key definitions include:
    * `Dispatcher.Course`
    * `Dispatcher.Course.Steps`
    * `Dispatcher.Course.Posted`
    * `Dispatcher.Course.Found`
    * `Dispatcher.Course.Deleted`

  Main statements:
    * `Dispatcher.take_frame`
    * `Dispatcher.Course.Manages.eq_of_running`
    * `Dispatcher.Course.exists_submitted`
-/

namespace GuildWarden

open Program

------------------------------------------------------------
-- The History
------------------------------------------------------------

namespace ReplyHistory

/- What is forgotten is not found any more. -/
theorem find?_erase
    (h : ReplyHistory)
    (id other : Int) :
    (h.erase id).find? other =
      if other = id then none else h.find? other := by
  unfold find? erase
  rw [List.find?_filter]
  by_cases hSame : other = id
  · rw [if_pos hSame, List.find?_eq_none]
    intro e _
    simp [hSame]
  · rw [if_neg hSame]
    congr 1
    funext e
    by_cases hOther : e.commandId = other
    · simp [hOther, hSame]
    · simp [hOther]

/- What is recorded is found under its command. -/
theorem find?_record
    (h : ReplyHistory)
    (e : ReplyEntry)
    (id : Int) :
    (h.record e).find? id =
      if id = e.commandId then some e else h.find? id := by
  have hErased := find?_erase h e.commandId id
  unfold find? at hErased
  unfold find? record
  rw [List.find?_append, hErased]
  by_cases hSame : id = e.commandId
  · simp [hSame]
  · have hOther : ¬ e.commandId = id := Ne.symm hSame
    simp [hSame, hOther]

end ReplyHistory

namespace Command.Insight

variable {owner : Option Int}
variable {known after : Insight}
variable {h h' : ReplyHistory}

/- An insight fits a history in which nothing was added. -/
theorem Holds.mono
    (hHolds : known.Holds owner h)
    (hFewer :
      ∀ id e, owner = some id → h'.find? id = some e →
        h.find? id = some e) :
    known.Holds owner h' := by
  cases known with
  | nothing => trivial
  | earlier r =>
      intro id e hOwner hFound
      exact hHolds id e hOwner (hFewer id e hOwner hFound)
  | missing r =>
      intro id e hOwner hFound
      exact hHolds id e hOwner (hFewer id e hOwner hFound)
  | vacant =>
      intro id hOwner
      rw [Option.eq_none_iff_forall_ne_some]
      intro e hFound
      have hOld := hFewer id e hOwner hFound
      rw [hHolds id hOwner] at hOld
      cases hOld

/- A program leaves the replies to other commands alone. -/
theorem Edits.find?_of_ne
    {id : Int}
    (hEdits : known.Edits owner after h h')
    (hOther : owner ≠ some id) :
    h'.find? id = h.find? id := by
  rcases hEdits with ⟨rfl, _⟩ | ⟨id', r, hOwner, _, rfl, _⟩ |
    ⟨e, hOwner, _, rfl, _⟩
  · rfl
  · rw [ReplyHistory.find?_erase, if_neg]
    rintro rfl
    exact hOther hOwner
  · rw [ReplyHistory.find?_record, if_neg]
    rintro rfl
    exact hOther hOwner

/- What is known after an edit fits the new history. -/
theorem Edits.holds
    (hEdits : known.Edits owner after h h') :
    after.Holds owner h' := by
  rcases hEdits with ⟨rfl, rfl | ⟨id, hOwner, rfl⟩⟩ |
    ⟨id, r, hOwner, _, rfl, rfl⟩ | ⟨e, _, _, rfl, rfl⟩
  · trivial
  · cases hFound : h'.find? id with
    | none =>
        intro id' hSame
        rw [hOwner] at hSame
        cases hSame
        exact hFound
    | some e =>
        intro id' e' hSame hFound'
        rw [hOwner] at hSame
        cases hSame
        rw [hFound] at hFound'
        cases hFound'
        rfl
  · intro id' hSame
    rw [hOwner] at hSame
    cases hSame
    rw [ReplyHistory.find?_erase, if_pos rfl]
  · trivial

/- Nobody learns from the history that a reply is gone. -/
theorem Edits.ne_missing
    (hEdits : known.Edits owner after h h')
    (replyId : Int) :
    after ≠ .missing replyId := by
  rcases hEdits with ⟨_, rfl | ⟨id, _, rfl⟩⟩ |
    ⟨id, r, _, _, _, rfl⟩ | ⟨e, _, _, _, rfl⟩
  · simp
  · cases hFind : h.find? id with
    | none => simp [seen]
    | some e => simp [seen]
  · simp
  · simp

/- What is known after an answer fits the same history. -/
theorem holds_of_learns
    {r : Request}
    {answer : Except Cause r.Answer}
    (hLearns : known.Learns after r answer)
    (hHolds : known.Holds owner h) :
    after.Holds owner h := by
  unfold Learns at hLearns
  split at hLearns
  · rcases hLearns with rfl | rfl | ⟨_, rfl, rfl⟩
    · trivial
    · exact hHolds
    · exact hHolds
  · rcases hLearns with rfl | rfl
    · trivial
    · exact hHolds

end Command.Insight

namespace Dispatcher

------------------------------------------------------------
-- Events
------------------------------------------------------------

variable {d : Dispatcher}

/- Whether an event is the deletion of a message. -/
def isDeletionOf
    (id : Int) : Event → Bool
  | .messageDelete id' _ _ => id' == id
  | _ => false

theorem history_learnMember
    (m : Memory)
    (guildId : Option Int)
    (userId : Int)
    (roles : Option IdSet) :
    (learnMember m guildId userId roles).history =
      m.history := by
  unfold learnMember
  split <;> rfl

theorem router_of_remember
    {d' : Dispatcher}
    {x : Delivery}
    (hRemember : d.remember x = some d') :
    d'.router = d.router := by
  unfold remember at hRemember
  split at hRemember
  · cases hRemember
  · rw [← Option.some.inj hRemember]

theorem runOnce_frame
    (d : Dispatcher)
    (m : Memory)
    (editedAt : Option Timestamp)
    (id : Int)
    (x : Command.Message) :
    (d.runOnce m editedAt id x).dispatcher.router =
        d.router ∧
      (d.runOnce m editedAt id x).memory = m := by
  unfold runOnce
  split
  · exact ⟨rfl, rfl⟩
  · rename_i d' hRemember
    exact ⟨router_of_remember hRemember, rfl⟩

/- A new message changes no reply. -/
theorem takeMessage_frame
    (d : Dispatcher)
    (m : Memory)
    (x : Event.Message) :
    (d.takeMessage m x).dispatcher.router = d.router ∧
      (d.takeMessage m x).memory.history = m.history := by
  unfold takeMessage
  split
  · exact ⟨rfl, rfl⟩
  · simp only
    split
    · exact ⟨rfl, history_learnMember m _ _ _⟩
    · have hFrame := runOnce_frame d
        (learnMember m x.guildId x.author.id x.memberRoles)
        none x.messageId
      refine ⟨(hFrame _).1, ?_⟩
      rw [(hFrame _).2]
      exact history_learnMember m _ _ _

/- An edit of a message changes no reply at once. -/
theorem takeEdit_frame
    (d : Dispatcher)
    (now : Rat)
    (m : Memory)
    (x : Event.Edit) :
    (d.takeEdit now m x).dispatcher.router = d.router ∧
      (d.takeEdit now m x).memory.history = m.history := by
  unfold takeEdit
  split
  · exact ⟨rfl, rfl⟩
  · rename_i author editedAt _ _ _
    split
    · exact ⟨rfl, rfl⟩
    · simp only
      have hLearned :=
        history_learnMember m x.guildId author.id x.memberRoles
      split
      · rename_i text _
        unfold takeEditedText
        split
        · have hFrame := runOnce_frame d
            (learnMember m x.guildId author.id x.memberRoles)
            (some editedAt) x.messageId
          refine ⟨(hFrame _).1, ?_⟩
          rw [(hFrame _).2]
          exact hLearned
        · exact ⟨rfl, hLearned⟩
      · exact ⟨rfl, hLearned⟩
  · exact ⟨rfl, rfl⟩

/- The deletion of a message forgets its reply. -/
theorem takeDeletion_frame
    (d : Dispatcher)
    (m : Memory)
    (id : Int) :
    (d.takeDeletion m id).dispatcher.router = d.router ∧
      ∀ other,
        (d.takeDeletion m id).memory.history.find? other =
          if id = other then none
          else m.history.find? other := by
  unfold takeDeletion
  split
  · rename_i hNone
    refine ⟨rfl, ?_⟩
    intro other
    split
    · rename_i hSame
      rw [← hSame]
      exact hNone
    · rfl
  · refine ⟨rfl, ?_⟩
    intro other
    have hErased := m.history.find?_erase id other
    simp only [eq_comm (a := other)] at hErased
    exact hErased

/- No event changes a command, or the reply to another one. -/
theorem take_frame
    (d : Dispatcher)
    (now : Rat)
    (m : Memory)
    (e : Event) :
    (d.take now m e).dispatcher.router = d.router ∧
      ∀ id, (d.take now m e).memory.history.find? id =
        if isDeletionOf id e then none
        else m.history.find? id := by
  cases e with
  | messageCreate x =>
      rcases takeMessage_frame d m x with ⟨hRouter, hHistory⟩
      refine ⟨hRouter, ?_⟩
      intro id
      exact congrArg (ReplyHistory.find? · id) hHistory
  | messageUpdate x =>
      rcases takeEdit_frame d now m x with ⟨hRouter, hHistory⟩
      refine ⟨hRouter, ?_⟩
      intro id
      exact congrArg (ReplyHistory.find? · id) hHistory
  | messageDelete id channelId guildId =>
      rcases takeDeletion_frame d m id with ⟨hRouter, hFind⟩
      refine ⟨hRouter, ?_⟩
      intro other
      simp only [isDeletionOf, beq_iff_eq]
      exact hFind other
  | reaction r =>
      refine ⟨rfl, ?_⟩
      intro id
      exact congrArg (ReplyHistory.find? · id)
        (history_learnMember m r.guildId r.userId r.memberRoles)
  | _ => exact ⟨rfl, fun _ => rfl⟩

/- The reply that is recorded for a deleted message is deleted. -/
theorem job_of_isDeletionOf
    {now : Rat}
    {m : Memory}
    {e : Event}
    {id : Int}
    {entry : ReplyEntry}
    (hDeletion : isDeletionOf id e = true)
    (hFound : m.history.find? id = some entry) :
    (d.take now m e).job =
      some ⟨some (.message id), deleteReply entry⟩ := by
  cases e with
  | messageDelete id' channelId guildId =>
      have hSame : id' = id := by
        simpa [isDeletionOf] using hDeletion
      subst hSame
      change (d.takeDeletion m id').job = _
      unfold takeDeletion
      rw [hFound]
      rfl
  | _ => cases hDeletion

------------------------------------------------------------
-- Courses
------------------------------------------------------------

/- A job of the pool with what is left of its program. -/
structure Task where
  id : Nat
  key : Option Key
  program : Program Unit

/-
  What has happened: an event was taken while the history was
  as it is given, or a job asked for something, was answered
  and has the given rest of its program left.
-/
inductive Happening where
  | took (e : Event) (h : ReplyHistory)
  | asked
      (key : Option Key)
      (r : Request)
      (answer : Except Cause r.Answer)
      (left : Program Unit)

/-
  The course of the dispatcher: its jobs that have not ended,
  and what has happened, the latest first.
-/
structure Course where
  dispatcher : Dispatcher
  memory : Memory
  pool : Pool Key
  tasks : List Task
  log : List Happening

namespace Course

/- A bot that has just started. -/
def start
    (b : Bot) : Course where
  dispatcher := b.dispatcher
  memory := Memory.empty
  pool := .ofSlots b.workers
  tasks := []
  log := []

/- Submit a job. -/
def submit
    (c : Course)
    (job : Job) : Course :=
  match c.pool.submit job.key with
  | (some id, pool) =>
    { c with
      pool
      tasks := c.tasks ++ [⟨id, job.key, job.program⟩] }
  | (none, pool) => { c with pool }

/- Take an event and submit what is to be done about it. -/
def take
    (c : Course)
    (now : Rat)
    (e : Event) : Course :=
  let t := c.dispatcher.take now c.memory e
  let c :=
    { c with
      dispatcher := t.dispatcher
      memory := t.memory
      log := .took e c.memory.history :: c.log }
  match t.job with
  | some job => c.submit job
  | none => c

/- The clock can always be read. -/
def IsTimely :
    (r : Request) → Except Cause r.Answer → Prop
  | .now, answer => ∃ time, answer = .ok time
  | _, _ => True

/-
  One step: an event is taken, a job has a turn in the pool, a
  running job looks at the memory and changes it, is answered,
  or ends, or something else changes the memory but not the
  history.
-/
inductive Steps : Course → Course → Prop where
  | take
      (c : Course)
      (now : Rat)
      (e : Event) :
      Steps c (c.take now e)
  | turn
      (c : Course)
      (id : Nat) :
      Steps c { c with pool := c.pool.step id }
  | access
      {c : Course}
      {before after : List Task}
      {id : Nat}
      {key : Option Key}
      {change : Memory → Memory}
      {next : Memory → Program Unit}
      (hTasks :
        c.tasks =
          before ++ ⟨id, key, .access change next⟩ :: after)
      (hRunning : c.pool.isRunning? id = some true) :
      Steps c
        { c with
          memory := change c.memory
          tasks :=
            before ++ ⟨id, key, next c.memory⟩ :: after }
  | answer
      {c : Course}
      {before after : List Task}
      {id : Nat}
      {key : Option Key}
      {r : Request}
      {next : Except Cause r.Answer → Program Unit}
      (answer : Except Cause r.Answer)
      (hTimely : IsTimely r answer)
      (hTasks :
        c.tasks = before ++ ⟨id, key, .ask r next⟩ :: after)
      (hRunning : c.pool.isRunning? id = some true) :
      Steps c
        { c with
          tasks := before ++ ⟨id, key, next answer⟩ :: after
          log := .asked key r answer (next answer) :: c.log }
  | finish
      {c : Course}
      {before after : List Task}
      {t : Task}
      (hTasks : c.tasks = before ++ t :: after)
      (hRunning : c.pool.isRunning? t.id = some true)
      (hEnded : t.program.hasEnded = true) :
      Steps c
        { c with
          pool := c.pool.finish t.id
          tasks := before ++ after }
  | change
      (c : Course)
      (m : Memory)
      (hSame : m.history = c.memory.history) :
      Steps c { c with memory := m }

/- What a bot may come to. -/
def Reaches
    (b : Bot)
    (c : Course) : Prop :=
  Relation.ReflTransGen Steps (start b) c

------------------------------------------------------------
-- Replies
------------------------------------------------------------

variable {α β : Type}
variable {id channelId replyId : Int}
variable {p : Program α}

/- A program is about to record a reply. -/
def IsRecording
    (id channelId replyId : Int)
    (p : Program α) : Prop :=
  ∃ change next, ∃ time : Rat,
    p = .access change next ∧
      ∀ m, (change m).history =
        m.history.record ⟨id, channelId, replyId, time⟩

/- A program is about to note the time of a reply and record it. -/
def IsNoting
    (id channelId replyId : Int)
    (p : Program α) : Prop :=
  ∃ next, p = .ask .now next ∧
    ∀ time : Rat,
      IsRecording id channelId replyId (next (.ok time))

/- Whatever is done with a program, it records the reply first. -/
theorem IsNoting.bind
    (hNotes : IsNoting id channelId replyId p)
    (f : α → Program β) :
    IsNoting id channelId replyId (p.bind f) := by
  rcases hNotes with ⟨next, rfl, hNext⟩
  refine ⟨fun answer => (next answer).bind f, rfl, ?_⟩
  intro time
  rcases hNext time with ⟨change, rest, recordedAt, hSame, hRecord⟩
  exact ⟨change, fun m => (rest m).bind f, recordedAt,
    congrArg (Program.bind · f) hSame, hRecord⟩

theorem IsNoting.attempt
    (hNotes : IsNoting id channelId replyId p) :
    IsNoting id channelId replyId p.attempt := by
  rcases hNotes with ⟨next, rfl, hNext⟩
  refine ⟨fun answer => (next answer).attempt, rfl, ?_⟩
  intro time
  rcases hNext time with ⟨change, rest, recordedAt, hSame, hRecord⟩
  exact ⟨change, fun m => (rest m).attempt, recordedAt,
    congrArg Program.attempt hSame, hRecord⟩

/- A message with an id is recorded as a reply. -/
theorem isNoting_record
    {x : Command.Context}
    {reply : Payload}
    (hId : x.recordedId? = some id)
    (hFilled : reply.isFilled = true)
    (hReply : reply.idItem = .ok replyId) :
    IsNoting id x.channelId replyId (x.record reply) := by
  unfold Command.Context.record
  rw [hId]
  simp only [hFilled, hReply, if_true]
  exact ⟨_, rfl, fun time => ⟨_, _, time, rfl, fun _ => rfl⟩⟩

/-
  A job of a command has posted a message, and went on to
  record it as its reply.
-/
def Posted
    (c : Course)
    (id channelId replyId : Int) : Prop :=
  ∃ channel content card, ∃ answer : Payload, ∃ left,
    .asked (some (.message id))
        (.platform (.sendMessage channel content card))
        (.ok answer) left ∈ c.log ∧
      IsNoting id channelId replyId left

/- A job of a command could not edit a reply since it is gone. -/
def Lost
    (c : Course)
    (id replyId : Int) : Prop :=
  ∃ channel content card cause left,
    .asked (some (.message id))
        (.platform (.editMessage channel replyId content card))
        (.error cause) left ∈ c.log ∧
      cause.isUnknownTarget = true

/- A reply is in the history. -/
def Holds
    (h : ReplyHistory)
    (id channelId replyId : Int) : Prop :=
  ∃ time, h.find? id = some ⟨id, channelId, replyId, time⟩

/-
  When the deletion of a message was handled, a reply to it
  was in the history.
-/
def Found
    (c : Course)
    (id channelId replyId : Int) : Prop :=
  ∃ e h, .took e h ∈ c.log ∧ isDeletionOf id e = true ∧
    Holds h id channelId replyId

/- The platform was asked to delete a message. -/
def Deleted
    (c : Course)
    (channelId replyId : Int) : Prop :=
  ∃ key, ∃ answer : Except Cause Payload, ∃ left,
    .asked key (.platform (.deleteMessage channelId replyId))
      answer left ∈ c.log

/- A job of a command has yet to record a reply. -/
def Awaits
    (id channelId replyId : Int)
    (t : Task) : Prop :=
  t.key = some (.message id) ∧
    (IsNoting id channelId replyId t.program ∨
      IsRecording id channelId replyId t.program)

/- A job has yet to delete a message. -/
def IsDeleting
    (channelId replyId : Int)
    (p : Program Unit) : Prop :=
  ∃ next,
    p = .ask
      (.platform (.deleteMessage channelId replyId)) next

------------------------------------------------------------
-- Jobs of the Pool
------------------------------------------------------------

/- The tasks are the jobs of a pool, which takes on new ones. -/
structure Manages
    (p : Pool Key)
    (tasks : List Task) : Prop where
  sound : ∃ slots, Pool.IsSound slots p
  turn : Pool.InTurn p
  accepting : p.accepting = true
  labels : (tasks.map fun t => (t.id, t.key)) = p.labels

namespace Manages

variable {p q : Pool Key}
variable {tasks before after : List Task}
variable {s t : Task}
variable {k : Key}

theorem sorted
    (hManages : Manages p tasks) :
    p.jobs.Pairwise fun a b => a.id < b.id := by
  rcases hManages.sound with ⟨slots, hSound⟩
  exact hSound.sorted

/- A pool that has just started has no jobs. -/
theorem start
    (n : Int) :
    Manages (.ofSlots n) [] where
  sound := ⟨_, Pool.isSound_ofSlots n⟩
  turn := by
    intro i hi
    cases hi
  accepting := rfl
  labels := rfl

/- The tasks are in the order of their submission. -/
theorem pairwise
    (hManages : Manages p tasks) :
    tasks.Pairwise fun s t => s.id < t.id := by
  have hOrdered :
      p.labels.Pairwise fun x y => x.1 < y.1 :=
    List.pairwise_map.mpr hManages.sorted
  rw [← hManages.labels, List.pairwise_map] at hOrdered
  exact hOrdered

/- Every task is a job. -/
theorem exists_job
    (hManages : Manages p tasks)
    (hMember : t ∈ tasks) :
    ∃ j ∈ p.jobs, j.id = t.id ∧ j.key = t.key := by
  have hThere : (t.id, t.key) ∈ p.labels := by
    rw [← hManages.labels]
    exact List.mem_map_of_mem hMember
  rcases List.mem_map.mp hThere with ⟨j, hJob, hSame⟩
  rcases Prod.mk.inj hSame with ⟨hId, hKey⟩
  exact ⟨j, hJob, hId, hKey⟩

/- The other tasks are other jobs. -/
theorem ne_of_mem
    (hManages : Manages p (before ++ t :: after))
    (hMember : s ∈ before ++ after) :
    s.id ≠ t.id := by
  have hOrdered := hManages.pairwise
  rw [List.pairwise_append, List.pairwise_cons] at hOrdered
  rcases hOrdered with ⟨_, ⟨hAfter, _⟩, hBefore⟩
  rcases List.mem_append.mp hMember with hEarlier | hLater
  · have hLess := hBefore s hEarlier t List.mem_cons_self
    exact Nat.ne_of_lt hLess
  · have hLess := hAfter s hLater
    exact Nat.ne_of_gt hLess

/- A task does not run while an earlier one of its key is there. -/
theorem not_running_of_lt
    (hManages : Manages p tasks)
    (hFirst : s ∈ tasks)
    (hSecond : t ∈ tasks)
    (hFirstKey : s.key = some k)
    (hSecondKey : t.key = some k)
    (hBefore : s.id < t.id) :
    p.isRunning? t.id ≠ some true := by
  intro hRuns
  rcases hManages.exists_job hFirst with ⟨i, hi, hiId, hiKey⟩
  rcases hManages.exists_job hSecond with ⟨j, hj, hjId, hjKey⟩
  have hPhase := Pool.isRunning?_eq_some_true_iff.mp hRuns
  rw [← hjId, Pool.phase?_of_mem hManages.sorted hj] at hPhase
  have hNone : j.phase.predecessor? = none := by
    rw [Option.some.inj hPhase]
    rfl
  have hNotLess := hManages.turn.not_lt_of_not_waiting hi hj
    (hiKey.trans hFirstKey) (hjKey.trans hSecondKey) hNone
  omega

/- Two tasks that run at once do not work for one message. -/
theorem eq_of_running
    (hManages : Manages p tasks)
    (hFirst : s ∈ tasks)
    (hSecond : t ∈ tasks)
    (hFirstKey : s.key = some k)
    (hSecondKey : t.key = some k)
    (hFirstRuns : p.isRunning? s.id = some true)
    (hSecondRuns : p.isRunning? t.id = some true) :
    s.id = t.id := by
  rcases Nat.lt_trichotomy s.id t.id with
    hBefore | hSame | hAfter
  · exact (hManages.not_running_of_lt hFirst hSecond hFirstKey
      hSecondKey hBefore hSecondRuns).elim
  · exact hSame
  · exact (hManages.not_running_of_lt hSecond hFirst hSecondKey
      hFirstKey hAfter hFirstRuns).elim

/- A task goes on with what is left of it. -/
theorem replace
    (hManages : Manages p (before ++ t :: after))
    (hId : s.id = t.id)
    (hKey : s.key = t.key) :
    Manages p (before ++ s :: after) := by
  refine ⟨hManages.sound, hManages.turn, hManages.accepting,
    ?_⟩
  rw [← hManages.labels]
  simp [hId, hKey]

/- A job has a turn. -/
theorem step
    (hManages : Manages p tasks)
    (id : Nat) :
    Manages (p.step id) tasks := by
  rcases hManages.sound with ⟨slots, hSound⟩
  have hOpen :=
    congrArg Prod.snd (Pool.intake_step p id)
  refine ⟨⟨slots, hSound.step id⟩,
    hManages.turn.step hManages.sorted id, ?_, ?_⟩
  · exact hOpen.trans hManages.accepting
  · rw [Pool.labels_step]
    exact hManages.labels

/- A job that is running goes on when others have a turn. -/
theorem isRunning?_step
    {id : Nat}
    (other : Nat)
    (hRunning : p.isRunning? id = some true) :
    (p.step other).isRunning? id = some true := by
  by_cases hSame : id = other
  · rw [← hSame, Pool.step_of_running hRunning]
    exact hRunning
  · rw [Pool.isRunning?_step_of_ne p hSame]
    exact hRunning

/- A job has ended. -/
theorem finish
    (hManages : Manages p (before ++ t :: after))
    (hRunning : p.isRunning? t.id = some true) :
    Manages (p.finish t.id) (before ++ after) := by
  rcases hManages.sound with ⟨slots, hSound⟩
  have hPhase := Pool.isRunning?_eq_some_true_iff.mp hRunning
  have hOpen :=
    congrArg Prod.snd (Pool.intake_finish p t.id)
  refine ⟨⟨slots, hSound.finish hPhase⟩,
    hManages.turn.finish hManages.sorted hPhase, ?_, ?_⟩
  · exact hOpen.trans hManages.accepting
  · have hRemoved :
        (p.remove t.id).labels =
          p.labels.filter fun x => x.1 != t.id := by
      simp only [Pool.labels, Pool.remove, List.filter_map]
      rfl
    have hKept :
        (before ++ after).filter (fun s => s.id != t.id) =
          before ++ after := by
      rw [List.filter_eq_self]
      intro s hMember
      simpa using hManages.ne_of_mem hMember
    rw [List.filter_append] at hKept
    rw [Pool.labels_finish, hRemoved, ← hManages.labels,
      List.filter_map, List.filter_append, List.filter_cons]
    simp only [Function.comp_def, bne_self_eq_false,
      Bool.false_eq_true, if_false]
    rw [hKept]

/- A job is submitted. -/
theorem submit
    (hManages : Manages p tasks)
    (key : Option Key)
    (program : Program Unit) :
    Manages (p.submit key).2
      (tasks ++ [⟨p.nextId, key, program⟩]) := by
  rcases hManages.sound with ⟨slots, hSound⟩
  refine ⟨⟨slots, hSound.submit key⟩,
    hManages.turn.submit hSound key, ?_, ?_⟩
  · unfold Pool.submit
    rw [if_pos hManages.accepting]
    exact hManages.accepting
  · unfold Pool.submit
    rw [if_pos hManages.accepting, List.map_append,
      hManages.labels]
    simp [Pool.labels]

/- A job that is running goes on when another is submitted. -/
theorem isRunning?_submit
    {id : Nat}
    (hManages : Manages p tasks)
    (key : Option Key)
    (hRunning : p.isRunning? id = some true) :
    (p.submit key).2.isRunning? id = some true := by
  rcases hManages.sound with ⟨slots, hSound⟩
  rw [Pool.isRunning?_submit hSound hManages.accepting,
    if_neg]
  · exact hRunning
  · rintro rfl
    have hPhase := Pool.isRunning?_eq_some_true_iff.mp hRunning
    rcases Pool.exists_job_of_phase? hPhase with ⟨j, hj, hId, _⟩
    have hLess := hSound.numbered j hj
    omega

end Manages

------------------------------------------------------------
-- Jobs of Events
------------------------------------------------------------

variable {c d : Course}

/- What is submitted when an event is taken. -/
theorem exists_submitted
    (now : Rat)
    (e : Event)
    (hManages : Manages c.pool c.tasks) :
    ∃ pool added,
      c.take now e =
        { dispatcher :=
            (c.dispatcher.take now c.memory e).dispatcher
          memory := (c.dispatcher.take now c.memory e).memory
          pool
          tasks := c.tasks ++ added
          log := .took e c.memory.history :: c.log } ∧
      Manages pool (c.tasks ++ added) ∧
      (∀ n, c.pool.isRunning? n = some true →
        pool.isRunning? n = some true) ∧
      added.map (fun t => (t.key, t.program)) =
        (c.dispatcher.take now c.memory e).job.toList.map
          fun job => (job.key, job.program) := by
  unfold take
  cases hJob : (c.dispatcher.take now c.memory e).job with
  | none =>
      exact ⟨c.pool, [], by simp [hJob],
        by simpa using hManages, fun _ => id, rfl⟩
  | some job =>
      refine ⟨(c.pool.submit job.key).2,
        [⟨c.pool.nextId, job.key, job.program⟩], ?_,
        hManages.submit job.key job.program,
        fun n => hManages.isRunning?_submit job.key, rfl⟩
      simp [hJob, Course.submit, Pool.submit,
        hManages.accepting]

end Course

end Dispatcher

end GuildWarden
