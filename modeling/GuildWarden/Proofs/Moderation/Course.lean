import GuildWarden.Proofs.Moderation.Trace
import Mathlib.Data.List.Basic

/-
  This file runs the lifting of bans that are over beside any
  number of bans. Two bans of one user follow one another;
  everything else may happen between any two exchanges. A ban
  that took effect last is stored, and its row is there in the
  end unless the user was forgotten after it was stored.

  Key definitions include:
    * `Ban.Course`
    * `Ban.Course.next`
    * `Ban.Course.Reaches`
    * `Ban.Course.EndsBanned`

  Main statements:
    * `Ban.Course.invariant_of_reaches`
    * `Ban.Course.holds_row_iff`
    * `Ban.Course.raced_loses_row`
-/

namespace GuildWarden.Ban

open Program

------------------------------------------------------------
-- Courses
------------------------------------------------------------

/- What is to be done. -/
inductive Job where
  | lift
  | impose (guildId : Int) (order : BanOrder)

namespace Job

def program : Job → Program (Option Int)
  | .lift => liftExpired.bind fun _ => .done none
  | .impose g order => Ban.impose g order

/- Whether a job bans a user. -/
def isFor
    (g u : Int) : Job → Bool
  | .lift => false
  | .impose g' order => g' == g && order.userId == u

/- A ban is for some hours. -/
def IsTimed : Job → Prop
  | .lift => True
  | .impose _ order => 0 < order.hours

end Job

/- A job, and what is left of it. -/
structure Task where
  job : Job
  left : Program (Option Int)

/-
  The tasks in the order of their start, what they share, and
  the exchanges that they made, the latest first.
-/
structure Course where
  shared : Shared
  tasks : List Task
  log : List (Nat × Exchange)

/-
  What happens next: a task makes an exchange, a ban is called
  for, or time passes.
-/
inductive Choice where
  | turn (n : Nat) (given : Except Cause Payload)
  | call (guildId : Int) (order : BanOrder)
  | pass (now : Rat)

namespace Course

/- The bans that are over are about to be lifted. -/
def start
    (w : Shared) : Course where
  shared := w
  tasks := [⟨.lift, Job.lift.program⟩]
  log := []

/- Whether no task bans a user at this moment. -/
def isFreeFor
    (c : Course)
    (g u : Int) : Bool :=
  c.tasks.all fun t => !t.job.isFor g u || t.left.hasEnded

/- The course after a choice, if that can be made. -/
def next
    (c : Course) : Choice → Option Course
  | .turn n given => do
    let t ← c.tasks[n]?
    let (e, shared, left) ← t.left.advance c.shared given
    some
      {
        shared
        tasks := c.tasks.set n { t with left }
        log := (n, e) :: c.log
      }
  | .call g order =>
    if 0 < order.hours ∧ c.isFreeFor g order.userId = true then
      some
        { c with
          tasks :=
            c.tasks ++ [⟨.impose g order, Ban.impose g order⟩] }
    else none
  | .pass now =>
    if c.shared.clock ≤ now then
      some { c with shared := { c.shared with clock := now } }
    else none

/- What the lifting of bans may come to, beside other tasks. -/
inductive Reaches
    (w : Shared) : Course → Prop where
  | start :
      Reaches w (start w)
  | next
      {c d : Course}
      (choice : Choice)
      (hReaches : Reaches w c)
      (hNext : c.next choice = some d) :
      Reaches w d

/- Nothing is left to do. -/
def IsFinished
    (c : Course) : Prop :=
  ∀ t ∈ c.tasks, t.left.hasEnded = true

/-
  The last thing that happened to a user on the platform is
  the ban by a task.
-/
def EndsBanned
    (c : Course)
    (g u : Int)
    (n : Nat) : Prop :=
  ∃ later e earlier,
    c.log = later ++ (n, e) :: earlier ∧ e.Bans g u ∧
      ∀ x ∈ later, ¬ x.2.Bans g u ∧ ¬ x.2.Unbans g u

------------------------------------------------------------
-- The Log
------------------------------------------------------------

variable {w : Shared}
variable {c d : Course}
variable {log newer older : List (Nat × Exchange)}
variable {e : Exchange}
variable {m n : Nat}

/- The exchanges of one task, the first one first. -/
def own
    (n : Nat)
    (log : List (Nat × Exchange)) : List Exchange :=
  ((log.filter fun x => x.1 == n).map (·.2)).reverse

theorem own_cons_self
    (n : Nat)
    (e : Exchange)
    (log : List (Nat × Exchange)) :
    own n ((n, e) :: log) = own n log ++ [e] := by
  simp [own]

theorem own_cons_of_ne
    (hOther : m ≠ n) :
    own n ((m, e) :: log) = own n log := by
  simp [own, hOther]

theorem own_append
    (n : Nat)
    (newer older : List (Nat × Exchange)) :
    own n (newer ++ older) = own n older ++ own n newer := by
  simp [own]

theorem mem_own_iff :
    e ∈ own n log ↔ (n, e) ∈ log := by
  simp [own]

/- A task makes no exchange before another one's last. -/
def IsBefore
    (m n : Nat)
    (log : List (Nat × Exchange)) : Prop :=
  ∀ later e earlier,
    log = later ++ (m, e) :: earlier →
      ∀ x ∈ earlier, x.1 ≠ n

/- A task that makes no exchange any more stays before. -/
theorem IsBefore.cons
    {k : Nat}
    (hBefore : IsBefore m n log)
    (hOther : k ≠ m) :
    IsBefore m n ((k, e) :: log) := by
  intro later e' earlier hSplit
  cases later with
  | nil =>
      have hSame := (List.cons.inj hSplit).1
      exact absurd (congrArg Prod.fst hSame) hOther
  | cons x later =>
      exact hBefore later e' earlier (List.cons.inj hSplit).2

------------------------------------------------------------
-- The Invariant
------------------------------------------------------------

/-
  What holds at every moment: the store is what the log makes
  of it; what a task has done and what is left of it make a
  run of its job; and two bans of a user do not overlap.
-/
structure Invariant
    (w : Shared)
    (c : Course) : Prop where
  replayed : Replays w.store c.log c.shared.store
  served : ∀ x ∈ c.log, x.2.IsServed
  traced :
    ∀ n t, c.tasks[n]? = some t →
      ∀ trace result, Runs t.left trace result →
        Runs t.job.program (own n c.log ++ trace) result
  known : ∀ x ∈ c.log, x.1 < c.tasks.length
  timed : ∀ t ∈ c.tasks, t.job.IsTimed
  separate :
    ∀ m n s t g u, m < n →
      c.tasks[m]? = some s → c.tasks[n]? = some t →
        s.job.isFor g u = true → t.job.isFor g u = true →
          s.left.hasEnded = true ∧ IsBefore m n c.log

theorem invariant_start
    (w : Shared) :
    Invariant w (start w) where
  replayed := .nil
  served := by simp [start]
  traced := by
    intro n t hTask trace result hRuns
    cases n with
    | zero =>
        cases hTask
        exact hRuns
    | succ n => cases hTask
  known := by simp [start]
  timed := by simp [start, Job.IsTimed]
  separate := by
    intro m n s t g u hLess hFirst hSecond
    cases n with
    | zero => omega
    | succ n => cases hSecond

/- A task makes an exchange. -/
theorem Invariant.turn
    {t : Task}
    {given : Except Cause Payload}
    {shared : Shared}
    {left : Program (Option Int)}
    (hInvariant : Invariant w c)
    (hTask : c.tasks[n]? = some t)
    (hAdvance :
      t.left.advance c.shared given =
        some (e, shared, left)) :
    Invariant w
      {
        shared
        tasks := c.tasks.set n { t with left }
        log := (n, e) :: c.log
      } := by
  have hLess : n < c.tasks.length := by
    by_contra hNot
    rw [List.getElem?_eq_none (Nat.le_of_not_lt hNot)]
      at hTask
    cases hTask
  have hSet (k : Nat) :
      (c.tasks.set n { t with left })[k]? =
        if n = k then some { t with left }
        else c.tasks[k]? := by
    rw [List.getElem?_set]
    simp [hLess]
  rcases moves_of_advance hAdvance with ⟨hMoves, hServed⟩
  refine ⟨.cons (n, e) hInvariant.replayed hMoves, ?_, ?_, ?_,
    ?_, ?_⟩
  · intro x hMember
    rcases List.mem_cons.mp hMember with rfl | hOld
    · exact hServed
    · exact hInvariant.served x hOld
  · intro k s hTask' trace result hRuns
    rw [hSet] at hTask'
    split at hTask'
    · rename_i hSame
      subst hSame
      cases hTask'
      rw [own_cons_self, List.append_assoc]
      exact hInvariant.traced n t hTask _ result
        (runs_of_advance hAdvance hRuns)
    · rename_i hOther
      rw [own_cons_of_ne hOther]
      exact hInvariant.traced k s hTask' trace result hRuns
  · intro x hMember
    rw [List.length_set]
    rcases List.mem_cons.mp hMember with rfl | hOld
    · exact hLess
    · exact hInvariant.known x hOld
  · intro s hMember
    rcases List.mem_or_eq_of_mem_set hMember with hOld | rfl
    · exact hInvariant.timed s hOld
    · exact hInvariant.timed t (List.mem_of_getElem? hTask)
  · intro i j s s' g u hOrder hFirst hSecond hFor hFor'
    -- A task that has ended is not the one that goes on.
    have hApart : n ≠ i := by
      rintro rfl
      have hOther : n ≠ j := Nat.ne_of_lt hOrder
      rw [hSet, if_pos rfl] at hFirst
      rw [hSet, if_neg hOther] at hSecond
      cases hFirst
      have hEnded := (hInvariant.separate n j t s' g u hOrder
        hTask hSecond hFor hFor').1
      rw [hasEnded_of_advance hAdvance] at hEnded
      cases hEnded
    rw [hSet, if_neg hApart] at hFirst
    have hOld : ∃ s'', c.tasks[j]? = some s'' ∧
        s''.job.isFor g u = true := by
      rw [hSet] at hSecond
      split at hSecond
      · rename_i hSame
        cases hSecond
        exact ⟨t, hSame ▸ hTask, hFor'⟩
      · exact ⟨s', hSecond, hFor'⟩
    rcases hOld with ⟨s'', hOldTask, hOldFor⟩
    rcases hInvariant.separate i j s s'' g u hOrder hFirst
      hOldTask hFor hOldFor with ⟨hEnded, hBefore⟩
    exact ⟨hEnded, hBefore.cons hApart⟩

/- A ban is called for. -/
theorem Invariant.call
    {g : Int}
    {order : BanOrder}
    (hInvariant : Invariant w c)
    (hHours : 0 < order.hours)
    (hFree : c.isFreeFor g order.userId = true) :
    Invariant w
      { c with
        tasks :=
          c.tasks ++
            [⟨.impose g order, Ban.impose g order⟩] } := by
  have hCases (k : Nat) (s : Task)
      (hTask :
        (c.tasks ++
          [⟨.impose g order, Ban.impose g order⟩])[k]? =
            some s) :
      c.tasks[k]? = some s ∧ k < c.tasks.length ∨
        k = c.tasks.length ∧
          s = ⟨.impose g order, Ban.impose g order⟩ := by
    rw [List.getElem?_append] at hTask
    split at hTask
    · rename_i hLess
      exact Or.inl ⟨hTask, hLess⟩
    · rename_i hNot
      rw [List.getElem?_singleton] at hTask
      split at hTask
      · cases hTask
        exact Or.inr ⟨by omega, rfl⟩
      · cases hTask
  refine ⟨hInvariant.replayed, hInvariant.served, ?_, ?_, ?_,
    ?_⟩
  · intro k s hTask trace result hRuns
    rcases hCases k s hTask with ⟨hOld, _⟩ | ⟨rfl, rfl⟩
    · exact hInvariant.traced k s hOld trace result hRuns
    · have hNone : own c.tasks.length c.log = [] := by
        rw [List.eq_nil_iff_forall_not_mem]
        intro e hMember
        exact absurd (hInvariant.known _ (mem_own_iff.mp hMember))
          (Nat.lt_irrefl _)
      rw [hNone]
      exact hRuns
  · intro x hMember
    have hLess := hInvariant.known x hMember
    simp only [List.length_append, List.length_singleton]
    omega
  · intro s hMember
    rcases List.mem_append.mp hMember with hOld | hNew
    · exact hInvariant.timed s hOld
    · rw [List.mem_singleton.mp hNew]
      exact hHours
  · intro i j s t g' u hOrder hFirst hSecond hFor hFor'
    rcases hCases i s hFirst with ⟨hOld, hLess⟩ | ⟨rfl, _⟩
    · rcases hCases j t hSecond with ⟨hOld', _⟩ | ⟨rfl, rfl⟩
      · exact hInvariant.separate i j s t g' u hOrder hOld
          hOld' hFor hFor'
      · simp only [Job.isFor, Bool.and_eq_true, beq_iff_eq]
          at hFor'
        rcases hFor' with ⟨rfl, rfl⟩
        have hEnded := List.all_eq_true.mp hFree s
          (List.mem_of_getElem? hOld)
        refine ⟨by simpa [hFor] using hEnded, ?_⟩
        intro later e earlier hSplit x hMember hSame
        have hKnown := hInvariant.known x (by
          rw [hSplit]
          exact List.mem_append_right _
            (List.mem_cons_of_mem _ hMember))
        omega
    · rcases hCases j t hSecond with ⟨_, hLess⟩ | ⟨rfl, _⟩
      · omega
      · omega

/- Whatever happens next, the invariant is kept. -/
theorem Invariant.next
    {choice : Choice}
    (hInvariant : Invariant w c)
    (hNext : c.next choice = some d) :
    Invariant w d := by
  cases choice with
  | turn n given =>
      simp only [Course.next, Option.bind_eq_bind,
        Option.bind_eq_some_iff] at hNext
      rcases hNext with
        ⟨t, hTask, ⟨e, shared, left⟩, hAdvance, hSame⟩
      cases hSame
      exact hInvariant.turn hTask hAdvance
  | call g order =>
      simp only [Course.next] at hNext
      split at hNext
      · rename_i hAllowed
        cases hNext
        exact hInvariant.call hAllowed.1 hAllowed.2
      · cases hNext
  | pass now =>
      simp only [Course.next] at hNext
      split at hNext
      · cases hNext
        exact ⟨hInvariant.replayed, hInvariant.served,
          hInvariant.traced, hInvariant.known,
          hInvariant.timed, hInvariant.separate⟩
      · cases hNext

theorem invariant_of_reaches
    (hReaches : Reaches w c) :
    Invariant w c := by
  induction hReaches with
  | start => exact invariant_start w
  | next choice _ hNext hInvariant =>
      exact hInvariant.next hNext

------------------------------------------------------------
-- Bans That Were Stored
------------------------------------------------------------

variable {g u : Int}
variable {order : BanOrder}

/- An exchange that stores a row. -/
theorem stores_putBan
    (g : Int)
    (order : BanOrder)
    (now : Rat) :
    Exchange.Stores g order.userId
      (.asked (.statement (.putBan (rowAt g order now)))
        (.ok ())) :=
  ⟨rfl, rfl⟩

/-
  A task has banned a user, stored the end of the ban and
  answered with it.
-/
structure HasBanned
    (c : Course)
    (n : Nat)
    (g : Int)
    (order : BanOrder)
    (before : List Exchange)
    (answer : Payload)
    (now : Rat) : Prop where
  task :
    c.tasks[n]? =
      some
        ⟨.impose g order,
          .done (some (rowAt g order now).unbanAt)⟩
  exchanges :
    own n c.log =
      before ++
        .asked
          (.platform
            (.ban g order.userId deletedSeconds
              (some order.reason)))
          (.ok answer) :: storing g order now
  quiet : ∀ e ∈ before, e.IsQuiet

/- Only a task that has banned a user makes such exchanges. -/
theorem Invariant.exists_hasBanned
    (hInvariant : Invariant w c)
    (hFinished : c.IsFinished)
    (hMember : (n, e) ∈ c.log)
    (hNotQuiet : ¬ e.IsQuiet) :
    ∃ g order before answer now,
      HasBanned c n g order before answer now := by
  have hLess : n < c.tasks.length :=
    hInvariant.known (n, e) hMember
  obtain ⟨t, hTask⟩ : ∃ t, c.tasks[n]? = some t :=
    ⟨_, List.getElem?_eq_getElem hLess⟩
  have hThere := List.mem_of_getElem? hTask
  rcases runs_of_hasEnded (hFinished t hThere) with
    ⟨result, hEnd, hLeft⟩
  have hRuns := hInvariant.traced n t hTask [] result hEnd
  rw [List.append_nil] at hRuns
  have hServed : ∀ e ∈ own n c.log, e.IsServed :=
    fun e hOwn =>
      hInvariant.served (n, e) (mem_own_iff.mp hOwn)
  have hTimed := hInvariant.timed t hThere
  rcases t with ⟨job, left⟩
  cases job with
  | lift =>
      have hAsks : Job.lift.program.Asks Exchange.IsQuiet :=
        asks_bind asks_liftExpired fun _ => trivial
      exact absurd
        (asks_of_runs hRuns hAsks hServed e
          (mem_own_iff.mpr hMember)) hNotQuiet
  | impose g order =>
      rcases runs_impose hTimed hServed hRuns with
        hQuiet | ⟨before, answer, now, hOwn, hQuiet, rfl⟩
      · exact absurd (hQuiet e (mem_own_iff.mpr hMember))
          hNotQuiet
      · have hSettled :
            left =
              .done (some (rowAt g order now).unbanAt) :=
          hLeft
        rw [hSettled] at hTask
        exact ⟨g, order, before, answer, now, hTask, hOwn,
          hQuiet⟩

variable {before : List Exchange}
variable {answer : Payload}
variable {now : Rat}

/- The only member of its kind has one place in a list. -/
theorem split_unique
    {α : Type}
    {P : α → Prop}
    {front back front' back' : List α}
    {a a' : α}
    (hSame : front ++ a :: back = front' ++ a' :: back')
    (hFirst : P a)
    (hFront : ∀ x ∈ front', ¬ P x)
    (hBack : ∀ x ∈ back', ¬ P x) :
    front = front' ∧ a = a' ∧ back = back' := by
  induction front' generalizing front with
  | nil =>
      cases front with
      | nil =>
          rcases List.cons.inj hSame with ⟨hHead, hTail⟩
          exact ⟨rfl, hHead, hTail⟩
      | cons x front =>
          have hTail := (List.cons.inj hSame).2
          refine absurd hFirst (hBack a ?_)
          rw [← hTail]
          exact List.mem_append_right _ List.mem_cons_self
  | cons x' front' hInduction =>
      cases front with
      | nil =>
          have hHead := (List.cons.inj hSame).1
          refine absurd hFirst (hFront a ?_)
          rw [hHead]
          exact List.mem_cons_self
      | cons x front =>
          rcases List.cons.inj hSame with ⟨hHead, hTail⟩
          rcases hInduction hTail
            (fun y hMember =>
              hFront y (List.mem_cons_of_mem _ hMember)) with
            ⟨hFronts, hRest⟩
          exact ⟨by rw [hHead, hFronts], hRest⟩

theorem not_bans_storing
    {g' u : Int} :
    ∀ e ∈ storing g order now, ¬ e.Bans g' u := by
  simp [storing, Exchange.Bans]

theorem not_undoes_storing :
    ∀ e ∈ storing g order now, ¬ e.Undoes := by
  simp [storing, Exchange.Undoes]

/- A task that has banned a user undoes nothing. -/
theorem HasBanned.not_undoes
    (hBanned : HasBanned c n g order before answer now)
    (hMember : (n, e) ∈ c.log) :
    ¬ e.Undoes := by
  rw [← mem_own_iff, hBanned.exchanges] at hMember
  rcases List.mem_append.mp hMember with hEarly | hLate
  · exact (hBanned.quiet e hEarly).not_undoes
  · rcases List.mem_cons.mp hLate with rfl | hStoring
    · exact id
    · exact not_undoes_storing e hStoring

/- Nothing is undone in a course that is finished. -/
theorem Invariant.not_undoes
    (hInvariant : Invariant w c)
    (hFinished : c.IsFinished)
    (hMember : (n, e) ∈ c.log) :
    ¬ e.Undoes := by
  intro hUndoes
  rcases hInvariant.exists_hasBanned hFinished hMember
    (fun hQuiet => hQuiet.not_undoes hUndoes) with
    ⟨g, order, before, answer, now, hBanned⟩
  exact hBanned.not_undoes hMember hUndoes

/- What a task that has banned a user did besides. -/
theorem HasBanned.cases_of_mem
    (hBanned : HasBanned c n g order before answer now)
    (hMember : (n, e) ∈ c.log) :
    e.IsQuiet ∨
      e =
          .asked
            (.platform
              (.ban g order.userId deletedSeconds
                (some order.reason)))
            (.ok answer) ∨
        e ∈ storing g order now := by
  rw [← mem_own_iff, hBanned.exchanges] at hMember
  rcases List.mem_append.mp hMember with hEarly | hLate
  · exact Or.inl (hBanned.quiet e hEarly)
  · exact Or.inr (List.mem_cons.mp hLate)

/- The user that a task stores is the one that it bans. -/
theorem HasBanned.eq_of_stores
    {g' u : Int}
    (hBanned : HasBanned c n g order before answer now)
    (hMember : (n, e) ∈ c.log)
    (hStores : e.Stores g' u) :
    g' = g ∧ u = order.userId := by
  rcases hBanned.cases_of_mem hMember with
    hQuiet | rfl | hStoring
  · exact absurd hStores hQuiet.not_stores
  · exact hStores.elim
  · simp only [storing, List.mem_cons, List.not_mem_nil,
      or_false] at hStoring
    rcases hStoring with rfl | rfl | rfl | rfl | rfl | rfl
    · exact hStores.elim
    · exact hStores.elim
    · exact hStores.elim
    · exact ⟨hStores.1.symm, hStores.2.symm⟩
    · exact hStores.elim
    · exact hStores.elim

theorem HasBanned.isFor
    {t : Task}
    (hBanned : HasBanned c n g order before answer now)
    (hTask : c.tasks[n]? = some t) :
    t.job.isFor g order.userId = true := by
  rw [hBanned.task] at hTask
  cases hTask
  simp [Job.isFor]

/- After its ban a task stores it, and does nothing else. -/
theorem HasBanned.own_later
    {g' u : Int}
    (hBanned : HasBanned c n g order before answer now)
    (hLog : c.log = newer ++ (n, e) :: older)
    (hBans : e.Bans g' u) :
    own n newer = storing g order now ∧
      g' = g ∧ u = order.userId := by
  have hOwn := hBanned.exchanges
  rw [hLog, own_append, own_cons_self, List.append_assoc,
    List.singleton_append] at hOwn
  rcases split_unique hOwn hBans
    (fun x hMember => (hBanned.quiet x hMember).not_bans)
    not_bans_storing with ⟨_, rfl, hRest⟩
  exact ⟨hRest, hBans.1.symm, hBans.2.symm⟩

/- The exchange by which a ban is stored. -/
def put
    (g : Int)
    (order : BanOrder)
    (now : Rat) : Exchange :=
  .asked (.statement (.putBan (rowAt g order now))) (.ok ())

/- A task stores its ban once. -/
theorem own_after_put
    (hOwn :
      own n (newer ++ (n, put g order now) :: older) =
        storing g order now) :
    ∀ x ∈ own n newer, ¬ x.Stores g order.userId := by
  have hPut :
      storing g order now =
        [.asked .now (.ok now), .asked .reachStore (.ok ()),
          .asked .lockStore (.ok ())] ++
            put g order now ::
              [.asked .commit (.ok ()),
                .asked .unlockStore (.ok ())] :=
    rfl
  rw [own_append, own_cons_self, List.append_assoc,
    List.singleton_append, hPut] at hOwn
  rcases split_unique
    (P := fun x => x.Stores g order.userId) hOwn
    (stores_putBan g order now)
    (by simp [Exchange.Stores]) (by simp [Exchange.Stores])
    with ⟨_, _, hRest⟩
  rw [hRest]
  simp [Exchange.Stores]

/-
  When the ban of a task was the last one, its row is the last
  one that is stored for the user.
-/
theorem Invariant.not_stores_later
    {between : List (Nat × Exchange)}
    (hInvariant : Invariant w c)
    (hFinished : c.IsFinished)
    (hBanned : HasBanned c n g order before answer now)
    (hLog :
      c.log =
        newer ++ (n, put g order now) ::
          (between ++ (n, e) :: older))
    (hOwn :
      own n (newer ++ (n, put g order now) :: between) =
        storing g order now)
    (hLast : ∀ x ∈ newer, ¬ x.2.Bans g order.userId) :
    ∀ x ∈ newer, ¬ x.2.Stores g order.userId := by
  rintro ⟨m, stored⟩ hMember hStores
  have hThere : (m, stored) ∈ c.log := by
    rw [hLog]
    exact List.mem_append_left _ hMember
  rcases hInvariant.exists_hasBanned hFinished hThere
    (fun hQuiet => hQuiet.not_stores hStores) with
    ⟨g', order', before', answer', now', hOther⟩
  rcases hOther.eq_of_stores hThere hStores with ⟨rfl, hUser⟩
  rcases Nat.lt_trichotomy m n with hLess | rfl | hGreater
  · -- An earlier ban was stored before this one was called.
    have hBefore :=
      (hInvariant.separate m n _ _ g order.userId hLess
        hOther.task hBanned.task
        (hUser ▸ hOther.isFor hOther.task)
        (hBanned.isFor hBanned.task)).2
    rcases List.append_of_mem hMember with
      ⟨latest, rest, rfl⟩
    refine hBefore latest stored
      (rest ++ (n, put g order now) ::
        (between ++ (n, e) :: older))
      (by rw [hLog, List.append_assoc, List.cons_append])
      (n, put g order now) ?_ rfl
    exact List.mem_append_right _ List.mem_cons_self
  · exact own_after_put hOwn stored
      (mem_own_iff.mpr hMember) hStores
  · -- A later ban would be the last one.
    have hBefore :=
      (hInvariant.separate n m _ _ g order.userId hGreater
        hBanned.task hOther.task
        (hBanned.isFor hBanned.task)
        (hUser ▸ hOther.isFor hOther.task)).2
    have hBan :
        (m,
          Exchange.asked
            (.platform
              (.ban g order'.userId deletedSeconds
                (some order'.reason)))
            (.ok answer')) ∈ c.log := by
      rw [← mem_own_iff, hOther.exchanges]
      exact List.mem_append_right _ List.mem_cons_self
    rw [hLog] at hBan
    rcases List.mem_append.mp hBan with hNewer | hRest
    · exact hLast _ hNewer ⟨rfl, hUser.symm⟩
    · rcases List.mem_cons.mp hRest with hSame | hOlder
      · have hNumber : m = n := congrArg Prod.fst hSame
        omega
      · exact hBefore newer (put g order now) _ hLog _ hOlder
          rfl

------------------------------------------------------------
-- The Rows in the End
------------------------------------------------------------

variable {initial final : Store.Connection}
variable {row : Store.BanRow}

/- A row stays while its user is not forgotten. -/
theorem mem_bans_of_replays
    (hReplays : Replays initial log final)
    (hMember : row ∈ initial.current.bans)
    (hLog :
      ∀ x ∈ log,
        x.2.IsServed ∧ ¬ x.2.Undoes ∧
          ¬ x.2.Drops row.guildId row.userId ∧
            ¬ x.2.Stores row.guildId row.userId) :
    row ∈ final.current.bans := by
  induction hReplays with
  | nil => exact hMember
  | cons x _ hMoves hInduction =>
      rcases hLog x List.mem_cons_self with
        ⟨hServed, hUndone, hDropped, hStored⟩
      exact Exchange.mem_bans_of_moves
        (hInduction fun y hThere =>
          hLog y (List.mem_cons_of_mem _ hThere))
        hMoves hServed hUndone hDropped hStored

/- A user who was forgotten is not stored by others. -/
theorem absent_of_replays
    (hReplays : Replays initial log final)
    (hDropped : ∃ x ∈ log, x.2.Drops g u)
    (hLog :
      ∀ x ∈ log,
        x.2.IsServed ∧ ¬ x.2.Undoes ∧ ¬ x.2.Stores g u) :
    ∀ row ∈ final.current.bans,
      ¬ (row.guildId = g ∧ row.userId = u) := by
  induction hReplays with
  | nil =>
      rcases hDropped with ⟨_, hNone, _⟩
      cases hNone
  | cons x _ hMoves hInduction =>
      rcases hLog x List.mem_cons_self with
        ⟨hServed, hUndone, hStored⟩
      rcases hDropped with ⟨y, hMember, hDrops⟩
      rcases List.mem_cons.mp hMember with rfl | hOlder
      · exact Exchange.absent_of_drops hDrops hMoves hServed
      · exact Exchange.absent_of_moves
          (hInduction ⟨y, hOlder, hDrops⟩ fun z hThere =>
            hLog z (List.mem_cons_of_mem _ hThere))
          hMoves hServed hUndone hStored

/-
  When all is done and the last thing that happened to a user
  on the platform is a ban, the ban was stored. Its row is
  there if and only if the user was not forgotten after that.
-/
theorem holds_row_iff
    (hReaches : Reaches w c)
    (hFinished : c.IsFinished)
    (hEnds : c.EndsBanned g u n) :
    ∃ order unbanAt newer older,
      order.userId = u ∧
      c.tasks[n]? =
        some ⟨.impose g order, .done (some unbanAt)⟩ ∧
      c.log =
        newer ++
          (n, .asked
            (.statement
              (.putBan ⟨g, u, unbanAt, order.reason⟩))
            (.ok ())) :: older ∧
      ((∃ row ∈ c.shared.store.current.bans,
          row.guildId = g ∧ row.userId = u ∧
            row.unbanAt = unbanAt) ↔
        ∀ x ∈ newer, ¬ x.2.Drops g u) := by
  have hInvariant := invariant_of_reaches hReaches
  rcases hEnds with
    ⟨later, e, earlier, hLog, hBans, hLast⟩
  have hThere : (n, e) ∈ c.log := by
    rw [hLog]
    exact List.mem_append_right _ List.mem_cons_self
  rcases hInvariant.exists_hasBanned hFinished hThere
    (fun hQuiet => hQuiet.not_bans hBans) with
    ⟨g', order, before, answer, now, hBanned⟩
  rcases hBanned.own_later hLog hBans with
    ⟨hOwn, rfl, rfl⟩
  -- The ban was stored after it took effect.
  have hStored : (n, put g order now) ∈ later := by
    rw [← mem_own_iff, hOwn]
    simp [storing, put]
  rcases List.append_of_mem hStored with
    ⟨newer, between, rfl⟩
  have hSplit :
      c.log =
        newer ++ (n, put g order now) ::
          (between ++ (n, e) :: earlier) := by
    rw [hLog, List.append_assoc, List.cons_append]
  have hNewer (x : Nat × Exchange)
      (hMember : x ∈ newer) :
      x.2.IsServed ∧ ¬ x.2.Undoes ∧
        ¬ x.2.Stores g order.userId := by
    have hLogged : x ∈ c.log := by
      rw [hSplit]
      exact List.mem_append_left _ hMember
    exact ⟨hInvariant.served x hLogged,
      hInvariant.not_undoes hFinished hLogged,
      hInvariant.not_stores_later hFinished hBanned hSplit
        hOwn
        (fun y hThere =>
          (hLast y (List.mem_append_left _ hThere)).1)
        x hMember⟩
  have hReplayed := hInvariant.replayed
  rw [hSplit] at hReplayed
  rcases replays_append hReplayed with
    ⟨middle, hPut, hRest⟩
  have hMiddle : rowAt g order now ∈ middle.current.bans := by
    cases hPut with
    | cons _ _ hMoves =>
        rw [Store.Connection.bans_of_run hMoves]
        exact Store.mem_putRow
  refine ⟨order, (rowAt g order now).unbanAt, newer, _, rfl,
    hBanned.task, hSplit, ?_⟩
  constructor
  · rintro ⟨row, hMember, hGuild, hUser, _⟩ x hThere hDrops
    exact absent_of_replays hRest ⟨x, hThere, hDrops⟩ hNewer
      row hMember ⟨hGuild, hUser⟩
  · intro hKept
    refine ⟨rowAt g order now, ?_, rfl, rfl, rfl⟩
    refine mem_bans_of_replays hRest hMiddle ?_
    intro x hMember
    rcases hNewer x hMember with
      ⟨hServed, hUndone, hNotStored⟩
    exact ⟨hServed, hUndone, hKept x hMember, hNotStored⟩

------------------------------------------------------------
-- A Ban That Is Lost
------------------------------------------------------------

/- Make choices one after another. -/
def play
    (c : Course) : List Choice → Option Course
  | [] => some c
  | choice :: rest => (c.next choice).bind fun d => d.play rest

theorem reaches_of_play
    {choices : List Choice}
    (hReaches : Reaches w c)
    (hPlay : c.play choices = some d) :
    Reaches w d := by
  induction choices generalizing c with
  | nil =>
      cases hPlay
      exact hReaches
  | cons choice rest hInduction =>
      rcases Option.bind_eq_some_iff.mp hPlay with
        ⟨b, hNext, hRest⟩
      exact hInduction (.next choice hReaches hNext) hRest

/- A ban of user 4 of guild 100 is over. -/
def lapsed : Shared where
  clock := 20
  memory := Memory.empty
  store :=
    .ofTables
      { Store.Tables.blank with
        bans := [⟨100, 4, 10, "first"⟩]
        created := [.bans] }
  isLocked := false

/-
  The user is banned again while the platform has not answered
  yet that the first ban is lifted.
-/
def again : List Choice :=
  List.replicate 4 (.turn 0 (.ok .null)) ++
    .call 100 ⟨4, 2, "second"⟩ ::
      .turn 1 (.error (.refused 403)) ::
        List.replicate 7 (.turn 1 (.ok .null)) ++
          List.replicate 5 (.turn 0 (.ok .null))

def raced : Course :=
  ((start lapsed).play again).getD (start lapsed)

theorem reaches_raced : Reaches lapsed raced := by
  have hPlay : (start lapsed).play again = some raced := rfl
  exact reaches_of_play .start hPlay

theorem isFinished_raced : raced.IsFinished := by
  have hAll :
      raced.tasks.all (·.left.hasEnded) = true := rfl
  intro t hMember
  exact List.all_eq_true.mp hAll t hMember

theorem endsBanned_raced : raced.EndsBanned 100 4 1 := by
  have hLater :
      raced.log.take 11 =
        [(0, .asked .unlockStore (.ok ())),
          (0, .asked .commit (.ok ())),
          (0, .asked (.statement (.dropBan 100 4)) (.ok true)),
          (0, .asked .lockStore (.ok ())),
          (0, .asked .reachStore (.ok ())),
          (1, .asked .unlockStore (.ok ())),
          (1, .asked .commit (.ok ())),
          (1, put 100 ⟨4, 2, "second"⟩ 20),
          (1, .asked .lockStore (.ok ())),
          (1, .asked .reachStore (.ok ())),
          (1, .asked .now (.ok (20 : Rat)))] :=
    rfl
  refine ⟨raced.log.take 11, _, raced.log.drop 12, rfl,
    ⟨rfl, rfl⟩, ?_⟩
  rw [hLater]
  simp [Exchange.Bans, Exchange.Unbans, put]

/- In the end nobody will lift the second ban. -/
theorem raced_loses_row :
    Reaches lapsed raced ∧ raced.IsFinished ∧
      raced.EndsBanned 100 4 1 ∧
        (¬ ∃ row ∈ raced.shared.store.current.bans,
          row.guildId = 100 ∧ row.userId = 4) ∧
        ∃ (order : BanOrder) (unbanAt : Int)
          (newer older : List (Nat × Exchange)),
          order.userId = 4 ∧
          raced.tasks[1]? =
            some ⟨.impose 100 order, .done (some unbanAt)⟩ ∧
          raced.log =
            newer ++
              (1, .asked
                (.statement
                  (.putBan ⟨100, 4, unbanAt, order.reason⟩))
                (.ok ())) :: older ∧
          ((∃ row ∈ raced.shared.store.current.bans,
              row.guildId = 100 ∧ row.userId = 4 ∧
                row.unbanAt = unbanAt) ↔
            ∀ x ∈ newer, ¬ x.2.Drops 100 4) := by
  have hBans : raced.shared.store.current.bans = [] := rfl
  refine ⟨reaches_raced, isFinished_raced, endsBanned_raced,
    ?_, holds_row_iff reaches_raced isFinished_raced
      endsBanned_raced⟩
  rw [hBans]
  simp

end Course

end GuildWarden.Ban
