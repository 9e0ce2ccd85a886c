import GuildWarden.Proofs.Dispatch.Turns
import Mathlib.Logic.Relation

/-
  This file follows a pool through any course of submissions,
  turns, ends and drains, and records what becomes of each
  body. Bodies are numbered in the order of the calls that
  submit them, whether they are accepted or not.

  Key definitions include:
    * `Pool.Mark`
    * `Pool.Course`
    * `Pool.Course.Step`
    * `Pool.Course.IsOrderly`

  Main statements:
    * `Pool.Course.Invariant.step`
    * `Pool.Course.isOrderly_of_reaches`
-/

namespace GuildWarden.Pool

variable {κ : Type}

------------------------------------------------------------
-- Marks
------------------------------------------------------------

/- What becomes of a body. -/
inductive Mark (κ : Type) where
  | accepted (body : Nat) (key : Option κ)
  | rejected (body : Nat)
  | started (body : Nat)
  | ended (body : Nat)
  | withdrawn (body : Nat)
deriving DecidableEq

/- The body that a mark starts, ends or withdraws. -/
def Mark.moved? : Mark κ → Option Nat
  | .started b => some b
  | .ended b => some b
  | .withdrawn b => some b
  | _ => none

variable {history : List (Mark κ)}
variable {mark : Mark κ}
variable {b : Nat}

/-
  A body of a key has ended before a later one of the key
  starts.
-/
def IsOrdered
    (history : List (Mark κ)) : Prop :=
  ∀ later past i j k,
    history = later ++ .started j :: past →
      .accepted i (some k) ∈ history →
        .accepted j (some k) ∈ history →
          i < j → .ended i ∈ past

/- No body starts, and a new one has no place in the order yet. -/
theorem IsOrdered.cons
    (hOrdered : IsOrdered history)
    (hNoStart : ∀ j, mark ≠ .started j)
    (hNew :
      ∀ b key, mark = .accepted b key →
        ∀ j, .started j ∈ history → j < b) :
    IsOrdered (mark :: history) := by
  intro later past i j k hSplit hFirst hSecond hBefore
  cases later with
  | nil =>
      exact absurd (List.cons.inj hSplit).1 (hNoStart j)
  | cons newest later =>
      have hRest := (List.cons.inj hSplit).2
      have hStarted : .started j ∈ history := by
        rw [hRest]
        simp
      rcases List.mem_cons.mp hFirst with hIsNew | hFirstOld
      · have hLess := hNew i _ hIsNew.symm j hStarted
        omega
      · rcases List.mem_cons.mp hSecond with hIsNew | hOld
        · have hLess := hNew j _ hIsNew.symm j hStarted
          omega
        · exact hOrdered later past i j k hRest hFirstOld hOld
            hBefore

/- A body starts, and those before it have ended. -/
theorem IsOrdered.start
    (hOrdered : IsOrdered history)
    (hEnded :
      ∀ i k, .accepted i (some k) ∈ history →
        .accepted b (some k) ∈ history → i < b →
          .ended i ∈ history) :
    IsOrdered (.started b :: history) := by
  intro later past i j k hSplit hFirst hSecond hBefore
  have hFirstOld : .accepted i (some k) ∈ history := by
    simpa using hFirst
  have hSecondOld : .accepted j (some k) ∈ history := by
    simpa using hSecond
  cases later with
  | nil =>
      rcases List.cons.inj hSplit with ⟨hSame, hPast⟩
      cases hSame
      rw [← hPast]
      exact hEnded i k hFirstOld hSecondOld hBefore
  | cons newest later =>
      exact hOrdered later past i j k
        (List.cons.inj hSplit).2 hFirstOld hSecondOld hBefore

------------------------------------------------------------
-- Courses
------------------------------------------------------------

/-
  The course of a pool: the bodies of its jobs in the order of
  their numbers, the calls that submitted a body so far, the
  jobs that each drain found, and what has become of the
  bodies, the latest first.
-/
structure Course (κ : Type) where
  pool : Pool κ
  bodies : List Nat
  calls : Nat
  drains : List (List Nat)
  history : List (Mark κ)

namespace Course

variable {c d : Course κ}
variable {p q : Pool κ}
variable {id slots : Nat}

/- An unused pool. -/
def start
    (n : Int) : Course κ where
  pool := ofSlots n
  bodies := []
  calls := 0
  drains := []
  history := []

/- Note what becomes of the body of a job. -/
def note
    (c : Course κ)
    (id : Nat)
    (mark : Nat → Mark κ) : Course κ :=
  match c.bodies[id]? with
  | some body => { c with history := mark body :: c.history }
  | none => c

/- A job has the body of its number. -/
theorem note_of_lt
    {n : Nat}
    (hBodies : c.bodies = List.range n)
    (hLess : id < n)
    (mark : Nat → Mark κ) :
    c.note id mark =
      { c with history := mark id :: c.history } := by
  simp [note, hBodies, hLess]

/- A note changes nothing but the history. -/
theorem frame_note
    (c : Course κ)
    (id : Nat)
    (mark : Nat → Mark κ) :
    (c.note id mark).pool = c.pool ∧
      (c.note id mark).calls = c.calls ∧
        (c.note id mark).drains = c.drains := by
  unfold note
  split <;> exact ⟨rfl, rfl, rfl⟩

/- A job has a turn; its body starts if the job runs then. -/
def turn
    (c : Course κ)
    (id : Nat) : Course κ :=
  let next := { c with pool := c.pool.step id }
  if c.pool.isRunning? id = some false ∧
      next.pool.isRunning? id = some true then
    next.note id .started
  else next

/- The body of a job ends, in whatever way. -/
def finish
    (c : Course κ)
    (id : Nat) : Course κ :=
  { c with pool := c.pool.finish id }.note id .ended

/-
  A job is cancelled. A body that has started ends when it
  pleases; a body that has not started never does.
-/
def cancel
    (c : Course κ)
    (id : Nat) : Course κ :=
  let next := { c with pool := c.pool.cancel id }
  if c.pool.isRunning? id = some false then
    next.note id .withdrawn
  else next

theorem frame_cancel
    (c : Course κ)
    (id : Nat) :
    (c.cancel id).pool = c.pool.cancel id ∧
      (c.cancel id).calls = c.calls ∧
        (c.cancel id).drains = c.drains := by
  unfold Course.cancel
  simp only
  split
  · exact frame_note { c with pool := c.pool.cancel id } id _
  · exact ⟨rfl, rfl, rfl⟩

theorem frame_foldl_cancel
    (ids : List Nat)
    (c : Course κ) :
    (ids.foldl cancel c).pool =
        ids.foldl Pool.cancel c.pool ∧
      (ids.foldl cancel c).calls = c.calls ∧
        (ids.foldl cancel c).drains = c.drains := by
  induction ids generalizing c with
  | nil => exact ⟨rfl, rfl, rfl⟩
  | cons id rest hInduction =>
      rcases frame_cancel c id with ⟨hPool, hCalls, hDrains⟩
      rcases hInduction (c.cancel id) with
        ⟨hPools, hAllCalls, hAllDrains⟩
      rw [hPool] at hPools
      exact ⟨hPools, hAllCalls.trans hCalls,
        hAllDrains.trans hDrains⟩

/- A drain closes the pool and looks for the jobs in it. -/
def drain
    (c : Course κ) : Course κ :=
  { c with
    pool := c.pool.close
    drains := c.pool.jobs.map (·.id) :: c.drains }

variable [DecidableEq κ]

/- The next body is submitted. -/
def submit
    (c : Course κ)
    (key : Option κ) : Course κ :=
  match c.pool.submit key with
  | (some _, pool) =>
    { c with
      pool
      bodies := c.bodies ++ [c.calls]
      calls := c.calls + 1
      history := .accepted c.calls key :: c.history }
  | (none, pool) =>
    { c with
      pool
      calls := c.calls + 1
      history := .rejected c.calls :: c.history }

/-
  Anything may happen at any time: a drain that has waited long
  enough cancels the jobs that it found in some order.
-/
inductive Step : Course κ → Course κ → Prop where
  | submitted
      (c : Course κ)
      (key : Option κ) :
      Step c (c.submit key)
  | turned
      (c : Course κ)
      (id : Nat) :
      Step c (c.turn id)
  | ended
      (c : Course κ)
      (id : Nat)
      (hRunning : c.pool.phase? id = some .running) :
      Step c (c.finish id)
  | drained
      (c : Course κ) :
      Step c c.drain
  | cancelled
      (c : Course κ)
      (found order : List Nat)
      (hFound : found ∈ c.drains)
      (hOrder : order.Perm found) :
      Step c (order.foldl cancel c)

/- What an unused pool may come to. -/
def Reaches
    (n : Int)
    (c : Course κ) : Prop :=
  Relation.ReflTransGen Step (start n) c

/- The bodies that are running. -/
def running
    (c : Course κ) : List Nat :=
  c.pool.running.filterMap (c.bodies[·]?)

/- What is promised of a pool with a number of slots. -/
structure IsOrderly
    (slots : Nat)
    (c : Course κ) : Prop where
  bounded : c.running.length ≤ slots
  running_iff :
    ∀ b, b ∈ c.running ↔
      .started b ∈ c.history ∧ .ended b ∉ c.history
  ordered : IsOrdered c.history
  startedOnce : ∀ b, c.history.count (.started b) ≤ 1
  completed :
    c.pool.jobs = [] → ∀ b key,
      .accepted b key ∈ c.history →
        .withdrawn b ∉ c.history →
          c.history.count (.started b) = 1
  rejected :
    ∀ b, .rejected b ∈ c.history → .started b ∉ c.history

------------------------------------------------------------
-- Standing of a Body
------------------------------------------------------------

/- What is noted of a body that waits, runs or is gone. -/
def Stands
    (history : List (Mark κ))
    (b : Nat) : Option Bool → Prop
  | some false =>
    history.count (.started b) = 0 ∧
      .ended b ∉ history ∧ .withdrawn b ∉ history
  | some true =>
    history.count (.started b) = 1 ∧
      .ended b ∉ history ∧ .withdrawn b ∉ history
  | none =>
    history.count (.started b) = 1 ∧
        .ended b ∈ history ∧ .withdrawn b ∉ history ∨
      history.count (.started b) = 0 ∧
        .ended b ∉ history ∧ .withdrawn b ∈ history

/- What becomes of one body says nothing of another. -/
theorem stands_cons_iff
    (hOther : mark.moved? ≠ some b)
    (status : Option Bool) :
    Stands (mark :: history) b status ↔
      Stands history b status := by
  have hStarted : mark ≠ .started b := by
    rintro rfl
    exact hOther rfl
  have hEnded : .ended b ≠ mark := by
    rintro rfl
    exact hOther rfl
  have hWithdrawn : .withdrawn b ≠ mark := by
    rintro rfl
    exact hOther rfl
  have hCount :
      (mark :: history).count (.started b) =
        history.count (.started b) :=
    List.count_cons_of_ne hStarted
  have hMarks :
      (.ended b ∈ mark :: history ↔ .ended b ∈ history) ∧
        (.withdrawn b ∈ mark :: history ↔
          .withdrawn b ∈ history) := by
    simp [hEnded, hWithdrawn]
  cases status with
  | none =>
      simp only [Stands, hCount, hMarks.1, hMarks.2]
  | some runs =>
      cases runs <;>
        simp only [Stands, hCount, hMarks.1, hMarks.2]

theorem Stands.started
    (hStands : Stands history b (some false)) :
    Stands (.started b :: history) b (some true) := by
  rcases hStands with ⟨hCount, hEnded, hWithdrawn⟩
  refine ⟨?_, by simpa using hEnded, by simpa using hWithdrawn⟩
  rw [List.count_cons_self, hCount]

theorem Stands.ended
    (hStands : Stands history b (some true)) :
    Stands (.ended b :: history) b none := by
  rcases hStands with ⟨hCount, _, hWithdrawn⟩
  refine Or.inl ⟨?_, by simp, by simpa using hWithdrawn⟩
  rw [List.count_cons_of_ne (by simp), hCount]

theorem Stands.withdrawn
    (hStands : Stands history b (some false)) :
    Stands (.withdrawn b :: history) b none := by
  rcases hStands with ⟨hCount, hEnded, _⟩
  refine Or.inr ⟨?_, by simpa using hEnded, by simp⟩
  rw [List.count_cons_of_ne (by simp), hCount]

/- A body starts at most once, whatever its standing. -/
theorem Stands.count_le
    {status : Option Bool}
    (hStands : Stands history b status) :
    history.count (.started b) ≤ 1 := by
  match status, hStands with
  | some false, hStands => exact Nat.le_of_lt (by
      rw [hStands.1]
      exact Nat.one_pos)
  | some true, hStands => exact Nat.le_of_eq hStands.1
  | none, .inl hEnded => exact Nat.le_of_eq hEnded.1
  | none, .inr hWithdrawn => exact Nat.le_of_lt (by
      rw [hWithdrawn.1]
      exact Nat.one_pos)

/- A body runs if it has started and not ended. -/
theorem Stands.running_iff
    {status : Option Bool}
    (hStands : Stands history b status) :
    status = some true ↔
      .started b ∈ history ∧ .ended b ∉ history := by
  rw [← List.count_pos_iff]
  match status, hStands with
  | some false, hStands => simp [hStands.1]
  | some true, hStands => simp [hStands.1, hStands.2.1]
  | none, .inl hEnded => simp [hEnded.2.1]
  | none, .inr hWithdrawn => simp [hWithdrawn.1]

------------------------------------------------------------
-- The Ledger
------------------------------------------------------------

/- What the history of a pool says fits its jobs. -/
structure Ledger
    (p : Pool κ)
    (history : List (Mark κ)) : Prop where
  accepted :
    ∀ b key, .accepted b key ∈ history → b < p.nextId
  rejected :
    ∀ b, .rejected b ∈ history →
      p.nextId ≤ b ∧ p.accepting = false
  listed :
    ∀ j ∈ p.jobs, .accepted j.id j.key ∈ history
  unique :
    ∀ b k k', .accepted b k ∈ history →
      .accepted b k' ∈ history → k = k'
  standing :
    ∀ b < p.nextId, Stands history b (p.isRunning? b)
  unknown :
    ∀ b, p.nextId ≤ b → Stands history b (some false)

/- Nothing that is noted has changed. -/
theorem Ledger.of_same
    (hLedger : Ledger p history)
    (hLabels : q.labels.Sublist p.labels)
    (hIntake : q.intake = p.intake)
    (hSame : ∀ b, q.isRunning? b = p.isRunning? b) :
    Ledger q history := by
  have hNext : q.nextId = p.nextId :=
    congrArg Prod.fst hIntake
  have hAccepting : q.accepting = p.accepting :=
    congrArg Prod.snd hIntake
  refine ⟨?_, ?_, ?_, hLedger.unique, ?_, ?_⟩
  · rw [hNext]
    exact hLedger.accepted
  · rw [hNext, hAccepting]
    exact hLedger.rejected
  · intro j hMember
    rcases exists_job_of_labels hLabels hMember with
      ⟨i, hi, hId, hKey⟩
    rw [← hId, ← hKey]
    exact hLedger.listed i hi
  · intro b hLess
    rw [hSame]
    exact hLedger.standing b (hNext ▸ hLess)
  · rw [hNext]
    exact hLedger.unknown

/- One body moves on and that is noted. -/
theorem Ledger.moved
    (hLedger : Ledger p history)
    (hMoved : mark.moved? = some id)
    (hLess : id < p.nextId)
    (hLabels : q.labels.Sublist p.labels)
    (hIntake : q.intake = p.intake)
    (hOthers :
      ∀ b, b ≠ id → q.isRunning? b = p.isRunning? b)
    (hStands :
      Stands (mark :: history) id (q.isRunning? id)) :
    Ledger q (mark :: history) := by
  have hNext : q.nextId = p.nextId :=
    congrArg Prod.fst hIntake
  have hAccepting : q.accepting = p.accepting :=
    congrArg Prod.snd hIntake
  have hAccepted (b : Nat) (key : Option κ) :
      .accepted b key ∈ mark :: history ↔
        .accepted b key ∈ history := by
    rw [List.mem_cons, or_iff_right]
    rintro rfl
    cases hMoved
  have hRejected (b : Nat) :
      .rejected b ∈ mark :: history ↔
        .rejected b ∈ history := by
    rw [List.mem_cons, or_iff_right]
    rintro rfl
    cases hMoved
  have hApart (b : Nat) (hDistinct : b ≠ id) :
      mark.moved? ≠ some b := by
    rw [hMoved]
    exact fun hSame => hDistinct (Option.some.inj hSame).symm
  refine ⟨?_, ?_, ?_, ?_, ?_, ?_⟩
  · intro b key hMember
    rw [hNext]
    exact hLedger.accepted b key ((hAccepted b key).mp hMember)
  · intro b hMember
    rw [hNext, hAccepting]
    exact hLedger.rejected b ((hRejected b).mp hMember)
  · intro j hMember
    rcases exists_job_of_labels hLabels hMember with
      ⟨i, hi, hId, hKey⟩
    rw [← hId, ← hKey]
    exact List.mem_cons_of_mem _ (hLedger.listed i hi)
  · intro b k k' hFirst hSecond
    exact hLedger.unique b k k' ((hAccepted b k).mp hFirst)
      ((hAccepted b k').mp hSecond)
  · intro b hKnown
    by_cases hSame : b = id
    · rw [hSame]
      exact hStands
    · rw [stands_cons_iff (hApart b hSame), hOthers b hSame]
      exact hLedger.standing b (hNext ▸ hKnown)
  · intro b hUnknown
    rw [hNext] at hUnknown
    have hDistinct : b ≠ id := by omega
    rw [stands_cons_iff (hApart b hDistinct)]
    exact hLedger.unknown b hUnknown

/- A body is accepted. -/
theorem Ledger.accept
    (hLedger : Ledger p history)
    (hSound : IsSound slots p)
    (hAccepting : p.accepting = true)
    (key : Option κ) :
    Ledger (p.submit key).2
      (.accepted p.nextId key :: history) := by
  have hIsNext : (p.submit key).2.nextId = p.nextId + 1 := by
    simp [Pool.submit, hAccepting]
  have hOld (b : Nat) (k : Option κ)
      (hMember :
        .accepted b k ∈ .accepted p.nextId key :: history) :
      b = p.nextId ∧ k = key ∨ .accepted b k ∈ history := by
    simpa using hMember
  refine ⟨?_, ?_, ?_, ?_, ?_, ?_⟩
  · intro b k hMember
    rw [hIsNext]
    rcases hOld b k hMember with hNew | hThere
    · omega
    · exact Nat.lt_succ_of_lt (hLedger.accepted b k hThere)
  · intro b hMember
    have hThere : .rejected b ∈ history := by
      simpa using hMember
    have hClosed := (hLedger.rejected b hThere).2
    rw [hAccepting] at hClosed
    cases hClosed
  · intro j hMember
    simp only [Pool.submit, hAccepting, if_true,
      List.mem_append, List.mem_singleton] at hMember
    rcases hMember with hThere | hNew
    · exact List.mem_cons_of_mem _ (hLedger.listed j hThere)
    · rw [hNew]
      exact List.mem_cons_self
  · intro b k k' hFirst hSecond
    rcases hOld b k hFirst with hNew | hThere
    · rcases hOld b k' hSecond with hNew' | hThere'
      · rw [hNew.2, hNew'.2]
      · have hLess := hLedger.accepted b k' hThere'
        omega
    · rcases hOld b k' hSecond with hNew' | hThere'
      · have hLess := hLedger.accepted b k hThere
        omega
      · exact hLedger.unique b k k' hThere hThere'
  · intro b hKnown
    rw [isRunning?_submit hSound hAccepting,
      stands_cons_iff (by simp [Mark.moved?])]
    split
    · rename_i hSame
      exact hLedger.unknown b (Nat.le_of_eq hSame.symm)
    · rename_i hDistinct
      exact hLedger.standing b (by omega)
  · intro b hUnknown
    rw [stands_cons_iff (by simp [Mark.moved?])]
    exact hLedger.unknown b (by omega)

/- A body is rejected, and nothing else happens. -/
theorem Ledger.reject
    (hLedger : Ledger p history)
    (hClosed : p.accepting = false)
    (hLess : p.nextId ≤ b) :
    Ledger p (.rejected b :: history) := by
  refine ⟨?_, ?_, ?_, ?_, ?_, ?_⟩
  · intro b' key hMember
    exact hLedger.accepted b' key (by simpa using hMember)
  · intro b' hMember
    rcases List.mem_cons.mp hMember with hNew | hThere
    · cases hNew
      exact ⟨hLess, hClosed⟩
    · exact hLedger.rejected b' hThere
  · intro j hMember
    exact List.mem_cons_of_mem _ (hLedger.listed j hMember)
  · intro b' k k' hFirst hSecond
    exact hLedger.unique b' k k' (by simpa using hFirst)
      (by simpa using hSecond)
  · intro b' hKnown
    rw [stands_cons_iff (by simp [Mark.moved?])]
    exact hLedger.standing b' hKnown
  · intro b' hUnknown
    rw [stands_cons_iff (by simp [Mark.moved?])]
    exact hLedger.unknown b' hUnknown

------------------------------------------------------------
-- The Invariant
------------------------------------------------------------

/- The books of a course are in order. -/
structure Kept
    (slots : Nat)
    (c : Course κ) : Prop where
  sound : IsSound slots c.pool
  bodies : c.bodies = List.range c.pool.nextId
  ledger : Ledger c.pool c.history
  ordered : IsOrdered c.history

/-
  What holds at every moment. The bodies that are accepted are
  the first ones, since a pool that is closed stays closed;
  and once a body is withdrawn no job waits any more.
-/
structure Invariant
    (slots : Nat)
    (c : Course κ) : Prop
    extends Kept slots c where
  inTurn : InTurn c.pool
  calls_ge : c.pool.nextId ≤ c.calls
  calls_eq :
    c.pool.accepting = true → c.calls = c.pool.nextId
  drained :
    ∀ found ∈ c.drains,
      c.pool.accepting = false ∧
        ∀ j ∈ c.pool.jobs, j.id ∈ found
  settled :
    ∀ b, .withdrawn b ∈ c.history →
      c.pool.accepting = false ∧
        ∀ id, c.pool.isRunning? id ≠ some false

/- A job that has not ended has a number that was given out. -/
theorem Kept.lt_nextId
    {status : Bool}
    (hKept : Kept slots c)
    (hLive : c.pool.isRunning? id = some status) :
    id < c.pool.nextId := by
  rcases Option.map_eq_some_iff.mp hLive with
    ⟨_, hPhase, _⟩
  rcases exists_job_of_phase? hPhase with
    ⟨j, hMember, hId, _⟩
  rw [← hId]
  exact hKept.sound.numbered j hMember

/- Nothing is withdrawn while a job waits. -/
theorem Invariant.withdrawn_not_mem
    (hInvariant : Invariant slots c)
    (hWaits : c.pool.isRunning? id = some false) :
    .withdrawn b ∉ c.history :=
  fun hMember =>
    (hInvariant.settled b hMember).2 id hWaits

/- An unused pool. -/
theorem invariant_start
    (n : Int) :
    Invariant (max 1 n).toNat (start n : Course κ) where
  sound := isSound_ofSlots n
  inTurn := by
    intro i hMember
    cases hMember
  bodies := rfl
  calls_ge := Nat.le_refl _
  calls_eq := fun _ => rfl
  drained := by simp [start]
  ledger := by
    constructor <;> simp [start, ofSlots, Stands]
  settled := by simp [start]
  ordered := by
    intro later past i j k hSplit
    simp [start] at hSplit

/- The jobs of a course move on, and no body is submitted. -/
theorem Invariant.of_kept
    (hInvariant : Invariant slots c)
    (hKept : Kept slots d)
    (hTurn : InTurn d.pool)
    (hIntake : d.pool.intake = c.pool.intake)
    (hLabels : d.pool.labels.Sublist c.pool.labels)
    (hCalls : d.calls = c.calls)
    (hDrains : d.drains = c.drains)
    (hSettled :
      ∀ b, .withdrawn b ∈ d.history →
        c.pool.accepting = false ∧
          ∀ id, d.pool.isRunning? id ≠ some false) :
    Invariant slots d := by
  have hNext : d.pool.nextId = c.pool.nextId :=
    congrArg Prod.fst hIntake
  have hAccepting : d.pool.accepting = c.pool.accepting :=
    congrArg Prod.snd hIntake
  refine ⟨hKept, hTurn, ?_, ?_, ?_, ?_⟩
  · rw [hNext, hCalls]
    exact hInvariant.calls_ge
  · rw [hNext, hCalls, hAccepting]
    exact hInvariant.calls_eq
  · rw [hDrains, hAccepting]
    intro found hFound
    rcases hInvariant.drained found hFound with
      ⟨hClosed, hAll⟩
    refine ⟨hClosed, ?_⟩
    intro j hMember
    rcases exists_job_of_labels hLabels hMember with
      ⟨i, hi, hId, _⟩
    rw [← hId]
    exact hAll i hi
  · rw [hAccepting]
    exact hSettled

------------------------------------------------------------
-- Turns
------------------------------------------------------------

/- A job that starts has none of its key before it. -/
theorem Invariant.ended_of_starts
    {i : Nat}
    {k : κ}
    (hInvariant : Invariant slots c)
    (hWaits : c.pool.isRunning? id = some false)
    (hRuns : (c.pool.step id).isRunning? id = some true)
    (hFirst : .accepted i (some k) ∈ c.history)
    (hSecond : .accepted id (some k) ∈ c.history)
    (hBefore : i < id) :
    .ended i ∈ c.history := by
  have hSorted :
      (c.pool.step id).jobs.Pairwise
        fun a b => a.id < b.id :=
    (hInvariant.sound.step id).sorted
  have hSame := labels_step c.pool id
  have hKeyed (j : Job κ)
      (hMember : j ∈ (c.pool.step id).jobs)
      (hAccepted :
        .accepted j.id (some k) ∈ c.history) :
      j.key = some k := by
    have hLabels :
        (c.pool.step id).labels.Sublist c.pool.labels := by
      rw [hSame]
    rcases exists_job_of_labels hLabels hMember with
      ⟨x, hx, hId, hKey⟩
    have hListed := hInvariant.ledger.listed x hx
    rw [hId, hKey] at hListed
    exact hInvariant.ledger.unique _ _ _ hListed hAccepted
  -- The job itself is there, and it waits for no other.
  rcases exists_job_of_phase?
    (isRunning?_eq_some_true_iff.mp hRuns) with
    ⟨j, hj, hjId, hjPhase⟩
  have hNone : j.phase.predecessor? = none := by
    rw [hjPhase]
    rfl
  have hGone : c.pool.isRunning? i = none := by
    have hOther :=
      isRunning?_step_of_ne c.pool (Nat.ne_of_lt hBefore)
    rw [← hOther, isRunning?_eq_none_iff]
    intro x hx hId
    refine (hInvariant.inTurn.step hInvariant.sound.sorted
      id).not_lt_of_not_waiting hx hj
        (hKeyed x hx (hId ▸ hFirst))
        (hKeyed j hj (hjId ▸ hSecond)) hNone ?_
    omega
  -- So the earlier one is gone, and none was withdrawn yet.
  have hStands := hInvariant.ledger.standing i
    (hInvariant.ledger.accepted i _ hFirst)
  rw [hGone] at hStands
  rcases hStands with hEnded | hWithdrawn
  · exact hEnded.2.1
  · exact absurd hWithdrawn.2.2
      fun hMember =>
        (hInvariant.settled i hMember).2 id hWaits

/- A turn of a job. -/
theorem Invariant.turn
    (hInvariant : Invariant slots c)
    (id : Nat) :
    Invariant slots (c.turn id) := by
  have hSound := hInvariant.sound.step id
  have hTurn :=
    hInvariant.inTurn.step hInvariant.sound.sorted id
  have hIntake := intake_step c.pool id
  have hNext : (c.pool.step id).nextId = c.pool.nextId :=
    congrArg Prod.fst hIntake
  have hLabels :
      (c.pool.step id).labels.Sublist c.pool.labels := by
    rw [labels_step]
  have hBodies :
      c.bodies = List.range (c.pool.step id).nextId := by
    rw [hNext]
    exact hInvariant.bodies
  rcases isRunning?_step_cases c.pool id with
    ⟨hWaits, hRuns⟩ | hSame
  · have hLess := hInvariant.lt_nextId hWaits
    have hEqual :
        c.turn id =
          { c with
            pool := c.pool.step id
            history := .started id :: c.history } := by
      simp only [Course.turn, hWaits, hRuns, true_and,
        if_true]
      exact note_of_lt (c := { c with pool := c.pool.step id })
        hInvariant.bodies hLess .started
    have hStands :=
      hInvariant.ledger.standing id hLess
    rw [hWaits] at hStands
    rw [hEqual]
    refine hInvariant.of_kept
      ⟨hSound, hBodies, ?_, ?_⟩ hTurn hIntake hLabels rfl rfl
      ?_
    · refine hInvariant.ledger.moved rfl hLess hLabels hIntake
        (fun b hOther => isRunning?_step_of_ne c.pool hOther)
        ?_
      rw [hRuns]
      exact hStands.started
    · exact hInvariant.ordered.start fun i k hFirst hSecond
        hBefore =>
          hInvariant.ended_of_starts hWaits hRuns hFirst
            hSecond hBefore
    · intro b hMember
      exact absurd (by simpa using hMember)
        (hInvariant.withdrawn_not_mem (b := b) hWaits)
  · have hEqual :
        c.turn id = { c with pool := c.pool.step id } := by
      simp only [Course.turn]
      rw [if_neg]
      rw [hSame id]
      rintro ⟨hWaits, hRuns⟩
      rw [hWaits] at hRuns
      cases hRuns
    rw [hEqual]
    refine hInvariant.of_kept
      ⟨hSound, hBodies, ?_, hInvariant.ordered⟩ hTurn hIntake
      hLabels rfl rfl ?_
    · exact hInvariant.ledger.of_same hLabels hIntake hSame
    · intro b hMember
      rcases hInvariant.settled b hMember with
        ⟨hClosed, hNone⟩
      refine ⟨hClosed, ?_⟩
      intro other
      rw [hSame]
      exact hNone other

/- The end of a body. -/
theorem Invariant.finish
    (hInvariant : Invariant slots c)
    (hRunning : c.pool.phase? id = some .running) :
    Invariant slots (c.finish id) := by
  have hRuns := isRunning?_eq_some_true_iff.mpr hRunning
  have hLess := hInvariant.lt_nextId hRuns
  have hIntake := intake_finish c.pool id
  have hNext : (c.pool.finish id).nextId = c.pool.nextId :=
    congrArg Prod.fst hIntake
  have hLabels :
      (c.pool.finish id).labels.Sublist c.pool.labels := by
    rw [labels_finish]
    exact labels_remove c.pool id
  have hEqual :
      c.finish id =
        { c with
          pool := c.pool.finish id
          history := .ended id :: c.history } :=
    note_of_lt (c := { c with pool := c.pool.finish id })
      hInvariant.bodies hLess .ended
  have hStands := hInvariant.ledger.standing id hLess
  rw [hRuns] at hStands
  rw [hEqual]
  refine hInvariant.of_kept ⟨hInvariant.sound.finish hRunning,
    ?_, ?_, ?_⟩
    (hInvariant.inTurn.finish hInvariant.sound.sorted hRunning)
    hIntake hLabels rfl rfl ?_
  · rw [hNext]
    exact hInvariant.bodies
  · refine hInvariant.ledger.moved rfl hLess hLabels hIntake
      ?_ ?_
    · intro b hOther
      rw [isRunning?_finish, if_neg hOther]
    · rw [isRunning?_finish, if_pos rfl]
      exact hStands.ended
  · exact hInvariant.ordered.cons (by simp) (by simp)
  · intro b hMember
    rcases hInvariant.settled b (by simpa using hMember) with
      ⟨hClosed, hNone⟩
    refine ⟨hClosed, ?_⟩
    intro other
    rw [isRunning?_finish]
    split
    · simp
    · exact hNone other

------------------------------------------------------------
-- Drains
------------------------------------------------------------

/- The books are kept while jobs are cancelled one by one. -/
theorem Kept.cancel
    (hKept : Kept slots c)
    (id : Nat) :
    Kept slots (c.cancel id) := by
  have hSound := hKept.sound.cancel id
  have hIntake := intake_cancel c.pool id
  have hLabels := labels_cancel c.pool id
  have hNext : (c.pool.cancel id).nextId = c.pool.nextId :=
    congrArg Prod.fst hIntake
  have hBodies :
      c.bodies = List.range (c.pool.cancel id).nextId := by
    rw [hNext]
    exact hKept.bodies
  by_cases hWaits : c.pool.isRunning? id = some false
  · have hLess := hKept.lt_nextId hWaits
    have hEqual :
        c.cancel id =
          { c with
            pool := c.pool.cancel id
            history := .withdrawn id :: c.history } := by
      simp only [Course.cancel, hWaits, if_true]
      exact note_of_lt
        (c := { c with pool := c.pool.cancel id })
        hKept.bodies hLess .withdrawn
    have hStands := hKept.ledger.standing id hLess
    rw [hWaits] at hStands
    rw [hEqual]
    refine ⟨hSound, hBodies, ?_, ?_⟩
    · refine hKept.ledger.moved rfl hLess hLabels hIntake ?_ ?_
      · intro b hOther
        rw [isRunning?_cancel, if_neg hOther]
      · rw [isRunning?_cancel, if_pos rfl, hWaits]
        exact hStands.withdrawn
    · exact hKept.ordered.cons (by simp) (by simp)
  · have hSame : c.pool.cancel id = c.pool := by
      simp [Pool.cancel, hWaits]
    have hEqual : c.cancel id = c := by
      simp [Course.cancel, hWaits, hSame]
    rw [hEqual]
    exact hKept

theorem Kept.foldl_cancel
    (hKept : Kept slots c)
    (ids : List Nat) :
    Kept slots (ids.foldl Course.cancel c) := by
  induction ids generalizing c with
  | nil => exact hKept
  | cons id rest hInduction =>
      exact hInduction (hKept.cancel id)

/- A drain cancels all jobs that are left. -/
theorem Invariant.cancelAll
    {found order : List Nat}
    (hInvariant : Invariant slots c)
    (hFound : found ∈ c.drains)
    (hOrder : order.Perm found) :
    Invariant slots (order.foldl cancel c) := by
  have hAll (j : Job κ)
      (hMember : j ∈ c.pool.jobs) :
      j.id ∈ order :=
    hOrder.mem_iff.mpr
      ((hInvariant.drained found hFound).2 j hMember)
  rcases frame_foldl_cancel order c with
    ⟨hPool, hCalls, hDrains⟩
  refine hInvariant.of_kept
    (hInvariant.toKept.foldl_cancel order) ?_ ?_ ?_ hCalls
    hDrains ?_
  · rw [hPool]
    exact hInvariant.inTurn.foldl_cancel
      hInvariant.sound.sorted hAll
  · rw [hPool]
    exact intake_foldl_cancel order c.pool
  · rw [hPool]
    exact labels_foldl_cancel order c.pool
  · intro b _
    refine ⟨(hInvariant.drained found hFound).1, ?_⟩
    rw [hPool]
    exact isRunning?_foldl_cancel_ne hAll

/- A drain closes the pool. -/
theorem Invariant.drain
    (hInvariant : Invariant slots c) :
    Invariant slots c.drain where
  sound :=
    ⟨hInvariant.sound.sorted, hInvariant.sound.numbered,
      hInvariant.sound.accounted⟩
  bodies := hInvariant.bodies
  ledger :=
    ⟨hInvariant.ledger.accepted,
      fun b hMember =>
        ⟨(hInvariant.ledger.rejected b hMember).1, rfl⟩,
      hInvariant.ledger.listed, hInvariant.ledger.unique,
      hInvariant.ledger.standing, hInvariant.ledger.unknown⟩
  ordered := hInvariant.ordered
  inTurn := hInvariant.inTurn
  calls_ge := hInvariant.calls_ge
  calls_eq := by
    intro hAccepting
    cases hAccepting
  drained := by
    intro found hFound
    refine ⟨rfl, ?_⟩
    rcases List.mem_cons.mp hFound with hNew | hOld
    · rw [hNew]
      intro j hMember
      exact List.mem_map_of_mem hMember
    · exact (hInvariant.drained found hOld).2
  settled := fun b hMember =>
    ⟨rfl, (hInvariant.settled b hMember).2⟩

------------------------------------------------------------
-- Submissions
------------------------------------------------------------

/- A body is submitted. -/
theorem Invariant.submit
    (hInvariant : Invariant slots c)
    (key : Option κ) :
    Invariant slots (c.submit key) := by
  cases hAccepting : c.pool.accepting with
  | true =>
      have hCalls := hInvariant.calls_eq hAccepting
      have hAnswer :
          (c.pool.submit key).1 = some c.pool.nextId := by
        simp [Pool.submit, hAccepting]
      have hIsNext :
          (c.pool.submit key).2.nextId =
            c.pool.nextId + 1 := by
        simp [Pool.submit, hAccepting]
      have hEqual :
          c.submit key =
            { c with
              pool := (c.pool.submit key).2
              bodies := c.bodies ++ [c.pool.nextId]
              calls := c.pool.nextId + 1
              history :=
                .accepted c.pool.nextId key :: c.history } := by
        unfold Course.submit
        split
        · rename_i hSubmit
          rw [hSubmit, hCalls]
        · rename_i hSubmit
          rw [hSubmit] at hAnswer
          cases hAnswer
      have hOpen (hClosed : c.pool.accepting = false) :
          False := by
        rw [hAccepting] at hClosed
        cases hClosed
      rw [hEqual]
      refine ⟨⟨hInvariant.sound.submit key, ?_, ?_, ?_⟩,
        hInvariant.inTurn.submit hInvariant.sound key,
        Nat.le_of_eq hIsNext, fun _ => hIsNext.symm, ?_, ?_⟩
      · rw [hIsNext, List.range_succ, hInvariant.bodies]
      · exact hInvariant.ledger.accept hInvariant.sound
          hAccepting key
      · refine hInvariant.ordered.cons (by simp) ?_
        intro b key' hNew j hStarted
        cases hNew
        by_contra hNotLess
        have hUnknown :=
          hInvariant.ledger.unknown j (Nat.le_of_not_lt hNotLess)
        exact List.count_eq_zero.mp hUnknown.1 hStarted
      · intro found hFound
        exact (hOpen
          (hInvariant.drained found hFound).1).elim
      · intro b hMember
        exact (hOpen
          (hInvariant.settled b (by simpa using hMember)).1).elim
  | false =>
      have hSubmit : c.pool.submit key = (none, c.pool) := by
        simp [Pool.submit, hAccepting]
      have hEqual :
          c.submit key =
            { c with
              calls := c.calls + 1
              history := .rejected c.calls :: c.history } := by
        unfold Course.submit
        simp only [hSubmit]
      rw [hEqual]
      refine ⟨⟨hInvariant.sound, hInvariant.bodies, ?_, ?_⟩,
        hInvariant.inTurn, ?_, ?_, hInvariant.drained, ?_⟩
      · exact hInvariant.ledger.reject hAccepting
          hInvariant.calls_ge
      · exact hInvariant.ordered.cons (by simp) (by simp)
      · exact Nat.le_succ_of_le hInvariant.calls_ge
      · intro hOpen
        rw [hAccepting] at hOpen
        cases hOpen
      · intro b hMember
        exact hInvariant.settled b (by simpa using hMember)

------------------------------------------------------------
-- All Courses
------------------------------------------------------------

/- Whatever happens next, the invariant is kept. -/
theorem Invariant.step
    (hInvariant : Invariant slots c)
    (hStep : Step c d) :
    Invariant slots d := by
  cases hStep with
  | submitted key => exact hInvariant.submit key
  | turned id => exact hInvariant.turn id
  | ended id hRunning => exact hInvariant.finish hRunning
  | drained => exact hInvariant.drain
  | cancelled found order hFound hOrder =>
      exact hInvariant.cancelAll hFound hOrder

theorem invariant_of_reaches
    {n : Int}
    (hReaches : Reaches n c) :
    Invariant (max 1 n).toNat c := by
  induction hReaches with
  | refl => exact invariant_start n
  | tail _ hStep hInvariant => exact hInvariant.step hStep

/- The bodies that run are those of the jobs that run. -/
theorem Invariant.running_eq
    (hInvariant : Invariant slots c) :
    c.running = c.pool.running := by
  have hSame (id : Nat)
      (hMember : id ∈ c.pool.running) :
      c.bodies[id]? = some id := by
    have hRuns := (mem_running_iff
      hInvariant.sound.sorted).mp hMember
    have hLess := hInvariant.lt_nextId hRuns
    simp [hInvariant.bodies, hLess]
  calc
    c.running = c.pool.running.filterMap some :=
      List.filterMap_congr hSame
    _ = c.pool.running := List.filterMap_some

end Course

end GuildWarden.Pool
