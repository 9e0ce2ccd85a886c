import GuildWarden.Proofs.Effect.Runs
import GuildWarden.Proofs.Reaction.Agreement
import GuildWarden.Proofs.Store.Fate

/-
  This file lets parties share one connection, each exchange
  being one step. Some are transactions, of which one at a time
  has the lock; the others only read, and take no lock. What is
  read are the permanent tables together with what the open
  transaction has done to them so far, so that a read may see
  what is undone later, or miss what is put back.

  Key definitions include:
    * `Store.Course`
    * `Store.IsReader`
    * `Store.IsWriter`
    * `Store.Course.IsKept`
    * `Store.Sequel`
    * `Store.Chronicle.lastingAt`

  Main statements:
    * `Store.fits_of_party`
    * `Store.Course.isKept`
    * `Store.Course.exists_sequel`
    * `Store.Course.read_is_clean_iff`
-/

namespace GuildWarden.Store

open Program

------------------------------------------------------------
-- Courses
------------------------------------------------------------

def isOfLock : Exchange → Bool
  | .asked .lockStore _ => true
  | .asked .unlockStore _ => true
  | _ => false

/- Who has the lock before and after an exchange of a party. -/
inductive Locks
    (i : Nat) :
    Exchange → Option Nat → Option Nat → Prop where
  | taken :
      Locks i (.asked .lockStore (.ok ())) none (some i)
  | refused
      {owner : Option Nat}
      (cause : Cause) :
      Locks i (.asked .lockStore (.error cause)) owner owner
  | released
      (answer : Except Cause (Request.Answer .unlockStore)) :
      Locks i (.asked .unlockStore answer) (some i) none
  | passed
      {e : Exchange}
      {owner : Option Nat}
      (hOther : isOfLock e = false) :
      Locks i e owner owner

/-
  What can come about from a chronicle on when parties make
  their exchanges in any order; the latest comes first.
-/
inductive Course
    (h : Chronicle)
    (owner : Option Nat) :
    List (Nat × Exchange) → Chronicle → Option Nat → Prop where
  | start :
      Course h owner [] h owner
  | step
      {log : List (Nat × Exchange)}
      {i : Nat}
      {e : Exchange}
      {between later : Chronicle}
      {owner' last : Option Nat}
      (hCourse : Course h owner log between owner')
      (hWrites : Writes i e between later)
      (hLocks : Locks i e owner' last) :
      Course h owner ((i, e) :: log) later last

/- What one party has exchanged, the earliest first. -/
def own
    (i : Nat)
    (log : List (Nat × Exchange)) : List Exchange :=
  (log.reverse.filter fun x => x.1 == i).map Prod.snd

variable {i : Nat}
variable {e : Exchange}
variable {trace before : List Exchange}
variable {log newer older : List (Nat × Exchange)}
variable {initial : Connection}
variable {h h' later : Chronicle}
variable {owner owner' last : Option Nat}

theorem own_cons :
    own i ((i, e) :: log) = own i log ++ [e] := by
  simp [own, List.filter_append]

theorem own_cons_of_ne
    {j : Nat}
    (hOther : i ≠ j) :
    own j ((i, e) :: log) = own j log := by
  simp [own, List.filter_append, hOther]

theorem own_append :
    own i (newer ++ older) = own i older ++ own i newer := by
  simp [own, List.filter_append]

theorem Course.trans
    (hOlder : Course h owner older h' owner')
    (hNewer : Course h' owner' newer later last) :
    Course h owner (newer ++ older) later last := by
  induction hNewer with
  | start => exact hOlder
  | step _ hWrites hLocks hInduction =>
      exact hInduction.step hWrites hLocks

/- A party executes a statement. -/
theorem Course.execute
    {s : Statement}
    {a : s.Answer}
    {after : Connection}
    (i : Nat)
    (hCourse : Course h owner log later last)
    (hRun : later.connection.run s = (.ok a, after)) :
    Course h owner
      ((i, .asked (.statement s) (.ok a)) :: log)
      (later.execute i s after) last :=
  hCourse.step (.executed _ hRun (Or.inl rfl)) (.passed rfl)

------------------------------------------------------------
-- Parties
------------------------------------------------------------

/- A request that neither writes nor has to do with the lock. -/
def IsHarmless
    (r : Request) : Prop :=
  ∀ answer,
    isReading (.asked r answer) = true ∧
      isOfLock (.asked r answer) = false

/- The exchanges of a program that at most reads. -/
def IsReader
    (trace : List Exchange) : Prop :=
  ∃ (α : Type) (p : Program α) (result : Except Cause α),
    p.Only IsHarmless ∧ Runs p trace result

/- The exchanges of a transaction of statements on rows. -/
def IsWriter
    (trace : List Exchange) : Prop :=
  ∃ (α : Type) (body : Program α) (result : Except Cause α),
    body.Requests IsOfRows ∧ body.Endures ∧
      Runs (transaction body) trace result

/- What a reader or a writer has exchanged up to some point. -/
def IsParty
    (trace : List Exchange) : Prop :=
  ∃ rest, IsReader (trace ++ rest) ∨ IsWriter (trace ++ rest)

theorem IsParty.of_append
    {after : List Exchange}
    (hParty : IsParty (trace ++ after)) :
    IsParty trace := by
  rcases hParty with ⟨rest, hParty⟩
  rw [List.append_assoc] at hParty
  exact ⟨after ++ rest, hParty⟩

------------------------------------------------------------
-- The Conduct of a Party
------------------------------------------------------------

/- Whether the lock is had after one more exchange. -/
def grip
    (isHeld : Bool) : Exchange → Bool
  | .asked .lockStore (.ok _) => true
  | .asked .unlockStore _ => false
  | _ => isHeld

def hasLock
    (trace : List Exchange) : Bool :=
  trace.foldl grip false

/- Whether statements are open after one more exchange. -/
def stir
    (isOpen : Bool) : Exchange → Bool
  | .asked (.statement _) _ => true
  | .asked .commit (.ok _) => false
  | .asked .rollback _ => false
  | _ => isOpen

def isOpen
    (trace : List Exchange) : Bool :=
  trace.foldl stir false

def isWriting : Exchange → Bool
  | .asked (.statement s) _ => s.isWrite
  | _ => false

def isRelease : Exchange → Bool
  | .asked .unlockStore _ => true
  | _ => false

def isCreation : Exchange → Bool
  | .asked (.statement (.createTable _)) _ => true
  | _ => false

/-
  What a party may do next: it makes no table, it has the lock
  when it writes, and it has settled what it has written when it
  gives the lock back, unless it was cut off.
-/
structure Fits
    (before : List Exchange)
    (e : Exchange) : Prop where
  plain : isCreation e = false
  locked : isWriting e = true → hasLock before = true
  cleared :
    isRelease e = true →
      isOpen before = false ∨ IsCut before

/- What a party does after some exchanges fits, one by one. -/
def Keeps :
    List Exchange → List Exchange → Prop
  | _, [] => True
  | before, e :: trace =>
    Fits before e ∧ Keeps (before ++ [e]) trace

theorem keeps_append_iff
    {after : List Exchange} :
    Keeps before (trace ++ after) ↔
      Keeps before trace ∧ Keeps (before ++ trace) after := by
  induction trace generalizing before with
  | nil => simp [Keeps]
  | cons e trace hInduction =>
      rw [List.cons_append, Keeps, Keeps, hInduction, and_assoc,
        List.append_assoc, List.singleton_append]

/- What fits after anything fits in any order. -/
theorem keeps_of_forall
    (hFits : ∀ e ∈ trace, ∀ before, Fits before e) :
    Keeps before trace := by
  induction trace generalizing before with
  | nil => trivial
  | cons e trace hInduction =>
      rw [List.forall_mem_cons] at hFits
      exact ⟨hFits.1 before, hInduction hFits.2⟩

/- An exchange of the store that has no conditions. -/
theorem fits_of_free
    (hPlain : isCreation e = false)
    (hWriting : isWriting e = false)
    (hRelease : isRelease e = false) :
    Fits before e where
  plain := hPlain
  locked hWrites := by
    rw [hWriting] at hWrites
    cases hWrites
  cleared hReleases := by
    rw [hRelease] at hReleases
    cases hReleases

theorem fits_of_reading
    (hReading : isReading e = true)
    (hUnlocked : isOfLock e = false) :
    Fits before e := by
  refine fits_of_free ?_ ?_ ?_
  · unfold isCreation
    split
    · simp [isReading, Statement.verb] at hReading
    · rfl
  · unfold isWriting
    split
    · exact (Statement.isWrite_of_selects
        (by simpa [isReading] using hReading)).1
    · rfl
  · unfold isRelease
    split
    · cases hUnlocked
    · rfl

theorem keeps_of_reader
    (hReader : IsReader trace) :
    Keeps [] trace := by
  rcases hReader with ⟨α, p, result, hOnly, hRuns⟩
  refine keeps_of_forall ?_
  intro e hMember before
  cases e with
  | saw m => exact fits_of_free rfl rfl rfl
  | asked r answer =>
      have hHarmless := hOnly.of_runs hRuns r answer hMember
      exact fits_of_reading (hHarmless answer).1
        (hHarmless answer).2

/- Statements on rows fit while the lock is had. -/
theorem keeps_of_rows
    (hRows :
      ∀ e ∈ trace, ∃ r answer, e = .asked r answer ∧ IsOfRows r)
    (hHeld : hasLock before = true) :
    Keeps before trace ∧ hasLock (before ++ trace) = true := by
  induction trace generalizing before with
  | nil => exact ⟨trivial, by rwa [List.append_nil]⟩
  | cons e trace hInduction =>
      rw [List.forall_mem_cons] at hRows
      rcases hRows.1 with ⟨r, answer, rfl, hRow⟩
      cases r with
      | statement s =>
          have hStill :
              hasLock
                  (before ++ [.asked (.statement s) answer]) =
                true := by
            unfold hasLock at hHeld ⊢
            rw [List.foldl_append, hHeld]
            rfl
          rcases hInduction hRows.2 hStill with ⟨hRest, hLock⟩
          refine ⟨⟨⟨?_, fun _ => hHeld, fun hRelease => by
            cases hRelease⟩, hRest⟩, ?_⟩
          · unfold isCreation
            split
            · rename_i hSame
              cases hSame
              exact (hRow _ rfl).elim
            · rfl
          · rw [List.append_assoc] at hLock
            exact hLock
      | _ => exact hRow.elim

/- Whoever has left nothing open may go on away from the store. -/
theorem keeps_of_elsewhere
    (hOther : ∀ e ∈ trace, isOfStore e = false)
    (hClear : isOpen before = false) :
    Keeps before trace := by
  induction trace generalizing before with
  | nil => trivial
  | cons e trace hInduction =>
      rw [List.forall_mem_cons] at hOther
      have hStill : isOpen (before ++ [e]) = false := by
        unfold isOpen at hClear ⊢
        rw [List.foldl_append, hClear, List.foldl_cons,
          List.foldl_nil]
        unfold stir
        split
        · cases hOther.1
        · rfl
        · rfl
        · rfl
      refine ⟨⟨?_, ?_, fun _ => Or.inl hClear⟩,
        hInduction hOther.2 hStill⟩
      · unfold isCreation
        split
        · cases hOther.1
        · rfl
      · unfold isWriting
        split
        · cases hOther.1
        · intro hNever
          cases hNever

variable {α : Type}
variable {body : Program α}

/- Work that succeeds ends with a commit. -/
theorem exists_inner_of_work_ok
    {a : α}
    (hRuns : Runs (work body) trace (.ok a)) :
    ∃ inner, trace = inner ++ [.asked .commit (.ok ())] := by
  rcases runs_bind_ok_iff.mp hRuns with
    ⟨inner, _, _, rfl, _, hRest⟩
  rcases runs_bind_ok_iff.mp hRest with
    ⟨_, _, _, rfl, hCommit, hDone⟩
  rcases runs_done_iff.mp hDone with ⟨rfl, _⟩
  rw [runs_request_iff.mp hCommit]
  exact ⟨inner, rfl⟩

/- A program is cancelled by the answer to a request. -/
theorem exists_cancelled_of_runs
    {p : Program α}
    (hEndures : p.Endures)
    (hRuns : Runs p trace (.error .cancelled)) :
    ∃ r, .asked r (.error .cancelled) ∈ trace := by
  generalize hResult : Except.error Cause.cancelled = result
    at hRuns
  induction hRuns with
  | done a => cases hResult
  | fail cause =>
      cases hResult
      exact (hEndures rfl).elim
  | access m hNext hInduction =>
      rcases hInduction (hEndures m) hResult with ⟨r, hMember⟩
      exact ⟨r, List.mem_cons_of_mem _ hMember⟩
  | @ask r _ _ _ answer hNext hInduction =>
      by_cases hCancelled : answer = .error .cancelled
      · rw [hCancelled]
        exact ⟨r, List.mem_cons_self⟩
      · rcases hInduction (hEndures answer hCancelled) hResult
          with ⟨r', hMember⟩
        exact ⟨r', List.mem_cons_of_mem _ hMember⟩

/- Work that was cancelled was cut off. -/
theorem isCut_of_work
    (hRows : body.Requests IsOfRows)
    (hEndures : body.Endures)
    (hRuns : Runs (work body) trace (.error .cancelled)) :
    IsCut trace := by
  have hRequests :
      (work body).Requests fun r =>
        isCut (.asked r (.error .cancelled)) = true := by
    refine Requests.bind (hRows.mono ?_) fun _ =>
      Requests.bind (Requests.request rfl) fun _ => trivial
    intro r hRow
    cases r with
    | statement s => rfl
    | _ => exact hRow.elim
  have hWorkEndures : (work body).Endures :=
    hEndures.bind fun _ => (Endures.request _).bind fun _ =>
      trivial
  rcases exists_cancelled_of_runs hWorkEndures hRuns with
    ⟨r, hMember⟩
  rcases hRequests.of_runs hRuns _ hMember with
    ⟨r', answer, hSame, hCut⟩
  cases hSame
  exact ⟨_, hMember, hCut⟩

/- A body and its commit are executed with the lock. -/
theorem keeps_of_work
    {outcome : Except Cause α}
    (hRows : body.Requests IsOfRows)
    (hRuns : Runs (work body) trace outcome) :
    Keeps opening trace := by
  rcases exists_inner_of_work hRuns with
    ⟨inner, _, hBody, ⟨rfl, _⟩ | ⟨answer, rfl, _⟩⟩
  · exact (keeps_of_rows (hRows.of_runs hBody) rfl).1
  · rw [keeps_append_iff]
    exact ⟨(keeps_of_rows (hRows.of_runs hBody) rfl).1,
      fits_of_free rfl rfl rfl, trivial⟩

theorem isOpen_append
    {after : List Exchange} :
    isOpen (before ++ after) = after.foldl stir (isOpen before) :=
  List.foldl_append

/- A transaction has settled its work when it gives up the lock. -/
theorem keeps_of_writer
    (hWriter : IsWriter trace) :
    Keeps [] trace := by
  rcases hWriter with
    ⟨α, body, result, hRows, hEndures, hRuns⟩
  rcases runs_transaction_cases hRuns with
    hOther | ⟨working, outcome, ending, rfl, hWork, hClosing⟩
  · exact keeps_of_elsewhere hOther rfl
  have hOpening : Keeps [] opening :=
    keeps_of_elsewhere (by simp [opening, isOfStore]) rfl
  rw [keeps_append_iff, keeps_append_iff]
  refine ⟨⟨hOpening, keeps_of_work hRows hWork⟩, ?_⟩
  change Keeps (opening ++ working) ending
  have hRelease
      {last : Except Cause (Request.Answer .unlockStore)}
      {before : List Exchange}
      (hSettled : isOpen before = false ∨ IsCut before) :
      Keeps before [.asked .unlockStore last] :=
    ⟨⟨rfl, fun hNever => (by cases hNever), fun _ => hSettled⟩,
      trivial⟩
  by_cases hLeft :
      ∀ cause, outcome = .error cause → cause = .cancelled
  · rcases runs_closing_of_left hLeft hClosing with
      ⟨last, rfl, _⟩
    refine hRelease ?_
    cases outcome with
    | ok a =>
        rcases exists_inner_of_work_ok hWork with ⟨inner, rfl⟩
        rw [← List.append_assoc, isOpen_append]
        exact Or.inl rfl
    | error cause =>
        cases hLeft cause rfl
        exact Or.inr ((isCut_of_work hRows hEndures hWork).mono
          (List.subset_append_right _ _))
  · rcases Classical.not_forall.mp hLeft with ⟨cause, hLeft⟩
    rcases Classical.not_imp.mp hLeft with ⟨rfl, hCause⟩
    rcases runs_closing_of_failed hCause hClosing with
      ⟨answer, last, rfl⟩
    refine ⟨fits_of_free rfl rfl rfl, hRelease (Or.inl ?_)⟩
    rw [isOpen_append]
    rfl

/- Whatever a party does next fits. -/
theorem fits_of_party
    (hParty : IsParty (before ++ [e])) :
    Fits before e := by
  rcases hParty with ⟨rest, hParty⟩
  have hKeeps : Keeps [] (before ++ [e] ++ rest) := by
    rcases hParty with hReader | hWriter
    · exact keeps_of_reader hReader
    · exact keeps_of_writer hWriter
  rw [List.append_assoc, keeps_append_iff] at hKeeps
  exact hKeeps.2.1

------------------------------------------------------------
-- What Holds in a Course
------------------------------------------------------------

/- Who wrote what is pending has the lock, or was cut off. -/
def Owned
    (owner : Option Nat)
    (log : List (Nat × Exchange))
    (x : Numbered) : Prop :=
  owner = some x.1 ∧ isOpen (own x.1 log) = true ∨
    IsCut (own x.1 log)

/- What is pending is owned until a turn is taken. -/
theorem Owned.step
    {x : Numbered}
    (hOwned : Owned owner log x)
    (hFits : Fits (own i log) e)
    (hLocks : Locks i e owner last)
    (hStays : stir true e = true) :
    Owned last ((i, e) :: log) x := by
  rcases hOwned with ⟨rfl, hOpen⟩ | hCut
  · by_cases hSame : i = x.1
    · subst hSame
      rw [Owned, own_cons]
      cases hLocks with
      | refused | passed =>
          refine Or.inl ⟨rfl, ?_⟩
          rw [isOpen_append, hOpen]
          exact hStays
      | released =>
          have hCut := (hFits.cleared rfl).resolve_left
            (by simp [hOpen])
          exact Or.inr (hCut.mono (List.subset_append_left _ _))
    · rw [Owned, own_cons_of_ne hSame]
      cases hLocks with
      | refused | passed => exact Or.inl ⟨rfl, hOpen⟩
      | released => exact (hSame rfl).elim
  · refine Or.inr ?_
    by_cases hSame : i = x.1
    · rw [hSame, own_cons]
      exact hCut.mono (List.subset_append_left _ _)
    · rwa [own_cons_of_ne hSame]

/- Whoever took the lock and has not given it back owns it. -/
theorem Locks.held
    (hLocks : Locks i e owner last)
    (hHeld : ∀ j, hasLock (own j log) = true → owner = some j)
    {j : Nat}
    (hHas : hasLock (own j ((i, e) :: log)) = true) :
    last = some j := by
  by_cases hSame : i = j
  · subst hSame
    rw [own_cons, hasLock, List.foldl_append] at hHas
    cases hLocks with
    | taken => rfl
    | refused => exact hHeld i hHas
    | released => cases hHas
    | passed hOther =>
        refine hHeld i ?_
        change grip (hasLock (own i log)) e = true at hHas
        unfold grip at hHas
        split at hHas
        · cases hOther
        · cases hHas
        · exact hHas
  · rw [own_cons_of_ne hSame] at hHas
    have hOwner := hHeld j hHas
    cases hLocks with
    | taken => cases hOwner
    | refused => exact hOwner
    | released => exact (hSame (Option.some.inj hOwner)).elim
    | passed => exact hOwner

/-
  The tables are those after the statements that took effect,
  the lock belongs to whoever took it, and what is pending makes
  no table and was written by the owner of the lock, or by
  someone who was cut off.
-/
structure Course.IsKept
    (initial : Connection)
    (log : List (Nat × Exchange))
    (h : Chronicle)
    (owner : Option Nat) : Prop where
  tallies : h.Tallies initial
  held : ∀ i, hasLock (own i log) = true → owner = some i
  plain : ∀ x ∈ h.pending, ∀ name, x.2 ≠ .createTable name
  owned :
    ∀ x ∈ h.pending, x.2.isWrite = true → Owned owner log x

namespace Course.IsKept

theorem start
    (hSettled : initial.IsSettled) :
    IsKept initial [] (.start initial) none where
  tallies := .start hSettled
  held := by simp [own, hasLock]
  plain := by simp [Chronicle.start]
  owned := by simp [Chronicle.start]

/- A statement is executed by someone who has the lock. -/
theorem execute
    {s : Statement}
    {a : s.Answer}
    {after : Connection}
    {answer : Except Cause (Request.Answer (.statement s))}
    (hKept : IsKept initial log h owner)
    (hFits : Fits (own i log) (.asked (.statement s) answer))
    (hRun : h.connection.run s = (.ok a, after)) :
    IsKept initial ((i, .asked (.statement s) answer) :: log)
      (h.execute i s after) owner := by
  have hOld (name : TableName) : s ≠ .createTable name := by
    rintro rfl
    cases hFits.plain
  have hLocks :
      Locks i (.asked (.statement s) answer) owner owner :=
    .passed rfl
  refine ⟨hKept.tallies.execute hOld hRun,
    fun j => hLocks.held hKept.held, ?_, ?_⟩
  · intro x hPending
    rcases List.mem_append.mp hPending with hBefore | hNew
    · exact hKept.plain x hBefore
    · rw [List.mem_singleton.mp hNew]
      exact hOld
  · intro x hPending hWrite
    rcases List.mem_append.mp hPending with hBefore | hNew
    · exact (hKept.owned x hBefore hWrite).step hFits hLocks rfl
    · rw [List.mem_singleton.mp hNew] at hWrite ⊢
      refine Or.inl ⟨hKept.held i (hFits.locked hWrite), ?_⟩
      rw [own_cons, isOpen_append]
      rfl

theorem step
    (hKept : IsKept initial log h owner)
    (hFits : Fits (own i log) e)
    (hWrites : Writes i e h later)
    (hLocks : Locks i e owner last) :
    IsKept initial ((i, e) :: log) later last := by
  have hHeld (j : Nat) := hLocks.held hKept.held (j := j)
  have hStays
      (hStays : stir true e = true)
      (x : Numbered)
      (hPending : x ∈ h.pending)
      (hWrite : x.2.isWrite = true) :
      Owned last ((i, e) :: log) x :=
    (hKept.owned x hPending hWrite).step hFits hLocks hStays
  cases hWrites with
  | executed answer hRun hAnswer =>
      cases hLocks with
      | passed => exact hKept.execute hFits hRun
  | failed after hAfter =>
      exact ⟨hKept.tallies.failed hAfter, hHeld, hKept.plain,
        hStays rfl⟩
  | committed =>
      exact ⟨hKept.tallies.commit, hHeld,
        by simp [Chronicle.commit], by simp [Chronicle.commit]⟩
  | uncommitted =>
      exact ⟨hKept.tallies, hHeld, hKept.plain, hStays rfl⟩
  | rolledBack =>
      exact ⟨hKept.tallies.rollback, hHeld,
        by simp [Chronicle.rollback],
        by simp [Chronicle.rollback]⟩
  | passed hOther =>
      refine ⟨hKept.tallies, hHeld, hKept.plain, hStays ?_⟩
      unfold stir
      split
      · rfl
      · cases hOther
      · cases hOther
      · rfl

end Course.IsKept

theorem Course.isKept
    (hSettled : initial.IsSettled)
    (hParties : ∀ j, IsParty (own j log))
    (hCourse : Course (.start initial) none log h owner) :
    IsKept initial log h owner := by
  induction hCourse with
  | start => exact .start hSettled
  | @step log i e _ _ _ _ _ hWrites hLocks hInduction =>
      have hOlder (j : Nat) : IsParty (own j log) := by
        have hParty := hParties j
        by_cases hSame : i = j
        · subst hSame
          rw [own_cons] at hParty
          exact hParty.of_append
        · rwa [own_cons_of_ne hSame] at hParty
      have hFits : Fits (own i log) e := by
        refine fits_of_party ?_
        rw [← own_cons]
        exact hParties i
      exact (hInduction hOlder).step hFits hWrites hLocks

/- Statements that neither write nor make a table change none. -/
theorem tablesAfter_of_reading
    {t : Tables}
    {statements : List Statement}
    (hReading :
      ∀ s ∈ statements,
        s.isWrite = false ∧ ∀ name, s ≠ .createTable name) :
    tablesAfter t statements = t := by
  induction statements with
  | nil => rfl
  | cons s statements hInduction =>
      rw [List.forall_mem_cons] at hReading
      rcases hReading with ⟨⟨hRead, hOld⟩, hRest⟩
      rw [tablesAfter, List.foldl_cons]
      cases hExecute : s.execute t with
      | error cause => exact hInduction hRest
      | ok outcome =>
          have hSame : outcome.2 = t :=
            Statement.tables_of_effect hRead hOld
              (Statement.effect_of_execute hExecute)
          simp only [hSame]
          exact hInduction hRest

/- What is seen is permanent if nobody is at work or was cut off. -/
theorem Course.IsKept.current_of_free
    (hKept : Course.IsKept initial log h none)
    (hWhole : ∀ j, ¬ IsCut (own j log)) :
    h.connection.current = h.connection.permanent := by
  rw [hKept.tallies.current, hKept.tallies.permanent,
    List.map_append, tablesAfter, List.foldl_append]
  refine tablesAfter_of_reading ?_
  intro s hMember
  rcases List.mem_map.mp hMember with ⟨x, hPending, rfl⟩
  refine ⟨eq_false_of_ne_true ?_, hKept.plain x hPending⟩
  intro hWrite
  rcases hKept.owned x hPending hWrite with ⟨hNobody, _⟩ | hCut
  · cases hNobody
  · exact hWhole x.1 hCut

------------------------------------------------------------
-- What Comes Later
------------------------------------------------------------

/-
  How a chronicle goes on after an earlier one: until a turn is
  taken everything stays pending, and the first turn decides on
  what was pending. What is kept later was done since.
-/
inductive Sequel
    (before h : Chronicle)
    (since : List Numbered) : Prop where
  | undecided
      (hTurns : h.turns = before.turns)
      (hKept : h.kept = before.kept)
      (hPending : h.pending = before.pending ++ since)
  | decided
      (turn : Nat × Bool)
      (more : List (Nat × Bool))
      (others : List Numbered)
      (hTurns : h.turns = before.turns ++ turn :: more)
      (hKept :
        h.kept =
          before.kept ++ (if turn.2 then before.pending else []) ++
            others)
      (hSince : (others ++ h.pending).Sublist since)

namespace Sequel

variable {before : Chronicle}
variable {since : List Numbered}

theorem execute
    {s : Statement}
    {after : Connection}
    (hSequel : Sequel before h since) :
    Sequel before (h.execute i s after) (since ++ [(i, s)]) := by
  cases hSequel with
  | undecided hTurns hKept hPending =>
      refine .undecided hTurns hKept ?_
      rw [← List.append_assoc, ← hPending]
      rfl
  | decided turn more others hTurns hKept hSince =>
      refine .decided turn more others hTurns hKept ?_
      change (others ++ (h.pending ++ [(i, s)])).Sublist _
      rw [← List.append_assoc]
      exact hSince.append_right _

/- A turn decides on what is pending. -/
theorem turn
    (isCommit : Bool)
    (hSequel : Sequel before h since)
    (hTurns : later.turns = h.turns ++ [(i, isCommit)])
    (hKept :
      later.kept = h.kept ++ if isCommit then h.pending else [])
    (hPending : later.pending = []) :
    Sequel before later since := by
  cases hSequel with
  | undecided hSame hKeptBefore hPendingBefore =>
      refine .decided (i, isCommit) []
        (if isCommit then since else []) ?_ ?_ ?_
      · rw [hTurns, hSame]
      · rw [hKept, hKeptBefore, hPendingBefore]
        cases isCommit <;> simp
      · rw [hPending]
        cases isCommit <;> simp
  | decided first more others hFirst hKeptBefore hSince =>
      refine .decided first (more ++ [(i, isCommit)])
        (others ++ if isCommit then h.pending else []) ?_ ?_ ?_
      · rw [hTurns, hFirst, List.append_assoc]
        rfl
      · rw [hKept, hKeptBefore, List.append_assoc]
      · rw [hPending, List.append_nil]
        cases isCommit with
        | true => exact hSince
        | false =>
            rw [if_neg Bool.false_ne_true, List.append_nil]
            exact (List.sublist_append_left _ _).trans hSince

theorem step
    (hDone : h.done = before.done ++ since)
    (hSequel : Sequel before h since)
    (hWrites : Writes i e h later) :
    ∃ since, later.done = before.done ++ since ∧
      Sequel before later since := by
  cases hWrites with
  | @executed _ s =>
      refine ⟨since ++ [(i, s)], ?_, hSequel.execute⟩
      rw [← List.append_assoc, ← hDone]
      rfl
  | failed =>
      refine ⟨since, hDone, ?_⟩
      cases hSequel with
      | undecided hTurns hKept hPending =>
          exact .undecided hTurns hKept hPending
      | decided turn more others hTurns hKept hSince =>
          exact .decided turn more others hTurns hKept hSince
  | committed =>
      exact ⟨since, hDone, hSequel.turn true rfl rfl rfl⟩
  | rolledBack =>
      exact ⟨since, hDone,
        hSequel.turn false rfl (List.append_nil _).symm rfl⟩
  | uncommitted => exact ⟨since, hDone, hSequel⟩
  | passed => exact ⟨since, hDone, hSequel⟩

end Sequel

theorem Course.exists_sequel
    {before : Chronicle}
    (hCourse : Course before owner log h last) :
    ∃ since, h.done = before.done ++ since ∧
      Sequel before h since := by
  induction hCourse with
  | start =>
      exact ⟨[], (List.append_nil _).symm,
        .undecided rfl rfl (List.append_nil _).symm⟩
  | step _ hWrites _ hInduction =>
      rcases hInduction with ⟨since, hDone, hSequel⟩
      exact hSequel.step hDone hWrites

namespace Chronicle

/- The first turn that was taken after some moment. -/
def turnSince
    (before h : Chronicle) : Option Bool :=
  (h.turns.drop before.turns.length).head?.map (·.2)

/-
  The statements up to some moment that last: what was pending
  does not if the first turn after it is a rollback.
-/
def lastingAt
    (before h : Chronicle) : List Numbered :=
  before.kept ++
    if turnSince before h = some false then [] else before.pending

end Chronicle

/- After a turn, what lasts is kept, and nothing else from before. -/
theorem Course.kept_of_turn
    {before : Chronicle}
    (hCourse : Course before owner log h last)
    (hTurn : before.turnSince h ≠ none) :
    ∃ others, h.kept = before.lastingAt h ++ others ∧
      others.Sublist (h.done.drop before.done.length) := by
  rcases hCourse.exists_sequel with ⟨since, hDone, hSequel⟩
  cases hSequel with
  | undecided hTurns =>
      refine (hTurn ?_).elim
      simp [Chronicle.turnSince, hTurns]
  | decided turn more others hTurns hKept hSince =>
      have hFirst : before.turnSince h = some turn.2 := by
        simp [Chronicle.turnSince, hTurns]
      refine ⟨others, ?_, ?_⟩
      · rw [hKept, Chronicle.lastingAt, hFirst]
        cases turn.2 <;> simp
      · rw [hDone, List.drop_left]
        exact (List.sublist_append_left _ _).trans hSince

------------------------------------------------------------
-- Reading at the Same Time
------------------------------------------------------------

/- A statement that only reads gives this answer. -/
def Statement.Answers
    (s : Statement)
    (t : Tables)
    (a : s.Answer) : Prop :=
  s.execute t = .ok (a, t)

/- What is answered is what is seen, pending or not. -/
theorem Writes.answers
    {s : Statement}
    {a : s.Answer}
    (hSelects : s.verb = "SELECT")
    (hWrites :
      Writes i (.asked (.statement s) (.ok a)) h later) :
    s.Answers h.connection.current a := by
  have hReading := Statement.isWrite_of_selects hSelects
  cases hWrites with
  | executed answer hRun hAnswer =>
      rcases hAnswer with hSame | ⟨_, hError⟩
      · cases hSame
        rcases Connection.exists_execute_of_run hRun with
          ⟨t, hExecute, _⟩
        have hSame : t = h.connection.current :=
          Statement.tables_of_effect hReading.1 hReading.2
            (Statement.effect_of_execute hExecute)
        rwa [hSame] at hExecute
      · cases hError
  | passed hOther => cases hOther

/- What lasts are all tables that are seen, or the permanent ones. -/
theorem Chronicle.Tallies.tablesAfter_lastingAt
    {before : Chronicle}
    (hTallies : before.Tallies initial) :
    tablesAfter initial.permanent
        ((before.lastingAt h).map (·.2)) =
      if before.turnSince h = some false then
        before.connection.permanent
      else before.connection.current := by
  unfold Chronicle.lastingAt
  split
  · rw [List.append_nil, hTallies.permanent]
  · exact hTallies.current.symm

/-
  Whoever reads between two exchanges of others is answered from
  all that took effect until then, be it permanent or pending
  for a transaction that is at work or was cut off. The answer
  is one of the tables that last exactly if what was pending is
  not rolled back next, or made no difference to it.
-/
theorem Course.read_is_clean_iff
    {before between : Chronicle}
    {s : Statement}
    {a : s.Answer}
    (hSettled : initial.IsSettled)
    (hSelects : s.verb = "SELECT")
    (hBefore : Course (.start initial) none older before owner)
    (hRead :
      Writes i (.asked (.statement s) (.ok a)) before between)
    (hAfter : Course between owner newer h last)
    (hParties :
      ∀ j, IsParty (own j
        (newer ++ (i, .asked (.statement s) (.ok a)) :: older))) :
    before.Tallies initial ∧
    s.Answers before.connection.current a ∧
    (∀ x ∈ before.pending, x.2.isWrite = true →
      Owned owner older x) ∧
    (owner = none → (∀ j, ¬ IsCut (own j older)) →
      before.connection.current = before.connection.permanent) ∧
    (before.turnSince h ≠ none →
      ∃ others, h.kept = before.lastingAt h ++ others ∧
        others.Sublist (h.done.drop before.done.length)) ∧
    (s.Answers
        (tablesAfter initial.permanent
          ((before.lastingAt h).map (·.2)))
        a ↔
      before.turnSince h ≠ some false ∨
        s.Answers before.connection.permanent a) := by
  have hOlder (j : Nat) : IsParty (own j older) := by
    have hParty := hParties j
    rw [own_append, ← List.singleton_append, own_append] at hParty
    exact hParty.of_append.of_append
  have hKept := hBefore.isKept hSettled hOlder
  have hSeen := hRead.answers hSelects
  have hCourse :
      Course before owner
        (newer ++ [(i, .asked (.statement s) (.ok a))]) h last :=
    .trans (.step .start hRead (.passed rfl)) hAfter
  refine ⟨hKept.tallies, hSeen, hKept.owned, ?_,
    hCourse.kept_of_turn, ?_⟩
  · rintro rfl hWhole
    exact hKept.current_of_free hWhole
  · rw [hKept.tallies.tablesAfter_lastingAt]
    split
    · rename_i hUndone
      exact ⟨Or.inr, fun hClean =>
        hClean.resolve_left (not_not_intro hUndone)⟩
    · rename_i hLasts
      exact ⟨fun _ => Or.inl hLasts, fun _ => hSeen⟩

/- What bindings are loaded is only read. -/
theorem only_loadBindings :
    ReactionRole.loadBindings.Only IsHarmless := by
  refine Only.bind (Only.bind (Only.request ?_) fun _ =>
    Only.request ?_) fun _ _ => trivial
  · exact fun _ => ⟨rfl, rfl⟩
  · exact fun _ => ⟨rfl, rfl⟩

/- A binding, and one that is to take its place. -/
def oldBinding : Binding :=
  ⟨1, 2, 7, checkMark, 3⟩

def newBinding : Binding :=
  ⟨1, 2, 8, checkMark, 3⟩

/- A connection to a file with the old binding. -/
def bound : Connection :=
  .ofTables
    { Tables.blank with
      bindings := [oldBinding], created := [.bindings] }

/- The old binding is dropped, and another party is to load. -/
def dropping : List (Nat × Exchange) :=
  [
    (1, .asked .reachStore (.ok ())),
    (0, .asked (.statement (.dropBindings 1)) (.ok ())),
    (0, .asked (.statement (.boundMessages 1)) (.ok [(7 : Int)])),
    (0, .asked (.statement (.isBound 8 checkMark)) (.ok false)),
    (0, .asked .lockStore (.ok ())),
    (0, .asked .reachStore (.ok ()))
  ]

/- The chronicle when they are loaded. -/
def dropped : Chronicle :=
  (((Chronicle.start bound).execute 0 (.isBound 8 checkMark)
    bound).execute 0 (.boundMessages 1) bound).execute 0
      (.dropBindings 1) (bound.run (.dropBindings 1)).2

/- What is loaded is remembered; the new binding is refused. -/
def undone : List (Nat × Exchange) :=
  [
    (0, .asked .unlockStore (.ok ())),
    (0, .asked .rollback (.ok ())),
    (0, .asked (.statement (.addBinding newBinding))
      (.error (.storageFault ""))),
    (1, .saw Memory.empty)
  ]

/- No binding is found. -/
def missing : Exchange :=
  .asked (.statement .allBindings) (.ok ([] : List Binding))

/- All that is exchanged. -/
def mingled : List (Nat × Exchange) :=
  undone ++ (1, missing) :: dropping

theorem runs_persist_mingled :
    Runs (ReactionRole.persist newBinding) (own 0 mingled)
      (.error (.storageFault "")) :=
  .ask _ (.ask _ (.ask _ (.ask _ (.ask _ (.ask _ (.ask _
    (.ask _ (.fail _))))))))

theorem runs_loadBindings_mingled :
    Runs ReactionRole.loadBindings (own 1 mingled) (.ok 0) :=
  .ask _ (.ask _ (.access _ (.done _)))

theorem isParty_mingled
    (j : Nat) :
    IsParty (own j mingled) := by
  refine ⟨[], ?_⟩
  rw [List.append_nil]
  match j with
  | 0 =>
      exact Or.inr ⟨_, _, _,
        ReactionRole.requests_filing newBinding,
        ReactionRole.endures_filing newBinding,
        runs_persist_mingled⟩
  | 1 =>
      exact Or.inl ⟨_, _, _, only_loadBindings,
        runs_loadBindings_mingled⟩
  | j + 2 =>
      exact Or.inl ⟨Unit, .done (), _, trivial, .done ()⟩

/- The old binding can be dropped while nobody else is at work. -/
theorem course_dropping :
    Course (.start bound) none dropping dropped (some 0) := by
  have hReached :
      Course (.start bound) none
        [(0, .asked .lockStore (.ok ())),
          (0, .asked .reachStore (.ok ()))]
        (.start bound) (some 0) :=
    .step (.step .start (.passed rfl) (.passed rfl))
      (.passed rfl) .taken
  have hAsked :=
    (hReached.execute 0 (s := .isBound 8 checkMark)
      (a := false) rfl).execute 0 (s := .boundMessages 1)
      (a := [(7 : Int)]) rfl
  exact (hAsked.execute 0 (s := .dropBindings 1) (a := ()) rfl).step
    (.passed rfl) (.passed rfl)

/-
  Bindings that are loaded while one is stored in vain are not
  those that stay: the one that is put back is missed.
-/
theorem Course.load_misses_binding :
    Runs (ReactionRole.persist newBinding) (own 0 mingled)
        (.error (.storageFault "")) ∧
      Runs ReactionRole.loadBindings (own 1 mingled) (.ok 0) ∧
      Course (.start bound) none dropping dropped (some 0) ∧
      ∃ h,
        Course dropped (some 0) (undone ++ [(1, missing)]) h
          none ∧
        h.connection = bound ∧
        ¬ Statement.allBindings.Answers
          (tablesAfter bound.permanent
            ((dropped.lastingAt h).map (·.2)))
          ([] : List Binding) := by
  have hRead :
      Writes 1 missing dropped
        (dropped.execute 1 .allBindings dropped.connection) :=
    .executed _ rfl (Or.inl rfl)
  have hAfter :
      Course
        (dropped.execute 1 .allBindings dropped.connection)
        (some 0) undone _ none :=
    .step (.step (.step (.step .start
      (.passed rfl) (.passed rfl))
      (.failed _ (Or.inl rfl)) (.passed rfl))
      (.rolledBack _ (Or.inl rfl)) (.passed rfl))
      (.passed rfl) (.released _)
  have hSettled : bound.IsSettled := rfl
  have hClean :=
    Course.read_is_clean_iff hSettled rfl course_dropping hRead
      hAfter isParty_mingled
  refine ⟨runs_persist_mingled, runs_loadBindings_mingled,
    course_dropping, _,
    .trans (.step .start hRead (.passed rfl)) hAfter, rfl, ?_⟩
  rw [hClean.2.2.2.2.2]
  rintro (hLasts | hOld)
  · exact hLasts rfl
  · cases hOld

end GuildWarden.Store
