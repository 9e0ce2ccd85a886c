import GuildWarden.Proofs.Store.Bans
import GuildWarden.Proofs.Store.Interruption

/-
  This file follows whoever manages the store through openings
  that fail. An opening first connects and then prepares the
  file, statement by statement; any of them may be refused, and
  so may the commit at the end. A store counts as open once it
  is connected, so that an opening that fails after that leaves
  an open store, whose schema is as far as the preparation came
  and stays so: each further opening is ignored until the store
  is closed.

  Key definitions include:
    * `Store.Prepares`
    * `Store.Manager`
    * `Store.Manager.Does`
    * `Store.Manager.Lives`
    * `Store.Tables.Follows`

  Main statements:
    * `Store.Prepares.follows`
    * `Store.Manager.does_openStore`
    * `Store.Manager.follows_of_lives`
    * `Store.Manager.isOpen_iff_of_lives`
-/

namespace GuildWarden.Store

open Program
open Rehearsal (World)

variable {c : Connection}
variable {t : Tables}

------------------------------------------------------------
-- Statements
------------------------------------------------------------

namespace Tables

/- All tables are there, and the version of the schema is marked. -/
def IsComplete
    (t : Tables) : Prop :=
  (∀ n, t.has n = true) ∧ 1 ∈ t.versions

end Tables

/- Statements that make a table or mark a version. -/
def Statement.isOfSchema : Statement → Bool
  | .createTable _ => true
  | .markVersion _ => true
  | _ => false

/- Only a new table is created. -/
theorem Statement.created_of_effect
    {s : Statement}
    {t' : Tables}
    {answer : s.Answer}
    (hOld : ∀ n, s ≠ .createTable n)
    (hEffect : s.effect t = .ok (answer, t')) :
    t'.created = t.created := by
  cases s with
  | createTable n => exact absurd rfl (hOld n)
  | addBinding row => rw [(effect_addBinding hEffect).2]
  | markVersion v =>
      cases hEffect
      split <;> rfl
  | _ =>
      cases hEffect
      rfl

/- Only a mark changes the versions. -/
theorem Statement.versions_of_effect
    {s : Statement}
    {t' : Tables}
    {answer : s.Answer}
    (hOther : ∀ v, s ≠ .markVersion v)
    (hEffect : s.effect t = .ok (answer, t')) :
    t'.versions = t.versions := by
  cases s with
  | markVersion v => exact absurd rfl (hOther v)
  | addBinding row => rw [(effect_addBinding hEffect).2]
  | createTable n =>
      cases hEffect
      split <;> rfl
  | _ =>
      cases hEffect
      rfl

/- A statement that fails changes no table. -/
theorem tablesAfter_singleton
    (t : Tables)
    (s : Statement) :
    tablesAfter t [s] = t ∨
      ∃ answer, s.effect t = .ok (answer, tablesAfter t [s]) := by
  unfold tablesAfter
  rw [List.foldl_cons, List.foldl_nil]
  cases hExecute : s.execute t with
  | error cause => exact Or.inl rfl
  | ok outcome =>
      exact Or.inr
        ⟨outcome.1, Statement.effect_of_execute hExecute⟩

/- The tables are those that were there and those that are made. -/
theorem has_tablesAfter_singleton
    (t : Tables)
    (s : Statement)
    (n : TableName) :
    (tablesAfter t [s]).has n = true ↔
      t.has n = true ∨ s = .createTable n := by
  by_cases hOld : ∀ m, s ≠ .createTable m
  · have hCreated : (tablesAfter t [s]).created = t.created := by
      rcases tablesAfter_singleton t s with hSame | ⟨_, hEffect⟩
      · rw [hSame]
      · exact Statement.created_of_effect hOld hEffect
    rw [Tables.has, hCreated, or_iff_left (hOld n)]
    rfl
  · rcases Classical.not_forall_not.mp hOld with ⟨m, rfl⟩
    change
      (if t.has m then t
        else { t with created := t.created ++ [m] }).has n = true ↔ _
    rw [Statement.createTable.injEq]
    split
    · rename_i hHas
      constructor
      · exact Or.inl
      · rintro (hThere | rfl)
        · exact hThere
        · exact hHas
    · simp only [Tables.has, List.contains_eq_mem,
        List.mem_append, List.mem_singleton, decide_eq_true_eq,
        eq_comm (a := m)]

/- Only a mark changes the versions. -/
theorem versions_tablesAfter_singleton
    {s : Statement}
    (hOther : ∀ v, s ≠ .markVersion v) :
    (tablesAfter t [s]).versions = t.versions := by
  rcases tablesAfter_singleton t s with hSame | ⟨_, hEffect⟩
  · rw [hSame]
  · exact Statement.versions_of_effect hOther hEffect

/- A version is marked if there is a table for versions. -/
theorem mem_versions_markVersion
    (hHas : t.has .versions = true) :
    1 ∈ (tablesAfter t [.markVersion 1]).versions := by
  have hExecute :
      (Statement.markVersion 1).execute t =
        .ok ((), if t.versions.contains 1 then t
          else { t with versions := t.versions ++ [1] }) := by
    have hThere :
        (Statement.markVersion 1).lacksTable t = false := by
      simp [Statement.lacksTable, Statement.table?, hHas]
    have hFits :
        (Statement.markVersion 1).numbers.all Statement.fits =
          true := by
      decide
    rw [Statement.execute, hThere, hFits]
    rfl
  unfold tablesAfter
  rw [List.foldl_cons, List.foldl_nil, hExecute]
  simp only
  split
  · rename_i hMarked
    simpa using hMarked
  · exact List.mem_append_right _ (List.mem_singleton_self 1)

theorem tablesAfter_append
    (t : Tables)
    (ss ss' : List Statement) :
    tablesAfter t (ss ++ ss') = tablesAfter (tablesAfter t ss) ss' :=
  List.foldl_append

theorem tablesAfter_cons
    (t : Tables)
    (s : Statement)
    (ss : List Statement) :
    tablesAfter t (s :: ss) = tablesAfter (tablesAfter t [s]) ss :=
  rfl

theorem has_tablesAfter
    (ss : List Statement)
    (n : TableName) :
    (tablesAfter t ss).has n = true ↔
      t.has n = true ∨ .createTable n ∈ ss := by
  induction ss generalizing t with
  | nil => simp [tablesAfter]
  | cons s ss hInduction =>
      rw [tablesAfter_cons, hInduction, has_tablesAfter_singleton,
        List.mem_cons, or_assoc, eq_comm (a := s)]

theorem versions_tablesAfter
    {ss : List Statement}
    (hOther : ∀ v, .markVersion v ∉ ss) :
    (tablesAfter t ss).versions = t.versions := by
  induction ss generalizing t with
  | nil => rfl
  | cons s ss hInduction =>
      rw [tablesAfter_cons, hInduction,
        versions_tablesAfter_singleton]
      · rintro v rfl
        exact hOther v (.head _)
      · exact fun v hMember => hOther v (.tail _ hMember)

/- The tables after one statement, whether it fails or not. -/
theorem Connection.current_run
    (c : Connection)
    (s : Statement) :
    (c.run s).2.current = tablesAfter c.current [s] := by
  unfold Connection.run tablesAfter
  rw [List.foldl_cons, List.foldl_nil]
  cases s.execute c.current with
  | error cause => rfl
  | ok outcome => exact Connection.current_after _ _ _

/- A statement keeps what is permanent, or all becomes permanent. -/
theorem Connection.permanent_run
    (c : Connection)
    (s : Statement) :
    (c.run s).2.permanent = c.permanent ∨
      (c.run s).2.permanent = (c.run s).2.current := by
  unfold Connection.run
  cases s.execute c.current with
  | error cause => exact Or.inl rfl
  | ok outcome =>
      simp only [Connection.after]
      split
      · exact Or.inl rfl
      · exact Or.inr rfl

/- What only reads or creates leaves nothing pending. -/
theorem Connection.IsSettled.run
    {s : Statement}
    (hSettled : c.IsSettled)
    (hQuiet : s.isWrite = false) :
    (c.run s).2.IsSettled := by
  have hIdle : c.pending = false := by
    rw [hSettled]
    rfl
  unfold Connection.run
  cases s.execute c.current with
  | error cause =>
      simp only [hQuiet, Bool.or_false]
      exact hSettled
  | ok outcome =>
      simp only [Connection.after, hQuiet, hIdle]
      rfl

------------------------------------------------------------
-- Preparing
------------------------------------------------------------

/- The connection after statements, each of which is executed. -/
def carriedOut
    (c : Connection)
    (ss : List Statement) : Connection :=
  ss.foldl (fun c s => (c.run s).2) c

theorem current_carriedOut
    (c : Connection)
    (ss : List Statement) :
    (carriedOut c ss).current = tablesAfter c.current ss := by
  induction ss generalizing c with
  | nil => rfl
  | cons s ss hInduction =>
      rw [tablesAfter_cons, ← Connection.current_run]
      exact hInduction _

/- Nothing is pending unless something is written. -/
theorem isSettled_carriedOut
    {ss : List Statement}
    (hSettled : c.IsSettled)
    (hQuiet : ∀ s ∈ ss, s.isWrite = false) :
    (carriedOut c ss).IsSettled := by
  induction ss generalizing c with
  | nil => exact hSettled
  | cons s ss hInduction =>
      rw [List.forall_mem_cons] at hQuiet
      exact hInduction (hSettled.run hQuiet.1) hQuiet.2

/- What is prepared before the version is marked. -/
def groundwork : List Statement :=
  World.preparation.dropLast

theorem preparation_eq :
    World.preparation = groundwork ++ [.markVersion 1] :=
  rfl

theorem groundwork_isQuiet :
    ∀ s ∈ groundwork, s.isWrite = false := by
  decide

/-
  How a file is prepared: what has been carried out, how it
  ends, and the connection then. A statement that fails may
  have started pending work before it did; it changes nothing.
-/
inductive Prepares
    (file : Tables) :
    List Statement → Except Cause Unit → Connection → Prop where
  | refused
      {done rest : List Statement}
      {s : Statement}
      (hSplit : World.preparation = done ++ s :: rest)
      (cause : Cause)
      {c : Connection}
      (hAfter :
        c = carriedOut (.ofTables file) done ∨
          c = refuse (carriedOut (.ofTables file) done) s) :
      Prepares file done (.error cause) c
  | uncommitted
      (cause : Cause) :
      Prepares file World.preparation (.error cause)
        (carriedOut (.ofTables file) World.preparation)
  | committed :
      Prepares file World.preparation (.ok ())
        (carriedOut (.ofTables file) World.preparation).commit

/-
  What the tables have of the schema after an opening: what the
  file had, and what was carried out. A mark of the version
  that was not committed may be there or not.
-/
structure Tables.Follows
    (file : Tables)
    (done : List Statement)
    (result : Except Cause Unit)
    (t : Tables) : Prop where
  has : ∀ n,
    t.has n = true ↔ file.has n = true ∨ .createTable n ∈ done
  marked :
    1 ∈ file.versions ∨ result = .ok () → 1 ∈ t.versions
  unmarked :
    1 ∈ t.versions → 1 ∈ file.versions ∨ .markVersion 1 ∈ done

/- A statement that is not of the schema changes none of it. -/
theorem Tables.Follows.of_rows
    {file : Tables}
    {done : List Statement}
    {result : Except Cause Unit}
    {s : Statement}
    (hFollows : file.Follows done result t)
    (hRows : s.isOfSchema = false) :
    file.Follows done result (tablesAfter t [s]) := by
  have hVersions :
      (tablesAfter t [s]).versions = t.versions := by
    apply versions_tablesAfter_singleton
    rintro v rfl
    cases hRows
  refine ⟨fun n => ?_, ?_, ?_⟩
  · rw [has_tablesAfter_singleton, or_iff_left]
    · exact hFollows.has n
    · rintro rfl
      cases hRows
  · rw [hVersions]
    exact hFollows.marked
  · rw [hVersions]
    exact hFollows.unmarked

/- Both what is seen and what is permanent follow. -/
structure Connection.Follows
    (file : Tables)
    (done : List Statement)
    (result : Except Cause Unit)
    (c : Connection) : Prop where
  current : file.Follows done result c.current
  permanent : file.Follows done result c.permanent

variable {file : Tables}
variable {done : List Statement}
variable {result : Except Cause Unit}

theorem Tables.Follows.of_quiet
    (cause : Cause)
    (hQuiet : ∀ s ∈ done, s.isWrite = false) :
    file.Follows done (.error cause) (tablesAfter file done) where
  has := has_tablesAfter done
  marked := by
    rw [versions_tablesAfter fun v hMember =>
      Bool.noConfusion (hQuiet _ hMember)]
    rintro (hMarked | hDone)
    · exact hMarked
    · cases hDone
  unmarked := by
    rw [versions_tablesAfter fun v hMember =>
      Bool.noConfusion (hQuiet _ hMember)]
    exact Or.inl

/- The whole preparation marks the version. -/
theorem Tables.Follows.of_preparation
    (file : Tables)
    (result : Except Cause Unit) :
    file.Follows World.preparation result
      (tablesAfter file World.preparation) where
  has := has_tablesAfter World.preparation
  marked := by
    intro _
    have hHas :
        (tablesAfter file groundwork).has .versions = true := by
      rw [has_tablesAfter]
      exact Or.inr (by decide)
    rw [preparation_eq, tablesAfter_append]
    exact mem_versions_markVersion hHas
  unmarked := fun _ => Or.inr (by decide)

/- Before the mark is committed only the tables are permanent. -/
theorem Tables.Follows.of_groundwork
    (file : Tables)
    (cause : Cause) :
    file.Follows World.preparation (.error cause)
      (tablesAfter file groundwork) where
  has n := by
    rw [has_tablesAfter, preparation_eq, List.mem_append]
    simp
  marked :=
    (Follows.of_quiet cause groundwork_isQuiet).marked
  unmarked hMarked :=
    ((Follows.of_quiet cause groundwork_isQuiet).unmarked
      hMarked).imp_right fun hMark => List.mem_append_left _ hMark

/- What is carried out before a refusal is groundwork. -/
theorem mem_groundwork_of_split
    {rest : List Statement}
    {s : Statement}
    (hSplit : World.preparation = done ++ s :: rest) :
    ∀ s' ∈ done, s' ∈ groundwork := by
  intro s' hMember
  rw [groundwork, hSplit,
    List.dropLast_append_of_ne_nil (List.cons_ne_nil s rest)]
  exact List.mem_append_left _ hMember

/- The last of several statements alone may not be permanent. -/
theorem permanent_carriedOut_concat
    {ss : List Statement}
    (file : Tables)
    (hQuiet : ∀ s ∈ ss, s.isWrite = false)
    (s : Statement) :
    (carriedOut (.ofTables file) (ss ++ [s])).permanent =
        tablesAfter file ss ∨
      (carriedOut (.ofTables file) (ss ++ [s])).permanent =
        tablesAfter file (ss ++ [s]) := by
  have hSettled : (carriedOut (.ofTables file) ss).IsSettled :=
    isSettled_carriedOut rfl hQuiet
  have hBefore :
      (carriedOut (.ofTables file) ss).permanent =
        tablesAfter file ss :=
    (congrArg Connection.permanent hSettled).trans
      (current_carriedOut (.ofTables file) ss)
  have hAfter :
      (carriedOut (.ofTables file) (ss ++ [s])).current =
        tablesAfter file (ss ++ [s]) :=
    current_carriedOut (.ofTables file) (ss ++ [s])
  have hWhole :
      carriedOut (.ofTables file) (ss ++ [s]) =
        ((carriedOut (.ofTables file) ss).run s).2 := by
    rw [carriedOut, List.foldl_append]
    rfl
  rw [← hBefore, ← hAfter, hWhole]
  exact Connection.permanent_run _ _

theorem Tables.Follows.ofTables
    (hFollows : file.Follows done result t) :
    (Connection.ofTables t).Follows file done result :=
  ⟨hFollows, hFollows⟩

/- What was carried out shows in the tables. -/
theorem Prepares.follows
    (hPrepares : Prepares file done result c) :
    c.Follows file done result := by
  have hStart : (Connection.ofTables file).IsSettled := rfl
  cases hPrepares with
  | @refused _ rest s hSplit cause _ hAfter =>
      have hQuiet (s' : Statement) (hMember : s' ∈ done) :
          s'.isWrite = false :=
        groundwork_isQuiet s' (mem_groundwork_of_split hSplit s' hMember)
      have hSettled := isSettled_carriedOut hStart hQuiet
      have hCurrent : c.current = tablesAfter file done := by
        rcases hAfter with rfl | rfl <;>
          exact current_carriedOut _ done
      have hPermanent : c.permanent = tablesAfter file done := by
        rw [← hCurrent]
        rcases hAfter with rfl | rfl <;>
          exact congrArg Connection.permanent hSettled
      constructor
      · rw [hCurrent]
        exact .of_quiet cause hQuiet
      · rw [hPermanent]
        exact .of_quiet cause hQuiet
  | uncommitted cause =>
      constructor
      · rw [current_carriedOut]
        exact .of_preparation file _
      · rcases permanent_carriedOut_concat file groundwork_isQuiet
            (.markVersion 1) with hKept | hNew
        · rw [preparation_eq, hKept, ← preparation_eq]
          exact .of_groundwork file cause
        · rw [preparation_eq, hNew, ← preparation_eq]
          exact .of_preparation file _
  | committed =>
      have hCurrent :
          (carriedOut (.ofTables file) World.preparation).commit =
            .ofTables (tablesAfter file World.preparation) := by
        rw [Connection.commit, current_carriedOut]
        rfl
      rw [hCurrent]
      exact (Tables.Follows.of_preparation file _).ofTables

------------------------------------------------------------
-- Managing
------------------------------------------------------------

/- A store that is closed, with its file, or that is connected. -/
inductive Manager where
  | closed (file : Tables)
  | opened (c : Connection)
deriving DecidableEq

/- What is done with a store. -/
inductive Dealing where
  | ignored
  | unreached (cause : Cause)
  | connected
      (file : Tables)
      (done : List Statement)
      (result : Except Cause Unit)
  | used
  | closed

/- How an opening ends; the other dealings are no openings. -/
def Dealing.opening? : Dealing → Option (Except Cause Unit)
  | .ignored => some (.ok ())
  | .unreached cause => some (.error cause)
  | .connected _ _ result => some result
  | .used => none
  | .closed => none

/-
  What becomes of a store in each dealing with it. It is used
  by statements other than those of the schema, which may fail,
  and by committing or undoing them.
-/
inductive Manager.Does : Manager → Dealing → Manager → Prop where
  | ignored
      (c : Connection) :
      Does (.opened c) .ignored (.opened c)
  | unreached
      (file : Tables)
      (cause : Cause) :
      Does (.closed file) (.unreached cause) (.closed file)
  | connected
      {file : Tables}
      {done : List Statement}
      {result : Except Cause Unit}
      {c : Connection}
      (hPrepares : Prepares file done result c) :
      Does (.closed file) (.connected file done result) (.opened c)
  | ran
      {c : Connection}
      {s : Statement}
      (hRows : s.isOfSchema = false) :
      Does (.opened c) .used (.opened (c.run s).2)
  | failed
      {c after : Connection}
      {s : Statement}
      (hAfter : after = c ∨ after = refuse c s) :
      Does (.opened c) .used (.opened after)
  | committed
      (c : Connection) :
      Does (.opened c) .used (.opened c.commit)
  | undone
      (c : Connection) :
      Does (.opened c) .used (.opened c.rollback)
  | closed
      (c : Connection) :
      Does (.opened c) .closed (.closed c.permanent)
  | idle
      (file : Tables) :
      Does (.closed file) .closed (.closed file)

namespace Manager

/- Whether the store counts as open. -/
def isOpen : Manager → Bool
  | .closed _ => false
  | .opened _ => true

/- The tables as they are seen. -/
def tables : Manager → Tables
  | .closed file => file
  | .opened c => c.current

/- The dealings with a store since it was given on a file. -/
inductive Lives
    (file : Tables) : List Dealing → Manager → Prop where
  | start :
      Lives file [] (.closed file)
  | step
      {past : List Dealing}
      {m later : Manager}
      {d : Dealing}
      (hPast : Lives file past m)
      (hDoes : m.Does d later) :
      Lives file (past ++ [d]) later

/- The opening that connected, unless the store was closed since. -/
def session? : List Dealing →
    Option (Tables × List Statement × Except Cause Unit) :=
  List.foldl
    (fun last d =>
      match d with
      | .connected file done result => some (file, done, result)
      | .closed => none
      | _ => last)
    none

theorem session?_append
    (past : List Dealing)
    (d : Dealing) :
    session? (past ++ [d]) =
      match d with
      | .connected file done result => some (file, done, result)
      | .closed => none
      | _ => session? past :=
  List.foldl_concat _ _ _ _

------------------------------------------------------------
-- What Holds of a Store
------------------------------------------------------------

/-
  A store is open as its last connection left it, with what
  was carried out then, or there is none and it is closed.
-/
def Accords
    (m : Manager) :
    Option (Tables × List Statement × Except Cause Unit) → Prop
  | none => ∃ file, m = .closed file
  | some (file, done, result) =>
    ∃ first c, Prepares file done result first ∧
      m = .opened c ∧ c.Follows file done result

/- To use a store changes nothing of the schema. -/
theorem follows_of_used
    {later : Manager}
    (hFollows : c.Follows file done result)
    (hUsed : (opened c).Does .used later) :
    ∃ c', later = .opened c' ∧ c'.Follows file done result := by
  rcases hFollows with ⟨hCurrent, hPermanent⟩
  cases hUsed with
  | @ran _ s hRows =>
      have hNew : file.Follows done result (c.run s).2.current := by
        rw [Connection.current_run]
        exact hCurrent.of_rows hRows
      refine ⟨_, rfl, hNew, ?_⟩
      rcases Connection.permanent_run c s with hKept | hAll
      · rw [hKept]
        exact hPermanent
      · rw [hAll]
        exact hNew
  | failed hAfter =>
      rcases hAfter with rfl | rfl
      · exact ⟨_, rfl, hCurrent, hPermanent⟩
      · exact ⟨_, rfl, hCurrent, hPermanent⟩
  | committed => exact ⟨_, rfl, hCurrent.ofTables⟩
  | undone => exact ⟨_, rfl, hPermanent.ofTables⟩

/- Each dealing leaves the store as the dealings so far have it. -/
theorem accords_step
    {past : List Dealing}
    {m later : Manager}
    {d : Dealing}
    (hAccords : m.Accords (session? past))
    (hDoes : m.Does d later) :
    later.Accords (session? (past ++ [d])) := by
  rw [session?_append]
  cases hSession : session? past with
  | none =>
      rw [hSession] at hAccords
      rcases hAccords with ⟨file, rfl⟩
      cases hDoes with
      | unreached => exact ⟨_, rfl⟩
      | connected hPrepares =>
          exact ⟨_, _, hPrepares, rfl, hPrepares.follows⟩
      | idle => exact ⟨_, rfl⟩
  | some session =>
      rcases session with ⟨file, done, result⟩
      rw [hSession] at hAccords
      rcases hAccords with ⟨first, c, hPrepares, rfl, hFollows⟩
      cases d with
      | used =>
          rcases follows_of_used hFollows hDoes with
            ⟨c', rfl, hLater⟩
          exact ⟨first, c', hPrepares, rfl, hLater⟩
      | ignored =>
          cases hDoes
          exact ⟨first, c, hPrepares, rfl, hFollows⟩
      | closed =>
          cases hDoes
          exact ⟨_, rfl⟩
      | unreached cause => cases hDoes
      | connected file' done' result' => cases hDoes

theorem accords_of_lives
    {start : Tables}
    {past : List Dealing}
    {m : Manager}
    (hLives : Lives start past m) :
    m.Accords (session? past) := by
  induction hLives with
  | start => exact ⟨start, rfl⟩
  | step _ hDoes hInduction => exact accords_step hInduction hDoes

------------------------------------------------------------
-- Rehearsals
------------------------------------------------------------

end Manager

/- Who manages the store of a rehearsal. -/
def manager
    (w : World) : Manager :=
  match w.connection with
  | some c => .opened c
  | none => .closed w.file

/- A statement that fails of itself may start pending work. -/
theorem Connection.refuse_of_run
    {s : Statement}
    {cause : Cause}
    (hFails : (c.run s).1 = .error cause) :
    (c.run s).2 = refuse c s := by
  unfold Connection.run at hFails ⊢
  cases hExecute : s.execute c.current with
  | error cause' => rfl
  | ok outcome =>
      rw [hExecute] at hFails
      cases hFails

/- A statement is hit by a fault or run on the connection. -/
theorem execute_cases
    {w : World}
    (hConnection : w.connection = some c)
    (s : Statement) :
    ∃ w' : World,
      (∃ cause, w.execute s = (.error cause, w') ∧
        w'.connection = some c) ∨
      w.execute s = ((c.run s).1, w') ∧
        w'.connection = some (c.run s).2 := by
  unfold World.execute
  cases Rehearsal.takeFault s w.faults with
  | mk isHit faults =>
  cases isHit with
  | true =>
      refine ⟨{ w with faults }, Or.inl ⟨.storageFault "injected", ?_⟩⟩
      simp [hConnection]
  | false =>
      refine ⟨{ w with
        faults, connection := some (c.run s).2,
        file := (c.run s).2.permanent }, Or.inr ?_⟩
      simp [hConnection]

/- Statements are executed up to the first that fails. -/
theorem executeAll_cases
    {w : World}
    (hConnection : w.connection = some c)
    (ss : List Statement) :
    ∃ c', (w.executeAll ss).2.connection = some c' ∧
      ((w.executeAll ss).1 = .ok () ∧ c' = carriedOut c ss ∨
        ∃ done s rest cause, ss = done ++ s :: rest ∧
          (w.executeAll ss).1 = .error cause ∧
          (c' = carriedOut c done ∨
            c' = refuse (carriedOut c done) s)) := by
  induction ss generalizing w c with
  | nil => exact ⟨c, hConnection, Or.inl ⟨rfl, rfl⟩⟩
  | cons s ss hInduction =>
      unfold World.executeAll
      rcases execute_cases hConnection s with
        ⟨w', ⟨cause, hExecute, hAfter⟩ | ⟨hExecute, hAfter⟩⟩
      · rw [hExecute]
        exact ⟨c, hAfter,
          Or.inr ⟨[], s, ss, cause, rfl, rfl, Or.inl rfl⟩⟩
      · rw [hExecute]
        cases hRun : (c.run s).1 with
        | error cause =>
            exact ⟨_, hAfter,
              Or.inr ⟨[], s, ss, cause, rfl, rfl,
                Or.inr (Connection.refuse_of_run hRun)⟩⟩
        | ok answer =>
            rcases hInduction hAfter with
              ⟨c', hLater, ⟨hOk, hSame⟩ |
                ⟨done, s', rest, cause, rfl, hError, hKept⟩⟩
            · exact ⟨c', hLater, Or.inl ⟨hOk, hSame⟩⟩
            · exact ⟨c', hLater,
                Or.inr ⟨s :: done, s', rest, cause, rfl, hError,
                  hKept⟩⟩

/- A closed store is opened by preparing its file. -/
theorem prepares_openStore
    {w : World}
    (hClosed : w.connection = none)
    (hUsable : w.isFileUsable = true) :
    ∃ done c, Prepares w.file done w.openStore.1 c ∧
      w.openStore.2.connection = some c := by
  have hIdle : ¬w.isOpen = true := by
    simp [World.isOpen, hClosed]
  have hFile : ¬(!w.isFileUsable) = true := by
    simp [hUsable]
  unfold World.openStore
  rw [if_neg hIdle, if_neg hFile]
  have hCases :=
    executeAll_cases
      (w := { w with connection := some (.ofTables w.file) }) rfl
      World.preparation
  simp only at hCases ⊢
  generalize World.executeAll _ World.preparation = run
    at hCases ⊢
  rcases run with ⟨outcome, w'⟩
  rcases hCases with
    ⟨c, hAfter, ⟨hOk, hSame⟩ |
      ⟨done, s, rest, cause, hSplit, hError, hKept⟩⟩
  · simp only at hAfter hOk
    subst hOk
    refine ⟨World.preparation, c.commit, ?_, ?_⟩
    · rw [hSame]
      exact .committed
    · simp [World.commit, hAfter]
  · simp only at hAfter hError
    subst hError
    exact ⟨done, c, .refused hSplit cause hKept, hAfter⟩

/- To open the store of a rehearsal is one of the openings. -/
theorem does_openStore
    (w : World) :
    ∃ d, d.opening? = some w.openStore.1 ∧
      (manager w).Does d (manager w.openStore.2) := by
  cases hConnection : w.connection with
  | some c =>
      have hIgnored : w.openStore = (.ok (), w) := by
        simp [World.openStore, World.isOpen, hConnection]
      rw [hIgnored]
      refine ⟨.ignored, rfl, ?_⟩
      simp only [manager, hConnection]
      exact .ignored c
  | none =>
      cases hUsable : w.isFileUsable with
      | false =>
          have hUnreached :
              w.openStore = (.error (.storageFault ""), w) := by
            simp [World.openStore, World.isOpen, hConnection,
              hUsable]
          rw [hUnreached]
          refine ⟨.unreached (.storageFault ""), rfl, ?_⟩
          simp only [manager, hConnection]
          exact .unreached w.file _
      | true =>
          rcases prepares_openStore hConnection hUsable with
            ⟨done, c, hPrepares, hAfter⟩
          refine ⟨.connected w.file done w.openStore.1, rfl, ?_⟩
          simp only [manager, hConnection, hAfter]
          exact .connected hPrepares

/- So is closing it, and nothing more becomes permanent. -/
theorem does_closeStore
    {w : World}
    (hFiled : ∀ c, w.connection = some c →
      c.IsTidy ∧ w.file = c.permanent) :
    (manager w).Does .closed (manager w.closeStore) := by
  unfold manager
  cases hConnection : w.connection with
  | none =>
      have hClosed : w.closeStore = w := by
        simp [World.closeStore, World.isOpen, hConnection]
      rw [hClosed, hConnection]
      exact .idle w.file
  | some c =>
      rcases hFiled c hConnection with ⟨hTidy, hFile⟩
      have hClosed : w.closeStore.connection = none := by
        simp [World.closeStore, World.isOpen, hConnection]
      simp only [hClosed]
      rw [file_closeStore hConnection hTidy hFile]
      exact .closed c

------------------------------------------------------------
-- Openings
------------------------------------------------------------

/- A store is open exactly if it is open by some session. -/
theorem Manager.Accords.isOpen_iff
    {m : Manager}
    {session :
      Option (Tables × List Statement × Except Cause Unit)}
    (hAccords : m.Accords session) :
    m.isOpen = true ↔ session.isSome = true := by
  cases session with
  | none =>
      rcases hAccords with ⟨file, rfl⟩
      exact iff_of_false Bool.false_ne_true Bool.false_ne_true
  | some session =>
      rcases hAccords with ⟨first, c, hPrepares, rfl, hFollows⟩
      exact iff_of_true rfl rfl

/- An opening is ignored while the store is open, and only then. -/
theorem Manager.Does.of_opening
    {m later : Manager}
    {d : Dealing}
    {ended : Except Cause Unit}
    (hOpening : d.opening? = some ended)
    (hDoes : m.Does d later) :
    (m.isOpen = true → d = .ignored ∧ ended = .ok () ∧ later = m) ∧
      (m.isOpen = false → d ≠ .ignored) := by
  cases hDoes with
  | ignored c =>
      cases hOpening
      exact ⟨fun _ => ⟨rfl, rfl, rfl⟩, fun hClosed => by cases hClosed⟩
  | unreached file cause =>
      exact ⟨fun hOpen => (Bool.false_ne_true hOpen).elim,
        fun _ => Dealing.noConfusion⟩
  | connected hPrepares =>
      exact ⟨fun hOpen => (Bool.false_ne_true hOpen).elim,
        fun _ => Dealing.noConfusion⟩
  | _ => cases hOpening

/- After an opening that succeeded nothing is missing. -/
theorem Tables.Follows.isComplete
    (hFollows : file.Follows World.preparation (.ok ()) t) :
    t.IsComplete := by
  refine ⟨fun n => ?_, hFollows.marked (Or.inr rfl)⟩
  rw [hFollows.has]
  refine Or.inr ?_
  cases n <;> decide

/- After one that did not mark the version it is as in the file. -/
theorem Tables.Follows.isComplete_iff
    (hFollows : file.Follows done result t)
    (hUnmarked : .markVersion 1 ∉ done) :
    t.IsComplete ↔
      1 ∈ file.versions ∧
        ∀ n, file.has n = true ∨ .createTable n ∈ done := by
  simp only [IsComplete, hFollows.has]
  constructor
  · rintro ⟨hAll, hVersion⟩
    exact ⟨(hFollows.unmarked hVersion).resolve_right hUnmarked,
      hAll⟩
  · rintro ⟨hVersion, hAll⟩
    exact ⟨hAll, hFollows.marked (Or.inl hVersion)⟩

/-
  A store after any dealings with it. It counts as open exactly
  if an opening has connected since the last closing, however
  that opening ended; then any further opening is ignored, and
  else none is. The tables are those of the file and those made
  by that opening. The schema is complete if the opening
  succeeded; if it did not come as far as the version, then
  exactly if the file had a mark of it and no table is missing.
  An opening in a rehearsal is one of those considered here.
-/
theorem Manager.isOpen_iff_of_lives
    {start : Tables}
    {past : List Dealing}
    {m : Manager}
    (hLives : Lives start past m) :
    (m.isOpen = true ↔ (session? past).isSome = true) ∧
    (∀ d later ended, d.opening? = some ended → m.Does d later →
      (m.isOpen = true → d = .ignored ∧ ended = .ok () ∧ later = m) ∧
      (m.isOpen = false → d ≠ .ignored)) ∧
    (∀ file done result,
      session? past = some (file, done, result) →
        (∀ n, m.tables.has n = true ↔
          file.has n = true ∨ .createTable n ∈ done) ∧
        (result = .ok () → m.tables.IsComplete) ∧
        (.markVersion 1 ∉ done →
          (m.tables.IsComplete ↔
            1 ∈ file.versions ∧
              ∀ n, file.has n = true ∨ .createTable n ∈ done))) ∧
    ∀ w : World, manager w = m →
      ∃ d, d.opening? = some w.openStore.1 ∧
        m.Does d (manager w.openStore.2) := by
  have hAccords := accords_of_lives hLives
  refine ⟨hAccords.isOpen_iff, ?_, ?_, ?_⟩
  · intro d later ended hOpening hDoes
    exact hDoes.of_opening hOpening
  · intro file done result hSession
    rw [hSession] at hAccords
    rcases hAccords with ⟨first, c, hPrepares, rfl, hFollows⟩
    refine ⟨hFollows.current.has, ?_, ?_⟩
    · rintro rfl
      cases hPrepares
      exact hFollows.current.isComplete
    · exact hFollows.current.isComplete_iff
  · rintro w rfl
    exact does_openStore w

/- A new file on which the version cannot be marked at first. -/
def unmarkable : World :=
  { World.start [] 0 with
    faults := [⟨"INSERT", "schema_version", 1⟩] }

/-
  Its opening fails, and yet the store is open without the
  version; the next opening succeeds without doing anything.
-/
theorem failed_opening_stays_open :
    unmarkable.openStore.1 = .error (.storageFault "injected") ∧
      (manager unmarkable.openStore.2).isOpen = true ∧
      ¬(manager unmarkable.openStore.2).tables.IsComplete ∧
      ∀ d later ended, d.opening? = some ended →
        (manager unmarkable.openStore.2).Does d later →
          ended = .ok () ∧ later = manager unmarkable.openStore.2 := by
  have hAfter :
      manager unmarkable.openStore.2 =
        .opened (carriedOut (.ofTables .blank) groundwork) := by
    decide +kernel
  have hLives :
      Manager.Lives .blank
        ([] ++ [.connected .blank groundwork
          (.error (.storageFault "injected"))])
        (manager unmarkable.openStore.2) := by
    rw [hAfter]
    exact .step .start (.connected
      (.refused preparation_eq _ (Or.inl rfl)))
  rcases Manager.isOpen_iff_of_lives hLives with
    ⟨hOpen, hOpenings, hSchema, _⟩
  refine ⟨by decide +kernel, hOpen.mpr rfl, ?_, ?_⟩
  · rw [(hSchema _ _ _ rfl).2.2 (by decide)]
    rintro ⟨hVersion, _⟩
    cases hVersion
  · intro d later ended hOpening hDoes
    exact ((hOpenings d later ended hOpening hDoes).1
      (hOpen.mpr rfl)).2

end GuildWarden.Store
