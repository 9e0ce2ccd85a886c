import GuildWarden.Moderation.Ban
import GuildWarden.Proofs.Effect.Interleaving
import GuildWarden.Proofs.Store.Bans
import Mathlib.Tactic.ByContra

/-
  This file says what a ban and the lifting of bans ask for.
  A ban that took effect is stored right after; the lifting of
  bans bans nobody and stores nothing.

  Key definitions include:
    * `Program.Exchange.IsQuiet`
    * `Ban.storing`

  Main statements:
    * `Ban.runs_impose`
    * `Ban.asks_liftExpired`
-/

namespace GuildWarden

open Program

namespace Program.Exchange

/- A ban took effect on the platform. -/
def Bans
    (g u : Int) : Exchange → Prop
  | .asked (.platform (.ban g' u' _ _)) (.ok _) =>
    g' = g ∧ u' = u
  | _ => False

/- A ban was lifted on the platform. -/
def Unbans
    (g u : Int) : Exchange → Prop
  | .asked (.platform (.unban g' u' _)) (.ok _) =>
    g' = g ∧ u' = u
  | _ => False

/- The end of a ban is stored. -/
def Stores
    (g u : Int) : Exchange → Prop
  | .asked (.statement (.putBan row)) _ =>
    row.guildId = g ∧ row.userId = u
  | _ => False

/- The end of a ban is forgotten. -/
def Drops
    (g u : Int) : Exchange → Prop
  | .asked (.statement (.dropBan g' u')) _ =>
    g' = g ∧ u' = u
  | _ => False

/-
  An exchange that bans nobody, stores no end of a ban and
  undoes nothing.
-/
def IsQuiet : Exchange → Prop
  | .asked (.platform (.ban _ _ _ _)) (.ok _) => False
  | .asked (.statement (.putBan _)) _ => False
  | .asked .rollback _ => False
  | _ => True

/- What was written is undone. -/
def Undoes : Exchange → Prop
  | .asked .rollback _ => True
  | _ => False

variable {e : Exchange}
variable {g u : Int}

theorem IsQuiet.not_bans
    (hQuiet : e.IsQuiet) :
    ¬ e.Bans g u := by
  unfold Bans
  split
  · exact hQuiet.elim
  · exact id

theorem IsQuiet.not_stores
    (hQuiet : e.IsQuiet) :
    ¬ e.Stores g u := by
  unfold Stores
  split
  · exact hQuiet.elim
  · exact id

theorem IsQuiet.not_undoes
    (hQuiet : e.IsQuiet) :
    ¬ e.Undoes := by
  unfold Undoes
  split
  · exact hQuiet.elim
  · exact id

------------------------------------------------------------
-- The Stored Bans
------------------------------------------------------------

variable {before after : Store.Connection}
variable {row : Store.BanRow}

/- An exchange leaves the bans or executes a statement. -/
theorem bans_of_moves
    (hMoves : e.Moves before after)
    (hServed : e.IsServed)
    (hUndone : ¬ e.Undoes) :
    after.current.bans = before.current.bans ∨
      ∃ s answer, e = .asked (.statement s) (.ok answer) ∧
        after.current.bans =
          s.bansAfter before.current.bans := by
  cases e with
  | saw m => exact Or.inl (congrArg (·.current.bans) hMoves)
  | asked r answer =>
      cases r with
      | statement s =>
          rcases hServed with ⟨a, rfl⟩
          exact Or.inr ⟨s, a, rfl,
            Store.Connection.bans_of_run hMoves⟩
      | commit =>
          exact Or.inl (congrArg (·.current.bans) hMoves)
      | rollback => exact absurd trivial hUndone
      | _ => exact Or.inl (congrArg (·.current.bans) hMoves)

/- A row stays unless its user is forgotten or stored again. -/
theorem mem_bans_of_moves
    (hMember : row ∈ before.current.bans)
    (hMoves : e.Moves before after)
    (hServed : e.IsServed)
    (hUndone : ¬ e.Undoes)
    (hDropped : ¬ e.Drops row.guildId row.userId)
    (hStored : ¬ e.Stores row.guildId row.userId) :
    row ∈ after.current.bans := by
  rcases bans_of_moves hMoves hServed hUndone with
    hSame | ⟨s, answer, rfl, hBans⟩
  · rw [hSame]
    exact hMember
  · rw [hBans]
    cases s with
    | putBan row' =>
        refine Store.mem_putRow_of_ne ?_ hMember
        by_contra hAlike
        have hKey :
            row'.guildId = row.guildId ∧
              row'.userId = row.userId := by
          simpa [Store.BanRow.sameUser] using hAlike
        exact hStored hKey
    | dropBan g u =>
        refine List.mem_filter.mpr ⟨hMember, ?_⟩
        by_contra hAlike
        refine hDropped ?_
        have hKey : row.guildId = g ∧ row.userId = u := by
          simpa using hAlike
        exact ⟨hKey.1.symm, hKey.2.symm⟩
    | _ => exact hMember

/- A user who is not stored stays so until stored. -/
theorem absent_of_moves
    (hAbsent :
      ∀ row ∈ before.current.bans,
        ¬ (row.guildId = g ∧ row.userId = u))
    (hMoves : e.Moves before after)
    (hServed : e.IsServed)
    (hUndone : ¬ e.Undoes)
    (hStored : ¬ e.Stores g u) :
    ∀ row ∈ after.current.bans,
      ¬ (row.guildId = g ∧ row.userId = u) := by
  rcases bans_of_moves hMoves hServed hUndone with
    hSame | ⟨s, answer, rfl, hBans⟩
  · rw [hSame]
    exact hAbsent
  · rw [hBans]
    cases s with
    | putBan row' =>
        intro row hMember
        rcases Store.eq_or_mem_of_mem_putRow hMember with
          rfl | hOld
        · exact hStored
        · exact hAbsent row hOld
    | dropBan g' u' =>
        intro row hMember
        exact hAbsent row (List.mem_filter.mp hMember).1
    | _ => exact hAbsent

/- A user who is forgotten is not stored. -/
theorem absent_of_drops
    (hDrops : e.Drops g u)
    (hMoves : e.Moves before after)
    (hServed : e.IsServed) :
    ∀ row ∈ after.current.bans,
      ¬ (row.guildId = g ∧ row.userId = u) := by
  unfold Drops at hDrops
  split at hDrops
  · rename_i g' u' answer
    rcases hDrops with ⟨rfl, rfl⟩
    rcases hServed with ⟨a, rfl⟩
    rw [Store.Connection.bans_of_run hMoves]
    rintro row hMember ⟨hGuild, hUser⟩
    have hKept := (List.mem_filter.mp hMember).2
    simp [hGuild, hUser] at hKept
  · exact hDrops.elim

end Program.Exchange

namespace Ban

variable {g : Int}
variable {order : BanOrder}
variable {trace : List Exchange}

------------------------------------------------------------
-- Bans
------------------------------------------------------------

/- The row of a ban that is stored at a time. -/
def rowAt
    (g : Int)
    (order : BanOrder)
    (now : Rat) : Store.BanRow :=
  ⟨g, order.userId, now.floor + order.hours * 3600,
    order.reason⟩

/- What follows when a ban took effect. -/
def storing
    (g : Int)
    (order : BanOrder)
    (now : Rat) : List Exchange :=
  [.asked .now (.ok now),
    .asked .reachStore (.ok ()),
    .asked .lockStore (.ok ()),
    .asked (.statement (.putBan (rowAt g order now)))
      (.ok ()),
    .asked .commit (.ok ()),
    .asked .unlockStore (.ok ())]

/- A row is stored by one transaction. -/
theorem runs_putBan
    {row : Store.BanRow}
    {result : Except Cause Unit}
    (hServed : ∀ e ∈ trace, e.IsServed)
    (hRuns :
      Runs (Store.transaction (Store.execute (.putBan row)))
        trace result) :
    trace =
        [.asked .reachStore (.ok ()),
          .asked .lockStore (.ok ()),
          .asked (.statement (.putBan row)) (.ok ()),
          .asked .commit (.ok ()),
          .asked .unlockStore (.ok ())] ∧
      result = .ok () := by
  cases hRuns with
  | ask reached hLock =>
  rcases hServed (.asked .reachStore reached) (by simp) with
    ⟨_, rfl⟩
  cases hLock with
  | ask locked hPut =>
  rcases hServed (.asked .lockStore locked) (by simp) with
    ⟨_, rfl⟩
  cases hPut with
  | ask stored hCommit =>
  rcases hServed (.asked (.statement (.putBan row)) stored)
    (by simp) with ⟨_, rfl⟩
  cases hCommit with
  | ask committed hUnlock =>
  rcases hServed (.asked .commit committed) (by simp) with
    ⟨_, rfl⟩
  cases hUnlock with
  | ask unlocked hDone =>
  rcases hServed (.asked .unlockStore unlocked) (by simp) with
    ⟨_, rfl⟩
  cases hDone with
  | done => exact ⟨rfl, rfl⟩

/- The end of a ban is told by the clock and stored. -/
theorem runs_storing
    {result : Except Cause (Option Int)}
    (hServed : ∀ e ∈ trace, e.IsServed)
    (hRuns :
      Runs
        (clockSeconds.bind fun now =>
          (Store.transaction
            (Store.execute
              (.putBan
                ⟨g, order.userId, now + order.hours * 3600,
                  order.reason⟩))).bind fun _ =>
            .done (some (now + order.hours * 3600)))
        trace result) :
    ∃ now, trace = storing g order now ∧
      result = .ok (some (rowAt g order now).unbanAt) := by
  cases hRuns with
  | ask clock hStore =>
  rcases hServed (.asked .now clock) (by simp) with ⟨now, rfl⟩
  refine ⟨now, ?_⟩
  have hLater (e : Exchange)
      (hMember : e ∈ _) :
      e.IsServed :=
    hServed e (List.mem_cons_of_mem _ hMember)
  change
    Runs
      ((Store.transaction
        (Store.execute (.putBan (rowAt g order now)))).bind
          fun _ => .done (some (rowAt g order now).unbanAt))
      _ result at hStore
  rcases runs_bind_iff.mp hStore with
    ⟨cause, _, hFail⟩ | ⟨stored, _, after, rfl, hPut, hDone⟩
  · have hPut := runs_putBan hLater hFail
    cases hPut.2
  · rcases runs_done_iff.mp hDone with ⟨rfl, rfl⟩
    rw [List.append_nil] at hLater ⊢
    rw [(runs_putBan hLater hPut).1]
    exact ⟨rfl, rfl⟩

/- A notice bans nobody. -/
theorem asks_sendNotice
    (order : BanOrder) :
    (sendNotice order).Asks Exchange.IsQuiet := by
  refine asks_handling (asks_bind ?_ fun _ => trivial)
    fun _ => trivial
  refine asks_bind (asks_request fun _ _ => trivial) ?_
  intro channel
  refine asks_bind (asks_settle _) ?_
  intro channelId
  refine asks_bind (asks_settle _) ?_
  intro content
  exact asks_request fun _ _ => trivial

/- A ban for some hours that took effect is stored. -/
theorem runs_impose
    {result : Except Cause (Option Int)}
    (hHours : 0 < order.hours)
    (hServed : ∀ e ∈ trace, e.IsServed)
    (hRuns : Runs (impose g order) trace result) :
    (∀ e ∈ trace, e.IsQuiet) ∨
      ∃ before answer now,
        trace =
          before ++
            .asked
              (.platform
                (.ban g order.userId deletedSeconds
                  (some order.reason)))
              (.ok answer) :: storing g order now ∧
        (∀ e ∈ before, e.IsQuiet) ∧
          result = .ok (some (rowAt g order now).unbanAt) := by
  rcases runs_bind_iff.mp hRuns with
    ⟨cause, rfl, hFail⟩ | ⟨before, _, after, rfl, hNotice, hRest⟩
  · exact Or.inl
      (asks_of_runs hFail (asks_sendNotice order) hServed)
  · have hBefore : ∀ e ∈ before, e.IsQuiet :=
      asks_of_runs hNotice (asks_sendNotice order)
        fun e hMember =>
          hServed e (List.mem_append_left _ hMember)
    cases hRest with
    | ask answer hNext =>
        cases answer with
        | error cause =>
            rcases runs_fail_iff.mp hNext with ⟨rfl, rfl⟩
            refine Or.inl ?_
            intro e hMember
            rcases List.mem_append.mp hMember with
              hEarly | hBan
            · exact hBefore e hEarly
            · rw [List.mem_singleton.mp hBan]
              trivial
        | ok answer =>
            simp only [settle, Program.bind,
              Int.not_le.mpr hHours, bind_eq, pure_eq,
              if_false] at hNext
            rcases runs_storing
              (fun e hMember => hServed e (by simp [hMember]))
              hNext with ⟨now, rfl, rfl⟩
            exact Or.inr
              ⟨before, answer, now, rfl, hBefore, rfl⟩

------------------------------------------------------------
-- Lifting
------------------------------------------------------------

/- A row is dropped by one transaction. -/
theorem asks_forget
    (g u : Int) :
    (forget g u).Asks Exchange.IsQuiet := by
  intro reached hReached
  rcases hReached with ⟨_, rfl⟩
  refine ⟨trivial, ?_⟩
  intro locked hLocked
  rcases hLocked with ⟨_, rfl⟩
  refine ⟨trivial, ?_⟩
  intro dropped hDropped
  rcases hDropped with ⟨_, rfl⟩
  refine ⟨trivial, ?_⟩
  intro committed hCommitted
  rcases hCommitted with ⟨_, rfl⟩
  refine ⟨trivial, ?_⟩
  intro unlocked hUnlocked
  rcases hUnlocked with ⟨_, rfl⟩
  exact ⟨trivial, trivial⟩

theorem asks_lift
    (row : Store.BanRow) :
    (lift row).Asks Exchange.IsQuiet :=
  asks_handling
    (asks_bind
      (asks_bind (asks_request fun _ _ => trivial)
        fun _ => trivial)
      fun _ => trivial)
    fun _ => trivial

theorem asks_liftAll
    (rows : List Store.BanRow) :
    (liftAll rows).Asks Exchange.IsQuiet := by
  induction rows with
  | nil => trivial
  | cons row rows hInduction =>
      refine asks_bind (asks_lift row) ?_
      intro result
      have hRest :
          ((liftAll rows).bind fun n =>
            .done ((if result = .lifted then 1 else 0) +
              n)).Asks Exchange.IsQuiet :=
        asks_bind hInduction fun _ => trivial
      simp only
      split
      · exact hRest
      · exact asks_bind (asks_forget _ _) fun _ => hRest

/- The lifting of bans bans nobody and stores nothing. -/
theorem asks_liftExpired :
    liftExpired.Asks Exchange.IsQuiet := by
  refine asks_bind ?_ asks_liftAll
  refine asks_bind (asks_request fun _ _ => trivial) ?_
  intro reached
  refine asks_bind (asks_bind ?_ fun _ => trivial) ?_
  · exact asks_request fun _ _ => trivial
  · intro now
    exact asks_request fun _ _ => trivial

end Ban

end GuildWarden
