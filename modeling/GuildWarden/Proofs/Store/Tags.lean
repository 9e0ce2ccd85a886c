import GuildWarden.Proofs.Store.Atomicity
import GuildWarden.Proofs.Store.Bans
import Mathlib.Data.List.Sort
import Mathlib.Data.String.Basic

/-
  This file says what statements make of the stored tags. The
  table holds at most one body under each key of a guild, as
  the keys of its rows are distinct.

  Key definitions include:
    * `Store.IsKeyed`
    * `Store.bodyOf`

  Main statements:
    * `Store.bodyOf_putRow`
    * `Store.bodyOf_without`
    * `Store.dropped_eq_isSome`
    * `Store.pairwise_sortedKeys`
    * `Store.mem_sortedKeys_iff`
-/

namespace GuildWarden.Store

/- The numbers of a statement that succeeds fit. -/
theorem Connection.fits_of_run
    {c later : Connection}
    {s : Statement}
    {answer : s.Answer}
    (hRun : c.run s = (.ok answer, later)) :
    s.numbers.all Statement.fits = true := by
  rcases Connection.exists_execute_of_run hRun with
    ⟨t, hExecute, _⟩
  unfold Statement.execute at hExecute
  split at hExecute
  · cases hExecute
  · split at hExecute
    · cases hExecute
    · rename_i hFits
      simpa using hFits

------------------------------------------------------------
-- Bodies Under Keys
------------------------------------------------------------

/- Whether a row is under a key of a guild. -/
def TagRow.isUnder
    (g : Int)
    (k : String)
    (r : TagRow) : Bool :=
  r.guildId == g && r.key == k

/- What the primary key of a row consists of. -/
def TagRow.place
    (r : TagRow) : Int × String :=
  (r.guildId, r.key)

/- No two rows have the same primary key. -/
def IsKeyed
    (rows : List TagRow) : Prop :=
  (rows.map TagRow.place).Nodup

/- The body under a key of a guild. -/
def bodyOf
    (rows : List TagRow)
    (g : Int)
    (k : String) : Option String :=
  (rows.find? (TagRow.isUnder g k)).map TagRow.body

/- The rows but those under a key of a guild. -/
def without
    (g : Int)
    (k : String)
    (rows : List TagRow) : List TagRow :=
  rows.filter fun r => !r.isUnder g k

/- The keys of a guild, each put at its place. -/
def sortedKeys
    (g : Int)
    (rows : List TagRow) : List String :=
  ((rows.filter fun r => r.guildId == g).map TagRow.key).foldl
    (fun acc k => Statement.insertText k acc) []

variable {g : Int}
variable {k : String}
variable {row r : TagRow}
variable {rows : List TagRow}

theorem TagRow.isUnder_iff :
    r.isUnder g k = true ↔ r.guildId = g ∧ r.key = k := by
  simp [isUnder]

theorem TagRow.sameTag_iff :
    row.sameTag r = true ↔ row.place = r.place := by
  simp [sameTag, place]

/- Rows of the same tag are under the same key. -/
theorem TagRow.isUnder_of_sameTag
    (hSame : row.sameTag r = true) :
    r.isUnder g k = row.isUnder g k := by
  simp only [sameTag, Bool.and_eq_true, beq_iff_eq] at hSame
  rw [isUnder, isUnder, hSame.1, hSame.2]

theorem TagRow.sameTag_of_isUnder
    (hRow : row.isUnder g k = true)
    (hOther : r.isUnder g k = true) :
    row.sameTag r = true := by
  rcases isUnder_iff.mp hRow with ⟨rfl, rfl⟩
  rcases isUnder_iff.mp hOther with ⟨hGuild, hKey⟩
  simp [sameTag, hGuild, hKey]

/- There is a body under the keys of the rows. -/
theorem isSome_bodyOf_iff :
    (bodyOf rows g k).isSome = true ↔
      ∃ r ∈ rows, r.guildId = g ∧ r.key = k := by
  simp [bodyOf, TagRow.isUnder]

------------------------------------------------------------
-- Writing and Deleting
------------------------------------------------------------

theorem IsKeyed.putRow
    (hKeyed : IsKeyed rows) :
    IsKeyed (putRow TagRow.sameTag row rows) :=
  nodup_map_putRow (fun _ => TagRow.sameTag_iff) hKeyed

theorem IsKeyed.without
    (hKeyed : IsKeyed rows) :
    IsKeyed (without g k rows) :=
  hKeyed.sublist (List.filter_sublist.map TagRow.place)

/- A row that is put replaces the body under its key. -/
theorem bodyOf_putRow :
    bodyOf (putRow TagRow.sameTag row rows) g k =
      if row.isUnder g k then some row.body
      else bodyOf rows g k := by
  unfold putRow
  split
  · rename_i hAny
    have hUnder :
        TagRow.isUnder g k ∘
            (fun r => if row.sameTag r then row else r) =
          TagRow.isUnder g k := by
      funext r
      rw [Function.comp_apply]
      split
      · rename_i hSame
        exact (TagRow.isUnder_of_sameTag hSame).symm
      · rfl
    rw [bodyOf, bodyOf, List.find?_map, hUnder]
    cases hFind : rows.find? (TagRow.isUnder g k) with
    | none =>
        rcases List.any_eq_true.mp hAny with
          ⟨r, hMember, hSame⟩
        have hOther := List.find?_eq_none.mp hFind r hMember
        rw [TagRow.isUnder_of_sameTag hSame] at hOther
        rw [if_neg hOther]
        rfl
    | some r =>
        have hFound := List.find?_some hFind
        by_cases hRow : row.isUnder g k = true
        · rw [if_pos hRow, Option.map_some, Option.map_some,
            if_pos (TagRow.sameTag_of_isUnder hRow hFound)]
        · rw [if_neg hRow, Option.map_some, Option.map_some,
            Option.map_some, if_neg]
          intro hSame
          rw [TagRow.isUnder_of_sameTag hSame] at hFound
          exact hRow hFound
  · rename_i hNone
    rw [bodyOf, bodyOf, List.find?_append]
    by_cases hRow : row.isUnder g k = true
    · have hAbsent :
          rows.find? (TagRow.isUnder g k) = none := by
        refine List.find?_eq_none.mpr ?_
        intro r hMember hFound
        exact hNone (List.any_eq_true.mpr
          ⟨r, hMember, TagRow.sameTag_of_isUnder hRow hFound⟩)
      rw [if_pos hRow, hAbsent, Option.none_or,
        List.find?_cons_of_pos hRow, Option.map_some]
    · rw [if_neg hRow, List.find?_cons_of_neg hRow,
        List.find?_nil, Option.or_none]

/- No body is left under a key whose rows are deleted. -/
theorem bodyOf_without
    {g' : Int}
    {k' : String} :
    bodyOf (without g' k' rows) g k =
      if g' = g ∧ k' = k then none else bodyOf rows g k := by
  simp only [bodyOf, without, List.find?_filter,
    Bool.decide_and, Bool.decide_eq_true]
  split
  · rename_i hSame
    rcases hSame with ⟨rfl, rfl⟩
    rw [Option.map_eq_none_iff, List.find?_eq_none]
    intro r _
    simp
  · rename_i hOther
    have hSame :
        (fun r => !TagRow.isUnder g' k' r &&
            TagRow.isUnder g k r) =
          TagRow.isUnder g k := by
      funext r
      cases hUnder : TagRow.isUnder g k r with
      | false => rw [Bool.and_false]
      | true =>
          rcases TagRow.isUnder_iff.mp hUnder with
            ⟨rfl, rfl⟩
          have hNot :
              TagRow.isUnder g' k' r = false := by
            refine eq_false_of_ne_true ?_
            intro hBoth
            rcases TagRow.isUnder_iff.mp hBoth with
              ⟨rfl, rfl⟩
            exact hOther ⟨rfl, rfl⟩
          rw [hNot]
          rfl
    rw [hSame]

/- Fewer rows are left just if there was a body. -/
theorem dropped_eq_isSome :
    ((without g k rows).length != rows.length) =
      (bodyOf rows g k).isSome := by
  rw [bodyOf, Option.isSome_map, Bool.eq_iff_iff,
    bne_iff_ne, List.find?_isSome, ne_eq, without,
    List.length_filter_eq_length_iff]
  simp

------------------------------------------------------------
-- Keys in Order
------------------------------------------------------------

theorem Statement.insertText_eq_orderedInsert
    {texts : List String} :
    insertText k texts =
      texts.orderedInsert (· ≤ ·) k := by
  induction texts with
  | nil => rfl
  | cons t texts hInduction =>
      rw [insertText, List.orderedInsert, hInduction]

/- Texts put at their places one by one are sorted. -/
theorem Statement.foldl_insertText_eq
    {keys : List String} :
    keys.foldl (fun acc k => insertText k acc) [] =
      keys.reverse.insertionSort (· ≤ ·) := by
  simp only [insertText_eq_orderedInsert,
    List.insertionSort, List.foldr_reverse]

/- The keys of a guild, before they are sorted. -/
theorem sortedKeys_perm :
    (sortedKeys g rows).Perm
      ((rows.filter fun r => r.guildId == g).map
        TagRow.key) := by
  rw [sortedKeys, Statement.foldl_insertText_eq]
  exact (List.perm_insertionSort _ _).trans
    (List.reverse_perm _)

/- The keys of a guild are listed once, and ascending. -/
theorem pairwise_sortedKeys
    (hKeyed : IsKeyed rows) :
    (sortedKeys g rows).Pairwise (· < ·) := by
  have hSorted :
      (sortedKeys g rows).Pairwise (· ≤ ·) := by
    rw [sortedKeys, Statement.foldl_insertText_eq]
    exact List.pairwise_insertionSort _ _
  have hOnce : (sortedKeys g rows).Nodup := by
    have hPlaces :
        (rows.filter fun r => r.guildId == g).map TagRow.key =
          ((rows.filter fun r => r.guildId == g).map
            TagRow.place).map Prod.snd := by
      rw [List.map_map]
      rfl
    rw [sortedKeys_perm.nodup_iff, hPlaces]
    refine List.Nodup.map_on ?_
      (hKeyed.sublist (List.filter_sublist.map TagRow.place))
    -- In one guild the key is the rest of the primary key.
    intro place hPlace place' hPlace' hKey
    rcases List.mem_map.mp hPlace with ⟨r, hMember, rfl⟩
    rcases List.mem_map.mp hPlace' with ⟨r', hMember', rfl⟩
    have hGuild := (List.mem_filter.mp hMember).2
    have hGuild' := (List.mem_filter.mp hMember').2
    rw [beq_iff_eq] at hGuild hGuild'
    exact Prod.ext (hGuild.trans hGuild'.symm) hKey
  exact (hSorted.and hOnce).imp fun hBoth =>
    lt_of_le_of_ne hBoth.1 hBoth.2

/- The keys of a guild are those with a body. -/
theorem mem_sortedKeys_iff :
    k ∈ sortedKeys g rows ↔
      (bodyOf rows g k).isSome = true := by
  rw [sortedKeys_perm.mem_iff, isSome_bodyOf_iff]
  simp [and_assoc]

end GuildWarden.Store
