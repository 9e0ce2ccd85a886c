import GuildWarden.Collection.IdMap

/-
  This file relates finite maps to their entries and finite
  sets to their members. A map is determined by its entries,
  in whatever order they are listed.

  Main statements:
    * `IdMap.find?_eq_some_iff`
    * `IdMap.ofList_eq_of_mem_iff`
    * `IdSet.contains_ofList_iff`
    * `IdSet.ofList_eq_of_mem_iff`
    * `IdSet.meets_ofList_iff`
-/

namespace GuildWarden

namespace IdEntries

variable {α : Type}
variable {es : List (Int × α)}
variable {k : Int}
variable {v : α}

/- Under ascending keys an entry is found by its key. -/
theorem lookup_eq_some_iff
    (hAscending : Ascending es) :
    es.lookup k = some v ↔ (k, v) ∈ es := by
  induction es with
  | nil => simp
  | cons e es hInduction =>
      obtain ⟨a, w⟩ := e
      rcases List.pairwise_cons.mp hAscending with
        ⟨hHead, hTail⟩
      rw [List.lookup_cons, List.mem_cons]
      by_cases hSame : k = a
      · subst hSame
        have hFound : (k == k) = true := by simp
        have hOnce : (k, v) ∉ es := by
          intro hMember
          exact Int.lt_irrefl k (hHead (k, v) hMember)
        simp [hOnce, eq_comm]
      · have hNotFound : (k == a) = false := by
          simpa using hSame
        simp [hNotFound, hSame, hInduction hTail]

end IdEntries

namespace IdMap

variable {α : Type}

theorem find?_eq_some_iff
    {m : IdMap α}
    {k : Int}
    {v : α} :
    m.find? k = some v ↔ (k, v) ∈ m.entries :=
  IdEntries.lookup_eq_some_iff m.ascending

theorem mem_keys_iff
    {m : IdMap α}
    {k : Int} :
    k ∈ m.keys ↔ m.contains k = true := by
  rw [contains, Option.isSome_iff_exists, keys, List.mem_map]
  constructor
  · rintro ⟨⟨_, v⟩, hMember, rfl⟩
    exact ⟨v, find?_eq_some_iff.mpr hMember⟩
  · rintro ⟨v, hFound⟩
    exact ⟨(k, v), find?_eq_some_iff.mp hFound, rfl⟩

/- The keys of a map to which entries are added. -/
theorem contains_foldl_insert_iff
    {es : List (Int × α)}
    {m : IdMap α}
    {k : Int} :
    (es.foldl (fun m e => m.insert e.1 e.2) m).contains k =
        true ↔
      m.contains k = true ∨ k ∈ es.map (·.1) := by
  induction es generalizing m with
  | nil => simp
  | cons e es hInduction =>
      have hInsert :
          (m.insert e.1 e.2).contains k = true ↔
            m.contains k = true ∨ k = e.1 := by
        rw [contains, find?_insert]
        by_cases hSame : k = e.1
        · simp [hSame]
        · simp [hSame, contains]
      rw [List.foldl_cons, hInduction, hInsert, List.map_cons,
        List.mem_cons, or_assoc]

/- An entry of a map to which entries are added is one of them. -/
theorem mem_foldl_insert
    {es : List (Int × α)}
    {m : IdMap α}
    {e : Int × α}
    (hMember :
      e ∈ (es.foldl (fun m e => m.insert e.1 e.2) m).entries) :
    e ∈ m.entries ∨ e ∈ es := by
  induction es generalizing m with
  | nil => exact Or.inl hMember
  | cons first es hInduction =>
      rcases hInduction hMember with hInserted | hLater
      · rcases IdEntries.key_of_mem_insert hInserted with
          rfl | hOld
        · exact Or.inr List.mem_cons_self
        · exact Or.inl hOld
      · exact Or.inr (List.mem_cons_of_mem first hLater)

/- A key has one value. -/
theorem value_unique
    {m : IdMap α}
    {k : Int}
    {v w : α}
    (hFirst : (k, v) ∈ m.entries)
    (hSecond : (k, w) ∈ m.entries) :
    v = w :=
  Option.some.inj
    ((find?_eq_some_iff.mpr hFirst).symm.trans
      (find?_eq_some_iff.mpr hSecond))

/- Maps with the same entries are equal, whatever their order. -/
theorem eq_of_mem_iff
    {m n : IdMap α}
    (hSame : ∀ e, e ∈ m.entries ↔ e ∈ n.entries) :
    m = n := by
  have hNodup (o : IdMap α) : o.entries.Nodup := by
    refine List.Pairwise.imp ?_ o.ascending
    rintro a b hBelow rfl
    exact Int.lt_irrefl _ hBelow
  have hPerm : m.entries.Perm n.entries :=
    (List.perm_ext_iff_of_nodup (hNodup m) (hNodup n)).mpr hSame
  refine ext (hPerm.eq_of_pairwise ?_ m.ascending n.ascending)
  intro a b _ _ hBelow hAbove
  exact (Int.lt_irrefl _ (Int.lt_trans hBelow hAbove)).elim

/- A map is made of its entries, in any order and often enough. -/
theorem ofList_eq_of_mem_iff
    {es : List (Int × α)}
    {m : IdMap α}
    (hSame : ∀ e, e ∈ es ↔ e ∈ m.entries) :
    ofList es = m := by
  have hListed {e : Int × α}
      (hMember : e ∈ (ofList es).entries) :
      e ∈ es := by
    rcases mem_foldl_insert hMember with hEmpty | hListed
    · exact (List.not_mem_nil hEmpty).elim
    · exact hListed
  apply eq_of_mem_iff
  intro e
  constructor
  · exact fun hMember => (hSame e).mp (hListed hMember)
  · intro hMember
    have hKey : (ofList es).contains e.1 = true := by
      rw [ofList, contains_foldl_insert_iff]
      exact Or.inr
        (List.mem_map_of_mem ((hSame e).mpr hMember))
    rw [contains, Option.isSome_iff_exists] at hKey
    rcases hKey with ⟨v, hFound⟩
    have hEntry := find?_eq_some_iff.mp hFound
    have hValue : v = e.2 :=
      value_unique ((hSame _).mp (hListed hEntry)) hMember
    rwa [hValue] at hEntry

end IdMap

namespace IdSet

variable {s : IdSet}
variable {ids : List Int}
variable {x : Int}

theorem contains_ofList_iff :
    (ofList ids).contains x = true ↔ x ∈ ids := by
  rw [ofList, IdMap.ofList, IdMap.contains_foldl_insert_iff]
  simp [IdMap.contains]

/- A set is made of its members, in any order. -/
theorem ofList_eq_of_mem_iff
    (hSame : ∀ x, x ∈ ids ↔ s.contains x = true) :
    ofList ids = s := by
  apply IdMap.ofList_eq_of_mem_iff
  rintro ⟨x, ⟨⟩⟩
  rw [List.mem_map]
  constructor
  · rintro ⟨y, hMember, hPair⟩
    rcases Prod.mk.inj hPair with ⟨rfl, _⟩
    rcases List.mem_map.mp
        (IdMap.mem_keys_iff.mpr ((hSame y).mp hMember)) with
      ⟨⟨z, ⟨⟩⟩, hEntry, rfl⟩
    exact hEntry
  · intro hEntry
    have hKey : s.contains x = true :=
      IdMap.mem_keys_iff.mp (List.mem_map.mpr ⟨_, hEntry, rfl⟩)
    exact ⟨x, (hSame x).mpr hKey, rfl⟩

theorem meets_ofList_iff :
    s.meets (ofList ids) = true ↔
      ∃ x, s.contains x = true ∧ x ∈ ids := by
  rw [meets, List.any_eq_true]
  constructor
  · rintro ⟨x, hMember, hThere⟩
    exact ⟨x, IdMap.mem_keys_iff.mp hMember,
      contains_ofList_iff.mp hThere⟩
  · rintro ⟨x, hContains, hListed⟩
    exact ⟨x, IdMap.mem_keys_iff.mpr hContains,
      contains_ofList_iff.mpr hListed⟩

end IdSet

end GuildWarden
