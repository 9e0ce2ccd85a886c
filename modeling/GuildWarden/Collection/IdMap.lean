/-
  This file defines finite maps keyed by ids and finite sets
  of ids. The entries are kept in ascending order of their
  keys, so that two maps with the same entries are equal.

  Key definitions include:
    * `IdMap`
    * `IdMap.find?`
    * `IdMap.insert`
    * `IdMap.erase`
    * `IdSet`
    * `IdSet.ofList`

  Main statements:
    * `IdMap.find?_insert`
    * `IdMap.find?_erase`
-/

namespace GuildWarden

------------------------------------------------------------
-- Entries
------------------------------------------------------------

namespace IdEntries

variable {α : Type}

/- The entries have strictly ascending keys. -/
def Ascending
    (es : List (Int × α)) : Prop :=
  es.Pairwise fun a b => a.1 < b.1

instance
    (es : List (Int × α)) :
    Decidable (Ascending es) := by
  unfold Ascending
  infer_instance

/- Put an entry at its place; an old entry of the key is replaced. -/
def insert
    (k : Int)
    (v : α) :
    List (Int × α) → List (Int × α)
  | [] => [(k, v)]
  | e :: es =>
    if k < e.1 then (k, v) :: e :: es
    else if k = e.1 then (k, v) :: es
    else e :: insert k v es

/- A key of the entries after an insertion is the new or an old one. -/
theorem key_of_mem_insert
    {k : Int}
    {v : α}
    {es : List (Int × α)}
    {x : Int × α}
    (hMem : x ∈ insert k v es) :
    x = (k, v) ∨ x ∈ es := by
  induction es with
  | nil => simpa [insert] using hMem
  | cons e es ih =>
    unfold insert at hMem
    split at hMem
    · simpa using hMem
    · split at hMem
      · rcases List.mem_cons.1 hMem with h | h
        · exact .inl h
        · exact .inr (List.mem_cons_of_mem _ h)
      · rcases List.mem_cons.1 hMem with h | h
        · exact .inr (h ▸ List.mem_cons_self)
        · rcases ih h with h | h
          · exact .inl h
          · exact .inr (List.mem_cons_of_mem _ h)

/- Insertion keeps the keys ascending. -/
theorem ascending_insert
    {es : List (Int × α)}
    (hAsc : Ascending es)
    (k : Int)
    (v : α) :
    Ascending (insert k v es) := by
  induction es with
  | nil => simp [insert, Ascending]
  | cons e es ih =>
    have hHead := (List.pairwise_cons.1 hAsc).1
    have hTail := (List.pairwise_cons.1 hAsc).2
    unfold insert
    split
    · next hlt =>
      refine List.pairwise_cons.2 ⟨?_, hAsc⟩
      intro x hx
      rcases List.mem_cons.1 hx with rfl | hx
      · exact hlt
      · exact Int.lt_trans hlt (hHead x hx)
    · split
      · next heq =>
        refine List.pairwise_cons.2 ⟨?_, hTail⟩
        intro x hx
        exact heq ▸ hHead x hx
      · next hge hne =>
        refine List.pairwise_cons.2 ⟨?_, ih hTail⟩
        intro x hx
        rcases key_of_mem_insert hx with rfl | hx
        · show e.1 < k
          omega
        · exact hHead x hx

/- Removing entries keeps the keys ascending. -/
theorem ascending_filter
    {es : List (Int × α)}
    (hAsc : Ascending es)
    (p : Int × α → Bool) :
    Ascending (es.filter p) :=
  List.Pairwise.filter p hAsc

/- Looking up after an insertion. -/
theorem lookup_insert
    {es : List (Int × α)}
    (hAsc : Ascending es)
    (k j : Int)
    (v : α) :
    (insert k v es).lookup j =
      if j = k then some v else es.lookup j := by
  induction es with
  | nil =>
    by_cases h : j = k
    · simp [insert, h]
    · have : (j == k) = false := by simpa using h
      simp only [insert, List.lookup_cons, this, h, if_false]
  | cons e es ih =>
    obtain ⟨a, w⟩ := e
    have ih := ih (List.pairwise_cons.1 hAsc).2
    unfold insert
    split
    · by_cases h : j = k
      · simp [h]
      · have : (j == k) = false := by simpa using h
        simp only [List.lookup_cons, this, h, if_false]
    · split
      · next heq =>
        simp only at heq
        subst heq
        by_cases h : j = k
        · simp [h]
        · have : (j == k) = false := by simpa using h
          simp only [List.lookup_cons, this, h, if_false]
      · next hlt hne =>
        simp only at hlt hne
        by_cases h : j = a
        · subst h
          have : ¬ j = k := fun he => hne he.symm
          simp [this]
        · have : (j == a) = false := by simpa using h
          simp only [List.lookup_cons, this, ih]

/- Looking up after the removal of a key. -/
theorem lookup_filter
    (es : List (Int × α))
    (k j : Int) :
    (es.filter fun e => e.1 != k).lookup j =
      if j = k then none else es.lookup j := by
  induction es with
  | nil => simp
  | cons e es ih =>
    obtain ⟨a, w⟩ := e
    by_cases ha : a = k
    · subst ha
      have hDrop : (a != a) = false := by simp
      simp only [List.filter, hDrop, ih]
      by_cases h : j = a
      · simp only [h, if_true]
      · have : (j == a) = false := by simpa using h
        simp only [h, if_false, List.lookup_cons, this]
    · have hKeep : (a != k) = true := by simpa using ha
      by_cases h : j = a
      · subst h
        simp [List.filter, hKeep, ha]
      · have : (j == a) = false := by simpa using h
        simp [List.filter, hKeep, List.lookup_cons, this, ih]

end IdEntries

------------------------------------------------------------
-- Maps
------------------------------------------------------------

/- A finite map from ids. -/
structure IdMap (α : Type) where
  entries : List (Int × α)
  ascending : IdEntries.Ascending entries

namespace IdMap

variable {α : Type}

/- Maps with the same entries are equal. -/
@[ext]
theorem ext
    {m n : IdMap α}
    (hEntries : m.entries = n.entries) :
    m = n := by
  cases m
  cases n
  simp only at hEntries
  subst hEntries
  rfl

instance [DecidableEq α] : DecidableEq (IdMap α) := fun m n =>
  if h : m.entries = n.entries then .isTrue (ext h)
  else .isFalse fun he => h (he ▸ rfl)

instance [Repr α] : Repr (IdMap α) where
  reprPrec m := reprPrec m.entries

/- The map without entries. -/
def empty : IdMap α where
  entries := []
  ascending := .nil

instance : Inhabited (IdMap α) :=
  ⟨empty⟩

/- The value of a key. -/
def find?
    (m : IdMap α)
    (k : Int) : Option α :=
  m.entries.lookup k

/- Whether a key has a value. -/
def contains
    (m : IdMap α)
    (k : Int) : Bool :=
  (m.find? k).isSome

/- Give a key a value. -/
def insert
    (m : IdMap α)
    (k : Int)
    (v : α) : IdMap α where
  entries := IdEntries.insert k v m.entries
  ascending := IdEntries.ascending_insert m.ascending k v

/- Take the value of a key away. -/
def erase
    (m : IdMap α)
    (k : Int) : IdMap α where
  entries := m.entries.filter fun e => e.1 != k
  ascending := IdEntries.ascending_filter m.ascending _

/- The map of a list of entries; a later entry wins. -/
def ofList
    (es : List (Int × α)) : IdMap α :=
  es.foldl (fun m e => m.insert e.1 e.2) empty

/- The keys, in ascending order. -/
def keys
    (m : IdMap α) : List Int :=
  m.entries.map (·.1)

/- Whether there is no entry. -/
def isEmpty
    (m : IdMap α) : Bool :=
  m.entries.isEmpty

/- Looking up in the empty map. -/
@[simp]
theorem find?_empty
    (k : Int) :
    (empty : IdMap α).find? k = none :=
  rfl

/- Looking up after an insertion. -/
theorem find?_insert
    (m : IdMap α)
    (k j : Int)
    (v : α) :
    (m.insert k v).find? j = if j = k then some v else m.find? j :=
  IdEntries.lookup_insert m.ascending k j v

/- Looking up after a removal. -/
theorem find?_erase
    (m : IdMap α)
    (k j : Int) :
    (m.erase k).find? j = if j = k then none else m.find? j :=
  IdEntries.lookup_filter m.entries k j

end IdMap

------------------------------------------------------------
-- Sets
------------------------------------------------------------

/- A finite set of ids. -/
abbrev IdSet :=
  IdMap Unit

namespace IdSet

/- The set of the members of a list. -/
def ofList
    (ids : List Int) : IdSet :=
  IdMap.ofList (ids.map fun i => (i, ()))

/- The members, in ascending order. -/
def toList
    (s : IdSet) : List Int :=
  s.keys

/- Whether two sets share a member. -/
def meets
    (s t : IdSet) : Bool :=
  s.toList.any t.contains

end IdSet

end GuildWarden
