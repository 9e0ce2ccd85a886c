import GuildWarden.Proofs.Collection.IdMap
import GuildWarden.Proofs.Effect.Runs
import GuildWarden.Proofs.Number.Range
import GuildWarden.Settings.Convert
import Mathlib.Data.String.Basic

/-
  This file says which values of a configuration document can
  be taken as a text, as a number, as a set of ids or as a set
  of names, and what is taken from those that can. The tests
  look at the kind of a value and not at its conversion.

  Key definitions include:
    * `Yaml.Value.Within`
    * `Yaml.Value.HasText`
    * `Yaml.Value.HasNumber`
    * `Yaml.Value.HasInteger`
    * `Yaml.Value.HasNames`
    * `Yaml.Value.ListsIds`
    * `Yaml.Value.ListsNames`
    * `Yaml.Value.Refuses`

  Main statements:
    * `Yaml.Value.written_eq_ok_iff`
    * `Yaml.Value.exists_toBinary64_iff`
    * `Yaml.Value.exists_toInteger_iff`
    * `Yaml.Value.toIds_eq_ok_iff`
    * `Yaml.Value.toNames_eq_ok_iff`
-/

namespace GuildWarden.Yaml.Value

open GuildWarden.Number

variable {v : Value}

------------------------------------------------------------
-- Texts
------------------------------------------------------------

/- The parts of a value, itself and all that it holds. -/
inductive Within
    (part : Value) : Value → Prop where
  | whole : Within part part
  | first
      {a b : Value}
      (hPart : Within part a) :
      Within part (.pair a b)
  | second
      {a b : Value}
      (hPart : Within part b) :
      Within part (.pair a b)
  | item
      {v : Value}
      {items : List Value}
      (hItem : v ∈ items)
      (hPart : Within part v) :
      Within part (.list items)
  | member
      {v : Value}
      {members : List Value}
      (hMember : v ∈ members)
      (hPart : Within part v) :
      Within part (.set members)
  | key
      {e : Value × Value}
      {es : List (Value × Value)}
      (hEntry : e ∈ es)
      (hPart : Within part e.1) :
      Within part (.map es)
  | entry
      {e : Value × Value}
      {es : List (Value × Value)}
      (hEntry : e ∈ es)
      (hPart : Within part e.2) :
      Within part (.map es)

/- No whole number in a value has too many digits. -/
def HasText
    (v : Value) : Prop :=
  ∀ n : Int, Within (.int n) v → n.natAbs < Nat.pow 10 digitLimit

theorem hasText_int_iff
    {n : Int} :
    HasText (.int n) ↔ n.natAbs < Nat.pow 10 digitLimit := by
  constructor
  · exact fun hText => hText n .whole
  · intro hDigits m hWithin
    cases hWithin
    exact hDigits

theorem hasText_pair_iff
    {a b : Value} :
    HasText (.pair a b) ↔ a.HasText ∧ b.HasText := by
  constructor
  · exact fun hText =>
      ⟨fun n hPart => hText n (.first hPart),
        fun n hPart => hText n (.second hPart)⟩
  · rintro ⟨hFirst, hSecond⟩ n hWithin
    cases hWithin with
    | first hPart => exact hFirst n hPart
    | second hPart => exact hSecond n hPart

theorem hasText_list_iff
    {items : List Value} :
    HasText (.list items) ↔ ∀ v ∈ items, v.HasText := by
  constructor
  · exact fun hText v hItem n hPart => hText n (.item hItem hPart)
  · intro hItems n hWithin
    cases hWithin with
    | item hItem hPart => exact hItems _ hItem n hPart

theorem hasText_set_iff
    {members : List Value} :
    HasText (.set members) ↔ ∀ v ∈ members, v.HasText := by
  constructor
  · exact fun hText v hMember n hPart =>
      hText n (.member hMember hPart)
  · intro hMembers n hWithin
    cases hWithin with
    | member hMember hPart => exact hMembers _ hMember n hPart

theorem hasText_map_iff
    {es : List (Value × Value)} :
    HasText (.map es) ↔
      ∀ e ∈ es, e.1.HasText ∧ e.2.HasText := by
  constructor
  · exact fun hText e hEntry =>
      ⟨fun n hPart => hText n (.key hEntry hPart),
        fun n hPart => hText n (.entry hEntry hPart)⟩
  · intro hEntries n hWithin
    cases hWithin with
    | key hEntry hPart => exact (hEntries _ hEntry).1 n hPart
    | entry hEntry hPart => exact (hEntries _ hEntry).2 n hPart

mutual

theorem isWritable_iff
    (v : Value) : v.isWritable = true ↔ v.HasText := by
  cases v with
  | int n => rw [isWritable, decide_eq_true_eq, hasText_int_iff]
  | pair a b =>
      rw [isWritable, Bool.and_eq_true, isWritable_iff a,
        isWritable_iff b, hasText_pair_iff]
  | list items =>
      rw [isWritable, areWritable_iff items, hasText_list_iff]
  | set members =>
      rw [isWritable, areWritable_iff members, hasText_set_iff]
  | map es =>
      rw [isWritable, entriesAreWritable_iff es, hasText_map_iff]
  | _ =>
      constructor
      · intro _ n hWithin
        cases hWithin
      · exact fun _ => rfl

theorem areWritable_iff
    (vs : List Value) :
    areWritable vs = true ↔ ∀ v ∈ vs, v.HasText := by
  cases vs with
  | nil =>
      simp only [areWritable, List.not_mem_nil, false_implies,
        implies_true]
  | cons v vs =>
      rw [areWritable, Bool.and_eq_true, isWritable_iff v,
        areWritable_iff vs, List.forall_mem_cons]

theorem entriesAreWritable_iff
    (es : List (Value × Value)) :
    entriesAreWritable es = true ↔
      ∀ e ∈ es, e.1.HasText ∧ e.2.HasText := by
  match es with
  | [] =>
      simp only [entriesAreWritable, List.not_mem_nil,
        false_implies, implies_true]
  | (k, v) :: es =>
      rw [entriesAreWritable, Bool.and_eq_true, Bool.and_eq_true,
        isWritable_iff k, isWritable_iff v,
        entriesAreWritable_iff es, List.forall_mem_cons]

end

theorem written_eq_ok_iff
    {text : String} :
    v.written = .ok text ↔ v.HasText ∧ v.display = text := by
  rw [← isWritable_iff, written]
  split
  · next hWritable =>
      rw [Except.ok.injEq, and_iff_right hWritable]
  · next hNone =>
      constructor
      · nofun
      · exact fun hText => absurd hText.1 hNone

------------------------------------------------------------
-- Numbers
------------------------------------------------------------

/- A value that a floating-point number can be made of. -/
def HasNumber : Value → Prop
  | .bool _ => True
  | .int n => n.natAbs < Binary64.overflow
  | .float _ => True
  | .text s => (readBinary64? s.toList).isSome = true
  | .octets bs => (readBinary64? (octetChars bs)).isSome = true
  | _ => False

/- A value that a whole number can be made of. -/
def HasInteger : Value → Prop
  | .bool _ => True
  | .int _ => True
  | .float (.finite _ _ _) => True
  | .text s => (readInteger? s.toList).isSome = true
  | .octets bs => (readInteger? (octetChars bs)).isSome = true
  | _ => False

theorem exists_orBadValue_iff
    {α : Type}
    {a? : Option α} :
    (∃ a, orBadValue a? = .ok a) ↔ a?.isSome = true := by
  cases a? with
  | none => exact ⟨nofun, nofun⟩
  | some a => exact ⟨fun _ => rfl, fun _ => ⟨a, rfl⟩⟩

/- A whole number in range is rounded to a finite one. -/
theorem floatOfInteger_natCast
    {n : Nat}
    (hSmall : n < Binary64.overflow) :
    floatOfInteger n = .ok (Binary64.ofRatio false n 1) := by
  rw [floatOfInteger, Binary64.ofInteger?_natCast hSmall]

theorem exists_floatOfInteger_iff
    {n : Int} :
    (∃ x, floatOfInteger n = .ok x) ↔
      n.natAbs < Binary64.overflow := by
  rw [← Nat.not_le, ← Binary64.ofInteger?_eq_none_iff,
    floatOfInteger]
  cases Binary64.ofInteger? n with
  | none => exact ⟨nofun, fun hSome => absurd rfl hSome⟩
  | some x => exact ⟨fun _ => nofun, fun _ => ⟨x, rfl⟩⟩

theorem exists_toBinary64_iff :
    (∃ x, v.toBinary64 = .ok x) ↔ v.HasNumber := by
  cases v with
  | bool b =>
      have hSmall :
          (if b then 1 else 0 : Int).natAbs < Binary64.overflow := by
        apply Binary64.lt_topTie
        cases b <;> decide
      exact ⟨fun _ => trivial,
        fun _ => exists_floatOfInteger_iff.mpr hSmall⟩
  | int n => exact exists_floatOfInteger_iff
  | float x => exact ⟨fun _ => trivial, fun _ => ⟨x, rfl⟩⟩
  | text s => exact exists_orBadValue_iff
  | octets bs => exact exists_orBadValue_iff
  | _ => exact ⟨nofun, nofun⟩

theorem exists_toInteger_iff :
    (∃ n, v.toInteger = .ok n) ↔ v.HasInteger := by
  cases v with
  | bool b => exact ⟨fun _ => trivial, fun _ => ⟨_, rfl⟩⟩
  | int n => exact ⟨fun _ => trivial, fun _ => ⟨n, rfl⟩⟩
  | float x =>
      cases x with
      | finite negative m e =>
          exact ⟨fun _ => trivial, fun _ => ⟨_, rfl⟩⟩
      | _ => exact ⟨nofun, nofun⟩
  | text s => exact exists_orBadValue_iff
  | octets bs => exact exists_orBadValue_iff
  | _ => exact ⟨nofun, nofun⟩

------------------------------------------------------------
-- Ids
------------------------------------------------------------

/- A floating-point number that is infinite. -/
def IsInfinite
    (v : Value) : Prop :=
  ∃ negative, v = .float (.infinite negative)

/- The id of a value; one that is no number has none. -/
def NamesId
    (v : Value)
    (id? : Option Int) : Prop :=
  ¬v.IsInfinite ∧ v.toInteger.toOption = id?

/- A set of the ids of the members of a value. -/
def ListsIds
    (v : Value)
    (ids : IdSet) : Prop :=
  (∀ m ∈ v.asMembers, ¬m.IsInfinite) ∧
    ∀ n, ids.contains n = true ↔
      ∃ m ∈ v.asMembers, m.toInteger = .ok n

/- Only an infinite number is refused for its size. -/
theorem toInteger_cases
    (v : Value) :
    v.IsInfinite ∧ v.toInteger = .error .outOfRange ∨
      ¬v.IsInfinite ∧
        ((∃ n, v.toInteger = .ok n) ∨
          v.toInteger = .error .badType ∨
          v.toInteger = .error (.badValue "")) := by
  have hRead (n? : Option Int) :
      (∃ n, orBadValue n? = .ok n) ∨
        orBadValue n? = .error .badType ∨
        orBadValue n? = .error (.badValue "") := by
    cases n? with
    | none => exact Or.inr (Or.inr rfl)
    | some n => exact Or.inl ⟨n, rfl⟩
  cases v with
  | float x =>
      cases x with
      | nan => exact Or.inr ⟨nofun, Or.inr (Or.inr rfl)⟩
      | infinite negative => exact Or.inl ⟨⟨negative, rfl⟩, rfl⟩
      | finite negative m e =>
          exact Or.inr ⟨nofun, Or.inl ⟨_, rfl⟩⟩
  | bool b => exact Or.inr ⟨nofun, Or.inl ⟨_, rfl⟩⟩
  | int n => exact Or.inr ⟨nofun, Or.inl ⟨n, rfl⟩⟩
  | text s => exact Or.inr ⟨nofun, hRead _⟩
  | octets bs => exact Or.inr ⟨nofun, hRead _⟩
  | _ => exact Or.inr ⟨nofun, Or.inr (Or.inl rfl)⟩

theorem toId?_eq_ok_iff
    {id? : Option Int} :
    v.toId? = .ok id? ↔ v.NamesId id? := by
  rw [toId?, NamesId]
  rcases toInteger_cases v with
    ⟨hInfinite, hRead⟩ |
      ⟨hFinite, ⟨n, hRead⟩ | hRead | hRead⟩
  · rw [hRead]
    exact ⟨nofun, fun hNames => absurd hInfinite hNames.1⟩
  all_goals
    rw [hRead, and_iff_right hFinite]
    exact iff_of_eq (Except.ok.injEq _ _)

/- Only an infinite number stands in the way of an id. -/
theorem exists_namesId_iff :
    (∃ id?, v.NamesId id?) ↔ ¬v.IsInfinite := by
  simp only [NamesId, exists_and_left, exists_eq', and_true]

/- The numbers among the members that are read. -/
theorem mem_filterMap_of_mapM
    {members : List Value}
    {ids? : List (Option Int)}
    {n : Int}
    (hRead : members.mapM toId? = .ok ids?) :
    n ∈ ids?.filterMap id ↔
      ∃ m ∈ members, m.toInteger = .ok n := by
  have hId (m : Value) :
      m.toId? = .ok (some n) ↔ m.toInteger = .ok n := by
    rw [toId?_eq_ok_iff, NamesId]
    rcases toInteger_cases m with
      ⟨hInfinite, hRefused⟩ | ⟨hFinite, _⟩
    · simp [hInfinite, hRefused]
    · rw [and_iff_right hFinite]
      cases m.toInteger with
      | error cause => exact ⟨nofun, nofun⟩
      | ok k => simp [Except.toOption]
  rw [List.mem_filterMap]
  simp only [id_eq, exists_eq_right, Cause.mem_mapM_iff hRead, hId]

/- Members are read as ids unless one of them is infinite. -/
theorem exists_mapM_toId?_iff
    {members : List Value} :
    (∃ ids?, members.mapM toId? = .ok ids?) ↔
      ∀ m ∈ members, ¬m.IsInfinite := by
  simp only [Cause.exists_mapM_iff, toId?_eq_ok_iff,
    exists_namesId_iff]

theorem toIds_eq_ok_iff
    {ids : IdSet} :
    v.toIds = .ok ids ↔ v.ListsIds ids := by
  rw [toIds, Cause.bind_eq_ok_iff, ListsIds, ← exists_mapM_toId?_iff]
  constructor
  · rintro ⟨ids?, hRead, hIds⟩
    cases hIds
    refine ⟨⟨ids?, hRead⟩, fun n => ?_⟩
    rw [IdSet.contains_ofList_iff, mem_filterMap_of_mapM hRead]
  · rintro ⟨⟨ids?, hRead⟩, hIds⟩
    refine ⟨ids?, hRead, congrArg Except.ok ?_⟩
    apply IdSet.ofList_eq_of_mem_iff
    intro n
    rw [hIds, mem_filterMap_of_mapM hRead]

theorem exists_listsIds_iff :
    (∃ ids, v.ListsIds ids) ↔ ∀ m ∈ v.asMembers, ¬m.IsInfinite := by
  constructor
  · exact fun ⟨_, hFinite, _⟩ => hFinite
  · intro hFinite
    rcases exists_mapM_toId?_iff.mpr hFinite with ⟨ids?, hRead⟩
    exact ⟨IdSet.ofList (ids?.filterMap id), toIds_eq_ok_iff.mp
      (Cause.bind_eq_ok_iff.mpr ⟨ids?, hRead, rfl⟩)⟩

------------------------------------------------------------
-- Names
------------------------------------------------------------

/- A value that can be gone through for names that have texts. -/
def HasNames : Value → Prop
  | .null => True
  | .text _ => True
  | .octets bs => ∀ b ∈ bs, b < Nat.pow 10 digitLimit
  | .pair a b => a.HasText ∧ b.HasText
  | .list items => ∀ v ∈ items, v.HasText
  | .set members => ∀ v ∈ members, v.HasText
  | .map es => ∀ e ∈ es, e.1.HasText
  | .loop _ => True
  | _ => False

/-
  A name that a value lists. Null stands for the usual names,
  and a blank text is no name.
-/
def ListsName
    (usual : List String)
    (name : String) : Value → Prop
  | .null => name ∈ usual
  | v =>
    Text.trimmed name ≠ "" ∧
      ∃ ms, v.eachMember = .ok ms ∧ ∃ m ∈ ms, m.display = name

/- The names that a value lists, in order. -/
def ListsNames
    (usual : List String)
    (v : Value)
    (names : List String) : Prop :=
  v.HasNames ∧ names.Pairwise (· < ·) ∧
    ∀ name, name ∈ names ↔ v.ListsName usual name

variable {name : String}
variable {names : List String}

theorem mem_insertName_iff
    {other : String} :
    name ∈ insertName other names ↔ name = other ∨ name ∈ names := by
  induction names with
  | nil => rw [insertName, List.mem_singleton]; simp
  | cons n names hInduction =>
      rw [insertName]
      split
      · rw [List.mem_cons]
      · split
        · next hSame =>
          rw [hSame, List.mem_cons, or_self_left]
        · rw [List.mem_cons, hInduction, List.mem_cons, or_left_comm]

/- A name put at its place leaves names in order. -/
theorem pairwise_insertName
    (hOrder : names.Pairwise (· < ·)) :
    (insertName name names).Pairwise (· < ·) := by
  induction names with
  | nil => exact List.pairwise_singleton _ _
  | cons n names hInduction =>
      rcases List.pairwise_cons.mp hOrder with ⟨hHead, hTail⟩
      rw [insertName]
      split
      · next hBefore =>
        refine List.pairwise_cons.mpr ⟨?_, hOrder⟩
        intro other hMember
        rcases List.mem_cons.mp hMember with rfl | hLater
        · exact hBefore
        · exact lt_trans hBefore (hHead other hLater)
      · split
        · exact hOrder
        · next hNotBefore hOther =>
          refine List.pairwise_cons.mpr ⟨?_, hInduction hTail⟩
          intro other hMember
          rcases mem_insertName_iff.mp hMember with rfl | hOld
          · exact lt_of_le_of_ne (not_lt.mp hNotBefore)
              (Ne.symm hOther)
          · exact hHead other hOld

/- Sorted names are the same names. -/
theorem mem_sortNames_iff :
    name ∈ sortNames names ↔ name ∈ names := by
  have hFold (before : List String) :
      name ∈ names.foldl (fun acc n => insertName n acc) before ↔
        name ∈ before ∨ name ∈ names := by
    induction names generalizing before with
    | nil => simp
    | cons n names hInduction =>
        rw [List.foldl_cons, hInduction, mem_insertName_iff,
          List.mem_cons]
        tauto
  rw [sortNames, hFold]
  simp

theorem pairwise_sortNames :
    (sortNames names).Pairwise (· < ·) := by
  have hFold (before : List String)
      (hOrder : before.Pairwise (· < ·)) :
      (names.foldl (fun acc n => insertName n acc) before).Pairwise
        (· < ·) := by
    induction names generalizing before with
    | nil => exact hOrder
    | cons n names hInduction =>
        exact hInduction _ (pairwise_insertName hOrder)
  exact hFold [] List.Pairwise.nil

/- Names in order are determined by what they are. -/
theorem sortNames_eq_iff
    {sorted : List String} :
    sortNames names = sorted ↔
      sorted.Pairwise (· < ·) ∧
        ∀ name, name ∈ sorted ↔ name ∈ names := by
  constructor
  · rintro rfl
    exact ⟨pairwise_sortNames, fun _ => mem_sortNames_iff⟩
  · rintro ⟨hOrder, hSame⟩
    have hPerm : (sortNames names).Perm sorted :=
      (List.perm_ext_iff_of_nodup (pairwise_sortNames.imp ne_of_lt)
        (hOrder.imp ne_of_lt)).mpr
        fun name => mem_sortNames_iff.trans (hSame name).symm
    exact hPerm.eq_of_pairwise
      (fun a b _ _ hBelow hAbove => (lt_asymm hBelow hAbove).elim)
      pairwise_sortNames hOrder

/- Other values than null are gone through member by member. -/
theorem hasNames_iff
    (hFilled : v ≠ .null) :
    v.HasNames ↔
      ∃ ms, v.eachMember = .ok ms ∧ ∀ m ∈ ms, m.HasText := by
  cases v with
  | null => exact absurd rfl hFilled
  | text s =>
      refine ⟨fun _ => ⟨_, rfl, ?_⟩, fun _ => trivial⟩
      intro m hMember n hWithin
      rw [List.mem_singleton.mp hMember] at hWithin
      cases hWithin
  | octets bs =>
      simp only [HasNames, eachMember, Except.ok.injEq,
        exists_eq_left', List.forall_mem_map, hasText_int_iff,
        Int.natAbs_natCast]
  | pair a b =>
      simp [HasNames, eachMember]
  | list items =>
      simp [HasNames, eachMember]
  | set members =>
      simp [HasNames, eachMember]
  | map es =>
      simp only [HasNames, eachMember, Except.ok.injEq,
        exists_eq_left', List.forall_mem_map]
  | loop ofMap =>
      simp [HasNames, eachMember]
  | _ => exact ⟨nofun, nofun⟩

/- All members have texts if they are written. -/
theorem exists_mapM_written_iff
    {members : List Value} :
    (∃ texts, members.mapM written = .ok texts) ↔
      ∀ m ∈ members, m.HasText := by
  rw [Cause.exists_mapM_iff]
  simp only [written_eq_ok_iff, exists_and_left, exists_eq', and_true]

/- The texts of the members, without the blank ones. -/
theorem mem_filter_of_mapM
    {members : List Value}
    {texts : List String}
    (hTexts : members.mapM written = .ok texts) :
    (name ∈ texts.filter fun t => Text.trimmed t != "") ↔
      Text.trimmed name ≠ "" ∧ ∃ m ∈ members, m.display = name := by
  have hEach := exists_mapM_written_iff.mp ⟨texts, hTexts⟩
  have hOne (m : Value) :
      m ∈ members ∧ m.written = .ok name ↔
        m ∈ members ∧ m.display = name := by
    rw [written_eq_ok_iff]
    exact and_congr_right fun hMember =>
      and_iff_right (hEach m hMember)
  simp only [List.mem_filter, Cause.mem_mapM_iff hTexts, hOne,
    bne_iff_ne, ne_eq, and_comm]

/- Other values than null are read as names in two steps. -/
theorem toNames_of_filled
    {usual : List String}
    (hFilled : v ≠ .null) :
    v.toNames usual =
      v.eachMember >>= fun ms => ms.mapM written >>= fun texts =>
        .ok (sortNames
          (texts.filter fun t => Text.trimmed t != "")) := by
  cases v with
  | null => exact absurd rfl hFilled
  | _ => rfl

theorem toNames_eq_ok_iff
    {usual : List String} :
    v.toNames usual = .ok names ↔ v.ListsNames usual names := by
  by_cases hFilled : v = .null
  · rw [hFilled, toNames, Except.ok.injEq, sortNames_eq_iff]
    exact (and_iff_right trivial).symm
  · have hListed (name : String) :
        v.ListsName usual name ↔
          Text.trimmed name ≠ "" ∧
            ∃ ms, v.eachMember = .ok ms ∧
              ∃ m ∈ ms, m.display = name := by
      cases v with
      | null => exact absurd rfl hFilled
      | _ => rfl
    simp only [toNames_of_filled hFilled, Cause.bind_eq_ok_iff,
      Except.ok.injEq, sortNames_eq_iff, ListsNames, hListed,
      hasNames_iff hFilled]
    constructor
    · rintro ⟨ms, hMembers, texts, hTexts, hOrder, hNames⟩
      refine ⟨⟨ms, hMembers, ?_⟩, hOrder, fun name => ?_⟩
      · exact exists_mapM_written_iff.mp ⟨texts, hTexts⟩
      · rw [hNames, mem_filter_of_mapM hTexts, hMembers]
        simp only [Except.ok.injEq, exists_eq_left']
    · rintro ⟨⟨ms, hMembers, hTexts⟩, hOrder, hNames⟩
      rcases exists_mapM_written_iff.mpr hTexts with
        ⟨texts, hTexts⟩
      refine ⟨ms, hMembers, texts, hTexts, hOrder, fun name => ?_⟩
      rw [hNames, mem_filter_of_mapM hTexts, hMembers]
      simp only [Except.ok.injEq, exists_eq_left']

theorem exists_listsNames_iff
    {usual : List String} :
    (∃ names, v.ListsNames usual names) ↔ v.HasNames := by
  constructor
  · exact fun ⟨_, hNames, _⟩ => hNames
  · intro hNames
    by_cases hFilled : v = .null
    · rw [hFilled]
      exact ⟨sortNames usual, toNames_eq_ok_iff.mp rfl⟩
    · rcases (hasNames_iff hFilled).mp hNames with
        ⟨ms, hMembers, hTexts⟩
      rcases exists_mapM_written_iff.mpr hTexts with
        ⟨texts, hTexts⟩
      simp only [← toNames_eq_ok_iff, toNames_of_filled hFilled]
      exact ⟨_, Cause.bind_eq_ok_iff.mpr ⟨ms, hMembers,
        Cause.bind_eq_ok_iff.mpr ⟨texts, hTexts, rfl⟩⟩⟩

------------------------------------------------------------
-- Refusals
------------------------------------------------------------

/- A value is refused for its type, for itself or for its size. -/
def Refuses
    (cause : Cause) : Prop :=
  cause = .badType ∨ cause = .badValue "" ∨ cause = .outOfRange

theorem refuses_badType : Refuses .badType :=
  Or.inl rfl

theorem refuses_badValue : Refuses (.badValue "") :=
  Or.inr (Or.inl rfl)

theorem refuses_outOfRange : Refuses .outOfRange :=
  Or.inr (Or.inr rfl)

open Cause

theorem failsBy_orBadValue
    {α : Type}
    (a? : Option α) : FailsBy Refuses (orBadValue a?) := by
  cases a? with
  | none => exact failsBy_error refuses_badValue
  | some a => exact failsBy_ok a

theorem failsBy_written
    (v : Value) : FailsBy Refuses v.written := by
  rw [written]
  split
  · exact failsBy_ok _
  · exact failsBy_error refuses_badValue

theorem failsBy_floatOfInteger
    (n : Int) : FailsBy Refuses (floatOfInteger n) := by
  rw [floatOfInteger]
  split
  · exact failsBy_ok _
  · exact failsBy_error refuses_outOfRange

theorem failsBy_toBinary64
    (v : Value) : FailsBy Refuses v.toBinary64 := by
  cases v with
  | bool b => exact failsBy_floatOfInteger _
  | int n => exact failsBy_floatOfInteger n
  | float x => exact failsBy_ok x
  | text s => exact failsBy_orBadValue _
  | octets bs => exact failsBy_orBadValue _
  | _ => exact failsBy_error refuses_badType

theorem failsBy_toInteger
    (v : Value) : FailsBy Refuses v.toInteger := by
  rcases toInteger_cases v with
    ⟨_, hRead⟩ | ⟨_, ⟨n, hRead⟩ | hRead | hRead⟩
  all_goals rw [hRead]
  · exact failsBy_error refuses_outOfRange
  · exact failsBy_ok n
  · exact failsBy_error refuses_badType
  · exact failsBy_error refuses_badValue

theorem failsBy_toId?
    (v : Value) : FailsBy Refuses v.toId? := by
  rcases toInteger_cases v with ⟨_, hRead⟩ | ⟨hFinite, _⟩
  · rw [toId?, hRead]
    exact failsBy_error refuses_outOfRange
  · rcases exists_namesId_iff.mpr hFinite with ⟨id?, hNames⟩
    rw [toId?_eq_ok_iff.mpr hNames]
    exact failsBy_ok id?

theorem failsBy_toIds
    (v : Value) : FailsBy Refuses v.toIds :=
  failsBy_bind (failsBy_mapM failsBy_toId? v.asMembers)
    fun _ => failsBy_ok _

theorem failsBy_eachMember
    (v : Value) : FailsBy Refuses v.eachMember := by
  cases v with
  | null | bool | int | float | date | time =>
      exact failsBy_error refuses_badType
  | _ => exact failsBy_ok _

theorem failsBy_toNames
    (usual : List String)
    (v : Value) : FailsBy Refuses (v.toNames usual) := by
  by_cases hFilled : v = .null
  · rw [hFilled]
    exact failsBy_ok _
  · rw [toNames_of_filled hFilled]
    exact failsBy_bind (failsBy_eachMember v) fun ms =>
      failsBy_bind (failsBy_mapM failsBy_written ms) fun _ =>
        failsBy_ok _

end GuildWarden.Yaml.Value
