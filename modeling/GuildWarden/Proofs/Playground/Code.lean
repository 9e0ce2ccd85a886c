import GuildWarden.Playground.Code
import GuildWarden.Proofs.Text.Words

/-
  This file says what the code at the start of a message is,
  and shows that just this code is found. A block comes first:
  a fence, a tag, a line end, the code and the next fence. If
  a message has no block, and only if it is asked for, the
  code may stand between two fences or between two marks.

  Key definitions include:
    * `Playground.IsTag`
    * `Playground.HasBlock`
    * `Playground.HasFenced`
    * `Playground.HasMarked`

  Main statements:
    * `Playground.fencedBlock?_eq_some_iff`
    * `Playground.inlineFence?_eq_some_iff`
    * `Playground.inlineCode?_eq_some_iff`
    * `Playground.extractCode?_finds`
-/

namespace GuildWarden.Playground

open GuildWarden.Text

------------------------------------------------------------
-- Code in a Message
------------------------------------------------------------

/- A language tag has neither a mark nor a blank. -/
def IsTag
    (tag : List Char) : Prop :=
  ∀ c ∈ tag, c ≠ '`' ∧ isBlank c = false

instance
    (tag : List Char) :
    Decidable (IsTag tag) :=
  List.decidableBAll _ tag

/-
  A block with a tag at the start of a text: its code ends at
  the next fence.
-/
def HasBlock
    (cs code : List Char) : Prop :=
  ∃ tag rest,
    cs = fence ++ tag ++ '\n' :: (code ++ fence ++ rest) ∧
      IsTag tag ∧ IsFree fence code

/- Some code between two fences, the first one at the start of a text. -/
def IsFenced
    (cs code : List Char) : Prop :=
  code ≠ [] ∧ ∃ rest, cs = fence ++ code ++ fence ++ rest

/- The shortest such code. -/
def HasFenced
    (cs code : List Char) : Prop :=
  IsFenced cs code ∧
    ∀ other, IsFenced cs other → code.length ≤ other.length

/- Some code without a mark, between two of them. -/
def HasMarked
    (cs code : List Char) : Prop :=
  code ≠ [] ∧ '`' ∉ code ∧
    ∃ rest, cs = '`' :: (code ++ '`' :: rest)

variable {cs code tag rest : List Char}

------------------------------------------------------------
-- Readers
------------------------------------------------------------

theorem isTag_iff :
    IsTag tag ↔ ∀ c ∈ tag, isTagChar c = true := by
  simp [IsTag, isTagChar]

/- A tag is followed by a line end if it is all that is before one. -/
theorem isSpan_tag
    (hTag : IsTag tag)
    (rest : List Char) :
    IsSpan isTagChar (tag ++ '\n' :: rest) tag ('\n' :: rest) := by
  refine ⟨rfl, isTag_iff.mp hTag, ?_⟩
  intro c hHead
  cases hHead
  rfl

theorem fencedBlock?_eq_some_iff :
    fencedBlock? cs = some code ↔ HasBlock cs code := by
  unfold fencedBlock?
  constructor
  · intro hFound
    split at hFound
    · rename_i after hFence
      split at hFound
      · rename_i body hLine
        rcases Option.map_eq_some_iff.mp hFound with
          ⟨⟨_, later⟩, hCut, rfl⟩
        rcases cutAt?_eq_some_iff.mp hCut with ⟨rfl, hFree⟩
        rcases isSpan_iff.mpr ⟨rfl, hLine⟩ with
          ⟨hSplit, hTag, _⟩
        refine ⟨after.takeWhile isTagChar, later, ?_,
          isTag_iff.mpr hTag, hFree⟩
        rw [dropPrefix?_eq_some_iff.mp hFence,
          List.append_assoc, ← hSplit]
      · cases hFound
    · cases hFound
  · rintro ⟨tag, rest, hText, hTag, hFree⟩
    have hFence :
        dropPrefix? fence cs =
          some (tag ++ '\n' :: (code ++ fence ++ rest)) :=
      dropPrefix?_eq_some_iff.mpr (by rw [hText, List.append_assoc])
    have hLine :=
      (isSpan_iff.mp
        (isSpan_tag hTag (code ++ fence ++ rest))).2
    have hCut :
        cutAt? fence (code ++ fence ++ rest) = some (code, rest) :=
      cutAt?_eq_some_iff.mpr ⟨rfl, hFree⟩
    simp only [hFence, hLine, hCut, Option.map_some]

/- A fence within some code leaves a shorter one before it. -/
theorem isFenced_take
    {c : Char}
    {body : List Char}
    {i : Nat}
    (hShort : i < body.length)
    (hHere : fence <+: (body ++ fence).drop i) :
    IsFenced (fence ++ c :: body ++ fence ++ rest)
      (c :: body.take i) := by
  rcases hHere with ⟨more, hMore⟩
  have hBody :
      body ++ fence = body.take i ++ (fence ++ more) := by
    calc
      body ++ fence =
          (body ++ fence).take i ++ (body ++ fence).drop i :=
        (List.take_append_drop i _).symm
      _ = body.take i ++ (fence ++ more) := by
        rw [List.take_append_of_le_length (Nat.le_of_lt hShort),
          hMore]
  refine ⟨by simp, more ++ rest, ?_⟩
  calc
    fence ++ c :: body ++ fence ++ rest =
        fence ++ c :: (body ++ fence) ++ rest := by simp
    _ = _ := by
      rw [hBody]
      simp

/- The shortest code between fences has none behind its first letter. -/
theorem hasFenced_iff :
    HasFenced cs code ↔
      ∃ c body rest, code = c :: body ∧
        cs = fence ++ c :: (body ++ fence ++ rest) ∧
          IsFree fence body := by
  constructor
  · rintro ⟨⟨hSome, rest, rfl⟩, hShortest⟩
    cases code with
    | nil => exact (hSome rfl).elim
    | cons c body =>
        refine ⟨c, body, rest, rfl, by simp, ?_⟩
        intro i hShort hHere
        have hLong := hShortest _ (isFenced_take hShort hHere)
        simp only [List.length_cons, List.length_take] at hLong
        omega
  · rintro ⟨c, body, rest, rfl, rfl, hFree⟩
    refine ⟨⟨by simp, rest, by simp⟩, ?_⟩
    rintro other ⟨hSome, later, hText⟩
    cases other with
    | nil => exact (hSome rfl).elim
    | cons d other =>
        have hBoth :
            body ++ fence ++ rest = other ++ fence ++ later := by
          simp only [List.append_assoc, List.cons_append,
            List.append_cancel_left_eq, List.cons.injEq] at hText
          simpa using hText.2
        simpa using length_le_of_isFree hFree hBoth

theorem inlineFence?_eq_some_iff :
    inlineFence? cs = some code ↔ HasFenced cs code := by
  rw [hasFenced_iff]
  unfold inlineFence?
  constructor
  · intro hFound
    split at hFound
    · rename_i c after hFence
      rcases Option.map_eq_some_iff.mp hFound with
        ⟨⟨body, rest⟩, hCut, rfl⟩
      rcases cutAt?_eq_some_iff.mp hCut with ⟨rfl, hFree⟩
      exact ⟨c, body, rest, rfl,
        dropPrefix?_eq_some_iff.mp hFence, hFree⟩
    · cases hFound
  · rintro ⟨c, body, rest, rfl, hText, hFree⟩
    have hCut :
        cutAt? fence (body ++ fence ++ rest) = some (body, rest) :=
      cutAt?_eq_some_iff.mpr ⟨rfl, hFree⟩
    simp only [dropPrefix?_eq_some_iff.mpr hText, hCut,
      Option.map_some]

theorem inlineCode?_eq_some_iff :
    inlineCode? cs = some code ↔ HasMarked cs code := by
  constructor
  · intro hFound
    unfold inlineCode? at hFound
    split at hFound
    · rename_i after
      split at hFound
      · rename_i c body d later hRun hStop
        cases hFound
        have hSpan := isSpan_iff.mpr ⟨hRun, hStop⟩
        have hFree := notMem_of_isSpan hSpan
        rcases hSpan with ⟨rfl, _, hEnd⟩
        have hMark : d = '`' := by simpa using hEnd d rfl
        exact ⟨by simp, hFree, later, by rw [hMark]⟩
      · cases hFound
    · cases hFound
  · rintro ⟨hSome, hFree, rest, rfl⟩
    rcases isSpan_iff.mp (isSpan_of_notMem hFree rest) with
      ⟨hRun, hStop⟩
    cases code with
    | nil => exact (hSome rfl).elim
    | cons c body => simp only [inlineCode?, hRun, hStop]

------------------------------------------------------------
-- The Code of a Message
------------------------------------------------------------

/- A text is found if its letters are. -/
theorem map_ofList_eq_some_iff
    {found : Option (List Char)}
    {s : String} :
    found.map String.ofList = some s ↔
      found = some s.toList := by
  rw [Option.map_eq_some_iff]
  constructor
  · rintro ⟨cs, rfl, rfl⟩
    rw [String.toList_ofList]
  · intro hFound
    exact ⟨s.toList, hFound, String.ofList_toList⟩

/- Nothing is found where there is nothing to be found. -/
theorem eq_none_iff_of_eq_some_iff
    {found : Option (List Char)}
    {P : List Char → Prop}
    (hFound : ∀ code, found = some code ↔ P code) :
    found = none ↔ ∀ code, ¬ P code := by
  rw [Option.eq_none_iff_forall_ne_some]
  exact forall_congr' fun code => not_congr (hFound code)

/- The first of several readers that finds something is right. -/
theorem or_eq_some_iff_of_eq_some_iff
    {first second : Option (List Char)}
    {P Q : List Char → Prop}
    (hFirst : ∀ code, first = some code ↔ P code)
    (hSecond : ∀ code, second = some code ↔ Q code)
    (code : List Char) :
    first.or second = some code ↔
      P code ∨ (∀ other, ¬ P other) ∧ Q code := by
  rw [Option.or_eq_some_iff, hFirst, hSecond,
    eq_none_iff_of_eq_some_iff hFirst]

theorem inline_eq_some_iff :
    (inlineFence? cs).or (inlineCode? cs) = some code ↔
      HasFenced cs code ∨
        (∀ other, ¬ HasFenced cs other) ∧ HasMarked cs code :=
  or_eq_some_iff_of_eq_some_iff
    (fun _ => inlineFence?_eq_some_iff)
    (fun _ => inlineCode?_eq_some_iff) code

theorem extractCode?_eq_or
    (text : String)
    (inlineToo : Bool) :
    extractCode? text inlineToo =
      ((fencedBlock? text.toList).or
        (if inlineToo then
          (inlineFence? text.toList).or (inlineCode? text.toList)
        else none)).map String.ofList := by
  simp only [extractCode?]
  cases fencedBlock? text.toList <;> rfl

/-
  What code is found. Without further ado it is the code of a
  block. If it may stand within a line, it is the code of a
  block all the same, or else the shortest code between
  fences, or else the code between two marks. Whatever follows
  a block does not count.
-/
theorem extractCode?_finds :
    (∀ text code : String,
      extractCode? text false = some code ↔
        HasBlock text.toList code.toList) ∧
    (∀ text code : String,
      extractCode? text true = some code ↔
        HasBlock text.toList code.toList ∨
          (∀ other, ¬ HasBlock text.toList other) ∧
            (HasFenced text.toList code.toList ∨
              (∀ other, ¬ HasFenced text.toList other) ∧
                HasMarked text.toList code.toList)) ∧
    ∀ (tag code chatter : String) (inlineToo : Bool),
      IsTag tag.toList → IsFree fence code.toList →
        extractCode?
            ("```" ++ tag ++ "\n" ++ code ++ "```" ++ chatter)
            inlineToo =
          some code := by
  refine ⟨?_, ?_, ?_⟩
  · intro text code
    rw [extractCode?_eq_or, map_ofList_eq_some_iff,
      if_neg Bool.false_ne_true, Option.or_none]
    exact fencedBlock?_eq_some_iff
  · intro text code
    rw [extractCode?_eq_or, map_ofList_eq_some_iff, if_pos rfl]
    exact or_eq_some_iff_of_eq_some_iff
      (fun _ => fencedBlock?_eq_some_iff)
      (fun _ => inline_eq_some_iff) code.toList
  · intro tag code chatter inlineToo hTag hFree
    have hBlock :
        HasBlock
          ("```" ++ tag ++ "\n" ++ code ++ "```" ++
            chatter).toList
          code.toList := by
      refine ⟨tag.toList, chatter.toList, ?_, hTag, hFree⟩
      simp [fence]
    rw [extractCode?_eq_or, map_ofList_eq_some_iff,
      fencedBlock?_eq_some_iff.mpr hBlock, Option.some_or]

/- Marks within the code and a fence behind the block do no harm. -/
theorem block_of_marks_found :
    IsTag "rust".toList ∧ IsFree fence "`a``b\n".toList ∧
      extractCode?
          ("```" ++ "rust" ++ "\n" ++ "`a``b\n" ++ "```" ++
            " or ```c```")
          true =
        some "`a``b\n" := by
  have hTag : IsTag "rust".toList := by decide
  have hFree : IsFree fence "`a``b\n".toList := by decide
  exact ⟨hTag, hFree,
    extractCode?_finds.2.2 _ _ _ true hTag hFree⟩

/- The first three marks in a row end the code. -/
example :
    extractCode? "```\na````" true = some "a" := by
  decide

end GuildWarden.Playground
