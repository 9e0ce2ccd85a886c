import GuildWarden.Text.Blank

/-
  This file says what it is to cut a text after its first
  word, after the longest run of letters of a kind, and at the
  first place where a separator stands, and shows that this is
  how texts are cut.

  Key definitions include:
    * `Text.IsCut`
    * `Text.IsSpan`
    * `Text.IsFree`

  Main statements:
    * `Text.dropPrefix?_eq_some_iff`
    * `Text.splitWord?_eq_some_iff`
    * `Text.isSpan_iff`
    * `Text.cutAt?_eq_some_iff`
    * `Text.length_le_of_isFree`
-/

namespace GuildWarden.Text

variable {cs ds word rest : List Char}

------------------------------------------------------------
-- First Words
------------------------------------------------------------

/- What follows a beginning. -/
theorem dropPrefix?_eq_some_iff :
    dropPrefix? cs ds = some rest ↔ ds = cs ++ rest := by
  induction cs generalizing ds with
  | nil => simp [dropPrefix?]
  | cons c cs hInduction =>
      cases ds with
      | nil => simp [dropPrefix?]
      | cons d ds =>
          unfold dropPrefix?
          split
          · rename_i hSame
            rw [hInduction, hSame, List.cons_append,
              List.cons.injEq]
            simp
          · rename_i hDistinct
            simp [Ne.symm hDistinct]

/- A text that does not start with a blank. -/
def StartsFilled
    (cs : List Char) : Prop :=
  ∀ c ∈ cs.head?, isBlank c = false

/-
  A text is its first word, some blanks and a rest; the word
  is as long as it can be, and so are the blanks.
-/
def IsCut
    (cs word rest : List Char) : Prop :=
  ∃ blanks,
    cs = word ++ blanks ++ rest ∧ word ≠ [] ∧
      (∀ c ∈ word, isBlank c = false) ∧
        (∀ c ∈ blanks, isBlank c = true) ∧
          (blanks = [] → rest = []) ∧ StartsFilled rest

theorem trimStart_of_startsFilled
    (hFilled : StartsFilled cs) :
    trimStart cs = cs := by
  cases cs with
  | nil => rfl
  | cons c cs =>
      have hHead : isBlank c = false := hFilled c rfl
      simp [trimStart, hHead]

theorem startsFilled_trimStart
    (cs : List Char) :
    StartsFilled (trimStart cs) := by
  intro c hHead
  have hNot := List.head?_dropWhile_not isBlank cs
  rw [show (cs.dropWhile isBlank).head? = some c from hHead]
    at hNot
  simpa using hNot

/- A cut text starts with a letter of its word. -/
theorem IsCut.startsFilled
    (hCut : IsCut cs word rest) :
    StartsFilled cs := by
  rcases hCut with ⟨blanks, rfl, hSome, hWord, _⟩
  cases word with
  | nil => exact absurd rfl hSome
  | cons c word =>
      intro d hHead
      simp only [List.cons_append, List.head?_cons,
        Option.mem_some_iff] at hHead
      rw [← hHead]
      exact hWord c List.mem_cons_self

theorem IsCut.startsFilled_rest
    (hCut : IsCut cs word rest) :
    StartsFilled rest := by
  rcases hCut with ⟨_, _, _, _, _, _, hRest⟩
  exact hRest

/- A text that starts filled is cut after its first word. -/
theorem isCut_takeWhile
    {c : Char}
    (hFilled : StartsFilled (c :: cs)) :
    IsCut (c :: cs)
      ((c :: cs).takeWhile fun x => !isBlank x)
      (trimStart
        ((c :: cs).dropWhile fun x => !isBlank x)) := by
  have hHead : isBlank c = false := hFilled c rfl
  refine
    ⟨((c :: cs).dropWhile fun x => !isBlank x).takeWhile
      isBlank, ?_, ?_, ?_, ?_, ?_, startsFilled_trimStart _⟩
  · rw [trimStart, List.append_assoc,
      List.takeWhile_append_dropWhile,
      List.takeWhile_append_dropWhile]
  · simp [hHead]
  · intro d hMember
    have hAll := List.all_takeWhile
      (p := fun x => !isBlank x) (l := c :: cs)
    simpa using List.all_eq_true.mp hAll d hMember
  · intro d hMember
    exact List.all_eq_true.mp List.all_takeWhile d hMember
  · intro hNone
    have hNot := List.head?_dropWhile_not
      (fun x => !isBlank x) (c :: cs)
    generalize (c :: cs).dropWhile (fun x => !isBlank x) =
      left at hNone hNot
    cases left with
    | nil => rfl
    | cons d left =>
        have hBlank : isBlank d = true := by
          simpa using hNot
        simp [hBlank] at hNone

/- Cutting a text gives its word and its rest. -/
theorem splitWord?_eq_some_iff
    (hFilled : StartsFilled cs) :
    splitWord? cs = some (word, rest) ↔ IsCut cs word rest := by
  constructor
  · intro hSplit
    unfold splitWord? at hSplit
    rw [trimStart_of_startsFilled hFilled] at hSplit
    cases cs with
    | nil => cases hSplit
    | cons c cs =>
        cases hSplit
        exact isCut_takeWhile hFilled
  · rintro ⟨blanks, rfl, hSome, hWord, hBlanks, hEnd, hRest⟩
    unfold splitWord?
    rw [trimStart_of_startsFilled hFilled]
    have hLetters : ∀ c ∈ word, (!isBlank c) = true := by
      intro c hMember
      simp [hWord c hMember]
    have hStop :
        (blanks ++ rest).takeWhile (fun x => !isBlank x) =
            [] ∧
          (blanks ++ rest).dropWhile (fun x => !isBlank x) =
            blanks ++ rest := by
      cases blanks with
      | nil => simp [hEnd rfl]
      | cons b blanks =>
          simp [hBlanks b List.mem_cons_self]
    have hTrim : trimStart (blanks ++ rest) = rest := by
      rw [trimStart, List.dropWhile_append_of_pos hBlanks]
      exact trimStart_of_startsFilled hRest
    cases word with
    | nil => exact absurd rfl hSome
    | cons c word =>
        have hTake :
            (c :: word ++ (blanks ++ rest)).takeWhile
              (fun x => !isBlank x) = c :: word := by
          rw [List.takeWhile_append_of_pos hLetters, hStop.1,
            List.append_nil]
        have hDrop :
            (c :: word ++ (blanks ++ rest)).dropWhile
              (fun x => !isBlank x) = blanks ++ rest := by
          rw [List.dropWhile_append_of_pos hLetters, hStop.2]
        simp only [List.cons_append, List.append_assoc]
          at hTake hDrop ⊢
        rw [hTake, hDrop, hTrim]

------------------------------------------------------------
-- Runs
------------------------------------------------------------

variable {run sep before after : List Char}

/-
  A text is a run of letters of a kind, as long as it can be,
  and a rest.
-/
def IsSpan
    (p : Char → Bool)
    (cs run rest : List Char) : Prop :=
  cs = run ++ rest ∧ (∀ c ∈ run, p c = true) ∧
    ∀ c ∈ rest.head?, p c = false

theorem isSpan_iff
    {p : Char → Bool} :
    IsSpan p cs run rest ↔
      cs.takeWhile p = run ∧ cs.dropWhile p = rest := by
  constructor
  · rintro ⟨rfl, hRun, hStop⟩
    have hRest :
        rest.takeWhile p = [] ∧ rest.dropWhile p = rest := by
      cases rest with
      | nil => exact ⟨rfl, rfl⟩
      | cons c rest => simp [hStop c rfl]
    rw [List.takeWhile_append_of_pos hRun,
      List.dropWhile_append_of_pos hRun, hRest.1, hRest.2,
      List.append_nil]
    exact ⟨rfl, rfl⟩
  · rintro ⟨rfl, rfl⟩
    refine ⟨List.takeWhile_append_dropWhile.symm,
      List.all_eq_true.mp List.all_takeWhile, ?_⟩
    intro c hHead
    have hNot := List.head?_dropWhile_not p cs
    rw [Option.mem_def.mp hHead] at hNot
    simpa using hNot

/- Letters up to the first one of its kind. -/
theorem isSpan_of_notMem
    {d : Char}
    (hFree : d ∉ run)
    (rest : List Char) :
    IsSpan (· != d) (run ++ d :: rest) run (d :: rest) := by
  refine ⟨rfl, ?_, ?_⟩
  · intro c hMember
    simp only [bne_iff_ne, ne_eq]
    rintro rfl
    exact hFree hMember
  · intro c hHead
    cases hHead
    simp

theorem notMem_of_isSpan
    {d : Char}
    (hSpan : IsSpan (· != d) cs run rest) :
    d ∉ run := by
  intro hMember
  have hOther := hSpan.2.1 d hMember
  simp at hOther

------------------------------------------------------------
-- Separators
------------------------------------------------------------

/-
  No separator begins within a text, not even one that ends in
  the separator behind the text.
-/
def IsFree
    (sep cs : List Char) : Prop :=
  ∀ i < cs.length, ¬ sep <+: (cs ++ sep).drop i

instance
    (sep cs : List Char) :
    Decidable (IsFree sep cs) :=
  Nat.decidableBallLT _ _

theorem isFree_nil :
    IsFree sep [] := by
  intro i hShort
  cases hShort

theorem isFree_cons_iff
    {c : Char} :
    IsFree sep (c :: cs) ↔
      ¬ sep <+: c :: cs ++ sep ∧ IsFree sep cs := by
  constructor
  · intro hFree
    refine ⟨hFree 0 (by simp), ?_⟩
    intro i hShort
    exact hFree (i + 1) (by simpa using hShort)
  · rintro ⟨hFirst, hFree⟩ i hShort
    cases i with
    | zero => exact hFirst
    | succ i => exact hFree i (by simpa using hShort)

/-
  A separator at the start of a text is seen in any part that
  has room for it.
-/
theorem isPrefix_of_append
    (rest : List Char)
    (hPrefix : sep <+: cs ++ sep ++ rest) :
    sep <+: cs ++ sep := by
  apply List.prefix_of_prefix_length_le hPrefix
    (List.prefix_append _ _)
  simp

/- A text is cut where the separator stands for the first time. -/
theorem cutAt?_eq_some_iff :
    cutAt? sep cs = some (before, after) ↔
      cs = before ++ sep ++ after ∧ IsFree sep before := by
  induction cs generalizing before with
  | nil =>
      constructor
      · intro hCut
        rcases Option.map_eq_some_iff.mp hCut with
          ⟨_, hRest, hSame⟩
        cases hSame
        exact ⟨dropPrefix?_eq_some_iff.mp hRest, isFree_nil⟩
      · rintro ⟨hText, _⟩
        have hAll : before = [] ∧ sep = [] ∧ after = [] := by
          simpa using hText.symm
        rcases hAll with ⟨rfl, rfl, rfl⟩
        rfl
  | cons c cs hInduction =>
      unfold cutAt?
      cases hHere : dropPrefix? sep (c :: cs) with
      | some later =>
          have hText := dropPrefix?_eq_some_iff.mp hHere
          simp only [Option.some.injEq, Prod.mk.injEq]
          constructor
          · rintro ⟨rfl, rfl⟩
            exact ⟨hText, isFree_nil⟩
          · rintro ⟨hSplit, hFree⟩
            cases before with
            | nil =>
                refine ⟨rfl, (List.append_right_inj sep).mp ?_⟩
                rw [← hText, hSplit, List.nil_append]
            | cons b before =>
                refine absurd ?_ (isFree_cons_iff.mp hFree).1
                apply isPrefix_of_append after
                rw [← hSplit, hText]
                exact List.prefix_append _ _
      | none =>
          have hNot : ¬ sep <+: c :: cs := by
            rintro ⟨later, hText⟩
            rw [dropPrefix?_eq_some_iff.mpr hText.symm] at hHere
            cases hHere
          simp only [Option.map_eq_some_iff, Prod.mk.injEq]
          constructor
          · rintro ⟨⟨first, last⟩, hCut, rfl, rfl⟩
            rcases hInduction.mp hCut with ⟨rfl, hFree⟩
            refine ⟨by simp, isFree_cons_iff.mpr ⟨?_, hFree⟩⟩
            intro hPrefix
            apply hNot
            have hMore := hPrefix.trans
              (List.prefix_append (c :: first ++ sep) last)
            simpa using hMore
          · rintro ⟨hSplit, hFree⟩
            cases before with
            | nil =>
                refine absurd ⟨after, ?_⟩ hNot
                rw [hSplit, List.nil_append]
            | cons b before =>
                rcases List.cons.inj hSplit with ⟨rfl, hRest⟩
                exact ⟨(before, after), hInduction.mpr
                  ⟨hRest, (isFree_cons_iff.mp hFree).2⟩, rfl, rfl⟩

/- No other place of the separator is before that. -/
theorem length_le_of_isFree
    {first last : List Char}
    (hFree : IsFree sep before)
    (hText : before ++ sep ++ after = first ++ sep ++ last) :
    before.length ≤ first.length := by
  apply Nat.not_lt.mp
  intro hLess
  apply hFree first.length hLess
  have hHere :
      sep <+: (before ++ sep ++ after).drop first.length := by
    rw [hText, List.append_assoc, List.drop_left]
    exact List.prefix_append _ _
  apply List.prefix_of_prefix_length_le hHere
  · rw [List.append_assoc,
      List.drop_append_of_le_length (Nat.le_of_lt hLess),
      List.drop_append_of_le_length (Nat.le_of_lt hLess),
      ← List.append_assoc]
    exact List.prefix_append _ _
  · simp only [List.length_drop, List.length_append]
    omega

end GuildWarden.Text
