import GuildWarden.Proofs.Text.Words

/-
  This file says what stands around a text when it is trimmed,
  and shows that trimming takes away just that, and no word.

  Key definitions include:
    * `Text.IsBlankRun`
    * `Text.EndsFilled`

  Main statements:
    * `Text.trim_eq_iff`
    * `Text.isCut_trim`
    * `Text.words_eq`
    * `Text.words_trim`
-/

namespace GuildWarden.Text

variable {cs ds left right : List Char}

------------------------------------------------------------
-- Blanks at the Ends
------------------------------------------------------------

/- A text of nothing but blanks. -/
def IsBlankRun
    (cs : List Char) : Prop :=
  ∀ c ∈ cs, isBlank c = true

instance
    (cs : List Char) :
    Decidable (IsBlankRun cs) :=
  List.decidableBAll _ cs

/- A text that does not end with a blank. -/
def EndsFilled
    (cs : List Char) : Prop :=
  ∀ c ∈ cs.getLast?, isBlank c = false

theorem IsBlankRun.append
    (hLeft : IsBlankRun left)
    (hRight : IsBlankRun right) :
    IsBlankRun (left ++ right) := by
  intro c hMember
  rcases List.mem_append.mp hMember with hMember | hMember
  · exact hLeft c hMember
  · exact hRight c hMember

theorem IsBlankRun.reverse
    (hBlank : IsBlankRun cs) :
    IsBlankRun cs.reverse :=
  fun c hMember => hBlank c (List.mem_reverse.mp hMember)

theorem endsFilled_iff_reverse :
    EndsFilled cs ↔ StartsFilled cs.reverse := by
  rw [EndsFilled, StartsFilled, List.head?_reverse]

/- The first of two texts decides how they start together. -/
theorem StartsFilled.append
    (hFilled : StartsFilled cs)
    (hSome : cs ≠ []) :
    StartsFilled (cs ++ ds) := by
  cases cs with
  | nil => exact (hSome rfl).elim
  | cons c cs => exact hFilled

theorem StartsFilled.of_append
    (hFilled : StartsFilled (cs ++ ds)) :
    StartsFilled cs := by
  cases cs with
  | nil =>
      intro c hHead
      cases hHead
  | cons c cs => exact hFilled

/- The second one decides how they end. -/
theorem EndsFilled.append
    (hFilled : EndsFilled ds)
    (hSome : ds ≠ []) :
    EndsFilled (cs ++ ds) := by
  rw [endsFilled_iff_reverse, List.reverse_append]
  rw [endsFilled_iff_reverse] at hFilled
  exact hFilled.append (by simpa using hSome)

------------------------------------------------------------
-- Trimming
------------------------------------------------------------

theorem trimStart_append_of_isBlankRun
    (hBlank : IsBlankRun left) :
    trimStart (left ++ cs) = trimStart cs :=
  List.dropWhile_append_of_pos hBlank

/- The blanks before a text can be put back. -/
theorem exists_trimStart
    (cs : List Char) :
    ∃ left, IsBlankRun left ∧ cs = left ++ trimStart cs := by
  refine ⟨cs.takeWhile isBlank, ?_, ?_⟩
  · exact List.all_eq_true.mp List.all_takeWhile
  · exact List.takeWhile_append_dropWhile.symm

theorem trimEnd_eq_reverse
    (cs : List Char) :
    trimEnd cs = (trimStart cs.reverse).reverse :=
  rfl

theorem trimEnd_append_of_isBlankRun
    (hFilled : EndsFilled cs)
    (hBlank : IsBlankRun right) :
    trimEnd (cs ++ right) = cs := by
  rw [trimEnd_eq_reverse, List.reverse_append,
    trimStart_append_of_isBlankRun hBlank.reverse,
    trimStart_of_startsFilled
      (endsFilled_iff_reverse.mp hFilled),
    List.reverse_reverse]

theorem exists_trimEnd
    (cs : List Char) :
    ∃ right, IsBlankRun right ∧
      cs = trimEnd cs ++ right ∧ EndsFilled (trimEnd cs) := by
  rcases exists_trimStart cs.reverse with
    ⟨blanks, hBlank, hSplit⟩
  refine ⟨blanks.reverse, hBlank.reverse, ?_, ?_⟩
  · rw [trimEnd_eq_reverse, ← List.reverse_append, ← hSplit,
      List.reverse_reverse]
  · rw [trimEnd_eq_reverse, endsFilled_iff_reverse,
      List.reverse_reverse]
    exact startsFilled_trimStart cs.reverse

/-
  A trimmed text is what remains of a text without the blanks
  around it.
-/
theorem trim_eq_iff :
    trim cs = ds ↔
      ∃ left right, cs = left ++ ds ++ right ∧
        IsBlankRun left ∧ IsBlankRun right ∧
          StartsFilled ds ∧ EndsFilled ds := by
  constructor
  · rintro rfl
    rcases exists_trimStart cs with ⟨left, hLeft, hStart⟩
    rcases exists_trimEnd (trimStart cs) with
      ⟨right, hRight, hEnd, hFilled⟩
    refine ⟨left, right, ?_, hLeft, hRight, ?_, hFilled⟩
    · rw [trim, List.append_assoc, ← hEnd, ← hStart]
    · have hStarts := startsFilled_trimStart cs
      rw [hEnd] at hStarts
      exact hStarts.of_append
  · rintro ⟨left, right, rfl, hLeft, hRight, hStarts, hEnds⟩
    rw [trim, List.append_assoc,
      trimStart_append_of_isBlankRun hLeft]
    cases ds with
    | nil =>
        have hNothing : trimStart right = [] := by
          rw [← List.append_nil right,
            trimStart_append_of_isBlankRun hRight]
          rfl
        rw [List.nil_append, hNothing]
        rfl
    | cons d ds =>
        rw [trimStart_of_startsFilled
          (hStarts.append (List.cons_ne_nil d ds))]
        exact trimEnd_append_of_isBlankRun hEnds hRight

theorem startsFilled_trim
    (cs : List Char) :
    StartsFilled (trim cs) := by
  rcases trim_eq_iff.mp (rfl : trim cs = trim cs) with
    ⟨_, _, _, _, _, hStarts, _⟩
  exact hStarts

theorem endsFilled_trim
    (cs : List Char) :
    EndsFilled (trim cs) := by
  rcases trim_eq_iff.mp (rfl : trim cs = trim cs) with
    ⟨_, _, _, _, _, _, hEnds⟩
  exact hEnds

theorem trim_of_filled
    (hStarts : StartsFilled cs)
    (hEnds : EndsFilled cs) :
    trim cs = cs :=
  trim_eq_iff.mpr
    ⟨[], [], by simp, by simp [IsBlankRun], by simp [IsBlankRun],
      hStarts, hEnds⟩

theorem trim_append_of_isBlankRun
    (hBlank : IsBlankRun left) :
    trim (left ++ cs) = trim cs := by
  rw [trim, trimStart_append_of_isBlankRun hBlank, trim]

theorem mem_of_mem_trim
    {c : Char}
    (hMember : c ∈ trim cs) :
    c ∈ cs := by
  rcases trim_eq_iff.mp (rfl : trim cs = trim cs) with
    ⟨left, right, hText, _⟩
  rw [hText]
  simp [hMember]

/-
  A word at the end of a text is kept, with all that is before
  it but the blanks at the start.
-/
theorem trim_append_of_filled
    (ds : List Char)
    (hFilled : ∀ c ∈ cs, isBlank c = false)
    (hSome : cs ≠ []) :
    trim (ds ++ cs) = trimStart ds ++ cs := by
  rcases exists_trimStart ds with ⟨blanks, hBlanks, hSplit⟩
  have hStarts : StartsFilled (trimStart ds ++ cs) := by
    cases hLetters : trimStart ds with
    | nil =>
        intro c hHead
        exact hFilled c (List.mem_of_mem_head? hHead)
    | cons c letters =>
        rw [← hLetters]
        apply (startsFilled_trimStart ds).append
        simp [hLetters]
  have hEnds : EndsFilled (trimStart ds ++ cs) := by
    refine EndsFilled.append ?_ hSome
    intro c hLast
    exact hFilled c (List.mem_of_getLast? hLast)
  calc
    trim (ds ++ cs) = trim (blanks ++ (trimStart ds ++ cs)) := by
      rw [← List.append_assoc, ← hSplit]
    _ = trim (trimStart ds ++ cs) :=
      trim_append_of_isBlankRun hBlanks
    _ = trimStart ds ++ cs := trim_of_filled hStarts hEnds

@[simp]
theorem trim_trim
    (cs : List Char) :
    trim (trim cs) = trim cs :=
  trim_of_filled (startsFilled_trim cs) (endsFilled_trim cs)

/- Trimming two texts keeps the blanks between them. -/
theorem exists_trim_append
    (hStarts : StartsFilled cs)
    (hSome : cs ≠ [])
    (hFilled : trim ds ≠ []) :
    ∃ lead, IsBlankRun lead ∧
      trim (cs ++ ds) = cs ++ (lead ++ trim ds) := by
  rcases trim_eq_iff.mp (rfl : trim ds = trim ds) with
    ⟨lead, trail, hSplit, hLead, hTrail, _, hEnds⟩
  have hLast : EndsFilled (cs ++ lead ++ trim ds) :=
    hEnds.append hFilled
  refine ⟨lead, hLead, trim_eq_iff.mpr ⟨[], trail, ?_, ?_, hTrail,
    hStarts.append hSome, ?_⟩⟩
  · exact (congrArg (cs ++ ·) hSplit).trans (by simp)
  · simp [IsBlankRun]
  · simpa using hLast

/- A word and what is written after it, with blanks between them. -/
theorem isCut_trim
    {gap : List Char}
    (hSome : trim cs ≠ [])
    (hWord : ∀ c ∈ trim cs, isBlank c = false)
    (hGap : IsBlankRun gap)
    (hApart : gap ≠ [])
    (hFilled : trim ds ≠ []) :
    IsCut (trim (cs ++ gap ++ ds)) (trim cs) (trim ds) := by
  rcases trim_eq_iff.mp (rfl : trim cs = trim cs) with
    ⟨before, after, hSplit, hBefore, hAfter, hStarts, _⟩
  rcases trim_eq_iff.mp (rfl : trim ds = trim ds) with
    ⟨lead, trail, hOther, hLead, hTrail, hFirst, hEnds⟩
  have hLast :
      EndsFilled (trim cs ++ (after ++ gap ++ lead) ++ trim ds) :=
    hEnds.append hFilled
  have hBoth :
      StartsFilled
        (trim cs ++ ((after ++ gap ++ lead) ++ trim ds)) :=
    hStarts.append hSome
  refine ⟨after ++ gap ++ lead, trim_eq_iff.mpr
    ⟨before, trail, ?_, hBefore, hTrail, ?_, hLast⟩, hSome,
    hWord, (hAfter.append hGap).append hLead, ?_, hFirst⟩
  · calc
      cs ++ gap ++ ds =
          (before ++ trim cs ++ after) ++ gap ++
            (lead ++ trim ds ++ trail) := by
        rw [← hSplit, ← hOther]
      _ = _ := by simp
  · simpa using hBoth
  · intro hNone
    simp [hApart] at hNone

------------------------------------------------------------
-- Words
------------------------------------------------------------

/- A blank before a word is skipped. -/
theorem words_blank
    {c : Char}
    (hBlank : isBlank c = true) :
    words (c :: cs) = words cs :=
  if_pos hBlank

/- A blank ends the word that is being read. -/
theorem wordsFrom_blank
    {c d : Char}
    {word : List Char}
    (hBlank : isBlank c = true) :
    wordsFrom (d :: word) (c :: cs) =
      (d :: word).reverse :: words cs :=
  if_pos hBlank

/- Any other character is a letter of it. -/
theorem wordsFrom_letter
    {c : Char}
    {word : List Char}
    (hLetter : isBlank c = false) :
    wordsFrom word (c :: cs) = wordsFrom (c :: word) cs := by
  have hOther : ¬ isBlank c = true := Bool.eq_false_iff.mp hLetter
  cases word with
  | nil => exact if_neg hOther
  | cons d word => exact if_neg hOther

/- The word that is being read ends at the next blank. -/
theorem wordsFrom_eq
    (d : Char)
    (word : List Char) :
    wordsFrom (d :: word) cs =
      ((d :: word).reverse ++ cs.takeWhile fun c => !isBlank c) ::
        words (cs.dropWhile fun c => !isBlank c) := by
  induction cs generalizing d word with
  | nil => exact congrArg (· :: []) (List.append_nil _).symm
  | cons c cs hInduction =>
      cases hBlank : isBlank c with
      | true =>
          rw [wordsFrom_blank hBlank]
          simp [hBlank, words_blank hBlank]
      | false =>
          rw [wordsFrom_letter hBlank, hInduction]
          simp [hBlank]

theorem words_trimStart
    (cs : List Char) :
    words (trimStart cs) = words cs := by
  induction cs with
  | nil => rfl
  | cons c cs hInduction =>
      cases hBlank : isBlank c with
      | true =>
          have hTrim : trimStart (c :: cs) = trimStart cs := by
            simp [trimStart, hBlank]
          rw [hTrim, hInduction, words_blank hBlank]
      | false => simp [trimStart, hBlank]

/- The words of a text are its first word and those of the rest. -/
theorem words_eq
    (cs : List Char) :
    words cs =
      match splitWord? cs with
      | none => []
      | some (word, rest) => word :: words rest := by
  rw [← words_trimStart]
  unfold splitWord?
  cases hStart : trimStart cs with
  | nil => rfl
  | cons c rest =>
      have hFilled : isBlank c = false :=
        startsFilled_trimStart cs c (by rw [hStart]; rfl)
      have hFirst : words (c :: rest) = wordsFrom [c] rest :=
        wordsFrom_letter hFilled
      rw [hFirst, wordsFrom_eq]
      simp [hFilled, words_trimStart]

/- Nothing but blanks has no words. -/
theorem words_eq_nil_of_isBlankRun
    (hBlank : IsBlankRun right) :
    words right = [] := by
  induction right with
  | nil => rfl
  | cons c right hInduction =>
      rw [words_blank (hBlank c (by simp))]
      exact hInduction fun d hMember =>
        hBlank d (List.mem_cons_of_mem c hMember)

/- Blanks at the end add no word. -/
theorem wordsFrom_append_of_isBlankRun
    (word : List Char)
    (hBlank : IsBlankRun right) :
    wordsFrom word (cs ++ right) = wordsFrom word cs := by
  induction cs generalizing word with
  | nil =>
      rw [List.nil_append]
      have hNone := words_eq_nil_of_isBlankRun hBlank
      cases word with
      | nil => exact hNone
      | cons d word =>
          cases right with
          | nil => rfl
          | cons c right =>
              have hFirst : isBlank c = true := hBlank c (by simp)
              rw [words_blank hFirst] at hNone
              rw [wordsFrom_blank hFirst, hNone]
              rfl
  | cons c cs hInduction =>
      rw [List.cons_append]
      cases hFirst : isBlank c with
      | true =>
          cases word with
          | nil =>
              exact (words_blank hFirst).trans
                ((hInduction []).trans (words_blank hFirst).symm)
          | cons d word =>
              rw [wordsFrom_blank hFirst, wordsFrom_blank hFirst]
              exact congrArg _ (hInduction [])
      | false =>
          rw [wordsFrom_letter hFirst, wordsFrom_letter hFirst]
          exact hInduction (c :: word)

@[simp]
theorem words_trim
    (cs : List Char) :
    words (trim cs) = words cs := by
  rcases exists_trimEnd (trimStart cs) with
    ⟨right, hRight, hSplit, _⟩
  calc
    words (trim cs) = words (trim cs ++ right) :=
      (wordsFrom_append_of_isBlankRun [] hRight).symm
    _ = words (trimStart cs) := by rw [trim, ← hSplit]
    _ = words cs := words_trimStart cs

end GuildWarden.Text
