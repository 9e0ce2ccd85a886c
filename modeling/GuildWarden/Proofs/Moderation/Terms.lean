import GuildWarden.Moderation.BanOrder
import GuildWarden.Proofs.Chat.Mention

/-
  This file says how the terms of a ban are read from its
  order: the hours and the reason. The user ends at a blank of
  any kind, but the hours end at a space only; before any
  other blank they become part of the reason, and the ban is
  permanent.

  Key definitions include:
    * `BanOrder.IsCutAtSpace`
    * `BanOrder.ofTerms`

  Main statements:
    * `BanOrder.read_of_cut`
    * `BanOrder.readTerms_of_hours`
    * `BanOrder.read_of_parts`
    * `BanOrder.reads_hours_iff`
-/

namespace GuildWarden.BanOrder

open Number Text

variable {cs first later word rest : List Char}
variable {tail : String}
variable {userId : Int}

------------------------------------------------------------
-- Hours
------------------------------------------------------------

/- A text is its first part, up to a space, and what comes later. -/
def IsCutAtSpace
    (cs first later : List Char) : Prop :=
  cs = first ++ later ∧ ' ' ∉ first ∧ ∀ c ∈ later.head?, c = ' '

theorem exists_isCutAtSpace
    (cs : List Char) :
    ∃ first later, IsCutAtSpace cs first later := by
  refine ⟨cs.takeWhile (· != ' '), cs.dropWhile (· != ' '),
    List.takeWhile_append_dropWhile.symm, ?_, ?_⟩
  · intro hMember
    have hOther :=
      List.all_eq_true.mp List.all_takeWhile ' ' hMember
    simp at hOther
  · intro c hHead
    have hNot := List.head?_dropWhile_not (· != ' ') cs
    rw [Option.mem_def.mp hHead] at hNot
    simpa using hNot

theorem cutAtSpace_of_isCutAtSpace
    (hCut : IsCutAtSpace cs first later) :
    cutAtSpace cs = (first, later.drop 1) := by
  rcases hCut with ⟨rfl, hNone, hSpace⟩
  have hLetters : ∀ c ∈ first, (c != ' ') = true := by
    intro c hMember
    simp only [bne_iff_ne, ne_eq]
    rintro rfl
    exact hNone hMember
  have hStop :
      later.takeWhile (· != ' ') = [] ∧
        later.dropWhile (· != ' ') = later := by
    cases later with
    | nil => exact ⟨rfl, rfl⟩
    | cons c later => simp [hSpace c rfl]
  rw [cutAtSpace, List.takeWhile_append_of_pos hLetters,
    List.dropWhile_append_of_pos hLetters, hStop.1, hStop.2,
    List.append_nil]

/- A first part of digits gives the hours, or has no number. -/
theorem readTerms_of_digits
    (hCut : IsCutAtSpace cs first later)
    (hSome : first ≠ [])
    (hDigits : ∀ c ∈ first, isDigit c = true) :
    readTerms cs =
      match readInteger? first with
      | some hours => .ok (hours, trim (later.drop 1))
      | none => .error (.badValue "") := by
  have hFirst :
      (!first.isEmpty && first.all isDigit) = true := by
    simpa [hSome] using hDigits
  have hCutOff := cutAtSpace_of_isCutAtSpace hCut
  cases hRead : readInteger? first with
  | none => simp only [readTerms, hCutOff, hFirst, if_true, hRead]
  | some hours =>
      simp only [readTerms, hCutOff, hFirst, if_true, hRead]

/- Without one, everything is the reason. -/
theorem readTerms_of_other
    (hCut : IsCutAtSpace cs first later)
    (hOther : ¬ (first ≠ [] ∧ ∀ c ∈ first, isDigit c = true)) :
    readTerms cs = .ok (0, cs) := by
  have hFirst :
      (!first.isEmpty && first.all isDigit) = false := by
    rw [Bool.eq_false_iff]
    intro hBoth
    apply hOther
    simpa using hBoth
  simp only [readTerms, cutAtSpace_of_isCutAtSpace hCut, hFirst,
    Bool.false_eq_true, if_false]

/- A blank behind the hours that is no space joins them to the reason. -/
theorem exists_blank_of_isCutAtSpace
    {b : Char}
    {hours : List Char}
    (hCut : IsCutAtSpace (hours ++ b :: rest) first later)
    (hSpace : b ≠ ' ')
    (hDigits : ∀ c ∈ hours, isBlank c = false) :
    b ∈ first := by
  rcases hCut with ⟨hText, _, hHead⟩
  rcases List.append_eq_append_iff.mp hText with
    ⟨more, rfl, hLater⟩ | ⟨more, rfl, rfl⟩
  · cases more with
    | nil =>
        rw [List.nil_append] at hLater
        exact (hSpace (hHead b (by rw [← hLater]; rfl))).elim
    | cons c more =>
        cases (List.cons.inj hLater).1
        simp
  · cases more with
    | nil => exact (hSpace (hHead b rfl)).elim
    | cons c more =>
        cases hHead c rfl
        cases hDigits ' ' (by simp)

------------------------------------------------------------
-- Orders
------------------------------------------------------------

/- The order to ban a user for some hours and a reason. -/
def ofTerms
    (userId : Int)
    (terms : Int × List Char) : BanOrder where
  userId := userId
  hours := terms.1
  reason :=
    if String.ofList terms.2 = "" then defaultReason
    else String.ofList terms.2

theorem ofTerms_of_some
    {hours : Int}
    (hSome : cs ≠ []) :
    ofTerms userId (hours, cs) =
      ⟨userId, hours, String.ofList cs⟩ := by
  have hFilled : String.ofList cs ≠ "" := by simpa using hSome
  simp only [ofTerms, if_neg hFilled]

/- What follows the first word of a trimmed text is trimmed. -/
theorem trim_rest_of_isCut
    (hCut : IsCut (trim cs) word rest) :
    trim rest = rest := by
  apply trim_of_filled hCut.startsFilled_rest
  have hEnds := endsFilled_trim cs
  rcases hCut with ⟨blanks, hText, _⟩
  intro c hLast
  refine hEnds c ?_
  rw [hText, List.getLast?_append, Option.mem_def.mp hLast]
  rfl

/- The first word is the user, and the rest gives the terms. -/
theorem read_of_cut
    (hCut : IsCut (trim tail.toList) word rest)
    (hUser :
      Mention.user.read? (String.ofList word) = some userId) :
    read tail = (readTerms rest).map (ofTerms userId) := by
  have hSplit :=
    (splitWord?_eq_some_iff (startsFilled_trim _)).mpr hCut
  unfold read
  simp only [hSplit, hUser, trim_rest_of_isCut hCut]
  cases readTerms rest <;> rfl

theorem read_of_other
    (hCut : IsCut (trim tail.toList) word rest)
    (hOther : Mention.user.read? (String.ofList word) = none) :
    read tail = .error (notAUser (String.ofList word)) := by
  have hSplit :=
    (splitWord?_eq_some_iff (startsFilled_trim _)).mpr hCut
  unfold read
  simp only [hSplit, hOther]

/- Hours and a reason with blanks between them. -/
theorem readTerms_of_hours
    {hours blanks reason : List Char}
    (hSome : hours ≠ [])
    (hDigits : ∀ c ∈ hours, c.isDigit = true)
    (hShort : hours.length ≤ digitLimit)
    (hGap : blanks ≠ [])
    (hBlanks : IsBlankRun blanks) :
    readTerms (hours ++ blanks ++ reason) =
      if blanks.head? = some ' ' then
        .ok (Nat.ofDigitChars 10 hours 0, trim reason)
      else .ok (0, hours ++ blanks ++ reason) := by
  have hWord : ∀ c ∈ hours, isDigit c = true :=
    fun c hMember =>
      isDigit_of_isDecimal (isDecimal_of_isDigit (hDigits c hMember))
  have hLetters := isBlank_of_digits hDigits
  cases blanks with
  | nil => exact (hGap rfl).elim
  | cons b blanks =>
      have hFirst : isBlank b = true := hBlanks b (by simp)
      have hOthers : IsBlankRun blanks :=
        fun c hMember => hBlanks c (List.mem_cons_of_mem b hMember)
      split
      · rename_i hSpace
        cases hSpace
        have hCut :
            IsCutAtSpace (hours ++ ' ' :: blanks ++ reason) hours
              (' ' :: (blanks ++ reason)) := by
          refine ⟨by simp, ?_, by simp⟩
          intro hMember
          cases hLetters ' ' hMember
        rw [readTerms_of_digits hCut hSome hWord,
          readInteger?_of_digits hDigits hSome hShort]
        simp [trim_append_of_isBlankRun hOthers]
      · rename_i hSpace
        rcases exists_isCutAtSpace
            (hours ++ b :: (blanks ++ reason)) with
          ⟨first, later, hCut⟩
        have hMember : b ∈ first :=
          exists_blank_of_isCutAtSpace hCut (by simpa using hSpace)
            hLetters
        rw [List.append_assoc, List.cons_append]
        apply readTerms_of_other hCut
        rintro ⟨_, hAll⟩
        cases (hAll b hMember).symm.trans
          (isDigit_of_isBlank hFirst)

------------------------------------------------------------
-- Hours in Orders
------------------------------------------------------------

variable {user gap hours blanks reason : String}

/- Trimmed, the terms still begin with the hours and their blanks. -/
theorem exists_trim_terms
    (blanks : String)
    (hHours : hours ≠ "" ∧ ∀ c ∈ hours.toList, c.isDigit = true)
    (hReason : trimmed reason ≠ "") :
    ∃ lead, IsBlankRun lead ∧
      trim (hours ++ blanks ++ reason).toList =
        hours.toList ++ blanks.toList ++
          (lead ++ trim reason.toList) := by
  have hSome : hours.toList ≠ [] := by simpa using hHours.1
  have hLetters := isBlank_of_digits hHours.2
  have hStarts : StartsFilled (hours.toList ++ blanks.toList) :=
    StartsFilled.append
      (fun c hHead => hLetters c (List.mem_of_mem_head? hHead))
      hSome
  have hWhy : trim reason.toList ≠ [] := by
    simpa [trimmed] using hReason
  rcases exists_trim_append hStarts (by simp [hHours.1]) hWhy with
    ⟨lead, hLead, hTerms⟩
  exact ⟨lead, hLead, by simpa using hTerms⟩

/- So they are never the reason alone. -/
theorem trimmed_terms_ne
    (hHours : hours ≠ "" ∧ ∀ c ∈ hours.toList, c.isDigit = true)
    (hReason : trimmed reason ≠ "") :
    trimmed (hours ++ blanks ++ reason) ≠ trimmed reason := by
  rcases exists_trim_terms blanks hHours hReason with
    ⟨lead, _, hTerms⟩
  intro hSame
  simp only [trimmed, hTerms, String.ofList_inj] at hSame
  have hLength := congrArg List.length hSame
  have hLong := List.length_pos_iff.mpr
    (show hours.toList ≠ [] by simpa using hHours.1)
  simp only [List.length_append] at hLength
  omega

/- An order that gives a user, hours and a reason. -/
theorem read_of_parts
    (hUser : Mention.user.read? user = some userId)
    (hGap : gap ≠ "" ∧ IsBlankRun gap.toList)
    (hHours : hours ≠ "" ∧ ∀ c ∈ hours.toList, c.isDigit = true)
    (hShort : hours.length ≤ 4300)
    (hBlanks : blanks ≠ "" ∧ IsBlankRun blanks.toList)
    (hReason : trimmed reason ≠ "") :
    read (user ++ gap ++ hours ++ blanks ++ reason) =
      .ok
        (if blanks.toList.head? = some ' ' then
          ⟨userId, Nat.ofDigitChars 10 hours.toList 0,
            trimmed reason⟩
        else
          ⟨userId, 0, trimmed (hours ++ blanks ++ reason)⟩) := by
  rcases Mention.unbroken_of_read? hUser with ⟨hSome, hWord⟩
  rcases exists_trim_terms blanks hHours hReason with
    ⟨lead, hLead, hTerms⟩
  have hWhy : trim reason.toList ≠ [] := by
    simpa [trimmed] using hReason
  have hFilled : trim (hours ++ blanks ++ reason).toList ≠ [] := by
    rw [hTerms]
    simp [hHours.1]
  have hCut :
      IsCut
        (trim (user ++ gap ++ hours ++ blanks ++ reason).toList)
        (trim user.toList)
        (trim (hours ++ blanks ++ reason).toList) := by
    have hApart : gap.toList ≠ [] := by simpa using hGap.1
    simpa using isCut_trim hSome hWord hGap.2 hApart hFilled
  rw [read_of_cut hCut
    ((Mention.read?_trim .user user).trans hUser)]
  have hLong :
      ofTerms userId (0, trim (hours ++ blanks ++ reason).toList) =
        ⟨userId, 0, trimmed (hours ++ blanks ++ reason)⟩ :=
    ofTerms_of_some hFilled
  have hTimed (n : Int) :
      ofTerms userId (n, trim reason.toList) =
        ⟨userId, n, trimmed reason⟩ :=
    ofTerms_of_some hWhy
  rw [← hLong, ← hTimed, hTerms, readTerms_of_hours
    (by simpa using hHours.1) hHours.2
    (by rw [String.length_toList]; exact hShort)
    (by simpa using hBlanks.1) hBlanks.2,
    trim_append_of_isBlankRun hLead, trim_trim]
  split <;> rfl

/-
  A user, hours and a reason, with blanks between them. The
  hours are read if and only if the blanks after them start
  with a space. Otherwise the ban is permanent, and the hours
  are taken for the start of the reason.
-/
theorem reads_hours_iff
    {user gap hours blanks reason : String}
    (hUser : Mention.user.read? user = some userId)
    (hGap : gap ≠ "" ∧ IsBlankRun gap.toList)
    (hHours : hours ≠ "" ∧ ∀ c ∈ hours.toList, c.isDigit = true)
    (hShort : hours.length ≤ 4300)
    (hBlanks : blanks ≠ "" ∧ IsBlankRun blanks.toList)
    (hReason : trimmed reason ≠ "") :
    (read (user ++ gap ++ hours ++ blanks ++ reason) =
        .ok ⟨userId, Nat.ofDigitChars 10 hours.toList 0,
          trimmed reason⟩ ↔
      blanks.toList.head? = some ' ') ∧
    (blanks.toList.head? ≠ some ' ' →
      read (user ++ gap ++ hours ++ blanks ++ reason) =
        .ok ⟨userId, 0, trimmed (hours ++ blanks ++ reason)⟩) := by
  rw [read_of_parts hUser hGap hHours hShort hBlanks hReason]
  by_cases hSpace : blanks.toList.head? = some ' '
  · simp [hSpace]
  · rw [if_neg hSpace]
    refine ⟨⟨fun hTaken => ?_, fun hTaken => (hSpace hTaken).elim⟩,
      fun _ => rfl⟩
    have hSame :=
      congrArg BanOrder.reason (Except.ok.inj hTaken)
    exact (trimmed_terms_ne hHours hReason hSame).elim

/- Hours are lost if a line ends behind them. -/
theorem hours_before_newline_lost :
    Mention.user.read? "80351110224678912" =
        some 80351110224678912 ∧
      read "80351110224678912 24 spam" =
        .ok ⟨80351110224678912, 24, "spam"⟩ ∧
      read "80351110224678912 24\nspam" =
        .ok ⟨80351110224678912, 0, "24\nspam"⟩ := by
  have hUser :
      Mention.user.read? "80351110224678912" =
        some 80351110224678912 := by
    decide
  have hSpace : " " ≠ "" ∧ IsBlankRun " ".toList := by decide
  have hNewline : "\n" ≠ "" ∧ IsBlankRun "\n".toList := by decide
  have hHours :
      "24" ≠ "" ∧ ∀ c ∈ "24".toList, c.isDigit = true :=
    ⟨by decide, List.all_eq_true.mp (by decide)⟩
  have hReason : trimmed "spam" ≠ "" := by decide
  exact ⟨hUser,
    (reads_hours_iff hUser hSpace hHours (by decide) hSpace
      hReason).1.mpr (by decide),
    (reads_hours_iff hUser hSpace hHours (by decide) hNewline
      hReason).2 (by decide)⟩

end GuildWarden.BanOrder
