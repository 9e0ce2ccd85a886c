import GuildWarden.Chat.Mention
import GuildWarden.Proofs.Number.Digits
import Mathlib.Data.Nat.Digits.Defs

/-
  This file says what a mention is made of: digits, bare or
  between an opening mark and a closing one. So it has no
  blank inside, and the digits of an id mention that id.

  The grammar of mentions is a numeral of 15 to 21 decimal
  digits of any script, bare or between the marks of its kind,
  with blanks around the whole. They are read by it, and a
  wrapped numeral is a mention of its own kind only.

  Key definitions include:
    * `Mention.IsNumeral`
    * `Mention.Wraps`
    * `Mention.IsBare`
    * `Mention.IsWrapped`

  Main statements:
    * `Mention.exists_digits_of_read?`
    * `Mention.unbroken_of_read?`
    * `Mention.eq_of_read?_decimal`
    * `Mention.readDigits?_eq_some_iff`
    * `Mention.read?_eq_some_iff_or`
    * `Mention.isWrapped_iff`
    * `Mention.reads_iff_written`
-/

namespace GuildWarden.Mention

open Number Text

variable {kind : Mention}
variable {cs : List Char}
variable {s : String}
variable {n : Int}

------------------------------------------------------------
-- Parts of a Mention
------------------------------------------------------------

/- What a run of digits stands for is the value of its digits. -/
theorem exists_values_of_readDigits?
    (hRead : Mention.readDigits? cs = some n) :
    ∃ ds, cs.mapM digitValue? = some ds ∧ 15 ≤ ds.length ∧
      ds.length ≤ 21 ∧ n = digitsValue ds := by
  unfold Mention.readDigits? at hRead
  split at hRead
  · rename_i ds hValues
    split at hRead
    · rename_i hLength
      simp only [Bool.and_eq_true, decide_eq_true_eq] at hLength
      cases hRead
      exact ⟨ds, hValues, hLength.1, hLength.2, rfl⟩
    · cases hRead
  · cases hRead

theorem digits_of_readDigits?
    (hRead : Mention.readDigits? cs = some n) :
    cs ≠ [] ∧ ∀ c ∈ cs, isDecimal c = true := by
  rcases exists_values_of_readDigits? hRead with
    ⟨ds, hValues, hLong, _, _⟩
  rcases isDecimal_of_mapM hValues with ⟨hDecimal, hLength⟩
  refine ⟨?_, hDecimal⟩
  rintro rfl
  rw [hLength] at hLong
  cases hLong

/- What stands inside the marks. -/
theorem inside?_eq_some_iff
    {opening : String}
    {body : List Char} :
    inside? opening cs = some body ↔
      cs = opening.toList ++ body ++ ['>'] := by
  unfold inside?
  constructor
  · intro hInside
    split at hInside
    · rename_i rest hRest
      split at hInside
      · rename_i letters hReverse
        cases hInside
        have hLetters : rest = letters.reverse ++ ['>'] := by
          rw [← List.reverse_reverse rest, hReverse,
            List.reverse_cons]
        rw [dropPrefix?_eq_some_iff.mp hRest, hLetters,
          List.append_assoc]
      · cases hInside
    · cases hInside
  · rintro rfl
    rw [List.append_assoc, dropPrefix?_eq_some_iff.mpr rfl]
    simp

------------------------------------------------------------
-- Mentions
------------------------------------------------------------

/- A mention has digits, bare or inside the marks of its kind. -/
theorem exists_digits_of_read?
    (hRead : kind.read? s = some n) :
    ∃ ds, Mention.readDigits? ds = some n ∧
      (trim s.toList = ds ∨
        ∃ opening ∈ kind.openings,
          trim s.toList = opening.toList ++ ds ++ ['>']) := by
  unfold read? at hRead
  simp only at hRead
  split at hRead
  · rename_i hWrapped
    cases hRead
    rcases List.exists_of_findSome?_eq_some hWrapped with
      ⟨opening, hOpening, hSome⟩
    rcases Option.bind_eq_some_iff.mp hSome with
      ⟨body, hInside, hDigits⟩
    exact ⟨body, hDigits, Or.inr ⟨opening, hOpening,
      inside?_eq_some_iff.mp hInside⟩⟩
  · exact ⟨_, hRead, Or.inl rfl⟩

/- Blanks around a mention do not count. -/
theorem read?_trim
    (kind : Mention)
    (s : String) :
    kind.read? (String.ofList (trim s.toList)) =
      kind.read? s := by
  simp only [read?, String.toList_ofList, trim_trim]

/- No blank stands inside a mention. -/
theorem unbroken_of_read?
    (hRead : kind.read? s = some n) :
    trim s.toList ≠ [] ∧
      ∀ c ∈ trim s.toList, isBlank c = false := by
  rcases exists_digits_of_read? hRead with
    ⟨ds, hDigits, hForm⟩
  rcases digits_of_readDigits? hDigits with ⟨hSome, hDecimal⟩
  have hLetters : ∀ c ∈ ds, isBlank c = false :=
    fun c hMember =>
      isBlank_of_isDigit
        (isDigit_of_isDecimal (hDecimal c hMember))
  have hMarks :
      ∀ opening ∈ kind.openings,
        opening.toList.all (fun c => !isBlank c) = true := by
    cases kind <;> decide
  rcases hForm with hBare | ⟨opening, hOpening, hWrapped⟩
  · rw [hBare]
    exact ⟨hSome, hLetters⟩
  · rw [hWrapped]
    refine ⟨by simp, ?_⟩
    intro c hMember
    simp only [List.mem_append, List.mem_singleton] at hMember
    rcases hMember with (hMark | hDigit) | rfl
    · simpa using
        List.all_eq_true.mp (hMarks opening hOpening) c hMark
    · exact hLetters c hDigit
    · rfl

/- A run of digits stands for no negative number. -/
theorem nonneg_of_readDigits?
    (hRead : Mention.readDigits? cs = some n) :
    0 ≤ n := by
  rcases exists_values_of_readDigits? hRead with
    ⟨ds, _, _, _, rfl⟩
  exact Int.natCast_nonneg _

/- No mention is of a negative id. -/
theorem nonneg_of_read?
    (hRead : kind.read? s = some n) :
    0 ≤ n := by
  rcases exists_digits_of_read? hRead with ⟨ds, hDigits, _⟩
  exact nonneg_of_readDigits? hDigits

/- The digits of an id mention no other id. -/
theorem eq_of_read?_decimal
    {id : Nat}
    (hRead : kind.read? (decimal id) = some n) :
    n = id := by
  have hAscii :
      ∀ c ∈ (decimal id).toList, c.isDigit = true := by
    rw [toList_decimal]
    exact fun c hMember =>
      Nat.isDigit_of_mem_toDigits (by omega) (by omega) hMember
  have hKept : trim (decimal id).toList = (decimal id).toList := by
    have hFilled := isBlank_of_digits hAscii
    exact trim_of_filled
      (fun c hHead => hFilled c (List.mem_of_mem_head? hHead))
      (fun c hLast => hFilled c (List.mem_of_mem_getLast? hLast))
  rcases exists_digits_of_read? hRead with
    ⟨ds, hDigits, hBare | ⟨opening, _, hWrapped⟩⟩
  · rw [hKept] at hBare
    subst hBare
    rcases exists_values_of_readDigits? hDigits with
      ⟨ds, hValues, _, _, rfl⟩
    rw [mapM_digitValue?_of_digits hAscii] at hValues
    cases hValues
    rw [digitsValue_map, toList_decimal,
      Nat.ofDigitChars_toDigits (by omega) (by omega)]
  · rw [hKept] at hWrapped
    rw [hWrapped] at hAscii
    cases hAscii '>' (by simp)

------------------------------------------------------------
-- Numerals
------------------------------------------------------------

variable {other : Mention}
variable {ds body : List Char}
variable {m : Int}

/- A run of 15 to 21 decimal digits, and its decimal value. -/
structure IsNumeral
    (ds : List Char)
    (n : Int) : Prop where
  long : 15 ≤ ds.length
  short : ds.length ≤ 21
  value :
    ∃ vs : List Nat, ds.map digitValue? = vs.map some ∧
      n = (Nat.ofDigits 10 vs.reverse : Nat)

/- The last digit counts once, and each before it ten times more. -/
theorem digitsValue_eq_ofDigits
    (vs : List Nat) :
    digitsValue vs = Nat.ofDigits 10 vs.reverse := by
  rw [Nat.ofDigits_eq_foldr, List.foldr_reverse, digitsValue]
  refine congrArg (fun f => List.foldl f 0 vs) ?_
  funext acc d
  exact Nat.add_comm _ _

theorem mapM_eq_some_iff
    {vs : List Nat} :
    ds.mapM digitValue? = some vs ↔
      ds.map digitValue? = vs.map some := by
  induction ds generalizing vs with
  | nil => cases vs <;> simp
  | cons d ds hInduction =>
      cases vs with
      | nil => simp [Option.bind_eq_some_iff]
      | cons v vs => simp [Option.bind_eq_some_iff, ← hInduction]

/- A run of digits is read if and only if it is a numeral. -/
theorem readDigits?_eq_some_iff :
    Mention.readDigits? ds = some n ↔ IsNumeral ds n := by
  constructor
  · intro hRead
    rcases exists_values_of_readDigits? hRead with
      ⟨vs, hValues, hLong, hShort, rfl⟩
    have hLength := (isDecimal_of_mapM hValues).2
    rw [hLength] at hLong hShort
    refine ⟨hLong, hShort, vs, mapM_eq_some_iff.mp hValues, ?_⟩
    rw [digitsValue_eq_ofDigits]
  · rintro ⟨hLong, hShort, vs, hValues, rfl⟩
    have hMapM := mapM_eq_some_iff.mpr hValues
    have hLength : vs.length = ds.length :=
      (isDecimal_of_mapM hMapM).2
    simp [Mention.readDigits?, hMapM, hLength, hLong, hShort,
      digitsValue_eq_ofDigits]

theorem IsNumeral.ne_nil
    (hNumeral : IsNumeral ds n) :
    ds ≠ [] :=
  (digits_of_readDigits? (readDigits?_eq_some_iff.mpr hNumeral)).1

/- Nothing but digits stands in a numeral. -/
theorem IsNumeral.digits
    (hNumeral : IsNumeral ds n) :
    ∀ c ∈ ds, isDecimal c = true :=
  (digits_of_readDigits? (readDigits?_eq_some_iff.mpr hNumeral)).2

theorem IsNumeral.notMem
    {c : Char}
    (hNumeral : IsNumeral ds n)
    (hMark : isDecimal c = false) :
    c ∉ ds := by
  intro hMember
  cases (hNumeral.digits c hMember).symm.trans hMark

theorem IsNumeral.filled
    (hNumeral : IsNumeral ds n) :
    ∀ c ∈ ds, isBlank c = false :=
  fun c hMember =>
    isBlank_of_isDigit
      (isDigit_of_isDecimal (hNumeral.digits c hMember))

/- A numeral has one value. -/
theorem IsNumeral.unique
    (hFirst : IsNumeral ds n)
    (hSecond : IsNumeral ds m) :
    n = m := by
  have hSame :=
    (readDigits?_eq_some_iff.mpr hFirst).symm.trans
      (readDigits?_eq_some_iff.mpr hSecond)
  exact Option.some.inj hSame

------------------------------------------------------------
-- Marks
------------------------------------------------------------

/- The ways to wrap a text as a mention of a kind. -/
inductive Wraps : Mention → List Char → List Char → Prop where
  | user
      (ds : List Char) :
      Wraps .user ('<' :: '@' :: (ds ++ ['>'])) ds
  | member
      (ds : List Char) :
      Wraps .user ('<' :: '@' :: '!' :: (ds ++ ['>'])) ds
  | channel
      (ds : List Char) :
      Wraps .channel ('<' :: '#' :: (ds ++ ['>'])) ds
  | role
      (ds : List Char) :
      Wraps .role ('<' :: '@' :: '&' :: (ds ++ ['>'])) ds

/- The opening marks of a kind are those that it wraps with. -/
theorem wraps_iff :
    Wraps kind body ds ↔
      ∃ opening ∈ kind.openings,
        body = opening.toList ++ ds ++ ['>'] := by
  constructor
  · intro hWraps
    cases hWraps with
    | user => exact ⟨"<@", by simp [openings], rfl⟩
    | member => exact ⟨"<@!", by simp [openings], rfl⟩
    | channel => exact ⟨"<#", by simp [openings], rfl⟩
    | role => exact ⟨"<@&", by simp [openings], rfl⟩
  · rintro ⟨opening, hOpening, rfl⟩
    cases kind with
    | user =>
        simp only [openings, List.mem_cons, List.not_mem_nil,
          or_false] at hOpening
        rcases hOpening with rfl | rfl
        · exact .member ds
        · exact .user ds
    | channel =>
        cases List.mem_singleton.mp hOpening
        exact .channel ds
    | role =>
        cases List.mem_singleton.mp hOpening
        exact .role ds

/- A wrapped text starts and ends with a mark. -/
theorem Wraps.exists_inner
    (hWraps : Wraps kind body ds) :
    ∃ inner, body = '<' :: (inner ++ ['>']) := by
  cases hWraps with
  | user => exact ⟨'@' :: ds, rfl⟩
  | member => exact ⟨'@' :: '!' :: ds, rfl⟩
  | channel => exact ⟨'#' :: ds, rfl⟩
  | role => exact ⟨'@' :: '&' :: ds, rfl⟩

/- A numeral is not wrapped. -/
theorem IsNumeral.not_wraps
    {inner : List Char}
    (hNumeral : IsNumeral body n) :
    ¬ Wraps kind body inner := by
  intro hWraps
  rcases hWraps.exists_inner with ⟨letters, rfl⟩
  exact hNumeral.notMem (c := '<') rfl List.mem_cons_self

/- The marks before a numeral are what is before its digits. -/
theorem IsNumeral.takeWhile_append
    {opening : String}
    (hNumeral : IsNumeral ds n)
    (hOpening : opening ∈ kind.openings) :
    (opening.toList ++ ds).takeWhile (fun c => !isDecimal c) =
      opening.toList := by
  have hEach :
      (kind.openings.all fun mark =>
        mark.toList.all fun c => !isDecimal c) = true := by
    cases kind <;> decide
  have hMarks :=
    List.all_eq_true.mp (List.all_eq_true.mp hEach opening hOpening)
  rw [List.takeWhile_append_of_pos hMarks]
  cases ds with
  | nil => exact (hNumeral.ne_nil rfl).elim
  | cons d ds =>
      have hDigit := hNumeral.digits d List.mem_cons_self
      rw [List.takeWhile_cons_of_neg (by simp [hDigit]),
        List.append_nil]

/- No two kinds have an opening mark in common. -/
theorem eq_of_mem_openings
    {opening : String}
    (hOpening : opening ∈ kind.openings)
    (hOther : opening ∈ other.openings) :
    other = kind := by
  have hApart :
      ∀ a b : Mention,
        ∀ mark ∈ a.openings, mark ∈ b.openings → b = a := by
    intro a b
    cases a <;> cases b <;> decide
  exact hApart kind other opening hOpening hOther

/- A wrapped numeral is wrapped by one kind, and in one way. -/
theorem Wraps.unique
    {ds' : List Char}
    (hFirst : Wraps kind body ds)
    (hSecond : Wraps other body ds')
    (hNumeral : IsNumeral ds n)
    (hOther : IsNumeral ds' m) :
    other = kind ∧ ds' = ds := by
  rcases wraps_iff.mp hFirst with ⟨opening, hMark, rfl⟩
  rcases wraps_iff.mp hSecond with ⟨opening', hMark', hSame⟩
  have hInner : opening.toList ++ ds = opening'.toList ++ ds' :=
    List.append_cancel_right hSame
  have hOpening : opening = opening' := by
    apply String.toList_inj.mp
    rw [← hNumeral.takeWhile_append hMark, hInner,
      hOther.takeWhile_append hMark']
  subst hOpening
  exact ⟨eq_of_mem_openings hMark hMark',
    (List.append_cancel_left hInner).symm⟩

------------------------------------------------------------
-- Mentions
------------------------------------------------------------

/- What is written as a mention of a kind. -/
def Writes
    (kind : Mention)
    (body : List Char)
    (n : Int) : Prop :=
  IsNumeral body n ∨ ∃ ds, Wraps kind body ds ∧ IsNumeral ds n

/- A text, with blanks around it or not. -/
def Surrounds
    (s : String)
    (body : List Char) : Prop :=
  ∃ left right, s.toList = left ++ body ++ right ∧
    IsBlankRun left ∧ IsBlankRun right

/- No blank stands at the ends of what is written. -/
theorem Writes.filled
    (hWrites : Writes kind body n) :
    StartsFilled body ∧ EndsFilled body := by
  rcases hWrites with hBare | ⟨ds, hWraps, _⟩
  · exact ⟨fun c hHead =>
        hBare.filled c (List.mem_of_mem_head? hHead),
      fun c hLast =>
        hBare.filled c (List.mem_of_mem_getLast? hLast)⟩
  · rcases hWraps.exists_inner with ⟨inner, rfl⟩
    have hMark : EndsFilled ['>'] := by
      rintro c ⟨⟩
      rfl
    have hEnds : EndsFilled (('<' :: inner) ++ ['>']) :=
      hMark.append (List.cons_ne_nil _ _)
    refine ⟨?_, hEnds⟩
    rintro c ⟨⟩
    rfl

/- So it is what the text is trimmed to. -/
theorem Writes.surrounds_iff
    (hWrites : Writes kind body n) :
    Surrounds s body ↔ trim s.toList = body := by
  rw [trim_eq_iff]
  constructor
  · rintro ⟨left, right, hText, hLeft, hRight⟩
    exact ⟨left, right, hText, hLeft, hRight, hWrites.filled⟩
  · rintro ⟨left, right, hText, hLeft, hRight, _⟩
    exact ⟨left, right, hText, hLeft, hRight⟩

theorem readWrapped?_eq_some_iff
    {opening : String} :
    readWrapped? opening body = some n ↔
      ∃ ds, body = opening.toList ++ ds ++ ['>'] ∧
        IsNumeral ds n := by
  simp only [readWrapped?, Option.bind_eq_some_iff,
    inside?_eq_some_iff, readDigits?_eq_some_iff]

/- The marks of a kind are tried, and what they leave is read. -/
theorem findSome?_eq_some_iff :
    (kind.openings.findSome? fun opening =>
        readWrapped? opening body) = some n ↔
      ∃ ds, Wraps kind body ds ∧ IsNumeral ds n := by
  constructor
  · intro hFound
    rcases List.exists_of_findSome?_eq_some hFound with
      ⟨opening, hOpening, hRead⟩
    rcases readWrapped?_eq_some_iff.mp hRead with
      ⟨ds, hBody, hNumeral⟩
    exact ⟨ds, wraps_iff.mpr ⟨opening, hOpening, hBody⟩, hNumeral⟩
  · rintro ⟨ds, hWraps, hNumeral⟩
    rcases wraps_iff.mp hWraps with ⟨opening, hOpening, hBody⟩
    have hRead :=
      readWrapped?_eq_some_iff.mpr ⟨ds, hBody, hNumeral⟩
    cases hFound :
        kind.openings.findSome? fun opening =>
          readWrapped? opening body with
    | none =>
        rw [List.findSome?_eq_none_iff] at hFound
        cases hRead.symm.trans (hFound opening hOpening)
    | some m =>
        -- An opening mark that is tried earlier leaves the same.
        rcases List.exists_of_findSome?_eq_some hFound with
          ⟨opening', hOpening', hRead'⟩
        rcases readWrapped?_eq_some_iff.mp hRead' with
          ⟨ds', hBody', hNumeral'⟩
        have hSame :=
          (hWraps.unique
            (wraps_iff.mpr ⟨opening', hOpening', hBody'⟩)
            hNumeral hNumeral').2
        subst hSame
        rw [hNumeral.unique hNumeral']

/- A mention is read just as it is written. -/
theorem read?_eq_some_iff :
    kind.read? s = some n ↔ Writes kind (trim s.toList) n := by
  have hRead :
      kind.read? s =
        (kind.openings.findSome? fun opening =>
          readWrapped? opening (trim s.toList)).or
            (Mention.readDigits? (trim s.toList)) := by
    simp only [read?]
    cases kind.openings.findSome? fun opening =>
      readWrapped? opening (trim s.toList) <;> rfl
  rw [hRead]
  constructor
  · intro hSome
    rcases Option.or_eq_some_iff.mp hSome with
      hFound | ⟨_, hBare⟩
    · exact Or.inr (findSome?_eq_some_iff.mp hFound)
    · exact Or.inl (readDigits?_eq_some_iff.mp hBare)
  · rintro (hBare | hWrapped)
    · refine Option.or_eq_some_iff.mpr (Or.inr ⟨?_,
        readDigits?_eq_some_iff.mpr hBare⟩)
      apply Option.eq_none_iff_forall_ne_some.mpr
      intro m hFound
      rcases findSome?_eq_some_iff.mp hFound with ⟨_, hWraps, _⟩
      exact hBare.not_wraps hWraps
    · exact Option.or_eq_some_iff.mpr
        (Or.inl (findSome?_eq_some_iff.mpr hWrapped))

/- A text that surrounds a wrapped numeral, and nothing else. -/
def IsWrapped
    (kind : Mention)
    (s : String)
    (n : Int) : Prop :=
  ∃ body ds, Surrounds s body ∧ Wraps kind body ds ∧
    IsNumeral ds n

/- A text that surrounds a numeral without marks. -/
def IsBare
    (s : String)
    (n : Int) : Prop :=
  ∃ body, Surrounds s body ∧ IsNumeral body n

/- A bare numeral is a mention of any kind, a wrapped one of its own. -/
theorem read?_eq_some_iff_or :
    kind.read? s = some n ↔ IsBare s n ∨ IsWrapped kind s n := by
  rw [read?_eq_some_iff]
  constructor
  · intro hWrites
    have hText := hWrites.surrounds_iff.mpr rfl
    rcases hWrites with hBare | ⟨ds, hWraps, hNumeral⟩
    · exact Or.inl ⟨_, hText, hBare⟩
    · exact Or.inr ⟨_, ds, hText, hWraps, hNumeral⟩
  · rintro (⟨body, hText, hBare⟩ | ⟨body, ds, hText, hWraps, hNumeral⟩)
    · have hWrites : Writes kind body n := Or.inl hBare
      rwa [hWrites.surrounds_iff.mp hText]
    · have hWrites : Writes kind body n :=
        Or.inr ⟨ds, hWraps, hNumeral⟩
      rwa [hWrites.surrounds_iff.mp hText]

/- A wrapped numeral is a mention of no other kind. -/
theorem IsWrapped.read?_eq_none
    (hWrapped : IsWrapped kind s n)
    (hOther : other ≠ kind) :
    other.read? s = none := by
  rcases hWrapped with ⟨body, ds, hText, hWraps, hNumeral⟩
  have hWrites : Writes kind body n := Or.inr ⟨ds, hWraps, hNumeral⟩
  have hTrim := hWrites.surrounds_iff.mp hText
  apply Option.eq_none_iff_forall_ne_some.mpr
  intro m hRead
  rw [read?_eq_some_iff, hTrim] at hRead
  rcases hRead with hBare | ⟨ds', hWraps', hNumeral'⟩
  · exact hBare.not_wraps hWraps
  · exact hOther (hWraps.unique hWraps' hNumeral hNumeral').1

/- Only a wrapped numeral is a mention of one kind alone. -/
theorem isWrapped_iff :
    IsWrapped kind s n ↔
      kind.read? s = some n ∧
        ∀ other, other ≠ kind → other.read? s = none := by
  constructor
  · intro hWrapped
    exact ⟨read?_eq_some_iff_or.mpr (Or.inr hWrapped),
      fun other hOther => hWrapped.read?_eq_none hOther⟩
  · rintro ⟨hRead, hAlone⟩
    rcases read?_eq_some_iff_or.mp hRead with hBare | hWrapped
    · have hElse : ∃ other, other ≠ kind := by
        cases kind with
        | user => exact ⟨.role, by decide⟩
        | channel => exact ⟨.user, by decide⟩
        | role => exact ⟨.user, by decide⟩
      rcases hElse with ⟨other, hOther⟩
      have hAlso : other.read? s = some n :=
        read?_eq_some_iff_or.mpr (Or.inl hBare)
      cases hAlso.symm.trans (hAlone other hOther)
    · exact hWrapped

/-
  The grammar of mentions. For every text and every kind, an
  id is read if and only if the text, but for blanks around
  it, is a numeral of 15 to 21 decimal digits, bare or between
  the marks of the kind, and the id is its decimal value. Any
  other text is no mention. So the wrapped numerals of a kind
  are the texts that are a mention of this kind alone.
-/
theorem reads_iff_written
    (kind : Mention)
    (s : String) :
    (∀ n, kind.read? s = some n ↔
      IsBare s n ∨ IsWrapped kind s n) ∧
    (kind.read? s = none ↔
      ∀ n, ¬ (IsBare s n ∨ IsWrapped kind s n)) ∧
    ∀ n, IsWrapped kind s n ↔
      kind.read? s = some n ∧
        ∀ other, other ≠ kind → other.read? s = none := by
  refine ⟨fun n => read?_eq_some_iff_or, ?_, fun n => isWrapped_iff⟩
  rw [Option.eq_none_iff_forall_ne_some]
  exact forall_congr' fun n => not_congr read?_eq_some_iff_or

example :
    Mention.user.read? " <@!80351110224678912>\n" =
      some 80351110224678912 := by
  decide

example : Mention.role.read? "<@!80351110224678912>" = none := by
  decide

end GuildWarden.Mention
