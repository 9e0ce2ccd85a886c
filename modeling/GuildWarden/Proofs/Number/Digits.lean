import GuildWarden.Chat.Mention
import GuildWarden.Proofs.Text.Trimming

/-
  This file shows how a word of digits is read as a number. A
  word may look like a number and still be none: a character
  can stand for a digit without being a decimal digit, and too
  many digits are refused. A number is read back from its own
  digits, as long as they are not too many.

  Key definitions include:
    * `Text.blankCodes`
    * `Number.IsUnreadable`
    * `Number.digitOf`

  Main statements:
    * `Text.isDigit_of_isBlank`
    * `Number.readInteger?_of_isDigit`
    * `Number.readInteger?_eq_none_iff`
    * `Number.readInteger?_of_digits`
    * `Number.readInteger?_decimal`
-/

namespace GuildWarden

namespace Text

variable {c : Char}

------------------------------------------------------------
-- Digits and Blanks
------------------------------------------------------------

/- The codes of the blanks. -/
def blankCodes : List Nat :=
  [
    0x9, 0xA, 0xB, 0xC, 0xD, 0x1C, 0x1D, 0x1E, 0x1F, 0x20, 0x85, 0xA0,
    0x1680, 0x2000, 0x2001, 0x2002, 0x2003, 0x2004, 0x2005, 0x2006,
    0x2007, 0x2008, 0x2009, 0x200A, 0x2028, 0x2029, 0x202F, 0x205F,
    0x3000
  ]

theorem mem_blankCodes_of_isBlank
    (hBlank : isBlank c = true) :
    c.toNat ∈ blankCodes := by
  simp only [isBlank, Bool.or_eq_true, Bool.and_eq_true,
    decide_eq_true_eq, beq_iff_eq] at hBlank
  simp only [blankCodes, List.mem_cons, List.not_mem_nil, or_false]
  omega

theorem isDecimal_eq_any
    (c : Char) :
    isDecimal c =
      digitZeros.any fun z => z ≤ c.toNat && c.toNat < z + 10 := by
  simp only [isDecimal, digitValue?, Option.isSome_map]
  exact List.isSome_find?

/- No blank stands for a digit. -/
theorem isDigit_of_isBlank
    (hBlank : isBlank c = true) :
    isDigit c = false := by
  have hCodes :
      ∀ n ∈ blankCodes,
        ((digitZeros.any fun z => z ≤ n && n < z + 10) ||
          inRanges digitLikeRanges n) = false := by
    decide
  rw [isDigit, isDecimal_eq_any]
  exact hCodes c.toNat (mem_blankCodes_of_isBlank hBlank)

theorem isDigit_of_isDecimal
    (hDecimal : isDecimal c = true) :
    isDigit c = true := by
  rw [isDigit, hDecimal, Bool.true_or]

theorem isBlank_of_isDigit
    (hDigit : isDigit c = true) :
    isBlank c = false := by
  cases hBlank : isBlank c with
  | true => cases hDigit.symm.trans (isDigit_of_isBlank hBlank)
  | false => rfl

------------------------------------------------------------
-- Values
------------------------------------------------------------

/- A run of characters has values if all are decimal digits. -/
theorem mapM_digitValue?_eq
    (cs : List Char) :
    cs.mapM digitValue? =
      if cs.all isDecimal then
        some (cs.map fun c => (digitValue? c).getD 0)
      else none := by
  induction cs with
  | nil => rfl
  | cons c cs hInduction =>
      rw [List.mapM_cons, hInduction, List.all_cons]
      cases hValue : digitValue? c with
      | none =>
          have hFirst : isDecimal c = false := by
            simp [isDecimal, hValue]
          rw [hFirst]
          rfl
      | some d =>
          have hFirst : isDecimal c = true := by
            simp [isDecimal, hValue]
          rw [hFirst, Bool.true_and]
          cases cs.all isDecimal with
          | true => simp [hValue]
          | false => rfl

/- The values of a run of digits, and as many of them. -/
theorem isDecimal_of_mapM
    {cs : List Char}
    {ds : List Nat}
    (hValues : cs.mapM digitValue? = some ds) :
    (∀ c ∈ cs, isDecimal c = true) ∧ ds.length = cs.length := by
  rw [mapM_digitValue?_eq] at hValues
  split at hValues
  · rename_i hDecimal
    cases hValues
    exact ⟨List.all_eq_true.mp hDecimal, List.length_map _⟩
  · cases hValues

end Text

namespace Number

open Text

variable {c : Char}
variable {cs : List Char}

------------------------------------------------------------
-- Words of Digits
------------------------------------------------------------

/- There is nothing to trim, and no sign, before a digit. -/
theorem trimNumber_of_isDigit
    (hDigits : ∀ c ∈ cs, isDigit c = true) :
    trimNumber cs = cs := by
  have hKept
      {ds : List Char}
      (hSame : ∀ d ∈ ds, d ∈ cs) :
      ds.dropWhile isNumberBlank = ds := by
    cases ds with
    | nil => rfl
    | cons d ds =>
        have hDigit := hDigits d (hSame d (by simp))
        rw [List.dropWhile_cons_of_neg]
        simp [isNumberBlank, isBlank_of_isDigit hDigit]
  rw [trimNumber, hKept fun _ hMember => hMember, dropEndWhile,
    hKept fun _ hMember => List.mem_reverse.mp hMember,
    List.reverse_reverse]

theorem splitSign_of_isDigit
    (hDigits : ∀ c ∈ cs, isDigit c = true) :
    splitSign cs = (false, cs) := by
  unfold splitSign
  split
  · cases hDigits '-' (by simp)
  · cases hDigits '+' (by simp)
  · rfl

/- Digits without anything else are read one by one. -/
theorem readDigits?_eq_mapM
    (hDigits : ∀ c ∈ cs, isDigit c = true)
    (hFilled : cs ≠ []) :
    readDigits? cs = cs.mapM digitValue? := by
  induction cs using readDigits?.induct with
  | case1 => exact (hFilled rfl).elim
  | case2 c =>
      cases hValue : digitValue? c <;>
        simp [readDigits?, hValue]
  | case3 c cs => cases hDigits '_' (by simp)
  | case4 c cs hRest hOther hInduction =>
      have hOthers := hInduction
        (fun d hMember => hDigits d (List.mem_cons_of_mem c hMember))
        hRest
      rw [readDigits?, hOthers, List.mapM_cons]
      · exact hRest
      · exact hOther

/- A word of digits is read as the number that its values give. -/
theorem readInteger?_of_isDigit
    (hDigits : ∀ c ∈ cs, isDigit c = true)
    (hFilled : cs ≠ []) :
    readInteger? cs =
      (cs.mapM digitValue?).bind fun ds =>
        if ds.length ≤ digitLimit then some (digitsValue ds : Int)
        else none := by
  rw [readInteger?, trimNumber_of_isDigit hDigits,
    splitSign_of_isDigit hDigits]
  simp only [readDigits?_eq_mapM hDigits hFilled]
  cases cs.mapM digitValue? <;> rfl

/- A word of digits that stands for no number. -/
def IsUnreadable
    (word : List Char) : Prop :=
  word ≠ [] ∧ (∀ c ∈ word, isDigit c = true) ∧
    ((∃ c ∈ word, isDecimal c = false) ∨ digitLimit < word.length)

instance
    (word : List Char) :
    Decidable (IsUnreadable word) :=
  decidable_of_iff
    (word ≠ [] ∧ word.all isDigit = true ∧
      (word.all isDecimal = false ∨ digitLimit < word.length))
    (by simp [IsUnreadable])

theorem readInteger?_eq_none_iff
    (hDigits : ∀ c ∈ cs, isDigit c = true)
    (hFilled : cs ≠ []) :
    readInteger? cs = none ↔ IsUnreadable cs := by
  rw [readInteger?_of_isDigit hDigits hFilled, mapM_digitValue?_eq,
    IsUnreadable, and_iff_right hFilled, and_iff_right hDigits]
  cases hDecimal : cs.all isDecimal with
  | true =>
      have hNone : ¬ ∃ c ∈ cs, isDecimal c = false := by
        rintro ⟨c, hMember, hOther⟩
        have hValue := List.all_eq_true.mp hDecimal c hMember
        cases hValue.symm.trans hOther
      rw [or_iff_right hNone]
      simp
  | false =>
      have hSome : ∃ c ∈ cs, isDecimal c = false := by
        simpa using hDecimal
      exact ⟨fun _ => Or.inl hSome, fun _ => rfl⟩

/- What a word of digits stands for is not negative. -/
theorem nonneg_of_readInteger?
    {n : Int}
    (hDigits : ∀ c ∈ cs, isDigit c = true)
    (hFilled : cs ≠ [])
    (hRead : readInteger? cs = some n) :
    0 ≤ n := by
  rw [readInteger?_of_isDigit hDigits hFilled] at hRead
  rcases Option.bind_eq_some_iff.mp hRead with ⟨ds, _, hValue⟩
  split at hValue
  · cases hValue
    exact Int.natCast_nonneg _
  · cases hValue

------------------------------------------------------------
-- Decimal Digits
------------------------------------------------------------

/- The value of a digit of ASCII. -/
def digitOf
    (c : Char) : Nat :=
  c.toNat - '0'.toNat

/- A digit of ASCII has a code between those of zero and nine. -/
theorem toNat_of_isDigit
    (hDigit : c.isDigit = true) :
    48 ≤ c.toNat ∧ c.toNat ≤ 57 := by
  rw [Char.isDigit, Bool.and_eq_true, decide_eq_true_eq,
    decide_eq_true_eq] at hDigit
  exact hDigit

theorem digitValue?_of_isDigit
    (hDigit : c.isDigit = true) :
    digitValue? c = some (digitOf c) := by
  have hRange := toNat_of_isDigit hDigit
  have hFirst : (0x30 ≤ c.toNat && c.toNat < 0x30 + 10) = true := by
    rw [Bool.and_eq_true, decide_eq_true_eq, decide_eq_true_eq]
    omega
  obtain ⟨zeros, hZeros⟩ : ∃ zeros, digitZeros = 0x30 :: zeros :=
    ⟨_, rfl⟩
  simp only [digitValue?, hZeros, List.find?_cons, hFirst,
    Option.map_some]
  rfl

/- A digit of ASCII is a decimal digit. -/
theorem isDecimal_of_isDigit
    (hDigit : c.isDigit = true) :
    isDecimal c = true := by
  rw [isDecimal, digitValue?_of_isDigit hDigit, Option.isSome_some]

theorem ne_of_isDigit
    {mark : Char}
    (hDigit : c.isDigit = true)
    (hMark : mark.isDigit = false) :
    c ≠ mark := by
  rintro rfl
  cases hDigit.symm.trans hMark

theorem isBlank_of_digits
    (hDigits : ∀ c ∈ cs, c.isDigit = true) :
    ∀ c ∈ cs, isBlank c = false :=
  fun c hMember =>
    isBlank_of_isDigit (isDigit_of_isDecimal
      (isDecimal_of_isDigit (hDigits c hMember)))

theorem mapM_digitValue?_of_digits
    (hDigits : ∀ c ∈ cs, c.isDigit = true) :
    cs.mapM digitValue? = some (cs.map digitOf) := by
  have hDecimal : cs.all isDecimal = true :=
    List.all_eq_true.mpr
      fun c hMember => isDecimal_of_isDigit (hDigits c hMember)
  rw [mapM_digitValue?_eq, if_pos hDecimal]
  refine congrArg some (List.map_congr_left ?_)
  intro c hMember
  rw [digitValue?_of_isDigit (hDigits c hMember), Option.getD_some]

theorem digitsValue_map
    (cs : List Char) :
    digitsValue (cs.map digitOf) = Nat.ofDigitChars 10 cs 0 := by
  rw [digitsValue, List.foldl_map, Nat.ofDigitChars_eq_foldl]
  rfl

------------------------------------------------------------
-- Numbers
------------------------------------------------------------

/- The digits of a number that is not negative. -/
theorem toList_decimal
    (n : Nat) :
    (decimal n).toList = Nat.toDigits 10 n := by
  have hText : decimal n = Nat.repr n := rfl
  rw [hText, Nat.repr_eq_ofList_toDigits, String.toList_ofList]

/- Digits that are not too many are read as their number. -/
theorem readInteger?_of_digits
    (hDigits : ∀ c ∈ cs, c.isDigit = true)
    (hFilled : cs ≠ [])
    (hShort : cs.length ≤ digitLimit) :
    readInteger? cs = some (Nat.ofDigitChars 10 cs 0 : Int) := by
  have hWord : ∀ c ∈ cs, isDigit c = true :=
    fun c hMember =>
      isDigit_of_isDecimal (isDecimal_of_isDigit (hDigits c hMember))
  rw [readInteger?_of_isDigit hWord hFilled,
    mapM_digitValue?_of_digits hDigits, Option.bind_some,
    List.length_map, if_pos hShort, digitsValue_map]

/- A number of not too many digits is read back from them. -/
theorem readInteger?_decimal
    (n : Nat)
    (hShort : (decimal n).length ≤ digitLimit) :
    readInteger? (decimal n).toList = some (n : Int) := by
  have hDigits :
      ∀ c ∈ Nat.toDigits 10 n, c.isDigit = true :=
    fun c hMember =>
      Nat.isDigit_of_mem_toDigits (by omega) (by omega) hMember
  have hLength :
      (Nat.toDigits 10 n).length ≤ digitLimit := by
    rw [← toList_decimal]
    exact hShort
  rw [toList_decimal,
    readInteger?_of_digits hDigits Nat.toDigits_ne_nil hLength,
    Nat.ofDigitChars_toDigits (by omega) (by omega)]

end Number

end GuildWarden
