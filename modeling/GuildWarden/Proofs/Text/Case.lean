import GuildWarden.Proofs.Number.Digits
import GuildWarden.Text.Case

/-
  This file says what the small letters of a text keep of it:
  its blanks, and how long it is. A character has one small
  letter, or two, and so a text that is cut is never the same
  in small letters.

  Key definitions include:
    * `Text.caseWidth`
    * `Text.lowerLength`

  Main statements:
    * `Text.isBlank_of_lower`
    * `Text.length_lowerFrom`
    * `Text.lower_ne_of_append`
-/

namespace GuildWarden.Text

variable {c : Char}
variable {cs before : List Char}

------------------------------------------------------------
-- Blanks
------------------------------------------------------------

/- No letter stands among the codes of the blanks. -/
theorem lowerChar_of_isBlank
    (after : List Char)
    (hBlank : isBlank c = true) :
    lowerChar before c after = [c] := by
  have hCode := mem_blankCodes_of_isBlank hBlank
  have hAscii : ∀ n ∈ blankCodes, n < 128 → n < 65 := by
    decide
  have hOther :
      ∀ n ∈ blankCodes,
        n ≠ 0x3A3 ∧ n ≠ 0x130 ∧
          lowerShifts.find? (fun row => row.covers n) = none := by
    decide
  rcases hOther _ hCode with ⟨hSigma, hDotted, hNone⟩
  unfold lowerChar
  by_cases hLow : c.toNat < 128
  · rw [if_pos hLow]
    have hLess := hAscii _ hCode hLow
    have hCapital : ¬ (c.val ≥ 'A'.val ∧ c.val ≤ 'Z'.val) := by
      rintro ⟨hLeast, _⟩
      have hSame : (65 : Nat) ≤ c.toNat := hLeast
      omega
    exact congrArg (fun d => [d]) (dif_neg hCapital)
  · rw [if_neg hLow, if_neg hSigma, if_neg hDotted, shiftCase, hNone]

/- A text without blanks in small letters has none at all. -/
theorem isBlank_of_lowerFrom
    (hFilled : ∀ d ∈ lowerFrom before cs, isBlank d = false) :
    ∀ d ∈ cs, isBlank d = false := by
  induction cs generalizing before with
  | nil => simp
  | cons c cs hInduction =>
      rw [lowerFrom] at hFilled
      intro d hMember
      rcases List.mem_cons.mp hMember with rfl | hLater
      · cases hBlank : isBlank d with
        | false => rfl
        | true =>
            rw [← hBlank]
            apply hFilled d
            rw [lowerChar_of_isBlank cs hBlank]
            simp
      · exact hInduction
          (fun e hLeft => hFilled e (List.mem_append_right _ hLeft))
          d hLater

theorem isBlank_of_lower
    {s : String}
    (hFilled : ∀ d ∈ (lower s).toList, isBlank d = false) :
    ∀ d ∈ s.toList, isBlank d = false := by
  rw [lower, String.toList_ofList] at hFilled
  exact isBlank_of_lowerFrom hFilled

------------------------------------------------------------
-- Lengths
------------------------------------------------------------

/- The number of small letters of a character. -/
def caseWidth
    (c : Char) : Nat :=
  if c.toNat = 0x130 then 2 else 1

theorem length_lowerChar
    (before after : List Char)
    (c : Char) :
    (lowerChar before c after).length = caseWidth c := by
  unfold lowerChar caseWidth
  split
  · rename_i hAscii
    have hOther : c.toNat ≠ 0x130 := by omega
    rw [if_neg hOther]
    rfl
  · split
    · rename_i hSigma
      have hOther : c.toNat ≠ 0x130 := by omega
      rw [if_neg hOther]
      rfl
    · split <;> rfl

/- The number of small letters of a text. -/
def lowerLength : List Char → Nat
  | [] => 0
  | c :: cs => caseWidth c + lowerLength cs

theorem length_lowerFrom
    (before cs : List Char) :
    (lowerFrom before cs).length = lowerLength cs := by
  induction cs generalizing before with
  | nil => rfl
  | cons c cs hInduction =>
      rw [lowerFrom, List.length_append, length_lowerChar,
        hInduction, lowerLength]

theorem lowerLength_append
    (cs ds : List Char) :
    lowerLength (cs ++ ds) = lowerLength cs + lowerLength ds := by
  induction cs with
  | nil => exact (Nat.zero_add _).symm
  | cons c cs hInduction =>
      rw [List.cons_append, lowerLength, hInduction, lowerLength,
        Nat.add_assoc]

theorem lowerLength_pos
    (hSome : cs ≠ []) :
    0 < lowerLength cs := by
  cases cs with
  | nil => exact (hSome rfl).elim
  | cons c cs =>
      unfold lowerLength caseWidth
      split <;> omega

/- A text without its beginning is shorter in small letters too. -/
theorem lower_ne_of_append
    {s t : String}
    (hText : s.toList = cs ++ t.toList)
    (hSome : cs ≠ []) :
    lower s ≠ lower t := by
  intro hSame
  have hLengths := congrArg String.length hSame
  have hMore := lowerLength_pos hSome
  rw [lower, lower, String.length_ofList, String.length_ofList,
    length_lowerFrom, length_lowerFrom, hText, lowerLength_append]
    at hLengths
  omega

end GuildWarden.Text
