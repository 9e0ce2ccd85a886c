import GuildWarden.Number.Binary64

/-
  This file says which whole numbers have a floating-point
  number: those that do not round to more than the greatest
  one.

  Key definitions include:
    * `Number.Binary64.overflow`

  Main statements:
    * `Number.Binary64.exponentOf_whole`
    * `Number.Binary64.ofRatio_whole`
    * `Number.Binary64.ofInteger?_natCast`
    * `Number.Binary64.ofInteger?_eq_none_iff`
-/

namespace GuildWarden.Number

/- A quotient is rounded to one of its two neighbours. -/
theorem roundHalfEven_cases
    (num den : Nat) :
    roundHalfEven num den = num / den ∨
      roundHalfEven num den = num / den + 1 := by
  unfold roundHalfEven
  simp only
  split
  · exact Or.inl rfl
  · split
    · exact Or.inr rfl
    · split
      · exact Or.inl rfl
      · exact Or.inr rfl

/- A half above an odd number is rounded up. -/
theorem roundHalfEven_of_odd
    {num den : Nat}
    (hOdd : num / den % 2 = 1) :
    roundHalfEven num den =
      if 2 * (num % den) < den then num / den
      else num / den + 1 := by
  unfold roundHalfEven
  simp only [hOdd]
  split
  · rfl
  · split
    · rfl
    · rfl

namespace Binary64

/-
  The last tie among the numbers of `bits + 54` bits: from here
  on, rounding to 53 bits gives a longer number.
-/
def topTie
    (bits : Nat) : Nat :=
  (Nat.pow 2 54 - 1) * Nat.pow 2 bits

/-
  The magnitude half way between the greatest number and what
  would be the next one.
-/
def overflow : Nat :=
  topTie 970

variable {n : Nat}

/- A number of less than 54 bits is below every last tie. -/
theorem lt_topTie
    (bits : Nat)
    (hSmall : n < Nat.pow 2 54 - 1) :
    n < topTie bits :=
  Nat.lt_of_lt_of_le hSmall
    (Nat.le_mul_of_pos_right _ (Nat.two_pow_pos bits))

------------------------------------------------------------
-- Scales
------------------------------------------------------------

/- The quotient of a scaled number, whichever way it is scaled. -/
theorem scale_quotient
    (n top bits : Nat) :
    (scale n 1 ((top : Int) - bits)).1 /
        (scale n 1 ((top : Int) - bits)).2 =
      n * Nat.pow 2 bits / Nat.pow 2 top := by
  simp only [Nat.pow_eq]
  by_cases hShort : (top : Int) - bits < 0
  · have hMore : ((top : Int) - bits).natAbs = bits - top := by
      omega
    have hBits : bits = bits - top + top := by omega
    have hPower : 0 < 2 ^ top := Nat.two_pow_pos top
    simp only [scale, if_pos hShort, hMore, Nat.div_one,
      Nat.pow_eq]
    conv =>
      rhs
      rw [hBits, Nat.pow_add, ← Nat.mul_assoc]
    rw [Nat.mul_div_cancel _ hPower]
  · have hLess : ((top : Int) - bits).natAbs = top - bits := by
      omega
    have hTop : top = top - bits + bits := by omega
    have hPower : 0 < 2 ^ bits := Nat.two_pow_pos bits
    simp only [scale, if_neg hShort, hLess, Nat.one_mul,
      Nat.pow_eq]
    conv =>
      rhs
      rw [hTop, Nat.pow_add]
    rw [Nat.mul_div_mul_right _ _ hPower]

/- Scaled to a number of bits, a whole number has that many. -/
theorem scale_bounds
    (hNonzero : n ≠ 0)
    (bits : Nat) :
    Nat.pow 2 bits ≤ n * Nat.pow 2 bits / Nat.pow 2 n.log2 ∧
      n * Nat.pow 2 bits / Nat.pow 2 n.log2 <
        Nat.pow 2 (bits + 1) := by
  have hLow : 2 ^ n.log2 ≤ n := Nat.log2_self_le hNonzero
  have hHigh : n < 2 ^ (n.log2 + 1) := Nat.lt_log2_self
  have hTop : 0 < 2 ^ n.log2 := Nat.two_pow_pos _
  have hBits : 0 < 2 ^ bits := Nat.two_pow_pos _
  simp only [Nat.pow_eq]
  rw [Nat.le_div_iff_mul_le hTop, Nat.div_lt_iff_lt_mul hTop]
  constructor
  · rw [Nat.mul_comm]
    exact Nat.mul_le_mul_right _ hLow
  · calc
      n * 2 ^ bits < 2 ^ (n.log2 + 1) * 2 ^ bits :=
        Nat.mul_lt_mul_of_pos_right hHigh hBits
      _ = 2 ^ (bits + 1) * 2 ^ n.log2 := by
        rw [Nat.pow_succ, Nat.pow_succ]
        simp only [Nat.mul_comm, Nat.mul_assoc, Nat.mul_left_comm]

/- A whole number is scaled by its number of bits. -/
theorem exponentOf_whole
    (hNonzero : n ≠ 0) :
    exponentOf n 1 = (n.log2 : Int) - 52 := by
  have hOne : Nat.log2 1 = 0 := rfl
  have hGuess :
      (n.log2 : Int) - (Nat.log2 1 : Nat) - 53 =
        (n.log2 : Int) - (53 : Nat) := by
    rw [hOne]
    omega
  have hFull := (scale_bounds hNonzero 53).1
  rw [← scale_quotient] at hFull
  simp only [exponentOf, hGuess]
  rw [if_neg (Nat.not_lt.mpr hFull)]
  simp only [leastExponent]
  omega

------------------------------------------------------------
-- Whole numbers
------------------------------------------------------------

/-
  Below `2 ^ 54` halves, only what is at least half way above
  the last multiple of two halves is rounded up to the end.
-/
theorem roundHalfEven_eq_end_iff
    {half : Nat}
    (hHalf : 0 < half)
    (hBelow : n < Nat.pow 2 54 * half) :
    roundHalfEven n (2 * half) = Nat.pow 2 53 ↔
      (Nat.pow 2 54 - 1) * half ≤ n := by
  simp only [Nat.pow_eq] at hBelow ⊢
  have hUnit : 0 < 2 * half := by omega
  have hQuotient : n / (2 * half) < 2 ^ 53 := by
    rw [Nat.div_lt_iff_lt_mul hUnit]
    omega
  rcases Nat.lt_or_ge (n / (2 * half)) (2 ^ 53 - 1) with hLow | hLast
  · -- Neither neighbour of a lesser quotient is as great.
    have hLess := (Nat.div_lt_iff_lt_mul hUnit).mp hLow
    have hCases := roundHalfEven_cases n (2 * half)
    omega
  · -- The greatest quotient is odd: a half goes up.
    have hIs : n / (2 * half) = 2 ^ 53 - 1 := by omega
    have hSplit := Nat.div_add_mod n (2 * half)
    have hRest := Nat.mod_lt n hUnit
    have hOdd : n / (2 * half) % 2 = 1 := by omega
    rw [hIs] at hSplit
    rw [roundHalfEven_of_odd hOdd, hIs]
    split
    · omega
    · omega

/- All longer numbers are above the last tie, no shorter one is. -/
theorem topTie_of_log2
    (bits : Nat)
    (hNonzero : n ≠ 0) :
    (bits + 54 ≤ n.log2 → topTie bits ≤ n) ∧
      (n.log2 < bits + 53 → n < topTie bits) := by
  have hLow : 2 ^ n.log2 ≤ n := Nat.log2_self_le hNonzero
  have hHigh : n < 2 ^ (n.log2 + 1) := Nat.lt_log2_self
  have hHalf : 0 < 2 ^ bits := Nat.two_pow_pos bits
  simp only [topTie, Nat.pow_eq]
  constructor
  · intro hMore
    have hPower : 2 ^ (bits + 54) ≤ 2 ^ n.log2 :=
      Nat.pow_le_pow_right (by decide) hMore
    rw [Nat.pow_add] at hPower
    omega
  · intro hLess
    have hPower : 2 ^ (n.log2 + 1) ≤ 2 ^ (bits + 53) :=
      Nat.pow_le_pow_right (by decide) (by omega)
    rw [Nat.pow_add 2 bits] at hPower
    omega

/- Of the same length, what reaches it is rounded up to the end. -/
theorem roundHalfEven_scale_iff
    (bits : Nat)
    (hLog : n.log2 = bits + 53) :
    roundHalfEven (scale n 1 ((n.log2 : Int) - 52)).1
        (scale n 1 ((n.log2 : Int) - 52)).2 = Nat.pow 2 53 ↔
      topTie bits ≤ n := by
  have hScale :
      scale n 1 ((n.log2 : Int) - 52) = (n, 2 * 2 ^ bits) := by
    have hWhole : ((n.log2 : Int) - 52).natAbs = bits + 1 := by
      omega
    simp only [scale, if_neg (show ¬(n.log2 : Int) - 52 < 0 by omega),
      hWhole, Nat.one_mul, Nat.pow_eq]
    rw [Nat.pow_succ, Nat.mul_comm]
  have hHigh : n < 2 ^ (n.log2 + 1) := Nat.lt_log2_self
  have hBelow : n < Nat.pow 2 54 * 2 ^ bits := by
    rw [hLog, Nat.add_assoc, Nat.pow_add, Nat.mul_comm] at hHigh
    exact hHigh
  rw [hScale]
  exact roundHalfEven_eq_end_iff (Nat.two_pow_pos bits) hBelow

/- A whole number is out of range from the last tie of all on. -/
theorem ofRatio_whole
    (negative : Bool)
    (hNonzero : n ≠ 0) :
    (overflow ≤ n → ofRatio negative n 1 = .infinite negative) ∧
      (n < overflow →
        ∃ m e, ofRatio negative n 1 = .finite negative m e) := by
  have hBeyond := topTie_of_log2 970 hNonzero
  have hTop := roundHalfEven_scale_iff (n := n) 970
  simp only [ofRatio, if_neg hNonzero, exponentOf_whole hNonzero,
    greatestExponent, overflow]
  generalize roundHalfEven _ _ = m at hTop ⊢
  generalize topTie 970 = top at hBeyond hTop ⊢
  by_cases hFull : m = Nat.pow 2 53
  · simp only [if_pos hFull]
    exact ⟨fun _ => if_pos (by omega),
      fun _ => ⟨_, _, if_neg (by omega)⟩⟩
  · simp only [if_neg hFull]
    exact ⟨fun _ => if_pos (by omega),
      fun _ => ⟨_, _, if_neg (by omega)⟩⟩

/- A natural number in range is rounded as a ratio. -/
theorem ofInteger?_natCast
    (hSmall : n < overflow) :
    ofInteger? n = some (ofRatio false n 1) := by
  have hFinite : ∃ m e, ofRatio false n 1 = .finite false m e := by
    by_cases hZero : n = 0
    · exact ⟨0, leastExponent, if_pos hZero⟩
    · exact (ofRatio_whole false hZero).2 hSmall
  have hSign : decide ((n : Int) < 0) = false := by
    rw [decide_eq_false_iff_not]
    omega
  rcases hFinite with ⟨m, e, hFinite⟩
  rw [ofInteger?, hSign, Int.natAbs_natCast, hFinite]

/- Only whole numbers that round to too much have no number. -/
theorem ofInteger?_eq_none_iff
    (n : Int) :
    ofInteger? n = none ↔ overflow ≤ n.natAbs := by
  unfold ofInteger?
  by_cases hZero : n.natAbs = 0
  · have hPositive : 0 < overflow := lt_topTie 970 (by decide)
    simp only [hZero, ofRatio, if_pos, zero]
    constructor
    · nofun
    · omega
  · have hRounded := ofRatio_whole (n < 0) hZero
    rcases Nat.lt_or_ge n.natAbs overflow with hSmall | hGreat
    · obtain ⟨m, e, hFinite⟩ := hRounded.2 hSmall
      rw [hFinite]
      constructor
      · nofun
      · omega
    · rw [hRounded.1 hGreat]
      exact ⟨fun _ => hGreat, fun _ => rfl⟩

end Binary64

end GuildWarden.Number
