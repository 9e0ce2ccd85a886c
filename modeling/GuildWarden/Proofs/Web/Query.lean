import GuildWarden.Text.Utf8
import GuildWarden.Web.Url

/-
  This file shows that a part of a query is read as the text
  that it was written for. The octets of a text are read as the
  text again, strictly and leniently: each character takes as
  many octets as it is written with, and none is malformed.
  What is written of them in a query holds plain characters
  only: none that ends a query or a part of it, no blank, and
  none beyond ASCII.

  Key definitions include:
    * `Utf8.encode`
    * `Url.IsPlain`
    * `Url.writtenChar`

  Main statements:
    * `Utf8.decodePiece_encodeChar`
    * `Utf8.piecesFrom_encode`
    * `Utf8.decodeStrict?_encode`
    * `Utf8.decodeLossy_encode`
    * `Url.isPlain_of_mem_queryPart`
    * `Url.queryOctets_queryPart`
    * `Url.readQueryPart_queryPart`
-/

namespace GuildWarden

namespace Utf8

variable {a : Nat}

/- The octets of a text. -/
def encode
    (cs : List Char) : List Nat :=
  cs.flatMap encodeChar

------------------------------------------------------------
-- Characters
------------------------------------------------------------

/- An octet of seven bits is a character. -/
theorem decodePiece_one
    (rest : List Nat)
    (hLead : a < 0x80) :
    decodePiece a rest = scalar a 1 := by
  simp [decodePiece, hLead]

/- Two octets are read as the bits that they hold. -/
theorem decodePiece_two
    {b : Nat}
    (rest : List Nat)
    (hLead : 0xC2 ≤ a ∧ a ≤ 0xDF)
    (hTail : isTail b = true) :
    decodePiece a (b :: rest) =
      scalar ((a - 0xC0) * 64 + (b - 0x80)) 2 := by
  rw [decodePiece, if_neg (by omega)]
  simp [hLead, hTail]

/-
  So are three, if the second one leaves out overlong forms
  and surrogates.
-/
theorem decodePiece_three
    {b d : Nat}
    (rest : List Nat)
    (hLead : 0xE0 ≤ a ∧ a ≤ 0xEF)
    (hSecond : 0x80 ≤ b ∧ b ≤ 0xBF)
    (hLong : a = 0xE0 → 0xA0 ≤ b)
    (hScalar : a = 0xED → b ≤ 0x9F)
    (hTail : isTail d = true) :
    decodePiece a (b :: d :: rest) =
      scalar (((a - 0xE0) * 64 + (b - 0x80)) * 64 + (d - 0x80)) 3 := by
  have hRange :
      ((if a = 0xE0 then 0xA0 else 0x80) ≤ b &&
        b ≤ if a = 0xED then 0x9F else 0xBF) = true := by
    rw [Bool.and_eq_true, decide_eq_true_eq, decide_eq_true_eq]
    split <;> split <;> omega
  rw [decodePiece, if_neg (by omega), if_neg (by simp; omega),
    if_pos (by simp [hLead])]
  simp [hRange, threeOrMore, hTail]

/- And four, if it also leaves out what is no character. -/
theorem decodePiece_four
    {b d e : Nat}
    (rest : List Nat)
    (hLead : 0xF0 ≤ a ∧ a ≤ 0xF4)
    (hSecond : 0x80 ≤ b ∧ b ≤ 0xBF)
    (hLong : a = 0xF0 → 0x90 ≤ b)
    (hScalar : a = 0xF4 → b ≤ 0x8F)
    (hThird : isTail d = true)
    (hTail : isTail e = true) :
    decodePiece a (b :: d :: e :: rest) =
      scalar
        ((((a - 0xF0) * 64 + (b - 0x80)) * 64 + (d - 0x80)) * 64 +
          (e - 0x80))
        4 := by
  have hRange :
      ((if a = 0xF0 then 0x90 else 0x80) ≤ b &&
        b ≤ if a = 0xF4 then 0x8F else 0xBF) = true := by
    rw [Bool.and_eq_true, decide_eq_true_eq, decide_eq_true_eq]
    split <;> split <;> omega
  rw [decodePiece, if_neg (by omega), if_neg (by simp; omega),
    if_neg (by simp; omega), if_pos (by simp [hLead])]
  simp [hRange, threeOrMore, hThird, hTail]

/- An octet of six bits continues a character. -/
theorem isTail_add
    (n : Nat) :
    isTail (0x80 + n % 64) = true := by
  rw [isTail, Bool.and_eq_true, decide_eq_true_eq,
    decide_eq_true_eq]
  omega

/- A character is a scalar value: no surrogate, and not too large. -/
theorem isValidChar_toNat
    (c : Char) :
    c.toNat < 0xD800 ∨ 0xDFFF < c.toNat ∧ c.toNat < 0x110000 :=
  c.valid

/- What a character is written with is read as that character. -/
theorem decodePiece_encodeChar
    (c : Char) :
    ∃ lead tail, encodeChar c = lead :: tail ∧
      ∀ rest, decodePiece lead (tail ++ rest) =
        .char c (tail.length + 1) := by
  have hSame (n size : Nat) (hValue : n = c.toNat) :
      scalar n size = .char c size := by
    rw [scalar, hValue, Char.ofNat_toNat]
  have hValid := isValidChar_toNat c
  unfold encodeChar
  simp only
  split
  · rename_i hOne
    refine ⟨_, [], rfl, fun rest => ?_⟩
    exact (decodePiece_one rest hOne).trans (hSame _ 1 rfl)
  split
  · rename_i hOne hTwo
    refine ⟨_, [_], rfl, fun rest => ?_⟩
    refine (decodePiece_two rest (by omega)
      (isTail_add _)).trans (hSame _ 2 ?_)
    omega
  split
  · rename_i hOne hTwo hThree
    refine ⟨_, [_, _], rfl, fun rest => ?_⟩
    refine (decodePiece_three rest (by omega) (by omega)
      (by omega) (by omega) (isTail_add _)).trans (hSame _ 3 ?_)
    omega
  · rename_i hOne hTwo hThree
    refine ⟨_, [_, _, _], rfl, fun rest => ?_⟩
    refine (decodePiece_four rest (by omega) (by omega)
      (by omega) (by omega) (isTail_add _)
      (isTail_add _)).trans (hSame _ 4 ?_)
    omega

------------------------------------------------------------
-- Texts
------------------------------------------------------------

/- The rest of a piece is passed over. -/
theorem piecesFrom_length
    (tail rest : List Nat) :
    piecesFrom tail.length (tail ++ rest) = piecesFrom 0 rest := by
  induction tail with
  | nil => rfl
  | cons b tail hInduction => exact hInduction

/- The pieces of a text are its characters. -/
theorem piecesFrom_encode
    (cs : List Char) :
    piecesFrom 0 (encode cs) =
      cs.map fun c => .char c (encodeChar c).length := by
  induction cs with
  | nil => rfl
  | cons c cs hInduction =>
      rcases decodePiece_encodeChar c with
        ⟨lead, tail, hOctets, hRead⟩
      have hText : encode (c :: cs) = lead :: (tail ++ encode cs) := by
        rw [encode, List.flatMap_cons, hOctets]
        rfl
      rw [hText, piecesFrom, hRead, List.map_cons, hOctets,
        ← hInduction]
      exact congrArg _ (piecesFrom_length tail (encode cs))

theorem decodeStrict?_encode
    (cs : List Char) :
    decodeStrict? (encode cs) = some cs := by
  rw [decodeStrict?, piecesFrom_encode]
  induction cs with
  | nil => rfl
  | cons c cs hInduction =>
      rw [List.map_cons, List.mapM_cons, hInduction]
      rfl

theorem decodeLossy_encode
    (cs : List Char) :
    decodeLossy (encode cs) = cs := by
  rw [decodeLossy, piecesFrom_encode, List.map_map]
  exact List.map_id cs

end Utf8

namespace Url

open Text

variable {c : Char}

------------------------------------------------------------
-- Percent Signs
------------------------------------------------------------

/- A hexadecimal digit has its value, in capitals, too. -/
theorem hexDigitValue?_hexDigit
    {n : Nat}
    (hDigit : n < 16) :
    hexDigitValue? (hexDigit n).toUpper = some n := by
  have hEach :
      ∀ n < 16, hexDigitValue? (hexDigit n).toUpper = some n := by
    decide
  exact hEach n hDigit

/- An octet is written by its two digits. -/
theorem percentOctet_eq
    (n : Nat) :
    percentOctet n =
      ['%', (hexDigit (n / 16 % 16)).toUpper,
        (hexDigit (n % 16)).toUpper] :=
  rfl

theorem hexOctet?_of_digits
    {n : Nat}
    (hOctet : n < 256) :
    hexOctet? (hexDigit (n / 16 % 16)).toUpper
      (hexDigit (n % 16)).toUpper = some n := by
  have hHigh : n / 16 % 16 < 16 := Nat.mod_lt _ (by decide)
  have hLow : n % 16 < 16 := Nat.mod_lt _ (by decide)
  rw [hexOctet?, hexDigitValue?_hexDigit hHigh,
    hexDigitValue?_hexDigit hLow]
  change some (n / 16 % 16 * 16 + n % 16) = some n
  congr 1
  omega

theorem queryOctets_percentOctet
    {n : Nat}
    (rest : List Char)
    (hOctet : n < 256) :
    queryOctets (percentOctet n ++ rest) =
      n :: queryOctets rest := by
  rw [percentOctet_eq]
  change queryOctets ('%' :: _ :: _ :: rest) = _
  rw [queryOctets, hexOctet?_of_digits hOctet]

/- The octets of a character have eight bits. -/
theorem lt_of_mem_encodeChar
    {n : Nat}
    (hMember : n ∈ Utf8.encodeChar c) :
    n < 256 := by
  have hValid := Utf8.isValidChar_toNat c
  unfold Utf8.encodeChar at hMember
  simp only at hMember
  split at hMember
  · simp only [List.mem_singleton] at hMember
    omega
  split at hMember
  · simp only [List.mem_cons, List.not_mem_nil, or_false] at hMember
    omega
  split at hMember
  · simp only [List.mem_cons, List.not_mem_nil, or_false] at hMember
    omega
  · simp only [List.mem_cons, List.not_mem_nil, or_false] at hMember
    omega

/- A character after percent signs is read octet by octet. -/
theorem queryOctets_flatMap_percentOctet
    {octets : List Nat}
    (rest : List Char)
    (hOctets : ∀ n ∈ octets, n < 256) :
    queryOctets (octets.flatMap percentOctet ++ rest) =
      octets ++ queryOctets rest := by
  induction octets with
  | nil => rfl
  | cons n octets hInduction =>
      rw [List.flatMap_cons, List.append_assoc,
        queryOctets_percentOctet _ (hOctets n List.mem_cons_self),
        hInduction fun m hMember =>
          hOctets m (List.mem_cons_of_mem n hMember)]
      rfl

------------------------------------------------------------
-- Plain Characters
------------------------------------------------------------

/-
  A character that may stand in a query as it is: one of ASCII
  and no blank, which ends neither the query nor a part of it.
-/
structure IsPlain
    (c : Char) : Prop where
  small : c.toNat < 128
  filled : isBlank c = false
  notFragment : c ≠ '#'
  notSeparator : c ≠ '&'

/- A letter or a digit is one of ASCII. -/
theorem toNat_lt_of_isAlphanum
    (hLetter : c.isAlphanum = true) :
    c.toNat < 128 := by
  have hBounds :
      (65 ≤ c.toNat ∧ c.toNat ≤ 90 ∨ 97 ≤ c.toNat ∧ c.toNat ≤ 122) ∨
        48 ≤ c.toNat ∧ c.toNat ≤ 57 := by
    change
      ((decide (c.val ≥ 'A'.val ∧ c.val ≤ 'Z'.val) ||
        (decide (c.val ≥ 'a'.val) && decide (c.val ≤ 'z'.val))) ||
          (decide (c.val ≥ '0'.val) && decide (c.val ≤ '9'.val))) =
        true at hLetter
    simpa [UInt32.le_iff_toNat_le] using hLetter
  omega

theorem toNat_lt_of_inQueryPart
    (hPart : inQueryPart c = true) :
    c.toNat < 128 := by
  have hEach :
      ("!$'()*,?/:@_.-~".toList.all fun d => d.toNat < 128) =
        true := by
    decide
  have hMarks (d : Char) (hMark : d ∈ "!$'()*,?/:@_.-~".toList) :
      d.toNat < 128 :=
    of_decide_eq_true (List.all_eq_true.mp hEach d hMark)
  by_cases hLetter : c.isAlphanum = true
  · exact toNat_lt_of_isAlphanum hLetter
  · apply hMarks c
    simp [inQueryPart, isUnreserved, isMark, hLetter] at hPart ⊢
    grind

/- What stands for itself is plain, and is no sign of an encoding. -/
theorem isPlain_of_inQueryPart
    (hPart : inQueryPart c = true) :
    IsPlain c ∧ c ≠ '%' ∧ c ≠ '+' := by
  have hEach :
      ∀ n < 128, inQueryPart (Char.ofNat n) = true →
        isBlank (Char.ofNat n) = false ∧
          Char.ofNat n ≠ '#' ∧ Char.ofNat n ≠ '&' ∧
            Char.ofNat n ≠ '%' ∧ Char.ofNat n ≠ '+' := by
    decide
  have hSmall := toNat_lt_of_inQueryPart hPart
  have hCode := hEach c.toNat hSmall
  rw [Char.ofNat_toNat] at hCode
  rcases hCode hPart with
    ⟨hFilled, hFragment, hSeparator, hPercent, hPlus⟩
  exact ⟨⟨hSmall, hFilled, hFragment, hSeparator⟩, hPercent, hPlus⟩

theorem isPlain_plus :
    IsPlain '+' :=
  ⟨by decide, rfl, by decide, by decide⟩

theorem isPlain_percent :
    IsPlain '%' :=
  ⟨by decide, rfl, by decide, by decide⟩

/- So are the signs that an octet is written with. -/
theorem isPlain_of_mem_percentOctet
    {n : Nat}
    (hMember : c ∈ percentOctet n) :
    IsPlain c := by
  have hEach : ∀ n < 16, inQueryPart (hexDigit n).toUpper = true := by
    decide
  have hDigit (n : Nat) : IsPlain (hexDigit (n % 16)).toUpper :=
    (isPlain_of_inQueryPart
      (hEach _ (Nat.mod_lt n (by decide)))).1
  rw [percentOctet_eq] at hMember
  simp only [List.mem_cons, List.not_mem_nil, or_false] at hMember
  rcases hMember with rfl | rfl | rfl
  · exact isPlain_percent
  · exact hDigit _
  · exact hDigit _

------------------------------------------------------------
-- Parts of a Query
------------------------------------------------------------

/- How a character is written in a part of a query. -/
def writtenChar
    (c : Char) : List Char :=
  if c = ' ' then ['+']
  else if inQueryPart c then [c]
  else percentChar c

theorem queryPart_eq
    (s : String) :
    queryPart s = s.toList.flatMap writtenChar := by
  have hEach :
      (fun c =>
        if c = ' ' then ['+'] else percentEncode inQueryPart [c]) =
      writtenChar := by
    funext c
    simp [writtenChar, percentEncode]
  rw [queryPart, hEach]

theorem isPlain_of_mem_writtenChar
    {d : Char}
    (hMember : d ∈ writtenChar c) :
    IsPlain d := by
  unfold writtenChar at hMember
  split at hMember
  · rw [List.mem_singleton.mp hMember]
    exact isPlain_plus
  split at hMember
  · rename_i hPart
    rw [List.mem_singleton.mp hMember]
    exact (isPlain_of_inQueryPart hPart).1
  · rcases List.mem_flatMap.mp hMember with ⟨n, _, hSign⟩
    exact isPlain_of_mem_percentOctet hSign

/- A part of a query is written with plain characters only. -/
theorem isPlain_of_mem_queryPart
    {s : String}
    (hMember : c ∈ queryPart s) :
    IsPlain c := by
  rw [queryPart_eq] at hMember
  rcases List.mem_flatMap.mp hMember with ⟨_, _, hWritten⟩
  exact isPlain_of_mem_writtenChar hWritten

/- A character that stands for itself is read as its own octet. -/
theorem queryOctets_of_inQueryPart
    (rest : List Char)
    (hPart : inQueryPart c = true) :
    queryOctets (c :: rest) =
      Utf8.encodeChar c ++ queryOctets rest := by
  rcases isPlain_of_inQueryPart hPart with ⟨_, hPercent, hPlus⟩
  rw [queryOctets, if_neg hPlus]
  exact fun _ _ _ hSign _ => hPercent hSign

theorem queryOctets_writtenChar
    (c : Char)
    (rest : List Char) :
    queryOctets (writtenChar c ++ rest) =
      Utf8.encodeChar c ++ queryOctets rest := by
  unfold writtenChar
  split
  · rename_i hSpace
    rw [hSpace]
    rfl
  split
  · rename_i hPart
    exact queryOctets_of_inQueryPart rest hPart
  · exact queryOctets_flatMap_percentOctet rest
      fun n hMember => lt_of_mem_encodeChar hMember

/- A part of a query is read as the octets of its text. -/
theorem queryOctets_queryPart
    (s : String) :
    queryOctets (queryPart s) = Utf8.encode s.toList := by
  rw [queryPart_eq, Utf8.encode]
  induction s.toList with
  | nil => rfl
  | cons c cs hInduction =>
      rw [List.flatMap_cons, queryOctets_writtenChar, hInduction,
        List.flatMap_cons]

theorem readQueryPart_queryPart
    (s : String) :
    readQueryPart (queryPart s) = s := by
  rw [readQueryPart, queryOctets_queryPart,
    Utf8.decodeLossy_encode, String.ofList_toList]

end Url

end GuildWarden
