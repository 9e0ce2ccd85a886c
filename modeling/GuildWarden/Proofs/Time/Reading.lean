import GuildWarden.Proofs.Number.Digits
import GuildWarden.Time.Reader
import Mathlib.Algebra.Group.Nat.Defs
import Mathlib.Data.List.Basic

/-
  This file shows what is read from the written form of a
  timestamp: the timestamp itself, but for an offset of less
  than a second, which is read as none at all.

  Key definitions include:
    * `Timestamp.IsValid`
    * `Timestamp.octets`
    * `Timestamp.Denotes`
    * `Timestamp.rounded`

  Main statements:
    * `Timestamp.denotes_padded`
    * `Timestamp.readClock?_written`
    * `Timestamp.readOffset?_written`
    * `Timestamp.read?_written`
-/

namespace GuildWarden.Timestamp

open Number Text

------------------------------------------------------------
-- Timestamps That Exist
------------------------------------------------------------

/- The parts of a timestamp are in their ranges. -/
structure IsValid
    (t : Timestamp) : Prop where
  date : t.date.isValid = true
  hour : t.hour < 24
  minute : t.minute < 60
  second : t.second < 60
  micro : t.micro < 1000000
  offset : ∀ offset, t.offset = some offset →
    offset.natAbs < 86400000000

/- An offset, or none if it is shorter than a second. -/
def roundedOffset
    (offset : Int) : Int :=
  if offset.natAbs < 1000000 then 0 else offset

/- What is read from the written form of a timestamp. -/
def rounded
    (t : Timestamp) : Timestamp :=
  { t with offset := t.offset.map roundedOffset }

/- An offset that is not zero is at least a second long. -/
def hasWholeOffset
    (t : Timestamp) : Bool :=
  t.offset.all fun offset =>
    offset = 0 || 1000000 ≤ offset.natAbs

theorem rounded_eq_self_iff
    {t : Timestamp} :
    t.rounded = t ↔ t.hasWholeOffset = true := by
  have hOffset (offset : Int) :
      roundedOffset offset = offset ↔
        (offset = 0 || 1000000 ≤ offset.natAbs : Bool) = true := by
    unfold roundedOffset
    rw [Bool.or_eq_true, decide_eq_true_eq, decide_eq_true_eq]
    split <;> omega
  rcases t with ⟨date, hour, minute, second, micro, offset⟩
  cases offset with
  | none => simp [rounded, hasWholeOffset]
  | some offset =>
      simp only [rounded, hasWholeOffset, Option.map_some,
        Option.all_some, mk.injEq, Option.some.injEq, true_and]
      exact hOffset offset

------------------------------------------------------------
-- Octets
------------------------------------------------------------

/- The octets of a text of ASCII. -/
def octets
    (s : String) : List Nat :=
  s.toList.map octet

@[simp] theorem octets_append
    (a b : String) :
    octets (a ++ b) = octets a ++ octets b := by
  simp [octets]

@[simp] theorem octets_empty :
    octets "" = [] := rfl

@[simp] theorem octets_colon :
    octets ":" = [octet ':'] := rfl

@[simp] theorem octets_point :
    octets "." = [octet '.'] := rfl

/- Some octets denote a number with so many digits. -/
structure Denotes
    (width n : Nat)
    (bs : List Nat) : Prop where
  length : bs.length = width
  digits : ∀ b ∈ bs, isDigitOctet b = true
  reads : ∀ rest, readDigits? width 0 (bs ++ rest) = some (n, rest)

theorem isDigitOctet_of_isDigit
    {c : Char}
    (hDigit : c.isDigit = true) :
    isDigitOctet (octet c) = true := by
  have hRange := toNat_of_isDigit hDigit
  rw [isDigitOctet, Bool.and_eq_true, decide_eq_true_eq,
    decide_eq_true_eq]
  exact hRange

/- Digits are read to their end. -/
theorem readDigits?_append
    {cs : List Char}
    (acc : Nat)
    (rest : List Nat)
    (hDigits : ∀ c ∈ cs, c.isDigit = true) :
    readDigits? cs.length acc (cs.map octet ++ rest) =
      some (Nat.ofDigitChars 10 cs acc, rest) := by
  induction cs generalizing acc with
  | nil => rfl
  | cons c cs hInduction =>
      have hFirst :=
        isDigitOctet_of_isDigit (hDigits c List.mem_cons_self)
      rw [List.length_cons, List.map_cons, List.cons_append,
        readDigits?, if_pos hFirst,
        hInduction _ fun d hMember =>
          hDigits d (List.mem_cons_of_mem c hMember),
        Nat.ofDigitChars_cons]
      rfl

/- A number with leading zeros consists of zeros and its digits. -/
theorem toList_padded
    (width n : Nat) :
    (padded width n).toList =
      List.replicate (width - (Nat.toDigits 10 n).length) '0' ++
        Nat.toDigits 10 n := by
  have hText : (toString n).toList = Nat.toDigits 10 n := by
    rw [Nat.toString_eq_ofList_toDigits, String.toList_ofList]
  simp only [padded, hText, String.toList_ofList]

theorem isDigit_of_mem_padded
    {width n : Nat}
    {c : Char}
    (hMember : c ∈ (padded width n).toList) :
    c.isDigit = true := by
  rw [toList_padded, List.mem_append] at hMember
  rcases hMember with hZero | hDigit
  · rw [List.eq_of_mem_replicate hZero]
    rfl
  · exact Nat.isDigit_of_mem_toDigits (by omega) (by omega) hDigit

/- A number is read from its digits and the zeros before them. -/
theorem denotes_padded
    (width : Nat)
    {n : Nat}
    (hWidth : 0 < width)
    (hSmall : n < 10 ^ width) :
    Denotes width n (octets (padded width n)) := by
  have hShort : (Nat.toDigits 10 n).length ≤ width :=
    (Nat.length_toDigits_le_iff (by omega) hWidth).mpr hSmall
  have hLength : (padded width n).toList.length = width := by
    rw [toList_padded, List.length_append, List.length_replicate]
    omega
  have hDigits :
      ∀ c ∈ (padded width n).toList, c.isDigit = true :=
    fun c hMember => isDigit_of_mem_padded hMember
  have hValue :
      Nat.ofDigitChars 10 (padded width n).toList 0 = n := by
    rw [toList_padded, Nat.ofDigitChars_append,
      Nat.ofDigitChars_replicate_zero, Nat.mul_zero,
      Nat.ofDigitChars_toDigits (by omega) (by omega)]
  refine ⟨?_, ?_, fun rest => ?_⟩
  · rw [octets, List.length_map, hLength]
  · intro b hMember
    rcases List.mem_map.mp hMember with ⟨c, hChar, rfl⟩
    exact isDigitOctet_of_isDigit (hDigits c hChar)
  · have hRead := readDigits?_append 0 rest hDigits
    rwa [hLength, hValue] at hRead

/- The first octet is a digit, so it is no other character. -/
theorem Denotes.isAt_zero
    {width n : Nat}
    {bs : List Nat}
    {c : Char}
    (hDenotes : Denotes (width + 1) n bs)
    (hMark : isDigitOctet (octet c) = false)
    (rest : List Nat) :
    isAt (bs ++ rest) 0 c = false := by
  cases bs with
  | nil => cases hDenotes.length
  | cons b bs =>
      have hDigit := hDenotes.digits b List.mem_cons_self
      have hOther : b ≠ octet c := by
        rintro rfl
        cases hDigit.symm.trans hMark
      simpa [isAt] using hOther

------------------------------------------------------------
-- Times of Day
------------------------------------------------------------

theorem isAt_cons
    (b : Nat)
    (bs : List Nat)
    (i : Nat)
    (c : Char) :
    isAt (b :: bs) (i + 1) c = isAt bs i c := by
  rw [isAt, isAt, List.getElem?_cons_succ]

/- What follows a number stands after all of its digits. -/
theorem Denotes.isAt_append
    {width n : Nat}
    {bs : List Nat}
    (hDenotes : Denotes width n bs)
    (i : Nat)
    (rest : List Nat)
    (c : Char) :
    isAt (bs ++ rest) (width + i) c = isAt rest i c := by
  rw [isAt, isAt,
    List.getElem?_append_right (by rw [hDenotes.length]; omega),
    hDenotes.length, Nat.add_sub_cancel_left]

theorem Denotes.ne_nil
    {width n : Nat}
    {bs : List Nat}
    (hDenotes : Denotes (width + 1) n bs)
    (rest : List Nat) :
    bs ++ rest ≠ [] := by
  intro hEmpty
  have hLength := hDenotes.length
  rw [(List.append_eq_nil_iff.mp hEmpty).1] at hLength
  cases hLength

section Pairs

variable {v : Nat}
variable {bs rest : List Nat}

/- After a colon another pair of digits is read. -/
theorem readPairs?_colon
    (hDenotes : Denotes 2 v bs)
    (followed : Bool)
    (pairs : Nat)
    (parts : List Nat)
    (hRest : rest ≠ []) :
    readPairs? followed (pairs + 1) parts true
        (bs ++ octet ':' :: rest) =
      readPairs? followed pairs (parts ++ [v]) true rest := by
  cases rest with
  | nil => exact (hRest rfl).elim
  | cons c after =>
      rw [readPairs?, hDenotes.reads]
      simp

/- After a point a fraction is read. -/
theorem readPairs?_point
    (hDenotes : Denotes 2 v bs)
    (followed : Bool)
    (pairs : Nat)
    (parts : List Nat)
    (hRest : rest ≠ []) :
    readPairs? followed (pairs + 1) parts true
        (bs ++ octet '.' :: rest) =
      readFraction? (parts ++ [v]) followed rest := by
  have hOther : (octet '.' == octet ':') = false := by decide
  cases rest with
  | nil => exact (hRest rfl).elim
  | cons c after =>
      rw [readPairs?, hDenotes.reads]
      simp [hOther]

/- A time of day can end after any pair. -/
theorem readPairs?_end
    (hDenotes : Denotes 2 v bs)
    (followed : Bool)
    (pairs : Nat)
    (parts : List Nat) :
    readPairs? followed (pairs + 1) parts true bs =
      some (clockOf (parts ++ [v]) 0 followed) := by
  have hRead := hDenotes.reads []
  rw [List.append_nil] at hRead
  rw [readPairs?, hRead]

end Pairs

/- The hour and the minute of a written time of day. -/
def writtenMinute
    (hour minute : Nat) : String :=
  padded 2 hour ++ ":" ++ padded 2 minute

/- A written time of day. -/
def writtenClock
    (hour minute second micro : Nat) : String :=
  writtenMinute hour minute ++ ":" ++ padded 2 second ++
    writtenMicros micro

section Clock

variable {hour minute second micro : Nat}

/- A fraction of a second is read to its end. -/
theorem readFraction?_padded
    (parts : List Nat)
    (followed : Bool)
    (hMicro : micro < 1000000) :
    readFraction? parts followed (octets (padded 6 micro)) =
      some (clockOf parts micro followed) := by
  have hDenotes := denotes_padded 6 (by omega) hMicro
  have hRead := hDenotes.reads []
  rw [List.append_nil] at hRead
  simp [readFraction?, hDenotes.length, hRead]

/- A time of day is read from its hour and minute. -/
theorem readClock?_writtenMinute
    (followed : Bool)
    (hHour : hour < 100)
    (hMinute : minute < 100) :
    readClock? followed (octets (writtenMinute hour minute)) =
      some ⟨hour, minute, 0, 0, followed⟩ := by
  have hFirst := denotes_padded 2 (by omega) hHour
  have hNext := denotes_padded 2 (by omega) hMinute
  have hFilled := hNext.ne_nil []
  rw [List.append_nil] at hFilled
  rw [writtenMinute, octets_append, octets_append, octets_colon,
    List.append_assoc, List.singleton_append, readClock?,
    readPairs?_colon hFirst _ _ _ hFilled, readPairs?_end hNext]
  rfl

/- The seconds are read with their fraction, if there is one. -/
theorem readPairs?_second
    (followed : Bool)
    (parts : List Nat)
    (hSecond : second < 100)
    (hMicro : micro < 1000000) :
    readPairs? followed 1 parts true
        (octets (padded 2 second) ++
          octets (writtenMicros micro)) =
      some (clockOf (parts ++ [second]) micro followed) := by
  have hDenotes := denotes_padded 2 (by omega) hSecond
  unfold writtenMicros
  split
  · rename_i hZero
    rw [octets_empty, List.append_nil, readPairs?_end hDenotes,
      hZero]
  · have hFilled :=
      (denotes_padded 6 (by omega) hMicro).ne_nil []
    rw [List.append_nil] at hFilled
    rw [octets_append, octets_point, List.singleton_append,
      readPairs?_point hDenotes _ _ _ hFilled,
      readFraction?_padded _ _ hMicro]

/- A time of day is read from its written form. -/
theorem readClock?_written
    (followed : Bool)
    (hHour : hour < 100)
    (hMinute : minute < 100)
    (hSecond : second < 100)
    (hMicro : micro < 1000000) :
    readClock? followed
        (octets (writtenClock hour minute second micro)) =
      some ⟨hour, minute, second, micro, followed⟩ := by
  have hFirst := denotes_padded 2 (by omega) hHour
  have hNext := denotes_padded 2 (by omega) hMinute
  have hLast := denotes_padded 2 (by omega) hSecond
  rw [writtenClock, writtenMinute]
  simp only [octets_append, octets_colon, List.append_assoc,
    List.cons_append, List.nil_append]
  rw [readClock?,
    readPairs?_colon hFirst _ _ _ (hNext.ne_nil _),
    readPairs?_colon hNext _ _ _ (hLast.ne_nil _),
    readPairs?_second followed _ hSecond hMicro]
  rfl

end Clock

------------------------------------------------------------
-- Offsets
------------------------------------------------------------

/- What stands in an offset after its sign. -/
def writtenDistance
    (micros : Nat) : String :=
  let seconds := micros / 1000000
  if seconds % 60 = 0 && micros % 1000000 = 0 then
    writtenMinute (seconds / 3600) (seconds / 60 % 60)
  else
    writtenClock (seconds / 3600) (seconds / 60 % 60)
      (seconds % 60) (micros % 1000000)

theorem writtenOffset_eq
    (offset : Int) :
    writtenOffset offset =
      (if offset < 0 then "-" else "+") ++
        writtenDistance offset.natAbs := by
  simp only [writtenOffset, writtenDistance, writtenClock,
    writtenMinute]
  split <;> split <;>
    simp only [String.append_assoc, String.append_empty]

/- An offset is read as the length of time that it denotes. -/
theorem readClock?_writtenDistance
    {micros : Nat}
    (hShort : micros < 86400000000) :
    ∃ c, readClock? false (octets (writtenDistance micros)) =
        some c ∧
      c.leftover = false ∧
        (c.hour * 60 + c.minute) * 60 + c.second =
          micros / 1000000 ∧
            c.micro = micros % 1000000 := by
  unfold writtenDistance
  simp only
  split
  · rename_i hWhole
    rw [Bool.and_eq_true, decide_eq_true_eq, decide_eq_true_eq]
      at hWhole
    refine ⟨_, readClock?_writtenMinute false (by omega) (by omega),
      rfl, ?_, hWhole.2.symm⟩
    simp only
    omega
  · refine ⟨_, readClock?_written false (by omega) (by omega)
      (by omega) (by omega), rfl, ?_, rfl⟩
    simp only
    omega

/- An offset is read back, unless it is shorter than a second. -/
theorem readOffset?_written
    {offset : Int}
    (hShort : offset.natAbs < 86400000000) :
    readOffset? (octets (writtenOffset offset)) =
      some (roundedOffset offset) := by
  rcases readClock?_writtenDistance hShort with
    ⟨c, hRead, hEnd, hSeconds, hMicro⟩
  obtain ⟨sign, hSign, hNegative⟩ :
      ∃ sign,
        octets (writtenOffset offset) =
            sign :: octets (writtenDistance offset.natAbs) ∧
          (sign = 43 ∧ 0 ≤ offset ∨ sign = 45 ∧ offset < 0) := by
    rw [writtenOffset_eq, octets_append]
    split
    · rename_i hBelow
      exact ⟨45, rfl, Or.inr ⟨rfl, hBelow⟩⟩
    · rename_i hAbove
      exact ⟨43, rfl, Or.inl ⟨rfl, by omega⟩⟩
  have hOther : sign ≠ octet 'Z' := by
    have hZulu : octet 'Z' = 90 := rfl
    omega
  have hMinus : (sign = octet '-') ↔ offset < 0 := by
    have hCode : octet '-' = 45 := rfl
    omega
  have hSigned :
      (if offset < 0 then
          -((offset.natAbs / 1000000 : Nat) * 1000000 +
            (offset.natAbs % 1000000 : Nat) : Int)
        else
          ((offset.natAbs / 1000000 : Nat) * 1000000 +
            (offset.natAbs % 1000000 : Nat) : Int)) = offset := by
    split <;> omega
  rw [hSign, readOffset?, if_neg hOther, hRead]
  simp only [hSeconds, hMicro, hMinus, hEnd, hSigned, dayMicros,
    roundedOffset, Bool.false_eq_true, if_false]
  by_cases hBrief : offset.natAbs < 1000000
  · rw [if_pos (by omega), if_pos hBrief]
  · rw [if_neg (by omega), if_neg (by omega), if_neg hBrief]

------------------------------------------------------------
-- Timestamps
------------------------------------------------------------

@[simp] theorem octets_hyphen :
    octets "-" = [octet '-'] := rfl

theorem hyphen?_hyphen
    (rest : List Nat) :
    hyphen? true (octet '-' :: rest) = some rest := by
  simp [hyphen?, expect?]

/- A date is read from its written form. -/
theorem readDate?_written
    {d : Calendar.Date}
    (hYear : d.year < 10000)
    (hMonth : d.month < 100)
    (hDay : d.day < 100)
    (stop : Nat)
    (rest : List Nat) :
    readDate? stop (octets (writtenDate d) ++ rest) = some d := by
  have hFirst := denotes_padded 4 (by omega) hYear
  have hNext := denotes_padded 2 (by omega) hMonth
  have hLast := denotes_padded 2 (by omega) hDay
  have hHyphen (after : List Nat) :
      isAt (octet '-' :: after) 0 '-' = true := by
    simp [isAt]
  have hNoWeek (after : List Nat) :
      isAt (octets (padded 2 d.month) ++ after) 0 'W' = false :=
    hNext.isAt_zero rfl after
  simp only [writtenDate, octets_append, octets_hyphen,
    List.append_assoc, List.cons_append, List.nil_append]
  simp only [readDate?, hFirst.reads, hHyphen, hyphen?_hyphen,
    hNoWeek, hNext.reads, hLast.reads, Option.bind_eq_bind,
    Option.bind_some, Option.pure_def, Bool.false_eq_true,
    if_false]

/- The date takes the first ten octets. -/
theorem length_writtenDate
    {d : Calendar.Date}
    (hYear : d.year < 10000)
    (hMonth : d.month < 100)
    (hDay : d.day < 100) :
    (octets (writtenDate d)).length = 10 := by
  have hFirst := denotes_padded 4 (by omega) hYear
  have hNext := denotes_padded 2 (by omega) hMonth
  have hLast := denotes_padded 2 (by omega) hDay
  simp [writtenDate, hFirst.length, hNext.length, hLast.length]

/- A date with hyphens ends after its day. -/
theorem separatorIndex?_written
    {d : Calendar.Date}
    (hYear : d.year < 10000)
    (hMonth : d.month < 100)
    (hDay : d.day < 100)
    (rest : List Nat) :
    separatorIndex? (octets (writtenDate d) ++ rest) = some 10 := by
  have hFirst := denotes_padded 4 (by omega) hYear
  have hNext := denotes_padded 2 (by omega) hMonth
  have hLength := length_writtenDate hYear hMonth hDay
  have hLong : (octets (writtenDate d) ++ rest).length ≠ 7 := by
    rw [List.length_append, hLength]
    omega
  have hText :
      octets (writtenDate d) ++ rest =
        octets (padded 4 d.year) ++ octet '-' ::
          (octets (padded 2 d.month) ++ octet '-' ::
            (octets (padded 2 d.day) ++ rest)) := by
    simp [writtenDate]
  have hHyphen :
      isAt (octets (writtenDate d) ++ rest) 4 '-' = true := by
    rw [hText, hFirst.isAt_append 0]
    simp [isAt]
  have hNoWeek :
      isAt (octets (writtenDate d) ++ rest) 5 'W' = false := by
    rw [hText, hFirst.isAt_append 1, isAt_cons]
    exact hNext.isAt_zero rfl _
  rw [separatorIndex?]
  simp only [if_neg hLong, hHyphen, hNoWeek, if_true,
    Bool.false_eq_true, if_false]

/- The offset of a written timestamp, if there is one. -/
def writtenZone : Option Int → String
  | some offset => writtenOffset offset
  | none => ""

theorem written_eq
    (t : Timestamp) :
    t.written =
      writtenDate t.date ++ "T" ++
        writtenClock t.hour t.minute t.second t.micro ++
          writtenZone t.offset := by
  cases hOffset : t.offset <;>
    simp only [written, writtenWith, writtenClock, writtenMinute,
      writtenZone, hOffset, String.append_assoc]

section Characters

variable {p : Char → Bool}

theorem all_padded
    (hDigit : ∀ c, c.isDigit = true → p c = true)
    (width n : Nat) :
    (padded width n).toList.all p = true := by
  rw [List.all_eq_true]
  intro c hMember
  exact hDigit c (isDigit_of_mem_padded hMember)

theorem all_writtenMinute
    (hDigit : ∀ c, c.isDigit = true → p c = true)
    (hColon : p ':' = true)
    (hour minute : Nat) :
    (writtenMinute hour minute).toList.all p = true := by
  simp [writtenMinute, all_padded hDigit, hColon]

theorem all_writtenClock
    (hDigit : ∀ c, c.isDigit = true → p c = true)
    (hColon : p ':' = true)
    (hPoint : p '.' = true)
    (hour minute second micro : Nat) :
    (writtenClock hour minute second micro).toList.all p =
      true := by
  have hMicros : (writtenMicros micro).toList.all p = true := by
    unfold writtenMicros
    split
    · rfl
    · simp [all_padded hDigit, hPoint]
  simp [writtenClock, all_writtenMinute hDigit hColon,
    all_padded hDigit, hColon, hMicros]

/- A written timestamp has few kinds of characters. -/
theorem all_written
    (hDigit : ∀ c, c.isDigit = true → p c = true)
    (hMarks : ∀ c ∈ ['-', '+', ':', '.', 'T'], p c = true)
    (t : Timestamp) :
    t.written.toList.all p = true := by
  have hMinus := hMarks '-' (by simp)
  have hPlus := hMarks '+' (by simp)
  have hColon := hMarks ':' (by simp)
  have hPoint := hMarks '.' (by simp)
  have hMark := hMarks 'T' (by simp)
  have hZone (offset : Int) :
      (writtenOffset offset).toList.all p = true := by
    have hDistance :
        (writtenDistance offset.natAbs).toList.all p = true := by
      unfold writtenDistance
      simp only
      split
      · exact all_writtenMinute hDigit hColon _ _
      · exact all_writtenClock hDigit hColon hPoint _ _ _ _
    rw [writtenOffset_eq, String.toList_append, List.all_append,
      hDistance, Bool.and_true]
    split
    · simpa using hMinus
    · simpa using hPlus
  have hOffset : (writtenZone t.offset).toList.all p = true := by
    cases t.offset with
    | none => rfl
    | some offset => exact hZone offset
  simp [written_eq, writtenDate, all_padded hDigit, hMinus, hMark,
    all_writtenClock hDigit hColon hPoint, hOffset]

end Characters

/- Characters of ASCII other than the letter for universal time. -/
def isPlain
    (c : Char) : Bool :=
  c.toNat < 0x80 && c != 'Z'

theorem isPlain_of_isDigit
    {c : Char}
    (hDigit : c.isDigit = true) :
    isPlain c = true := by
  have hRange := toNat_of_isDigit hDigit
  have hOther : c ≠ 'Z' := ne_of_isDigit hDigit rfl
  rw [isPlain, Bool.and_eq_true, decide_eq_true_eq, bne_iff_ne]
  exact ⟨by omega, hOther⟩

/- A text of plain characters is read octet by octet. -/
theorem read?_of_plain
    {s : String}
    (hPlain : s.toList.all isPlain = true) :
    read? s = ofOctets? (octets s) := by
  have hEach : ∀ c ∈ s.toList, c.toNat < 0x80 ∧ c ≠ 'Z' := by
    intro c hMember
    have hChar := List.all_eq_true.mp hPlain c hMember
    rwa [isPlain, Bool.and_eq_true, decide_eq_true_eq,
      bne_iff_ne] at hChar
  have hNoZulu :
      replaceChar 'Z' "+00:00".toList s.toList = s.toList := by
    have hSame :
        replaceChar 'Z' "+00:00".toList s.toList =
          s.toList.flatMap ([·]) :=
      List.flatMap_congr fun c hMember =>
        if_neg (hEach c hMember).2
    rw [hSame, List.flatMap_singleton']
  have hOctets :
      s.toList.flatMap Utf8.encodeChar = octets s := by
    rw [octets, List.map_eq_flatMap]
    exact List.flatMap_congr fun c hMember =>
      if_pos (hEach c hMember).1
  rw [read?, hNoZulu, hOctets]

/- The octets of a time of day start no offset. -/
theorem startsOffset_of_clock
    {hour minute second micro b : Nat}
    (hMember :
      b ∈ octets (writtenClock hour minute second micro)) :
    startsOffset b = false := by
  rcases List.mem_map.mp hMember with ⟨c, hChar, rfl⟩
  have hDigit (d : Char) (hDigit : d.isDigit = true) :
      (!startsOffset (octet d)) = true := by
    have hRange := toNat_of_isDigit hDigit
    have hOther (mark : Char) (hMark : mark.isDigit = false) :
        d.toNat ≠ mark.toNat := fun hSame =>
      ne_of_isDigit hDigit hMark (Char.toNat_inj.mp hSame)
    simp [startsOffset, hOther]
  have hAll :=
    all_writtenClock hDigit (by decide) (by decide) hour minute
      second micro
  simpa using List.all_eq_true.mp hAll c hChar

/- An offset starts with its sign, and is not empty. -/
theorem exists_sign
    (offset : Int) :
    ∃ sign rest, octets (writtenOffset offset) = sign :: rest ∧
      startsOffset sign = true := by
  rw [writtenOffset_eq, octets_append]
  split
  · exact ⟨_, _, rfl, rfl⟩
  · exact ⟨_, _, rfl, rfl⟩

/- The parts of a date that exists have few digits. -/
theorem small_of_isValid
    {date : Calendar.Date}
    (hValid : date.isValid = true) :
    date.year < 10000 ∧ date.month < 100 ∧ date.day < 100 := by
  simp only [Calendar.Date.isValid, Bool.and_eq_true,
    decide_eq_true_eq] at hValid
  have hMonthDays :
      Calendar.daysInMonth date.year date.month ≤ 31 := by
    unfold Calendar.daysInMonth
    split
    · split <;> omega
    · split <;> omega
  omega

/- The octets of a timestamp: date, mark, time and offset. -/
theorem octets_written
    (t : Timestamp) :
    octets t.written =
      octets (writtenDate t.date) ++ octet 'T' ::
        (octets
          (writtenClock t.hour t.minute t.second t.micro) ++
            octets (writtenZone t.offset)) := by
  simp [written_eq, show octets "T" = [octet 'T'] from rfl]

theorem ofOctets?_written
    {t : Timestamp}
    (hValid : t.IsValid) :
    ofOctets? (octets t.written) = some t.rounded := by
  have hHour := hValid.hour
  have hMinute := hValid.minute
  have hSecond := hValid.second
  have hText := octets_written t
  rcases small_of_isValid hValid.date with ⟨hYear, hMonth, hDay⟩
  have hLength := length_writtenDate hYear hMonth hDay
  have hLong : ¬ (octets t.written).length < 7 := by
    rw [hText, List.length_append, hLength]
    omega
  have hDrop :
      (octets t.written).drop 10 =
        octet 'T' ::
          (octets
            (writtenClock t.hour t.minute t.second t.micro) ++
              octets (writtenZone t.offset)) := by
    rw [hText, ← hLength, List.drop_left]
  have hIndex : separatorIndex? (octets t.written) = some 10 := by
    rw [hText]
    exact separatorIndex?_written hYear hMonth hDay _
  have hRead : readDate? 10 (octets t.written) = some t.date := by
    rw [hText]
    exact readDate?_written hYear hMonth hDay 10 _
  have hBody :
      ∀ b ∈ octets
          (writtenClock t.hour t.minute t.second t.micro),
        (!startsOffset b) = true := by
    intro b hMember
    rw [startsOffset_of_clock hMember]
    rfl
  have hClock (followed : Bool) :
      readClock? followed
          (octets (writtenClock t.hour t.minute t.second t.micro)) =
        some ⟨t.hour, t.minute, t.second, t.micro, followed⟩ :=
    readClock?_written followed
      (Nat.lt_trans hHour (by omega)) (Nat.lt_trans hMinute (by omega))
      (Nat.lt_trans hSecond (by omega)) hValid.micro
  have hParts (leftover : Bool) (offset : Option Int) :
      ofParts? t.date ⟨t.hour, t.minute, t.second, t.micro, leftover⟩
        offset = some { t with offset } := by
    simp [ofParts?, hValid.date, hHour, hMinute, hSecond]
  have hMark : separatorSize (octet 'T') = 1 := rfl
  rw [ofOctets?]
  simp only [if_neg hLong, hIndex, hRead, hDrop, hMark,
    Nat.sub_self, List.drop_zero, Option.bind_eq_bind,
    Option.bind_some]
  rw [List.takeWhile_append_of_pos hBody,
    List.dropWhile_append_of_pos hBody]
  cases hOffset : t.offset with
  | none =>
      simp [writtenZone, hClock false, hParts, rounded, hOffset]
  | some offset =>
      rcases exists_sign offset with ⟨sign, rest, hZone, hSign⟩
      have hOffsetRead :=
        readOffset?_written (hValid.offset offset hOffset)
      rw [hZone] at hOffsetRead
      simp [writtenZone, hZone, hSign, hClock true, hOffsetRead,
        hParts, rounded, hOffset]

/-
  A timestamp is read back from its written form, but for an
  offset of less than a second.
-/
theorem read?_written
    {t : Timestamp}
    (hValid : t.IsValid) :
    read? t.written = some t.rounded := by
  have hPlain : t.written.toList.all isPlain = true :=
    all_written (fun c => isPlain_of_isDigit) (by simp [isPlain]) t
  rw [read?_of_plain hPlain, ofOctets?_written hValid]

end GuildWarden.Timestamp
