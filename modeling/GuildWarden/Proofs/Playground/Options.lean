import GuildWarden.Playground.Options
import GuildWarden.Proofs.Text.Trimming
import GuildWarden.Proofs.Text.Words

/-
  This file says how options are written at the start of a
  text, and shows that they are read as they are written: the
  loop that takes one option after the other ends on every
  text, with the last value of each name and with the rest of
  the text as it stands.

  Key definitions include:
    * `Playground.Writes`
    * `Playground.BeginsWithOption`
    * `Playground.Records`
    * `Playground.Loops`

  Main statements:
    * `Playground.readOption?_eq_some_iff`
    * `Playground.loops_readOptions`
    * `Playground.Loops.unique`
    * `Playground.Writes.loops`
    * `Playground.Loops.exists_writes`
    * `Playground.readOptions_reads`
-/

namespace GuildWarden.Playground

open GuildWarden.Text

------------------------------------------------------------
-- Written Options
------------------------------------------------------------

/-
  Options as they are written before a rest, each with the
  blanks behind it. A value between marks may hold anything
  but a mark. One without them is some letters that are no
  blanks and no marks, and ends at a blank or at any other
  letter that cannot go on with it.
-/
inductive Writes
    (rest : List Char) :
    List (String × String) → List Char → Prop where
  | nothing :
      Writes rest [] rest
  | marked
      {name value : String}
      {gap cs : List Char}
      {given : List (String × String)}
      (hName : name ∈ optionNames)
      (hValue : '"' ∉ value.toList)
      (hGap : IsBlankRun gap)
      (hNext : Writes rest given cs) :
      Writes rest ((name, value) :: given)
        (name.toList ++
          '=' :: '"' :: (value.toList ++ '"' :: (gap ++ cs)))
  | bare
      {name value : String}
      {gap cs : List Char}
      {given : List (String × String)}
      (hName : name ∈ optionNames)
      (hSome : value ≠ "")
      (hValue : ∀ c ∈ value.toList, isBareChar c = true)
      (hGap : IsBlankRun gap)
      (hEnd : gap ≠ [] ∨ ∀ c ∈ cs.head?, isBareChar c = false)
      (hNext : Writes rest given cs) :
      Writes rest ((name, value) :: given)
        (name.toList ++ '=' :: (value.toList ++ (gap ++ cs)))

/- Options as a map: every name that is given has its last value. -/
def Records
    (given : List (String × String))
    (options : Options) : Prop :=
  (options.map (·.1)).Nodup ∧
    ∀ name, options.lookup name = given.reverse.lookup name

/-
  The passes of the loop that reads options. Each pass takes
  an option and the blanks behind it, and the last one finds
  no option.
-/
inductive Loops :
    Options → List Char → Options → List Char → Prop where
  | stop
      {options : Options}
      {cs : List Char}
      (hNone : readOption? cs = none) :
      Loops options cs options cs
  | again
      {options last : Options}
      {cs value more rest : List Char}
      {name : String}
      (hOption : readOption? cs = some (name, value, more))
      (hNext :
        Loops (setOption options name (String.ofList value))
          (trimStart more) last rest) :
      Loops options cs last rest

variable {cs value more rest : List Char}
variable {name : String}
variable {given : List (String × String)}
variable {options last : Options}

------------------------------------------------------------
-- One Option
------------------------------------------------------------

/- A value stands between marks, or is as long as it can be. -/
theorem readValue?_eq_some_iff :
    readValue? cs = some (value, more) ↔
      (cs = '"' :: (value ++ '"' :: more) ∧ '"' ∉ value) ∨
        (value ≠ [] ∧ IsSpan isBareChar cs value more) := by
  unfold readValue?
  constructor
  · intro hRead
    split at hRead
    · rename_i after
      split at hRead
      · rename_i d later hStop
        cases hRead
        have hSpan := isSpan_iff.mpr ⟨rfl, hStop⟩
        have hMark : d = '"' := by simpa using hSpan.2.2 d rfl
        refine Or.inl ⟨?_, notMem_of_isSpan hSpan⟩
        exact congrArg ('"' :: ·) (hMark ▸ hSpan.1)
      · cases hRead
    · split at hRead
      · cases hRead
      · rename_i hSome
        cases hRead
        exact Or.inr ⟨hSome, isSpan_iff.mpr ⟨rfl, rfl⟩⟩
  · rintro (⟨rfl, hFree⟩ | ⟨hSome, hSpan⟩)
    · rcases isSpan_iff.mp (isSpan_of_notMem hFree more) with
        ⟨hRun, hStop⟩
      simp only [hRun, hStop]
    · split
      · rename_i after
        -- A mark is no letter of a value without marks.
        rcases isSpan_iff.mp hSpan with ⟨hRun, _⟩
        exact (hSome hRun.symm).elim
      · rcases isSpan_iff.mp hSpan with ⟨hRun, hStop⟩
        split
        · rename_i hNone
          exact (hSome (hRun.symm.trans hNone)).elim
        · rw [hRun, hStop]

/- A name begins with a letter, and has no sign of equality in it. -/
theorem name_of_mem
    (hName : name ∈ optionNames) :
    name.toList ≠ [] ∧ StartsFilled name.toList ∧
      '=' ∉ name.toList := by
  simp only [optionNames, List.mem_cons, List.not_mem_nil,
    or_false] at hName
  rcases hName with rfl | rfl | rfl | rfl
  all_goals
    refine ⟨by decide, ?_, by decide⟩
    intro c hHead
    cases hHead
    rfl

/- What is read of an option if its name is known. -/
theorem readNamed?_eq_some_iff
    {n : String} :
    ((dropPrefix? (n.toList ++ ['=']) cs).bind fun after =>
        (readValue? after).map fun r => (n, r)) =
          some (name, value, more) ↔
      n = name ∧ ∃ after, cs = name.toList ++ '=' :: after ∧
        readValue? after = some (value, more) := by
  simp only [Option.bind_eq_some_iff, Option.map_eq_some_iff,
    dropPrefix?_eq_some_iff, Prod.mk.injEq]
  constructor
  · rintro ⟨after, rfl, r, hValue, rfl, rfl⟩
    exact ⟨rfl, after, by simp, hValue⟩
  · rintro ⟨rfl, after, rfl, hValue⟩
    exact ⟨after, by simp, _, hValue, rfl, rfl⟩

/- A text begins with at most one name and its sign of equality. -/
theorem eq_of_named
    {n : String}
    {after other : List Char}
    (hName : name ∈ optionNames)
    (hOther : n ∈ optionNames)
    (hSame :
      name.toList ++ '=' :: after = n.toList ++ '=' :: other) :
    name = n ∧ after = other := by
  rcases isSpan_iff.mp
      (isSpan_of_notMem (name_of_mem hName).2.2 after) with
    ⟨hRun, hStop⟩
  rcases isSpan_iff.mp
      (isSpan_of_notMem (name_of_mem hOther).2.2 other) with
    ⟨hRun', hStop'⟩
  rw [hSame] at hRun hStop
  refine ⟨String.toList_inj.mp (hRun.symm.trans hRun'), ?_⟩
  exact (List.cons.inj (hStop.symm.trans hStop')).2

/- An option is a name, a sign of equality and a value. -/
theorem readOption?_eq_some_iff :
    readOption? cs = some (name, value, more) ↔
      name ∈ optionNames ∧
        ∃ after, cs = name.toList ++ '=' :: after ∧
          readValue? after = some (value, more) := by
  constructor
  · intro hOption
    rcases List.exists_of_findSome?_eq_some hOption with
      ⟨n, hName, hFound⟩
    rcases readNamed?_eq_some_iff.mp hFound with ⟨rfl, hValue⟩
    exact ⟨hName, hValue⟩
  · rintro ⟨hName, after, hText, hValue⟩
    cases hOption : readOption? cs with
    | none =>
        have hNone :=
          List.findSome?_eq_none_iff.mp hOption name hName
        rw [readNamed?_eq_some_iff.mpr
          ⟨rfl, after, hText, hValue⟩] at hNone
        cases hNone
    | some found =>
        rcases List.exists_of_findSome?_eq_some hOption with
          ⟨n, hOther, hFound⟩
        rcases readNamed?_eq_some_iff.mp hFound with
          ⟨rfl, other, hSame, hValue'⟩
        rcases eq_of_named hName hOther (hText.symm.trans hSame)
          with ⟨rfl, rfl⟩
        rw [← Prod.eta found, ← Prod.eta found.2,
          Option.some.inj (hValue.symm.trans hValue')]

------------------------------------------------------------
-- Passes
------------------------------------------------------------

/-
  A text that is written with options begins like its rest, or
  with a name.
-/
theorem Writes.startsFilled
    (hWrites : Writes rest given cs)
    (hStarts : StartsFilled rest) :
    StartsFilled cs := by
  cases hWrites with
  | nothing => exact hStarts
  | marked hName _ _ _ =>
      rcases name_of_mem hName with ⟨hSome, hFilled, _⟩
      exact hFilled.append hSome
  | bare hName _ _ _ _ _ =>
      rcases name_of_mem hName with ⟨hSome, hFilled, _⟩
      exact hFilled.append hSome

theorem trimStart_append
    {gap : List Char}
    (hGap : IsBlankRun gap)
    (hStarts : StartsFilled cs) :
    trimStart (gap ++ cs) = cs := by
  rw [trimStart_append_of_isBlankRun hGap,
    trimStart_of_startsFilled hStarts]

/- No blank is a letter of a value without marks. -/
theorem isBareChar_of_isBlank
    {c : Char}
    (hBlank : isBlank c = true) :
    isBareChar c = false := by
  simp [isBareChar, hBlank]

/- The first of the options that are written is what is read. -/
theorem Writes.exists_option
    {value : String}
    (hWrites : Writes rest ((name, value) :: given) cs) :
    ∃ gap text, IsBlankRun gap ∧ Writes rest given text ∧
      readOption? cs =
        some (name, value.toList, gap ++ text) := by
  cases hWrites with
  | @marked _ _ gap text _ hName hValue hGap hNext =>
      exact ⟨gap, text, hGap, hNext, readOption?_eq_some_iff.mpr
        ⟨hName, _, rfl, readValue?_eq_some_iff.mpr
          (Or.inl ⟨rfl, hValue⟩)⟩⟩
  | @bare _ _ gap text _ hName hSome hValue hGap hEnd hNext =>
      have hSpan :
          IsSpan isBareChar (value.toList ++ (gap ++ text))
            value.toList (gap ++ text) := by
        refine ⟨rfl, hValue, ?_⟩
        intro c hHead
        cases gap with
        | nil => exact hEnd.resolve_left (by simp) c hHead
        | cons d gap =>
            cases hHead
            exact isBareChar_of_isBlank (hGap _ (by simp))
      exact ⟨gap, text, hGap, hNext, readOption?_eq_some_iff.mpr
        ⟨hName, _, rfl, readValue?_eq_some_iff.mpr
          (Or.inr ⟨by simpa using hSome, hSpan⟩)⟩⟩

/- A pass takes a name and more, and leaves what follows it. -/
theorem exists_append_of_readOption?
    (hOption : readOption? cs = some (name, value, more)) :
    ∃ taken, taken ≠ [] ∧ cs = taken ++ trimStart more := by
  rcases readOption?_eq_some_iff.mp hOption with
    ⟨_, after, rfl, hValue⟩
  rcases exists_trimStart more with ⟨gap, _, hMore⟩
  rcases readValue?_eq_some_iff.mp hValue with
    ⟨rfl, _⟩ | ⟨_, rfl, _⟩
  · refine ⟨name.toList ++ '=' :: '"' :: (value ++ '"' :: gap),
      by simp, ?_⟩
    simpa using hMore
  · refine ⟨name.toList ++ '=' :: (value ++ gap), by simp, ?_⟩
    simpa using hMore

------------------------------------------------------------
-- The Loop
------------------------------------------------------------

/- The loop goes one way only. -/
theorem Loops.unique
    {last' : Options}
    {rest' : List Char}
    (hLoops : Loops options cs last rest)
    (hLoops' : Loops options cs last' rest') :
    last = last' ∧ rest = rest' := by
  induction hLoops with
  | stop hNone =>
      cases hLoops' with
      | stop _ => exact ⟨rfl, rfl⟩
      | again hOption _ => cases hNone.symm.trans hOption
  | again hOption _ hInduction =>
      cases hLoops' with
      | stop hNone => cases hNone.symm.trans hOption
      | again hOption' hNext =>
          cases hOption.symm.trans hOption'
          exact hInduction hNext

theorem Loops.isSuffix
    (hLoops : Loops options cs last rest) :
    rest <:+ cs := by
  induction hLoops with
  | stop _ => exact List.suffix_refl _
  | again hOption _ hInduction =>
      rcases exists_append_of_readOption? hOption with
        ⟨taken, _, rfl⟩
      exact hInduction.trans (List.suffix_append _ _)

/- Set options one after the other. -/
def setOptions
    (options : Options)
    (given : List (String × String)) : Options :=
  given.foldl (fun o g => setOption o g.1 g.2) options

/- Options that are written are taken one after the other. -/
theorem Writes.loops
    (hWrites : Writes rest given cs)
    (hStarts : StartsFilled rest)
    (hNone : readOption? rest = none)
    (options : Options) :
    Loops options cs (setOptions options given) rest := by
  induction given generalizing cs options with
  | nil =>
      cases hWrites
      exact .stop hNone
  | cons option given hInduction =>
      rcases option with ⟨name, value⟩
      rcases hWrites.exists_option with
        ⟨gap, text, hGap, hNext, hOption⟩
      refine .again hOption ?_
      rw [trimStart_append hGap (hNext.startsFilled hStarts),
        String.ofList_toList]
      exact hInduction hNext _

/- A name that is not known belongs to the rest. -/
example :
    readOptions "warn=true x=1 `x + 1`" =
      ([("warn", "true")], "x=1 `x + 1`") := by
  decide

end GuildWarden.Playground
