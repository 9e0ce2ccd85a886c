import GuildWarden.Proofs.Command.Admission
import GuildWarden.Proofs.Text.Trimming

/-
  This file says how a message that calls a command is
  written, letter by letter: the mark, a word, blanks and the
  rest, which again may be the word of a subcommand, blanks
  and a tail. The handler is given what the message ends with,
  and nothing of it is trimmed or put together anew.

  Key definitions include:
    * `Text.IsWord`
    * `Text.IsGap`
    * `Invocation.Spells`
    * `Command.Entry.Hands`
    * `Router.Hands`

  Main statements:
    * `Invocation.parse?_eq_some_iff_spells`
    * `Router.select_eq_some_iff_hands`
    * `Router.route_hands`
-/

namespace GuildWarden

open Text

------------------------------------------------------------
-- Words and Gaps
------------------------------------------------------------

namespace Text

variable {cs word rest : List Char}

/- Some letters, and no blank among them. -/
def IsWord
    (cs : List Char) : Prop :=
  cs ≠ [] ∧ ∀ c ∈ cs, isBlank c = false

/- All the blanks between a word and a rest, if there is one. -/
def IsGap
    (gap rest : List Char) : Prop :=
  IsBlankRun gap ∧ (gap = [] → rest = []) ∧ StartsFilled rest

/- A text is cut where the gap after its first word is. -/
theorem isCut_iff :
    IsCut cs word rest ↔
      ∃ gap, cs = word ++ gap ++ rest ∧ IsWord word ∧
        IsGap gap rest := by
  constructor
  · rintro ⟨gap, hSplit, hSome, hWord, hGap, hEnd, hRest⟩
    exact ⟨gap, hSplit, ⟨hSome, hWord⟩, hGap, hEnd, hRest⟩
  · rintro ⟨gap, hSplit, ⟨hSome, hWord⟩, hGap, hEnd, hRest⟩
    exact ⟨gap, hSplit, hSome, hWord, hGap, hEnd, hRest⟩

/- A rest is what the text ends with. -/
theorem IsCut.isSuffix
    (hCut : IsCut cs word rest) :
    rest <:+ cs := by
  rcases hCut with ⟨gap, rfl, _⟩
  exact List.suffix_append _ _

end Text

------------------------------------------------------------
-- Invocations
------------------------------------------------------------

/-
  A text spells an invocation: the mark, then a word that is
  the name in whatever case, then a gap, then the tail.
-/
def Invocation.Spells
    (mark text : String)
    (i : Invocation) : Prop :=
  ∃ word gap,
    text.toList =
        mark.toList ++ word ++ gap ++ i.tail.toList ∧
      IsWord word ∧ IsGap gap i.tail.toList ∧
        i.name = lower (String.ofList word)

theorem Invocation.parse?_eq_some_iff_spells
    {mark text : String}
    {i : Invocation} :
    parse? mark text = some i ↔ Spells mark text i := by
  rw [parse?_eq_some_iff]
  constructor
  · rintro ⟨body, word, rest, hText, hCut, rfl⟩
    rcases isCut_iff.mp hCut with ⟨gap, rfl, hWord, hGap⟩
    refine ⟨word, gap, ?_, hWord, ?_, rfl⟩
    · simpa using hText
    · simpa using hGap
  · rintro ⟨word, gap, hText, hWord, hGap, hName⟩
    refine ⟨word ++ gap ++ i.tail.toList, word, i.tail.toList,
      by simpa using hText,
      isCut_iff.mpr ⟨gap, rfl, hWord, hGap⟩, ?_⟩
    rw [← hName, String.ofList_toList]

------------------------------------------------------------
-- Tails
------------------------------------------------------------

/-
  An entry hands a tail to a command. If the first word of the
  rest, put into small letters, is the name of a subcommand,
  it is the command, and the tail follows that word and its
  gap. If not, the entry's own command gets the whole rest.
-/
def Command.Entry.Hands
    (e : Command.Entry)
    (rest : List Char)
    (c : Command)
    (tail : String) : Prop :=
  (∃ word gap,
    rest = word ++ gap ++ tail.toList ∧ IsWord word ∧
      IsGap gap tail.toList ∧
        e.subcommands.lookup (lower (String.ofList word)) =
          some c) ∨
  (c = e.command ∧ tail.toList = rest ∧
    ∀ word gap left,
      rest = word ++ gap ++ left → IsWord word →
        IsGap gap left →
          e.subcommands.lookup (lower (String.ofList word)) =
            none)

variable {c : Command}
variable {tail : String}

theorem Command.Entry.hands_iff_chooses
    {e : Command.Entry}
    {rest : List Char} :
    e.Hands rest c tail ↔ e.Chooses rest c tail := by
  have hTail (left : List Char) :
      tail = String.ofList left ↔ tail.toList = left := by
    constructor
    · rintro rfl
      exact String.toList_ofList
    · rintro rfl
      exact String.ofList_toList.symm
  unfold Hands Chooses
  simp only [isCut_iff, hTail]
  constructor
  · rintro (⟨word, gap, hRest, hWord, hGap, hFound⟩ |
      ⟨hOwn, hAll, hNone⟩)
    · exact Or.inl ⟨word, tail.toList,
        ⟨gap, hRest, hWord, hGap⟩, hFound, rfl⟩
    · refine Or.inr ⟨hOwn, hAll, ?_⟩
      rintro word left ⟨gap, hRest, hWord, hGap⟩
      exact hNone word gap left hRest hWord hGap
  · rintro (⟨word, _, ⟨gap, hRest, hWord, hGap⟩, hFound, rfl⟩ |
      ⟨hOwn, hAll, hNone⟩)
    · exact Or.inl ⟨word, gap, hRest, hWord, hGap, hFound⟩
    · refine Or.inr ⟨hOwn, hAll, ?_⟩
      intro word gap left hRest hWord hGap
      exact hNone word left ⟨gap, hRest, hWord, hGap⟩

theorem Command.Entry.Hands.isSuffix
    {e : Command.Entry}
    {rest : List Char}
    (hHands : e.Hands rest c tail) :
    tail.toList <:+ rest := by
  rcases hHands with ⟨word, gap, rfl, _⟩ | ⟨_, rfl, _⟩
  · exact List.suffix_append _ _
  · exact List.suffix_refl _

namespace Router

/- A message makes a router hand a tail to a command. -/
def Hands
    (r : Router)
    (text : String)
    (c : Command)
    (tail : String) : Prop :=
  ∃ i e,
    Invocation.Spells r.mark text i ∧
      r.entries.lookup i.name = some e ∧
        e.Hands i.tail.toList c tail

variable {r : Router}
variable {text : String}

theorem select_eq_some_iff_hands :
    r.select text = some (c, tail) ↔ r.Hands text c tail := by
  simp only [select, Option.bind_eq_bind, Option.pure_def,
    Option.bind_eq_some_iff, Option.some.injEq,
    Invocation.parse?_eq_some_iff_spells]
  have hResolve
      {i : Invocation}
      (e : Command.Entry)
      (hSpells : Invocation.Spells r.mark text i) :
      e.resolve i.tail = (c, tail) ↔
        e.Hands i.tail.toList c tail := by
    rcases hSpells with ⟨_, _, _, _, ⟨_, _, hStarts⟩, _⟩
    rw [Command.Entry.hands_iff_chooses,
      ← Command.Entry.resolve_eq_iff hStarts,
      String.ofList_toList]
  constructor
  · rintro ⟨i, hSpells, e, hFound, hTail⟩
    exact ⟨i, e, hSpells, hFound, (hResolve e hSpells).mp hTail⟩
  · rintro ⟨i, e, hSpells, hFound, hHands⟩
    exact ⟨i, hSpells, e, hFound, (hResolve e hSpells).mpr hHands⟩

/- Whatever is handed on stands at the end of the text. -/
theorem Hands.isSuffix
    (hHands : r.Hands text c tail) :
    tail.toList <:+ text.toList := by
  rcases hHands with ⟨i, e, ⟨word, gap, hText, _⟩, _, hHands⟩
  have hRest : i.tail.toList <:+ text.toList := by
    rw [hText]
    exact List.suffix_append _ _
  exact hHands.isSuffix.trans hRest

/-
  How a command line is read. A text is read as an invocation
  just if it spells it. A message that hands no tail to a
  command is ignored. Any other one hands one tail to one
  command, whose handler alone is run, and with that tail: it
  is what the message ends with, to the last blank.
-/
theorem route_hands
    (r : Router) :
    (∀ text i,
      Invocation.parse? r.mark text = some i ↔
        Invocation.Spells r.mark text i) ∧
    ∀ m : Command.Message,
      ((∀ c tail, ¬ r.Hands m.text c tail) ∧
          r.route m = .done .ignored) ∨
        ∃ c tail,
          (∀ c' tail', r.Hands m.text c' tail' ↔
            c' = c ∧ tail' = tail) ∧
          tail.toList <:+ m.text.toList ∧
          r.route m =
            (r.gate m c tail).around
              (c.handler (r.contextOf m) tail) := by
  refine ⟨fun text i => Invocation.parse?_eq_some_iff_spells, ?_⟩
  intro m
  cases hSelect : r.select m.text with
  | none =>
      refine Or.inl ⟨?_, ?_⟩
      · intro c tail hHands
        cases hSelect.symm.trans
          (select_eq_some_iff_hands.mpr hHands)
      · unfold route
        rw [hSelect]
        rfl
  | some call =>
      rcases call with ⟨c, tail⟩
      have hHands := select_eq_some_iff_hands.mp hSelect
      refine Or.inr ⟨c, tail, ?_, hHands.isSuffix,
        route_eq_of_select hSelect⟩
      intro c' tail'
      rw [← select_eq_some_iff_hands, hSelect, Option.some.injEq,
        Prod.mk.injEq]
      exact and_congr eq_comm eq_comm

/- The blanks within a tail and at its end are the caller's. -/
example :
    Invocation.parse? "?" "?Echo   spaced  out " =
      some ⟨"echo", "spaced  out "⟩ := by
  decide

end Router

end GuildWarden
