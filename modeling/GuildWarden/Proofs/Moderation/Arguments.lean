import GuildWarden.Command.Moderation
import GuildWarden.Proofs.Moderation.Terms

/-
  This file says what the commands of moderators make of their
  tails. A tail is heeded if the command acts on arguments
  that are fit for it, or refuses them before it asks for
  anything. Every tail is, but for one whose hours or seconds
  are written in digits and stand for no number: on that a
  command fails.

  Key definitions include:
    * `Command.Moderation.Heeds`
    * `BanOrder.Trips`
    * `Slowmode.Trips`

  Main statements:
    * `Command.Moderation.ban_cases`
    * `Command.Moderation.kick_heeds`
    * `Command.Moderation.slowmode_cases`
    * `Command.Moderation.heeds_iff`
-/

namespace GuildWarden

open Number Text

variable {tail : String}

------------------------------------------------------------
-- Arguments
------------------------------------------------------------

/- The first word of a tail is a mention of an id. -/
def Mention.Leads
    (kind : Mention)
    (tail : String)
    (id : Int) : Prop :=
  ∃ word, (words tail.toList).head? = some word ∧
    kind.read? (String.ofList word) = some id

/- A word stands, up to a space, where a ban has its hours. -/
def BanOrder.GivesHours
    (tail : String)
    (word : List Char) : Prop :=
  ∃ name rest later, IsCut (trim tail.toList) name rest ∧
    (Mention.user.read? (String.ofList name)).isSome = true ∧
      IsCutAtSpace rest word later

/- A word stands where a slow mode has its seconds. -/
def Slowmode.GivesSeconds
    (tail : String)
    (word : List Char) : Prop :=
  ∃ channel more, words tail.toList = channel :: word :: more ∧
    (Mention.channel.read? (String.ofList channel)).isSome = true

/- A tail gives hours that are no number. -/
def BanOrder.Trips
    (tail : String) : Prop :=
  ∃ word, BanOrder.GivesHours tail word ∧ IsUnreadable word

/- A tail gives seconds that are no number. -/
def Slowmode.Trips
    (tail : String) : Prop :=
  ∃ word, Slowmode.GivesSeconds tail word ∧ IsUnreadable word

/- The first word of a text is the one that is cut off it. -/
theorem head?_words_of_isCut
    {word rest : List Char}
    (hCut : IsCut (trim tail.toList) word rest) :
    (words tail.toList).head? = some word := by
  have hSplit :=
    (splitWord?_eq_some_iff (startsFilled_trim _)).mpr hCut
  rw [← words_trim, words_eq, hSplit]
  rfl

/- A target is refused, or it is somebody else. -/
theorem userTarget_cases
    (actor : Int)
    (word : String) :
    (∃ detail, userTarget actor word = .error (.usage detail)) ∨
      ∃ id, Mention.user.read? word = some id ∧ id ≠ actor ∧
        userTarget actor word = .ok id := by
  unfold userTarget
  cases hUser : Mention.user.read? word with
  | none => exact Or.inl ⟨_, rfl⟩
  | some id =>
      by_cases hSelf : id = actor
      · exact Or.inl ⟨_, if_pos hSelf⟩
      · exact Or.inr ⟨id, rfl, hSelf, if_neg hSelf⟩

/- How the terms of a ban are read, whatever they are. -/
theorem BanOrder.readTerms_cases
    {rest word later : List Char}
    (hCut : IsCutAtSpace rest word later) :
    (IsUnreadable word ∧
        readTerms rest = .error (.badValue "")) ∨
      (¬ IsUnreadable word ∧ ∃ terms, readTerms rest = .ok terms) := by
  by_cases hNumber : word ≠ [] ∧ ∀ c ∈ word, isDigit c = true
  · rcases hNumber with ⟨hSome, hDigits⟩
    have hNone := readInteger?_eq_none_iff hDigits hSome
    rw [readTerms_of_digits hCut hSome hDigits]
    cases hRead : readInteger? word with
    | none => exact Or.inl ⟨hNone.mp hRead, rfl⟩
    | some hours =>
        refine Or.inr ⟨fun hUnreadable => ?_, _, rfl⟩
        cases (hNone.mpr hUnreadable).symm.trans hRead
  · exact Or.inr
      ⟨fun hUnreadable => hNumber ⟨hUnreadable.1, hUnreadable.2.1⟩,
        _, readTerms_of_other hCut hNumber⟩

/- An order with unreadable hours is not read. -/
theorem BanOrder.read_of_trips
    (hTrips : BanOrder.Trips tail) :
    BanOrder.read tail = .error (.badValue "") := by
  rcases hTrips with
    ⟨word, ⟨name, rest, later, hName, hUser, hWord⟩, hUnreadable⟩
  rcases Option.isSome_iff_exists.mp hUser with ⟨userId, hUser⟩
  rw [read_of_cut hName hUser]
  rcases readTerms_cases hWord with ⟨_, hTerms⟩ | ⟨hReadable, _⟩
  · rw [hTerms]
    rfl
  · exact (hReadable hUnreadable).elim

/- Any other order is refused, or is one for the user it leads with. -/
theorem BanOrder.read_cases
    (tail : String) :
    BanOrder.Trips tail ∨
      (∃ detail, BanOrder.read tail = .error (.usage detail)) ∨
        ∃ order, Mention.user.Leads tail order.userId ∧
          BanOrder.read tail = .ok order := by
  cases hSplit : splitWord? (trim tail.toList) with
  | none =>
      refine Or.inr (Or.inl ⟨"", ?_⟩)
      unfold BanOrder.read
      rw [hSplit]
  | some p =>
      rcases p with ⟨name, rest⟩
      have hName : IsCut (trim tail.toList) name rest :=
        (splitWord?_eq_some_iff (startsFilled_trim _)).mp hSplit
      cases hUser : Mention.user.read? (String.ofList name) with
      | none =>
          exact Or.inr (Or.inl ⟨_, read_of_other hName hUser⟩)
      | some userId =>
          rcases exists_isCutAtSpace rest with
            ⟨word, later, hWord⟩
          rcases readTerms_cases hWord with
            ⟨hUnreadable, _⟩ | ⟨_, terms, hTerms⟩
          · exact Or.inl ⟨word,
              ⟨name, rest, later, hName, by rw [hUser]; rfl, hWord⟩,
              hUnreadable⟩
          · refine Or.inr (Or.inr ⟨ofTerms userId terms,
              ⟨name, head?_words_of_isCut hName, hUser⟩, ?_⟩)
            rw [read_of_cut hName hUser, hTerms]
            rfl

/- The seconds of a slow mode are read, refused or no number. -/
theorem Slowmode.readSeconds_cases
    (word : List Char) :
    (IsUnreadable word ∧
        readSeconds word = .error (.badValue "")) ∨
      (¬ IsUnreadable word ∧
        ((∃ detail, readSeconds word = .error (.usage detail)) ∨
          ∃ n, 0 ≤ n ∧ n ≤ longest ∧ readSeconds word = .ok n)) := by
  unfold readSeconds
  split
  · rename_i hOther
    refine Or.inr ⟨?_, Or.inl ⟨_, rfl⟩⟩
    rintro ⟨hSome, hDigits, _⟩
    have hAll : word.all isDigit = true :=
      List.all_eq_true.mpr hDigits
    simp [hSome, hAll] at hOther
  · rename_i hNumber
    simp only [Bool.or_eq_true, not_or, List.isEmpty_iff,
      Bool.not_eq_true', Bool.not_eq_false] at hNumber
    have hDigits := List.all_eq_true.mp hNumber.2
    have hNone := readInteger?_eq_none_iff hDigits hNumber.1
    cases hRead : readInteger? word with
    | none => exact Or.inl ⟨hNone.mp hRead, rfl⟩
    | some n =>
        refine Or.inr ⟨fun hUnreadable => ?_, ?_⟩
        · cases (hNone.mpr hUnreadable).symm.trans hRead
        · by_cases hLong : longest < n
          · exact Or.inl ⟨_, if_pos hLong⟩
          · exact Or.inr ⟨n,
              nonneg_of_readInteger? hDigits hNumber.1 hRead,
              Int.not_lt.mp hLong, if_neg hLong⟩

namespace Command.Moderation

open Program

variable {ctx : Context}

------------------------------------------------------------
-- Heeding
------------------------------------------------------------

/- The service bans the user, and the message is acknowledged. -/
def imposing
    (ctx : Context)
    (order : BanOrder) : Program Unit := do
  let _ ← Ban.impose (← settle (guildOf ctx)) order
  ctx.acknowledge

/- The platform removes the member. -/
def removing
    (ctx : Context)
    (userId : Int) : Program Unit := do
  let reason := "Kicked by " ++ decimal ctx.author.id
  Platform.perform
    (.kick (← settle (guildOf ctx)) userId (some reason))
  ctx.acknowledge

/- The platform slows the channel down. -/
def slowing
    (ctx : Context)
    (order : Slowmode) : Program Unit := do
  let reason := "Requested by " ++ decimal ctx.author.id
  Platform.perform
    (.setSlowmode order.channelId order.seconds (some reason))
  ctx.acknowledge

/-
  A command heeds its tail: it acts on what is fit for it, or
  it refuses the tail and asks for nothing at all.
-/
def Heeds
    {α : Type}
    (act : α → Program Unit)
    (fits : α → Prop)
    (p : Program Unit) : Prop :=
  (∃ a, fits a ∧ p = act a) ∨
    ∃ detail, p = .fail (.usage detail)

/- A ban is of somebody else, whom the tail mentions first. -/
def FitsBan
    (ctx : Context)
    (tail : String)
    (order : BanOrder) : Prop :=
  Mention.user.Leads tail order.userId ∧
    order.userId ≠ ctx.author.id

/- So is the removal of a member. -/
def FitsKick
    (ctx : Context)
    (tail : String)
    (userId : Int) : Prop :=
  Mention.user.Leads tail userId ∧ userId ≠ ctx.author.id

/- A slow mode is of a channel and not too long. -/
def FitsSlowmode
    (tail : String)
    (order : Slowmode) : Prop :=
  Mention.channel.Leads tail order.channelId ∧
    0 ≤ order.seconds ∧ order.seconds ≤ 21600

/- To act is not to fail. -/
theorem imposing_ne_fail
    (order : BanOrder) :
    imposing ctx order ≠ .fail (.badValue "") := by
  unfold imposing guildOf
  cases ctx.guildId with
  | none => intro hFails; cases hFails
  | some guildId => intro hFails; cases hFails

theorem slowing_ne_fail
    (order : Slowmode) :
    slowing ctx order ≠ .fail (.badValue "") := by
  intro hFails
  cases hFails

/- What fails on a number does not heed its tail. -/
theorem heeds_iff_not
    {α : Type}
    {act : α → Program Unit}
    {fits : α → Prop}
    {p : Program Unit}
    {trips : Prop}
    (hActs : ∀ a, act a ≠ .fail (.badValue ""))
    (hFails : trips → p = .fail (.badValue ""))
    (hCases : trips ∨ Heeds act fits p) :
    Heeds act fits p ↔ ¬ trips := by
  constructor
  · rintro (⟨a, _, hAct⟩ | ⟨detail, hRefused⟩) hTrips
    · exact hActs a (hAct.symm.trans (hFails hTrips))
    · cases hRefused.symm.trans (hFails hTrips)
  · exact hCases.resolve_left

------------------------------------------------------------
-- Commands
------------------------------------------------------------

theorem ban_eq
    (ctx : Context)
    (tail : String) :
    ban ctx tail =
      (settle (readBan ctx.author.id tail)).bind (imposing ctx) :=
  rfl

theorem ban_of_trips
    (ctx : Context)
    (hTrips : BanOrder.Trips tail) :
    ban ctx tail = .fail (.badValue "") := by
  rw [ban_eq, readBan, BanOrder.read_of_trips hTrips]
  rfl

/- A ban trips over unreadable hours, or heeds its tail. -/
theorem ban_cases
    (ctx : Context)
    (tail : String) :
    BanOrder.Trips tail ∨
      Heeds (imposing ctx) (FitsBan ctx tail) (ban ctx tail) := by
  rcases BanOrder.read_cases tail with
    hTrips | ⟨detail, hRefused⟩ | ⟨order, hLeads, hRead⟩
  · exact Or.inl hTrips
  · refine Or.inr (Or.inr ⟨detail, ?_⟩)
    rw [ban_eq, readBan, hRefused]
    rfl
  · rcases userTarget_cases ctx.author.id (decimal order.userId)
      with ⟨detail, hRefused⟩ | ⟨id, hUser, hOther, hTarget⟩
    · refine Or.inr (Or.inr ⟨detail, ?_⟩)
      rw [ban_eq, readBan, hRead]
      exact congrArg
        (fun target : Except Cause Int =>
          (settle (target.bind fun _ => .ok order)).bind
            (imposing ctx)) hRefused
    · refine Or.inr (Or.inl ⟨order, ⟨hLeads, ?_⟩, ?_⟩)
      · -- The order names its user in its own digits once more.
        rcases hLeads with ⟨word, _, hMention⟩
        rcases Int.eq_ofNat_of_zero_le
          (Mention.nonneg_of_read? hMention) with ⟨n, hNat⟩
        rw [hNat] at hUser
        rw [hNat, ← Mention.eq_of_read?_decimal hUser]
        exact hOther
      · rw [ban_eq, readBan, hRead]
        exact congrArg
          (fun target : Except Cause Int =>
            (settle (target.bind fun _ => .ok order)).bind
              (imposing ctx)) hTarget

/- A removal heeds every tail with a word. -/
theorem kick_heeds
    (ctx : Context)
    (hWord : words tail.toList ≠ []) :
    Heeds (removing ctx) (FitsKick ctx tail) (kick ctx tail) := by
  cases hSplit : splitWord? tail.toList with
  | none =>
      rw [words_eq, hSplit] at hWord
      exact (hWord rfl).elim
  | some p =>
      rcases p with ⟨word, rest⟩
      have hFirst : (words tail.toList).head? = some word := by
        rw [words_eq, hSplit]
        rfl
      have hKick :
          kick ctx tail =
            (settle (userTarget ctx.author.id
              (String.ofList word))).bind (removing ctx) := by
        unfold kick Invocation.splitFirst
        rw [hSplit]
        rfl
      rw [hKick]
      rcases userTarget_cases ctx.author.id (String.ofList word)
        with ⟨detail, hRefused⟩ | ⟨id, hUser, hOther, hTarget⟩
      · rw [hRefused]
        exact Or.inr ⟨detail, rfl⟩
      · rw [hTarget]
        exact Or.inl ⟨id, ⟨⟨word, hFirst, hUser⟩, hOther⟩, rfl⟩

theorem slowmode_eq
    (ctx : Context)
    (tail : String) :
    slowmode ctx tail =
      (settle (Slowmode.read tail)).bind (slowing ctx) :=
  rfl

theorem slowmode_of_trips
    (ctx : Context)
    (hTrips : Slowmode.Trips tail) :
    slowmode ctx tail = .fail (.badValue "") := by
  rcases hTrips with
    ⟨word, ⟨channel, more, hWords, hChannel⟩, hUnreadable⟩
  rcases Option.isSome_iff_exists.mp hChannel with ⟨id, hChannel⟩
  rcases Slowmode.readSeconds_cases word with
    ⟨_, hSeconds⟩ | ⟨hReadable, _⟩
  · rw [slowmode_eq, Slowmode.read, hWords]
    simp only [channelTarget, hChannel, hSeconds]
    rfl
  · exact (hReadable hUnreadable).elim

/- A slow mode trips over unreadable seconds, or heeds its tail. -/
theorem slowmode_cases
    (ctx : Context)
    (hWords : 2 ≤ (words tail.toList).length) :
    Slowmode.Trips tail ∨
      Heeds (slowing ctx) (FitsSlowmode tail)
        (slowmode ctx tail) := by
  obtain ⟨channel, word, more, hSplit⟩ :
      ∃ channel word more,
        words tail.toList = channel :: word :: more := by
    match hSplit : words tail.toList with
    | [] => simp [hSplit] at hWords
    | [_] => simp [hSplit] at hWords
    | channel :: word :: more => exact ⟨channel, word, more, rfl⟩
  rw [slowmode_eq, Slowmode.read, hSplit]
  simp only [channelTarget]
  cases hChannel : Mention.channel.read? (String.ofList channel) with
  | none => exact Or.inr (Or.inr ⟨_, rfl⟩)
  | some id =>
      rcases Slowmode.readSeconds_cases word with
        ⟨hUnreadable, _⟩ | ⟨_, ⟨detail, hRefused⟩ |
          ⟨n, hLeast, hMost, hSeconds⟩⟩
      · exact Or.inl ⟨word,
          ⟨channel, more, hSplit, by rw [hChannel]; rfl⟩,
          hUnreadable⟩
      · simp only [hRefused]
        exact Or.inr (Or.inr ⟨detail, rfl⟩)
      · simp only [hSeconds]
        refine Or.inr (Or.inl ⟨⟨id, n⟩,
          ⟨⟨channel, by rw [hSplit]; rfl, hChannel⟩,
            hLeast, hMost⟩, rfl⟩)

/-
  The commands of moderators, given as many words as they
  need. A removal heeds every tail. A ban and a slow mode heed
  all but those whose hours or seconds are unreadable, and
  fail on these for their value.
-/
theorem heeds_iff
    (ctx : Context)
    (hWord : words tail.toList ≠ []) :
    ((Heeds (imposing ctx) (FitsBan ctx tail) (ban ctx tail) ↔
        ¬ BanOrder.Trips tail) ∧
      (BanOrder.Trips tail →
        ban ctx tail = .fail (.badValue ""))) ∧
    Heeds (removing ctx) (FitsKick ctx tail) (kick ctx tail) ∧
    (2 ≤ (words tail.toList).length →
      (Heeds (slowing ctx) (FitsSlowmode tail)
          (slowmode ctx tail) ↔
        ¬ Slowmode.Trips tail) ∧
      (Slowmode.Trips tail →
        slowmode ctx tail = .fail (.badValue ""))) := by
  refine ⟨⟨?_, ban_of_trips ctx⟩, kick_heeds ctx hWord,
    fun hWords => ⟨?_, slowmode_of_trips ctx⟩⟩
  · exact heeds_iff_not imposing_ne_fail (ban_of_trips ctx)
      (ban_cases ctx tail)
  · exact heeds_iff_not slowing_ne_fail (slowmode_of_trips ctx)
      (slowmode_cases ctx hWords)

/- Where a moderator calls a command. -/
def calledByModerator : Context where
  guildId := some 100
  channelId := 20
  author := ⟨4, "mod", false⟩
  messageId := some 10
  memberRoles := none
  keepsHistory := true
  mark := "?"

/- A superscript is a digit and no number. -/
theorem superscript_trips :
    words "381880193700069377 ²".toList ≠ [] ∧
      ban calledByModerator "381880193700069377 ²" =
        .fail (.badValue "") ∧
      slowmode calledByModerator "381880193700069377 ²" =
        .fail (.badValue "") := by
  have hWord : words "381880193700069377 ²".toList ≠ [] := by
    decide
  have hUnreadable : IsUnreadable ['²'] := by decide
  have hCut :
      IsCut (trim "381880193700069377 ²".toList)
        "381880193700069377".toList ['²'] :=
    (splitWord?_eq_some_iff (startsFilled_trim _)).mp (by decide)
  have hHours : BanOrder.Trips "381880193700069377 ²" :=
    ⟨['²'],
      ⟨_, _, [], hCut, by decide, by simp, by decide, by simp⟩,
      hUnreadable⟩
  have hSeconds : Slowmode.Trips "381880193700069377 ²" :=
    ⟨['²'],
      ⟨"381880193700069377".toList, [], by decide, by decide⟩,
      hUnreadable⟩
  have hHeeds := heeds_iff calledByModerator hWord
  exact ⟨hWord, hHeeds.1.2 hHours,
    (hHeeds.2.2 (by decide)).2 hSeconds⟩

end Command.Moderation

end GuildWarden
