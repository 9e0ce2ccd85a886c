import GuildWarden.Command.Tags
import GuildWarden.Proofs.Command.Reporting

/-
  This file says which keys the listing of a guild shows. They
  are the longest prefix of the keys that fits into the room
  for them, each whole and on a line of its own. With its
  header and its closing fence the listing always fits into
  one message, so it is sent as it is.

  Key definitions include:
    * `Tag.room`
    * `Tag.lines`
    * `Tag.IsLongest`

  Main statements:
    * `Tag.exists_isLongest`
    * `Tag.length_listing_le`
    * `Tag.carries_answer`
    * `Tag.listing_shows_longest`
    * `Tag.overlong_key_ends_listing`
-/

namespace GuildWarden.Tag

open Program

------------------------------------------------------------
-- Lines
------------------------------------------------------------

/- The characters of keys that stand on a line each. -/
def room : List String → Nat
  | [] => 0
  | key :: keys => key.length + 1 + room keys

/- Keys on a line each. -/
def lines
    (keys : List String) : String :=
  String.join (keys.map (· ++ "\n"))

/- Some keys are the longest prefix of others that has room. -/
structure IsLongest
    (limit : Nat)
    (keys listed : List String) : Prop where
  leading : listed <+: keys
  fits : room listed ≤ limit
  longest :
    ∀ other, other <+: keys → room other ≤ limit →
      other <+: listed

variable {key : String}
variable {keys listed : List String}
variable {limit used : Nat}

theorem room_cons :
    room (key :: keys) = key.length + 1 + room keys :=
  rfl

theorem lines_cons :
    lines (key :: keys) = key ++ "\n" ++ lines keys := by
  simp [lines]

theorem length_lines :
    (lines keys).length = room keys := by
  induction keys with
  | nil => rfl
  | cons key keys hInduction =>
      have hBreak : "\n".length = 1 := rfl
      rw [lines_cons, room_cons, String.length_append,
        String.length_append, hInduction, hBreak]

------------------------------------------------------------
-- The Longest Prefix
------------------------------------------------------------

namespace IsLongest

theorem nil :
    IsLongest limit [] [] where
  leading := List.nil_prefix
  fits := Nat.zero_le _
  longest := fun _ hLeading _ => hLeading

/- A key without room for it ends the list, whatever follows. -/
theorem stop
    (hLong : limit < key.length + 1) :
    IsLongest limit (key :: keys) [] where
  leading := List.nil_prefix
  fits := Nat.zero_le _
  longest := by
    intro other hLeading hRoom
    rcases List.prefix_cons_iff.mp hLeading with
      rfl | ⟨rest, rfl, _⟩
    · exact List.nil_prefix
    · rw [room_cons] at hRoom
      omega

/- A key with room for it leaves the rest of the room. -/
theorem cons
    (hShort : key.length + 1 ≤ limit)
    (hRest : IsLongest (limit - (key.length + 1)) keys listed) :
    IsLongest limit (key :: keys) (key :: listed) where
  leading := List.cons_prefix_cons.mpr ⟨rfl, hRest.leading⟩
  fits := by
    have hFits := hRest.fits
    rw [room_cons]
    omega
  longest := by
    intro other hLeading hRoom
    rcases List.prefix_cons_iff.mp hLeading with
      rfl | ⟨rest, rfl, hLater⟩
    · exact List.nil_prefix
    · rw [room_cons] at hRoom
      have hLonger := hRest.longest rest hLater (by omega)
      exact List.cons_prefix_cons.mpr ⟨rfl, hLonger⟩

/- There is one longest prefix. -/
theorem unique
    {other : List String}
    (hFirst : IsLongest limit keys listed)
    (hSecond : IsLongest limit keys other) :
    listed = other := by
  have hForth := hSecond.longest _ hFirst.leading hFirst.fits
  have hBack := hFirst.longest _ hSecond.leading hSecond.fits
  exact hForth.eq_of_length
    (Nat.le_antisymm hForth.length_le hBack.length_le)

end IsLongest

/-
  The keys are gone through one by one, with what is used of
  the room so far: what is left of it is the limit for the
  keys that are left.
-/
theorem exists_isLongest
    (keys : List String)
    (hUsed : used ≤ listingBudget) :
    ∃ listed, IsLongest (listingBudget - used) keys listed ∧
      String.ofList (listedFrom used keys) = lines listed := by
  induction keys generalizing used with
  | nil => exact ⟨[], .nil, rfl⟩
  | cons key keys hInduction =>
      by_cases hLong : used + key.length + 1 > listingBudget
      · refine ⟨[], .stop (by omega), ?_⟩
        rw [listedFrom, if_pos hLong]
        rfl
      · have hNow : used + key.length + 1 ≤ listingBudget := by
          omega
        rcases hInduction hNow with ⟨listed, hLongest, hLines⟩
        have hLeft :
            listingBudget - (used + key.length + 1) =
              listingBudget - used - (key.length + 1) := by
          omega
        rw [hLeft] at hLongest
        refine ⟨key :: listed, .cons (by omega) hLongest, ?_⟩
        rw [listedFrom, if_neg hLong, lines_cons, ← hLines,
          ← String.toList_inj]
        simp

/- The listing of some keys shows their longest prefix. -/
theorem exists_listing_eq
    (keys : List String) :
    ∃ listed, IsLongest 1980 keys listed ∧
      listing keys =
        "All tags: ```\n" ++ lines listed ++ "```" := by
  rcases exists_isLongest keys (Nat.zero_le listingBudget) with
    ⟨listed, hLongest, hLines⟩
  refine ⟨listed, hLongest, ?_⟩
  rw [listing, hLines]

theorem length_listing_le
    (keys : List String) :
    (listing keys).length ≤ 1997 := by
  rcases exists_listing_eq keys with ⟨listed, hLongest, hSame⟩
  have hFits := hLongest.fits
  have hHeader : "All tags: ```\n".length = 14 := rfl
  have hFence : "```".length = 3 := rfl
  rw [hSame, String.length_append, String.length_append,
    length_lines, hHeader, hFence]
  omega

------------------------------------------------------------
-- The Command
------------------------------------------------------------

variable {ctx : Command.Context}
variable {tail : String}
variable {guildId : Int}
variable {trace : List Exchange}

/- The keys of a guild are asked of the store alone. -/
theorem only_keys
    (guildId : Int) :
    (Tag.keys guildId).Only fun r =>
      ∀ call, r ≠ .platform call := by
  refine Only.handling ?_ fun _ => trivial
  exact (Only.request (r := .reachStore) (by simp)).bind fun _ =>
    Only.request (r := .statement _) (by simp)

/- The keys of a guild are what the store answers in the end. -/
theorem trace_of_runs_keys
    (hRuns : Runs (Tag.keys guildId) trace (.ok keys)) :
    ∃ reached,
      trace =
        [.asked .reachStore reached,
          .asked (.statement (.tagKeys guildId)) (.ok keys)] := by
  rcases runs_handling_ok hRuns with
    hRead | ⟨_, _, _, _, _, hFail⟩
  · rcases runs_bind_ok_iff.mp hRead with
      ⟨before, reached, after, rfl, hReach, hAnswer⟩
    rw [runs_request_iff.mp hReach, runs_request_iff.mp hAnswer]
    exact ⟨_, rfl⟩
  · cases hFail

/- What the command says about the keys of a guild. -/
def answer
    (keys : List String) : String :=
  if keys.isEmpty then "No tags found" else listing keys

theorem length_answer_le
    (keys : List String) :
    (answer keys).length ≤ 2000 := by
  unfold answer
  split
  · decide
  · have hListing := length_listing_le keys
    omega

/-
  Every message of the command carries what is said about the
  keys that the store has answered, and nothing else.
-/
theorem carries_answer
    {result : Except Cause Unit}
    {call : Platform.Call}
    {reply : Except Cause Payload}
    (hRuns : Runs (Command.Tags.list ctx tail) trace result)
    (hKeys :
      .asked (.statement (.tagKeys guildId)) (.ok keys) ∈ trace)
    (hCall : .asked (.platform call) reply ∈ trace) :
    call.Carries ctx.channelId (answer keys) := by
  unfold Command.Tags.list at hRuns
  rcases runs_bind_iff.mp hRuns with
    ⟨_, _, hNowhere⟩ | ⟨none, place, rest, hSplit, hPlace, hRest⟩
  · rcases runs_settle_iff.mp hNowhere with ⟨rfl, _⟩
    cases hCall
  rcases runs_settle_iff.mp hPlace with ⟨rfl, _⟩
  rw [List.nil_append] at hSplit
  subst hSplit
  rcases runs_bind_iff.mp hRest with
    ⟨_, _, hFail⟩ | ⟨before, known, after, rfl, hRead, hSay⟩
  · exact ((only_keys place).of_runs hFail _ _ hCall call rfl).elim
  have hOnly :=
    (Command.Context.only_say_of_fits (c := ctx)
      (length_answer_le known)).of_runs hSay
  have hSame : keys = known := by
    rcases trace_of_runs_keys hRead with ⟨reached, rfl⟩
    rcases List.mem_append.mp hKeys with hEarly | hLate
    · rcases List.mem_cons.mp hEarly with hReach | hLast
      · cases hReach
      · cases List.mem_singleton.mp hLast
        rfl
    · rcases hOnly _ _ hLate with hNow | ⟨_, hOther, _⟩
      · cases hNow
      · cases hOther
  rcases List.mem_append.mp hCall with hEarly | hLate
  · exact ((only_keys place).of_runs hRead _ _ hEarly call rfl).elim
  · rcases hOnly _ _ hLate with hNow | ⟨_, hThis, hCarries⟩
    · cases hNow
    · cases hThis
      rw [hSame]
      exact hCarries

/-
  The listing of keys is their longest prefix that has room in
  1980 characters, a line for each key, between the header and
  the closing fence. It has at most 1997 characters, and what
  the command sends for these keys is the listing, uncut.
-/
theorem listing_shows_longest
    (keys : List String) :
    (∃ listed, IsLongest 1980 keys listed ∧
      listing keys =
        "All tags: ```\n" ++ lines listed ++ "```") ∧
    (listing keys).length ≤ 1997 ∧
    Message.truncate (listing keys) Message.maxLength =
      listing keys ∧
    ∀ ctx tail trace result guildId call reply,
      Runs (Command.Tags.list ctx tail) trace result →
        .asked (.statement (.tagKeys guildId)) (.ok keys) ∈
            trace →
          .asked (.platform call) reply ∈ trace →
            call.Carries ctx.channelId
              (if keys.isEmpty then "No tags found"
                else listing keys) := by
  have hLength := length_listing_le keys
  refine ⟨exists_listing_eq keys, hLength,
    Platform.truncate_of_fits (by omega), ?_⟩
  intro ctx tail trace result guildId call reply hRuns hKeys hCall
  exact carries_answer hRuns hKeys hCall

------------------------------------------------------------
-- A Key Without Room
------------------------------------------------------------

/- A key that is longer than all keys together may be. -/
def overlong : String :=
  String.ofList (List.replicate 1980 'x')

/- Keys of which the second one has no room. -/
def shelved : List String :=
  ["rules", overlong, "faq"]

theorem isLongest_shelved :
    IsLongest 1980 shelved ["rules"] := by
  have hShort : "rules".length = 5 := rfl
  have hLong : overlong.length = 1980 := by
    unfold overlong
    rw [String.length_ofList, List.length_replicate]
  refine .cons (by omega) (.stop ?_)
  rw [hShort, hLong]
  omega

/- Who asks for the keys, and where. -/
def asker : Command.Context where
  guildId := some 100
  channelId := 20
  author := ⟨1, "member", false⟩
  messageId := none
  memberRoles := none
  keepsHistory := false
  mark := "?"

/- A run in which the store answers with these keys. -/
def listingRun : List Exchange :=
  [
    .asked .reachStore (.ok ()),
    .asked (.statement (.tagKeys 100)) (.ok shelved),
    .asked
      (.platform
        (.sendMessage 20
          (some (.text (Message.truncate (listing shelved) 2000)))
          none))
      (.ok .null)
  ]

theorem runs_listingRun :
    Runs (Command.Tags.list asker "") listingRun (.ok ()) :=
  .ask (r := .reachStore) (.ok ())
    (.ask (r := .statement (.tagKeys 100)) (.ok shelved)
      (.ask (r := .platform _) (.ok .null) (.done ())))

/-
  A key without room ends the listing, even where a later one
  would fit, and what is left is sent whole.
-/
theorem overlong_key_ends_listing :
    listing shelved = "All tags: ```\nrules\n```" ∧
      ∃ content,
        .asked (.platform (.sendMessage 20 content none))
            (.ok .null) ∈ listingRun ∧
          content = some (.text "All tags: ```\nrules\n```") := by
  rcases listing_shows_longest shelved with
    ⟨⟨listed, hLongest, hSame⟩, _, _, hSent⟩
  rw [hLongest.unique isLongest_shelved] at hSame
  refine ⟨hSame, _, List.mem_of_getLast? rfl, ?_⟩
  rcases hSent asker "" listingRun (.ok ()) 100 _ _ runs_listingRun
      (List.mem_cons_of_mem _ List.mem_cons_self)
      (List.mem_of_getLast? rfl) with ⟨_, hCarried, _⟩
  rw [hCarried]
  exact congrArg _ (congrArg _ hSame)

end GuildWarden.Tag
