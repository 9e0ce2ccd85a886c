import GuildWarden.Proofs.Chat.Mention
import GuildWarden.Proofs.Moderation.Ledger
import GuildWarden.Proofs.Moderation.Notice
import GuildWarden.Proofs.Store.Faultless

/-
  This file says when a ban for some hours that took effect is
  also recorded. An order that was read may name a user by
  more digits than the store has room for, and may be for any
  number of hours. Without a fault the ban is recorded if its
  numbers have 64 bits, and otherwise the user stays banned
  while nothing is stored.

  Main statements:
    * `BanOrder.nonneg_of_read`
    * `Ban.performs_impose_of_read`
-/

namespace GuildWarden

open Program

/- The user of an order that was read has no negative id. -/
theorem BanOrder.nonneg_of_read
    {tail : String}
    {order : BanOrder}
    (hRead : BanOrder.read tail = .ok order) :
    0 ≤ order.userId := by
  unfold BanOrder.read at hRead
  split at hRead
  · cases hRead
  · rename_i word rest _
    simp only at hRead
    split at hRead
    · cases hRead
    · rename_i userId hMention
      cases hTerms : readTerms (Text.trim rest) with
      | error cause =>
          rw [hTerms] at hRead
          cases hRead
      | ok terms =>
          rw [hTerms] at hRead
          cases hRead
          exact Mention.nonneg_of_read? hMention

namespace Ban

variable {g : Int}
variable {order : BanOrder}
variable {w later : Shared}
variable {trace : List Exchange}

/- Nobody is banned by the delivery of a notice. -/
theorem Delivers.not_mem_banCall
    {ended : Except Cause Unit}
    {answer : Except Cause Payload}
    (hDelivers : Delivers order trace ended) :
    .asked (banCall g order) answer ∉ trace := by
  intro hMember
  cases hDelivers with
  | unreachable cause => cases List.mem_singleton.mp hMember
  | nameless hNameless => cases List.mem_singleton.mp hMember
  | unsent hNamed cause =>
      rcases List.mem_cons.mp hMember with hSame | hLast
      · cases hSame
      · cases List.mem_singleton.mp hLast
  | sent hNamed message =>
      rcases List.mem_cons.mp hMember with hSame | hLast
      · cases hSame
      · cases List.mem_singleton.mp hLast

/-
  Whether the store has room for a ban: its columns have 64
  bits.
-/
def HasRoom
    (order : BanOrder)
    (unbanAt : Int) : Prop :=
  order.userId ≤ 9223372036854775807 ∧
    Store.Statement.fits unbanAt = true

instance
    {unbanAt : Int} :
    Decidable (HasRoom order unbanAt) :=
  inferInstanceAs (Decidable (_ ∧ _))

/- A ban is put in the store if there is room for it. -/
theorem execute_putBan
    {t : Store.Tables}
    (now : Rat)
    (hTable : t.has .bans = true)
    (hGuild : Store.Statement.fits g = true)
    (hUser : 0 ≤ order.userId) :
    (Store.Statement.putBan (rowAt g order now)).execute t =
      if HasRoom order (rowAt g order now).unbanAt then
        .ok ((), { t with
          bans :=
            Store.putRow Store.BanRow.sameUser
              (rowAt g order now) t.bans })
      else .error .outOfRange := by
  have hFits :
      Store.Statement.fits order.userId =
        decide (order.userId ≤ 9223372036854775807) := by
    rw [Store.Statement.fits]
    grind
  have hNumbers :
      (Store.Statement.putBan (rowAt g order now)).numbers.all
          Store.Statement.fits = true ↔
        HasRoom order (rowAt g order now).unbanAt := by
    simp [Store.Statement.numbers, rowAt, hGuild, hFits,
      HasRoom]
  have hThere :
      (Store.Statement.putBan (rowAt g order now)).lacksTable
          t = false := by
    simp [Store.Statement.lacksTable, Store.Statement.table?,
      hTable]
  unfold Store.Statement.execute
  rw [hThere]
  by_cases hRoom :
      HasRoom order (rowAt g order now).unbanAt
  · rw [if_pos hRoom, hNumbers.mpr hRoom]
    rfl
  · have hFull :=
      eq_false_of_ne_true fun hFit => hRoom (hNumbers.mp hFit)
    rw [if_neg hRoom, hFull]
    rfl

/- What follows a ban that took effect at a time. -/
def RecordsAt
    (g : Int)
    (order : BanOrder)
    (now : Rat)
    (w : Shared)
    (result : Except Cause (Option Int))
    (later : Shared) : Prop :=
  (HasRoom order (rowAt g order now).unbanAt ∧
    result = .ok (some (rowAt g order now).unbanAt) ∧
      later.store.current.bans =
        Store.putRow Store.BanRow.sameUser
          (rowAt g order now) w.store.current.bans) ∨
  (¬ HasRoom order (rowAt g order now).unbanAt ∧
    result = .error .outOfRange ∧ later.store = w.store)

/- The end of a ban is stored if there is room for it. -/
theorem recordsAt_of_recording
    {result : Except Cause (Option Int)}
    (hHours : 0 < order.hours)
    (hUser : 0 ≤ order.userId)
    (hGuild : Store.Statement.fits g = true)
    (hTable : w.store.current.has .bans = true)
    (hRest : w.IsAtRest)
    (hFaultless : IsFaultless w.store.current trace)
    (hPerforms :
      Performs w (recording g order) trace result later) :
    .asked .now (.ok w.clock) ∈ trace ∧
      RecordsAt g order w.clock w result later := by
  have hExecute :=
    execute_putBan w.clock hTable hGuild hUser
  rw [recording, if_neg (Int.not_le.mpr hHours)] at hPerforms
  rcases performs_bind_iff.mp hPerforms with
    ⟨_, rfl, hFail⟩ |
      ⟨clock, now, after, timed, rfl, hClock, hStore⟩
  · cases (performs_clockSeconds hFail).2.1
  rcases performs_clockSeconds hClock with
    ⟨rfl, hSeconds, rfl⟩
  cases hSeconds
  refine ⟨by simp, ?_⟩
  change
    Performs timed
      ((Store.transaction
        (Store.execute
          (.putBan (rowAt g order timed.clock)))).bind fun _ =>
        .done (some (rowAt g order timed.clock).unbanAt))
      after result later at hStore
  rcases performs_bind_iff.mp hStore with
    ⟨cause, rfl, hFail⟩ |
      ⟨put, _, ending, stored, rfl, hPut, hDone⟩
  · rcases performs_transaction_of_faultless (by simp) hRest
      (hFaultless.of_subset (by simp)) hFail with
      ⟨_, _, _, hOk, _⟩ | ⟨_, hRefused, hSame, rfl⟩
    · cases hOk
    · cases hSame
      rw [hExecute] at hRefused
      split at hRefused
      · cases hRefused
      · rename_i hFull
        cases hRefused
        exact Or.inr ⟨hFull, rfl, rfl⟩
  · rcases performs_done_iff.mp hDone with ⟨rfl, rfl, rfl⟩
    rcases performs_transaction_of_faultless (by simp) hRest
      (hFaultless.of_subset (by simp)) hPut with
      ⟨_, _, hStored, _, rfl⟩ | ⟨_, _, hFailed, _⟩
    · rw [hExecute] at hStored
      split at hStored
      · rename_i hRoom
        cases hStored
        exact Or.inl ⟨hRoom, rfl, rfl⟩
      · cases hStored
    · cases hFailed

/-
  A ban for some hours that took effect is recorded with its
  end exactly if there is room for it; otherwise the user is
  banned and nothing is stored.
-/
theorem performs_impose_of_read
    {tail : String}
    {answer : Payload}
    {result : Except Cause (Option Int)}
    (hRead : BanOrder.read tail = .ok order)
    (hHours : 0 < order.hours)
    (hGuild : Store.Statement.fits g = true)
    (hTable : w.store.current.has .bans = true)
    (hRest : w.IsAtRest)
    (hPerforms :
      Performs w (impose g order) trace result later)
    (hBanned : .asked (banCall g order) (.ok answer) ∈ trace)
    (hFaultless : IsFaultless w.store.current trace) :
    ∃ now, .asked .now (.ok now) ∈ trace ∧
      RecordsAt g order now w result later := by
  rw [impose_eq] at hPerforms
  rcases performs_bind_iff.mp hPerforms with
    ⟨cause, rfl, hFail⟩ |
      ⟨notice, _, after, noticed, rfl, hNotice, hBan⟩
  · rcases runs_sendNotice_iff.mp hFail.runs with
      ⟨_, hDelivers, _⟩
    exact absurd hBanned hDelivers.not_mem_banCall
  rcases runs_sendNotice_iff.mp hNotice.runs with
    ⟨_, hDelivers, _⟩
  have hNoticed :=
    eq_of_calls (requests_sendNotice order) hNotice
  cases hBan with
  | @ask _ banned _ _ banAnswer _ rest _ hServes hRecording =>
  rcases hServes with ⟨tick, _, hSame⟩
  cases banAnswer with
  | error cause =>
      rcases performs_fail_iff.mp hRecording with ⟨rfl, _, _⟩
      rcases List.mem_append.mp hBanned with hEarly | hLate
      · exact absurd hEarly hDelivers.not_mem_banCall
      · cases List.mem_singleton.mp hLate
  | ok accepted =>
      have hStore : banned.store = w.store := by
        rw [hSame, hNoticed]
      have hAtRest : banned.IsAtRest := by
        rw [hSame, hNoticed]
        exact ⟨hRest.free, hRest.settled⟩
      rw [← hStore] at hTable hFaultless
      rcases recordsAt_of_recording hHours
        (BanOrder.nonneg_of_read hRead) hGuild hTable hAtRest
        (hFaultless.of_subset (by simp)) hRecording with
        ⟨hNow, hRecords⟩
      rw [RecordsAt, hStore] at hRecords
      exact ⟨banned.clock, by simp [hNow], hRecords⟩

------------------------------------------------------------
-- A Ban That Is Not Recorded
------------------------------------------------------------

/- A ban whose end has more than 64 bits. -/
def ages : BanOrder :=
  ⟨80351110224678912, 9999999999999999, "spam"⟩

/- What happens when a user who cannot be told is banned so. -/
def unrecorded : List Exchange :=
  [.asked (channelCall ages) (.error (.refused 403)),
    .asked (banCall 100 ages) (.ok .null),
    .asked .now (.ok (0 : Rat)),
    .asked .reachStore (.ok ()),
    .asked .lockStore (.ok ()),
    .asked (.statement (.putBan (rowAt 100 ages 0)))
      (.error .outOfRange),
    .asked .rollback (.ok ()),
    .asked .unlockStore (.ok ())]

theorem performs_unrecorded :
    Performs unbanned (impose 100 ages) unrecorded
      (.error .outOfRange) unbanned := by
  refine .ask ⟨0, Rat.le_refl, rfl⟩ ?_
  refine .ask ⟨0, Rat.le_refl, rfl⟩ ?_
  refine .ask ⟨rfl, rfl⟩ ?_
  refine .ask ⟨rfl, rfl⟩ ?_
  refine .ask ⟨rfl, rfl, rfl⟩ ?_
  refine .ask ⟨by simp, rfl⟩ ?_
  refine .ask ⟨rfl, rfl⟩ ?_
  refine .ask ⟨rfl, rfl⟩ ?_
  exact .fail _ _

theorem isFaultless_unrecorded :
    IsFaultless unbanned.store.current unrecorded where
  statements := by
    intro s cause hMember
    simp only [unrecorded, List.mem_cons, List.not_mem_nil,
      or_false] at hMember
    rcases hMember with h | h | h | h | h | h | h | h
    case inr.inr.inr.inr.inr.inl =>
      cases h
      rfl
    all_goals cases h
  commits := by
    intro cause hMember
    simp only [unrecorded, List.mem_cons, List.not_mem_nil,
      or_false] at hMember
    rcases hMember with h | h | h | h | h | h | h | h
    all_goals cases h

/- The user is banned, and no end of the ban is stored. -/
theorem ages_unrecorded :
    BanOrder.read "80351110224678912 9999999999999999 spam" =
        .ok ages ∧
      .asked (banCall 100 ages) (.ok .null) ∈ unrecorded ∧
        ∃ now, .asked .now (.ok now) ∈ unrecorded ∧
          RecordsAt 100 ages now unbanned (.error .outOfRange)
            unbanned := by
  have hRead :
      BanOrder.read
          "80351110224678912 9999999999999999 spam" =
        .ok ages :=
    rfl
  have hBanned :
      .asked (banCall 100 ages) (.ok .null) ∈ unrecorded := by
    simp [unrecorded]
  exact ⟨hRead, hBanned,
    performs_impose_of_read hRead (by decide) (by decide) rfl
      ⟨rfl, rfl⟩ performs_unrecorded hBanned
      isFaultless_unrecorded⟩

end Ban

end GuildWarden
