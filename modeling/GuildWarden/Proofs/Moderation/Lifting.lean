import GuildWarden.Proofs.Moderation.Trace
import GuildWarden.Proofs.Store.Atomicity

/-
  This file says what a ban, its forgetting and the lifting of
  bans leave in the store, whatever the platform answers and
  although the store may refuse a statement.

  Key definitions include:
    * `Ban.LiftsRows`

  Main statements:
    * `Ban.performs_impose`
    * `Ban.performs_forget`
    * `Ban.performs_liftExpired`
-/

namespace GuildWarden.Ban

open Program

------------------------------------------------------------
-- Bans
------------------------------------------------------------

variable {g u : Int}
variable {order : BanOrder}
variable {w later : Shared}
variable {trace : List Exchange}

/- A notice consists of calls to the platform. -/
theorem requests_sendNotice
    (order : BanOrder) :
    (sendNotice order).Requests IsCall :=
  Requests.handling
    (Requests.bind (requests_sendDirectMessage _ _)
      fun _ => trivial)
    fun _ => trivial

/- The clock is read in whole seconds. -/
theorem performs_clockSeconds
    {result : Except Cause Int}
    (hPerforms :
      Performs w clockSeconds trace result later) :
    trace = [.asked .now (.ok w.clock)] ∧
      result = .ok w.clock.floor ∧ later = w := by
  cases hPerforms with
  | ask hNow hDone =>
  rcases hNow with ⟨rfl, rfl⟩
  rcases performs_done_iff.mp hDone with ⟨rfl, rfl, rfl⟩
  exact ⟨rfl, rfl, rfl⟩

/-
  A ban that succeeds leaves the store as it was, or puts its
  end there if it is for some hours.
-/
theorem performs_impose
    {stored : Option Int}
    (hRest : w.IsAtRest)
    (hPerforms :
      Performs w (impose g order) trace (.ok stored) later) :
    later.IsAtRest ∧
      ((order.hours ≤ 0 ∧ later.store = w.store) ∨
        ∃ now, 0 < order.hours ∧
          .asked .now (.ok now) ∈ trace ∧
            later.store.current.bans =
              Store.putRow Store.BanRow.sameUser
                (rowAt g order now)
                w.store.current.bans) := by
  rcases performs_bind_ok_iff.mp hPerforms with
    ⟨notice, _, after, noticed, rfl, hNotice, hPerforms⟩
  have hNoticed :=
    eq_of_calls (requests_sendNotice order) hNotice
  rcases performs_bind_ok_iff.mp hPerforms with
    ⟨calls, _, after, banned, rfl, hBan, hPerforms⟩
  have hBanned := eq_of_calls (requests_perform _) hBan
  have hStore : banned.store = w.store := by
    rw [hBanned, hNoticed]
  have hAtRest : banned.IsAtRest := by
    rw [hBanned, hNoticed]
    exact ⟨hRest.free, hRest.settled⟩
  by_cases hHours : order.hours ≤ 0
  · simp only [hHours, if_true] at hPerforms
    rcases performs_done_iff.mp hPerforms with ⟨_, _, rfl⟩
    exact ⟨hAtRest, Or.inl ⟨hHours, hStore⟩⟩
  · simp only [hHours, if_false] at hPerforms
    rcases performs_bind_ok_iff.mp hPerforms with
      ⟨clock, now, after, timed, rfl, hClock, hPerforms⟩
    rcases performs_clockSeconds hClock with
      ⟨rfl, hSeconds, hSame⟩
    cases hSeconds
    rw [hSame] at hPerforms
    rcases performs_bind_ok_iff.mp hPerforms with
      ⟨put, _, after, _, rfl, hPut, hDone⟩
    rcases performs_done_iff.mp hDone with ⟨rfl, _, rfl⟩
    rcases performs_transaction_execute (by simp) hAtRest
      hPut with
      ⟨_, stored, _, _, hRun, rfl⟩ | ⟨_, hFailed, _⟩
    · refine ⟨⟨hAtRest.free, rfl⟩, Or.inr
        ⟨banned.clock, Int.not_le.mp hHours, by simp, ?_⟩⟩
      rw [← hStore]
      exact Store.Connection.bans_of_run hRun
    · cases hFailed

/- Forgetting removes the row of a user, or fails. -/
theorem performs_forget
    {result : Except Cause Bool}
    (hRest : w.IsAtRest)
    (hPerforms :
      Performs w (forget g u) trace result later) :
    later.IsAtRest ∧
      ((∃ dropped, result = .ok dropped ∧
          later.store.current.bans =
            w.store.current.bans.filter fun r =>
              !(r.guildId == g && r.userId == u)) ∨
        (∃ cause, result = .error cause ∧ later = w)) := by
  rcases performs_transaction_execute (by simp) hRest
    hPerforms with
    ⟨dropped, after, rfl, _, hRun, rfl⟩ | ⟨cause, rfl, _, rfl⟩
  · exact ⟨⟨hRest.free, rfl⟩, Or.inl
      ⟨dropped, rfl, Store.Connection.bans_of_run hRun⟩⟩
  · exact ⟨hRest, Or.inr ⟨cause, rfl, rfl⟩⟩

------------------------------------------------------------
-- Lifting
------------------------------------------------------------

/- The call by which the ban of a row is lifted. -/
def liftCall
    (row : Store.BanRow) : Request :=
  .platform
    (.unban row.guildId row.userId
      (some "Ban duration expired."))

/- Lifting is one call, until which time passes. -/
theorem performs_lift
    {row : Store.BanRow}
    {result : Except Cause Lift}
    (hPerforms : Performs w (lift row) trace result later) :
    (∃ answer, trace = [.asked (liftCall row) answer]) ∧
      later = { w with clock := later.clock } := by
  refine ⟨?_, eq_of_calls (p := lift row) ?_ hPerforms⟩
  · cases hPerforms with
    | @ask _ _ _ _ answer _ _ _ _ hNext =>
    refine ⟨answer, ?_⟩
    congr 1
    cases answer with
    | ok a => exact (performs_done_iff.mp hNext).1
    | error cause =>
        simp only [Program.settle, Program.bind,
          Program.attempt] at hNext
        split at hNext
        · exact (performs_done_iff.mp hNext).1
        · exact (performs_fail_iff.mp hNext).1
  · exact Requests.handling
      (Requests.bind (requests_perform _) fun _ => trivial)
      fun _ => trivial

/-
  What it comes to that the bans of some rows are lifted; all
  of them are if it is finished.
-/
structure LiftsRows
    (rows : List Store.BanRow)
    (isFinished : Prop)
    (w : Shared)
    (trace : List Exchange)
    (later : Shared) : Prop where
  rest : later.IsAtRest
  kept :
    ∀ row ∈ later.store.current.bans,
      row ∈ w.store.current.bans
  called :
    ∀ g u reason answer,
      .asked (.platform (.unban g u reason)) answer ∈ trace →
        ∃ row ∈ rows, row.guildId = g ∧ row.userId = u
  complete :
    isFinished → ∀ row ∈ rows,
      ∃ answer, .asked (liftCall row) answer ∈ trace

namespace LiftsRows

variable {rows others : List Store.BanRow}
variable {between : Shared}
variable {after : List Exchange}
variable {isDone isFinished : Prop}

theorem append
    (hFirst : LiftsRows rows isDone w trace between)
    (hRest : LiftsRows others isFinished between after later) :
    LiftsRows (rows ++ others) (isDone ∧ isFinished) w
      (trace ++ after) later where
  rest := hRest.rest
  kept := by
    intro row hMember
    exact hFirst.kept row (hRest.kept row hMember)
  called := by
    intro g u reason answer hMember
    rcases List.mem_append.mp hMember with hEarly | hLate
    · rcases hFirst.called g u reason answer hEarly with
        ⟨row, hRow, hUser⟩
      exact ⟨row, List.mem_append_left _ hRow, hUser⟩
    · rcases hRest.called g u reason answer hLate with
        ⟨row, hRow, hUser⟩
      exact ⟨row, List.mem_append_right _ hRow, hUser⟩
  complete := by
    rintro ⟨hDone, hFinished⟩ row hRow
    rcases List.mem_append.mp hRow with hEarly | hLate
    · rcases hFirst.complete hDone row hEarly with
        ⟨answer, hCall⟩
      exact ⟨answer, List.mem_append_left _ hCall⟩
    · rcases hRest.complete hFinished row hLate with
        ⟨answer, hCall⟩
      exact ⟨answer, List.mem_append_right _ hCall⟩

/- The lifting of some rows that ends early. -/
theorem early
    (hLifts : LiftsRows rows isDone w trace later)
    (hSubset : rows ⊆ others)
    (hEarly : ¬ isFinished) :
    LiftsRows others isFinished w trace later where
  rest := hLifts.rest
  kept := hLifts.kept
  called := by
    intro g u reason answer hMember
    rcases hLifts.called g u reason answer hMember with
      ⟨row, hRow, hUser⟩
    exact ⟨row, hSubset hRow, hUser⟩
  complete := by
    intro hFinished
    exact absurd hFinished hEarly

theorem finish
    (hLifts : LiftsRows rows isDone w trace later)
    (hDone : isFinished → isDone) :
    LiftsRows rows isFinished w trace later :=
  { hLifts with
    complete := fun hFinished =>
      hLifts.complete (hDone hFinished) }

/- Without a call no ban is lifted. -/
theorem quiet
    (hRest : later.IsAtRest)
    (hKept :
      ∀ row ∈ later.store.current.bans,
        row ∈ w.store.current.bans)
    (hQuiet :
      ∀ call answer, .asked (.platform call) answer ∉ trace) :
    LiftsRows [] isFinished w trace later where
  rest := hRest
  kept := hKept
  called := by
    intro g u reason answer hMember
    exact absurd hMember (hQuiet _ answer)
  complete := by simp

/- The ban of a row is lifted by one call. -/
theorem of_lift
    {row : Store.BanRow}
    {result : Except Cause Lift}
    (hRest : w.IsAtRest)
    (hPerforms : Performs w (lift row) trace result later) :
    LiftsRows [row] True w trace later := by
  rcases performs_lift hPerforms with
    ⟨⟨answer, rfl⟩, hSame⟩
  rw [hSame]
  refine ⟨⟨hRest.free, hRest.settled⟩,
    fun _ hMember => hMember, ?_, ?_⟩
  · intro g u reason answer' hMember
    cases List.mem_singleton.mp hMember
    exact ⟨row, List.mem_singleton_self row, rfl, rfl⟩
  · intro _ row' hRow
    rw [List.mem_singleton.mp hRow]
    exact ⟨answer, List.mem_singleton_self _⟩

/- No ban is lifted to forget one. -/
theorem of_forget
    {result : Except Cause Bool}
    (hRest : w.IsAtRest)
    (hPerforms :
      Performs w (forget g u) trace result later) :
    LiftsRows [] True w trace later := by
  have hOwn :
      (forget g u).Requests fun r => ¬ IsCall r :=
    requests_transaction (Requests.request (by simp [IsOfRows]))
  rcases performs_forget hRest hPerforms with
    ⟨hLater, hCase⟩
  refine quiet hLater ?_ ?_
  · intro row hMember
    rcases hCase with ⟨_, _, hBans⟩ | ⟨_, _, rfl⟩
    · rw [hBans] at hMember
      exact (List.mem_filter.mp hMember).1
    · exact hMember
  · intro call answer hMember
    exact hOwn.of_performs hPerforms _ _ hMember trivial

end LiftsRows

/- The bans of some rows are lifted one after another. -/
theorem performs_liftAll
    {rows : List Store.BanRow}
    {result : Except Cause Nat}
    (hRest : w.IsAtRest)
    (hPerforms :
      Performs w (liftAll rows) trace result later) :
    LiftsRows rows (∃ n, result = .ok n) w trace later := by
  induction rows generalizing w trace result with
  | nil =>
      rcases performs_done_iff.mp hPerforms with ⟨rfl, _, rfl⟩
      exact .quiet hRest (fun _ hMember => hMember) (by simp)
  | cons row rows hInduction =>
      rcases performs_bind_iff.mp hPerforms with
        ⟨cause, rfl, hFail⟩ |
          ⟨first, ended, after, called, rfl, hLift, hPerforms⟩
      · exact (LiftsRows.of_lift hRest hFail).early (by simp)
          (by simp)
      have hFirst := LiftsRows.of_lift hRest hLift
      have hOthers
          {between : Shared}
          {trace : List Exchange}
          (hRest : between.IsAtRest)
          (hPerforms :
            Performs between
              ((liftAll rows).bind fun n =>
                .done
                  ((if ended = .lifted then 1 else 0) + n))
              trace result later) :
          LiftsRows rows (∃ n, result = .ok n) between trace
            later := by
        rcases performs_bind_iff.mp hPerforms with
          ⟨cause, rfl, hFail⟩ |
            ⟨rest, n, _, _, rfl, hAll, hDone⟩
        · exact (hInduction hRest hFail).finish (by simp)
        · rcases performs_done_iff.mp hDone with ⟨rfl, _, rfl⟩
          rw [List.append_nil]
          exact (hInduction hRest hAll).finish (by simp)
      by_cases hRefused : ended = .refused
      · simp only [hRefused] at hPerforms
        exact (hFirst.append
          (hOthers hFirst.rest (hRefused ▸ hPerforms))).finish
            (by simp)
      · simp only [hRefused, if_false] at hPerforms
        rcases performs_bind_iff.mp hPerforms with
          ⟨cause, rfl, hFail⟩ |
            ⟨forgot, _, after, between, rfl, hForget,
              hPerforms⟩
        · exact (hFirst.append
            (LiftsRows.of_forget hFirst.rest hFail)).early
              (by simp) (by simp)
        · have hForgot :=
            LiftsRows.of_forget hFirst.rest hForget
          exact (hFirst.append
            (hForgot.append
              (hOthers hForgot.rest hPerforms))).finish
                (by simp)

/- The bans that are over are read by the clock. -/
theorem performs_readExpired
    {result : Except Cause (List Store.BanRow)}
    (hRest : w.IsAtRest)
    (hPerforms :
      Performs w
        (Store.reading
          (clockSeconds.bind fun now =>
            Store.execute (.expiredBans now)))
        trace result later) :
    LiftsRows [] True w trace later ∧ later = w ∧
      ∀ rows, result = .ok rows →
        rows =
          Store.Statement.expired w.clock.floor
            w.store.current.bans := by
  rcases performs_reading hPerforms with ⟨inner, rfl, hBody⟩
  rcases performs_bind_iff.mp hBody with
    ⟨_, _, hClock⟩ |
      ⟨clock, now, after, timed, rfl, hClock, hRead⟩
  · cases (performs_clockSeconds hClock).2.1
  rcases performs_clockSeconds hClock with
    ⟨rfl, hSeconds, hSame⟩
  cases hSeconds
  rw [hSame] at hRead
  rcases performs_execute_read rfl (by simp) hRest.settled hRead with
    ⟨rfl, rfl, hAnswer⟩
  refine ⟨.quiet hRest (fun _ hMember => hMember) ?_, rfl, ?_⟩
  · intro call answer hMember
    simp only [List.cons_append, List.nil_append,
      List.mem_cons, List.not_mem_nil, or_false] at hMember
    rcases hMember with hSame | hSame | hSame
    · cases hSame
    · cases hSame
    · cases hSame
  · intro rows hRows
    cases hAnswer rows hRows
    rfl

/- The bans that are over by the clock are lifted. -/
theorem performs_liftExpired
    {result : Except Cause Nat}
    (hRest : w.IsAtRest)
    (hPerforms :
      Performs w liftExpired trace result later) :
    LiftsRows
      (Store.Statement.expired w.clock.floor
        w.store.current.bans)
      (∃ n, result = .ok n) w trace later := by
  rcases performs_bind_iff.mp hPerforms with
    ⟨cause, rfl, hFail⟩ |
      ⟨first, rows, after, between, rfl, hRead, hAll⟩
  · exact (performs_readExpired hRest hFail).1.early
      (List.nil_subset _) (by simp)
  · rcases performs_readExpired hRest hRead with
      ⟨hFirst, hSame, hRows⟩
    rw [← hRows rows rfl]
    rw [hSame] at hAll hFirst
    exact (hFirst.append (performs_liftAll hRest hAll)).finish
      (by simp)

end GuildWarden.Ban
