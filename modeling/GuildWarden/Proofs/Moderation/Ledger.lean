import GuildWarden.Proofs.Moderation.Lifting

/-
  This file follows bans, their forgetting and their lifting
  one after another, whatever the platform answers and
  although the store may refuse a statement. A ban is lifted
  only if the last ban of its user that was for some hours is
  over. A later permanent ban is not stored, and so does not
  keep the user banned.

  Key definitions include:
    * `Ban.Errand`
    * `Ban.Deed`
    * `Ban.Recorded`
    * `Ban.Standing`
    * `Ban.IsOver`

  Main statements:
    * `Ban.standing_of_holds`
    * `Ban.lifts_iff_holds`
    * `Ban.isOver_iff_of_lifts`
    * `Ban.permanent_ban_lifted`
-/

namespace GuildWarden.Ban

open Program

------------------------------------------------------------
-- Deeds
------------------------------------------------------------

/- What the keeper of the bans can be asked for. -/
inductive Errand where
  | impose (guildId : Int) (order : BanOrder)
  | forget (guildId userId : Int)
  | lift

def Errand.program : Errand → Program (Option Int)
  | .impose g order => Ban.impose g order
  | .forget g u => (Ban.forget g u).bind fun _ => .done none
  | .lift => liftExpired.bind fun _ => .done none

/- An errand that was run, with its exchanges and its end. -/
structure Deed where
  errand : Errand
  trace : List Exchange
  result : Except Cause (Option Int)

namespace Deed

/- Whether a user was banned. -/
def isBanOf
    (g u : Int)
    (d : Deed) : Bool :=
  match d.errand with
  | .impose g' order => g' == g && order.userId == u
  | _ => false

/- Whether a ban was for some hours. -/
def isTimed
    (d : Deed) : Bool :=
  match d.errand with
  | .impose _ order => 0 < order.hours
  | _ => false

/- A user was banned for some hours, that end at a time. -/
def Times
    (g u unbanAt : Int)
    (d : Deed) : Prop :=
  ∃ order now,
    d.errand = .impose g order ∧ order.userId = u ∧
      0 < order.hours ∧ .asked .now (.ok now) ∈ d.trace ∧
        unbanAt = now.floor + order.hours * 3600

/- The end of a user's ban was forgotten. -/
def Forgets
    (g u : Int)
    (d : Deed) : Prop :=
  d.errand = .forget g u ∧ ∃ answer, d.result = .ok answer

theorem Times.isTimed
    {g u unbanAt : Int}
    {d : Deed}
    (hTimes : d.Times g u unbanAt) :
    d.isBanOf g u = true ∧ d.isTimed = true := by
  rcases hTimes with ⟨order, now, hErrand, hUser, hHours, _⟩
  simp [isBanOf, Deed.isTimed, hErrand, hUser, hHours]

end Deed

/-
  The deeds that were done from a state on, the latest first,
  and the state after them. Time may pass between two of them;
  a ban is recorded if it succeeded.
-/
inductive Recorded
    (initial : Shared) : List Deed → Shared → Prop where
  | nil :
      Recorded initial [] initial
  | pass
      {deeds : List Deed}
      {w : Shared}
      (now : Rat)
      (hRecorded : Recorded initial deeds w)
      (hNow : w.clock ≤ now) :
      Recorded initial deeds { w with clock := now }
  | cons
      {deeds : List Deed}
      {w later : Shared}
      (d : Deed)
      (hRecorded : Recorded initial deeds w)
      (hPerforms :
        Performs w d.errand.program d.trace d.result later)
      (hImposed :
        ∀ g order, d.errand = .impose g order →
          ∃ unbanAt, d.result = .ok unbanAt) :
      Recorded initial (d :: deeds) later

/-
  The last ban of a user that was for some hours ends at a
  time, and that was not forgotten since.
-/
def Standing
    (g u unbanAt : Int)
    (deeds : List Deed) : Prop :=
  ∃ newer d older, deeds = newer ++ d :: older ∧
    d.Times g u unbanAt ∧
      ∀ x ∈ newer,
        (x.isBanOf g u && x.isTimed) = false ∧
          ¬ x.Forgets g u

/- The last ban of a user was for some hours, which are over. -/
def IsOver
    (g u : Int)
    (now : Rat)
    (deeds : List Deed) : Prop :=
  ∃ d unbanAt, deeds.find? (·.isBanOf g u) = some d ∧
    d.Times g u unbanAt ∧ unbanAt ≤ now.floor

/- The last ban of a user was permanent. -/
def IsPermanent
    (g u : Int)
    (deeds : List Deed) : Prop :=
  ∃ d, deeds.find? (·.isBanOf g u) = some d ∧
    d.isTimed = false

/- A stored ban of a user ends at a time. -/
def Holds
    (g u unbanAt : Int)
    (w : Shared) : Prop :=
  ∃ row ∈ w.store.current.bans,
    row.guildId = g ∧ row.userId = u ∧ row.unbanAt = unbanAt

------------------------------------------------------------
-- Stored Bans
------------------------------------------------------------

variable {g u unbanAt : Int}
variable {w later : Shared}
variable {trace : List Exchange}

/-
  A ban is lifted only if it is stored and over, and then it
  is if the lifting ends well.
-/
theorem lifts_iff_holds
    {n : Nat}
    (hRest : w.IsAtRest)
    (hPerforms :
      Performs w liftExpired trace (.ok n) later) :
    (∃ reason answer,
        .asked (.platform (.unban g u reason)) answer ∈ trace) ↔
      ∃ unbanAt, Holds g u unbanAt w ∧
        unbanAt ≤ w.clock.floor := by
  have hLifts := performs_liftExpired hRest hPerforms
  constructor
  · rintro ⟨reason, answer, hCall⟩
    rcases hLifts.called g u reason answer hCall with
      ⟨row, hRow, hUser⟩
    rcases Store.Statement.mem_expired_iff.mp hRow with
      ⟨hStored, hOver⟩
    exact ⟨row.unbanAt,
      ⟨row, hStored, hUser.1, hUser.2, rfl⟩, hOver⟩
  · rintro ⟨_, ⟨row, hStored, rfl, rfl, rfl⟩, hOver⟩
    rcases hLifts.complete ⟨n, rfl⟩ row
      (Store.Statement.mem_expired_iff.mpr ⟨hStored, hOver⟩)
      with ⟨answer, hCall⟩
    exact ⟨_, answer, hCall⟩

------------------------------------------------------------
-- What Is Recorded
------------------------------------------------------------

variable {deeds : List Deed}
variable {d : Deed}
variable {initial : Shared}

/- A deed that neither bans for some hours nor forgets. -/
theorem Standing.cons
    (hStanding : Standing g u unbanAt deeds)
    (hTimed : (d.isBanOf g u && d.isTimed) = false)
    (hKept : ¬ d.Forgets g u) :
    Standing g u unbanAt (d :: deeds) := by
  rcases hStanding with
    ⟨newer, b, older, rfl, hTimes, hNewer⟩
  refine ⟨d :: newer, b, older, rfl, hTimes, ?_⟩
  intro x hMember
  rcases List.mem_cons.mp hMember with rfl | hLater
  · exact ⟨hTimed, hKept⟩
  · exact hNewer x hLater

/- What is stored was so before, or is the ban of the deed. -/
def Deed.Keeps
    (d : Deed)
    (before after : Shared) : Prop :=
  ∀ g u unbanAt, Holds g u unbanAt after →
    d.Times g u unbanAt ∨
      Holds g u unbanAt before ∧
        (d.isBanOf g u && d.isTimed) = false ∧
          ¬ d.Forgets g u

/- A deed that only takes rows away and forgets nobody. -/
theorem Deed.Keeps.of_subset
    (hRows :
      later.store.current.bans ⊆ w.store.current.bans)
    (hTimed : ∀ g u, (d.isBanOf g u && d.isTimed) = false)
    (hKept : ∀ g u, ¬ d.Forgets g u) :
    d.Keeps w later := by
  rintro g u unbanAt ⟨row, hRow, hUser⟩
  exact Or.inr ⟨⟨row, hRows hRow, hUser⟩, hTimed g u, hKept g u⟩

/- Only an errand to forget forgets. -/
theorem Deed.not_forgets
    {errand : Errand}
    {result : Except Cause (Option Int)}
    (hOther : ∀ g u, errand ≠ .forget g u)
    (g u : Int) :
    ¬ Forgets g u ⟨errand, trace, result⟩ := by
  rintro ⟨hForget, _⟩
  exact hOther g u hForget

/- A ban for some hours is stored in place of others. -/
theorem keeps_of_impose
    {order : BanOrder}
    {stored : Option Int}
    (hRest : w.IsAtRest)
    (hPerforms :
      Performs w (impose g order) trace (.ok stored) later) :
    later.IsAtRest ∧
      Deed.Keeps ⟨.impose g order, trace, .ok stored⟩ w
        later := by
  have hKept (g' u : Int) :
      ¬ Deed.Forgets g' u
        ⟨.impose g order, trace, .ok stored⟩ :=
    Deed.not_forgets (by simp) g' u
  rcases performs_impose hRest hPerforms with
    ⟨hLater, ⟨hPermanent, hStore⟩ |
      ⟨now, hHours, hNow, hBans⟩⟩
  · refine ⟨hLater, .of_subset ?_ ?_ hKept⟩
    · rw [hStore]
      exact List.Subset.refl _
    · simp [Deed.isTimed, Int.not_lt.mpr hPermanent]
  · refine ⟨hLater, ?_⟩
    rintro g' u unbanAt ⟨row, hRow, rfl, rfl, rfl⟩
    rw [hBans] at hRow
    rcases Store.mem_putRow_iff.mp hRow with
      rfl | ⟨hOld, hOther⟩
    · exact Or.inl ⟨order, now, rfl, rfl, hHours, hNow, rfl⟩
    · have hOther :
          (g == row.guildId && order.userId == row.userId) =
            false :=
        hOther
      refine Or.inr
        ⟨⟨row, hOld, rfl, rfl, rfl⟩, ?_, hKept _ _⟩
      simp [Deed.isBanOf, hOther]

/- No ban of a user is stored once it was forgotten. -/
theorem keeps_of_forget
    {u : Int}
    {result : Except Cause (Option Int)}
    (hRest : w.IsAtRest)
    (hPerforms :
      Performs w (Errand.forget g u).program trace result
        later) :
    later.IsAtRest ∧
      Deed.Keeps ⟨.forget g u, trace, result⟩ w later := by
  rcases performs_bind_iff.mp hPerforms with
    ⟨cause, rfl, hFail⟩ |
      ⟨before, _, after, between, _, hForget, hDone⟩
  · rcases performs_forget hRest hFail with
      ⟨hLater, ⟨_, hOk, _⟩ | ⟨_, _, rfl⟩⟩
    · cases hOk
    · refine ⟨hLater, .of_subset (List.Subset.refl _) ?_ ?_⟩
      · intro g' u'
        rfl
      · rintro g' u' ⟨_, answer, hOk⟩
        cases hOk
  · rcases performs_done_iff.mp hDone with ⟨_, _, rfl⟩
    rcases performs_forget hRest hForget with
      ⟨hLater, ⟨_, _, hBans⟩ | ⟨_, hFail, _⟩⟩
    · refine ⟨hLater, ?_⟩
      rintro g' u' unbanAt ⟨row, hRow, rfl, rfl, rfl⟩
      rw [hBans] at hRow
      rcases List.mem_filter.mp hRow with ⟨hOld, hOther⟩
      refine Or.inr ⟨⟨row, hOld, rfl, rfl, rfl⟩, rfl, ?_⟩
      rintro ⟨hForget, _⟩
      cases hForget
      simp at hOther
    · cases hFail

/- The lifting of bans stores none. -/
theorem keeps_of_lift
    {result : Except Cause (Option Int)}
    (hRest : w.IsAtRest)
    (hPerforms :
      Performs w Errand.lift.program trace result later) :
    later.IsAtRest ∧
      Deed.Keeps ⟨.lift, trace, result⟩ w later := by
  have hLifts :
      later.IsAtRest ∧
        later.store.current.bans ⊆ w.store.current.bans := by
    rcases performs_bind_iff.mp hPerforms with
      ⟨_, _, hFail⟩ | ⟨_, _, _, _, _, hLift, hDone⟩
    · have hLifts := performs_liftExpired hRest hFail
      exact ⟨hLifts.rest, hLifts.kept⟩
    · rcases performs_done_iff.mp hDone with ⟨_, _, rfl⟩
      have hLifts := performs_liftExpired hRest hLift
      exact ⟨hLifts.rest, hLifts.kept⟩
  refine ⟨hLifts.1, .of_subset hLifts.2 ?_ ?_⟩
  · intro g u
    rfl
  · exact Deed.not_forgets (by simp)

theorem keeps_of_performs
    (hRest : w.IsAtRest)
    (hPerforms :
      Performs w d.errand.program d.trace d.result later)
    (hImposed :
      ∀ g order, d.errand = .impose g order →
        ∃ unbanAt, d.result = .ok unbanAt) :
    later.IsAtRest ∧ d.Keeps w later := by
  rcases d with ⟨errand, trace, result⟩
  cases errand with
  | impose g order =>
      rcases hImposed g order rfl with ⟨stored, rfl⟩
      exact keeps_of_impose hRest hPerforms
  | forget g u => exact keeps_of_forget hRest hPerforms
  | lift => exact keeps_of_lift hRest hPerforms

/- Each stored ban is the last one of its user for some hours. -/
theorem standing_of_holds
    (hRest : initial.IsAtRest)
    (hEmpty : initial.store.current.bans = [])
    (hRecorded : Recorded initial deeds w) :
    w.IsAtRest ∧
      ∀ g u unbanAt, Holds g u unbanAt w →
        Standing g u unbanAt deeds := by
  induction hRecorded with
  | nil =>
      refine ⟨hRest, ?_⟩
      rintro g u unbanAt ⟨row, hRow, _⟩
      rw [hEmpty] at hRow
      cases hRow
  | pass now _ _ hInduction =>
      exact ⟨⟨hInduction.1.free, hInduction.1.settled⟩,
        hInduction.2⟩
  | @cons deeds w later d _ hPerforms hImposed hInduction =>
      rcases keeps_of_performs hInduction.1 hPerforms hImposed
        with ⟨hLater, hHolds⟩
      refine ⟨hLater, ?_⟩
      intro g u unbanAt hStored
      rcases hHolds g u unbanAt hStored with
        hTimes | ⟨hOld, hTimed, hKept⟩
      · exact ⟨[], d, deeds, rfl, hTimes, by simp⟩
      · exact (hInduction.2 g u unbanAt hOld).cons hTimed hKept

/-
  What stands is the last ban of its user, unless that one is
  permanent.
-/
theorem Standing.isOver_iff
    {now : Rat}
    (hStanding : Standing g u unbanAt deeds)
    (hOver : unbanAt ≤ now.floor) :
    IsOver g u now deeds ↔ ¬ IsPermanent g u deeds := by
  constructor
  · rintro ⟨d, _, hLast, hTimes, _⟩ ⟨d', hLast', hPermanent⟩
    rw [hLast] at hLast'
    cases hLast'
    exact absurd hTimes.isTimed.2 (by simp [hPermanent])
  · intro hTimed
    rcases hStanding with
      ⟨newer, d, older, rfl, hTimes, hNewer⟩
    refine ⟨d, unbanAt, ?_, hTimes, hOver⟩
    rw [List.find?_append, List.find?_cons_of_pos
      hTimes.isTimed.1]
    cases hLater : newer.find? (·.isBanOf g u) with
    | none => rfl
    | some x =>
        refine absurd ⟨x, ?_, ?_⟩ hTimed
        · rw [List.find?_append, hLater]
          rfl
        · have hBan := List.find?_some hLater
          have hMember := List.mem_of_find?_eq_some hLater
          simpa [hBan] using (hNewer x hMember).1

/-
  A ban is lifted only if the last ban of the user that was
  for some hours is over, and was not forgotten. That is the
  last ban of the user, unless a permanent one came after it.
-/
theorem isOver_iff_of_lifts
    {result : Except Cause Nat}
    {reason : Option String}
    {answer : Except Cause Payload}
    (hRest : initial.IsAtRest)
    (hEmpty : initial.store.current.bans = [])
    (hRecorded : Recorded initial deeds w)
    (hPerforms : Performs w liftExpired trace result later)
    (hCall :
      .asked (.platform (.unban g u reason)) answer ∈ trace) :
    (∃ unbanAt, Standing g u unbanAt deeds ∧
        unbanAt ≤ w.clock.floor) ∧
      (IsOver g u w.clock deeds ↔ ¬ IsPermanent g u deeds) := by
  rcases standing_of_holds hRest hEmpty hRecorded with
    ⟨hAtRest, hHolds⟩
  rcases (performs_liftExpired hAtRest hPerforms).called g u
    reason answer hCall with ⟨row, hRow, rfl, rfl⟩
  rcases Store.Statement.mem_expired_iff.mp hRow with
    ⟨hStored, hOver⟩
  have hStanding := hHolds _ _ row.unbanAt
    ⟨row, hStored, rfl, rfl, rfl⟩
  exact ⟨⟨row.unbanAt, hStanding, hOver⟩,
    hStanding.isOver_iff hOver⟩

------------------------------------------------------------
-- A Permanent Ban That Is Lifted
------------------------------------------------------------

/- An errand that is carried out without a refusal. -/
def carried
    (w : Shared)
    (errand : Errand)
    (given : List (Except Cause Payload)) :
    Option (Deed × Shared) :=
  (carryOut w given errand.program).map
    fun (trace, result, later) => (⟨errand, trace, result⟩, later)

theorem Recorded.of_carried
    {stored : Option Int}
    (errand : Errand)
    (given : List (Except Cause Payload))
    (hRecorded : Recorded initial deeds w)
    (hCarried : carried w errand given = some (d, later))
    (hResult : d.result = .ok stored) :
    Recorded initial (d :: deeds) later := by
  rcases Option.map_eq_some_iff.mp hCarried with
    ⟨⟨trace, result, later'⟩, hDone, hSame⟩
  cases hSame
  exact .cons _ hRecorded (performs_of_carryOut hDone)
    fun _ _ _ => ⟨stored, hResult⟩

/- Nobody is banned yet. -/
def unbanned : Shared where
  clock := 0
  memory := Memory.empty
  store :=
    .ofTables { Store.Tables.blank with created := [.bans] }
  isLocked := false

/- A user who cannot be told is banned for an hour. -/
def banned : Deed × Shared :=
  (carried unbanned (.impose 100 ⟨4, 1, "first"⟩)
    (.error (.refused 403) ::
      List.replicate 7 (.ok .null))).getD
    (⟨.lift, [], .ok none⟩, unbanned)

/- Then the user is banned for good. -/
def bannedAgain : Deed × Shared :=
  (carried banned.2 (.impose 100 ⟨4, 0, "second"⟩)
    [.error (.refused 403), .ok .null]).getD
    (⟨.lift, [], .ok none⟩, unbanned)

/- An hour later the bans that are over are lifted. -/
def hourLater : Shared :=
  { bannedAgain.2 with clock := 3600 }

def lifting : List Exchange × Except Cause Nat × Shared :=
  (carryOut hourLater (List.replicate 9 (.ok .null))
    liftExpired).getD ([], .ok 0, hourLater)

theorem recorded_bannedAgain :
    Recorded unbanned [bannedAgain.1, banned.1] hourLater := by
  have hFirst : Recorded unbanned [banned.1] banned.2 :=
    .of_carried (.impose 100 ⟨4, 1, "first"⟩)
      (.error (.refused 403) :: List.replicate 7 (.ok .null))
      .nil rfl (by rfl : banned.1.result = .ok (some 3600))
  have hSecond :
      Recorded unbanned [bannedAgain.1, banned.1]
        bannedAgain.2 :=
    .of_carried (.impose 100 ⟨4, 0, "second"⟩)
      [.error (.refused 403), .ok .null]
      hFirst rfl (by rfl : bannedAgain.1.result = .ok none)
  exact .pass 3600 hSecond (by decide)

theorem performs_lifting :
    Performs hourLater liftExpired lifting.1 (.ok 1)
      lifting.2.2 := by
  have hDone :
      carryOut hourLater (List.replicate 9 (.ok .null))
          liftExpired =
        some (lifting.1, .ok 1, lifting.2.2) :=
    rfl
  exact performs_of_carryOut hDone

/- The permanent ban is lifted as if it were for an hour. -/
theorem permanent_ban_lifted :
    IsPermanent 100 4 [bannedAgain.1, banned.1] ∧
      .asked
          (.platform
            (.unban 100 4 (some "Ban duration expired.")))
          (.ok .null) ∈ lifting.1 ∧
        (∃ unbanAt,
            Standing 100 4 unbanAt
              [bannedAgain.1, banned.1] ∧
            unbanAt ≤ hourLater.clock.floor) ∧
          (IsOver 100 4 hourLater.clock
              [bannedAgain.1, banned.1] ↔
            ¬ IsPermanent 100 4
              [bannedAgain.1, banned.1]) := by
  have hCall :
      .asked
          (.platform
            (.unban 100 4 (some "Ban duration expired.")))
          (.ok .null) ∈ lifting.1 := by
    have hThird :
        lifting.1[3]? =
          some (.asked
            (.platform
              (.unban 100 4 (some "Ban duration expired.")))
            (.ok .null)) :=
      rfl
    exact List.mem_of_getElem? hThird
  have hRest : unbanned.IsAtRest := ⟨rfl, rfl⟩
  exact ⟨⟨bannedAgain.1, rfl, rfl⟩, hCall,
    isOver_iff_of_lifts hRest rfl recorded_bannedAgain
      performs_lifting hCall⟩

end GuildWarden.Ban
