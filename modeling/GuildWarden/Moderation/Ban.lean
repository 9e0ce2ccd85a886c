import GuildWarden.Moderation.BanOrder
import GuildWarden.Platform.Client
import GuildWarden.Store.Transaction

/-
  This file defines temporary bans: a user is banned, the end
  of the ban is stored, and bans that are over are lifted.

  Key definitions include:
    * `Ban.impose`
    * `Ban.forget`
    * `Ban.liftExpired`
-/

namespace GuildWarden.Ban

open Program

/- The messages of a week are deleted with a ban. -/
def deletedSeconds : Int :=
  7 * 24 * 3600

/- The clock in whole seconds. -/
def clockSeconds : Program Int := do
  return (← now).floor

/- Send the notice of a ban if the user can be reached. -/
def sendNotice
    (order : BanOrder) : Program Unit :=
  handling
    (do
      let notice := BanOrder.notice order.reason order.hours
      let _ ← Platform.sendDirectMessage order.userId (.text notice)
      return ())
    Cause.isRefusal fun _ => return ()

/-
  Ban a user. A ban for a number of hours is stored with its
  end, which is the answer.
-/
def impose
    (guildId : Int)
    (order : BanOrder) : Program (Option Int) := do
  sendNotice order
  Platform.perform
    (.ban guildId order.userId deletedSeconds (some order.reason))
  if order.hours ≤ 0 then return none
  let unbanAt := (← clockSeconds) + order.hours * 3600
  Store.transaction
    (Store.execute
      (.putBan ⟨guildId, order.userId, unbanAt, order.reason⟩))
  return some unbanAt

/- Forget the end of a ban; answers whether there was one. -/
def forget
    (guildId userId : Int) : Program Bool :=
  Store.transaction (Store.execute (.dropBan guildId userId))

/- How the attempt to lift a ban ended. -/
inductive Lift where
  | lifted
  | gone
  | refused
deriving DecidableEq, Repr

/- Lift a ban on the platform. -/
def lift
    (row : Store.BanRow) : Program Lift :=
  handling
    (do
      Platform.perform
        (.unban row.guildId row.userId (some "Ban duration expired."))
      return .lifted)
    Cause.isRefusal
    fun cause => return if cause.isUnknownTarget then .gone else .refused

/-
  Lift the bans of a list and forget them; answers how many
  were lifted. A ban that the platform refuses to lift is kept.
-/
def liftAll : List Store.BanRow → Program Nat
  | [] => return 0
  | row :: rows => do
    let result ← lift row
    unless result = .refused do
      let _ ← forget row.guildId row.userId
    return (if result = .lifted then 1 else 0) + (← liftAll rows)

/- Lift every stored ban that is over; answers how many were lifted. -/
def liftExpired : Program Nat := do
  let rows ← Store.reading do
    Store.execute (.expiredBans (← clockSeconds))
  liftAll rows

end GuildWarden.Ban
