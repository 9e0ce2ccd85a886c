/-
  This file defines the causes for which the work of the bot
  can fail, and the groups of causes that are treated alike.

  Key definitions include:
    * `Cause`
    * `Cause.message`
    * `Cause.isRefusal`
    * `Cause.isLinkTrouble`
    * `Cause.isStorageFault`
-/

namespace GuildWarden

/-
  Why an action failed. The first group is raised by the bot
  itself, the second by values of an unexpected shape, the
  third by the outside world. `cancelled` ends an action from
  outside and is never handled like a failure.
-/
inductive Cause where
  | usage (detail : String)
  | notFound (detail : String)
  | permissionDenied (detail : String)
  | externalService (detail : String)
  | transport
      (detail : String)
      (closeCode : Option Int)
      (resumable : Bool)
  | fatalGateway (detail : String) (closeCode : Option Int)
  | unspecified (detail : String)
  | badValue (detail : String)
  | badType
  | missingField
  | notAMap
  | outOfRange
  | missingItem
  | runtime (detail : String)
  | system (detail : String)
  | connectionReset (detail : String)
  | web (detail : String)
  | timedOut
  | refused (status : Int)
  | loginRefused
  | storageFault (detail : String)
  | constraintBroken
  | cancelled
deriving DecidableEq, Repr

namespace Cause

/- The text of a cause, where it has one. -/
def message : Cause → String
  | .usage s => s
  | .notFound s => s
  | .permissionDenied s => s
  | .externalService s => s
  | .transport s _ _ => s
  | .fatalGateway s _ => s
  | .unspecified s => s
  | .badValue s => s
  | .runtime s => s
  | .system s => s
  | .connectionReset s => s
  | .web s => s
  | .storageFault s => s
  | _ => ""

/- The chat platform answered a call with an error status. -/
def isRefusal : Cause → Bool
  | .refused _ => true
  | _ => false

/- The chat platform does not know the target of a call. -/
def isUnknownTarget
    (cause : Cause) : Bool :=
  cause == .refused 404

/- The chat platform forbids a call. -/
def isForbidden
    (cause : Cause) : Bool :=
  cause == .refused 403

/- The network failed below the level of a protocol. -/
def isLinkTrouble : Cause → Bool
  | .web _ => true
  | .system _ => true
  | .connectionReset _ => true
  | .timedOut => true
  | _ => false

/- A statement was refused by the database itself. -/
def isStorageFault : Cause → Bool
  | .storageFault _ => true
  | .constraintBroken => true
  | _ => false

end Cause

end GuildWarden
