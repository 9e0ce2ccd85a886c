import GuildWarden.Payload.Basic

/-
  This file defines the exit code of the program for each way
  in which a run can end.

  Key definitions include:
    * `Run.Ending`
    * `Run.Ending.exitCode`
-/

namespace GuildWarden.Run

/-
  How a run ends. A request to leave may carry any number of
  payloads; an interruption comes from the user.
-/
inductive Ending where
  | finished (code : Int)
  | leave (reasons : List Payload)
  | interrupted
  | failed
deriving BEq, Repr

/-
  The exit code, a whole number or a truth value as it was
  asked for: a request without a reason, and an interruption,
  count as success.
-/
def Ending.exitCode : Ending → Payload
  | .finished code => .int code
  | .leave [] => .int 0
  | .leave [.null] => .int 0
  | .leave [.int code] => .int code
  | .leave [.bool code] => .bool code
  | .leave _ => .int 1
  | .interrupted => .int 0
  | .failed => .int 1

end GuildWarden.Run
