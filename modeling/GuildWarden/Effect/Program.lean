import GuildWarden.Cause
import GuildWarden.Effect.Memory
import GuildWarden.Platform.Call
import GuildWarden.Store.Statement

/-
  This file defines programs: descriptions of what the bot
  does, as a tree of requests to the outside with the ways to
  go on for each answer. Nothing happens until a program is
  run; between two requests a program is never interrupted.

  Key definitions include:
    * `Span`
    * `Request`
    * `Request.Answer`
    * `Program`
    * `Program.attempt`
    * `Program.within`
-/

namespace GuildWarden

/- A length of time in seconds. -/
inductive Span where
  | seconds (n : Rat)
  | endless
deriving DecidableEq, Repr

/- The length of time that a floating-point number of seconds gives. -/
def Span.ofBinary64
    (x : Number.Binary64) : Span :=
  match x with
  | .infinite true => .seconds (-1)
  | _ =>
    match x.asWritten? with
    | some q => .seconds q
    | none => .endless

/- How the routing of a message ended. -/
inductive Outcome where
  | ignored
  | handled
  | denied
  | notFound
  | usageError
  | timedOut
  | failed
deriving DecidableEq, Repr

/- What a program notes down about itself. -/
inductive Note where
  | handling (command tail : String)
  | started (label : String)
  | ended (label : String)
  | failed (label : String)
  | cancelled (label : String)
  | routed (outcome : Outcome) (messageId : Option Int)
deriving DecidableEq, Repr

/- What a program can ask of the outside. -/
inductive Request where
  | platform (call : Platform.Call)
  | login (token : String)
  | closePlatform
  | openService
      (service : Web.Service)
      (userAgent : String)
      (timeout : Number.Binary64)
  | service (call : Web.Call)
  | closeService (service : Web.Service)
  | openStore
  | closeStore
  | reachStore
  | lockStore
  | unlockStore
  | statement (s : Store.Statement)
  | commit
  | rollback
  | now
  | pause (span : Span)
  | startTimer (span : Span)
  | stopTimer
  | note (n : Note)

namespace Request

/- What is answered to a request. -/
def Answer : Request → Type
  | .platform _ => Payload
  | .login _ => Payload
  | .service _ => Payload
  | .statement s => s.Answer
  | .now => Rat
  | .stopTimer => Bool
  | _ => Unit

end Request

/-
  A program. It is done or has failed, or it reads and changes
  the memory and goes on, or it asks for something and goes on
  with the answer or the cause of a failure.
-/
inductive Program (α : Type) : Type where
  | done (a : α)
  | fail (cause : Cause)
  | access (change : Memory → Memory) (next : Memory → Program α)
  | ask (r : Request) (next : Except Cause r.Answer → Program α)

namespace Program

variable {α β : Type}

/- Go on with the result of a program. -/
def bind
    (p : Program α)
    (f : α → Program β) : Program β :=
  match p with
  | .done a => f a
  | .fail cause => .fail cause
  | .access change next => .access change fun m => (next m).bind f
  | .ask r next => .ask r fun answer => (next answer).bind f

instance : Monad Program where
  pure := .done
  bind := bind

/- The result or the cause of the failure of a program. -/
def attempt
    (p : Program α) : Program (Except Cause α) :=
  match p with
  | .done a => .done (.ok a)
  | .fail cause => .done (.error cause)
  | .access change next => .access change fun m => (next m).attempt
  | .ask r next => .ask r fun answer => (next answer).attempt

/- Succeed or fail as a result says. -/
def settle : Except Cause α → Program α
  | .ok a => .done a
  | .error cause => .fail cause

instance : MonadExceptOf Cause Program where
  throw := .fail
  tryCatch p handle := p.attempt.bind fun r =>
    match r with
    | .ok a => .done a
    | .error cause => handle cause

/- Ask for something and fail if that fails. -/
def request
    (r : Request) : Program r.Answer :=
  .ask r settle

/- The memory as it is now. -/
def memory : Program Memory :=
  .access id .done

/- Change the memory. -/
def change
    (f : Memory → Memory) : Program Unit :=
  .access f fun _ => .done ()

/- Note something down. -/
def note
    (n : Note) : Program Unit :=
  request (.note n)

/- The time on the clock, in seconds since 1970. -/
def now : Program Rat :=
  request .now

/-
  Handle the failures that satisfy a test; being cancelled is
  never one of them.
-/
def handling
    (p : Program α)
    (test : Cause → Bool)
    (handle : Cause → Program α) : Program α := do
  match ← p.attempt with
  | .ok a => return a
  | .error cause =>
    if cause != .cancelled && test cause then handle cause
    else throw cause

/-
  Run a program within a length of time. One that takes longer
  is cancelled and counts as timed out; without any time it is
  not even started.
-/
def within
    (span : Span)
    (p : Program α) : Program α := do
  let hopeless : Bool :=
    match span with
    | .seconds n => n ≤ 0
    | .endless => false
  if hopeless then throw .timedOut
  request (.startTimer span)
  let result ← p.attempt
  let expired : Bool ← request .stopTimer
  match result with
  | .error .cancelled =>
    throw (if expired then .timedOut else .cancelled)
  | r => settle r

end Program

end GuildWarden
