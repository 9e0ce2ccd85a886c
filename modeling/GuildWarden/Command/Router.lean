import GuildWarden.Command.Basic
import GuildWarden.Command.Invocation
import GuildWarden.Permission.Check

/-
  This file defines the router. A message that calls a command
  leads to at most one run of its handler: the caller needs the
  permission, the tail its words, and the run has to end within
  a time. Failures are answered by a reply.

  Key definitions include:
    * `Router`
    * `Router.register`
    * `Router.select`
    * `Router.route`
-/

namespace GuildWarden

open Program Text

/- A message that may call a command. -/
structure Command.Message where
  text : String
  author : Author
  guildId : Option Int
  channelId : Int
  messageId : Option Int
  memberRoles : Option IdSet
deriving DecidableEq, Repr

/- The commands, in the order of their registration, and how they run. -/
structure Router where
  roles : RoleSettings
  mark : String
  timeout : Span
  keepsHistory : Bool
  entries : List (String × Command.Entry)

namespace Router

------------------------------------------------------------
-- Commands
------------------------------------------------------------

/- A router without commands. -/
def empty
    (roles : RoleSettings)
    (mark : String)
    (timeout : Span)
    (keepsHistory : Bool) : Router where
  roles := roles
  mark := mark
  timeout := timeout
  keepsHistory := keepsHistory
  entries := []

/- Register a command under its name in small letters. -/
def register
    (r : Router)
    (e : Command.Entry) : Except Cause Router :=
  if r.entries.any fun x => x.1 == e.key then
    .error (.badValue
      ("command " ++ quoted e.key ++ " is already registered"))
  else .ok { r with entries := r.entries ++ [(e.key, e)] }

/- The command of a name. -/
def lookup
    (r : Router)
    (name : String) : Option Command.Entry :=
  r.entries.lookup (lower name)

/- How a command is called. -/
def usageLine
    (r : Router)
    (c : Command) : String :=
  c.info.usageLine r.mark

/- The command that a text calls, with its tail. -/
def select
    (r : Router)
    (text : String) : Option (Command × String) := do
  let i ← Invocation.parse? r.mark text
  let e ← r.entries.lookup i.name
  return e.resolve i.tail

------------------------------------------------------------
-- Replies
------------------------------------------------------------

/- The reply to a caller without permission. -/
def deniedReply : String :=
  "You do not have permission to use this command."

/- The reply to a failure that the caller cannot mend. -/
def failureReply : String :=
  "Something went wrong while running this command."

/- The reply to a call with unfit arguments. -/
def usageReply
    (r : Router)
    (c : Command)
    (detail : String) : String :=
  (if detail = "" then "" else detail ++ "\n") ++
    "Usage: `" ++ r.usageLine c ++ "`"

/- Reply unless the platform refuses it. -/
def safeReply
    (ctx : Command.Context)
    (s : String) : Program Unit :=
  handling (ctx.say s) Cause.isRefusal fun _ => return ()

------------------------------------------------------------
-- Runs
------------------------------------------------------------

/- The context of a command that a message calls. -/
def contextOf
    (r : Router)
    (m : Command.Message) : Command.Context where
  guildId := m.guildId
  channelId := m.channelId
  author := m.author
  messageId := m.messageId
  memberRoles := m.memberRoles
  keepsHistory := r.keepsHistory
  mark := r.mark

/- Run a command whose caller has the permission so far. -/
def invoke
    (r : Router)
    (c : Command)
    (ctx : Command.Context)
    (tail : String) : Program Unit := do
  if ((words tail.toList).length : Int) < c.arity then
    throw (.usage "")
  if c.confirms then
    unless ← Permission.confirm r.roles ctx.guildId ctx.author.id
        c.info.tier do
      throw (.permissionDenied c.info.name)
  c.handler ctx tail

/- What the caller is told about a failure, and the outcome. -/
def excuse
    (r : Router)
    (c : Command) :
    Cause → String × Outcome
  | .timedOut => (failureReply, .timedOut)
  | .permissionDenied _ => (deniedReply, .denied)
  | .notFound s => (s, .notFound)
  | .usage s => (r.usageReply c s, .usageError)
  | _ => (failureReply, .failed)

/- Run a command within its time and reply to its failure. -/
def run
    (r : Router)
    (c : Command)
    (ctx : Command.Context)
    (tail : String) : Program Outcome :=
  handling
    (do
      within (c.timeout.getD r.timeout) (r.invoke c ctx tail)
      return .handled)
    (fun _ => true)
    fun cause => do
      let (reply, outcome) := r.excuse c cause
      safeReply ctx reply
      return outcome

/- Route a message. -/
def route
    (r : Router)
    (m : Command.Message) : Program Outcome := do
  let some (c, tail) := r.select m.text | return .ignored
  let ctx := r.contextOf m
  if ← Permission.holds r.roles m.guildId m.author.id c.info.tier
      m.memberRoles then
    r.run c ctx tail
  else
    safeReply ctx deniedReply
    return .denied

end Router

end GuildWarden
