import GuildWarden.Command.Context
import GuildWarden.Permission.Tier

/-
  This file defines commands: what is told about a command,
  what it asks of its caller, and the program that it runs. A
  command can have subcommands of its own.

  Key definitions include:
    * `Command.Info`
    * `Command`
    * `Command.Entry`
    * `Command.Entry.resolve`
-/

namespace GuildWarden

open Text

/- What is told about a command. -/
structure Command.Info where
  name : String
  tier : Tier
  usage : String
  description : String
deriving DecidableEq, Repr

/- How a command is called, after the mark. -/
def Command.Info.usageLine
    (mark : String)
    (i : Command.Info) : String :=
  mark ++ if i.usage = "" then i.name else i.usage

/-
  A command. Its tail needs a number of words; a command that
  confirms asks the platform for the permission of its caller.
  Without a timeout of its own it has the usual one.
-/
structure Command where
  info : Command.Info
  arity : Int
  confirms : Bool
  timeout : Option Span
  handler : Command.Context → String → Program Unit

namespace Command

/- A command with its subcommands. -/
structure Entry where
  command : Command
  subcommands : List (String × Command)

/- An entry without subcommands. -/
def alone
    (c : Command) : Entry where
  command := c
  subcommands := []

namespace Entry

/- The name under which an entry is found. -/
def key
    (e : Entry) : String :=
  lower e.command.info.name

/-
  The subcommand that the first word of a tail names, with the
  rest of the tail; otherwise the command itself.
-/
def resolve
    (e : Entry)
    (tail : String) : Command × String :=
  match splitWord? tail.toList with
  | none => (e.command, tail)
  | some (word, rest) =>
    match e.subcommands.lookup (lower (String.ofList word)) with
    | some sub => (sub, String.ofList rest)
    | none => (e.command, tail)

end Entry

end Command

end GuildWarden
