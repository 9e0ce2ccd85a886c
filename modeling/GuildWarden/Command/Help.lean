import GuildWarden.Command.Router

/-
  This file defines the help command. It lists the commands
  that its caller may use, or tells how one of them is called.

  Key definitions include:
    * `Command.Help.Topic`
    * `Command.Help.Guide`
    * `Command.Help.Guide.overview`
    * `Command.Help.Guide.explain`
    * `Command.Help.entry`
-/

namespace GuildWarden.Command.Help

open Program Text

------------------------------------------------------------
-- Topics
------------------------------------------------------------

/- What is told about a command and its subcommands. -/
structure Topic where
  info : Info
  parts : List (String × Info)
deriving DecidableEq, Repr

/- What is told about an entry. -/
def Topic.ofEntry
    (e : Entry) : Topic where
  info := e.command.info
  parts := e.subcommands.map fun s => (s.1, s.2.info)

/- What is told about the help command itself. -/
def info : Info :=
  ⟨"help", .everyone, "help [command]", "This menu"⟩

/- The topics by their names in small letters. -/
structure Guide where
  roles : RoleSettings
  mark : String
  topics : List (String × Topic)
deriving DecidableEq, Repr

namespace Guide

/- The guide to the commands of a router, and to help. -/
def ofRouter
    (r : Router) : Guide where
  roles := r.roles
  mark := r.mark
  topics :=
    r.entries.map (fun e => (e.1, Topic.ofEntry e.2)) ++
      [(info.name, ⟨info, []⟩)]

/- Whether the caller may use a command. -/
def allows
    (g : Guide)
    (ctx : Context)
    (i : Info) : Program Bool :=
  Permission.holds g.roles ctx.guildId ctx.author.id i.tier
    ctx.memberRoles

/- The commands of a list that the caller may use. -/
def allowed
    (g : Guide)
    (ctx : Context) :
    List Info → Program (List Info)
  | [] => return []
  | i :: rest => do
    let mayUse ← g.allows ctx i
    let others ← allowed g ctx rest
    return if mayUse then i :: others else others

/- Everything that is listed, apart from help itself. -/
def listed
    (g : Guide) : List Info :=
  (g.topics.filter fun t => t.2.info.name != info.name).flatMap
    fun t => t.2.info :: t.2.parts.map (·.2)

------------------------------------------------------------
-- Overview
------------------------------------------------------------

/- A text with spaces up to the column of descriptions. -/
def padded
    (s : String) : String :=
  s ++ String.ofList (List.replicate (32 - s.length) ' ')

/- The line of a command. -/
def line
    (g : Guide)
    (i : Info) : String :=
  padded (i.usageLine g.mark) ++ i.description

/- The lines after the commands. -/
def closingLines
    (g : Guide) : List String :=
  [
    "\t" ++ padded (g.mark ++ "help") ++ "This menu",
    "\nType " ++ g.mark ++
      "help command for more info on a command.",
    "\nAdditional Info:",
    "\tYou can edit your message to the bot and the bot will " ++
      "edit its response."
  ]

/- A block of lines. -/
def block
    (ls : List String) : String :=
  "```\n" ++ String.intercalate "\n" ls ++ "\n```"

/- List the commands. -/
def overview
    (g : Guide)
    (ctx : Context) : Program Unit := do
  let usable ← g.allowed ctx g.listed
  let ls := usable.map fun i => "\t" ++ g.line i
  ctx.say (block ("Commands:" :: ls ++ g.closingLines))

------------------------------------------------------------
-- Topics on request
------------------------------------------------------------

/- A query without the characters of the mark at its start. -/
def withoutMark
    (g : Guide)
    (query : String) : List Char :=
  query.toList.dropWhile fun c => g.mark.toList.contains c

/- The topic of a query: a command, or one of its subcommands. -/
def topic?
    (g : Guide)
    (query : String) : Option Topic := do
  let (name, rest) ← splitWord? (g.withoutMark query)
  let t ← g.topics.lookup (lower (String.ofList name))
  let part := do
    let word ← (words rest).head?
    t.parts.lookup (lower (String.ofList word))
  return (part.map fun i => ⟨i, []⟩).getD t

/- There is no such command, or none for the caller. -/
def unknown
    (query : String) : Cause :=
  .notFound ("No command named `" ++ query ++ "`")

/- Tell how the command of a query is called. -/
def explain
    (g : Guide)
    (ctx : Context)
    (query : String) : Program Unit := do
  let some t := g.topic? query | throw (unknown query)
  unless ← g.allows ctx t.info do throw (unknown query)
  let parts ← g.allowed ctx (t.parts.map (·.2))
  let usage := block [t.info.usageLine g.mark]
  let partLines :=
    if parts.isEmpty then "" else block (parts.map g.line)
  ctx.say (t.info.description ++ "\n" ++ usage ++ partLines)

/- Answer a call for help. -/
def answer
    (g : Guide)
    (ctx : Context)
    (tail : String) : Program Unit :=
  let query := trimmed tail
  if query = "" then g.overview ctx else g.explain ctx query

end Guide

/- The help command for a router. -/
def entry
    (r : Router) : Entry :=
  alone
    {
      info
      arity := 0
      confirms := false
      timeout := none
      handler := (Guide.ofRouter r).answer
    }

end GuildWarden.Command.Help
