import GuildWarden.Command.Basic
import GuildWarden.Playground.Client

/-
  This file defines the commands that run code on the
  playground: a whole program, or a single expression whose
  value is printed.

  Key definitions include:
    * `Command.Play.outputOf`
    * `Command.Play.run`
    * `Command.Play.play`
    * `Command.Play.evaluate`
    * `Command.Play.entries`
-/

namespace GuildWarden.Command.Play

open Program Playground

------------------------------------------------------------
-- Replies
------------------------------------------------------------

/- The reply while code is running. -/
def runningReply : String :=
  "*Running code on playground...*"

/- The reply to a program without code. -/
def missingProgram : String :=
  "Missing code block. Please use the following markdown:\n" ++
    "\\`\\`\\`rust\n" ++
    "    code here\n" ++
    "\\`\\`\\`"

/- The reply to an expression without code. -/
def missingExpression : String :=
  "Missing code block. Please use the following markdown:\n" ++
    "    \\`code here\\`\n" ++
    "    or\n" ++
    "    \\`\\`\\`rust\n" ++
    "        code here\n" ++
    "    \\`\\`\\`"

/- The reply to an expression that is a program. -/
def mainReply
    (mark : String) : String :=
  "code passed to " ++ mark ++ "eval should not contain `fn main`"

------------------------------------------------------------
-- Output
------------------------------------------------------------

/- More lines than these are not shown. -/
def lineLimit : Nat :=
  45

/- The room for the output and the complaints about options. -/
def lengthLimit : Nat :=
  Message.maxLength.toNat - 7

/- The output that is shown of a result. -/
def outputOf
    (options : Options)
    (r : Result) : String :=
  if options.lookup "warn" = some "true" then
    r.stderr ++ "\n" ++ r.stdout
  else if r.success then r.stdout
  else r.stderr

/- Whether an output has to be stored instead of shown. -/
def isTooLarge
    (complaints output : String) : Bool :=
  lengthLimit < output.length + complaints.length ||
    lineLimit < Text.lineCount output.toList

/- The reply that shows an output. -/
def shown
    (complaints output : String) : String :=
  complaints ++
    if output = "" then "compilation succeeded."
    else "```\n" ++ output ++ "```"

/- The reply that links to a program. -/
def linked
    (complaints link : String) : String :=
  complaints ++ "Output too large. Playground link: " ++ link

------------------------------------------------------------
-- Handlers
------------------------------------------------------------

/- Run code; answers the reply. -/
def run
    (s : ServiceSettings)
    (ctx : Context)
    (code : String)
    (options : Options) : Program String := do
  let (request, complaints) := buildRequest code options
  ctx.say runningReply
  let output := outputOf options (← execute s request)
  if isTooLarge complaints output then
    return linked complaints (← createLink s request)
  else return shown complaints output

/- Run a program. -/
def play
    (s : ServiceSettings)
    (ctx : Context)
    (tail : String) : Program Unit := do
  let (options, rest) := readOptions tail
  match extractCode? rest false with
  | none => ctx.say missingProgram
  | some code => ctx.say (← run s ctx code options)

/- Print the value of an expression. -/
def evaluate
    (s : ServiceSettings)
    (ctx : Context)
    (tail : String) : Program Unit := do
  let (options, rest) := readOptions tail
  match extractCode? rest true with
  | none => ctx.say missingExpression
  | some code =>
    if hasMain code then ctx.say (mainReply ctx.mark)
    else ctx.say (← run s ctx (wrapExpression code) options)

------------------------------------------------------------
-- Commands
------------------------------------------------------------

/- The time for two calls to the playground and a little more. -/
def span
    (s : ServiceSettings) : Span :=
  match s.timeout, Span.ofBinary64 s.timeout with
  | .infinite true, shortest => shortest
  | _, .seconds n => .seconds (n * 2 + 5)
  | _, .endless => .endless

/- A command that runs code. -/
def running
    (s : ServiceSettings)
    (name usage description : String)
    (handler : Context → String → Program Unit) : Entry :=
  alone
    {
      info := ⟨name, .everyone, usage, description⟩
      arity := 0
      confirms := false
      timeout := some (span s)
      handler
    }

/- The options as they are shown in a usage line. -/
def optionsUsage : String :=
  " mode=\x7b\x7d channel=\x7b\x7d edition=\x7b\x7d warn=\x7b\x7d "

/- The commands that run code. -/
def entries
    (s : ServiceSettings) : List Entry :=
  [
    running s "play"
      ("play" ++ optionsUsage ++ "``\u200b`code``\u200b`")
      "Compile and run rust code in a playground" (play s),
    running s "eval"
      ("eval" ++ optionsUsage ++ "`code`")
      "Evaluate a single rust expression" (evaluate s)
  ]

end GuildWarden.Command.Play
