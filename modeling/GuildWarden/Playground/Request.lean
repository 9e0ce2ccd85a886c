import GuildWarden.Cause
import GuildWarden.Payload.Display
import GuildWarden.Playground.Code
import GuildWarden.Playground.Options

/-
  This file defines what is sent to the playground and what
  comes back: a request with checked options, its payload, and
  the result of a run.

  Key definitions include:
    * `Playground.Request`
    * `Playground.Request.payload`
    * `Playground.buildRequest`
    * `Playground.Result`
    * `Playground.Result.ofPayload`
-/

namespace GuildWarden.Playground

------------------------------------------------------------
-- Requests
------------------------------------------------------------

/- A program and how it is to be run. -/
structure Request where
  code : String
  channel : String
  edition : String
  mode : String
  crateType : String
  tests : Bool
deriving DecidableEq, Repr

namespace Request

/- A request with the default options. -/
def ofCode
    (code : String) : Request where
  code := code
  channel := "nightly"
  edition := "2024"
  mode := "debug"
  crateType := "bin"
  tests := false

/- The body of the call that runs a request. -/
def payload
    (r : Request) : Payload :=
  .map
    [
      ("channel", .text r.channel),
      ("edition", .text r.edition),
      ("code", .text r.code),
      ("crateType", .text r.crateType),
      ("mode", .text r.mode),
      ("tests", .bool r.tests)
    ]

end Request

/- An option with its choices, its default and the name used in complaints. -/
structure Choice where
  option : String
  choices : List String
  default : String
  title : String

/- The release channels. -/
def channelChoice : Choice where
  option := "channel"
  choices := ["stable", "beta", "nightly"]
  default := "nightly"
  title := "release channel"

/- The compilation modes. -/
def modeChoice : Choice where
  option := "mode"
  choices := ["debug", "release"]
  default := "debug"
  title := "compilation mode"

/- The language editions. -/
def editionChoice : Choice where
  option := "edition"
  choices := ["2015", "2018", "2021", "2024"]
  default := "2024"
  title := "edition"

/-
  The value of an option and a complaint about it; a value
  that is no choice is replaced by the default.
-/
def Choice.pick
    (c : Choice)
    (options : Options) : String × String :=
  let value := (options.lookup c.option).getD c.default
  if c.choices.contains value then (value, "")
  else (c.default, "invalid " ++ c.title ++ " `" ++ value ++ "`\n")

/- The request for a program, and the complaints about its options. -/
def buildRequest
    (code : String)
    (options : Options) : Request × String :=
  let channel := channelChoice.pick options
  let mode := modeChoice.pick options
  let edition := editionChoice.pick options
  let request : Request :=
    {
      code
      channel := channel.1
      edition := edition.1
      mode := mode.1
      crateType := if hasMain code then "bin" else "lib"
      tests := false
    }
  (request, channel.2 ++ mode.2 ++ edition.2)

------------------------------------------------------------
-- Results
------------------------------------------------------------

/- The outcome of a run and its two output streams. -/
structure Result where
  success : Bool
  stdout : String
  stderr : String
deriving DecidableEq, Repr

/- The result that a payload describes. -/
def Result.ofPayload
    (p : Payload) : Except Cause Result :=
  if p.isMap then
    .ok
      {
        success := (p.field "success").isFilled
        stdout := ((p.field "stdout").orElse (.text "")).display
        stderr := ((p.field "stderr").orElse (.text "")).display
      }
  else .error .notAMap

end GuildWarden.Playground
