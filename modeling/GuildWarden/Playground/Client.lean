import GuildWarden.Playground.Request
import GuildWarden.Web.Session
import GuildWarden.Web.Url

/-
  This file defines the programs that use the playground:
  running a program, and storing it for a link to it.

  Key definitions include:
    * `Playground.execute`
    * `Playground.createLink`
-/

namespace GuildWarden.Playground

open Program

/- Send a payload to a path of the playground. -/
def post
    (s : ServiceSettings)
    (path : String)
    (body : Payload)
    (headers : Option Payload) : Program Payload :=
  Web.ask .playground s ("playground request to " ++ path ++ " failed: ")
    {
      method := "POST"
      address := s.baseUrl ++ path
      parameters := none
      body := some body
      headers
    }

/- Run a program. -/
def execute
    (s : ServiceSettings)
    (r : Request) : Program Result := do
  let answer ← post s "/execute" r.payload none
  if answer.isMap then settle (Result.ofPayload answer)
  else
    throw (.externalService
      "playground returned an unexpected execute response")

/- The page on which links to the playground are shared. -/
def referer : Payload :=
  .map [("Referer", .text "https://discord.gg/rust-lang")]

/- The address that opens a stored program with its options. -/
def linkTo
    (s : ServiceSettings)
    (r : Request)
    (storedId : String) : Except Cause String := do
  let page ← Url.read (s.baseUrl ++ "/")
  return (page.replaceQuery
    [
      ("version", r.channel),
      ("mode", r.mode),
      ("edition", r.edition),
      ("gist", storedId)
    ]).written

/- Store a program; answers a link that opens it. -/
def createLink
    (s : ServiceSettings)
    (r : Request) : Program String := do
  let body := .map [("code", .text r.code)]
  let stored := (← post s "/meta/gist/" body (some referer)).field "id"
  if stored.isFilled then settle (linkTo s r stored.display)
  else throw (.externalService "playground returned no gist id")

end GuildWarden.Playground
