import GuildWarden.Registry.Crate
import GuildWarden.Web.Session
import GuildWarden.Web.Url

/-
  This file defines the programs that use the package registry:
  searching for crates, and finding the documentation of a
  crate or of an item in it.

  Key definitions include:
    * `Registry.search`
    * `Registry.cratesIn`
    * `Registry.docLink`
-/

namespace GuildWarden.Registry

open Program Text

------------------------------------------------------------
-- Searching
------------------------------------------------------------

/- The call that searches for crates. -/
def searchCall
    (s : ServiceSettings)
    (query : String) : Web.Call where
  method := "GET"
  address := s.baseUrl ++ "/crates"
  parameters := some (.map [("q", .text query)])
  body := none
  headers := some (.map [("User-Agent", .text s.userAgent)])

/- The crates that an answer of the registry lists. -/
def cratesIn
    (answer : Payload) : Except Cause (List Crate) := do
  if answer.isMap then
    let items ← answer.fieldMembers "crates"
    (items.filter Payload.isMap).mapM Crate.ofPayload
  else return []

/- The crates that match a query, the best match first. -/
def search
    (s : ServiceSettings)
    (query : String) : Program (List Crate) := do
  let query := trimmed query
  if query = "" then return []
  let complaint := "crate search for " ++ quoted query ++ " failed: "
  let answer ← Web.ask .registry s complaint (searchCall s query)
  settle (cratesIn answer)

------------------------------------------------------------
-- Documentation
------------------------------------------------------------

/- The documentation of the crates that come with the compiler. -/
def builtinDocs : List (String × String) :=
  [
    ("std", "https://doc.rust-lang.org/stable/std/"),
    ("core", "https://doc.rust-lang.org/stable/core/"),
    ("alloc", "https://doc.rust-lang.org/stable/alloc/"),
    ("proc_macro", "https://doc.rust-lang.org/stable/proc_macro/"),
    ("beta", "https://doc.rust-lang.org/beta/std/"),
    ("nightly", "https://doc.rust-lang.org/nightly/std/"),
    ("rustc", "https://doc.rust-lang.org/nightly/nightly-rustc/")
  ]

/- The name of a crate and the path of an item in a query. -/
def splitItem
    (query : String) : String × String :=
  let cs := trim query.toList
  match cutAt? "::".toList cs with
  | some (name, path) => (trimmed (String.ofList name), String.ofList path)
  | none => (String.ofList cs, "")

/- The documentation of a crate that the registry found. -/
def foundDocs
    (c : Crate) : Payload :=
  c.documentation.getD (.text ("https://docs.rs/" ++ c.name))

/- The documentation of a crate, if there is such a crate. -/
def crateDocs
    (s : ServiceSettings)
    (name : String) : Program (Option Payload) := do
  match builtinDocs.lookup name with
  | some url => return some (.text url)
  | none => return (← search s name).head?.map foundDocs

/- An address that searches for an item; only a text is an address. -/
def withItem
    (url : Payload)
    (path : String) : Except Cause Payload :=
  if path = "" then .ok url
  else
    match url with
    | .text s => do
      return .text ((← Url.read s).setQuery "search" path).written
    | _ => .error .badType

/- The documentation of a crate or of an item in a crate. -/
def docLink
    (s : ServiceSettings)
    (query : String) : Program (Option Payload) := do
  let (name, path) := splitItem query
  if name = "" then return none
  match ← crateDocs s name with
  | some url => return some (← settle (withItem url path))
  | none => return none

end GuildWarden.Registry
