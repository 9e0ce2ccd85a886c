import GuildWarden.Command.Basic
import GuildWarden.Registry.Client

/-
  This file defines the commands that look crates up in the
  package registry and link to their documentation.

  Key definitions include:
    * `Command.Crates.crate`
    * `Command.Crates.docs`
    * `Command.Crates.entries`
-/

namespace GuildWarden.Command.Crates

open Program

/- No crate matches a query. -/
def noneFound
    (query : String) : Cause :=
  .notFound ("No crates found for `" ++ query ++ "`")

/- Show the crate that matches a query best. -/
def crate
    (s : ServiceSettings)
    (ctx : Context)
    (tail : String) : Program Unit := do
  let query := Text.trimmed tail
  match ← Registry.search s query with
  | [] => throw (noneFound query)
  | c :: _ => ctx.reply .null (some (← settle c.card))

/- Link to documentation. -/
def docs
    (s : ServiceSettings)
    (ctx : Context)
    (tail : String) : Program Unit := do
  let query := Text.trimmed tail
  match ← Registry.docLink s query with
  | some link => ctx.reply link none
  | none => throw (noneFound query)

/- A command that asks the registry. -/
def asking
    (name usage description : String)
    (handler : Context → String → Program Unit) : Entry :=
  alone
    {
      info := ⟨name, .everyone, usage, description⟩
      arity := 1
      confirms := false
      timeout := none
      handler
    }

/- The commands on crates. -/
def entries
    (s : ServiceSettings) : List Entry :=
  [
    asking "crate" "crate \x7bquery...\x7d"
      "Lookup crates on crates.io" (crate s),
    asking "docs" "docs \x7bquery...\x7d"
      "Lookup documentation" (docs s)
  ]

end GuildWarden.Command.Crates
