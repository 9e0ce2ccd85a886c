import GuildWarden.Command.Basic
import GuildWarden.Command.Invocation
import GuildWarden.Tag.Library

/-
  This file defines the commands that show, list and change
  the tags of a guild. Changing them is for privileged users.

  Key definitions include:
    * `Command.Tags.display`
    * `Command.Tags.create`
    * `Command.Tags.update`
    * `Command.Tags.delete`
    * `Command.Tags.entries`
-/

namespace GuildWarden.Command.Tags

open Program

------------------------------------------------------------
-- Handlers
------------------------------------------------------------

/- The guild of a call; elsewhere there are no tags. -/
def guildOf
    (ctx : Context) : Except Cause Int :=
  match ctx.guildId with
  | some guildId => .ok guildId
  | none =>
    .error (.notFound "Tags are only available inside a server.")

/- There is no tag under a key. -/
def unknown
    (key : String) : Cause :=
  .notFound ("Tag not found for `" ++ key ++ "`")

/- The key that a tail starts with. -/
def keyOf
    (tail : String) : String :=
  (Invocation.splitFirst tail).1

/- Show a tag. -/
def display
    (ctx : Context)
    (tail : String) : Program Unit := do
  let key := keyOf tail
  match ← Tag.find (← settle (guildOf ctx)) key with
  | some body => ctx.say body
  | none => throw (unknown key)

/- List the keys of all tags. -/
def list
    (ctx : Context)
    (_ : String) : Program Unit := do
  let keys ← Tag.keys (← settle (guildOf ctx))
  ctx.say (if keys.isEmpty then "No tags found" else Tag.listing keys)

/- Write a tag. -/
def create
    (ctx : Context)
    (tail : String) : Program Unit := do
  let (key, body) ← settle (Tag.splitKeyBody tail)
  Tag.put (← settle (guildOf ctx)) key body ctx.author.id
  ctx.acknowledge

/- Write a tag over one that exists. -/
def update
    (ctx : Context)
    (tail : String) : Program Unit := do
  let (key, body) ← settle (Tag.splitKeyBody tail)
  let guildId ← settle (guildOf ctx)
  if (← Tag.find guildId key).isNone then throw (unknown key)
  Tag.put guildId key body ctx.author.id
  ctx.acknowledge

/- Delete a tag. -/
def delete
    (ctx : Context)
    (tail : String) : Program Unit := do
  let key := keyOf tail
  unless ← Tag.drop (← settle (guildOf ctx)) key do
    throw (unknown key)
  ctx.acknowledge

------------------------------------------------------------
-- Commands
------------------------------------------------------------

/- A command that changes tags. -/
def changing
    (name usage description : String)
    (arity : Int)
    (handler : Context → String → Program Unit) : Command where
  info := ⟨name, .privileged, usage, description⟩
  arity := arity
  confirms := false
  timeout := none
  handler := handler

/- The ways to change tags. -/
def subcommands : List (String × Command) :=
  [
    ("create",
      changing "tags create" "tags create \x7bkey\x7d value..."
        "Create a tag. Limited to WG & Teams." 2 create),
    ("update",
      changing "tags update" "tags update \x7bkey\x7d value..."
        "Update a tag. Limited to WG & Teams." 2 update),
    ("delete",
      changing "tags delete" "tags delete \x7bkey\x7d"
        "Delete a tag. Limited to WG & Teams." 1 delete)
  ]

/- The command that shows a tag. -/
def tagCommand : Command where
  info := ⟨"tag", .everyone, "tag \x7bkey\x7d", "Show a tag"⟩
  arity := 1
  confirms := false
  timeout := none
  handler := display

/- The command that lists tags. -/
def tagsCommand : Command where
  info := ⟨"tags", .everyone, "tags", "A key value store"⟩
  arity := 0
  confirms := false
  timeout := none
  handler := list

/- The commands on tags. -/
def entries : List Entry :=
  [alone tagCommand, ⟨tagsCommand, subcommands⟩]

end GuildWarden.Command.Tags
