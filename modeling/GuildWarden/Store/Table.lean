import GuildWarden.Payload.Basic

/-
  This file defines the tables of the store: tags, bindings of
  reactions to roles, and temporary bans. The rows of a table
  are in the order in which they were first inserted.

  Key definitions include:
    * `Store.TagRow`
    * `Store.Binding`
    * `Store.BanRow`
    * `Store.Tables`
-/

namespace GuildWarden.Store

/- A tag of a guild, with its author. -/
structure TagRow where
  guildId : Int
  key : String
  body : String
  authorId : Int
deriving DecidableEq, Repr

/- A reaction on a message that grants a role. -/
structure Binding where
  guildId : Int
  channelId : Int
  messageId : Int
  emoji : String
  roleId : Int
deriving DecidableEq, Repr

/- A ban that ends at a time in seconds since 1970. -/
structure BanRow where
  guildId : Int
  userId : Int
  unbanAt : Int
  reason : String
deriving DecidableEq, Repr

namespace TagRow

/- Whether two rows are the same tag. -/
def sameTag
    (a b : TagRow) : Bool :=
  a.guildId == b.guildId && a.key == b.key

end TagRow

namespace Binding

/- Whether two bindings are of the same reaction. -/
def sameReaction
    (a b : Binding) : Bool :=
  a.messageId == b.messageId && a.emoji == b.emoji

/- Whether a binding is of a reaction. -/
def isOf
    (b : Binding)
    (messageId : Int)
    (emoji : String) : Bool :=
  b.messageId == messageId && b.emoji == emoji

end Binding

namespace BanRow

/- Whether two rows are of the same user in the same guild. -/
def sameUser
    (a b : BanRow) : Bool :=
  a.guildId == b.guildId && a.userId == b.userId

end BanRow

/- Replace the row that matches, or add the row at the end. -/
def putRow
    {α : Type}
    (same : α → α → Bool)
    (row : α)
    (rows : List α) : List α :=
  if rows.any (same row) then
    rows.map fun r => if same row r then row else r
  else rows ++ [row]

------------------------------------------------------------
-- Orders
------------------------------------------------------------

/- Tags by guild and key. -/
def sortedTags
    (rows : List TagRow) : List TagRow :=
  rows.mergeSort fun a b =>
    a.guildId < b.guildId || (a.guildId == b.guildId && a.key ≤ b.key)

/- Bindings by guild, message and emoji. -/
def sortedBindings
    (rows : List Binding) : List Binding :=
  rows.mergeSort fun a b =>
    a.guildId < b.guildId ||
      (a.guildId == b.guildId &&
        (a.messageId < b.messageId ||
          (a.messageId == b.messageId && a.emoji ≤ b.emoji)))

/- Bindings by message and emoji. -/
def bindingsByMessage
    (rows : List Binding) : List Binding :=
  rows.mergeSort fun a b =>
    a.messageId < b.messageId ||
      (a.messageId == b.messageId && a.emoji ≤ b.emoji)

/- Bans by guild and user. -/
def sortedBans
    (rows : List BanRow) : List BanRow :=
  rows.mergeSort fun a b =>
    a.guildId < b.guildId || (a.guildId == b.guildId && a.userId ≤ b.userId)

------------------------------------------------------------
-- Tables
------------------------------------------------------------

/- The names of the tables. -/
inductive TableName where
  | tags
  | bindings
  | bans
  | versions
deriving DecidableEq, Repr

/-
  The contents of the store, and which tables have been
  created.
-/
structure Tables where
  tags : List TagRow
  bindings : List Binding
  bans : List BanRow
  versions : List Int
  created : List TableName
deriving DecidableEq, Repr

namespace Tables

/- A new file holds no tables. -/
def blank : Tables where
  tags := []
  bindings := []
  bans := []
  versions := []
  created := []

/- Whether a table has been created. -/
def has
    (t : Tables)
    (n : TableName) : Bool :=
  t.created.contains n

end Tables

end GuildWarden.Store
