import GuildWarden.Message
import GuildWarden.Store.Transaction
import GuildWarden.Text.Blank
import GuildWarden.Text.Case
import GuildWarden.Text.Escape

/-
  This file defines the tag library of a guild: texts under
  keys. A failure of the store is reported as a failure of an
  external service, whatever its cause. It also defines tag
  keys, the key and body in the tail of a command, and the
  listing of keys in one message.

  Key definitions include:
    * `Tag.normalizeKey`
    * `Tag.splitKeyBody`
    * `Tag.listing`
    * `Tag.find`
    * `Tag.put`
    * `Tag.drop`
    * `Tag.keys`
-/

namespace GuildWarden.Tag

open Program Text

------------------------------------------------------------
-- Keys
------------------------------------------------------------

/- Keys are compared without surrounding blanks and in small letters. -/
def normalizeKey
    (key : String) : String :=
  lower (trimmed key)

/- The key and the body in a tail; both are needed. -/
def splitKeyBody
    (tail : String) : Except Cause (String × String) :=
  match splitWord? (trim tail.toList) with
  | some (key, body) =>
    if (trim body).isEmpty then .error (.usage "")
    else .ok (String.ofList key, String.ofList (trim body))
  | none => .error (.usage "")

/- The room for keys in a listing. -/
def listingBudget : Nat :=
  Message.maxLength.toNat - 20

/- The leading keys that fit, each with a line end. -/
def listedFrom
    (used : Nat) :
    List String → List Char
  | [] => []
  | key :: keys =>
    if used + key.length + 1 > listingBudget then []
    else
      key.toList ++ '\n' :: listedFrom (used + key.length + 1) keys

/- The message that lists keys. -/
def listing
    (keys : List String) : String :=
  "All tags: ```\n" ++ String.ofList (listedFrom 0 keys) ++ "```"

------------------------------------------------------------
-- The library
------------------------------------------------------------

variable {α : Type}

/- Report every failure in the same words. -/
def guarded
    (complaint : String)
    (p : Program α) : Program α :=
  p.handling (fun _ => true) fun _ => throw (.externalService complaint)

/- The body of a tag. -/
def find
    (guildId : Int)
    (key : String) : Program (Option String) := do
  let row ← guarded ("tag lookup failed for " ++ quoted key)
    (Store.reading (Store.execute (.findTag guildId (normalizeKey key))))
  return row.map Store.TagRow.body

/- Write a tag; an older one under the key is replaced. -/
def put
    (guildId : Int)
    (key body : String)
    (authorId : Int) : Program Unit :=
  let key := normalizeKey key
  guarded ("tag write failed for " ++ quoted key)
    (Store.transaction
      (Store.execute (.putTag ⟨guildId, key, body, authorId⟩)))

/- Delete a tag; answers whether there was one. -/
def drop
    (guildId : Int)
    (key : String) : Program Bool :=
  let key := normalizeKey key
  guarded ("tag delete failed for " ++ quoted key)
    (Store.transaction (Store.execute (.dropTag guildId key)))

/- The keys of all tags of a guild, in order. -/
def keys
    (guildId : Int) : Program (List String) :=
  guarded "tag listing failed"
    (Store.reading (Store.execute (.tagKeys guildId)))

end GuildWarden.Tag
