import GuildWarden.Cause
import GuildWarden.Gateway.Decode
import GuildWarden.Number.Integer
import GuildWarden.Payload.Display
import GuildWarden.Payload.Item
import GuildWarden.Text.Blank
import GuildWarden.Time.Reader

/-
  This file defines crate summaries, the answers of the
  package registry, and the card that shows one in a message.

  Key definitions include:
    * `Crate`
    * `Crate.ofPayload`
    * `Crate.card`
-/

namespace GuildWarden

/- A crate of the registry; its documentation may have any shape. -/
structure Crate where
  id : String
  name : String
  version : String
  downloads : Int
  description : String
  documentation : Option Payload
  updatedAt : Option Timestamp
deriving BEq, Repr

namespace Crate

/- The page of a crate. -/
def url
    (c : Crate) : String :=
  "https://crates.io/crates/" ++ c.id

/- The crate that a map describes. -/
def ofPayload
    (p : Payload) : Except Cause Crate := do
  let downloads ← ((p.field "downloads").orElse (.int 0)).wholeNumber
  let documentation := p.field "documentation"
  return {
    id := ((p.field "id").orElse (p.field "name")).display
    name := ((p.field "name").orElse (p.field "id")).display
    version :=
      (((p.field "max_stable_version").orElse
        (p.field "newest_version")).orElse (.text "?")).display
    downloads
    description :=
      Text.trimmed ((p.field "description").orElse (.text "")).display
    documentation :=
      if documentation.isFilled then some documentation else none
    updatedAt := (p.field "updated_at").timestamp?
  }

------------------------------------------------------------
-- Cards
------------------------------------------------------------

/- The colour of a card. -/
def cardColor : Int :=
  0xDEA584

/- A named value on a card. -/
def cardField
    (name value : String)
    (besideOthers : Bool) : Payload :=
  .map
    [
      ("name", .text name),
      ("value", .text value),
      ("inline", .bool besideOthers)
    ]

/- A field of a card that is left out when it is empty. -/
def unlessEmpty
    (name value : String) : List (String × Payload) :=
  if value = "" then [] else [(name, .text value)]

/-
  The time on a card, in universal time. A local time is taken
  as universal, except on the very first day of the calendar,
  which has no day before it.
-/
def cardTime
    (t : Timestamp) : Except Cause String :=
  match t.offset with
  | none =>
    if Calendar.dayNumber t.date ≤ 1 then .error (.badValue "")
    else .ok { t with offset := some 0 }.written
  | some _ =>
    match t.inUniversalTime? with
    | some u => .ok u.written
    | none => .error .outOfRange

/- The card of a crate. -/
def card
    (c : Crate) : Except Cause Payload := do
  let time ←
    match c.updatedAt with
    | some t => do pure [("timestamp", Payload.text (← cardTime t))]
    | none => pure []
  let docs :=
    match c.documentation with
    | some d => [cardField "Docs" d.display false]
    | none => []
  return .map <|
    [
      ("footer", .map [("text", .text "Last updated")]),
      ("fields", .list
        ([
          cardField "Version" c.version true,
          cardField "Downloads" (Number.groupThousands c.downloads) true
        ] ++ docs)),
      ("color", .int cardColor)
    ] ++ time ++ [("type", .text "rich")] ++
      unlessEmpty "description" c.description ++
      [("url", .text c.url)] ++ unlessEmpty "title" c.name

end Crate

end GuildWarden
