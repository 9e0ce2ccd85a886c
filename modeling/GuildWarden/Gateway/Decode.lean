import GuildWarden.Chat.Mention
import GuildWarden.Gateway.Event
import GuildWarden.Time.Reader

/-
  This file defines the reading of dispatches as events. An
  unknown kind of dispatch and a malformed one are no event;
  a failure that is not a matter of form is passed on.

  Key definitions include:
    * `Payload.members`
    * `Payload.subfield`
    * `Event.decoder?`
    * `Event.decode`
-/

namespace GuildWarden

------------------------------------------------------------
-- Parts of payloads
------------------------------------------------------------

namespace Payload

/- The names of map fields and the characters of texts count as members. -/
def members : Payload → Except Cause (List Payload)
  | .list items => .ok items
  | .text s => .ok (s.toList.map fun c => .text (String.singleton c))
  | .map fs => .ok (fs.map fun f => .text f.1)
  | _ => .error .badType

/- The members of a field; a missing field has none. -/
def fieldMembers
    (p : Payload)
    (name : String) : Except Cause (List Payload) :=
  match p.field? name with
  | some q => q.members
  | none => .ok []

/- A field of a payload that is a map or not filled. -/
def subfield
    (p : Payload)
    (name : String) : Except Cause Payload :=
  if !p.isFilled then .ok .null
  else if p.isMap then .ok (p.field name)
  else .error .notAMap

/- The text of a field; a missing field is empty. -/
def fieldText
    (p : Payload)
    (name : String) : String :=
  ((p.field? name).getD (.text "")).display

/- The timestamp that a payload holds. -/
def timestamp?
    (p : Payload) : Option Timestamp :=
  if p.isFilled then Timestamp.read? p.display else none

end Payload

------------------------------------------------------------
-- Parts of events
------------------------------------------------------------

namespace Event

/- The id in a field. -/
def idAt
    (p : Payload)
    (name : String) : Except Cause (Option Int) :=
  readId (p.field name)

/- The id of the user that a payload describes. -/
def userIdAt
    (p : Payload) : Except Cause (Option Int) := do
  readId (← (p.field "user").subfield "id")

/- The ids in a list; anything else holds none. -/
def idSet : Payload → Except Cause IdSet
  | .list items => do
    let ids ← items.mapM readId
    return IdSet.ofList (ids.filterMap id)
  | _ => .ok IdMap.empty

/- The roles that a payload gives for the member it is about. -/
def rolesOfMember
    (p : Payload) : Except Cause (Option IdSet) :=
  match p.field "member" with
  | .map fs =>
    match fs.lookup "roles" with
    | some roles => do return some (← idSet roles)
    | none => .ok none
  | _ => .ok none

/- The author that a payload describes. -/
def author
    (p : Payload) : Except Cause Author := do
  if p.isFilled && !p.isMap then throw .notAMap
  let id ← idAt p "id"
  let name :=
    ((p.field "global_name").orElse (p.field "username")).orElse (.text "")
  return ⟨id.getD 0, name.display, (p.field "bot").isFilled⟩

/- The members of a list that are maps. -/
def maps
    (ps : List Payload) : List Payload :=
  ps.filter Payload.isMap

------------------------------------------------------------
-- Events
------------------------------------------------------------

/- A new session. -/
def decodeReady
    (d : Payload) : Except Cause (Option Event) := do
  let some session := d.field? "session_id" | throw .missingField
  let userId ← userIdAt d
  let guilds ← d.fieldMembers "guilds"
  let ids ← (maps guilds).mapM fun g => idAt g "id"
  return some <| .ready
    {
      sessionId := session.display
      resumeUrl := d.field "resume_gateway_url"
      userId := userId.getD 0
      guildIds := ids.filterMap id
    }

/- The id and the name of a role. -/
def roleEntry?
    (role : Payload) : Except Cause (Option (Int × String)) := do
  return (← idAt role "id").map fun id => (id, role.fieldText "name")

/- The id and the roles of a member. -/
def memberEntry?
    (member : Payload) : Except Cause (Option (Int × IdSet)) := do
  match ← userIdAt member with
  | some user => return some (user, ← idSet (member.field "roles"))
  | none => return none

/- A guild that became available; an outage is no event. -/
def decodeGuild
    (d : Payload) : Except Cause (Option Event) := do
  if (d.field "unavailable").isFilled then return none
  let some guildId ← idAt d "id" | return none
  let roles ← (maps (← d.fieldMembers "roles")).mapM roleEntry?
  let members ← (maps (← d.fieldMembers "members")).mapM memberEntry?
  return some <| .guildAvailable
    {
      guildId
      roleNames := IdMap.ofList (roles.filterMap id)
      memberRoles := IdMap.ofList (members.filterMap id)
    }

/- A guild that went away. -/
def decodeGuildGone
    (d : Payload) : Except Cause (Option Event) := do
  return (← idAt d "id").map .guildUnavailable

/- Two ids that an event needs; without one of them it is malformed. -/
def withIds
    (a b : Except Cause (Option Int))
    (make : Int → Int → Except Cause Event) :
    Except Cause (Option Event) := do
  match ← a, ← b with
  | some x, some y => return some (← make x y)
  | _, _ => return none

/- A role that was created or renamed. -/
def decodeRole
    (d : Payload) : Except Cause (Option Event) :=
  let role := d.field "role"
  withIds (idAt d "guild_id") (do readId (← role.subfield "id")) fun g r =>
    .ok (.roleChanged g r (some (role.fieldText "name")))

/- A role that was deleted. -/
def decodeRoleGone
    (d : Payload) : Except Cause (Option Event) :=
  withIds (idAt d "guild_id") (idAt d "role_id") fun g r =>
    .ok (.roleChanged g r none)

/- A member who joined or whose roles changed. -/
def decodeMember
    (d : Payload) : Except Cause (Option Event) :=
  withIds (idAt d "guild_id") (userIdAt d) fun g u => do
    return .memberRolesChanged g u (some (← idSet (d.field "roles")))

/- A member who left. -/
def decodeMemberGone
    (d : Payload) : Except Cause (Option Event) :=
  withIds (idAt d "guild_id") (userIdAt d) fun g u =>
    .ok (.memberRolesChanged g u none)

/- A ban that was lifted. -/
def decodeBanRemoved
    (d : Payload) : Except Cause (Option Event) :=
  withIds (idAt d "guild_id") (userIdAt d) fun g u =>
    .ok (.banRemoved g u)

/- A new message. -/
def decodeMessage
    (d : Payload) : Except Cause (Option Event) :=
  withIds (idAt d "id") (idAt d "channel_id") fun m c => do
    let guildId ← idAt d "guild_id"
    let author ← author (d.field "author")
    return .messageCreate
      {
        messageId := m
        channelId := c
        guildId
        author
        content := ((d.field "content").orElse (.text "")).display
        memberRoles := ← rolesOfMember d
        timestamp := (d.field "timestamp").timestamp?
      }

/- A change of a message. -/
def decodeEdit
    (d : Payload) : Except Cause (Option Event) :=
  withIds (idAt d "id") (idAt d "channel_id") fun m c => do
    let guildId ← idAt d "guild_id"
    let writer? ←
      match d.field "author" with
      | .map fs => (author (.map fs)).map some
      | _ => pure none
    return .messageUpdate
      {
        messageId := m
        channelId := c
        guildId
        author := writer?
        content := d.field "content"
        memberRoles := ← rolesOfMember d
        timestamp := (d.field "timestamp").timestamp?
        editedTimestamp := (d.field "edited_timestamp").timestamp?
      }

/- A message that was deleted. -/
def decodeMessageGone
    (d : Payload) : Except Cause (Option Event) :=
  withIds (idAt d "id") (idAt d "channel_id") fun m c => do
    return .messageDelete m c (← idAt d "guild_id")

/- A reaction that was added or removed. -/
def decodeReaction
    (added : Bool)
    (d : Payload) : Except Cause (Option Event) := do
  let channel? ← idAt d "channel_id"
  let message? ← idAt d "message_id"
  let user? ← idAt d "user_id"
  match channel?, message?, user? with
  | some channelId, some messageId, some userId =>
    let guildId ← idAt d "guild_id"
    let emoji ← emojiKey (d.field "emoji")
    let memberRoles ← rolesOfMember d
    return some <| .reaction
      { added, guildId, channelId, messageId, userId, emoji, memberRoles }
  | _, _, _ => return none

------------------------------------------------------------
-- Dispatches
------------------------------------------------------------

/- The reading of each kind of dispatch. -/
def decoders :
    List (String × (Payload → Except Cause (Option Event))) :=
  [
    ("READY", decodeReady),
    ("RESUMED", fun _ => .ok (some .resumed)),
    ("GUILD_CREATE", decodeGuild),
    ("GUILD_DELETE", decodeGuildGone),
    ("GUILD_ROLE_CREATE", decodeRole),
    ("GUILD_ROLE_UPDATE", decodeRole),
    ("GUILD_ROLE_DELETE", decodeRoleGone),
    ("GUILD_MEMBER_ADD", decodeMember),
    ("GUILD_MEMBER_UPDATE", decodeMember),
    ("GUILD_MEMBER_REMOVE", decodeMemberGone),
    ("GUILD_BAN_REMOVE", decodeBanRemoved),
    ("MESSAGE_CREATE", decodeMessage),
    ("MESSAGE_UPDATE", decodeEdit),
    ("MESSAGE_DELETE", decodeMessageGone),
    ("MESSAGE_REACTION_ADD", decodeReaction true),
    ("MESSAGE_REACTION_REMOVE", decodeReaction false)
  ]

/-
  The reading of a kind of dispatch; `none` for an unknown
  kind. A list or a map cannot name a kind.
-/
def decoder?
    (kind : Payload) :
    Except Cause (Option (Payload → Except Cause (Option Event))) :=
  if !kind.isFilled then .ok none
  else
    match kind with
    | .text s => .ok (decoders.lookup s)
    | .list _ => .error .badType
    | .map _ => .error .badType
    | _ => .ok none

/- Causes that make a dispatch malformed. -/
def isMalformed : Cause → Bool
  | .missingField => true
  | .badType => true
  | .badValue _ => true
  | _ => false

/- The event of a dispatch. -/
def decode
    (kind data : Payload) : Except Cause (Option Event) :=
  match decoder? kind with
  | .error cause => .error cause
  | .ok none => .ok none
  | .ok (some read) =>
    if !data.isMap then .ok none
    else
      match read data with
      | .ok event => .ok event
      | .error cause =>
        if isMalformed cause then .ok none else .error cause

end Event

end GuildWarden
