import GuildWarden.Rehearsal.World

/-
  This file defines how the record of a rehearsal is written:
  a payload for every event and for every entry. Numbers by
  their nature are numbers, times are whole milliseconds.

  Key definitions include:
    * `Rehearsal.eventPayload`
    * `Rehearsal.outcomeName`
    * `Rehearsal.Entry.payload`
-/

namespace GuildWarden.Rehearsal

/- The fields of a map. -/
abbrev Fields :=
  List (String × Payload)

------------------------------------------------------------
-- Values
------------------------------------------------------------

/- A number that may be missing. -/
def numberOr : Option Int → Payload
  | some n => .int n
  | none => .null

/- A list of ids. -/
def idList
    (ids : List Int) : Payload :=
  .list (ids.map .int)

/- A set of ids that may be missing. -/
def idsOr : Option IdSet → Payload
  | some ids => idList ids.toList
  | none => .null

/- A map by ids, as a list of pairs. -/
def pairList
    {α : Type}
    (value : α → Payload)
    (m : IdMap α) : Payload :=
  .list (m.entries.map fun e => .list [.int e.1, value e.2])

/- A time that may be missing. -/
def timeOr : Option Timestamp → Payload
  | some t => .text t.written
  | none => .null

/- Who wrote a message. -/
def authorPayload
    (a : Author) : Payload :=
  .map
    [("id", .int a.id), ("name", .text a.name), ("bot", .bool a.bot)]

/- Where a message was written. -/
def placeFields
    (messageId channelId : Int)
    (guildId : Option Int) : Fields :=
  [
    ("message_id", .int messageId),
    ("channel_id", .int channelId),
    ("guild_id", numberOr guildId)
  ]

------------------------------------------------------------
-- Events
------------------------------------------------------------

/- The name and the fields of an event. -/
def eventFields : Event → String × Fields
  | .ready r =>
    ("Ready",
      [
        ("session_id", .text r.sessionId),
        ("resume_gateway_url", r.resumeUrl),
        ("user_id", .int r.userId),
        ("guild_ids", idList r.guildIds)
      ])
  | .resumed => ("Resumed", [])
  | .guildAvailable s =>
    ("GuildAvailable",
      [
        ("guild_id", .int s.guildId),
        ("role_names", pairList .text s.roleNames),
        ("member_roles", pairList (fun ids => idList ids.toList)
          s.memberRoles)
      ])
  | .guildUnavailable guildId =>
    ("GuildUnavailable", [("guild_id", .int guildId)])
  | .roleChanged guildId roleId name =>
    ("RoleChanged",
      [
        ("guild_id", .int guildId),
        ("role_id", .int roleId),
        ("name", (name.map .text).getD .null)
      ])
  | .memberRolesChanged guildId userId roles =>
    ("MemberRolesChanged",
      [
        ("guild_id", .int guildId),
        ("user_id", .int userId),
        ("role_ids", idsOr roles)
      ])
  | .banRemoved guildId userId =>
    ("BanRemoved",
      [("guild_id", .int guildId), ("user_id", .int userId)])
  | .messageCreate m =>
    ("MessageCreate",
      placeFields m.messageId m.channelId m.guildId ++
        [
          ("author", authorPayload m.author),
          ("content", .text m.content),
          ("member_roles", idsOr m.memberRoles),
          ("timestamp", timeOr m.timestamp)
        ])
  | .messageUpdate m =>
    ("MessageUpdate",
      placeFields m.messageId m.channelId m.guildId ++
        [
          ("author", (m.author.map authorPayload).getD .null),
          ("content", m.content),
          ("member_roles", idsOr m.memberRoles),
          ("timestamp", timeOr m.timestamp),
          ("edited_timestamp", timeOr m.editedTimestamp)
        ])
  | .messageDelete messageId channelId guildId =>
    ("MessageDelete", placeFields messageId channelId guildId)
  | .reaction r =>
    ("ReactionEvent",
      placeFields r.messageId r.channelId r.guildId ++
        [
          ("added", .bool r.added),
          ("user_id", .int r.userId),
          ("emoji", r.emoji),
          ("member_roles", idsOr r.memberRoles)
        ])

/- An event as a map. -/
def eventPayload
    (e : Event) : Payload :=
  let (name, fields) := eventFields e
  .map (("event", .text name) :: fields)

------------------------------------------------------------
-- Entries
------------------------------------------------------------

/- The name of an outcome. -/
def outcomeName : Outcome → String
  | .ignored => "ignored"
  | .handled => "handled"
  | .denied => "denied"
  | .notFound => "not_found"
  | .usageError => "usage_error"
  | .timedOut => "timed_out"
  | .failed => "failed"

/- A field that is left out without a value. -/
def given
    (name : String)
    (value : Option Payload) : Fields :=
  (value.map fun p => (name, p)).toList

/- The fields of a note. -/
def noteFields : Note → Fields
  | .handling command tail =>
    [("handler", .text command), ("tail", .text tail)]
  | .started label => [("start", .text label)]
  | .ended label => [("end", .text label)]
  | .failed label => [("failed", .text label)]
  | .cancelled label => [("cancelled", .text label)]
  | .routed outcome messageId =>
    [
      ("route", .text (outcomeName outcome)),
      ("message", numberOr messageId)
    ]

/- The fields of something that happened. -/
def happeningFields : Happening → Fields
  | .call c =>
    ("http", .text c.name) ::
      (given "json" c.body? ++ given "reason" (c.reason?.map .text))
  | .login token => [("http", .text "LOGIN"), ("token", .text token)]
  | .platformClosed => [("http", .text "CLOSE")]
  | .serviceOpened userAgent timeout =>
    [
      ("web", .text "SESSION"),
      ("headers", .map [("User-Agent", .text userAgent)]),
      ("timeout", .float timeout)
    ]
  | .serviceCall c =>
    ("web", .text c.name) ::
      (given "params" c.parameters ++ given "json" c.body ++
        given "headers" c.headers)
  | .serviceClosed => [("web", .text "CLOSE")]
  | .addressFetched => [("fetch_url", .bool true)]
  | .socketOpened url => [("open", .text url)]
  | .frameSent frame => [("send", frame)]
  | .socketClosed code => [("ws_close", .int code)]
  | .statusChanged s => [("state", .text s.name)]
  | .eventQueued e => [("event", eventPayload e)]
  | .greeted sessionId => [("on_ready", .text sessionId)]
  | .noted n => noteFields n

/- An entry as a map. -/
def Entry.payload
    (e : Entry) : Payload :=
  .map
    (("t", .int (World.milliseconds e.time)) :: happeningFields e.what)

/-
  The entries of a record by the job that made them; those
  that no job made come first. Changes of the status of the
  session are left out.
-/
def byJob
    (es : List Entry) : List Entry :=
  let rank (e : Entry) : Nat := (e.job.map (· + 1)).getD 0
  let isStatus (e : Entry) : Bool :=
    match e.what with
    | .statusChanged _ => true
    | _ => false
  (es.filter fun e => !isStatus e).mergeSort fun a b => rank a ≤ rank b

/- The entries of a record, oldest first. -/
def recordPayload
    (es : List Entry) : Payload :=
  .list (es.map Entry.payload)

end GuildWarden.Rehearsal
