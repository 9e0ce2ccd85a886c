import GuildWarden.Gateway.Decode
import GuildWarden.Proofs.Collection.IdMap
import GuildWarden.Proofs.Time.Reading

/-
  This file defines how an event is written as a dispatch, and
  shows what is read from it: the event itself, but for three
  things that are lost in between.

  Key definitions include:
    * `Event.WritesId`
    * `Event.WritesSet`
    * `Event.WritesAuthor`
    * `Event.WritesEmoji`
    * `Event.Writes`
    * `Event.asRead`
    * `Event.IsFaithful`

  Main statements:
    * `Event.decode_of_writes`
    * `Event.asRead_eq_self_iff`
    * `Event.decode_written`
-/

namespace GuildWarden

open Number

------------------------------------------------------------
-- Fields
------------------------------------------------------------

namespace Payload

variable {p : Payload}
variable {name : String}

/- Only a map has a field that is not null. -/
theorem exists_map_of_field
    (hField : p.field name ≠ .null) :
    ∃ fs, p = .map fs ∧ fs.lookup name = some (p.field name) := by
  cases p with
  | map fs =>
      refine ⟨fs, rfl, ?_⟩
      cases hLookup : fs.lookup name with
      | none => simp [field, field?, fields, hLookup] at hField
      | some q => simp [field, field?, fields, hLookup]
  | _ => exact (hField rfl).elim

theorem field?_of_field
    (hField : p.field name ≠ .null) :
    p.field? name = some (p.field name) := by
  rcases exists_map_of_field hField with ⟨fs, rfl, hLookup⟩
  exact hLookup

theorem isMap_of_field
    (hField : p.field name ≠ .null) :
    p.isMap = true := by
  rcases exists_map_of_field hField with ⟨fs, rfl, _⟩
  rfl

theorem field_ne_null_of_field
    {inner : String}
    (hField : (p.field name).field inner ≠ .null) :
    p.field name ≠ .null := by
  intro hNull
  rw [hNull] at hField
  exact hField rfl

theorem isFilled_of_field
    (hField : p.field name ≠ .null) :
    p.isFilled = true := by
  rcases exists_map_of_field hField with ⟨fs, rfl, hLookup⟩
  cases fs with
  | nil => cases hLookup
  | cons f fs => rfl

/- A field that is not null is reached through its parent. -/
theorem subfield_of_field
    (hField : p.field name ≠ .null) :
    p.subfield name = .ok (p.field name) := by
  rw [subfield, isFilled_of_field hField, isMap_of_field hField]
  rfl

theorem fieldText_of_text
    {s : String}
    (hText : p.field name = .text s) :
    p.fieldText name = s := by
  have hField : p.field? name = some (p.field name) :=
    field?_of_field (by simp [hText])
  rw [fieldText, hField, hText]
  rfl

theorem fieldMembers_of_list
    {items : List Payload}
    (hList : p.field name = .list items) :
    p.fieldMembers name = .ok items := by
  have hField : p.field? name = some (p.field name) :=
    field?_of_field (by simp [hList])
  rw [fieldMembers, hField, hList]
  rfl

end Payload

namespace Event

------------------------------------------------------------
-- Written Parts
------------------------------------------------------------

/- An id is not negative and has not too many digits. -/
def IsId
    (n : Int) : Prop :=
  0 ≤ n ∧ (decimal n).length ≤ digitLimit

instance
    (n : Int) :
    Decidable (IsId n) := by
  unfold IsId
  infer_instance

/- An id is written as a number, or as the text of its digits. -/
def WritesId
    (n : Int)
    (p : Payload) : Prop :=
  IsId n ∧ (p = .int n ∨ p = .text (decimal n))

/- What may be missing is written as null if it is. -/
def WritesOption
    {α : Type}
    (writes : α → Payload → Prop) :
    Option α → Payload → Prop
  | some a, p => writes a p
  | none, p => p = .null

/- A set of ids is written as a list of its members, in any order. -/
def WritesSet
    (s : IdSet)
    (p : Payload) : Prop :=
  ∃ ids items, p = .list items ∧
    List.Forall₂ WritesId ids items ∧
      ∀ id, id ∈ ids ↔ s.contains id = true

/- A map is written as a list of its entries, in any order. -/
def WritesMap
    {α : Type}
    (writes : Int × α → Payload → Prop)
    (m : IdMap α)
    (p : Payload) : Prop :=
  ∃ entries items, p = .list items ∧
    List.Forall₂ writes entries items ∧
      ∀ e, e ∈ entries ↔ e ∈ m.entries

/- The id and the name of a role. -/
def WritesRole
    (e : Int × String)
    (p : Payload) : Prop :=
  WritesId e.1 (p.field "id") ∧ p.field "name" = .text e.2

/- The id and the roles of a member. -/
def WritesMember
    (e : Int × IdSet)
    (p : Payload) : Prop :=
  WritesId e.1 ((p.field "user").field "id") ∧
    WritesSet e.2 (p.field "roles")

/-
  Who wrote a message. The name is the one for display if there
  is one, and else the name of the account.
-/
structure WritesAuthor
    (a : Author)
    (p : Payload) : Prop where
  id : WritesId a.id (p.field "id")
  name :
    p.field "global_name" = .null ∧
        p.field "username" = .text a.name ∨
      p.field "global_name" = .text a.name ∧
        (a.name = "" → p.field "username" = .null)
  bot :
    p.field "bot" = .bool a.bot ∨
      a.bot = false ∧ p.field "bot" = .null

/- A timestamp that exists, in its written form. -/
def WritesTimestamp
    (t : Timestamp)
    (p : Payload) : Prop :=
  t.IsValid ∧ p = .text t.written

/- An emoji has a name; a custom one has an id as well. -/
inductive WritesEmoji : String → Payload → Prop where
  | plain {name : String} {p : Payload}
      (hName : p.field "name" = .text name)
      (hId : p.field "id" = .null) :
      WritesEmoji name p
  | custom {name : String} {id : Int} {p : Payload}
      (hName : p.field "name" = .text name)
      (hId : WritesId id (p.field "id")) :
      WritesEmoji (name ++ ":" ++ decimal id) p

------------------------------------------------------------
-- Written Events
------------------------------------------------------------

/- A new session. -/
structure WritesReady
    (r : Ready)
    (d : Payload) : Prop where
  sessionId : d.field "session_id" = .text r.sessionId
  resumeUrl :
    ∃ url, WritesOption (fun u p => p = .text u) url r.resumeUrl
  resumeUrlField : d.field "resume_gateway_url" = r.resumeUrl
  user : WritesId r.userId ((d.field "user").field "id")
  guilds :
    ∃ items, d.field "guilds" = .list items ∧
      List.Forall₂ (fun id p => WritesId id (p.field "id"))
        r.guildIds items

/- A guild that is available. -/
structure WritesGuild
    (g : GuildState)
    (d : Payload) : Prop where
  available : (d.field "unavailable").isFilled = false
  guildId : WritesId g.guildId (d.field "id")
  roles : WritesMap WritesRole g.roleNames (d.field "roles")
  members :
    WritesMap WritesMember g.memberRoles (d.field "members")

/- The roles of the member whom a dispatch is about. -/
def WritesMemberRoles
    (roles : Option IdSet)
    (d : Payload) : Prop :=
  WritesOption WritesSet roles ((d.field "member").field "roles")

/- A new message. -/
structure WritesMessage
    (m : Message)
    (d : Payload) : Prop where
  messageId : WritesId m.messageId (d.field "id")
  channelId : WritesId m.channelId (d.field "channel_id")
  guildId : WritesOption WritesId m.guildId (d.field "guild_id")
  author : WritesAuthor m.author (d.field "author")
  content : d.field "content" = .text m.content
  memberRoles : WritesMemberRoles m.memberRoles d
  timestamp :
    WritesOption WritesTimestamp m.timestamp (d.field "timestamp")

/- A change of a message. -/
structure WritesEdit
    (m : Edit)
    (d : Payload) : Prop where
  messageId : WritesId m.messageId (d.field "id")
  channelId : WritesId m.channelId (d.field "channel_id")
  guildId : WritesOption WritesId m.guildId (d.field "guild_id")
  author : WritesOption WritesAuthor m.author (d.field "author")
  content :
    ∃ content,
      WritesOption (fun s p => p = .text s) content m.content
  contentField : d.field "content" = m.content
  memberRoles : WritesMemberRoles m.memberRoles d
  timestamp :
    WritesOption WritesTimestamp m.timestamp (d.field "timestamp")
  editedTimestamp :
    WritesOption WritesTimestamp m.editedTimestamp
      (d.field "edited_timestamp")

/- A reaction. -/
structure WritesReaction
    (r : Reaction)
    (d : Payload) : Prop where
  guildId : WritesOption WritesId r.guildId (d.field "guild_id")
  channelId : WritesId r.channelId (d.field "channel_id")
  messageId : WritesId r.messageId (d.field "message_id")
  userId : WritesId r.userId (d.field "user_id")
  emoji :
    ∃ key, r.emoji = .text key ∧
      WritesEmoji key (d.field "emoji")
  memberRoles : WritesMemberRoles r.memberRoles d

/- The kinds of dispatches that can carry an event. -/
def kinds : Event → List String
  | .ready _ => ["READY"]
  | .resumed => ["RESUMED"]
  | .guildAvailable _ => ["GUILD_CREATE"]
  | .guildUnavailable _ => ["GUILD_DELETE"]
  | .roleChanged _ _ (some _) =>
    ["GUILD_ROLE_CREATE", "GUILD_ROLE_UPDATE"]
  | .roleChanged _ _ none => ["GUILD_ROLE_DELETE"]
  | .memberRolesChanged _ _ (some _) =>
    ["GUILD_MEMBER_ADD", "GUILD_MEMBER_UPDATE"]
  | .memberRolesChanged _ _ none => ["GUILD_MEMBER_REMOVE"]
  | .banRemoved _ _ => ["GUILD_BAN_REMOVE"]
  | .messageCreate _ => ["MESSAGE_CREATE"]
  | .messageUpdate _ => ["MESSAGE_UPDATE"]
  | .messageDelete _ _ _ => ["MESSAGE_DELETE"]
  | .reaction r =>
    if r.added then ["MESSAGE_REACTION_ADD"]
    else ["MESSAGE_REACTION_REMOVE"]

/- The fields in which an event is written. -/
def WritesFields
    (d : Payload) : Event → Prop
  | .ready r => WritesReady r d
  | .resumed => True
  | .guildAvailable g => WritesGuild g d
  | .guildUnavailable g => WritesId g (d.field "id")
  | .roleChanged g r (some name) =>
    WritesId g (d.field "guild_id") ∧
      WritesRole (r, name) (d.field "role")
  | .roleChanged g r none =>
    WritesId g (d.field "guild_id") ∧
      WritesId r (d.field "role_id")
  | .memberRolesChanged g u (some roles) =>
    WritesId g (d.field "guild_id") ∧ WritesMember (u, roles) d
  | .memberRolesChanged g u none =>
    WritesId g (d.field "guild_id") ∧
      WritesId u ((d.field "user").field "id")
  | .banRemoved g u =>
    WritesId g (d.field "guild_id") ∧
      WritesId u ((d.field "user").field "id")
  | .messageCreate m => WritesMessage m d
  | .messageUpdate m => WritesEdit m d
  | .messageDelete m c g =>
    WritesId m (d.field "id") ∧ WritesId c (d.field "channel_id") ∧
      WritesOption WritesId g (d.field "guild_id")
  | .reaction r => WritesReaction r d

/- A dispatch of a kind, with its data, writes an event. -/
structure Writes
    (e : Event)
    (kind : String)
    (d : Payload) : Prop where
  kind : kind ∈ e.kinds
  isMap : d.isMap = true
  fields : e.WritesFields d

------------------------------------------------------------
-- Events as They Are Read
------------------------------------------------------------

/- Roles that are given as null are read as no roles at all. -/
def rolesAsRead
    (d : Payload)
    (roles : Option IdSet) : Option IdSet :=
  match (d.field "member").field? "roles" with
  | some .null => some IdMap.empty
  | _ => roles

/- A custom emoji whose id is the number zero is read as a plain one. -/
def emojiAsRead
    (d emoji : Payload) : Payload :=
  match (d.field "emoji").field "id" with
  | .int 0 => (d.field "emoji").field "name"
  | _ => emoji

/- The event that is read from the data of a dispatch. -/
def asRead
    (d : Payload) : Event → Event
  | .messageCreate m =>
    .messageCreate
      { m with
        memberRoles := rolesAsRead d m.memberRoles
        timestamp := m.timestamp.map Timestamp.rounded }
  | .messageUpdate m =>
    .messageUpdate
      { m with
        memberRoles := rolesAsRead d m.memberRoles
        timestamp := m.timestamp.map Timestamp.rounded
        editedTimestamp :=
          m.editedTimestamp.map Timestamp.rounded }
  | .reaction r =>
    .reaction
      { r with
        emoji := emojiAsRead d r.emoji
        memberRoles := rolesAsRead d r.memberRoles }
  | e => e

/- Roles that are missing are left out, and not given as null. -/
def LeavesRolesOut
    (d : Payload) : Prop :=
  (d.field "member").field? "roles" ≠ some .null

/-
  Nothing is lost: roles that are missing are left out, the
  offset of a timestamp is not shorter than a second, and the
  id of a custom emoji is not the number zero.
-/
def IsFaithful
    (d : Payload) : Event → Prop
  | .messageCreate m =>
    LeavesRolesOut d ∧ m.timestamp.all Timestamp.hasWholeOffset
  | .messageUpdate m =>
    LeavesRolesOut d ∧ m.timestamp.all Timestamp.hasWholeOffset ∧
      m.editedTimestamp.all Timestamp.hasWholeOffset
  | .reaction _ =>
    LeavesRolesOut d ∧ (d.field "emoji").field "id" ≠ .int 0
  | _ => True

------------------------------------------------------------
-- Reading Parts
------------------------------------------------------------

variable {p d : Payload}

/- A list of written parts is read part by part. -/
theorem mapM_of_forall₂
    {α β γ : Type}
    {writes : α → β → Prop}
    {read : β → Except Cause γ}
    {f : α → γ}
    {as : List α}
    {bs : List β}
    (hRead : ∀ a b, writes a b → read b = .ok (f a))
    (hWrites : List.Forall₂ writes as bs) :
    bs.mapM read = .ok (as.map f) := by
  induction hWrites with
  | nil => rfl
  | cons hFirst _ hInduction =>
      rw [List.mapM_cons, hRead _ _ hFirst, hInduction]
      rfl

theorem filterMap_map_some
    {α : Type}
    (as : List α) :
    (as.map some).filterMap id = as := by
  rw [List.filterMap_map]
  exact List.filterMap_some

/- A written id is not null, and is read back. -/
theorem WritesId.ne_null
    {n : Int}
    (hWrites : WritesId n p) :
    p ≠ .null := by
  rcases hWrites.2 with rfl | rfl <;> simp

theorem readId_of_writes
    {n : Int}
    (hWrites : WritesId n p) :
    readId p = .ok (some n) := by
  rcases hWrites with ⟨⟨hLow, hShort⟩, rfl | rfl⟩
  · rfl
  · obtain ⟨k, rfl⟩ := Int.eq_ofNat_of_zero_le hLow
    have hRead := readInteger?_decimal k hShort
    rw [readId, hRead]

theorem readId_of_option
    {n : Option Int}
    (hWrites : WritesOption WritesId n p) :
    readId p = .ok n := by
  cases n with
  | none =>
      rw [show p = .null from hWrites]
      rfl
  | some n => exact readId_of_writes hWrites

theorem userIdAt_of_writes
    {n : Int}
    (hWrites : WritesId n ((p.field "user").field "id")) :
    userIdAt p = .ok (some n) := by
  rw [userIdAt, Payload.subfield_of_field hWrites.ne_null]
  exact readId_of_writes hWrites

theorem idSet_of_writes
    {s : IdSet}
    (hWrites : WritesSet s p) :
    idSet p = .ok s := by
  rcases hWrites with ⟨ids, items, rfl, hItems, hMembers⟩
  have hRead :=
    mapM_of_forall₂ (f := some)
      (fun _ _ hId => readId_of_writes hId) hItems
  rw [idSet, hRead]
  change Except.ok (IdSet.ofList ((ids.map some).filterMap id)) = _
  rw [filterMap_map_some, IdSet.ofList_eq_of_mem_iff hMembers]

/- The parts of a list that are maps are all of them. -/
theorem maps_of_forall₂
    {α : Type}
    {writes : α → Payload → Prop}
    {as : List α}
    {items : List Payload}
    (hMap : ∀ a item, writes a item → item.isMap = true)
    (hWrites : List.Forall₂ writes as items) :
    maps items = items := by
  rw [maps, List.filter_eq_self]
  intro item hMember
  induction hWrites with
  | nil => exact (List.not_mem_nil hMember).elim
  | cons hFirst _ hInduction =>
      rcases List.mem_cons.mp hMember with rfl | hLater
      · exact hMap _ _ hFirst
      · exact hInduction hLater

theorem roleEntry?_of_writes
    {e : Int × String}
    (hWrites : WritesRole e p) :
    roleEntry? p = .ok (some e) := by
  have hId := readId_of_writes hWrites.1
  have hName := Payload.fieldText_of_text hWrites.2
  rw [ roleEntry?, idAt, hId, hName]
  rfl

theorem memberEntry?_of_writes
    {e : Int × IdSet}
    (hWrites : WritesMember e p) :
    memberEntry? p = .ok (some e) := by
  have hUser := userIdAt_of_writes hWrites.1
  have hRoles := idSet_of_writes hWrites.2
  rw [ memberEntry?, hUser]
  simp only [bind, Except.bind, hRoles]
  rfl

/- A written map is read back entry by entry. -/
theorem ofList_of_writes
    {α : Type}
    {writes : Int × α → Payload → Prop}
    {read : Payload → Except Cause (Option (Int × α))}
    {m : IdMap α}
    {name : String}
    (hRead : ∀ e item, writes e item → read item = .ok (some e))
    (hMap : ∀ e item, writes e item → item.isMap = true)
    (hWrites : WritesMap writes m (d.field name)) :
    ∃ items entries,
      d.fieldMembers name = .ok items ∧
        (maps items).mapM read = .ok entries ∧
          IdMap.ofList (entries.filterMap id) = m := by
  rcases hWrites with ⟨entries, items, hList, hItems, hMembers⟩
  refine ⟨items, entries.map some,
    Payload.fieldMembers_of_list hList, ?_, ?_⟩
  · rw [maps_of_forall₂ hMap hItems]
    exact mapM_of_forall₂ hRead hItems
  · rw [filterMap_map_some]
    exact IdMap.ofList_eq_of_mem_iff hMembers

/- A text is kept, empty or not. -/
theorem orElse_text
    (s : String) :
    (Payload.text s).orElse (.text "") = .text s := by
  by_cases hEmpty : s = ""
  · rw [hEmpty]
    rfl
  · rw [Payload.orElse, if_pos (by simp [Payload.isFilled, hEmpty])]

theorem author_of_writes
    {a : Author}
    (hWrites : WritesAuthor a p) :
    author p = .ok a := by
  have hId := readId_of_writes hWrites.id
  have hMap := Payload.isMap_of_field hWrites.id.ne_null
  have hName :
      (((p.field "global_name").orElse
        (p.field "username")).orElse (.text "")).display =
          a.name := by
    rcases hWrites.name with ⟨hNone, hName⟩ | ⟨hName, hEmpty⟩
    · rw [hNone, hName, Payload.orElse.eq_def .null,
        if_neg (by simp [Payload.isFilled]), orElse_text]
      rfl
    · rw [hName]
      by_cases hNameless : a.name = ""
      · rw [hEmpty hNameless, hNameless]
        rfl
      · have hFilled : (Payload.text a.name).isFilled = true := by
          simp [Payload.isFilled, hNameless]
        rw [Payload.orElse.eq_def (.text a.name) (p.field "username"),
          if_pos hFilled, orElse_text]
        rfl
  have hBot : (p.field "bot").isFilled = a.bot := by
    rcases hWrites.bot with hBot | ⟨hNone, hBot⟩
    · rw [hBot]
      rfl
    · rw [hBot, hNone]
      rfl
  rw [author, idAt, hId, hMap]
  simp only [Bool.not_true, Bool.and_false, hName, hBot]
  rfl

theorem timestamp?_of_writes
    {t : Option Timestamp}
    (hWrites : WritesOption WritesTimestamp t p) :
    p.timestamp? = t.map Timestamp.rounded := by
  cases t with
  | none =>
      rw [show p = .null from hWrites]
      rfl
  | some t =>
      rcases hWrites with ⟨hValid, rfl⟩
      have hRead := Timestamp.read?_written hValid
      have hFilled : (Payload.text t.written).isFilled = true := by
        have hLong : t.written ≠ "" := by
          intro hEmpty
          rw [hEmpty] at hRead
          cases hRead
        simp [Payload.isFilled, hLong]
      rw [Payload.timestamp?, if_pos hFilled]
      exact hRead

/- The digits of a number are a text that is not empty. -/
theorem decimal_ne_empty
    {n : Int}
    (hId : IsId n) :
    decimal n ≠ "" := by
  obtain ⟨k, rfl⟩ := Int.eq_ofNat_of_zero_le hId.1
  intro hEmpty
  have hDigits := toList_decimal k
  rw [hEmpty] at hDigits
  exact Nat.toDigits_ne_nil hDigits.symm

/- An id is filled unless it is the number zero. -/
theorem WritesId.isFilled
    {n : Int}
    (hWrites : WritesId n p)
    (hOther : p ≠ .int 0) :
    p.isFilled = true ∧ p.display = decimal n := by
  have hDigits := decimal_ne_empty hWrites.1
  rcases hWrites.2 with rfl | rfl
  · have hNonzero : n ≠ 0 := fun hZero => hOther (hZero ▸ rfl)
    simp [Payload.isFilled, Payload.display, Payload.shown, hNonzero]
  · simp [Payload.isFilled, Payload.display, hDigits]

theorem emojiAsRead_of_zero
    (emoji : Payload)
    (hZero : (d.field "emoji").field "id" = .int 0) :
    emojiAsRead d emoji = (d.field "emoji").field "name" := by
  simp only [emojiAsRead, hZero]

theorem emojiAsRead_of_other
    (emoji : Payload)
    (hOther : (d.field "emoji").field "id" ≠ .int 0) :
    emojiAsRead d emoji = emoji := by
  unfold emojiAsRead
  split
  · rename_i hZero
    exact (hOther hZero).elim
  · rfl

/- The key of a custom emoji shows its id, unless that is zero. -/
theorem emojiKey_of_writes
    {key : String}
    (hWrites : WritesEmoji key (d.field "emoji")) :
    emojiKey (d.field "emoji") =
      .ok (emojiAsRead d (.text key)) := by
  have hKey {name : String}
      (hName : (d.field "emoji").field "name" = .text name) :
      emojiKey (d.field "emoji") =
        if ((d.field "emoji").field "id").isFilled then
          .ok (.text
            (name ++ ":" ++
              ((d.field "emoji").field "id").display))
        else .ok (.text name) := by
    have hGiven : (d.field "emoji").field "name" ≠ .null := by
      simp [hName]
    have hFilled := Payload.isFilled_of_field hGiven
    have hMap := Payload.isMap_of_field hGiven
    simp only [emojiKey, hFilled, hMap, hName, orElse_text]
    rfl
  cases hWrites with
  | plain hName hId =>
      rw [hKey hName, emojiAsRead, hId]
      rfl
  | custom hName hId =>
      rw [hKey hName]
      by_cases hZero : (d.field "emoji").field "id" = .int 0
      · rw [emojiAsRead_of_zero _ hZero, hZero, hName]
        rfl
      · rcases hId.isFilled hZero with ⟨hFilled, hShown⟩
        rw [emojiAsRead_of_other _ hZero, if_pos hFilled, hShown]

theorem rolesAsRead_of_null
    (roles : Option IdSet)
    (hNull : (d.field "member").field? "roles" = some .null) :
    rolesAsRead d roles = some IdMap.empty := by
  rw [rolesAsRead, hNull]

theorem rolesAsRead_of_other
    (roles : Option IdSet)
    (hOther : LeavesRolesOut d) :
    rolesAsRead d roles = roles := by
  unfold rolesAsRead
  split
  · rename_i hNull
    exact (hOther hNull).elim
  · rfl

/- Only a map has roles. -/
theorem rolesOfMember_eq
    (d : Payload) :
    rolesOfMember d =
      match (d.field "member").field? "roles" with
      | some roles => (idSet roles).map some
      | none => .ok none := by
  unfold rolesOfMember
  cases hMember : d.field "member" with
  | map fs =>
      simp only [Payload.field?, Payload.fields]
      cases fs.lookup "roles" with
      | none => rfl
      | some roles =>
          simp only
          cases idSet roles <;> rfl
  | _ => rfl

/- The roles of a member are read, unless they are given as null. -/
theorem rolesOfMember_of_writes
    {roles : Option IdSet}
    (hWrites : WritesMemberRoles roles d) :
    rolesOfMember d = .ok (rolesAsRead d roles) := by
  rw [rolesOfMember_eq]
  cases roles with
  | some s =>
      have hSet := idSet_of_writes hWrites
      have hGiven : (d.field "member").field "roles" ≠ .null := by
        rcases hWrites with ⟨_, items, hList, _⟩
        simp [hList]
      have hField := Payload.field?_of_field hGiven
      have hOther : LeavesRolesOut d := fun hNull =>
        hGiven (Option.some.inj (hField.symm.trans hNull))
      rw [rolesAsRead_of_other _ hOther, hField]
      simp only [hSet]
      rfl
  | none =>
      have hNull : (d.field "member").field "roles" = .null :=
        hWrites
      cases hField : (d.field "member").field? "roles" with
      | none =>
          have hOther : LeavesRolesOut d := by
            simp [LeavesRolesOut, hField]
          rw [rolesAsRead_of_other _ hOther]
      | some q =>
          have hSame : q = .null := by
            rw [Payload.field, hField] at hNull
            exact hNull
          subst hSame
          rw [rolesAsRead_of_null _ hField]
          rfl

------------------------------------------------------------
-- Reading Events
------------------------------------------------------------

theorem withIds_of_ok
    {a b : Except Cause (Option Int)}
    {m c : Int}
    {make : Int → Int → Except Cause Event}
    {e : Event}
    (hFirst : a = .ok (some m))
    (hSecond : b = .ok (some c))
    (hMake : make m c = .ok e) :
    withIds a b make = .ok (some e) := by
  rw [withIds, hFirst, hSecond]
  change (do return some (← make m c)) = _
  rw [hMake]
  rfl

theorem decodeReady_of_writes
    {r : Ready}
    (hWrites : WritesReady r d) :
    decodeReady d = .ok (some (.ready r)) := by
  rcases hWrites.guilds with ⟨items, hList, hItems⟩
  have hSession :
      d.field? "session_id" = some (.text r.sessionId) := by
    rw [← hWrites.sessionId]
    exact Payload.field?_of_field (by simp [hWrites.sessionId])
  have hUser := userIdAt_of_writes hWrites.user
  have hGuilds := Payload.fieldMembers_of_list hList
  have hMaps : maps items = items :=
    maps_of_forall₂
      (fun _ _ hId => Payload.isMap_of_field hId.ne_null) hItems
  have hIds :
      items.mapM (fun g => idAt g "id") =
        .ok (r.guildIds.map some) :=
    mapM_of_forall₂ (fun _ _ hId => readId_of_writes hId) hItems
  simp only [decodeReady, hSession, hUser, hGuilds, hMaps, hIds,
    bind, Except.bind, pure, Except.pure, filterMap_map_some,
    hWrites.resumeUrlField]
  rfl

theorem decodeGuild_of_writes
    {g : GuildState}
    (hWrites : WritesGuild g d) :
    decodeGuild d = .ok (some (.guildAvailable g)) := by
  have hId := readId_of_writes hWrites.guildId
  rcases ofList_of_writes
      (fun _ _ hRole => roleEntry?_of_writes hRole)
      (fun _ _ hRole => Payload.isMap_of_field hRole.1.ne_null)
      hWrites.roles with
    ⟨roles, named, hRoles, hNamed, hRoleNames⟩
  rcases ofList_of_writes
      (fun _ _ hMember => memberEntry?_of_writes hMember)
      (fun _ _ hMember =>
        Payload.isMap_of_field
          (Payload.field_ne_null_of_field hMember.1.ne_null))
      hWrites.members with
    ⟨members, grouped, hMembers, hGrouped, hMemberRoles⟩
  simp only [decodeGuild, hWrites.available, idAt, hId, hRoles,
    hNamed, hMembers, hGrouped, bind, Except.bind, pure,
    Except.pure, hRoleNames, hMemberRoles]
  rfl

theorem decodeMessage_of_writes
    {m : Message}
    (hWrites : WritesMessage m d) :
    decodeMessage d =
      .ok (some (asRead d (.messageCreate m))) := by
  have hGuild := readId_of_option hWrites.guildId
  have hAuthor := author_of_writes hWrites.author
  have hRoles := rolesOfMember_of_writes hWrites.memberRoles
  have hTime := timestamp?_of_writes hWrites.timestamp
  refine withIds_of_ok (readId_of_writes hWrites.messageId)
    (readId_of_writes hWrites.channelId) ?_
  simp only [idAt, hGuild, hAuthor, hRoles, hTime, bind,
    Except.bind, pure, Except.pure, hWrites.content, orElse_text]
  rfl

theorem decodeEdit_of_writes
    {m : Edit}
    (hWrites : WritesEdit m d) :
    decodeEdit d = .ok (some (asRead d (.messageUpdate m))) := by
  have hGuild := readId_of_option hWrites.guildId
  have hRoles := rolesOfMember_of_writes hWrites.memberRoles
  have hTime := timestamp?_of_writes hWrites.timestamp
  have hEdited := timestamp?_of_writes hWrites.editedTimestamp
  have hAuthor := hWrites.author
  refine withIds_of_ok (readId_of_writes hWrites.messageId)
    (readId_of_writes hWrites.channelId) ?_
  cases hWriter : m.author with
  | none =>
      rw [hWriter] at hAuthor
      have hNone : d.field "author" = .null := hAuthor
      simp only [idAt, hGuild, hNone, hRoles, hTime, hEdited, bind,
        Except.bind, pure, Except.pure, hWrites.contentField,
        asRead, hWriter]
  | some a =>
      rw [hWriter] at hAuthor
      rcases Payload.exists_map_of_field hAuthor.id.ne_null with
        ⟨fs, hMap, _⟩
      have hRead := author_of_writes hAuthor
      rw [hMap] at hRead
      simp only [idAt, hGuild, hMap, hRead, Except.map, hRoles,
        hTime, hEdited, bind, Except.bind, pure, Except.pure,
        hWrites.contentField, asRead, hWriter]

theorem decodeReaction_of_writes
    {r : Reaction}
    (hWrites : WritesReaction r d) :
    decodeReaction r.added d =
      .ok (some (asRead d (.reaction r))) := by
  rcases hWrites.emoji with ⟨key, hKey, hEmoji⟩
  have hGuild := readId_of_option hWrites.guildId
  have hChannel := readId_of_writes hWrites.channelId
  have hMessage := readId_of_writes hWrites.messageId
  have hUser := readId_of_writes hWrites.userId
  have hRoles := rolesOfMember_of_writes hWrites.memberRoles
  have hRead := emojiKey_of_writes hEmoji
  simp only [decodeReaction, idAt, hGuild, hChannel, hMessage,
    hUser, hRoles, hRead, bind, Except.bind, pure, Except.pure,
    asRead, hKey]

/- A dispatch of a known kind is read as its kind asks for. -/
theorem decode_of_lookup
    {kind : String}
    {read : Payload → Except Cause (Option Event)}
    {e : Event}
    (hKind : decoders.lookup kind = some read)
    (hMap : d.isMap = true)
    (hRead : read d = .ok (some e)) :
    decode (.text kind) d = .ok (some e) := by
  have hFilled : (Payload.text kind).isFilled = true := by
    have hNamed : kind ≠ "" := by
      rintro rfl
      have hUnknown : decoders.lookup "" = none := rfl
      rw [hUnknown] at hKind
      cases hKind
    simp [Payload.isFilled, hNamed]
  have hDecoder : decoder? (.text kind) = .ok (some read) := by
    simp only [decoder?, hFilled, hKind]
    rfl
  simp only [decode, hDecoder, hMap, hRead]
  rfl

/- How the dispatches that can carry an event are read. -/
def reader : Event → Payload → Except Cause (Option Event)
  | .ready _ => decodeReady
  | .resumed => fun _ => .ok (some .resumed)
  | .guildAvailable _ => decodeGuild
  | .guildUnavailable _ => decodeGuildGone
  | .roleChanged _ _ (some _) => decodeRole
  | .roleChanged _ _ none => decodeRoleGone
  | .memberRolesChanged _ _ (some _) => decodeMember
  | .memberRolesChanged _ _ none => decodeMemberGone
  | .banRemoved _ _ => decodeBanRemoved
  | .messageCreate _ => decodeMessage
  | .messageUpdate _ => decodeEdit
  | .messageDelete _ _ _ => decodeMessageGone
  | .reaction r => decodeReaction r.added

/- All dispatches that can carry an event are read the same way. -/
theorem lookup_of_mem_kinds
    {e : Event}
    {kind : String}
    (hKind : kind ∈ e.kinds) :
    decoders.lookup kind = some e.reader := by
  have hOne {name : String} (hMember : kind ∈ [name]) :
      kind = name :=
    List.mem_singleton.mp hMember
  have hTwo {first second : String}
      (hMember : kind ∈ [first, second]) :
      kind = first ∨ kind = second := by
    simpa using hMember
  cases e with
  | roleChanged g r name =>
      cases name with
      | none => rw [hOne hKind]; rfl
      | some name => rcases hTwo hKind with rfl | rfl <;> rfl
  | memberRolesChanged g u roles =>
      cases roles with
      | none => rw [hOne hKind]; rfl
      | some roles => rcases hTwo hKind with rfl | rfl <;> rfl
  | reaction r =>
      rcases r with ⟨added, guildId, channelId, messageId, userId,
        emoji, memberRoles⟩
      cases added with
      | true => rw [hOne hKind]; rfl
      | false => rw [hOne hKind]; rfl
  | _ => rw [hOne hKind]; rfl

/- The fields of an event are read as the event. -/
theorem reader_of_writes
    {e : Event}
    (hWrites : e.WritesFields d) :
    e.reader d = .ok (some (e.asRead d)) := by
  cases e with
  | ready r => exact decodeReady_of_writes hWrites
  | resumed => rfl
  | guildAvailable g => exact decodeGuild_of_writes hWrites
  | guildUnavailable g =>
      have hId := readId_of_writes hWrites
      simp only [reader, decodeGuildGone, idAt, hId]
      rfl
  | roleChanged g r name =>
      cases name with
      | none =>
          exact withIds_of_ok (readId_of_writes hWrites.1)
            (readId_of_writes hWrites.2) rfl
      | some name =>
          rcases hWrites with ⟨hGuild, hId, hName⟩
          have hRole : (do readId (← (d.field "role").subfield "id")) =
              Except.ok (some r) := by
            rw [Payload.subfield_of_field hId.ne_null]
            exact readId_of_writes hId
          have hText := Payload.fieldText_of_text hName
          refine withIds_of_ok (readId_of_writes hGuild) hRole ?_
          rw [hText]
          rfl
  | memberRolesChanged g u roles =>
      cases roles with
      | none =>
          exact withIds_of_ok (readId_of_writes hWrites.1)
            (userIdAt_of_writes hWrites.2) rfl
      | some roles =>
          rcases hWrites with ⟨hGuild, hUser, hRoles⟩
          refine withIds_of_ok (readId_of_writes hGuild)
            (userIdAt_of_writes hUser) ?_
          rw [idSet_of_writes hRoles]
          rfl
  | banRemoved g u =>
      exact withIds_of_ok (readId_of_writes hWrites.1)
        (userIdAt_of_writes hWrites.2) rfl
  | messageCreate m => exact decodeMessage_of_writes hWrites
  | messageUpdate m => exact decodeEdit_of_writes hWrites
  | messageDelete m c g =>
      rcases hWrites with ⟨hMessage, hChannel, hGuild⟩
      refine withIds_of_ok (readId_of_writes hMessage)
        (readId_of_writes hChannel) ?_
      rw [idAt, readId_of_option hGuild]
      rfl
  | reaction r => exact decodeReaction_of_writes hWrites

/- What is read from a written event. -/
theorem decode_of_writes
    {e : Event}
    {kind : String}
    (hWrites : e.Writes kind d) :
    decode (.text kind) d = .ok (some (e.asRead d)) :=
  decode_of_lookup (lookup_of_mem_kinds hWrites.kind) hWrites.isMap
    (reader_of_writes hWrites.fields)

------------------------------------------------------------
-- Faithful Writing
------------------------------------------------------------

/- Roles are read back unless they are given as null. -/
theorem rolesAsRead_eq_self_iff
    {roles : Option IdSet}
    (hWrites : WritesMemberRoles roles d) :
    rolesAsRead d roles = roles ↔ LeavesRolesOut d := by
  constructor
  · intro hSame hNull
    rw [rolesAsRead_of_null _ hNull] at hSame
    subst hSame
    rcases hWrites with ⟨_, items, hList, _⟩
    rw [Payload.field, hNull] at hList
    cases hList
  · exact fun hOther => rolesAsRead_of_other roles hOther

theorem map_rounded_eq_self_iff
    {t : Option Timestamp} :
    t.map Timestamp.rounded = t ↔
      t.all Timestamp.hasWholeOffset = true := by
  cases t with
  | none => simp
  | some t => simp [Timestamp.rounded_eq_self_iff]

/- An emoji is read back unless its id is the number zero. -/
theorem emojiAsRead_eq_self_iff
    {key : String}
    (hWrites : WritesEmoji key (d.field "emoji")) :
    emojiAsRead d (.text key) = .text key ↔
      (d.field "emoji").field "id" ≠ .int 0 := by
  constructor
  · intro hSame hZero
    rw [emojiAsRead_of_zero _ hZero] at hSame
    cases hWrites with
    | plain hName hId => cases hId.symm.trans hZero
    | custom hName hId =>
        have hText := Payload.text.inj (hName.symm.trans hSame)
        have hLength := congrArg String.length hText
        simp only [String.length_append] at hLength
        have hColon : ":".length = 1 := rfl
        omega
  · exact fun hOther => emojiAsRead_of_other _ hOther

/- An event is read back exactly if nothing of it is lost. -/
theorem asRead_eq_self_iff
    {e : Event}
    (hWrites : e.WritesFields d) :
    e.asRead d = e ↔ e.IsFaithful d := by
  cases e with
  | messageCreate m =>
      have hRoles := rolesAsRead_eq_self_iff hWrites.memberRoles
      have hTime := map_rounded_eq_self_iff (t := m.timestamp)
      rcases m with ⟨_, _, _, _, _, _, _⟩
      simp only [asRead, IsFaithful, messageCreate.injEq,
        Message.mk.injEq, true_and]
      exact and_congr hRoles hTime
  | messageUpdate m =>
      have hRoles := rolesAsRead_eq_self_iff hWrites.memberRoles
      have hTime := map_rounded_eq_self_iff (t := m.timestamp)
      have hEdited :=
        map_rounded_eq_self_iff (t := m.editedTimestamp)
      rcases m with ⟨_, _, _, _, _, _, _, _⟩
      simp only [asRead, IsFaithful, messageUpdate.injEq,
        Edit.mk.injEq, true_and]
      exact and_congr hRoles (and_congr hTime hEdited)
  | reaction r =>
      have hRoles := rolesAsRead_eq_self_iff hWrites.memberRoles
      rcases hWrites.emoji with ⟨key, hKey, hEmoji⟩
      have hSame := emojiAsRead_eq_self_iff hEmoji
      rcases r with ⟨_, _, _, _, _, emoji, _⟩
      simp only at hKey
      subst hKey
      simp only [asRead, IsFaithful, reaction.injEq,
        Reaction.mk.injEq, true_and]
      rw [and_comm]
      exact and_congr hRoles hSame
  | _ => exact iff_of_true rfl trivial

/-
  An event that is written as a dispatch is read back, unless
  its roles are given as null where they are missing, the
  offset of a timestamp is shorter than a second, or the id of
  its custom emoji is the number zero. In these cases another
  event is read.
-/
theorem decode_written
    {e : Event}
    {kind : String}
    (hWrites : e.Writes kind d) :
    (decode (.text kind) d = .ok (some e) ↔ e.IsFaithful d) ∧
      decode (.text kind) d = .ok (some (e.asRead d)) := by
  have hRead := decode_of_writes hWrites
  refine ⟨?_, hRead⟩
  rw [hRead, Except.ok.injEq, Option.some.injEq]
  exact asRead_eq_self_iff hWrites.fields

/- A reaction with a custom emoji that has the key `x:0`. -/
def zeroReaction : Reaction where
  added := true
  guildId := some 1
  channelId := 2
  messageId := 3
  userId := 4
  emoji := .text "x:0"
  memberRoles := none

/- Its data, with the id of the emoji as a number. -/
def zeroReactionData : Payload :=
  .map
    [
      ("guild_id", .text "1"),
      ("channel_id", .text "2"),
      ("message_id", .text "3"),
      ("user_id", .int 4),
      ("emoji", .map [("id", .int 0), ("name", .text "x")])
    ]

theorem zeroReaction_writes :
    (reaction zeroReaction).Writes "MESSAGE_REACTION_ADD"
      zeroReactionData where
  kind := by decide
  isMap := rfl
  fields :=
    {
      guildId := ⟨by decide +kernel, Or.inr rfl⟩
      channelId := ⟨by decide +kernel, Or.inr rfl⟩
      messageId := ⟨by decide +kernel, Or.inr rfl⟩
      userId := ⟨by decide +kernel, Or.inl rfl⟩
      emoji :=
        ⟨"x:0", rfl,
          @WritesEmoji.custom "x" 0 _ rfl
            ⟨by decide +kernel, Or.inl rfl⟩⟩
      memberRoles := rfl
    }

/- The reaction is not read back: its emoji becomes a plain one. -/
theorem zeroReaction_misread :
    (reaction zeroReaction).Writes "MESSAGE_REACTION_ADD"
        zeroReactionData ∧
      decode (.text "MESSAGE_REACTION_ADD") zeroReactionData ≠
          .ok (some (.reaction zeroReaction)) ∧
        decode (.text "MESSAGE_REACTION_ADD") zeroReactionData =
          .ok (some (.reaction
            { zeroReaction with emoji := .text "x" })) := by
  have hRead := decode_written zeroReaction_writes
  refine ⟨zeroReaction_writes, fun hSame => ?_, hRead.2⟩
  exact (hRead.1.mp hSame).2 rfl

end Event

end GuildWarden
