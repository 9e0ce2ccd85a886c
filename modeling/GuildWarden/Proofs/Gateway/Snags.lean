import Mathlib.Data.List.Forall2
import GuildWarden.Proofs.Gateway.Reading

/-
  This file says on which dispatches reading fails instead of
  dropping them. Two things are snags for every kind of
  dispatch: something filled in the place of a map, and an
  endless number in the place of an id. Each kind has the
  places where it meets them, and anywhere else its payload
  may hold whatever it likes.

  Key definitions include:
    * `Payload.isOpaque`
    * `Payload.isEndless`
    * `Event.escapes`
    * `Event.snags`

  Main statements:
    * `Event.escapes_decoders`
    * `Event.decode_fails_iff`
-/

namespace GuildWarden

open Gateway

variable {α β : Type}

------------------------------------------------------------
-- Failures
------------------------------------------------------------

namespace Event

/- A failure that is not taken for a malformed dispatch. -/
def escapes : Except Cause α → Bool
  | .ok _ => false
  | .error cause => !isMalformed cause

/- Every failure escapes. -/
def IsStrict
    (result : Except Cause α) : Prop :=
  ∀ cause, result = .error cause → isMalformed cause = false

/- Something was read and was there. -/
def finds : Except Cause (Option α) → Bool
  | .ok (some _) => true
  | _ => false

end Event

------------------------------------------------------------
-- Snags
------------------------------------------------------------

namespace Payload

/- A number that is beyond all others. -/
def isEndless : Payload → Bool
  | .float (.infinite _) => true
  | _ => false

/- Something is there, and it has no fields to look into. -/
def isOpaque
    (p : Payload) : Bool :=
  p.isFilled && !p.isMap

/- The id inside a payload is out of reach or endless. -/
def barsId
    (p : Payload) : Bool :=
  p.isOpaque || (p.field "id").isEndless

/- An id can be read. -/
def holdsId
    (p : Payload) : Bool :=
  Event.finds (readId p)

/- One of the ids in a list is endless. -/
def listsEndless : Payload → Bool
  | .list items => items.any isEndless
  | _ => false

/- The maps in the list of a field. -/
def entries
    (p : Payload)
    (name : String) : List Payload :=
  match p.field name with
  | .list items => Event.maps items
  | _ => []

end Payload

namespace Event

open Payload

/- A new session without an id is dropped before all else. -/
def readySnag
    (d : Payload) : Bool :=
  (d.field? "session_id").isSome &&
    ((d.field "user").barsId ||
      (d.entries "guilds").any fun g => (g.field "id").isEndless)

/- The roles of a member are looked at if the user has an id. -/
def entrySnag
    (member : Payload) : Bool :=
  (member.field "user").barsId ||
    (((member.field "user").field "id").holdsId &&
      (member.field "roles").listsEndless)

/- The members of a guild come after its roles. -/
def guildSnag
    (d : Payload) : Bool :=
  !(d.field "unavailable").isFilled &&
    ((d.field "id").isEndless ||
      ((d.field "id").holdsId &&
        ((d.entries "roles").any
            (fun role => (role.field "id").isEndless) ||
          ((d.fieldMembers "roles").isOk &&
            (d.entries "members").any entrySnag))))

def guildGoneSnag
    (d : Payload) : Bool :=
  (d.field "id").isEndless

def roleSnag
    (d : Payload) : Bool :=
  (d.field "guild_id").isEndless || (d.field "role").barsId

def roleGoneSnag
    (d : Payload) : Bool :=
  (d.field "guild_id").isEndless || (d.field "role_id").isEndless

/- A member who left and a ban that was lifted name a user. -/
def userSnag
    (d : Payload) : Bool :=
  (d.field "guild_id").isEndless || (d.field "user").barsId

def memberSnag
    (d : Payload) : Bool :=
  userSnag d ||
    ((d.field "guild_id").holdsId &&
      ((d.field "user").field "id").holdsId &&
      (d.field "roles").listsEndless)

/-
  A message is looked into if both of its own ids are there.
  The places beyond them depend on the kind of dispatch.
-/
def messageSnag
    (beyond : Payload → Bool)
    (d : Payload) : Bool :=
  (d.field "id").isEndless || (d.field "channel_id").isEndless ||
    ((d.field "id").holdsId && (d.field "channel_id").holdsId &&
      ((d.field "guild_id").isEndless || beyond d))

/- The roles of whoever wrote or reacted. -/
def rolesSnag
    (d : Payload) : Bool :=
  ((d.field "member").field "roles").listsEndless

def reactionSnag
    (d : Payload) : Bool :=
  let ids := ["channel_id", "message_id", "user_id"].map d.field
  ids.any isEndless ||
    (ids.all holdsId &&
      ((d.field "guild_id").isEndless ||
        (d.field "emoji").isOpaque || rolesSnag d))

/- The snags of each kind of dispatch. -/
def snags : List (String × (Payload → Bool)) :=
  [
    ("READY", readySnag),
    ("RESUMED", fun _ => false),
    ("GUILD_CREATE", guildSnag),
    ("GUILD_DELETE", guildGoneSnag),
    ("GUILD_ROLE_CREATE", roleSnag),
    ("GUILD_ROLE_UPDATE", roleSnag),
    ("GUILD_ROLE_DELETE", roleGoneSnag),
    ("GUILD_MEMBER_ADD", memberSnag),
    ("GUILD_MEMBER_UPDATE", memberSnag),
    ("GUILD_MEMBER_REMOVE", userSnag),
    ("GUILD_BAN_REMOVE", userSnag),
    ("MESSAGE_CREATE",
      messageSnag fun d => (d.field "author").barsId || rolesSnag d),
    -- Here an author who is no map counts as none.
    ("MESSAGE_UPDATE",
      messageSnag fun d =>
        ((d.field "author").field "id").isEndless || rolesSnag d),
    ("MESSAGE_DELETE", messageSnag fun _ => false),
    ("MESSAGE_REACTION_ADD", reactionSnag),
    ("MESSAGE_REACTION_REMOVE", reactionSnag)
  ]

/- A dispatch of a known kind has a snag. -/
def hasSnag
    (name : String)
    (d : Payload) : Bool :=
  match snags.lookup name with
  | some snag => snag d
  | none => false

/- A filled list or map is not even an unknown kind. -/
def isNoKind : Payload → Bool
  | .list items => !items.isEmpty
  | .map fs => !fs.isEmpty
  | _ => false

------------------------------------------------------------
-- Results
------------------------------------------------------------

theorem strict_ok
    (a : α) :
    IsStrict (.ok a) :=
  Cause.failsBy_ok a

theorem strict_map
    {result : Except Cause α}
    (f : α → β)
    (hResult : IsStrict result) :
    IsStrict (result.map f) :=
  Cause.failsBy_map f hResult

theorem strict_bind
    {first : Except Cause α}
    {next : α → Except Cause β}
    (hFirst : IsStrict first)
    (hNext : ∀ a, IsStrict (next a)) :
    IsStrict (first >>= next) :=
  Cause.failsBy_bind hFirst hNext

/- What is made of a result in the end does not count. -/
theorem escapes_bind_ok
    {first : Except Cause α}
    {next : α → β} :
    escapes (first >>= fun a => .ok (next a)) =
      escapes first := by
  cases first <;> rfl

/-
  After a step whose failures all escape, it only matters
  whether the rest escapes, where the step succeeds.
-/
theorem escapes_bind
    {first : Except Cause α}
    {next : α → Except Cause β}
    {rest : Bool}
    (hFirst : IsStrict first)
    (hNext : ∀ a, first = .ok a → escapes (next a) = rest) :
    escapes (first >>= next) = (escapes first || rest) := by
  cases first with
  | error cause =>
      have hEscapes : isMalformed cause = false :=
        hFirst cause rfl
      simp [bind, Except.bind, escapes, hEscapes]
  | ok a =>
      rw [show escapes (Except.ok a) = false from rfl,
        Bool.false_or]
      exact hNext a rfl

/- What follows an id only matters if the id is there. -/
theorem escapes_bind_found
    {first : Except Cause (Option α)}
    {next : Option α → Except Cause β}
    {rest : Bool}
    (hFirst : IsStrict first)
    (hNone : escapes (next none) = false)
    (hSome : ∀ a, escapes (next (some a)) = rest) :
    escapes (first >>= next) =
      (escapes first || (finds first && rest)) := by
  apply escapes_bind hFirst
  intro a hRead
  rw [hRead]
  cases a with
  | none => exact hNone
  | some a => exact hSome a

theorem strict_mapM
    {f : α → Except Cause β}
    (hStrict : ∀ a, IsStrict (f a))
    (items : List α) :
    IsStrict (items.mapM f) :=
  Cause.failsBy_mapM hStrict items

/- A list escapes as one of its members. -/
theorem escapes_mapM
    {f : α → Except Cause β}
    (hStrict : ∀ a, IsStrict (f a))
    (items : List α) :
    escapes (items.mapM f) =
      items.any fun a => escapes (f a) := by
  induction items with
  | nil => rfl
  | cons item items hInduction =>
      rw [List.mapM_cons, List.any_cons, ← hInduction]
      apply escapes_bind (hStrict item)
      intro first _
      exact escapes_bind_ok

------------------------------------------------------------
-- Parts of payloads
------------------------------------------------------------

theorem escapes_readId
    (p : Payload) :
    escapes (readId p) = p.isEndless := by
  cases p with
  | float x => cases x <;> rfl
  | _ => rfl

theorem strict_readId
    (p : Payload) :
    IsStrict (readId p) := by
  intro cause hError
  unfold readId at hError
  split at hError <;> cases hError
  rfl

/- What is not filled has no fields, and they read as null. -/
theorem subfield_eq
    (p : Payload)
    (name : String) :
    p.subfield name =
      if p.isOpaque then .error .notAMap
      else .ok (p.field name) := by
  have hBare (hNone : p.isFilled = false) :
      p.field name = .null := by
    cases p with
    | map fs =>
        cases fs with
        | nil => rfl
        | cons f fs => cases hNone
    | _ => rfl
  unfold subfield isOpaque
  cases hFilled : p.isFilled with
  | false => simp [hBare hFilled]
  | true => cases p.isMap <;> rfl

/- The id inside a payload, if there is an inside. -/
theorem idInside_eq
    (p : Payload) :
    (p.subfield "id" >>= readId) =
      if p.isOpaque then .error .notAMap
      else readId (p.field "id") := by
  rw [subfield_eq]
  cases p.isOpaque <;> rfl

theorem escapes_idInside
    (p : Payload) :
    escapes (p.subfield "id" >>= readId) = p.barsId := by
  rw [idInside_eq, barsId, ← escapes_readId]
  cases p.isOpaque <;> rfl

theorem strict_idInside
    (p : Payload) :
    IsStrict (p.subfield "id" >>= readId) := by
  rw [idInside_eq]
  split
  · intro cause hError
    cases hError
    rfl
  · exact strict_readId _

theorem finds_idInside
    (p : Payload) :
    finds (p.subfield "id" >>= readId) =
      (!p.isOpaque && (p.field "id").holdsId) := by
  rw [idInside_eq]
  cases p.isOpaque <;> rfl

theorem escapes_idAt
    (p : Payload)
    (name : String) :
    escapes (idAt p name) = (p.field name).isEndless :=
  escapes_readId _

theorem strict_idAt
    (p : Payload)
    (name : String) :
    IsStrict (idAt p name) :=
  strict_readId _

theorem escapes_userIdAt
    (p : Payload) :
    escapes (userIdAt p) = (p.field "user").barsId :=
  escapes_idInside _

theorem strict_userIdAt
    (p : Payload) :
    IsStrict (userIdAt p) :=
  strict_idInside _

theorem strict_idSet
    (p : Payload) :
    IsStrict (idSet p) := by
  unfold idSet
  split
  · apply strict_bind (strict_mapM strict_readId _)
    intro ids
    exact strict_ok _
  · exact strict_ok _

theorem escapes_idSet
    (p : Payload) :
    escapes (idSet p) = p.listsEndless := by
  cases p with
  | list items =>
      have hIds :
          escapes (idSet (.list items)) =
            escapes (items.mapM readId) :=
        escapes_bind_ok
      rw [hIds, escapes_mapM strict_readId]
      simp only [escapes_readId]
      rfl
  | _ => rfl

theorem escapes_rolesOfMember
    (d : Payload) :
    escapes (rolesOfMember d) = rolesSnag d := by
  unfold rolesOfMember rolesSnag
  cases d.field "member" with
  | map fs =>
      cases hRoles : fs.lookup "roles" with
      | none => simp [field, field?, fields, hRoles]; rfl
      | some roles =>
          simp only [field, field?, fields, hRoles,
            Option.getD_some]
          rw [← escapes_idSet]
          exact escapes_bind_ok
  | _ => rfl

theorem strict_author
    (p : Payload) :
    IsStrict (author p) := by
  unfold author
  split
  · intro cause hError
    cases hError
    rfl
  · apply strict_bind (strict_readId _)
    intro id
    exact strict_ok _

theorem escapes_author
    (p : Payload) :
    escapes (author p) = p.barsId := by
  unfold author barsId isOpaque
  split
  · rename_i hOpaque
    rw [hOpaque]
    rfl
  · rename_i hClear
    rw [Bool.eq_false_iff.mpr hClear, Bool.false_or,
      ← escapes_readId]
    exact escapes_bind_ok

theorem strict_emojiKey
    (p : Payload) :
    IsStrict (emojiKey p) := by
  intro cause hError
  unfold emojiKey at hError
  split at hError
  · cases hError
  · split at hError
    · cases hError
      rfl
    · simp only at hError
      split at hError <;> cases hError

theorem escapes_emojiKey
    (p : Payload) :
    escapes (emojiKey p) = p.isOpaque := by
  unfold emojiKey isOpaque
  cases p.isFilled with
  | false => rfl
  | true =>
      cases p.isMap with
      | false => rfl
      | true =>
          simp only [Bool.not_true, Bool.false_eq_true,
            if_false]
          split <;> rfl

/- No text is a map. -/
theorem maps_texts
    (items : List α)
    (text : α → String) :
    maps (items.map fun a => .text (text a)) = [] := by
  induction items with
  | nil => rfl
  | cons item items hInduction => exact hInduction

/- The members of a field are none, or hold its maps. -/
theorem fieldMembers_cases
    (d : Payload)
    (name : String) :
    (d.fieldMembers name = .error .badType ∧
        d.entries name = []) ∨
      ∃ ms, d.fieldMembers name = .ok ms ∧
        maps ms = d.entries name := by
  unfold fieldMembers entries field
  cases d.field? name with
  | none => exact Or.inr ⟨[], rfl, rfl⟩
  | some p =>
      cases p with
      | list items => exact Or.inr ⟨items, rfl, rfl⟩
      | text s => exact Or.inr ⟨_, rfl, maps_texts _ _⟩
      | map fs => exact Or.inr ⟨_, rfl, maps_texts _ _⟩
      | _ => exact Or.inl ⟨rfl, rfl⟩

/- Only what the maps in a list hold can escape. -/
theorem escapes_entries
    {read : Payload → Except Cause α}
    {snag : Payload → Bool}
    {next : List α → Except Cause β}
    {rest : Bool}
    (d : Payload)
    (name : String)
    (hStrict : ∀ p, IsStrict (read p))
    (hRead : ∀ p, escapes (read p) = snag p)
    (hNext : ∀ as, escapes (next as) = rest) :
    escapes (do
        let ms ← d.fieldMembers name
        let as ← (maps ms).mapM read
        next as) =
      ((d.entries name).any snag ||
        ((d.fieldMembers name).isOk && rest)) := by
  rw [← funext hRead]
  rcases fieldMembers_cases d name with
    ⟨hError, hNone⟩ | ⟨ms, hOk, hSame⟩
  · rw [hError, hNone]
    rfl
  · have hRest :
        escapes ((maps ms).mapM read >>= next) =
          (escapes ((maps ms).mapM read) || rest) :=
      escapes_bind (strict_mapM hStrict _) fun as _ => hNext as
    rw [hOk, ← hSame, ← escapes_mapM hStrict]
    exact hRest

/- Nothing else does if they are read last. -/
theorem escapes_lastEntries
    {read : Payload → Except Cause α}
    {snag : Payload → Bool}
    {make : List α → β}
    (d : Payload)
    (name : String)
    (hStrict : ∀ p, IsStrict (read p))
    (hRead : ∀ p, escapes (read p) = snag p) :
    escapes (do
        let ms ← d.fieldMembers name
        let as ← (maps ms).mapM read
        return make as) =
      (d.entries name).any snag := by
  have hEnd (as : List α) :
      escapes (pure (make as) : Except Cause β) = false :=
    rfl
  rw [escapes_entries d name hStrict hRead hEnd, Bool.and_false,
    Bool.or_false]

------------------------------------------------------------
-- Kinds of dispatches
------------------------------------------------------------

theorem escapes_ready
    (d : Payload) :
    escapes (decodeReady d) = readySnag d := by
  unfold decodeReady readySnag
  cases d.field? "session_id" with
  | none => rfl
  | some session =>
      rw [Option.isSome_some, Bool.true_and, ← escapes_userIdAt]
      apply escapes_bind (strict_userIdAt d)
      intro userId _
      exact escapes_lastEntries d "guilds"
        (fun g => strict_idAt g _) fun g => escapes_idAt g _

theorem strict_roleEntry
    (role : Payload) :
    IsStrict ( roleEntry? role) := by
  apply strict_bind (strict_idAt role _)
  intro id
  exact strict_ok _

theorem escapes_roleEntry
    (role : Payload) :
    escapes ( roleEntry? role) = (role.field "id").isEndless := by
  rw [← escapes_idAt]
  exact escapes_bind_ok

theorem strict_memberEntry
    (member : Payload) :
    IsStrict ( memberEntry? member) := by
  apply strict_bind (strict_userIdAt member)
  intro user
  split
  · apply strict_bind (strict_idSet _)
    intro roles
    exact strict_ok _
  · exact strict_ok _

theorem escapes_memberEntry
    (member : Payload) :
    escapes ( memberEntry? member) = entrySnag member := by
  have hRead :
      escapes ( memberEntry? member) =
        (escapes (userIdAt member) ||
          (finds (userIdAt member) &&
            escapes (idSet (member.field "roles")))) :=
    escapes_bind_found (strict_userIdAt member) rfl
      fun user => escapes_bind_ok
  rw [hRead, escapes_userIdAt, escapes_idSet, userIdAt,
    finds_idInside]
  unfold entrySnag barsId
  cases (member.field "user").isOpaque <;> rfl

theorem escapes_guild
    (d : Payload) :
    escapes (decodeGuild d) = guildSnag d := by
  unfold decodeGuild guildSnag
  cases (d.field "unavailable").isFilled with
  | true => rfl
  | false =>
      rw [Bool.not_false, Bool.true_and, ← escapes_idAt]
      apply escapes_bind_found (strict_idAt d _) rfl
      intro guildId
      apply escapes_entries d "roles" strict_roleEntry
        escapes_roleEntry
      intro roles
      exact escapes_lastEntries d "members" strict_memberEntry
        escapes_memberEntry

/- Both ids are read before either of them is asked for. -/
theorem escapes_withIds
    {a b : Except Cause (Option Int)}
    {make : Int → Int → Except Cause Event}
    {rest : Bool}
    (hFirst : IsStrict a)
    (hSecond : IsStrict b)
    (hMake : ∀ x y, escapes (make x y) = rest) :
    escapes (withIds a b make) =
      (escapes a || escapes b ||
        (finds a && finds b && rest)) := by
  rw [Bool.or_assoc]
  apply escapes_bind hFirst
  intro x hRead
  rw [hRead]
  apply escapes_bind hSecond
  intro y hRead
  rw [hRead]
  cases x with
  | none => rfl
  | some x =>
      cases y with
      | none => rfl
      | some y =>
          rw [← hMake x y]
          exact escapes_bind_ok

/- If nothing more is read, nothing more escapes. -/
theorem escapes_onlyIds
    {a b : Except Cause (Option Int)}
    {make : Int → Int → Event}
    (hFirst : IsStrict a)
    (hSecond : IsStrict b) :
    escapes (withIds a b fun x y => .ok (make x y)) =
      (escapes a || escapes b) := by
  have hEnd (x y : Int) :
      escapes (.ok (make x y) : Except Cause Event) = false :=
    rfl
  rw [escapes_withIds hFirst hSecond hEnd, Bool.and_false,
    Bool.or_false]

theorem escapes_guildGone
    (d : Payload) :
    escapes (decodeGuildGone d) = guildGoneSnag d := by
  unfold guildGoneSnag
  rw [← escapes_idAt]
  exact escapes_bind_ok

theorem escapes_role
    (d : Payload) :
    escapes (decodeRole d) = roleSnag d := by
  unfold roleSnag
  rw [← escapes_idAt, ← escapes_idInside]
  exact escapes_onlyIds (strict_idAt d _) (strict_idInside _)

theorem escapes_roleGone
    (d : Payload) :
    escapes (decodeRoleGone d) = roleGoneSnag d := by
  unfold roleGoneSnag
  rw [← escapes_idAt, ← escapes_idAt]
  exact escapes_onlyIds (strict_idAt d _) (strict_idAt d _)

/- A guild and a user, and nothing more. -/
theorem escapes_user
    (make : Int → Int → Event)
    (d : Payload) :
    escapes (withIds (idAt d "guild_id") (userIdAt d)
      fun g u => .ok (make g u)) = userSnag d := by
  rw [escapes_onlyIds (strict_idAt d _) (strict_userIdAt d),
    escapes_idAt, escapes_userIdAt]
  rfl

theorem escapes_member
    (d : Payload) :
    escapes (decodeMember d) = memberSnag d := by
  have hRead :
      escapes (decodeMember d) =
        (escapes (idAt d "guild_id") || escapes (userIdAt d) ||
          (finds (idAt d "guild_id") && finds (userIdAt d) &&
            (d.field "roles").listsEndless)) := by
    apply escapes_withIds (strict_idAt d _) (strict_userIdAt d)
    intro g u
    rw [← escapes_idSet]
    exact escapes_bind_ok
  rw [hRead, escapes_idAt, escapes_userIdAt, userIdAt,
    finds_idInside]
  unfold memberSnag userSnag barsId
  cases (d.field "user").isOpaque with
  | true => simp
  | false => rfl

/- The guild of a message comes after its own ids. -/
theorem escapes_messageIds
    {make : Int → Int → Option Int → Except Cause Event}
    {beyond : Payload → Bool}
    {d : Payload}
    (hMake : ∀ m c guildId,
      escapes (make m c guildId) = beyond d) :
    escapes (withIds (idAt d "id") (idAt d "channel_id")
        fun m c => idAt d "guild_id" >>= make m c) =
      messageSnag beyond d := by
  have hBeyond (m c : Int) :
      escapes (idAt d "guild_id" >>= make m c) =
        ((d.field "guild_id").isEndless || beyond d) := by
    rw [← escapes_idAt]
    exact escapes_bind (strict_idAt d _)
      fun guildId _ => hMake m c guildId
  rw [escapes_withIds (strict_idAt d _) (strict_idAt d _) hBeyond,
    escapes_idAt, escapes_idAt]
  rfl

theorem escapes_message
    (d : Payload) :
    escapes (decodeMessage d) =
      messageSnag
        (fun d => (d.field "author").barsId || rolesSnag d) d := by
  apply escapes_messageIds
  intro m c guildId
  rw [← escapes_author]
  apply escapes_bind (strict_author _)
  intro writer _
  rw [← escapes_rolesOfMember]
  exact escapes_bind_ok

/- A map is no obstacle on the way to the id in it. -/
theorem escapes_writer
    (fs : List (String × Payload)) :
    escapes ((author (.map fs)).map some) =
      ((Payload.map fs).field "id").isEndless := by
  have hMap : escapes ((author (.map fs)).map some) =
      escapes (author (.map fs)) := by
    cases author (.map fs) <;> rfl
  rw [hMap, escapes_author, barsId, isOpaque]
  simp [isMap]

theorem escapes_edit
    (d : Payload) :
    escapes (decodeEdit d) =
      messageSnag
        (fun d => ((d.field "author").field "id").isEndless ||
          rolesSnag d) d := by
  apply escapes_messageIds
  intro m c guildId
  have hRest (writer? : Option Author) :
      escapes (do
        let roles ← rolesOfMember d
        return Event.messageUpdate
          {
            messageId := m
            channelId := c
            guildId
            author := writer?
            content := d.field "content"
            memberRoles := roles
            timestamp := (d.field "timestamp").timestamp?
            editedTimestamp :=
              (d.field "edited_timestamp").timestamp?
          }) = rolesSnag d := by
    rw [← escapes_rolesOfMember]
    exact escapes_bind_ok
  cases d.field "author" with
  | map fs =>
      rw [← escapes_writer]
      exact escapes_bind (strict_map some (strict_author _))
        fun writer? _ => hRest writer?
  | _ => exact hRest none

theorem escapes_messageGone
    (d : Payload) :
    escapes (decodeMessageGone d) =
      messageSnag (fun _ => false) d := by
  apply escapes_messageIds
  intro m c guildId
  rfl

theorem escapes_reaction
    (added : Bool)
    (d : Payload) :
    escapes (decodeReaction added d) = reactionSnag d := by
  have hRest (channelId messageId userId : Int) :
      escapes (do
        let guildId ← idAt d "guild_id"
        let emoji ← emojiKey (d.field "emoji")
        let memberRoles ← rolesOfMember d
        return some (Event.reaction
          { added, guildId, channelId, messageId, userId,
            emoji, memberRoles })) =
        ((d.field "guild_id").isEndless ||
          ((d.field "emoji").isOpaque || rolesSnag d)) := by
    rw [← escapes_idAt]
    apply escapes_bind (strict_idAt d _)
    intro guildId _
    rw [← escapes_emojiKey]
    apply escapes_bind (strict_emojiKey _)
    intro emoji _
    rw [← escapes_rolesOfMember]
    exact escapes_bind_ok
  have hRead :
      escapes (decodeReaction added d) =
        (escapes (idAt d "channel_id") ||
          (escapes (idAt d "message_id") ||
            (escapes (idAt d "user_id") ||
              (finds (idAt d "channel_id") &&
                finds (idAt d "message_id") &&
                finds (idAt d "user_id") &&
                ((d.field "guild_id").isEndless ||
                  ((d.field "emoji").isOpaque ||
                    rolesSnag d)))))) := by
    apply escapes_bind (strict_idAt d _)
    intro channel? hRead
    rw [hRead]
    apply escapes_bind (strict_idAt d _)
    intro message? hRead
    rw [hRead]
    apply escapes_bind (strict_idAt d _)
    intro user? hRead
    rw [hRead]
    cases channel? with
    | none => rfl
    | some channelId =>
        cases message? with
        | none => rfl
        | some messageId =>
            cases user? with
            | none => rfl
            | some userId => exact hRest channelId messageId userId
  rw [hRead]
  simp [reactionSnag, holdsId, idAt, escapes_readId,
    Bool.or_assoc, Bool.and_assoc]

------------------------------------------------------------
-- Dispatches
------------------------------------------------------------

/- Each kind of dispatch has the snags of its own. -/
theorem escapes_decoders :
    List.Forall₂
      (fun entry snag => entry.1 = snag.1 ∧
        ∀ d, escapes (entry.2 d) = snag.2 d)
      decoders snags :=
  .cons ⟨rfl, escapes_ready⟩ <|
  .cons ⟨rfl, fun _ => rfl⟩ <|
  .cons ⟨rfl, escapes_guild⟩ <|
  .cons ⟨rfl, escapes_guildGone⟩ <|
  .cons ⟨rfl, escapes_role⟩ <|
  .cons ⟨rfl, escapes_role⟩ <|
  .cons ⟨rfl, escapes_roleGone⟩ <|
  .cons ⟨rfl, escapes_member⟩ <|
  .cons ⟨rfl, escapes_member⟩ <|
  .cons ⟨rfl, escapes_user _⟩ <|
  .cons ⟨rfl, escapes_user _⟩ <|
  .cons ⟨rfl, escapes_message⟩ <|
  .cons ⟨rfl, escapes_edit⟩ <|
  .cons ⟨rfl, escapes_messageGone⟩ <|
  .cons ⟨rfl, escapes_reaction true⟩ <|
  .cons ⟨rfl, escapes_reaction false⟩
  .nil

/- Tables that agree entry by entry agree on what they look up. -/
theorem lookup_of_forall₂
    {readers : List (String × (Payload → Except Cause α))}
    {checks : List (String × (Payload → Bool))}
    (name : String)
    (hAgree :
      List.Forall₂
        (fun entry snag => entry.1 = snag.1 ∧
          ∀ d, escapes (entry.2 d) = snag.2 d)
        readers checks) :
    (readers.lookup name = none ∧ checks.lookup name = none) ∨
      ∃ read snag, readers.lookup name = some read ∧
        checks.lookup name = some snag ∧
          ∀ d, escapes (read d) = snag d := by
  induction hAgree with
  | nil => exact Or.inl ⟨rfl, rfl⟩
  | @cons entry check readers checks hFirst _ hInduction =>
      rcases entry with ⟨key, read⟩
      rcases check with ⟨other, snag⟩
      rcases hFirst with ⟨hKey, hRead⟩
      simp only at hKey hRead
      subst hKey
      rw [List.lookup_cons, List.lookup_cons]
      cases name == key with
      | true => exact Or.inr ⟨read, snag, rfl, rfl, hRead⟩
      | false => exact hInduction

/- The empty text names no kind, as the table has it. -/
theorem decoder?_text
    (name : String) :
    decoder? (.text name) = .ok (decoders.lookup name) := by
  unfold decoder?
  cases hFilled : (Payload.text name).isFilled with
  | true => rfl
  | false =>
      have hEmpty : name = "" := by
        simpa [isFilled] using hFilled
      rw [hEmpty]
      rfl

theorem decode_of_unknown
    {kind data : Payload}
    (hUnknown : decoder? kind = .ok none) :
    decode kind data = .ok none := by
  unfold decode
  rw [hUnknown]

/- A named kind of dispatch fails where it has a snag. -/
theorem decode_text_fails_iff
    (name : String)
    (data : Payload) :
    (∃ cause, decode (.text name) data = .error cause) ↔
      data.isMap = true ∧ hasSnag name data = true := by
  unfold decode hasSnag
  rw [decoder?_text]
  rcases lookup_of_forall₂ name escapes_decoders with
    ⟨hDecoder, hSnag⟩ | ⟨read, snag, hDecoder, hSnag, hAgree⟩
  · rw [hDecoder, hSnag]
    simp
  · rw [hDecoder, hSnag]
    simp only [← hAgree data]
    cases data.isMap with
    | false => simp
    | true =>
        cases read data with
        | ok event => simp [escapes]
        | error cause =>
            cases hForm : isMalformed cause <;>
              simp [escapes, hForm]

/- What fails is no malformed dispatch. -/
theorem not_malformed_of_decode
    {name : String}
    {data : Payload}
    {cause : Cause}
    (hFails : decode (.text name) data = .error cause) :
    isMalformed cause = false := by
  unfold decode at hFails
  rw [decoder?_text] at hFails
  cases hDecoder : decoders.lookup name with
  | none => simp [hDecoder] at hFails
  | some read =>
      simp only [hDecoder] at hFails
      split at hFails
      · cases hFails
      · split at hFails
        · cases hFails
        · split at hFails
          · cases hFails
          · rename_i hEscapes
            cases hFails
            exact Bool.eq_false_iff.mpr hEscapes

/-
  The dispatches on which reading fails. Those whose kind is a
  filled list or map do so at once. Any other one fails only
  if its payload is a map with a snag of that kind, and then
  for one of two causes.
-/
theorem decode_fails_iff
    (kind data : Payload) :
    ((∃ cause, decode kind data = .error cause) ↔
      isNoKind kind = true ∨
        ∃ name, kind = .text name ∧ data.isMap = true ∧
          hasSnag name data = true) ∧
    ∀ cause, decode kind data = .error cause →
      isNoKind kind = true ∨
        cause = .notAMap ∨ cause = .outOfRange := by
  cases kind with
  | text name =>
      constructor
      · rw [decode_text_fails_iff]
        simp [isNoKind]
      · intro cause hFails
        have hFormal := decode_formal (.text name) data cause hFails
        have hEscapes := not_malformed_of_decode hFails
        cases cause <;> simp_all [isFormal, isMalformed]
  | list items =>
      cases items <;>
        simp [decode, decoder?, isNoKind, isFilled]
  | map fs =>
      cases fs <;> simp [decode, decoder?, isNoKind, isFilled]
  | _ =>
      -- Such a kind is unknown, whether or not it is filled.
      rw [decode_of_unknown (by unfold decoder?; split <;> rfl)]
      simp [isNoKind]

/- A user who is a bare id: the ban is not lifted, reading fails. -/
example :
    decode (.text "GUILD_BAN_REMOVE")
        (.map [("guild_id", .text "1"), ("user", .text "2")]) =
      .error .notAMap := by
  rfl

end Event

end GuildWarden
