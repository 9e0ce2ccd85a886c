import GuildWarden.Proofs.Gateway.Course

/-
  This file shows that a dispatch that cannot be read fails
  for a cause of form, whatever its payload holds. So it never
  makes a session forget what it could resume.

  Main statements:
    * `Event.decode_formal`
    * `Event.decode_harmless`
-/

namespace GuildWarden

open Gateway Gateway.Session

variable {α β : Type}

------------------------------------------------------------
-- Results
------------------------------------------------------------

/- What succeeds does not fail. -/
theorem formal_ok
    (a : α) :
    IsFormal (.ok a) :=
  Cause.failsBy_ok a

theorem harmless_ok
    (a : α) :
    IsHarmless (.ok a) :=
  Cause.failsBy_ok a

theorem formal_error
    {cause : Cause}
    (hCause : isFormal cause = true) :
    IsFormal (.error cause : Except Cause α) :=
  Cause.failsBy_error hCause

theorem formal_map
    {result : Except Cause α}
    (f : α → β)
    (hResult : IsFormal result) :
    IsFormal (result.map f) :=
  Cause.failsBy_map f hResult

/- A list fails as one of its members. -/
theorem formal_mapM
    {f : α → Except Cause β}
    (hRead : ∀ a, IsFormal (f a))
    (items : List α) :
    IsFormal (items.mapM f) :=
  Cause.failsBy_mapM hRead items

------------------------------------------------------------
-- Parts of Payloads
------------------------------------------------------------

theorem readId_formal
    (p : Payload) :
    IsFormal (readId p) := by
  unfold readId
  split
  · exact formal_ok _
  · exact formal_ok _
  · exact formal_error rfl
  · exact formal_ok _
  · exact formal_ok _
  · exact formal_ok _

theorem Payload.members_formal
    (p : Payload) :
    IsFormal p.members := by
  unfold members
  split
  · exact formal_ok _
  · exact formal_ok _
  · exact formal_ok _
  · exact formal_error rfl

theorem Payload.fieldMembers_formal
    (p : Payload)
    (name : String) :
    IsFormal (p.fieldMembers name) := by
  unfold fieldMembers
  split
  · exact members_formal _
  · exact formal_ok _

theorem Payload.subfield_formal
    (p : Payload)
    (name : String) :
    IsFormal (p.subfield name) := by
  unfold subfield
  split
  · exact formal_ok _
  · split
    · exact formal_ok _
    · exact formal_error rfl

theorem emojiKey_formal
    (p : Payload) :
    IsFormal (emojiKey p) := by
  unfold emojiKey
  split
  · exact formal_ok _
  · split
    · exact formal_error rfl
    · simp only
      split
      · exact formal_ok _
      · exact formal_ok _

namespace Event

------------------------------------------------------------
-- Parts of Events
------------------------------------------------------------

theorem userIdAt_formal
    (p : Payload) :
    IsFormal (userIdAt p) := by
  apply formal_bind (Payload.subfield_formal _ _)
  intro q
  exact readId_formal q

theorem idSet_formal
    (p : Payload) :
    IsFormal (idSet p) := by
  unfold idSet
  split
  · apply formal_bind (formal_mapM readId_formal _)
    intro ids
    exact formal_ok _
  · exact formal_ok _

theorem rolesOfMember_formal
    (p : Payload) :
    IsFormal (rolesOfMember p) := by
  unfold rolesOfMember
  split
  · split
    · apply formal_bind (idSet_formal _)
      intro roles
      exact formal_ok _
    · exact formal_ok _
  · exact formal_ok _

theorem author_formal
    (p : Payload) :
    IsFormal (author p) := by
  unfold author
  split
  · exact formal_error rfl
  · apply formal_bind (readId_formal _)
    intro id
    exact formal_ok _

theorem withIds_formal
    {a b : Except Cause (Option Int)}
    {make : Int → Int → Except Cause Event}
    (hFirst : IsFormal a)
    (hSecond : IsFormal b)
    (hMake : ∀ x y, IsFormal (make x y)) :
    IsFormal (withIds a b make) := by
  apply formal_bind hFirst
  intro x
  apply formal_bind hSecond
  intro y
  split
  · apply formal_bind (hMake _ _)
    intro e
    exact formal_ok _
  · exact formal_ok _

------------------------------------------------------------
-- Events
------------------------------------------------------------

theorem decodeReady_formal
    (d : Payload) :
    IsFormal (decodeReady d) := by
  unfold decodeReady
  split
  · apply formal_bind (userIdAt_formal d)
    intro userId
    apply formal_bind (Payload.fieldMembers_formal _ _)
    intro guilds
    apply formal_bind
      (formal_mapM (fun g => readId_formal _) _)
    intro ids
    exact formal_ok _
  · exact formal_error rfl

theorem roleEntry?_formal
    (role : Payload) :
    IsFormal ( roleEntry? role) := by
  apply formal_bind (readId_formal _)
  intro id
  exact formal_ok _

theorem memberEntry?_formal
    (member : Payload) :
    IsFormal ( memberEntry? member) := by
  apply formal_bind (userIdAt_formal _)
  intro user
  split
  · apply formal_bind (idSet_formal _)
    intro roles
    exact formal_ok _
  · exact formal_ok _

theorem decodeGuild_formal
    (d : Payload) :
    IsFormal (decodeGuild d) := by
  unfold decodeGuild
  split
  · exact formal_ok _
  · apply formal_bind (readId_formal _)
    intro id
    split
    · apply formal_bind (Payload.fieldMembers_formal _ _)
      intro roles
      apply formal_bind (formal_mapM roleEntry?_formal _)
      intro named
      apply formal_bind (Payload.fieldMembers_formal _ _)
      intro members
      apply formal_bind
        (formal_mapM memberEntry?_formal _)
      intro entries
      exact formal_ok _
    · exact formal_ok _

theorem decodeMessage_formal
    (d : Payload) :
    IsFormal (decodeMessage d) := by
  apply withIds_formal (readId_formal _)
    (readId_formal _)
  intro m c
  apply formal_bind (readId_formal _)
  intro guildId
  apply formal_bind (author_formal _)
  intro writer
  apply formal_bind (rolesOfMember_formal d)
  intro roles
  exact formal_ok _

theorem decodeEdit_formal
    (d : Payload) :
    IsFormal (decodeEdit d) := by
  apply withIds_formal (readId_formal _)
    (readId_formal _)
  intro m c
  apply formal_bind (readId_formal _)
  intro guildId
  have hRest (writer? : Option Author) :
      IsFormal (do
        let roles ← rolesOfMember d
        return Event.messageUpdate
          {
            messageId := m
            channelId := c
            guildId
            author := writer?
            content := d.field "content"
            memberRoles := roles
            timestamp := (d.field "timestamp").timestamp?
            editedTimestamp :=
              (d.field "edited_timestamp").timestamp?
          }) := by
    apply formal_bind (rolesOfMember_formal d)
    intro roles
    exact formal_ok _
  split
  · apply formal_bind
      (formal_map some (author_formal _))
    exact hRest
  · exact hRest none

theorem decodeReaction_formal
    (added : Bool)
    (d : Payload) :
    IsFormal (decodeReaction added d) := by
  apply formal_bind (readId_formal _)
  intro channel?
  apply formal_bind (readId_formal _)
  intro message?
  apply formal_bind (readId_formal _)
  intro user?
  split
  · apply formal_bind (readId_formal _)
    intro guildId
    apply formal_bind (emojiKey_formal _)
    intro emoji
    apply formal_bind (rolesOfMember_formal d)
    intro roles
    exact formal_ok _
  · exact formal_ok _

theorem decodeMember_formal
    (d : Payload) :
    IsFormal (decodeMember d) := by
  apply withIds_formal (readId_formal _)
    (userIdAt_formal d)
  intro g u
  apply formal_bind (idSet_formal _)
  intro roles
  exact formal_ok _

theorem decodeRole_formal
    (d : Payload) :
    IsFormal (decodeRole d) := by
  apply withIds_formal (readId_formal _)
  · apply formal_bind (Payload.subfield_formal _ _)
    intro id
    exact readId_formal id
  · intro g r
    exact formal_ok _

theorem decodeMessageGone_formal
    (d : Payload) :
    IsFormal (decodeMessageGone d) := by
  apply withIds_formal (readId_formal _)
    (readId_formal _)
  intro m c
  apply formal_bind (readId_formal _)
  intro guildId
  exact formal_ok _

/- Each kind of dispatch fails by its form at most. -/
theorem decoders_formal :
    ∀ entry ∈ decoders, ∀ d, IsFormal (entry.2 d) := by
  intro entry hMember d
  have hIds
      {a b : Except Cause (Option Int)}
      {make : Int → Int → Event}
      (hFirst : IsFormal a)
      (hSecond : IsFormal b) :
      IsFormal (withIds a b fun x y => .ok (make x y)) :=
    withIds_formal hFirst hSecond fun _ _ => formal_ok _
  simp only [decoders, List.mem_cons, List.not_mem_nil,
    or_false] at hMember
  rcases hMember with rfl | rfl | rfl | rfl | rfl | rfl |
    rfl | rfl | rfl | rfl | rfl | rfl | rfl | rfl | rfl | rfl
  · exact decodeReady_formal d
  · exact formal_ok _
  · exact decodeGuild_formal d
  · apply formal_bind (readId_formal _)
    intro id
    exact formal_ok _
  · exact decodeRole_formal d
  · exact decodeRole_formal d
  · exact hIds (readId_formal _) (readId_formal _)
  · exact decodeMember_formal d
  · exact decodeMember_formal d
  · exact hIds (readId_formal _) (userIdAt_formal d)
  · exact hIds (readId_formal _) (userIdAt_formal d)
  · exact decodeMessage_formal d
  · exact decodeEdit_formal d
  · exact decodeMessageGone_formal d
  · exact decodeReaction_formal true d
  · exact decodeReaction_formal false d

/- A dispatch that is unreadable is so by its form. -/
theorem decode_formal
    (kind data : Payload) :
    IsFormal (decode kind data) := by
  have hDecoder : IsFormal (decoder? kind) := by
    unfold decoder?
    split
    · exact formal_ok _
    · split
      · exact formal_ok _
      · exact formal_error rfl
      · exact formal_error rfl
      · exact formal_ok _
  unfold decode
  split
  · rename_i cause hError
    exact formal_error (hDecoder cause hError)
  · exact formal_ok _
  · rename_i read hRead
    split
    · exact formal_ok _
    · have hKind : ∃ name, (name, read) ∈ decoders := by
        unfold decoder? at hRead
        split at hRead
        · cases hRead
        · split at hRead
          · rename_i name _
            have hLookup : decoders.lookup name = some read :=
              Except.ok.inj hRead
            rcases List.lookup_eq_some_iff.mp hLookup with
              ⟨before, after, hSplit, _⟩
            refine ⟨name, ?_⟩
            rw [hSplit]
            simp
          · cases hRead
          · cases hRead
          · cases hRead
      rcases hKind with ⟨name, hMember⟩
      split
      · exact formal_ok _
      · rename_i cause hError
        split
        · exact formal_ok _
        · exact formal_error
            (decoders_formal _ hMember data cause hError)

/- No dispatch makes a session forget by being unreadable. -/
theorem decode_harmless
    (kind data : Payload) :
    IsHarmless (decode kind data) :=
  (decode_formal kind data).isHarmless

end Event

end GuildWarden
