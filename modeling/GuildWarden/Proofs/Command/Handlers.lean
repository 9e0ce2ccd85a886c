import GuildWarden.Bot.Basic
import GuildWarden.Proofs.Command.Respect
import GuildWarden.Proofs.Effect.Runs

/-
  This file shows that every command of the bot respects the
  reply history, whatever it is called with, and so does every
  job that the dispatcher submits.

  Key definitions include:
    * `Command.IsRespectful`
    * `Router.IsRespectful`
    * `Dispatcher.LeadsTo`

  Main statements:
    * `Router.respects_route`
    * `Bot.isRespectful_router`
    * `Dispatcher.leadsTo_of_take`
    * `Dispatcher.respects_take`
-/

namespace GuildWarden

open Program

variable {owner : Option Int}
variable {known : Command.Insight}

------------------------------------------------------------
-- Permissions
------------------------------------------------------------

namespace Permission

theorem respects_hasTier
    (s : RoleSettings)
    (guildId : Option Int)
    (tier : Tier)
    (names : IdMap String)
    (held : Option IdSet) :
    (hasTier s guildId tier names held).Respects owner
      known := by
  unfold hasTier
  split
  · constructor
  · constructor
  · split
    · apply (Respects.change fun m => ?_).bind
      · intro _
        constructor
      · unfold Memory.warn
        split <;> exact ⟨rfl, rfl, rfl⟩
    · constructor

theorem respects_holds
    (s : RoleSettings)
    (guildId : Option Int)
    (userId : Int)
    (tier : Tier)
    (fresh : Option IdSet) :
    (holds s guildId userId tier fresh).Respects owner
      known := by
  unfold holds
  split
  · exact respects_hasTier _ _ _ _ _
  · apply Respects.memory.bind
    intro m
    exact respects_hasTier _ _ _ _ _

theorem respects_roleNames
    (guildId : Int) :
    (roleNames guildId).Respects owner known := by
  apply Respects.memory.bind
  intro m
  apply Respects.ite
  · intro _
    apply (Respects.request _).bind
    intro roles
    exact .settle _
  · intro _
    constructor

theorem respects_confirm
    (s : RoleSettings)
    (guildId : Option Int)
    (userId : Int)
    (tier : Tier) :
    (confirm s guildId userId tier).Respects owner known := by
  unfold confirm
  apply Respects.ite
  · intro _
    constructor
  · intro _
    cases guildId with
    | none => constructor
    | some g =>
        apply Respects.bind
        · apply Respects.handling
          · apply (Respects.request _).bind
            intro member
            constructor
          · intro cause
            constructor
        · intro asked
          cases asked with
          | none => constructor
          | some member =>
              apply (Respects.settle _).bind
              intro held
              apply (respects_roleNames g).bind
              intro names
              exact respects_hasTier _ _ _ _ _

end Permission

------------------------------------------------------------
-- Services
------------------------------------------------------------

namespace Web

theorem respects_ask
    (service : Service)
    (s : ServiceSettings)
    (complaint : String)
    (c : Call) :
    (ask service s complaint c).Respects owner known := by
  apply Respects.handling
  · apply Respects.bind
    · apply Respects.memory.bind
      intro m
      apply Respects.ite
      · intro _
        constructor
      · intro _
        apply (Respects.request _).bind
        intro _
        exact .change fun _ => ⟨rfl, rfl, rfl⟩
    · intro _
      exact .request _
  · intro cause
    constructor

end Web

namespace Registry

theorem respects_search
    (s : ServiceSettings)
    (query : String) :
    (search s query).Respects owner known := by
  unfold search
  apply Respects.ite
  · intro _
    constructor
  · intro _
    apply (Web.respects_ask _ _ _ _).bind
    intro answer
    exact .settle _

theorem respects_docLink
    (s : ServiceSettings)
    (query : String) :
    (docLink s query).Respects owner known := by
  have hDocs (name : String) :
      (crateDocs s name).Respects owner known := by
    unfold crateDocs
    split
    · constructor
    · apply (respects_search s name).bind
      intro found
      constructor
  unfold docLink
  simp only
  apply Respects.ite
  · intro _
    constructor
  · intro _
    apply (hDocs _).bind
    intro url
    cases url with
    | none => constructor
    | some url =>
        apply (Respects.settle _).bind
        intro link
        constructor

end Registry

namespace Playground

theorem respects_post
    (s : ServiceSettings)
    (path : String)
    (body : Payload)
    (headers : Option Payload) :
    (post s path body headers).Respects owner known :=
  Web.respects_ask _ _ _ _

theorem respects_execute
    (s : ServiceSettings)
    (r : Request) :
    (execute s r).Respects owner known := by
  apply (respects_post _ _ _ _).bind
  intro answer
  apply Respects.ite
  · intro _
    exact .settle _
  · intro _
    constructor

theorem respects_createLink
    (s : ServiceSettings)
    (r : Request) :
    (createLink s r).Respects owner known := by
  apply (respects_post _ _ _ _).bind
  intro answer
  apply Respects.ite
  · intro _
    exact .settle _
  · intro _
    constructor

end Playground

namespace Tag

variable {α : Type}

theorem respects_guarded
    {p : Program α}
    (complaint : String)
    (hRespects : p.Respects owner .nothing) :
    (guarded complaint p).Respects owner known := by
  apply Respects.handling hRespects.weaken
  intro cause
  constructor

theorem respects_find
    (guildId : Int)
    (key : String) :
    (find guildId key).Respects owner known := by
  apply Respects.bind
  · apply respects_guarded
    exact Store.respects_reading (Store.respects_execute _)
  · intro row
    constructor

theorem respects_put
    (guildId : Int)
    (key body : String)
    (authorId : Int) :
    (put guildId key body authorId).Respects owner known := by
  apply respects_guarded
  exact Store.respects_transaction (Store.respects_execute _)

theorem respects_drop
    (guildId : Int)
    (key : String) :
    (drop guildId key).Respects owner known := by
  apply respects_guarded
  exact Store.respects_transaction (Store.respects_execute _)

theorem respects_keys
    (guildId : Int) :
    (keys guildId).Respects owner known := by
  apply respects_guarded
  exact Store.respects_reading (Store.respects_execute _)

end Tag

------------------------------------------------------------
-- Bans and Reactions
------------------------------------------------------------

namespace Ban

theorem respects_forget
    (guildId userId : Int) :
    (forget guildId userId).Respects owner known :=
  Store.respects_transaction (Store.respects_execute _)

theorem respects_impose
    (guildId : Int)
    (order : BanOrder) :
    (impose guildId order).Respects owner known := by
  have hNotice : (sendNotice order).Respects owner known := by
    apply Respects.handling
    · apply (Platform.respects_sendDirectMessage _ _).bind
      intro _
      constructor
    · intro cause
      constructor
  apply hNotice.bind
  intro _
  apply (Platform.respects_perform _).bind
  intro _
  apply Respects.ite
  · intro _
    constructor
  · intro _
    apply Respects.bind
    · apply (Respects.request .now).bind
      intro time
      constructor
    · intro time
      apply (Store.respects_transaction
        (Store.respects_execute _)).bind
      intro _
      constructor

end Ban

namespace ReactionRole

theorem respects_follow
    (r : Event.Reaction) :
    (follow r).Respects owner known := by
  have hForeign :
      (removeForeign r).Respects owner .nothing := by
    apply Respects.handling (Platform.respects_perform _)
    intro cause
    constructor
  have hRole (b : Store.Binding) :
      (applyRole b r).Respects owner .nothing := by
    apply Respects.handling
    · apply (Platform.respects_perform _).bind
      intro _
      constructor
    · intro cause
      constructor
  apply Respects.memory.bind
  intro m
  apply Respects.ite
  · intro _
    constructor
  · intro _
    apply (Respects.settle _).bind
    intro bound
    cases bound with
    | none =>
        apply Respects.ite
        · intro _
          apply hForeign.bind
          intro _
          constructor
        · intro _
          constructor
    | some b =>
        apply Respects.ite
        · intro _
          constructor
        · intro _
          exact hRole b

theorem respects_persist
    (b : Store.Binding) :
    (persist b).Respects owner known := by
  apply Store.respects_transaction
  apply (Store.respects_execute _).bind
  intro (taken : Bool)
  apply Respects.ite
  · intro _
    constructor
  · intro _
    apply (Store.respects_execute _).bind
    intro _
    apply (Store.respects_execute _).bind
    intro _
    exact Store.respects_execute _

theorem respects_discard
    (b : Store.Binding)
    (cause : Cause) :
    (discard b cause).Respects owner known := by
  apply Respects.bind
  · apply Respects.handling (Platform.respects_perform _)
    intro cause
    constructor
  · intro _
    split <;> constructor

theorem respects_establish
    (guildId channelId roleId : Int) :
    (establish guildId channelId roleId).Respects owner
      known := by
  apply (Platform.respects_sendMessage _ _ _).bind
  intro sent
  apply (Respects.settle _).bind
  intro messageId
  apply Respects.bind
  · exact (respects_persist _).handling (respects_discard _)
  · intro _
    apply Respects.bind
    · exact .change fun _ => ⟨rfl, rfl, rfl⟩
    · intro _
      apply (Platform.respects_perform _).bind
      intro _
      constructor

end ReactionRole

------------------------------------------------------------
-- Commands
------------------------------------------------------------

namespace Command

/- Whatever a command is called with, it respects the history. -/
def IsRespectful
    (c : Command) : Prop :=
  ∀ owner ctx tail, ctx.IsOf owner →
    (c.handler ctx tail).Respects owner .nothing

/- An entry is respectful with all its subcommands. -/
def Entry.IsRespectful
    (e : Entry) : Prop :=
  e.command.IsRespectful ∧
    ∀ s ∈ e.subcommands, s.2.IsRespectful

theorem isRespectful_alone
    {c : Command}
    (hCommand : c.IsRespectful) :
    (alone c).IsRespectful :=
  ⟨hCommand, by simp [alone]⟩

/- The command that a tail chooses is as respectful. -/
theorem Entry.IsRespectful.resolve
    {e : Entry}
    (hEntry : e.IsRespectful)
    (tail : String) :
    (e.resolve tail).1.IsRespectful := by
  unfold Entry.resolve
  split
  · exact hEntry.1
  · split
    · rename_i word rest hSplit _ sub hFound
      rcases List.lookup_eq_some_iff.mp hFound with
        ⟨before, after, hEntries, _⟩
      apply hEntry.2 (Text.lower (String.ofList word), sub)
      rw [hEntries]
      simp
    · exact hEntry.1

namespace Context

variable {c : Context}

theorem respects_say
    (s : String)
    (hOf : c.IsOf owner) :
    (c.say s).Respects owner known :=
  (respects_reply _ _ hOf).weaken

theorem respects_acknowledge
    (c : Context) :
    c.acknowledge.Respects owner known := by
  unfold acknowledge
  split
  · exact Platform.respects_perform _
  · constructor

end Context

namespace Tags

variable {owner : Option Int}

theorem isRespectful_tagCommand : tagCommand.IsRespectful := by
  intro owner ctx tail hOf
  apply (Respects.settle _).bind
  intro guildId
  apply (Tag.respects_find _ _).bind
  intro body
  cases body with
  | none => constructor
  | some body => exact ctx.respects_say body hOf

theorem isRespectful_tagsCommand : tagsCommand.IsRespectful := by
  intro owner ctx tail hOf
  apply (Respects.settle _).bind
  intro guildId
  apply (Tag.respects_keys _).bind
  intro keys
  exact ctx.respects_say _ hOf

theorem respects_create
    (ctx : Context)
    (tail : String) :
    (create ctx tail).Respects owner .nothing := by
  apply (Respects.settle _).bind
  intro split
  apply (Respects.settle _).bind
  intro guildId
  apply (Tag.respects_put _ _ _ _).bind
  intro _
  exact ctx.respects_acknowledge

theorem respects_update
    (ctx : Context)
    (tail : String) :
    (update ctx tail).Respects owner .nothing := by
  apply (Respects.settle _).bind
  intro split
  apply (Respects.settle _).bind
  intro guildId
  apply (Tag.respects_find _ _).bind
  intro body
  apply Respects.ite
  · intro _
    constructor
  · intro _
    apply (Tag.respects_put _ _ _ _).bind
    intro _
    exact ctx.respects_acknowledge

theorem respects_delete
    (ctx : Context)
    (tail : String) :
    (delete ctx tail).Respects owner .nothing := by
  apply (Respects.settle _).bind
  intro guildId
  apply (Tag.respects_drop _ _).bind
  intro (found : Bool)
  cases found with
  | false => constructor
  | true => exact ctx.respects_acknowledge

end Tags

theorem isRespectful_tags :
    ∀ e ∈ Tags.entries, e.IsRespectful := by
  intro e hMember
  simp only [Tags.entries, List.mem_cons, List.not_mem_nil,
    or_false] at hMember
  rcases hMember with rfl | rfl
  · exact isRespectful_alone Tags.isRespectful_tagCommand
  · refine ⟨Tags.isRespectful_tagsCommand, ?_⟩
    intro s hPart
    simp only [Tags.subcommands, List.mem_cons,
      List.not_mem_nil, or_false] at hPart
    rcases hPart with rfl | rfl | rfl
    · exact fun _ ctx tail _ => Tags.respects_create ctx tail
    · exact fun _ ctx tail _ => Tags.respects_update ctx tail
    · exact fun _ ctx tail _ => Tags.respects_delete ctx tail

theorem isRespectful_crates
    (s : ServiceSettings) :
    ∀ e ∈ Crates.entries s, e.IsRespectful := by
  have hCrate (owner : Option Int) (ctx : Context)
      (tail : String) (hOf : ctx.IsOf owner) :
      (Crates.crate s ctx tail).Respects owner .nothing := by
    unfold Crates.crate
    simp only
    apply (Registry.respects_search _ _).bind
    intro found
    cases found with
    | nil => constructor
    | cons c rest =>
        apply (Respects.settle _).bind
        intro card
        exact ctx.respects_reply _ _ hOf
  have hDocs (owner : Option Int) (ctx : Context)
      (tail : String) (hOf : ctx.IsOf owner) :
      (Crates.docs s ctx tail).Respects owner .nothing := by
    unfold Crates.docs
    simp only
    apply (Registry.respects_docLink _ _).bind
    intro link
    cases link with
    | none => constructor
    | some link => exact ctx.respects_reply _ _ hOf
  intro e hMember
  simp only [Crates.entries, List.mem_cons, List.not_mem_nil,
    or_false] at hMember
  rcases hMember with rfl | rfl
  · exact isRespectful_alone hCrate
  · exact isRespectful_alone hDocs

theorem Play.respects_run
    {ctx : Context}
    (s : ServiceSettings)
    (code : String)
    (options : Playground.Options)
    (hOf : ctx.IsOf owner) :
    (run s ctx code options).Respects owner known := by
  unfold run
  apply (ctx.respects_say _ hOf).bind
  intro _
  apply (Playground.respects_execute _ _).bind
  intro result
  apply Respects.ite
  · intro _
    apply (Playground.respects_createLink _ _).bind
    intro link
    constructor
  · intro _
    constructor

theorem isRespectful_play
    (s : ServiceSettings) :
    ∀ e ∈ Play.entries s, e.IsRespectful := by
  intro e hMember
  simp only [Play.entries, List.mem_cons, List.not_mem_nil,
    or_false] at hMember
  rcases hMember with rfl | rfl
  · apply isRespectful_alone
    intro owner ctx tail hOf
    change (Play.play s ctx tail).Respects owner .nothing
    unfold Play.play
    simp only
    split
    · exact ctx.respects_say _ hOf
    · apply (Play.respects_run _ _ _ hOf).bind
      intro shown
      exact ctx.respects_say _ hOf
  · apply isRespectful_alone
    intro owner ctx tail hOf
    change (Play.evaluate s ctx tail).Respects owner .nothing
    unfold Play.evaluate
    simp only
    split
    · exact ctx.respects_say _ hOf
    · apply Respects.ite
      · intro _
        exact ctx.respects_say _ hOf
      · intro _
        apply (Play.respects_run _ _ _ hOf).bind
        intro shown
        exact ctx.respects_say _ hOf

theorem isRespectful_moderation :
    ∀ e ∈ Moderation.entries, e.IsRespectful := by
  intro e hMember
  simp only [Moderation.entries, List.mem_cons,
    List.not_mem_nil, or_false] at hMember
  rcases hMember with rfl | rfl | rfl
  · apply isRespectful_alone
    intro owner ctx tail _
    apply (Respects.settle _).bind
    intro order
    apply (Respects.settle _).bind
    intro guildId
    apply (Ban.respects_impose _ _).bind
    intro _
    exact ctx.respects_acknowledge
  · apply isRespectful_alone
    intro owner ctx tail _
    apply (Respects.settle _).bind
    intro userId
    apply (Respects.settle _).bind
    intro guildId
    apply (Platform.respects_perform _).bind
    intro _
    exact ctx.respects_acknowledge
  · apply isRespectful_alone
    intro owner ctx tail _
    apply (Respects.settle _).bind
    intro order
    apply (Platform.respects_perform _).bind
    intro _
    exact ctx.respects_acknowledge

theorem isRespectful_welcome
    (talkRoleId : Option Int) :
    ∀ e ∈ Welcome.entries talkRoleId, e.IsRespectful := by
  intro e hMember
  rw [List.mem_singleton.mp hMember]
  apply isRespectful_alone
  intro owner ctx tail _
  apply (Respects.settle _).bind
  intro channelId
  cases talkRoleId with
  | none => constructor
  | some roleId =>
      apply (Respects.settle _).bind
      intro guildId
      apply (ReactionRole.respects_establish _ _ _).bind
      intro _
      exact ctx.respects_acknowledge

namespace Help

theorem Guide.respects_allowed
    (g : Guide)
    (ctx : Context)
    (infos : List Info) :
    (g.allowed ctx infos).Respects owner .nothing := by
  induction infos with
  | nil => constructor
  | cons i rest hInduction =>
      apply (Permission.respects_holds _ _ _ _ _).bind
      intro mayUse
      apply hInduction.bind
      intro others
      constructor

theorem isRespectful_entry
    (r : Router) :
    (entry r).IsRespectful := by
  apply isRespectful_alone
  intro owner ctx tail hOf
  apply Respects.ite
  · intro _
    apply (Guide.respects_allowed _ _ _).bind
    intro usable
    exact ctx.respects_say _ hOf
  · intro _
    unfold Guide.explain
    split
    · apply (Permission.respects_holds _ _ _ _ _).bind
      intro allowed
      cases allowed with
      | false => constructor
      | true =>
          apply (Guide.respects_allowed _ _ _).bind
          intro parts
          exact ctx.respects_say _ hOf
    · constructor

end Help

end Command

------------------------------------------------------------
-- The Router
------------------------------------------------------------

namespace Router

variable {r : Router}

/- All commands of a router are respectful. -/
def IsRespectful
    (r : Router) : Prop :=
  ∀ x ∈ r.entries, x.2.IsRespectful

/- The command that a text calls is respectful. -/
theorem IsRespectful.of_select
    {text tail : String}
    {c : Command}
    (hRouter : r.IsRespectful)
    (hSelect : r.select text = some (c, tail)) :
    c.IsRespectful := by
  unfold select at hSelect
  rcases Option.bind_eq_some_iff.mp hSelect with
    ⟨i, _, hRest⟩
  rcases Option.bind_eq_some_iff.mp hRest with
    ⟨e, hFound, hChosen⟩
  rcases List.lookup_eq_some_iff.mp hFound with
    ⟨before, after, hEntries, _⟩
  have hEntry : e.IsRespectful := by
    apply hRouter (i.name, e)
    rw [hEntries]
    simp
  have hCommand : (e.resolve i.tail).1 = c :=
    congrArg Prod.fst (Option.some.inj hChosen)
  rw [← hCommand]
  exact hEntry.resolve i.tail

theorem respects_safeReply
    {ctx : Command.Context}
    (s : String)
    (hOf : ctx.IsOf owner) :
    (safeReply ctx s).Respects owner known := by
  apply (ctx.respects_say s hOf).handling
  intro cause
  constructor

theorem respects_run
    {c : Command}
    {ctx : Command.Context}
    (tail : String)
    (hCommand : c.IsRespectful)
    (hOf : ctx.IsOf owner) :
    (r.run c ctx tail).Respects owner .nothing := by
  have hInvoke :
      (r.invoke c ctx tail).Respects owner .nothing := by
    unfold invoke
    apply Respects.ite
    · intro _
      constructor
    · intro _
      apply Respects.ite
      · intro _
        apply (Permission.respects_confirm _ _ _ _).bind
        intro confirmed
        cases confirmed with
        | false => constructor
        | true => exact hCommand owner ctx tail hOf
      · intro _
        exact hCommand owner ctx tail hOf
  apply Respects.handling
  · apply (Respects.within _ hInvoke).bind
    intro _
    constructor
  · intro cause
    apply (respects_safeReply _ hOf).bind
    intro _
    constructor

/- Routing a message respects the history. -/
theorem respects_route
    (m : Command.Message)
    (hRouter : r.IsRespectful)
    (hOf : (r.contextOf m).IsOf owner) :
    (r.route m).Respects owner .nothing := by
  unfold route
  split
  · rename_i c tail hSelect
    apply (Permission.respects_holds _ _ _ _ _).bind
    intro holds
    cases holds with
    | true =>
        exact respects_run tail (hRouter.of_select hSelect) hOf
    | false =>
        apply (respects_safeReply _ hOf).bind
        intro _
        constructor
  · constructor

end Router

------------------------------------------------------------
-- The Bot
------------------------------------------------------------

namespace Bot

theorem isRespectful_register
    {r r' : Router}
    {e : Command.Entry}
    (hRouter : r.IsRespectful)
    (hEntry : e.IsRespectful)
    (hRegister : r.register e = .ok r') :
    r'.IsRespectful := by
  unfold Router.register at hRegister
  split at hRegister
  · cases hRegister
  · cases hRegister
    intro x hMember
    rcases List.mem_append.mp hMember with hOld | hNew
    · exact hRouter x hOld
    · rw [List.mem_singleton.mp hNew]
      exact hEntry

/- What each registration keeps is kept by all of them. -/
theorem of_foldlM_register
    {P : Router → Prop}
    {es : List Command.Entry}
    {first last : Router}
    (hFirst : P first)
    (hKeeps :
      ∀ e ∈ es, ∀ r r', P r → r.register e = .ok r' → P r')
    (hDone : es.foldlM Router.register first = .ok last) :
    P last := by
  induction es generalizing first with
  | nil =>
      cases hDone
      exact hFirst
  | cons e rest hInduction =>
      rw [List.foldlM_cons] at hDone
      rcases Cause.bind_eq_ok_iff.mp hDone with
        ⟨between, hRegister, hRest⟩
      refine hInduction ?_ ?_ hRest
      · exact hKeeps e List.mem_cons_self _ _ hFirst hRegister
      · intro e' hMember
        exact hKeeps e' (List.mem_cons_of_mem _ hMember)

theorem isRespectful_routerWith
    {bare r : Router}
    {es : List Command.Entry}
    (hBare : bare.IsRespectful)
    (hEntries : ∀ e ∈ es, e.IsRespectful)
    (hRouter : routerWith bare es = .ok r) :
    r.IsRespectful := by
  rcases Cause.bind_eq_ok_iff.mp hRouter with
    ⟨registered, hDone, hHelp⟩
  have hRegistered : registered.IsRespectful := by
    refine of_foldlM_register hBare ?_ hDone
    intro e hMember s t hKept hRegister
    exact isRespectful_register hKept (hEntries e hMember) hRegister
  exact isRespectful_register hRegistered
    (Command.Help.isRespectful_entry registered) hHelp

theorem isRespectful_entries
    (f : FeatureSettings)
    (roles : RoleSettings)
    (registry playground : ServiceSettings) :
    ∀ e ∈ entries f roles registry playground,
      e.IsRespectful := by
  intro e hMember
  unfold entries at hMember
  simp only [List.mem_append] at hMember
  rcases hMember with
    (((hTags | hCrates) | hPlay) | hModeration) | hWelcome
  · split at hTags
    · exact Command.isRespectful_tags e hTags
    · cases hTags
  · split at hCrates
    · exact Command.isRespectful_crates registry e hCrates
    · cases hCrates
  · split at hPlay
    · exact Command.isRespectful_play playground e hPlay
    · cases hPlay
  · exact Command.isRespectful_moderation e hModeration
  · exact Command.isRespectful_welcome roles.talkRoleId e
      hWelcome

/- The commands of the bot respect the history. -/
theorem isRespectful_router
    {s : Settings}
    {b : Bot}
    (hBot : ofSettings s = .ok b) :
    b.router.IsRespectful := by
  rcases Cause.bind_eq_ok_iff.mp hBot with ⟨roles, _, hBot⟩
  rcases Cause.bind_eq_ok_iff.mp hBot with ⟨maxAge, _, hBot⟩
  rcases Cause.bind_eq_ok_iff.mp hBot with ⟨mark, _, hBot⟩
  rcases Cause.bind_eq_ok_iff.mp hBot with ⟨timeout, _, hBot⟩
  rcases Cause.bind_eq_ok_iff.mp hBot with ⟨registry, _, hBot⟩
  rcases Cause.bind_eq_ok_iff.mp hBot with ⟨playground, _, hBot⟩
  rcases Cause.bind_eq_ok_iff.mp hBot with ⟨router, hRouter, hBot⟩
  rcases Cause.bind_eq_ok_iff.mp hBot with ⟨backoff, _, hBot⟩
  rcases Cause.bind_eq_ok_iff.mp hBot with ⟨workers, _, hBot⟩
  rcases Cause.bind_eq_ok_iff.mp hBot with ⟨interval, _, hBot⟩
  cases hBot
  apply isRespectful_routerWith _
    (isRespectful_entries s.features roles registry playground)
    hRouter
  intro x hMember
  cases hMember

end Bot

------------------------------------------------------------
-- The Dispatcher
------------------------------------------------------------

namespace Dispatcher

/- The command for which jobs of a key work. -/
def Key.owner? : Option Key → Option Int
  | some (.message id) => some id
  | _ => none

variable {d : Dispatcher}

/- A message is routed in the name of its own id. -/
theorem respects_routing
    {r : Router}
    {x : Command.Message}
    {id : Int}
    (hRouter : r.IsRespectful)
    (hMessage : x.messageId = some id) :
    (routing r x).Respects (some id) .nothing := by
  have hOf : (r.contextOf x).IsOf (some id) := by
    intro recorded hRecorded
    unfold Command.Context.recordedId? Router.contextOf
      at hRecorded
    split at hRecorded
    · rw [← hRecorded]
      exact hMessage.symm
    · cases hRecorded
  apply (Router.respects_route x hRouter hOf).bind
  intro outcome
  exact .request _

theorem respects_deleteReply
    (e : ReplyEntry) :
    (deleteReply e).Respects owner .nothing := by
  apply Respects.handling (Platform.respects_perform _)
  intro cause
  constructor

/- A command is run in the name of its message, or not at all. -/
theorem respects_runOnce
    {m : Memory}
    {editedAt : Option Timestamp}
    {id : Int}
    {x : Command.Message}
    {job : Job}
    (hRouter : d.router.IsRespectful)
    (hMessage : x.messageId = some id)
    (hJob : (d.runOnce m editedAt id x).job = some job) :
    job.program.Respects (Key.owner? job.key) .nothing := by
  unfold runOnce remember at hJob
  split at hJob
  · cases hJob
  · rename_i d' hRemember
    split at hRemember
    · cases hRemember
    · cases hRemember
      cases hJob
      exact respects_routing hRouter hMessage

/- The job of a command has the key of its message. -/
theorem key_runOnce
    {m : Memory}
    {editedAt : Option Timestamp}
    {id : Int}
    {x : Command.Message}
    {job : Job}
    (hJob : (d.runOnce m editedAt id x).job = some job) :
    job.key = some (.message id) := by
  unfold runOnce at hJob
  split at hJob
  · cases hJob
  · cases hJob
    rfl

/-
  The jobs that events lead to: a command is run for its
  message, the reply to a message is deleted, a reaction is
  followed, or a ban is forgotten.
-/
inductive LeadsTo
    (d : Dispatcher) : Event → Job → Prop where
  | run
      {e : Event}
      {job : Job}
      {m : Memory}
      {editedAt : Option Timestamp}
      {id : Int}
      {x : Command.Message}
      (hMessage : x.messageId = some id)
      (hJob : (d.runOnce m editedAt id x).job = some job) :
      LeadsTo d e job
  | deletion
      {e : Event}
      (id : Int)
      (entry : ReplyEntry) :
      LeadsTo d e ⟨some (.message id), deleteReply entry⟩
  | reaction
      (r : Event.Reaction) :
      LeadsTo d (.reaction r)
        ⟨some (.reaction r.messageId r.userId),
          (ReactionRole.follow r).bind fun _ => .done ()⟩
  | unban
      (guildId userId : Int) :
      LeadsTo d (.banRemoved guildId userId)
        ⟨none, (Ban.forget guildId userId).bind fun _ => .done ()⟩

theorem leadsTo_of_takeMessage
    {m : Memory}
    {x : Event.Message}
    {job : Job}
    (hJob : (d.takeMessage m x).job = some job) :
    LeadsTo d (.messageCreate x) job := by
  unfold takeMessage at hJob
  split at hJob
  · cases hJob
  · simp only at hJob
    split at hJob
    · cases hJob
    · exact .run rfl hJob

theorem leadsTo_of_takeEdit
    {now : Rat}
    {m : Memory}
    {x : Event.Edit}
    {job : Job}
    (hJob : (d.takeEdit now m x).job = some job) :
    LeadsTo d (.messageUpdate x) job := by
  unfold takeEdit takeEditedText at hJob
  split at hJob
  · cases hJob
  · split at hJob
    · cases hJob
    · simp only at hJob
      split at hJob
      · split at hJob
        · exact .run rfl hJob
        · cases hJob
      · cases hJob
  · cases hJob

/- An event leads to one of these jobs, or to none. -/
theorem leadsTo_of_take
    {now : Rat}
    {m : Memory}
    {e : Event}
    {job : Job}
    (hJob : (d.take now m e).job = some job) :
    LeadsTo d e job := by
  cases e with
  | messageCreate x => exact leadsTo_of_takeMessage hJob
  | messageUpdate x => exact leadsTo_of_takeEdit hJob
  | messageDelete id channelId guildId =>
      change (d.takeDeletion m id).job = some job at hJob
      unfold takeDeletion at hJob
      split at hJob
      · cases hJob
      · cases hJob
        exact .deletion id _
  | reaction r =>
      cases hJob
      exact .reaction r
  | banRemoved guildId userId =>
      cases hJob
      exact .unban guildId userId
  | _ => cases hJob

/- Every job that an event leads to respects the history. -/
theorem respects_take
    {now : Rat}
    {m : Memory}
    {e : Event}
    {job : Job}
    (hRouter : d.router.IsRespectful)
    (hJob : (d.take now m e).job = some job) :
    job.program.Respects (Key.owner? job.key) .nothing := by
  cases leadsTo_of_take hJob with
  | run hMessage hRun =>
      exact respects_runOnce hRouter hMessage hRun
  | deletion id entry => exact respects_deleteReply entry
  | reaction r =>
      apply (ReactionRole.respects_follow r).bind
      intro changed
      constructor
  | unban guildId userId =>
      apply (Ban.respects_forget guildId userId).bind
      intro known
      constructor

end Dispatcher

end GuildWarden
