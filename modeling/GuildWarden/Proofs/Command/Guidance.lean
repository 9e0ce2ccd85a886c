import GuildWarden.Proofs.Command.Handlers
import GuildWarden.Proofs.Command.Outcomes
import GuildWarden.Proofs.Command.Reporting
import GuildWarden.Proofs.Effect.Relaying
import GuildWarden.Proofs.Payload.Number
import GuildWarden.Proofs.Text.Case

/-
  This file says which commands the help command finds. From
  the start of a query it takes every character that occurs in
  the mark, and not the mark alone. So a command is found under
  its name, with the mark or without it, exactly if the name
  does not start with a character of the mark. Otherwise help
  looks for what is left of the name, and that is another
  command or none.

  Key definitions include:
    * `Router.IsKeyed`
    * `Command.Help.leftOf`
    * `Command.Help.IsKept`
    * `Command.Help.entryOf?`
    * `Command.Help.Tells`

  Main statements:
    * `Command.Context.relays_say`
    * `Command.Help.topic?_eq`
    * `Command.Help.entryOf?_eq_iff`
    * `Command.Help.tells_of_topic?`
    * `Command.Help.finds_iff_isKept`
-/

namespace GuildWarden

open Program Text

------------------------------------------------------------
-- Registered Commands
------------------------------------------------------------

namespace Router

variable {r r' : Router}
variable {e : Command.Entry}

/- A command is registered unless its name is taken. -/
theorem register_eq_ok_iff :
    r.register e = .ok r' ↔
      r.entries.lookup e.key = none ∧
        r' = { r with entries := r.entries ++ [(e.key, e)] } := by
  have hFree :
      (r.entries.any fun x => x.1 == e.key) = false ↔
        r.entries.lookup e.key = none := by
    rw [List.lookup_eq_none_iff, List.any_eq_false]
    simp only [beq_iff_eq, bne_iff_ne, ne_comm, ne_eq]
  unfold register
  cases hAny : r.entries.any fun x => x.1 == e.key with
  | true =>
      have hTaken : r.entries.lookup e.key ≠ none := by
        rw [ne_eq, ← hFree, hAny]
        simp
      simp [hTaken]
  | false => simp [hFree.mp hAny, eq_comm]

/- Every entry stands under its own key. -/
def IsKeyed
    (r : Router) : Prop :=
  ∀ x ∈ r.entries, x.1 = x.2.key

theorem IsKeyed.register
    (hKeyed : r.IsKeyed)
    (hRegister : r.register e = .ok r') :
    r'.IsKeyed := by
  rw [(register_eq_ok_iff.mp hRegister).2]
  intro x hMember
  rcases List.mem_append.mp hMember with hOld | hNew
  · exact hKeyed x hOld
  · rw [List.mem_singleton.mp hNew]

theorem IsKeyed.key_of_lookup
    {name : String}
    (hKeyed : r.IsKeyed)
    (hEntry : r.lookup name = some e) :
    e.key = lower name := by
  rcases List.lookup_eq_some_iff.mp hEntry with
    ⟨before, after, hEntries, _⟩
  have hMember : (lower name, e) ∈ r.entries := by
    rw [hEntries]
    simp
  exact (hKeyed _ hMember).symm

end Router

------------------------------------------------------------
-- Replies
------------------------------------------------------------

namespace Command.Context

variable {ctx : Context}

theorem relays_changeEarlier
    (s : String) :
    (ctx.changeEarlier (.text s) none).Relays
      fun cause => cause.isMisreading = true := by
  unfold changeEarlier
  split
  · intro m
    simp only [Program.bind]
    split
    · refine Relays.handling (Relays.bind ?_ fun _ => trivial)
        fun _ _ => trivial
      refine Relays.bind ?_ fun _ => Relays.request _
      refine (Relays.settle _).mono fun cause hUnfit => ?_
      rw [Platform.eq_badType_of_fitted hUnfit]
      rfl
    · trivial
  · trivial

theorem relays_record
    (reply : Payload) :
    (ctx.record reply).Relays
      fun cause => cause.isMisreading = true := by
  unfold record
  split
  · split
    · refine Relays.bind ?_ fun _ =>
        (Relays.request _).bind fun _ _ => trivial
      exact (Relays.settle _).mono fun _ hUnread =>
        Payload.isMisreading_of_idItem hUnread
    · trivial
  · trivial

/-
  A reply with a text fails because of an answer, or since the
  message that was sent has no usable id.
-/
theorem relays_say
    (s : String) :
    (ctx.say s).Relays fun cause => cause.isMisreading = true := by
  unfold say
  rw [reply_eq]
  refine (relays_changeEarlier s).bind fun kept => ?_
  unfold afresh
  split
  · trivial
  · exact (Relays.request _).bind relays_record

end Command.Context

namespace Command.Help

variable {bare r : Router}
variable {name query : String}

------------------------------------------------------------
-- What Is Left of a Name
------------------------------------------------------------

/- A name without the characters of the mark at its start. -/
def leftOf
    (mark name : String) : String :=
  String.ofList (name.toList.dropWhile fun c => mark.toList.contains c)

/- A name that does not start with a character of the mark. -/
def IsKept
    (mark name : String) : Prop :=
  ∃ c ∈ name.toList.head?, c ∉ mark.toList

theorem exists_append_leftOf
    (mark name : String) :
    ∃ taken, name.toList = taken ++ (leftOf mark name).toList := by
  refine ⟨name.toList.takeWhile fun c => mark.toList.contains c, ?_⟩
  rw [leftOf, String.toList_ofList,
    List.takeWhile_append_dropWhile]

theorem isKept_iff
    {mark : String} :
    IsKept mark name ↔
      leftOf mark name = name ∧ leftOf mark name ≠ "" := by
  rw [← String.toList_inj, ne_eq, ← String.toList_inj, leftOf,
    String.toList_ofList]
  unfold IsKept
  cases name.toList with
  | nil => simp
  | cons c cs =>
      by_cases hMark : c ∈ mark.toList
      · have hShort := (cs.dropWhile_sublist
          fun c => mark.toList.contains c).length_le
        simp only [List.head?_cons, Option.mem_some_iff,
          exists_eq_left', hMark, not_true_eq_false, false_iff,
          List.dropWhile_cons, List.contains_iff_mem, if_true,
          not_and]
        intro hSame
        rw [hSame, List.length_cons] at hShort
        omega
      · simp [hMark]

/-
  The characters of a mark are taken away from the start of a
  name, whether the mark stands before it or not.
-/
theorem dropWhile_trim_append
    {p : Char → Bool}
    {cs : List Char}
    (lead : List Char)
    (hLead : ∀ c ∈ lead, p c = true)
    (hFilled : ∀ c ∈ cs, isBlank c = false) :
    (trim (lead ++ cs)).dropWhile p = cs.dropWhile p := by
  cases cs with
  | nil =>
      rw [List.append_nil, ← List.append_nil (trim lead)]
      exact List.dropWhile_append_of_pos
        fun c hMember => hLead c (mem_of_mem_trim hMember)
  | cons d cs =>
      rw [trim_append_of_filled lead hFilled (List.cons_ne_nil d cs)]
      exact List.dropWhile_append_of_pos
        fun c hMember =>
          hLead c ((List.dropWhile_sublist _).subset hMember)

------------------------------------------------------------
-- Topics
------------------------------------------------------------

/- The entry that help tells of when it is asked for a name. -/
def entryOf?
    (r : Router)
    (name : String) : Option Entry :=
  if leftOf r.mark name = "" then none
  else r.lookup (leftOf r.mark name)

theorem key_entry
    (r : Router) :
    (entry r).key = "help" := by
  change lower "help" = "help"
  decide

/- Help tells of every entry of a router, and of itself. -/
theorem topics_eq
    (hHelp : bare.register (entry bare) = .ok r) :
    (Guide.ofRouter bare).topics =
      r.entries.map fun x => (x.1, Topic.ofEntry x.2) := by
  rw [(Router.register_eq_ok_iff.mp hHelp).2, key_entry,
    List.map_append]
  rfl

theorem lookup_topics
    (hHelp : bare.register (entry bare) = .ok r)
    (name : String) :
    (Guide.ofRouter bare).topics.lookup (lower name) =
      (r.lookup name).map Topic.ofEntry := by
  rw [topics_eq hHelp, Router.lookup]
  induction r.entries with
  | nil => rfl
  | cons x rest hInduction =>
      rw [List.map_cons, List.lookup_cons, List.lookup_cons]
      cases lower name == x.1 with
      | true => rfl
      | false => exact hInduction

/- A query for a name leads to the entry of what is left of it. -/
theorem topic?_eq
    (hHelp : bare.register (entry bare) = .ok r)
    (hFilled : ∀ c ∈ name.toList, isBlank c = false)
    (hQuery : query = name ∨ query = r.mark ++ name) :
    (Guide.ofRouter bare).topic? (trimmed query) =
      (entryOf? r name).map Topic.ofEntry := by
  have hMark : (Guide.ofRouter bare).mark = r.mark := by
    rw [(Router.register_eq_ok_iff.mp hHelp).2]
    rfl
  have hLeft :
      (Guide.ofRouter bare).withoutMark (trimmed query) =
        name.toList.dropWhile fun c => r.mark.toList.contains c := by
    rw [Guide.withoutMark, trimmed, String.toList_ofList, hMark]
    rcases hQuery with rfl | rfl
    · exact dropWhile_trim_append [] (by simp) hFilled
    · rw [String.toList_append]
      exact dropWhile_trim_append _ (by simp) hFilled
  have hLetters :
      ∀ c ∈ name.toList.dropWhile fun c =>
          r.mark.toList.contains c,
        isBlank c = false :=
    fun c hMember =>
      hFilled c ((List.dropWhile_sublist _).subset hMember)
  unfold Guide.topic? entryOf? leftOf
  rw [hLeft]
  cases hWord : name.toList.dropWhile fun c =>
      r.mark.toList.contains c with
  | nil => rfl
  | cons c word =>
      rw [hWord] at hLetters
      -- One word is left, and so no subcommand is asked for.
      have hSplit : splitWord? (c :: word) = some (c :: word, []) := by
        rw [splitWord?_eq_some_iff
          fun d hHead => hLetters d (List.mem_of_mem_head? hHead)]
        exact ⟨[], by simp, by simp, hLetters, by simp,
          fun _ => rfl, by simp [StartsFilled]⟩
      have hSome : String.ofList (c :: word) ≠ "" := by
        rw [ne_eq, ← String.toList_inj, String.toList_ofList]
        simp
      rw [hSplit, if_neg hSome, ← lookup_topics hHelp]
      simp only [Option.bind_eq_bind, Option.bind_some]
      cases (Guide.ofRouter bare).topics.lookup
          (lower (String.ofList (c :: word))) <;> rfl

/-
  It is the entry of the name itself only if the name is kept:
  in small letters, what is left of it is shorter.
-/
theorem entryOf?_eq_iff
    {e : Entry}
    (hKeyed : r.IsKeyed)
    (hEntry : r.lookup name = some e) :
    entryOf? r name = some e ↔ IsKept r.mark name := by
  rw [isKept_iff]
  unfold entryOf?
  constructor
  · intro hFound
    split at hFound
    · cases hFound
    · rename_i hSome
      refine ⟨?_, hSome⟩
      have hSame : lower (leftOf r.mark name) = lower name := by
        rw [← hKeyed.key_of_lookup hFound,
          ← hKeyed.key_of_lookup hEntry]
      rcases exists_append_leftOf r.mark name with ⟨taken, hText⟩
      cases taken with
      | nil => exact String.toList_inj.mp hText.symm
      | cons c taken =>
          -- In small letters, too, it is shorter than the name.
          exact absurd hSame.symm
            (lower_ne_of_append hText (List.cons_ne_nil c taken))
  · rintro ⟨hSame, hSome⟩
    rw [if_neg hSome, hSame, hEntry]

------------------------------------------------------------
-- Answers
------------------------------------------------------------

namespace Guide

variable {g : Guide}
variable {ctx : Context}

/- To see what a caller may use, nothing is asked for. -/
theorem only_allowed
    {P : Request → Prop}
    (infos : List Info) :
    (g.allowed ctx infos).Only P := by
  induction infos with
  | nil => trivial
  | cons i rest hInduction =>
      refine (Permission.only_holds _ _ _).bind fun _ => ?_
      exact hInduction.bind fun _ => trivial

theorem not_fails_allowed
    {infos : List Info}
    {trace : List Exchange}
    {cause : Cause} :
    ¬ Runs (g.allowed ctx infos) trace (.error cause) := by
  intro hRuns
  induction infos generalizing trace with
  | nil => cases hRuns
  | cons i rest hInduction =>
      rcases runs_bind_iff.mp hRuns with
        ⟨_, _, hHolds⟩ | ⟨_, _, _, _, _, hLater⟩
      · exact Permission.not_fails_holds hHolds
      rcases runs_bind_iff.mp hLater with
        ⟨_, hSame, hRest⟩ | ⟨_, _, _, _, _, hDone⟩
      · cases hSame
        exact hInduction hRest
      · cases hDone

end Guide

/-
  A caller is told how a command is called, by one reply with
  a text that has its line. Nothing but the reply is asked for,
  and nobody says that the command is not found unless that
  was answered.
-/
def Tells
    (mark : String)
    (ctx : Context)
    (i : Info)
    (trace : List Exchange)
    (result : Except Cause Unit) : Prop :=
  ∃ looks said text,
    trace = looks ++ said ∧
      (∀ q answer, .asked q answer ∉ looks) ∧
      Runs (ctx.say text) said result ∧
      (i.usageLine mark).toList <:+: text.toList ∧
      ∀ s, result = .error (.notFound s) →
        ∃ q, .asked q (.error (.notFound s)) ∈ said

/- One who may use the command of a query is told of it. -/
theorem tells_of_topic?
    {g : Guide}
    {ctx : Context}
    {t : Topic}
    {seen later : List Exchange}
    {result : Except Cause Unit}
    (hTopic : g.topic? (trimmed query) = some t)
    (hAllowed : Runs (g.allows ctx t.info) seen (.ok true))
    (hRuns : Runs (g.answer ctx query) (seen ++ later) result) :
    Tells g.mark ctx t.info later result := by
  have hSome : trimmed query ≠ "" := by
    intro hNone
    rw [hNone] at hTopic
    cases hTopic
  unfold Guide.answer at hRuns
  simp only [if_neg hSome, Guide.explain, hTopic] at hRuns
  have hRest := runs_of_bind hAllowed hRuns
  simp only [if_true] at hRest
  -- What is left is a look at the subcommands, and the reply.
  rcases runs_bind_iff.mp hRest with
    ⟨_, _, hFail⟩ | ⟨looks, parts, said, rfl, hLooks, hSaid⟩
  · exact (Guide.not_fails_allowed hFail).elim
  refine ⟨looks, said, _, rfl, ?_, hSaid, ?_, ?_⟩
  · intro q answer hMember
    exact (Guide.only_allowed (P := fun _ => False) _).of_runs
      hLooks q answer hMember
  · have hBlock :
        Guide.block [t.info.usageLine g.mark] =
          "```\n" ++ t.info.usageLine g.mark ++ "\n```" :=
      rfl
    simp only [hBlock, String.toList_append]
    exact ⟨t.info.description.toList ++ "\n".toList ++
      "```\n".toList, _, by simp only [List.append_assoc]; rfl⟩
  · rintro s rfl
    rcases (ctx.relays_say _).of_runs hSaid with
      hMisread | hAnswered
    · cases hMisread
    · exact hAnswered

/- Of a query without a command it is said that there is none. -/
theorem answer_eq_fail
    {g : Guide}
    (hSome : trimmed query ≠ "")
    (hTopic : g.topic? (trimmed query) = none)
    (ctx : Context) :
    g.answer ctx query = .fail (Guide.unknown (trimmed query)) := by
  unfold Guide.answer
  simp only [if_neg hSome, Guide.explain, hTopic]
  rfl

------------------------------------------------------------
-- The Help of a Router
------------------------------------------------------------

variable {start : Router}
variable {es : List Entry}
variable {h e : Entry}

/- A router that is put together has keys, and its own help. -/
theorem exists_of_routerWith
    (hStart : start.entries = [])
    (hRouter : Bot.routerWith start es = .ok r)
    (hHelp : r.lookup "help" = some h) :
    ∃ bare : Router, bare.register (entry bare) = .ok r ∧
      r.IsKeyed ∧ h = entry bare := by
  rcases Cause.bind_eq_ok_iff.mp hRouter with
    ⟨bare, hDone, hRegister⟩
  have hKeyed : bare.IsKeyed := by
    refine Bot.of_foldlM_register ?_ ?_ hDone
    · intro x hMember
      rw [hStart] at hMember
      cases hMember
    · intro e _ s t hKept hNext
      exact hKept.register hNext
  refine ⟨bare, hRegister, hKeyed.register hRegister, ?_⟩
  rcases Router.register_eq_ok_iff.mp hRegister with
    ⟨hFree, rfl⟩
  have hKey : lower "help" = (entry bare).key :=
    (by decide : lower "help" = "help").trans (key_entry bare).symm
  rw [Router.lookup, hKey, List.lookup_append, hFree] at hHelp
  simpa [eq_comm] using hHelp

/-
  Which commands help finds. The query is the name of a command
  without blanks, in any case and with the mark or without it.
  Help goes by what is left of the name once the characters of
  the mark are taken from its start. This leads to the command
  exactly if the name does not start with such a character.
  Whoever may use the command that it leads to is told how it
  is called; if it leads to none, it is said that there is no
  such command.
-/
theorem finds_iff_isKept
    (hStart : start.entries = [])
    (hRouter : Bot.routerWith start es = .ok r)
    (hHelp : r.lookup "help" = some h)
    (hEntry : r.lookup name = some e)
    (hFilled : ∀ c ∈ (lower name).toList, isBlank c = false)
    (hQuery : query = name ∨ query = r.mark ++ name) :
    (entryOf? r name = some e ↔ IsKept r.mark name) ∧
      ∀ ctx : Context,
        (∀ found, entryOf? r name = some found →
          ∀ seen later result,
            Runs
              (Permission.holds r.roles ctx.guildId
                ctx.author.id found.command.info.tier
                ctx.memberRoles)
              seen (.ok true) →
            Runs (h.command.handler ctx query) (seen ++ later)
              result →
            Tells r.mark ctx found.command.info later result) ∧
        (entryOf? r name = none → trimmed query ≠ "" →
          h.command.handler ctx query =
            .fail (.notFound
              ("No command named `" ++ trimmed query ++ "`"))) := by
  rcases exists_of_routerWith hStart hRouter hHelp with
    ⟨bare, hRegister, hKeyed, rfl⟩
  have hTopic :=
    topic?_eq hRegister (isBlank_of_lower hFilled) hQuery
  have hHandler (ctx : Context) :
      (entry bare).command.handler ctx query =
        (Guide.ofRouter bare).answer ctx query :=
    rfl
  refine ⟨entryOf?_eq_iff hKeyed hEntry, fun ctx => ⟨?_, ?_⟩⟩
  · intro found hFound seen later result hAllowed hRuns
    rw [hFound] at hTopic
    rw [hHandler] at hRuns
    have hTells :=
      @tells_of_topic? query (Guide.ofRouter bare) ctx
        (Topic.ofEntry found) seen later result hTopic
    rw [(Router.register_eq_ok_iff.mp hRegister).2] at hAllowed ⊢
    exact hTells hAllowed hRuns
  · intro hNone hSome
    rw [hNone] at hTopic
    rw [hHandler]
    exact answer_eq_fail hSome hTopic ctx

/- A router without commands, for a mark. -/
def unfilled
    (mark : String) : Router :=
  Router.empty ⟨IdMap.empty, [], IdMap.empty, [], none⟩ mark
    (.seconds 15) true

/-
  A command that everyone may use is not found, since its name
  starts with a letter of the mark.
-/
theorem overlapping_mark_hides :
    ∃ (r : Router) (h e : Entry),
      Bot.routerWith (unfilled "t!") Tags.entries = .ok r ∧
        r.lookup "help" = some h ∧ r.lookup "tag" = some e ∧
        entryOf? r "tag" ≠ some e ∧
        ∀ ctx,
          h.command.handler ctx "tag" =
            .fail (.notFound "No command named `tag`") := by
  obtain ⟨r, h, e, hRouter, hHelp, hEntry, hMark, hNone⟩ :
      ∃ (r : Router) (h e : Entry),
        Bot.routerWith (unfilled "t!") Tags.entries = .ok r ∧
          r.lookup "help" = some h ∧ r.lookup "tag" = some e ∧
          r.mark = "t!" ∧ entryOf? r "tag" = none :=
    ⟨_, _, _, rfl, rfl, rfl, rfl, rfl⟩
  have hFilled : ∀ c ∈ (lower "tag").toList, isBlank c = false := by
    have hAll :
        (lower "tag").toList.all (fun c => !isBlank c) = true := by
      decide
    simpa using hAll
  rcases finds_iff_isKept (by rfl) hRouter hHelp hEntry hFilled
      (Or.inl rfl) with ⟨hKept, hAnswers⟩
  refine ⟨r, h, e, hRouter, hHelp, hEntry, ?_, ?_⟩
  · rw [ne_eq, hKept, hMark]
    simp [IsKept]
  · intro ctx
    rw [(hAnswers ctx).2 hNone (by decide)]
    rfl

end Command.Help

end GuildWarden
