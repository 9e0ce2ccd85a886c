import GuildWarden.Proofs.Command.Guidance
import GuildWarden.Proofs.Run.Release
import GuildWarden.Proofs.Settings.Views

/-
  This file says for which settings a run can get ready: those
  whose entries suit every view that is looked at on the way.
  Whatever commands are turned on, they can be registered.

  Key definitions include:
    * `Bot.commandNames`
    * `Bot.views`
    * `Run.smooth`

  Main statements:
    * `Bot.exists_routerWith`
    * `Bot.exists_ofSettings_iff`
    * `Run.exists_ready_iff`
    * `Settings.reads_iff_suits`
-/

namespace GuildWarden

------------------------------------------------------------
-- Commands
------------------------------------------------------------

namespace Bot

/- The names of the commands, in the order of registration. -/
def commandNames
    (f : FeatureSettings) : List String :=
  (if f.tags then ["tag", "tags"] else []) ++
    (if f.crates then ["crate", "docs"] else []) ++
    (if f.playground then ["play", "eval"] else []) ++
    ["ban", "kick", "slowmode"] ++ ["CoC"]

theorem keys_entries
    (f : FeatureSettings)
    (roles : RoleSettings)
    (registry playground : ServiceSettings) :
    (entries f roles registry playground).map Command.Entry.key =
      (commandNames f).map Text.lower := by
  obtain ⟨tags, crates, plays⟩ := f
  cases tags <;> cases crates <;> cases plays <;> rfl

theorem nodup_commandNames
    (f : FeatureSettings) :
    ((commandNames f ++ ["help"]).map Text.lower).Nodup := by
  obtain ⟨tags, crates, playground⟩ := f
  cases tags <;> cases crates <;> cases playground <;> decide

/- An entry under a new name is registered. -/
theorem exists_register
    {r : Router}
    {e : Command.Entry}
    (hNew : e.key ∉ r.entries.map (·.1)) :
    ∃ r', r.register e = .ok r' ∧
      r'.entries.map (·.1) = r.entries.map (·.1) ++ [e.key] := by
  have hFree : r.entries.lookup e.key = none := by
    rw [List.lookup_eq_none_iff]
    intro x hMember
    rw [bne_iff_ne]
    intro hSame
    exact hNew (List.mem_map.mpr ⟨x, hMember, hSame.symm⟩)
  exact ⟨_, Router.register_eq_ok_iff.mpr ⟨hFree, rfl⟩,
    List.map_append⟩

/- Entries under new and different names are all registered. -/
theorem exists_foldlM_register
    {r : Router}
    {es : List Command.Entry}
    (hKeys :
      (r.entries.map (·.1) ++ es.map Command.Entry.key).Nodup) :
    ∃ r', es.foldlM Router.register r = .ok r' ∧
      r'.entries.map (·.1) =
        r.entries.map (·.1) ++ es.map Command.Entry.key := by
  induction es generalizing r with
  | nil => exact ⟨r, rfl, (List.append_nil _).symm⟩
  | cons e es hInduction =>
      rw [List.map_cons, List.append_cons] at hKeys
      have hNew : e.key ∉ r.entries.map (·.1) := by
        have hFirst := (List.nodup_append.mp hKeys).1
        exact (List.nodup_cons.mp
          (List.nodup_append_comm.mp hFirst)).1
      rcases exists_register hNew with ⟨between, hFirst, hBetween⟩
      rw [← hBetween] at hKeys
      rcases hInduction hKeys with ⟨r', hRest, hAll⟩
      refine ⟨r', ?_, ?_⟩
      · rw [List.foldlM_cons, hFirst]
        exact hRest
      · rw [hAll, hBetween, List.map_cons, ← List.append_cons]

/- The commands of the bot are registered, whatever is turned on. -/
theorem exists_routerWith
    {bare : Router}
    (hBare : bare.entries = [])
    (f : FeatureSettings)
    (roles : RoleSettings)
    (registry playground : ServiceSettings) :
    ∃ r, routerWith bare (entries f roles registry playground) =
      .ok r := by
  have hNames := nodup_commandNames f
  rw [List.map_append, ← keys_entries f roles registry playground]
    at hNames
  have hKeys := (List.nodup_append.mp hNames).1
  rcases exists_foldlM_register (r := bare) (by rwa [hBare]) with
    ⟨r, hAll, hEntries⟩
  have hHelp : (Command.Help.entry r).key ∉ r.entries.map (·.1) := by
    rw [hEntries, hBare, Command.Help.key_entry]
    exact (List.nodup_cons.mp
      (List.nodup_append_comm.mp hNames)).1
  rcases exists_register hHelp with ⟨r', hDone, _⟩
  exact ⟨r', Cause.bind_eq_ok_iff.mpr ⟨r, hAll, hDone⟩⟩

variable {s : Settings}

/- The views of the settings that a bot is made of. -/
def views : List Settings.View :=
  [
    .roles, .historyMaxAge, .commandMark, .handlerTimeout,
    .registry, .playground, .gateway, .maxWorkers, .jobsInterval
  ]

/- Settings describe a bot if they suit the views it is made of. -/
theorem exists_ofSettings_iff :
    (∃ b, ofSettings s = .ok b) ↔ ∀ v ∈ views, s.Suits v := by
  have hShown (v : Settings.View) :
      s.Suits v ↔ ∃ shown, v.read s "" = .ok shown := by
    simp only [Settings.read_eq_ok_iff, Settings.exists_shows_iff]
  simp only [hShown, views, List.forall_mem_cons, ofSettings,
    Cause.bind_eq_ok_iff]
  constructor
  · rintro ⟨_, roles, hRoles, maxAge, hMaxAge, mark, hMark,
      timeout, hTimeout, registry, hRegistry, playground,
      hPlayground, _, _, backoff, hBackoff, workers, hWorkers,
      interval, hInterval, _⟩
    exact ⟨⟨_, hRoles⟩, ⟨_, hMaxAge⟩, ⟨_, hMark⟩, ⟨_, hTimeout⟩,
      ⟨_, hRegistry⟩, ⟨_, hPlayground⟩, ⟨_, hBackoff⟩,
      ⟨_, hWorkers⟩, ⟨_, hInterval⟩, nofun⟩
  · rintro ⟨⟨roles, hRoles⟩, ⟨maxAge, hMaxAge⟩, ⟨mark, hMark⟩,
      ⟨timeout, hTimeout⟩, ⟨registry, hRegistry⟩,
      ⟨playground, hPlayground⟩, ⟨backoff, hBackoff⟩,
      ⟨workers, hWorkers⟩, ⟨interval, hInterval⟩, _⟩
    have hBare :
        (Router.empty roles mark (Span.ofBinary64 timeout)
          true).entries = [] := rfl
    rcases exists_routerWith hBare s.features roles registry
        playground with
      ⟨router, hRouter⟩
    exact ⟨_, roles, hRoles, maxAge, hMaxAge, mark, hMark, timeout,
      hTimeout, registry, hRegistry, playground, hPlayground,
      router, hRouter, backoff, hBackoff, workers, hWorkers,
      interval, hInterval, rfl⟩

end Bot

------------------------------------------------------------
-- Starts
------------------------------------------------------------

namespace Run

open Program

variable {s : Settings}
variable {here token : String}
variable {trace : List Exchange}

/- The store is only opened at a place that the settings give. -/
theorem exists_path_of_openStore
    (hRuns : Runs (openStore s here) trace (.ok true)) :
    ∃ path, s.databasePath here = .ok path := by
  unfold openStore at hRuns
  cases hPath : s.databasePath here with
  | ok path => exact ⟨path, rfl⟩
  | error cause =>
      rw [hPath] at hRuns
      exact absurd rfl (runs_given_up hRuns).2

/- The user as whom the platform may know a token. -/
def someone : Payload :=
  .map [("id", .int 1)]

/- A start in which nothing outside fails. -/
def smooth
    (token : String) : List Exchange :=
  [
    .asked .openStore (.ok ()),
    .asked (.login token) (.ok someone),
    .saw Memory.empty
  ]

/- It gets as far as the bot that the settings describe. -/
theorem runs_smooth
    {b : Bot}
    (hToken : token ≠ "")
    (hLevel : checkLogLevel s = .ok ())
    (hPath : ∃ path, s.databasePath here = .ok path)
    (hBot : Bot.ofSettings s = .ok b) :
    Runs (boot s here token) (smooth token)
      (.ok (.ready token b)) := by
  rcases hPath with ⟨path, hPath⟩
  rw [boot_eq, if_neg hToken, hLevel]
  unfold openStore preparing
  rw [hPath, hBot]
  exact .ask (r := .openStore) (.ok ())
    (.ask (r := .login token) (.ok someone)
      (.access Memory.empty (.done _)))

/-
  A run can get ready if there is a token, a known level for
  the log, a place for the store, and a bot.
-/
theorem exists_ready_iff :
    (∃ trace b, Runs (boot s here token) trace
        (.ok (.ready token b))) ↔
      token ≠ "" ∧ checkLogLevel s = .ok () ∧
        (∃ path, s.databasePath here = .ok path) ∧
        ∃ b, Bot.ofSettings s = .ok b := by
  constructor
  · rintro ⟨trace, b, hRuns⟩
    rcases opened_of_ready hRuns with ⟨_, _, _, _, hBot, _⟩
    rw [boot_eq] at hRuns
    split at hRuns
    · rcases runs_done_iff.mp hRuns with ⟨_, hReady⟩
      cases hReady
    · next hToken =>
      rcases runs_bind_ok_iff.mp hRuns with
        ⟨_, _, _, _, hCheck, hOpening⟩
      rcases runs_bind_ok_iff.mp hOpening with
        ⟨_, isOpen, _, _, hOpen, hPreparing⟩
      cases isOpen with
      | false =>
          rcases runs_done_iff.mp hPreparing with ⟨_, hReady⟩
          cases hReady
      | true =>
          exact ⟨hToken, (runs_settle_iff.mp hCheck).2.symm,
            exists_path_of_openStore hOpen, b, hBot⟩
  · rintro ⟨hToken, hLevel, hPath, b, hBot⟩
    exact ⟨_, b, runs_smooth hToken hLevel hPath hBot⟩

theorem checkLogLevel_eq_ok_iff :
    checkLogLevel s = .ok () ↔
      ∃ level, s.writtenLevel = .ok level ∧
        (Log.levelValue? level).isSome = true := by
  rw [checkLogLevel, Cause.bind_eq_ok_iff]
  refine exists_congr fun level => and_congr_right fun _ => ?_
  rw [Log.resolveLevel]
  cases Log.levelValue? level with
  | none => exact ⟨nofun, nofun⟩
  | some n => exact ⟨fun _ => rfl, fun _ => rfl⟩

end Run

------------------------------------------------------------
-- Settings
------------------------------------------------------------

namespace Settings

open Program Yaml

/-
  What becomes of any settings. A view shows the default of
  what is missing and the meaning of what is there, and it can
  do so exactly if every entry it looks at is of a kind that
  suits it: there is no default for any other value, which is
  refused for its type, for itself or for its size. A run can
  get ready if all views suit but the one for its end, and if
  the level of the log is known.
-/
theorem reads_iff_suits
    (s : Settings)
    (here : String) :
    (∀ (v : View) (shown : v.Shown),
      v.read s here = .ok shown ↔ v.Shows s here shown) ∧
    (∀ v : View,
      (∃ shown, v.read s here = .ok shown) ↔ s.Suits v) ∧
    (∀ (v : View) (cause : Cause),
      v.read s here = .error cause → Value.Refuses cause) ∧
    ∀ token,
      (∃ trace b,
        Runs (Run.boot s here token) trace
          (.ok (.ready token b))) ↔
        token ≠ "" ∧
          (∃ level, View.logLevel.Shows s here level ∧
            (Log.levelValue? level).isSome = true) ∧
          ∀ v, v ≠ .shutdownGrace → s.Suits v := by
  have hReads (v : View) :
      (∃ shown, v.read s here = .ok shown) ↔ s.Suits v := by
    simp only [read_eq_ok_iff, exists_shows_iff]
  refine ⟨fun _ _ => read_eq_ok_iff, hReads, failsBy_read s here,
    fun token => ?_⟩
  rw [Run.exists_ready_iff, Run.checkLogLevel_eq_ok_iff,
    Bot.exists_ofSettings_iff]
  constructor
  · rintro ⟨hToken, ⟨level, hLevel, hKnown⟩, hPath, hBot⟩
    refine ⟨hToken, ⟨level, read_eq_ok_iff.mp hLevel, hKnown⟩, ?_⟩
    intro v hOther
    cases v with
    | shutdownGrace => exact absurd rfl hOther
    | features => exact suits_features
    | logLevel => exact (hReads .logLevel).mp ⟨level, hLevel⟩
    | databasePath => exact (hReads .databasePath).mp hPath
    | _ => exact hBot _ (by decide)
  · rintro ⟨hToken, ⟨level, hLevel, hKnown⟩, hSuits⟩
    refine ⟨hToken, ⟨level, read_eq_ok_iff.mpr hLevel, hKnown⟩,
      (hReads .databasePath).mpr (hSuits _ (by decide)), ?_⟩
    intro v hMember
    refine hSuits v ?_
    rintro rfl
    exact absurd hMember (by decide)

/- A time limit without a value. -/
def blankTimeout : Settings where
  entries :=
    [(.text "router", .map [(.text "handler_timeout_seconds", .null)])]

/-
  It is not taken for a missing one: nothing else is wrong, but
  no run can get ready.
-/
theorem blankTimeout_unsuited :
    (∀ v, v ≠ .handlerTimeout → blankTimeout.Suits v) ∧
      (¬∃ shown, View.read blankTimeout "/" .handlerTimeout = .ok shown) ∧
      ¬∃ trace b,
        Runs (Run.boot blankTimeout "/" "t") trace
          (.ok (.ready "t" b)) := by
  have hReads := reads_iff_suits blankTimeout "/"
  have hUnsuited : ¬blankTimeout.Suits .handlerTimeout := by
    intro hSuits
    have hNull :
        blankTimeout.Holds ⟨"router", "handler_timeout_seconds"⟩
          .null :=
      holds_iff.mpr rfl
    exact hSuits _ List.mem_cons_self _ hNull
  refine ⟨?_, fun hShown => hUnsuited ((hReads.2.1 _).mp hShown), ?_⟩
  · intro v hOther
    apply suits_of_missing
    cases v with
    | handlerTimeout => exact absurd rfl hOther
    | _ => rfl
  · intro hReady
    exact hUnsuited
      (((hReads.2.2.2 "t").mp hReady).2.2 .handlerTimeout (by decide))

end Settings

end GuildWarden
