import GuildWarden.Proofs.Settings.Values
import GuildWarden.Settings.Basic

/-
  This file says what the views of a configuration document
  show. A view shows the default of an entry that is missing
  and what the value of an entry means otherwise, but there is
  no default for a value that cannot be used: a view of such a
  value fails.

  Key definitions include:
    * `Settings.Slot`
    * `Settings.Holds`
    * `Settings.Gives`
    * `Settings.View`
    * `Settings.View.Shows`
    * `Settings.View.demands`
    * `Settings.Suits`

  Main statements:
    * `Settings.read_eq_ok_iff`
    * `Settings.exists_shows_iff`
    * `Settings.failsBy_read`
-/

namespace GuildWarden.Settings

open Yaml Number

------------------------------------------------------------
-- Entries
------------------------------------------------------------

/- Where an entry stands: in a section, or at the top. -/
structure Slot where
  part : Option String
  name : String

/-
  The entries of a document. A section that is no map has none,
  and the document may be a section of itself.
-/
inductive Holds
    (s : Settings) : Slot → Value → Prop where
  | top
      {name : String}
      {x : Value}
      (hEntry : s.entry? name = some x) :
      Holds s ⟨none, name⟩ x
  | inside
      {part name : String}
      {es : List (Value × Value)}
      {x : Value}
      (hPart : s.entry? part = some (.map es))
      (hEntry : (Value.map es).field? name = some x) :
      Holds s ⟨some part, name⟩ x
  | itself
      {part name : String}
      {x : Value}
      (hPart : s.entry? part = some (.loop true))
      (hEntry : s.entry? name = some x) :
      Holds s ⟨some part, name⟩ x

/- The value at a place. -/
def value?
    (s : Settings) : Slot → Option Value
  | ⟨none, name⟩ => s.entry? name
  | ⟨some part, name⟩ => (s.section? part).field? name

/- What the entry of a place gives: its meaning, or the default. -/
def Gives
    {α : Type}
    (s : Settings)
    (slot : Slot)
    (usual : α)
    (Means : Value → α → Prop)
    (a : α) : Prop :=
  (∃ x, s.Holds slot x ∧ Means x a) ∨
    (∀ x, ¬s.Holds slot x) ∧ a = usual

variable {s : Settings}
variable {slot : Slot}

theorem holds_iff
    {x : Value} :
    s.Holds slot x ↔ s.value? slot = some x := by
  constructor
  · intro hHolds
    cases hHolds with
    | top hEntry => exact hEntry
    | inside hPart hEntry => rw [value?, section?, hPart, hEntry]
    | itself hPart hEntry =>
        rw [value?, section?, hPart]
        exact hEntry
  · obtain ⟨part?, name⟩ := slot
    cases part? with
    | none => exact .top
    | some part =>
        intro hEntry
        rw [value?, section?] at hEntry
        split at hEntry
        · next hPart => exact .inside hPart hEntry
        · next hPart => exact .itself hPart hEntry
        · cases hEntry

section Gives

variable {α : Type}
variable {usual : α}
variable {Means : Value → α → Prop}

theorem gives_iff
    {a : α} :
    s.Gives slot usual Means a ↔
      match s.value? slot with
      | some x => Means x a
      | none => a = usual := by
  simp only [Gives, holds_iff]
  cases s.value? slot with
  | none => simp
  | some x => simp

/- A conversion of an entry or its default gives what it means. -/
theorem convert_eq_ok_iff
    (convert : Value → Except Cause α)
    (slot : Slot)
    {missing : Value}
    {a : α}
    (hUsual : convert missing = .ok usual)
    (hMeans : ∀ x, convert x = .ok a ↔ Means x a) :
    convert ((s.value? slot).getD missing) = .ok a ↔
      s.Gives slot usual Means a := by
  rw [gives_iff]
  cases s.value? slot with
  | none =>
      rw [Option.getD_none, hUsual, Except.ok.injEq]
      exact eq_comm
  | some x => exact hMeans x

/- An entry gives something if it is missing or has a meaning. -/
theorem exists_gives_iff
    {Fits : Value → Prop}
    (hFits : ∀ x, (∃ a, Means x a) ↔ Fits x) :
    (∃ a, s.Gives slot usual Means a) ↔
      ∀ x, s.Holds slot x → Fits x := by
  simp only [gives_iff, holds_iff]
  cases s.value? slot with
  | none => simp
  | some x => simpa using hFits x

end Gives

------------------------------------------------------------
-- Kinds of Entries
------------------------------------------------------------

/- What an entry gives as a floating-point number. -/
def GivesNumber
    (s : Settings)
    (part name : String)
    (usual : Nat) : Binary64 → Prop :=
  s.Gives ⟨part, name⟩ (Binary64.ofRatio false usual 1)
    fun x a => x.toBinary64 = .ok a

/- What an entry gives as a text. -/
def GivesText
    (s : Settings)
    (part name usual : String) : String → Prop :=
  s.Gives ⟨part, name⟩ usual fun x a => x.HasText ∧ x.display = a

/- What an entry gives as the address of a service. -/
def GivesAddress
    (s : Settings)
    (part usual : String) : String → Prop :=
  s.Gives ⟨part, "base_url"⟩ usual
    fun x a => x.HasText ∧ dropSlashes x.display = a

/- What an entry gives as a switch. -/
def GivesSwitch
    (s : Settings)
    (name : String) : Bool → Prop :=
  s.Gives ⟨"features", name⟩ true fun x a => x.isFilled = a

/- What an entry gives as a set of ids. -/
def GivesIds
    (s : Settings)
    (name : String) : IdSet → Prop :=
  s.Gives ⟨"roles", name⟩ (IdSet.ofList []) Value.ListsIds

/- What an entry gives as a set of names. -/
def GivesNames
    (s : Settings)
    (name : String)
    (usual : List String) : List String → Prop :=
  s.Gives ⟨"roles", name⟩ usual (Value.ListsNames usual)

/- What a section gives on a service. -/
def GivesService
    (s : Settings)
    (part url : String)
    (timeout : Nat)
    (a : ServiceSettings) : Prop :=
  s.GivesAddress part url a.baseUrl ∧
    s.GivesText part "user_agent" usualAgent a.userAgent ∧
    s.GivesNumber part "timeout_seconds" timeout a.timeout

------------------------------------------------------------
-- Views
------------------------------------------------------------

/- What the value at a place has to be, should there be one. -/
structure Demand where
  slot : Slot
  Fits : Value → Prop

/- The views of settings. -/
inductive View where
  | commandMark
  | logLevel
  | features
  | roles
  | handlerTimeout
  | maxWorkers
  | gateway
  | shutdownGrace
  | registry
  | playground
  | jobsInterval
  | historyMaxAge
  | databasePath
deriving DecidableEq, Repr

namespace View

/- What a view shows. -/
abbrev Shown : View → Type
  | commandMark => String
  | logLevel => String
  | features => FeatureSettings
  | roles => RoleSettings
  | handlerTimeout => Binary64
  | maxWorkers => Int
  | gateway => BackoffSettings
  | shutdownGrace => Binary64
  | registry => ServiceSettings
  | playground => ServiceSettings
  | jobsInterval => Binary64
  | historyMaxAge => Binary64
  | databasePath => String

/- Look at settings, seen from a directory. -/
def read
    (s : Settings)
    (here : String) :
    (v : View) → Except Cause v.Shown
  | commandMark => s.writtenMark
  | logLevel => s.writtenLevel
  | features => .ok s.features
  | roles => s.roles
  | handlerTimeout => s.handlerTimeout
  | maxWorkers => s.maxWorkers
  | gateway => s.gateway
  | shutdownGrace => s.shutdownGrace
  | registry => s.registry
  | playground => s.playground
  | jobsInterval => s.jobsInterval
  | historyMaxAge => s.historyMaxAge
  | databasePath => s.databasePath here

/- What a view should show, entry by entry. -/
def Shows
    (s : Settings)
    (here : String) :
    (v : View) → v.Shown → Prop
  | commandMark, mark =>
    s.Gives ⟨none, "command_prefix"⟩ "?"
      (fun x a =>
        if x.isFilled = true then x.HasText ∧ x.display = a
        else a = "?")
      mark
  | logLevel, level => s.GivesText "logging" "level" "INFO" level
  | features, f =>
    s.GivesSwitch "tags" f.tags ∧
      s.GivesSwitch "crates" f.crates ∧
      s.GivesSwitch "playground" f.playground
  | roles, r =>
    s.Gives ⟨"roles", "talk_role_id"⟩ none Value.NamesId
        r.talkRoleId ∧
      s.GivesIds "privileged_ids" r.privilegedIds ∧
      s.GivesNames "privileged_names" ["WG & Teams"]
        r.privilegedNames ∧
      s.GivesIds "moderator_ids" r.moderatorIds ∧
      s.GivesNames "moderator_names" ["Mod"] r.moderatorNames
  | handlerTimeout, x =>
    s.GivesNumber "router" "handler_timeout_seconds" 15 x
  | maxWorkers, n =>
    s.Gives ⟨"dispatcher", "max_workers"⟩ 8
      (fun x a => ∃ k, x.toInteger = .ok k ∧ max 1 k = a) n
  | gateway, b =>
    s.GivesNumber "gateway" "backoff_floor_seconds" 1 b.floor ∧
      s.GivesNumber "gateway" "backoff_ceiling_seconds" 60
        b.ceiling ∧
      s.GivesNumber "gateway" "backoff_reset_after_seconds" 120
        b.resetAfter
  | shutdownGrace, x =>
    s.GivesNumber "shutdown" "grace_seconds" 10 x
  | registry, r =>
    s.GivesService "registry" "https://crates.io/api/v1" 10 r
  | playground, r =>
    s.GivesService "playground" "https://play.rust-lang.org" 30 r
  | jobsInterval, x =>
    s.GivesNumber "jobs" "interval_seconds" 3600 x
  | historyMaxAge, x =>
    s.GivesNumber "command_history" "max_age_seconds" 3600 x
  | databasePath, path =>
    s.Gives ⟨"database", "path"⟩ (Path.resolve here "./data/app.db")
      (fun x a =>
        ∃ text, x = .text text ∧ Char.ofNat 0 ∉ text.toList ∧
          Path.resolve here text = a)
      path

/- The entries that a view can fail on, and what they have to be. -/
def demands : View → List Demand
  | commandMark =>
    [⟨⟨none, "command_prefix"⟩,
      fun x => x.isFilled = true → x.HasText⟩]
  | logLevel => [⟨⟨"logging", "level"⟩, Value.HasText⟩]
  | features => []
  | roles =>
    [
      ⟨⟨"roles", "talk_role_id"⟩, fun x => ¬x.IsInfinite⟩,
      ⟨⟨"roles", "privileged_ids"⟩,
        fun x => ∀ m ∈ x.asMembers, ¬m.IsInfinite⟩,
      ⟨⟨"roles", "privileged_names"⟩, Value.HasNames⟩,
      ⟨⟨"roles", "moderator_ids"⟩,
        fun x => ∀ m ∈ x.asMembers, ¬m.IsInfinite⟩,
      ⟨⟨"roles", "moderator_names"⟩, Value.HasNames⟩
    ]
  | handlerTimeout =>
    [⟨⟨"router", "handler_timeout_seconds"⟩, Value.HasNumber⟩]
  | maxWorkers =>
    [⟨⟨"dispatcher", "max_workers"⟩, Value.HasInteger⟩]
  | gateway =>
    [
      ⟨⟨"gateway", "backoff_floor_seconds"⟩, Value.HasNumber⟩,
      ⟨⟨"gateway", "backoff_ceiling_seconds"⟩, Value.HasNumber⟩,
      ⟨⟨"gateway", "backoff_reset_after_seconds"⟩,
        Value.HasNumber⟩
    ]
  | shutdownGrace =>
    [⟨⟨"shutdown", "grace_seconds"⟩, Value.HasNumber⟩]
  | registry => ofService "registry"
  | playground => ofService "playground"
  | jobsInterval =>
    [⟨⟨"jobs", "interval_seconds"⟩, Value.HasNumber⟩]
  | historyMaxAge =>
    [⟨⟨"command_history", "max_age_seconds"⟩, Value.HasNumber⟩]
  | databasePath =>
    [⟨⟨"database", "path"⟩,
      fun x => ∃ text, x = .text text ∧
        Char.ofNat 0 ∉ text.toList⟩]
where
  ofService
      (part : String) : List Demand :=
    [
      ⟨⟨part, "base_url"⟩, Value.HasText⟩,
      ⟨⟨part, "user_agent"⟩, Value.HasText⟩,
      ⟨⟨part, "timeout_seconds"⟩, Value.HasNumber⟩
    ]

end View

/- All entries that a view looks at are what it can use. -/
def Suits
    (s : Settings)
    (v : View) : Prop :=
  ∀ d ∈ v.demands, ∀ x, s.Holds d.slot x → d.Fits x

------------------------------------------------------------
-- What Views Show
------------------------------------------------------------

variable {part name : String}
variable {here : String}

theorem number_eq_ok_iff
    {usual : Nat}
    (hSmall : usual < Nat.pow 2 54 - 1)
    {x : Binary64} :
    s.number part name usual = .ok x ↔
      s.GivesNumber part name usual x :=
  convert_eq_ok_iff Value.toBinary64 ⟨part, name⟩
    (Value.floatOfInteger_natCast (Binary64.lt_topTie 970 hSmall))
    fun _ => Iff.rfl

theorem written_get_eq_ok_iff
    {usual text : String} :
    (s.get part name (.text usual)).written = .ok text ↔
      s.GivesText part name usual text :=
  convert_eq_ok_iff Value.written ⟨part, name⟩ rfl
    fun _ => Value.written_eq_ok_iff

/- The address of a service has no slash at its end. -/
theorem exists_written_get_iff
    {usual address : String}
    (hUsual : dropSlashes usual = usual) :
    (∃ text,
        (s.get part "base_url" (.text usual)).written = .ok text ∧
          dropSlashes text = address) ↔
      s.GivesAddress part usual address := by
  have hConvert (x : Value) (address : String) :
      x.written.map dropSlashes = .ok address ↔
        ∃ text, x.written = .ok text ∧ dropSlashes text = address := by
    cases x.written with
    | error cause => exact ⟨nofun, nofun⟩
    | ok text => simp [Except.map]
  rw [← hConvert]
  refine convert_eq_ok_iff (fun x => x.written.map dropSlashes)
    ⟨part, "base_url"⟩ (congrArg Except.ok hUsual) fun x => ?_
  simp only [hConvert, Value.written_eq_ok_iff, and_assoc,
    exists_and_left, exists_eq_left']

theorem service_eq_ok_iff
    {url : String}
    {timeout : Nat}
    (hUrl : dropSlashes url = url)
    (hSmall : timeout < Nat.pow 2 54 - 1)
    {r : ServiceSettings} :
    s.service part url timeout = .ok r ↔
      s.GivesService part url timeout r := by
  rw [GivesService, ← exists_written_get_iff hUrl,
    ← written_get_eq_ok_iff, ← number_eq_ok_iff hSmall, service]
  simp only [Cause.bind_eq_ok_iff]
  constructor
  · rintro ⟨text, hText, agent, hAgent, x, hNumber, hService⟩
    cases hService
    exact ⟨⟨text, hText, rfl⟩, hAgent, hNumber⟩
  · rintro ⟨⟨text, hText, hAddress⟩, hAgent, hNumber⟩
    refine ⟨text, hText, _, hAgent, _, hNumber, ?_⟩
    rw [hAddress]
    rfl

theorem gateway_eq_ok_iff
    {b : BackoffSettings} :
    s.gateway = .ok b ↔ View.gateway.Shows s here b := by
  simp only [gateway, Cause.bind_eq_ok_iff]
  constructor
  · rintro ⟨floor, hFloor, ceiling, hCeiling, resetAfter, hReset,
      hGateway⟩
    cases hGateway
    exact ⟨(number_eq_ok_iff (by decide)).mp hFloor,
      (number_eq_ok_iff (by decide)).mp hCeiling,
      (number_eq_ok_iff (by decide)).mp hReset⟩
  · rintro ⟨hFloor, hCeiling, hReset⟩
    exact ⟨_, (number_eq_ok_iff (by decide)).mpr hFloor,
      _, (number_eq_ok_iff (by decide)).mpr hCeiling,
      _, (number_eq_ok_iff (by decide)).mpr hReset, rfl⟩

/- Nothing to convert is no id either. -/
theorem talkRole_eq
    (x : Value) : talkRole x = x.toId? := by
  unfold talkRole
  split
  · next hBlank =>
    unfold Value.isBlankSetting at hBlank
    split at hBlank
    · rfl
    · rw [eq_of_beq hBlank]
      rfl
    · cases hBlank
  · rfl

theorem toIds_get_eq_ok_iff
    {ids : IdSet} :
    (s.get "roles" name (.list [])).toIds = .ok ids ↔
      s.GivesIds name ids :=
  convert_eq_ok_iff Value.toIds ⟨"roles", name⟩ rfl
    fun _ => Value.toIds_eq_ok_iff

theorem toNames_get_eq_ok_iff
    {usual names : List String}
    (hUsual : Value.sortNames usual = usual) :
    (s.get "roles" name .null).toNames usual = .ok names ↔
      s.GivesNames name usual names :=
  convert_eq_ok_iff (Value.toNames usual) ⟨"roles", name⟩
    (congrArg Except.ok hUsual) fun _ => Value.toNames_eq_ok_iff

theorem roles_eq_ok_iff
    {r : RoleSettings} :
    s.roles = .ok r ↔ View.roles.Shows s here r := by
  have hTalk (id? : Option Int) :
      talkRole (s.get "roles" "talk_role_id" .null) = .ok id? ↔
        s.Gives ⟨"roles", "talk_role_id"⟩ none Value.NamesId id? :=
    convert_eq_ok_iff talkRole ⟨"roles", "talk_role_id"⟩ rfl
      fun x => by rw [talkRole_eq, Value.toId?_eq_ok_iff]
  simp only [roles, rolesOf, Cause.bind_eq_ok_iff]
  constructor
  · rintro ⟨talk, hRole, privileged, hPrivileged, names, hNames,
      moderators, hModerators, titles, hTitles, hRoles⟩
    cases hRoles
    exact ⟨(hTalk talk).mp hRole,
      toIds_get_eq_ok_iff.mp hPrivileged,
      (toNames_get_eq_ok_iff rfl).mp hNames,
      toIds_get_eq_ok_iff.mp hModerators,
      (toNames_get_eq_ok_iff rfl).mp hTitles⟩
  · rintro ⟨hRole, hPrivileged, hNames, hModerators, hTitles⟩
    exact ⟨_, (hTalk _).mpr hRole,
      _, toIds_get_eq_ok_iff.mpr hPrivileged,
      _, (toNames_get_eq_ok_iff rfl).mpr hNames,
      _, toIds_get_eq_ok_iff.mpr hModerators,
      _, (toNames_get_eq_ok_iff rfl).mpr hTitles, rfl⟩

theorem writtenMark_eq_ok_iff
    {mark : String} :
    s.writtenMark = .ok mark ↔ View.commandMark.Shows s here mark := by
  simp only [View.Shows, gives_iff, writtenMark, markValue, value?]
  cases s.entry? "command_prefix" with
  | none => exact (iff_of_eq (Except.ok.injEq ..)).trans eq_comm
  | some x =>
      simp only
      split
      · exact Value.written_eq_ok_iff
      · exact (iff_of_eq (Except.ok.injEq ..)).trans eq_comm

theorem features_eq_iff
    {f : FeatureSettings} :
    s.features = f ↔ View.features.Shows s here f := by
  have hSwitch (name : String) (b : Bool) :
      (s.get "features" name (.bool true)).isFilled = b ↔
        s.GivesSwitch name b :=
    (iff_of_eq (Except.ok.injEq ..)).symm.trans
      (convert_eq_ok_iff
        (fun x => (.ok x.isFilled : Except Cause Bool))
        ⟨"features", name⟩ rfl fun _ => iff_of_eq (Except.ok.injEq ..))
  obtain ⟨tags, crates, playground⟩ := f
  simp only [View.Shows, ← hSwitch, features,
    FeatureSettings.mk.injEq]

theorem maxWorkers_eq_ok_iff
    {n : Int} :
    s.maxWorkers = .ok n ↔ View.maxWorkers.Shows s here n := by
  rw [View.Shows]
  refine convert_eq_ok_iff
    (fun x => x.toInteger >>= fun k => .ok (max 1 k))
    ⟨"dispatcher", "max_workers"⟩ rfl fun x => ?_
  simp only [Cause.bind_eq_ok_iff, Except.ok.injEq]

/- A value as a place, seen from a directory. -/
def toPlace
    (here : String) : Value → Except Cause String
  | .text path =>
    if path.toList.contains (Char.ofNat 0) then .error (.badValue "")
    else .ok (Path.resolve here path)
  | _ => .error .badType

theorem databasePath_eq_ok_iff
    {path : String} :
    s.databasePath here = .ok path ↔
      View.databasePath.Shows s here path := by
  rw [View.Shows]
  refine convert_eq_ok_iff (toPlace here) ⟨"database", "path"⟩ rfl
    fun x => ?_
  cases x with
  | text text =>
      by_cases hNul : Char.ofNat 0 ∈ text.toList
      · simp [toPlace, hNul]
      · simp [toPlace, hNul]
  | _ => exact ⟨nofun, nofun⟩

theorem read_eq_ok_iff
    {v : View}
    {shown : v.Shown} :
    v.read s here = .ok shown ↔ v.Shows s here shown := by
  cases v with
  | commandMark => exact writtenMark_eq_ok_iff
  | logLevel => exact written_get_eq_ok_iff
  | features => exact (iff_of_eq (Except.ok.injEq ..)).trans features_eq_iff
  | roles => exact roles_eq_ok_iff
  | handlerTimeout => exact number_eq_ok_iff (by decide)
  | maxWorkers => exact maxWorkers_eq_ok_iff
  | gateway => exact gateway_eq_ok_iff
  | shutdownGrace => exact number_eq_ok_iff (by decide)
  | registry => exact service_eq_ok_iff rfl (by decide)
  | playground => exact service_eq_ok_iff rfl (by decide)
  | jobsInterval => exact number_eq_ok_iff (by decide)
  | historyMaxAge => exact number_eq_ok_iff (by decide)
  | databasePath => exact databasePath_eq_ok_iff

------------------------------------------------------------
-- What Suits Views
------------------------------------------------------------

theorem exists_givesNumber_iff
    (usual : Nat) :
    (∃ x, s.GivesNumber part name usual x) ↔
      ∀ x, s.Holds ⟨part, name⟩ x → x.HasNumber :=
  exists_gives_iff fun _ => Value.exists_toBinary64_iff

theorem exists_givesText_iff
    (usual : String) :
    (∃ text, s.GivesText part name usual text) ↔
      ∀ x, s.Holds ⟨part, name⟩ x → x.HasText :=
  exists_gives_iff fun x => by
    rw [exists_and_left, and_iff_left ⟨x.display, rfl⟩]

theorem exists_givesAddress_iff
    (usual : String) :
    (∃ address, s.GivesAddress part usual address) ↔
      ∀ x, s.Holds ⟨part, "base_url"⟩ x → x.HasText :=
  exists_gives_iff fun x => by
    rw [exists_and_left, and_iff_left ⟨dropSlashes x.display, rfl⟩]

theorem exists_givesIds_iff :
    (∃ ids, s.GivesIds name ids) ↔
      ∀ x, s.Holds ⟨"roles", name⟩ x →
        ∀ m ∈ x.asMembers, ¬m.IsInfinite :=
  exists_gives_iff fun _ => Value.exists_listsIds_iff

theorem exists_givesNames_iff
    (usual : List String) :
    (∃ names, s.GivesNames name usual names) ↔
      ∀ x, s.Holds ⟨"roles", name⟩ x → x.HasNames :=
  exists_gives_iff fun _ => Value.exists_listsNames_iff

theorem exists_givesService_iff
    {url : String}
    {timeout : Nat} :
    (∃ r, s.GivesService part url timeout r) ↔
      ∀ d ∈ View.demands.ofService part,
        ∀ x, s.Holds d.slot x → d.Fits x := by
  simp only [View.demands.ofService, List.forall_mem_cons,
    ← exists_givesAddress_iff url, ← exists_givesText_iff usualAgent,
    ← exists_givesNumber_iff timeout]
  constructor
  · rintro ⟨r, hAddress, hAgent, hTimeout⟩
    exact ⟨⟨_, hAddress⟩, ⟨_, hAgent⟩, ⟨_, hTimeout⟩, nofun⟩
  · rintro ⟨⟨address, hAddress⟩, ⟨agent, hAgent⟩, ⟨x, hTimeout⟩, _⟩
    exact ⟨⟨address, agent, x⟩, hAddress, hAgent, hTimeout⟩

theorem exists_roles_iff :
    (∃ r, View.roles.Shows s here r) ↔ s.Suits .roles := by
  have hTalk :
      (∃ id?, s.Gives ⟨"roles", "talk_role_id"⟩ none Value.NamesId id?) ↔
        ∀ x, s.Holds ⟨"roles", "talk_role_id"⟩ x → ¬x.IsInfinite :=
    exists_gives_iff fun _ => Value.exists_namesId_iff
  simp only [Suits, View.demands, List.forall_mem_cons, ← hTalk,
    ← exists_givesIds_iff]
  rw [← exists_givesNames_iff ["WG & Teams"],
    ← exists_givesNames_iff ["Mod"]]
  constructor
  · rintro ⟨r, hRole, hPrivileged, hNames, hModerators, hTitles⟩
    exact ⟨⟨_, hRole⟩, ⟨_, hPrivileged⟩, ⟨_, hNames⟩,
      ⟨_, hModerators⟩, ⟨_, hTitles⟩, nofun⟩
  · rintro ⟨⟨role, hRole⟩, ⟨privileged, hPrivileged⟩,
      ⟨names, hNames⟩, ⟨moderators, hModerators⟩,
      ⟨titles, hTitles⟩, _⟩
    exact ⟨⟨privileged, names, moderators, titles, role⟩, hRole,
      hPrivileged, hNames, hModerators, hTitles⟩

theorem exists_gateway_iff :
    (∃ b, View.gateway.Shows s here b) ↔ s.Suits .gateway := by
  simp only [Suits, View.demands, List.forall_mem_cons]
  rw [← exists_givesNumber_iff 1, ← exists_givesNumber_iff 60,
    ← exists_givesNumber_iff 120]
  constructor
  · rintro ⟨b, hFloor, hCeiling, hReset⟩
    exact ⟨⟨_, hFloor⟩, ⟨_, hCeiling⟩, ⟨_, hReset⟩, nofun⟩
  · rintro ⟨⟨floor, hFloor⟩, ⟨ceiling, hCeiling⟩,
      ⟨resetAfter, hReset⟩, _⟩
    exact ⟨⟨floor, ceiling, resetAfter⟩, hFloor, hCeiling, hReset⟩

/- A mark that is not filled is replaced and needs no text. -/
theorem exists_mark_iff :
    (∃ mark, View.commandMark.Shows s here mark) ↔
      s.Suits .commandMark := by
  rw [Suits, View.demands, List.forall_mem_singleton]
  refine exists_gives_iff fun x => ?_
  by_cases hFilled : x.isFilled = true
  · simp [hFilled]
  · simp [hFilled]

theorem exists_workers_iff :
    (∃ n, View.maxWorkers.Shows s here n) ↔ s.Suits .maxWorkers := by
  rw [Suits, View.demands, List.forall_mem_singleton]
  refine exists_gives_iff fun x => ?_
  refine Iff.trans ?_ Value.exists_toInteger_iff
  constructor
  · rintro ⟨_, k, hRead, _⟩
    exact ⟨k, hRead⟩
  · rintro ⟨k, hRead⟩
    exact ⟨_, k, hRead, rfl⟩

theorem exists_place_iff :
    (∃ path, View.databasePath.Shows s here path) ↔
      s.Suits .databasePath := by
  rw [Suits, View.demands, List.forall_mem_singleton]
  refine exists_gives_iff fun x => ?_
  constructor
  · rintro ⟨_, text, hText, hNul, _⟩
    exact ⟨text, hText, hNul⟩
  · rintro ⟨text, hText, hNul⟩
    exact ⟨_, text, hText, hNul, rfl⟩

/- Every value is a switch. -/
theorem suits_features : s.Suits .features :=
  List.forall_mem_nil _

/- A view can show something if all its entries suit it. -/
theorem exists_shows_iff
    {v : View} :
    (∃ shown, v.Shows s here shown) ↔ s.Suits v := by
  cases v with
  | commandMark => exact exists_mark_iff
  | features =>
      exact iff_of_true ⟨s.features, features_eq_iff.mp rfl⟩
        suits_features
  | roles => exact exists_roles_iff
  | maxWorkers => exact exists_workers_iff
  | gateway => exact exists_gateway_iff
  | registry => exact exists_givesService_iff
  | playground => exact exists_givesService_iff
  | databasePath => exact exists_place_iff
  | logLevel =>
      rw [Suits, View.demands, List.forall_mem_singleton]
      exact exists_givesText_iff "INFO"
  | _ =>
      rw [Suits, View.demands, List.forall_mem_singleton]
      exact exists_givesNumber_iff _

/- What is missing suits every view. -/
theorem suits_of_missing
    {v : View}
    (hMissing :
      (v.demands.all fun d => (s.value? d.slot).isNone) = true) :
    s.Suits v := by
  intro d hDemand x hHolds
  have hNone := List.all_eq_true.mp hMissing d hDemand
  rw [holds_iff.mp hHolds] at hNone
  cases hNone

/- Without a file there are only defaults. -/
example (v : View) : (ofFile none).Suits v :=
  suits_of_missing (by cases v <;> rfl)

------------------------------------------------------------
-- Failures of Views
------------------------------------------------------------

open Cause

theorem failsBy_service
    (s : Settings)
    (part url : String)
    (timeout : Int) :
    FailsBy Value.Refuses (s.service part url timeout) :=
  failsBy_bind (Value.failsBy_written _) fun _ =>
    failsBy_bind (Value.failsBy_written _) fun _ =>
      failsBy_bind (Value.failsBy_toBinary64 _) fun _ =>
        failsBy_ok _

theorem failsBy_roles
    (s : Settings) : FailsBy Value.Refuses s.roles := by
  refine failsBy_bind ?_ fun _ =>
    failsBy_bind (Value.failsBy_toIds _) fun _ =>
      failsBy_bind (Value.failsBy_toNames _ _) fun _ =>
        failsBy_bind (Value.failsBy_toIds _) fun _ =>
          failsBy_bind (Value.failsBy_toNames _ _) fun _ =>
            failsBy_ok _
  rw [talkRole_eq]
  exact Value.failsBy_toId? _

theorem failsBy_toPlace
    (here : String)
    (x : Value) : FailsBy Value.Refuses (toPlace here x) := by
  cases x with
  | text path =>
      rw [toPlace]
      split
      · exact failsBy_error Value.refuses_badValue
      · exact failsBy_ok _
  | _ => exact failsBy_error Value.refuses_badType

/- A view fails as the conversion of one of its entries. -/
theorem failsBy_read
    (s : Settings)
    (here : String)
    (v : View) : FailsBy Value.Refuses (v.read s here) := by
  cases v with
  | commandMark => exact Value.failsBy_written _
  | logLevel => exact Value.failsBy_written _
  | features => exact failsBy_ok _
  | roles => exact failsBy_roles s
  | maxWorkers =>
      exact failsBy_bind (Value.failsBy_toInteger _) fun _ =>
        failsBy_ok _
  | gateway =>
      exact failsBy_bind (Value.failsBy_toBinary64 _) fun _ =>
        failsBy_bind (Value.failsBy_toBinary64 _) fun _ =>
          failsBy_bind (Value.failsBy_toBinary64 _) fun _ =>
            failsBy_ok _
  | registry => exact failsBy_service s _ _ _
  | playground => exact failsBy_service s _ _ _
  | databasePath => exact failsBy_toPlace here _
  | _ => exact Value.failsBy_toBinary64 _

end GuildWarden.Settings
