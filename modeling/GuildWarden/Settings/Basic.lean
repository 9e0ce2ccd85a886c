import GuildWarden.Path
import GuildWarden.Settings.Convert
import GuildWarden.Yaml.Document

/-
  This file defines the settings of the bot: views of the
  configuration document in which everything that is missing
  has a default. A view of a setting of the wrong shape fails.

  Key definitions include:
    * `Settings`
    * `Settings.ofFile`
    * `Settings.roles`
    * `Settings.gateway`
    * `Settings.databasePath`
-/

namespace GuildWarden

open GuildWarden.Yaml GuildWarden.Number

/- The roles of each tier, and the role for talking. -/
structure RoleSettings where
  privilegedIds : IdSet
  privilegedNames : List String
  moderatorIds : IdSet
  moderatorNames : List String
  talkRoleId : Option Int
deriving DecidableEq, Repr

/- The waiting times between connections, in seconds. -/
structure BackoffSettings where
  floor : Binary64
  ceiling : Binary64
  resetAfter : Binary64
deriving DecidableEq, Repr

/- How a service of the web is reached. -/
structure ServiceSettings where
  baseUrl : String
  userAgent : String
  timeout : Binary64
deriving DecidableEq, Repr

/- The groups of commands that can be turned off. -/
structure FeatureSettings where
  tags : Bool
  crates : Bool
  playground : Bool
deriving DecidableEq, Repr

/- The entries of the configuration document. -/
structure Settings where
  entries : List (Value × Value)
deriving Repr, Inhabited

namespace Settings

------------------------------------------------------------
-- Documents
------------------------------------------------------------

/- A document that is not a map holds no settings. -/
def ofValue : Value → Settings
  | .map es => ⟨es⟩
  | _ => ⟨[]⟩

/- The settings in a file; a file that cannot be read holds none. -/
def ofFile
    (octets : Option (List Nat)) : Settings :=
  match octets.bind readFile? with
  | some v => ofValue v
  | none => ⟨[]⟩

/- The entry with the given name. -/
def entry?
    (s : Settings)
    (name : String) : Option Value :=
  (Value.map s.entries).field? name

/-
  A section; one that is not a map counts as empty. The only
  map that a section can be inside of is the document itself.
-/
def section?
    (s : Settings)
    (name : String) : Value :=
  match s.entry? name with
  | some (.map es) => .map es
  | some (.loop true) => .map s.entries
  | _ => .map []

/- An entry of a section, or its default. -/
def get
    (s : Settings)
    (part name : String)
    (usual : Value) : Value :=
  ((s.section? part).field? name).getD usual

/- A floating-point number in a section. -/
def number
    (s : Settings)
    (part name : String)
    (usual : Int) : Except Cause Binary64 :=
  (s.get part name (.int usual)).toBinary64

------------------------------------------------------------
-- Views
------------------------------------------------------------

/- The value of the mark in front of a command. -/
def markValue
    (s : Settings) : Value :=
  match s.entry? "command_prefix" with
  | some v => if v.isFilled then v else .text "?"
  | none => .text "?"

/- The mark in front of a command. -/
def commandMark
    (s : Settings) : String :=
  s.markValue.display

/- The mark in front of a command; it has to have a text. -/
def writtenMark
    (s : Settings) : Except Cause String :=
  s.markValue.written

/- The value of the level of the log on the console. -/
def levelValue
    (s : Settings) : Value :=
  s.get "logging" "level" (.text "INFO")

/- The level of the log on the console. -/
def logLevel
    (s : Settings) : String :=
  s.levelValue.display

/- The level of the log on the console; it has to have a text. -/
def writtenLevel
    (s : Settings) : Except Cause String :=
  s.levelValue.written

/- The groups of commands that are turned on. -/
def features
    (s : Settings) : FeatureSettings :=
  let on (name : String) := (s.get "features" name (.bool true)).isFilled
  ⟨on "tags", on "crates", on "playground"⟩

/- The names of the usual privileged roles. -/
def privilegedNames : List String :=
  ["WG & Teams"]

/- The names of the usual moderator roles. -/
def moderatorNames : List String :=
  ["Mod"]

/- The id of the role for talking. -/
def talkRole
    (v : Value) : Except Cause (Option Int) :=
  if v.isBlankSetting then .ok none else v.toId?

/- The roles in a section. -/
def rolesOf
    (part : Value) : Except Cause RoleSettings := do
  let get (name : String) (usual : Value) := (part.field? name).getD usual
  let talkRoleId ← talkRole (get "talk_role_id" .null)
  let privilegedIds ← (get "privileged_ids" (.list [])).toIds
  let privilegedNames ←
    (get "privileged_names" .null).toNames privilegedNames
  let moderatorIds ← (get "moderator_ids" (.list [])).toIds
  let moderatorNames ←
    (get "moderator_names" .null).toNames moderatorNames
  return {
    privilegedIds, privilegedNames, moderatorIds, moderatorNames,
    talkRoleId
  }

/- The roles of each tier. -/
def roles
    (s : Settings) : Except Cause RoleSettings :=
  rolesOf (s.section? "roles")

/- How long a command may take, in seconds. -/
def handlerTimeout
    (s : Settings) : Except Cause Binary64 :=
  s.number "router" "handler_timeout_seconds" 15

/- How many jobs run at the same time; at least one. -/
def maxWorkers
    (s : Settings) : Except Cause Int := do
  return max 1 (← (s.get "dispatcher" "max_workers" (.int 8)).toInteger)

/- The waiting times between connections. -/
def gateway
    (s : Settings) : Except Cause BackoffSettings := do
  let floor ← s.number "gateway" "backoff_floor_seconds" 1
  let ceiling ← s.number "gateway" "backoff_ceiling_seconds" 60
  let resetAfter ← s.number "gateway" "backoff_reset_after_seconds" 120
  return ⟨floor, ceiling, resetAfter⟩

/- How long running work may last at the end, in seconds. -/
def shutdownGrace
    (s : Settings) : Except Cause Binary64 :=
  s.number "shutdown" "grace_seconds" 10

/- The name by which the bot presents itself to services. -/
def usualAgent : String :=
  "modsbot (community moderation bot)"

/- A text without the slashes at its end. -/
def dropSlashes
    (s : String) : String :=
  String.ofList (Text.dropEndWhile (· == '/') s.toList)

/- How the service of a section is reached. -/
def service
    (s : Settings)
    (part usualUrl : String)
    (usualTimeout : Int) : Except Cause ServiceSettings := do
  let baseUrl ← (s.get part "base_url" (.text usualUrl)).written
  let userAgent ← (s.get part "user_agent" (.text usualAgent)).written
  let timeout ← s.number part "timeout_seconds" usualTimeout
  return ⟨dropSlashes baseUrl, userAgent, timeout⟩

/- How the package registry is reached. -/
def registry
    (s : Settings) : Except Cause ServiceSettings :=
  s.service "registry" "https://crates.io/api/v1" 10

/- How the playground is reached. -/
def playground
    (s : Settings) : Except Cause ServiceSettings :=
  s.service "playground" "https://play.rust-lang.org" 30

/- The time between two runs of the jobs, in seconds. -/
def jobsInterval
    (s : Settings) : Except Cause Binary64 :=
  s.number "jobs" "interval_seconds" 3600

/- How long a command can be replayed, in seconds. -/
def historyMaxAge
    (s : Settings) : Except Cause Binary64 :=
  s.number "command_history" "max_age_seconds" 3600

/- The place of the database, seen from a directory. -/
def databasePath
    (s : Settings)
    (here : String) : Except Cause String :=
  match s.get "database" "path" (.text "./data/app.db") with
  | .text path =>
    if path.toList.contains (Char.ofNat 0) then .error (.badValue "")
    else .ok (Path.resolve here path)
  | _ => .error .badType

end Settings

end GuildWarden
