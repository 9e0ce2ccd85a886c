import GuildWarden.Command.Crates
import GuildWarden.Command.Help
import GuildWarden.Command.Play
import GuildWarden.Command.Tags
import GuildWarden.Command.Welcome
import GuildWarden.Dispatch.Dispatcher
import GuildWarden.Gateway.Intents
import GuildWarden.Gateway.Session.Step

/-
  This file defines the bot that settings describe: its
  commands, its dispatcher, its session with the gateway and
  the tasks that it does from time to time.

  Key definitions include:
    * `Bot`
    * `Bot.ofSettings`
    * `Bot.routerWith`
    * `Bot.tasks`
    * `Bot.session`
    * `Bot.hydrate`
-/

namespace GuildWarden

open Program

/- A bot. -/
structure Bot where
  router : Router
  historyMaxAge : Number.Binary64
  backoff : BackoffSettings
  workers : Int
  interval : Span

namespace Bot

------------------------------------------------------------
-- Settings
------------------------------------------------------------

/- The commands that can be turned off, and those that cannot. -/
def entries
    (f : FeatureSettings)
    (roles : RoleSettings)
    (registry playground : ServiceSettings) : List Command.Entry :=
  (if f.tags then Command.Tags.entries else []) ++
    (if f.crates then Command.Crates.entries registry else []) ++
    (if f.playground then Command.Play.entries playground else []) ++
    Command.Moderation.entries ++
    Command.Welcome.entries roles.talkRoleId

/- A router with the given commands and help on them. -/
def routerWith
    (r : Router)
    (es : List Command.Entry) : Except Cause Router := do
  let r ← es.foldlM Router.register r
  r.register (Command.Help.entry r)

/- The bot that settings describe; unfit settings describe none. -/
def ofSettings
    (s : Settings) : Except Cause Bot := do
  let roles ← s.roles
  let historyMaxAge ← s.historyMaxAge
  let mark ← s.writtenMark
  let timeout ← s.handlerTimeout
  let registry ← s.registry
  let playground ← s.playground
  let bare := Router.empty roles mark (Span.ofBinary64 timeout) true
  let router ←
    routerWith bare (entries s.features roles registry playground)
  let backoff ← s.gateway
  let workers ← s.maxWorkers
  let interval ← s.jobsInterval
  return {
    router, historyMaxAge, backoff, workers
    interval := Span.ofBinary64 interval
  }

------------------------------------------------------------
-- Parts
------------------------------------------------------------

/- The dispatcher of a bot. -/
def dispatcher
    (b : Bot) : Dispatcher :=
  Dispatcher.new b.router b.historyMaxAge

/- The session of a bot with the gateway. -/
def session
    (b : Bot)
    (token : String)
    (now : Rat) : Gateway.Session :=
  Gateway.Session.new token (Gateway.intentsValue Gateway.intents) true
    (Gateway.Backoff.ofSettings b.backoff now)

/- What is done when a new session starts. -/
def hydrate : Program Unit := do
  let _ ← ReactionRole.loadBindings
  return ()

/- Lift the bans that are over. -/
def liftBans : Program Unit := do
  let _ ← Ban.liftExpired
  return ()

/- Forget all replies but the newest one. -/
def trimHistory : Program Unit :=
  change fun m => { m with history := m.history.trim }

/- What is done from time to time. -/
def tasks : List (Program Unit) :=
  [liftBans, trimHistory]

end Bot

end GuildWarden
