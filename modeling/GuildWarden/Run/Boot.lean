import GuildWarden.Bot.Basic
import GuildWarden.Log

/-
  This file defines how a run of the bot starts and how it
  ends: what is opened before the bot can run, and what is
  closed when it has stopped.

  Key definitions include:
    * `Run.boot`
    * `Run.Boot`
    * `Run.farewell`
-/

namespace GuildWarden.Run

open Program

/- How the start of a run ends: with a bot, or given up. -/
inductive Boot where
  | ready (token : String) (b : Bot)
  | givenUp

/- The level of the log has to be known. -/
def checkLogLevel
    (s : Settings) : Except Cause Unit := do
  match Log.resolveLevel (← s.writtenLevel) with
  | .ok _ => return ()
  | .error complaint => throw (.badValue complaint)

/- Open the store; answers whether that succeeded. -/
def openStore
    (s : Settings)
    (here : String) : Program Bool :=
  handling
    (do
      let _ ← settle (s.databasePath here)
      request .openStore
      return true)
    (fun _ => true)
    fun _ => return false

/- Log in; answers whether the platform accepts the token. -/
def login
    (token : String) : Program Bool :=
  handling
    (do
      let _ ← Platform.login token
      return true)
    (· == .loginRefused)
    fun _ => return false

/- Open the store, log in and prepare the bot. -/
def boot
    (s : Settings)
    (here token : String) : Program Boot := do
  if token = "" then return .givenUp
  settle (checkLogLevel s)
  unless ← openStore s here do return .givenUp
  unless ← login token do
    request .closePlatform
    request .closeStore
    return .givenUp
  return .ready token (← settle (Bot.ofSettings s))

/- Close a service; trouble with that does not matter. -/
def leaveService
    (service : Web.Service) : Program Unit :=
  handling (Web.close service) (fun _ => true) fun _ => return ()

/- Close everything that a run has opened. -/
def farewell : Program Unit := do
  leaveService .registry
  leaveService .playground
  request .closePlatform
  request .closeStore

end GuildWarden.Run
