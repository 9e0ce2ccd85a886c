import GuildWarden.Effect.Program
import GuildWarden.Settings.Basic

/-
  This file defines calls to the services of the web. A
  service is opened by its first call and stays open until it
  is closed.

  Key definitions include:
    * `Web.ask`
    * `Web.close`
    * `Web.isServiceTrouble`
-/

namespace GuildWarden.Web

open Program

/- Causes that are reported as a failure of the service. -/
def isServiceTrouble : Cause → Bool
  | .web _ => true
  | .timedOut => true
  | .badValue _ => true
  | _ => false

/- Open a service unless it is open. -/
def ensureOpen
    (service : Service)
    (s : ServiceSettings) : Program Unit := do
  unless (← memory).openServices.contains service do
    request (.openService service s.userAgent s.timeout)
    change fun m => { m with openServices := m.openServices ++ [service] }

/-
  Make a call to a service. Trouble with the service is
  reported after a complaint.
-/
def ask
    (service : Service)
    (s : ServiceSettings)
    (complaint : String)
    (c : Call) : Program Payload :=
  handling
    (do
      ensureOpen service s
      request (.service c))
    isServiceTrouble
    fun cause => throw (.externalService (complaint ++ cause.message))

/- Close a service if it is open. -/
def close
    (service : Service) : Program Unit := do
  if (← memory).openServices.contains service then
    request (.closeService service)
    change fun m =>
      { m with openServices := m.openServices.filter (· != service) }

end GuildWarden.Web
