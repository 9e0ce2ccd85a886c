import GuildWarden.Payload.Basic

/-
  This file defines the calls to the services of the web: the
  package registry and the playground.

  Key definitions include:
    * `Web.Service`
    * `Web.Call`
-/

namespace GuildWarden.Web

/- A service of the web. -/
inductive Service where
  | registry
  | playground
deriving DecidableEq, Repr

/- A call to a service, with what is sent along. -/
structure Call where
  method : String
  address : String
  parameters : Option Payload
  body : Option Payload
  headers : Option Payload
deriving BEq, Repr

/- The name of a call: its method and its address. -/
def Call.name
    (c : Call) : String :=
  c.method ++ " " ++ c.address

end GuildWarden.Web
