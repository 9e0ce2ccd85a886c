/-
  This file defines the address under which a gateway is
  opened: the address that the platform gives, with the
  version of the protocol and the encoding of its frames.

  Key definitions include:
    * `Gateway.protocolVersion`
    * `Gateway.withParameters`
-/

namespace GuildWarden.Gateway

/- The version of the gateway protocol. -/
def protocolVersion : Nat :=
  10

/- A text without the slashes at its end. -/
def dropSlashes
    (cs : List Char) : List Char :=
  (cs.reverse.dropWhile (· == '/')).reverse

/- The address with the parameters of a session. -/
def withParameters
    (address : String) : String :=
  String.ofList (dropSlashes address.toList) ++ "/?v=" ++
    toString protocolVersion ++ "&encoding=json"

end GuildWarden.Gateway
