import GuildWarden.Effect.Program
import GuildWarden.Gateway.Address
import GuildWarden.Message
import GuildWarden.Payload.Item

/-
  This file defines the programs that use the chat platform:
  logging in, asking for the address of the gateway, and
  sending and editing messages. Other calls are asked for as
  they are.

  Key definitions include:
    * `Platform.fitted`
    * `Platform.call`
    * `Platform.perform`
    * `Platform.sendMessage`
    * `Platform.editMessage`
    * `Platform.sendDirectMessage`
    * `Platform.gatewayAddress`
    * `Platform.login`
-/

namespace GuildWarden.Platform

open Program

------------------------------------------------------------
-- Contents
------------------------------------------------------------

/-
  The content that is sent: a text is cut to the length of a
  message. Lists and maps pass if they are short enough, and
  nothing else has a length.
-/
def fitted : Payload → Except Cause Payload
  | .text s => .ok (.text (Message.truncate s Message.maxLength))
  | .list items =>
    if items.length ≤ Message.maxLength then .ok (.list items)
    else .error .badType
  | .map fs =>
    if fs.length ≤ Message.maxLength then .ok (.map fs)
    else .error .badType
  | _ => .error .badType

/- The content of a new message; null stands for none. -/
def contentOf : Payload → Except Cause (Option Payload)
  | .null => .ok none
  | p => (fitted p).map some

------------------------------------------------------------
-- Calls
------------------------------------------------------------

/- Make a call. -/
def call
    (c : Call) : Program Payload :=
  request (.platform c)

/- Make a call whose answer does not matter. -/
def perform
    (c : Call) : Program Unit := do
  let _ ← call c
  return ()

/- Send a message with a content, a card or both. -/
def sendMessage
    (channelId : Int)
    (content : Payload)
    (card : Option Payload) : Program Payload := do
  call (.sendMessage channelId (← settle (contentOf content)) card)

/- Replace the content and the card of a message. -/
def editMessage
    (channelId messageId : Int)
    (content : Payload)
    (card : Option Payload) : Program Payload := do
  let content ← settle (fitted (content.orElse (.text "")))
  call (.editMessage channelId messageId content card)

/- Send a message to a user. -/
def sendDirectMessage
    (userId : Int)
    (content : Payload) : Program Payload := do
  let channel ← call (.openDirectChannel userId)
  sendMessage (← settle channel.idItem) content none

/- The address of the gateway. -/
def gatewayAddress : Program String := do
  let answer ← call .gatewayAddress
  match ← settle (answer.item "url") with
  | .text url => return Gateway.withParameters url
  | _ => throw .notAMap

/- Log in and remember the bot's own user id. -/
def login
    (token : String) : Program Payload := do
  let user ← request (.login token)
  let userId ← settle user.idItem
  change fun m => { m with botUserId := some userId }
  return user

end GuildWarden.Platform
