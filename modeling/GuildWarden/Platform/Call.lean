import GuildWarden.Payload.Display
import GuildWarden.Text.Escape

/-
  This file defines the calls to the chat platform, with the
  method, the path, the body and the reason of each call.

  Key definitions include:
    * `Platform.Call`
    * `Platform.Call.method`
    * `Platform.Call.path`
    * `Platform.Call.body?`
    * `Platform.Call.reason?`
    * `Platform.Call.name`
-/

namespace GuildWarden.Platform

/- A call to the chat platform. -/
inductive Call where
  | gatewayAddress
  | sendMessage
      (channelId : Int)
      (content card : Option Payload)
  | editMessage
      (channelId messageId : Int)
      (content : Payload)
      (card : Option Payload)
  | deleteMessage (channelId messageId : Int)
  | addReaction (channelId messageId : Int) (emoji : String)
  | removeReaction
      (channelId messageId : Int)
      (emoji : Payload)
      (userId : Int)
  | openDirectChannel (userId : Int)
  | getMember (guildId userId : Int)
  | getRoles (guildId : Int)
  | addRole (guildId userId roleId : Int) (reason : Option String)
  | removeRole (guildId userId roleId : Int) (reason : Option String)
  | kick (guildId userId : Int) (reason : Option String)
  | ban
      (guildId userId : Int)
      (deleteSeconds : Int)
      (reason : Option String)
  | unban (guildId userId : Int) (reason : Option String)
  | setSlowmode (channelId seconds : Int) (reason : Option String)
deriving BEq, Repr

namespace Call

/- The method of a call. -/
def method : Call → String
  | .gatewayAddress => "GET"
  | .sendMessage _ _ _ => "POST"
  | .editMessage _ _ _ _ => "PATCH"
  | .deleteMessage _ _ => "DELETE"
  | .addReaction _ _ _ => "PUT"
  | .removeReaction _ _ _ _ => "DELETE"
  | .openDirectChannel _ => "POST"
  | .getMember _ _ => "GET"
  | .getRoles _ => "GET"
  | .addRole _ _ _ _ => "PUT"
  | .removeRole _ _ _ _ => "DELETE"
  | .kick _ _ _ => "DELETE"
  | .ban _ _ _ _ => "PUT"
  | .unban _ _ _ => "DELETE"
  | .setSlowmode _ _ _ => "PATCH"

------------------------------------------------------------
-- Paths
------------------------------------------------------------

/- A text as a part of a path. -/
def pathText
    (s : String) : String :=
  String.ofList
    (Text.percentEncode (fun c => Text.isUnreserved c || c == '/') s.toList)

/- A payload as a part of a path; only texts are encoded. -/
def pathPart : Payload → String
  | .text s => pathText s
  | p => p.display

/- Parts of a path, each after a slash. -/
def joined
    (parts : List String) : String :=
  String.join (parts.map ("/" ++ ·))

/- An id as a part of a path. -/
def idPart
    (n : Int) : String :=
  Number.decimal n

/- The path of a message. -/
def messagePath
    (channelId messageId : Int) : List String :=
  ["channels", idPart channelId, "messages", idPart messageId]

/- The path of a member of a guild. -/
def memberPath
    (guildId userId : Int) : List String :=
  ["guilds", idPart guildId, "members", idPart userId]

/- The path of a ban. -/
def banPath
    (guildId userId : Int) : List String :=
  ["guilds", idPart guildId, "bans", idPart userId]

/- The parts of the path of a call. -/
def pathParts : Call → List String
  | .gatewayAddress => ["gateway", "bot"]
  | .sendMessage c _ _ => ["channels", idPart c, "messages"]
  | .editMessage c m _ _ => messagePath c m
  | .deleteMessage c m => messagePath c m
  | .addReaction c m e =>
    messagePath c m ++ ["reactions", pathText e, "@me"]
  | .removeReaction c m e u =>
    messagePath c m ++ ["reactions", pathPart e, idPart u]
  | .openDirectChannel _ => ["users", "@me", "channels"]
  | .getMember g u => memberPath g u
  | .getRoles g => ["guilds", idPart g, "roles"]
  | .addRole g u r _ => memberPath g u ++ ["roles", idPart r]
  | .removeRole g u r _ => memberPath g u ++ ["roles", idPart r]
  | .kick g u _ => memberPath g u
  | .ban g u _ _ => banPath g u
  | .unban g u _ => banPath g u
  | .setSlowmode c _ _ => ["channels", idPart c]

/- The path of a call. -/
def path
    (c : Call) : String :=
  joined c.pathParts

/- The name of a call: its method and its path. -/
def name
    (c : Call) : String :=
  c.method ++ " " ++ c.path

------------------------------------------------------------
-- Bodies
------------------------------------------------------------

/- Nobody is notified by what the bot writes. -/
def noMentions : String × Payload :=
  ("allowed_mentions", .map [("parse", .list [])])

/- The content of a message. -/
def contentField
    (content : Payload) : String × Payload :=
  ("content", content)

/- Cards as a part of a message. -/
def cardsField
    (cards : List Payload) : String × Payload :=
  ("embeds", .list cards)

/- The body of a call, if it has one. -/
def body? : Call → Option Payload
  | .sendMessage _ content card =>
    some <| .map <|
      noMentions ::
        ((content.map contentField).toList ++
          (card.map fun c => cardsField [c]).toList)
  | .editMessage _ _ content card =>
    some <| .map
      [noMentions, contentField content, cardsField card.toList]
  | .openDirectChannel u => some (.map [("recipient_id", .int u)])
  | .ban _ _ seconds _ =>
    some (.map [("delete_message_seconds", .int seconds)])
  | .setSlowmode _ seconds _ =>
    some (.map [("rate_limit_per_user", .int seconds)])
  | _ => none

/- The reason that is given for a call. -/
def reason? : Call → Option String
  | .addRole _ _ _ r => r
  | .removeRole _ _ _ r => r
  | .kick _ _ r => r
  | .ban _ _ _ r => r
  | .unban _ _ r => r
  | .setSlowmode _ _ r => r
  | _ => none

end Call

end GuildWarden.Platform
