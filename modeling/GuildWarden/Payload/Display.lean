import GuildWarden.Number.Shortest
import GuildWarden.Payload.Basic
import GuildWarden.Text.Escape

/-
  This file defines the text that stands for a payload in
  names and message contents. A text stands for itself; the
  texts inside lists and maps are quoted.

  Key definitions include:
    * `Payload.shown`
    * `Payload.display`
-/

namespace GuildWarden.Payload

open GuildWarden.Text GuildWarden.Number

mutual

/- The text of a payload inside a list or a map. -/
def shown : Payload → String
  | .null => "None"
  | .bool true => "True"
  | .bool false => "False"
  | .int n => decimal n
  | .float x => x.written
  | .text s => quoted s
  | .list items => "[" ++ ", ".intercalate (shownItems items) ++ "]"
  | .map fs => "\x7b" ++ ", ".intercalate (shownFields fs) ++ "\x7d"

/- The texts of the members of a list. -/
def shownItems : List Payload → List String
  | [] => []
  | p :: ps => p.shown :: shownItems ps

/- The texts of the fields of a map. -/
def shownFields : List (String × Payload) → List String
  | [] => []
  | (k, p) :: fs => (quoted k ++ ": " ++ p.shown) :: shownFields fs

end

/- The text of a payload. -/
def display : Payload → String
  | .text s => s
  | p => p.shown

end GuildWarden.Payload
