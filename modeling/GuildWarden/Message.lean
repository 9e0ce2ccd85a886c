/-
  This file defines the limit on the length of a message and
  how a longer text is cut.

  Key definitions include:
    * `Message.maxLength`
    * `Message.sliceTo`
    * `Message.truncate`
-/

namespace GuildWarden.Message

/- The greatest number of characters of a message. -/
def maxLength : Int :=
  2000

/-
  The text up to an index; a negative index counts from the
  end.
-/
def sliceTo
    (cs : List Char)
    (stop : Int) : List Char :=
  if stop < 0 then cs.take (cs.length - stop.natAbs)
  else cs.take stop.toNat

/- A text that is too long is cut and ends with an ellipsis. -/
def truncate
    (text : String)
    (limit : Int) : String :=
  if text.length ≤ limit then text
  else String.ofList (sliceTo text.toList (limit - 1) ++ ['…'])

end GuildWarden.Message
