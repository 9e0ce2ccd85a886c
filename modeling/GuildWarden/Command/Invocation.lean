import GuildWarden.Text.Blank
import GuildWarden.Text.Case

/-
  This file defines invocations: a message that starts with
  the command mark and a word calls the command of that name,
  with the rest of the message as its tail.

  Key definitions include:
    * `Invocation`
    * `Invocation.parse?`
    * `Invocation.splitFirst`
-/

namespace GuildWarden

open GuildWarden.Text

/- A command name in small letters and the text after it. -/
structure Invocation where
  name : String
  tail : String
deriving DecidableEq, Repr

namespace Invocation

/- The first word of a text and the rest; both may be empty. -/
def splitFirst
    (s : String) : String × String :=
  match splitWord? s.toList with
  | some (w, r) => (String.ofList w, String.ofList r)
  | none => ("", "")

/-
  The invocation that a message is. No blank may stand between
  the mark and the name.
-/
def parse?
    (mark text : String) : Option Invocation :=
  match dropPrefix? mark.toList text.toList with
  | none => none
  | some [] => none
  | some (c :: cs) =>
    if isBlank c then none
    else
      (splitWord? (c :: cs)).map fun p =>
        ⟨lower (String.ofList p.1), String.ofList p.2⟩

end Invocation

end GuildWarden
