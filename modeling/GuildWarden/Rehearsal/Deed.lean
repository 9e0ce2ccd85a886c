import GuildWarden.Command.Basic

/-
  This file defines scripted handlers: lists of deeds that a
  handler does in order.

  Key definitions include:
    * `Rehearsal.Deed`
    * `Rehearsal.scripted`
-/

namespace GuildWarden.Rehearsal

open Program

/- Something that a scripted handler does. -/
inductive Deed where
  | reply (text : String)
  | card (p : Payload)
  | acknowledge
  | sleep (span : Span)
  | fail (cause : Cause)
deriving BEq, Repr

namespace Deed

/- The place of the tail in a scripted reply. -/
def tailMark : List Char :=
  "\x7btail\x7d".toList

/- Put a text in every place of the tail; each takes one step of fuel. -/
def fillFrom
    (tail : List Char) :
    Nat → List Char → List Char
  | 0, cs => cs
  | fuel + 1, cs =>
    match Text.cutAt? tailMark cs with
    | some (front, rest) => front ++ tail ++ fillFrom tail fuel rest
    | none => cs

/- A scripted reply to a tail. -/
def fill
    (s tail : String) : String :=
  String.ofList (fillFrom tail.toList s.length s.toList)

/- Do a deed. -/
def act
    (ctx : Command.Context)
    (tail : String) :
    Deed → Program Unit
  | .reply s => ctx.say (fill s tail)
  | .card p => ctx.reply .null (some p)
  | .acknowledge => ctx.acknowledge
  | .sleep span => request (.pause span)
  | .fail cause => throw cause

end Deed

/- A handler that notes its call and does its deeds in order. -/
def scripted
    (name : String)
    (deeds : List Deed)
    (ctx : Command.Context)
    (tail : String) : Program Unit := do
  note (.handling name tail)
  deeds.forM (Deed.act ctx tail)

end GuildWarden.Rehearsal
