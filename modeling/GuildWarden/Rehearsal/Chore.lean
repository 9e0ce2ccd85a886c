import GuildWarden.Rehearsal.World

/-
  This file defines chores, the jobs of a rehearsal that do
  nothing but take time and note how they ended.

  Key definitions include:
    * `Rehearsal.Chore`
    * `Rehearsal.Chore.program`
    * `Rehearsal.orderCancelled`
-/

namespace GuildWarden.Rehearsal

open Program

/- A job that takes time and may fail at its end. -/
structure Chore where
  label : String
  span : Span
  fails : Bool
deriving DecidableEq, Repr

/- What a chore does. -/
def Chore.program
    (c : Chore) : Program Unit := do
  note (.started c.label)
  match ← (request (.pause c.span)).attempt with
  | .error cause =>
    note (.cancelled c.label)
    throw cause
  | .ok _ =>
    if c.fails then
      note (.failed c.label)
      throw (.runtime "")
    else note (.ended c.label)

------------------------------------------------------------
-- Cancelled chores
------------------------------------------------------------

/- The label of the chore whose cancellation an entry records. -/
def cancelledLabel? : Happening → Option String
  | .noted (.cancelled label) => some label
  | _ => none

/- The entries of a record with cancelled chores last, by label. -/
def orderCancelled
    (es : List Entry) : List Entry :=
  let label (e : Entry) := cancelledLabel? e.what
  let cancelled := es.filter fun e => (label e).isSome
  es.filter (fun e => (label e).isNone) ++
    cancelled.mergeSort fun a b =>
      (label a).getD "" ≤ (label b).getD ""

end GuildWarden.Rehearsal
