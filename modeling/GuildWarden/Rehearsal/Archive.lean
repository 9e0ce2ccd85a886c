import GuildWarden.Rehearsal.World

/-
  This file defines the store of a rehearsal: how its file is
  opened and closed, and how a statement is executed on it.

  Key definitions include:
    * `Rehearsal.World.execute`
    * `Rehearsal.World.openStore`
    * `Rehearsal.World.closeStore`
    * `Rehearsal.World.dump`
-/

namespace GuildWarden.Rehearsal

open Store

/- The failure of a store that is not open. -/
def storeClosed : Cause :=
  .runtime "the store is not open"

namespace World

/- Whether the store is open. -/
def isOpen
    (w : World) : Bool :=
  w.connection.isSome

/- Execute a statement; the file holds what is permanent. -/
def execute
    (w : World)
    (s : Statement) : Except Cause s.Answer × World :=
  let (hit, faults) := takeFault s w.faults
  let w := { w with faults }
  match w.connection with
  | none => (.error storeClosed, w)
  | some c =>
    if hit then (.error (.storageFault "injected"), w)
    else
      let (answer, c) := c.run s
      (answer, { w with connection := some c, file := c.permanent })

/- Make the pending writes permanent. -/
def commit
    (w : World) : World :=
  match w.connection with
  | some c =>
    { w with connection := some c.commit, file := c.commit.permanent }
  | none => w

/- Undo the pending writes. -/
def rollback
    (w : World) : World :=
  { w with connection := w.connection.map Connection.rollback }

------------------------------------------------------------
-- Opening and closing
------------------------------------------------------------

/- What is executed on a file that is opened. -/
def preparation : List Statement :=
  [
    .configure "journal_mode",
    .configure "foreign_keys",
    .configure "synchronous",
    .configure "temp_store",
    .createTable .tags,
    .createTable .bindings,
    .createTable .bans,
    .createTable .versions,
    .createIndex .bindings,
    .createIndex .bans,
    .markVersion 1
  ]

/- Execute statements up to the first failure. -/
def executeAll
    (w : World) :
    List Statement → Except Cause Unit × World
  | [] => (.ok (), w)
  | s :: ss =>
    match w.execute s with
    | (.ok _, w) => executeAll w ss
    | (.error cause, w) => (.error cause, w)

/-
  Open the store. A failure on the way leaves it open as far
  as it came; an open store is left as it is, and a file that
  cannot be used is not opened.
-/
def openStore
    (w : World) : Except Cause Unit × World :=
  if w.isOpen then (.ok (), w)
  else if !w.isFileUsable then (.error (.storageFault ""), w)
  else
    let w := { w with connection := some (Connection.ofTables w.file) }
    match w.executeAll preparation with
    | (.ok _, w) => (.ok (), w.commit)
    | r => r

/- Empty the log of writes and commit, unless writes are pending. -/
def settleStore
    (w : World) : World :=
  match w.execute (.configure "wal_checkpoint") with
  | (.error _, w) => w
  | (.ok _, w) =>
    match w.connection.map Connection.checkpoint with
    | some (.ok _) => w.commit
    | _ => w

/- Close the store; what is still pending is lost. -/
def closeStore
    (w : World) : World :=
  if w.isOpen then { w.settleStore with connection := none }
  else w

------------------------------------------------------------
-- Contents
------------------------------------------------------------

/- Read the tables like three statements would. -/
def dump
    (w : World) : Except Cause Tables × World :=
  let probes : List Statement :=
    [.tagKeys 0, .allBindings, .expiredBans 0]
  match w.executeAll probes with
  | (.error cause, w) => (.error cause, w)
  | (.ok _, w) =>
    (.ok ((w.connection.map Connection.current).getD Tables.blank), w)

end World

end GuildWarden.Rehearsal
