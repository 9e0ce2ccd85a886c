import GuildWarden.Store.Statement

/-
  This file defines a connection to the store. Writes stay
  pending on the connection until they are committed, and are
  seen by every statement on it.

  Key definitions include:
    * `Store.Connection`
    * `Store.Connection.run`
    * `Store.Connection.commit`
    * `Store.Connection.rollback`
    * `Store.Connection.checkpoint`
-/

namespace GuildWarden.Store

/- The permanent tables, the tables as seen, and whether writes are pending. -/
structure Connection where
  permanent : Tables
  current : Tables
  pending : Bool
deriving DecidableEq, Repr

namespace Connection

/- A new connection to a file with the given tables. -/
def ofTables
    (t : Tables) : Connection where
  permanent := t
  current := t
  pending := false

/- Make the pending writes permanent. -/
def commit
    (c : Connection) : Connection :=
  ofTables c.current

/- Undo the pending writes. -/
def rollback
    (c : Connection) : Connection :=
  ofTables c.permanent

/- The connection after a statement that leaves the given tables. -/
def after
    (c : Connection)
    (s : Statement)
    (t : Tables) : Connection :=
  if s.isWrite || c.pending then { c with current := t, pending := true }
  else ofTables t

/-
  Run a statement. A write starts pending work even if it
  fails; a new table is permanent unless work is pending.
-/
def run
    (c : Connection)
    (s : Statement) : Except Cause s.Answer × Connection :=
  match s.execute c.current with
  | .ok (answer, t) => (.ok answer, c.after s t)
  | .error cause =>
    (.error cause, { c with pending := c.pending || s.isWrite })

/- The log of writes can be emptied only if none are pending. -/
def checkpoint
    (c : Connection) : Except Cause Unit :=
  if c.pending then .error (.storageFault "") else .ok ()

end Connection

end GuildWarden.Store
