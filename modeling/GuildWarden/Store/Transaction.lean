import GuildWarden.Effect.Program

/-
  This file defines the two ways to use the store: reading,
  and transactions. One transaction runs at a time; it is
  committed at its end and rolled back on failure. One that is
  cancelled is neither.

  Key definitions include:
    * `Store.execute`
    * `Store.reading`
    * `Store.transaction`
-/

namespace GuildWarden.Store

open Program

variable {α : Type}

/- Execute a statement. -/
def execute
    (s : Statement) : Program s.Answer :=
  request (.statement s)

/- Read from the store; it has to be open. -/
def reading
    (body : Program α) : Program α := do
  request .reachStore
  body

/- Commit after a body that succeeds, roll back after one that fails. -/
def committing
    (body : Program α) : Program α :=
  handling
    (do
      let a ← body
      request .commit
      return a)
    (fun _ => true)
    fun cause => do
      request .rollback
      throw cause

/- Run a body as a transaction; it has to be open. -/
def transaction
    (body : Program α) : Program α := do
  request .reachStore
  request .lockStore
  let result ← (committing body).attempt
  request .unlockStore
  settle result

end GuildWarden.Store
