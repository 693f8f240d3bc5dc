import RmaPortal.Infrastructure.Repositories

/-!
# Units of work

`infrastructure/db/unit_of_work.py`: a session sees its own changes, `commit` makes them the
database's, and leaving the `with` block discards what was not committed.

## What is here

* `Transaction` — the `with self._uow_factory() as uow` blocks of the synchronization service, by
  what they are for.  The name makes no difference to what happens; it is there so that it can be
  said of a trace in which of them something went wrong.
* `UowRequest` — enter a block, call a repository method, commit, leave the block.
* `DbState` — what is committed, and what the open session sees, if there is one.
* `UowRequest.serve` — how the database answers: as suggested if an error is suggested, else as it
  must.

Every step may fail, for reasons outside the program (a locked or full disk); a step that has
failed has changed nothing.  The exit of the block only closes the session and is taken not to
fail.
-/

set_option autoImplicit false

namespace RmaPortal

/-- The `with self._uow_factory() as uow` blocks of the synchronization service. -/
inductive Transaction
  /-- The default account is looked up. -/
  | defaultAccount
  /-- `_execute_once` records that a poll has started. -/
  | pollStart
  /-- `_record_failed_poll` -/
  | failedPoll
  /-- The lifecycle changes of `_reconcile_and_enrich`. -/
  | reconciliation
  /-- `_reconcile_and_enrich` saves the details of one dossier. -/
  | detailSave
  /-- `_execute_once` records how the poll ended. -/
  | pollFinish
  /-- `_mark_session_checked` -/
  | sessionChecked
  deriving DecidableEq

/-- What is asked of a unit of work.  Each request says which block it belongs to. -/
inductive UowRequest
  | enter (tx : Transaction)
  | repo (tx : Transaction) (op : Repo)
  | commit (tx : Transaction)
  | exit (tx : Transaction)

abbrev UowRequest.Val : UowRequest → Type
  | repo _ op => op.Val
  | _ => Unit

/-- What is committed, and what the open session sees. -/
structure DbState where
  committed : Database
  pending : Option Database

/-- A database without an open session. -/
def DbState.idle (db : Database) : DbState := ⟨db, none⟩

/-- A request outside a `with` block. -/
def noSession : Exn := .exception "InvalidRequestError" "no session"

/-- How the database answers: as suggested if an error is suggested, else as it must. -/
def UowRequest.serve : (q : UowRequest) → Except Exn q.Val → DbState → Except Exn q.Val × DbState
  | exit _, _, s => (.ok (), { s with pending := none })
  | enter _, .error e, s => (.error e.fault, s)
  | enter _, .ok _, s => (.ok (), { s with pending := some s.committed })
  | repo _ _, .error e, s => (.error e.fault, s)
  | repo _ op, .ok _, s =>
    match s.pending with
    | none => (.error noSession, s)
    | some db =>
      match op.run db with
      | .error e => (.error e, s)
      | .ok (v, db) => (.ok v, { s with pending := some db })
  | commit _, .error e, s => (.error e.fault, s)
  | commit _, .ok _, s =>
    match s.pending with
    | none => (.error noSession, s)
    | some db => (.ok (), ⟨db, some db⟩)

end RmaPortal
