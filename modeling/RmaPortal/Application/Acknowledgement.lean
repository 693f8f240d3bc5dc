import RmaPortal.Coroutine.Basic
import RmaPortal.Infrastructure.Employees

/-!
# Acknowledging a dossier

`DossierService.acknowledge` as the threads run that serve the dossier pages: opening a page looks
for the notifications of the dossier that the employee has not read, and then writes a read mark
for each of them.

As for work statuses, a session has a name, and a `SELECT` begins no transaction: it sees what is
committed, or what the session itself has written.  The first `INSERT` of a session takes the
database's only write lock, which it gives back with its commit, with a rollback, or when an
`INSERT` is refused, because that rolls the session back.  An `INSERT` of another session waits
for the lock: it is answered later, or with an error if it has waited too long (`busy_timeout`).

## What is here

* `AckRequest` — what an acknowledgement asks for: a session, the time, the notifications, one
  `INSERT` for each of them, and the commit.
* `AckState`, `AckState.view` — the database as the sessions share it, and as one of them sees it.
* `AckRequest.serve`, `ackDatabase` — how the database answers.  Only the time is suggested.
* `acknowledgeDossier`, `flushAndCommit`, `acknowledge` — the program.  The rows are added to the
  session, and written when it commits.
* `preempted` — threads are interrupted at any request.
-/

set_option autoImplicit false

open Coroutine

namespace RmaPortal

/-- What an acknowledgement asks for. -/
inductive AckRequest
  /-- `self._uow_factory().__enter__()` -/
  | enter
  /-- `datetime.now(UTC)` -/
  | now
  /-- `self._session.execute(select(NotificationRow.id).where(…)).scalars().all()` -/
  | selectUnread (s : ℕ) (dossierId userId : ℕ)
  /-- One of the `INSERT`s that `commit` sends for the rows that were added. -/
  | insert (s : ℕ) (row : NotificationRead)
  | commit (s : ℕ)
  | exit (s : ℕ)

abbrev AckRequest.Val : AckRequest → Type
  | enter => ℕ
  | now => Datetime
  | selectUnread _ _ _ => List ℕ
  | _ => Unit

/-- Programs that acknowledge. -/
abbrev AckProg (α : Type) : Type := Coro AckRequest.Val Exn α

/-- The database as the sessions share it. -/
structure AckState where
  db : EmployeeDatabase
  /-- The session that has begun to write, and the database as it sees it. -/
  writer : Option (ℕ × EmployeeDatabase)
  nextSession : ℕ

namespace AckState

/-- Nobody is using the database. -/
def idle (db : EmployeeDatabase) : AckState := ⟨db, none, 0⟩

/-- The database as a session sees it. -/
def view (w : AckState) (s : ℕ) : EmployeeDatabase :=
  match w.writer with
  | some (s', db) => if s' = s then db else w.db
  | none => w.db

end AckState

/-- What `sqlite3` raises when an `INSERT` has waited too long for the session that writes. -/
def waitedTooLong : Exn := .exception "OperationalError" "database is locked"

/-- How the database answers.  Only the time is suggested. -/
def AckRequest.serve : Server AckRequest.Val Exn AckState
  | enter, _, w => (.ok w.nextSession, { w with nextSession := w.nextSession + 1 })
  | now, a, w => (.ok (a.toOption.getD default), w)
  | selectUnread s dossierId userId, _, w =>
    (.ok ((NotificationRepository.unreadOf dossierId userId (w.view s).toDatabase).map
      Notification.id), w)
  | insert s row, _, w =>
    match w.writer with
    | some (s', db) =>
      if s' = s then
        match db.insertRead row with
        | .error e => (.error e, { w with writer := none })
        | .ok db => (.ok (), { w with writer := some (s, db) })
      else (.error waitedTooLong, w)
    | none =>
      match w.db.insertRead row with
      | .error e => (.error e, w)
      | .ok db => (.ok (), { w with writer := some (s, db) })
  | commit s, _, w =>
    match w.writer with
    | some (s', db) => if s' = s then (.ok (), { w with db := db, writer := none }) else (.ok (), w)
    | none => (.ok (), w)
  | exit s, _, w => (.ok (), { w with writer := w.writer.filter fun p ↦ decide (p.1 ≠ s) })

/-- The rules the database follows. -/
abbrev ackDatabase : Spec AckRequest.Val Exn AckState := .ofServer AckRequest.serve

/-- Threads are interrupted at any request. -/
def preempted (_ : AckRequest) : Bool := true

/-- Make a request. -/
def ack (r : AckRequest) : AckProg r.Val := Coro.perform r

namespace SqlAlchemyNotificationRepository

variable (s dossierId userId : ℕ) (seenAt : Datetime)

/-- `acknowledge_dossier`, with the rows it adds to the session. -/
def acknowledgeDossier : AckProg (List NotificationRead) := do
  let unreadIds ← ack (.selectUnread s dossierId userId)
  pure (unreadIds.map fun notificationId ↦ ⟨notificationId, userId, seenAt⟩)

end SqlAlchemyNotificationRepository

/-- What `commit` does with the rows that were added: an `INSERT` each, and then the commit. -/
def flushAndCommit (s : ℕ) (rows : List NotificationRead) : AckProg Unit := do
  rows.foldlM (fun _ row ↦ ack (.insert s row)) ()
  ack (.commit s)

/-- `DossierService.acknowledge` -/
def acknowledge (dossierId userId : ℕ) : AckProg Unit := do
  let s ← ack .enter
  let body : AckProg Unit := do
    let seenAt ← ack .now
    let rows ← SqlAlchemyNotificationRepository.acknowledgeDossier s dossierId userId seenAt
    flushAndCommit s rows
  let _ ← body.tryFinally (ack (.exit s))
  pure ()

end RmaPortal
