import RmaPortal.Coroutine.Basic
import RmaPortal.Infrastructure.Database

/-!
# Work status

`DossierService.update_work_status` of `application/dossier_service.py`, and under it
`SqlAlchemyDossierWorkRepository.upsert`.

The routes run in a thread pool, each request with a session of its own, so here a session has a
name and the database knows which session, if any, has begun to write.  With the default settings
of `sqlite3` a `SELECT` begins no transaction: it sees what is committed.  A session remembers the
row it has read; `commit` compares it with what has become of it and sends the columns that
differ, in an `UPDATE` whose `WHERE` clause has the primary key and nothing else.

## What is here

* `WorkRequest`, `PendingWork` — what an update asks of its session, and what the session has to
  write when it commits: nothing, a row it has inserted already, or a row that was read and has
  changed.
* `WorkState`, `WorkRequest.serve`, `workDatabase` — the database as the sessions share it, and
  how it answers.  Who wants to write while another session does is told that the database is
  locked, and an `UPDATE` that finds no row is noticed by SQLAlchemy.
* `DossierWork.merge` — a row after an `UPDATE` of the columns in which two versions of it differ.
  It is what makes one update overwrite another only where both change something.
* `nextRow`, `upsert`, `updateWorkStatus` — the program, whose version check compares the expected
  version with the row that was loaded.
* `interrupted` — threads are not suspended, they are interrupted: at any request.
-/

set_option autoImplicit false

open Coroutine

namespace RmaPortal

/-- A database session. -/
abbrev SessionId : Type := ℕ

/-- What a session has to write when it commits. -/
inductive PendingWork
  /-- Nothing, or a row it has inserted already. -/
  | flushed
  /-- A row that was read as `loaded` and is `current` now. -/
  | dirty (loaded current : DossierWork)

/-- What a work status request asks for. -/
inductive WorkRequest
  /-- `self._uow_factory().__enter__()` -/
  | enter
  /-- `datetime.now(UTC)` -/
  | now
  /-- `self._session.get(DossierWorkRow, dossier_id)` -/
  | get (s : SessionId) (dossierId : ℕ)
  /-- `self._session.add(row); self._session.flush()` -/
  | flushInsert (s : SessionId) (row : DossierWork)
  | commit (s : SessionId) (pending : PendingWork)
  | exit (s : SessionId)

abbrev WorkRequest.Val : WorkRequest → Type
  | enter => SessionId
  | now => Datetime
  | get _ _ => Option DossierWork
  | _ => Unit

/-- Programs of the dossier service. -/
abbrev WorkProg (α : Type) : Type := Coro WorkRequest.Val Exn α

/-- The database as the sessions share it. -/
structure WorkState where
  db : Database
  /-- The session that has begun to write, and the row it has inserted. -/
  writer : Option (SessionId × DossierWork)
  nextSession : SessionId

namespace WorkState

/-- Nobody is using the database. -/
def idle (db : Database) : WorkState := ⟨db, none, 0⟩

/-- The committed work row of a dossier. -/
def work (w : WorkState) (dossierId : ℕ) : Option DossierWork := w.db.dossierWork.find? dossierId

end WorkState

/-- What `sqlite3` raises when another session keeps writing. -/
def databaseLocked : Exn := .exception "OperationalError" "database is locked"

/-- What SQLAlchemy raises when an `UPDATE` has found no row. -/
def staleData : Exn :=
  .exception "StaleDataError"
    "UPDATE statement on table expected to update 1 row(s); 0 were matched."

/-- A row after an `UPDATE` of the columns in which `current` differs from `loaded`. -/
def DossierWork.merge (loaded current row : DossierWork) : DossierWork where
  dossierId := row.dossierId
  status := if current.status = loaded.status then row.status else current.status
  version := if current.version = loaded.version then row.version else current.version
  updatedBy := if current.updatedBy = loaded.updatedBy then row.updatedBy else current.updatedBy
  updatedAt := if current.updatedAt = loaded.updatedAt then row.updatedAt else current.updatedAt

/-- How the database answers: as suggested if an error is suggested, else as it must. -/
def WorkRequest.serve : Server WorkRequest.Val Exn WorkState
  | enter, .error e, w => (.error e, w)
  | enter, .ok _, w => (.ok w.nextSession, { w with nextSession := w.nextSession + 1 })
  | now, a, w => (.ok (a.toOption.getD default), w)
  | get _ _, .error e, w => (.error e, w)
  | get _ dossierId, .ok _, w => (.ok (w.work dossierId), w)
  | flushInsert _ _, .error e, w => (.error e, w)
  | flushInsert s row, .ok _, w =>
    match w.writer with
    | some _ => (.error databaseLocked, w)
    | none =>
      match w.db.insertWork row with
      | .error e => (.error e, w)
      | .ok _ => (.ok (), { w with writer := some (s, row) })
  | commit _ _, .error e, w => (.error e, w)
  | commit s .flushed, .ok _, w =>
    match w.writer with
    | none => (.ok (), w)
    | some (s', row) =>
      if s' = s then
        match w.db.insertWork row with
        | .error e => (.error e, w)
        | .ok db => (.ok (), { w with db := db, writer := none })
      else (.ok (), w)
  | commit _ (.dirty loaded current), .ok _, w =>
    match w.writer, w.work loaded.dossierId with
    | some _, _ => (.error databaseLocked, w)
    | none, none => (.error staleData, w)
    | none, some _ =>
      (.ok (),
        { w with
          db := w.db.updateWork loaded.dossierId (DossierWork.merge loaded current) fun _ ↦ rfl })
  | exit s, _, w =>
    (.ok (), { w with writer := w.writer.filter fun p ↦ decide (p.1 ≠ s) })

/-- The rules the database follows. -/
abbrev workDatabase : Spec WorkRequest.Val Exn WorkState := .ofServer WorkRequest.serve

/-- Threads are not suspended, they are interrupted: at any request. -/
def interrupted (_ : WorkRequest) : Bool := true

/-- Make a request. -/
def work (r : WorkRequest) : WorkProg r.Val := Coro.perform r

namespace SqlAlchemyDossierWorkRepository

variable (s : SessionId) (dossierId : ℕ) (status : WorkStatus) (expectedVersion : Option ℤ)
  (updatedBy : ℕ) (updatedAt : Datetime)

/-- The row a dossier without one gets. -/
def newRow : DossierWork := ⟨dossierId, status, 1, some updatedBy, updatedAt⟩

/-- What becomes of a row. -/
def nextRow (row : DossierWork) : DossierWork :=
  { row with
    status := status, version := row.version + 1, updatedBy := some updatedBy
    updatedAt := updatedAt }

/-- `upsert`, and what it leaves for the commit. -/
def upsert : WorkProg (DossierWork × PendingWork) := do
  match ← work (.get s dossierId) with
  | none =>
    let row := newRow dossierId status updatedBy updatedAt
    work (.flushInsert s row)
    pure (row, .flushed)
  | some row =>
    let current := nextRow status updatedBy updatedAt row
    match expectedVersion with
    | none => pure (current, .dirty row current)
    | some version =>
      if version ≠ row.version then throw (.workStatusConflict dossierId version row.version)
      else pure (current, .dirty row current)

end SqlAlchemyDossierWorkRepository

/-- The arguments of `update_work_status`. -/
structure WorkUpdate where
  dossierId : ℕ
  status : WorkStatus
  expectedVersion : Option ℤ
  userId : ℕ

/-- `DossierService.update_work_status` -/
def updateWorkStatus (r : WorkUpdate) : WorkProg DossierWork := do
  let s ← work .enter
  let body : WorkProg DossierWork := do
    let now ← work .now
    let (row, pending) ← SqlAlchemyDossierWorkRepository.upsert s r.dossierId r.status
      r.expectedVersion r.userId now
    work (.commit s pending)
    pure row
  let (row, _) ← body.tryFinally (work (.exit s))
  pure row

end RmaPortal
