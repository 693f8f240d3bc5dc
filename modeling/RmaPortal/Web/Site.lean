import RmaPortal.Application.DashboardCounts
import RmaPortal.Application.DossierService
import RmaPortal.Application.Notes
import RmaPortal.Infrastructure.DashboardQuery
import RmaPortal.Infrastructure.Security

/-!
# The site

What the routes of the site ask their surroundings for: the database, the clock, random bytes for
the salt of a password, and the parts of the application that run in the background, which
synchronize with the portal and connect to it.

## What is here

* `SiteRequest` — the requests, and `SiteRequest.answer`, what the database answers them.  A
  statement that only reads is one request, and so is everything that a transaction writes, from its
  first write to its commit: in between SQLite lets nobody else write.  What a transaction has read
  before that may be out of date by the time that it writes.
* `SiteRequest.serve` — how the surroundings answer.  They may fail at any request.  A
  synchronization is waited for (`execute`), and its result comes from outside: what it does to the
  database meanwhile is not a step of the site.
* `Wrote` and `wrote_of_step` — the inversion of a step: a request leaves the database alone, or it
  is one of the seven that write, and the database is what that write makes of it.  Everything that
  is proved about runs of the site is proved from there.
-/

set_option autoImplicit false

open Coroutine

namespace RmaPortal

/-! ## Transactions that write -/

namespace EmployeeDatabase

/-- Tables that have nothing to do with employees have changed. -/
def withDatabase (db : EmployeeDatabase) (db' : Database)
    (h : db'.notifications = db.notifications ∧ db'.notificationReads = db.notificationReads) :
    EmployeeDatabase where
  toDatabase := db'
  users := db.users
  reads_notification r hr := by
    rw [h.1]
    exact db.reads_notification r (h.2 ▸ hr)
  reads_user r hr := db.reads_user r (h.2 ▸ hr)

end EmployeeDatabase

theorem Database.insertWork_reads {db db' : Database} {w : DossierWork}
    (h : db.insertWork w = .ok db') :
    db'.notifications = db.notifications ∧ db'.notificationReads = db.notificationReads := by
  unfold Database.insertWork at h
  split at h <;> cases h
  exact ⟨rfl, rfl⟩

theorem DossierWork.dossierId_merge (loaded current row : DossierWork) :
    (merge loaded current row).dossierId = row.dossierId :=
  rfl

namespace DossierWorkRepository

/-- Whether the foreign key of `updated_by` is satisfied. -/
def updatedByExists (row : DossierWork) (db : EmployeeDatabase) : Bool :=
  row.updatedBy.all fun userId ↦ (db.users.find? userId).isSome

/-- `self._session.add(row); self._session.flush()`, and the commit. -/
def insert (row : DossierWork) (db : EmployeeDatabase) : Except Exn (Unit × EmployeeDatabase) :=
  if updatedByExists row db then
    match h : db.toDatabase.insertWork row with
    | .error e => .error e
    | .ok db' => .ok ((), db.withDatabase db' (Database.insertWork_reads h))
  else .error Database.integrityError

/-- The commit of a row that was read as `loaded` and is `current` now. -/
def update (loaded current : DossierWork) (db : EmployeeDatabase) :
    Except Exn (Unit × EmployeeDatabase) :=
  match db.dossierWork.find? loaded.dossierId with
  | none => .error staleData
  | some _ =>
    if updatedByExists current db then
      .ok ((), db.withDatabase
        (db.updateWork loaded.dossierId (DossierWork.merge loaded current)
          (DossierWork.dossierId_merge loaded current)) ⟨rfl, rfl⟩)
    else .error Database.integrityError

end DossierWorkRepository

namespace UserRepository

/-- `set_password_hash` -/
def setPasswordHash (userId : ℕ) (passwordHash : String) (db : EmployeeDatabase) :
    EmployeeDatabase :=
  db.updateUser userId (fun row ↦ { row with passwordHash := passwordHash }) (fun _ ↦ rfl)
    fun _ ↦ rfl

theorem find?_setPasswordHash (userId : ℕ) (passwordHash : String) (db : EmployeeDatabase)
    (id : ℕ) :
    (setPasswordHash userId passwordHash db).users.find? id =
      if id = userId then
        (db.users.find? id).map fun row ↦ { row with passwordHash := passwordHash }
      else db.users.find? id :=
  UserTable.find?_update db.users userId (fun row ↦ { row with passwordHash := passwordHash })
    (fun _ ↦ rfl) (fun _ ↦ rfl) id

end UserRepository

namespace DossierNoteRepository

/-- `list_for_dossier`.  `ORDER BY created_at` leaves the order of notes of the same time to the
database. -/
def listForDossier (order : RowOrder DossierNote) (dossierId : ℕ) (db : Database) :
    List DossierNote :=
  sortedBy DossierNote.createdAt
    (order.sort (db.dossierNotes.rows.filter fun n ↦ n.dossierId == dossierId))

end DossierNoteRepository

/-! ## Requests -/

/-- What the site is set up with, and what it takes from its environment. -/
structure SiteSettings where
  codec : SessionCodec
  argon2 : Argon2
  /-- `username.strip().casefold()` -/
  normalize : String → String
  casefold : String → String
  /-- `datetime.timestamp` -/
  timestamp : Datetime → ℚ
  noteOrder : RowOrder DossierNote
  dashboardOrder : RowOrder (Dossier × Option DossierWork × ℕ × Option Datetime)

/-- What a route asks its surroundings. -/
inductive SiteRequest
  /-- `time.time()`, in whole seconds -/
  | time
  /-- `datetime.now(UTC)` -/
  | now
  /-- `os.urandom`, for the salt of a password -/
  | salt
  | getByUsername (username : String)
  | getUser (userId : ℤ)
  | listUsers
  /-- `users.create`, `notifications.mark_all_existing_as_read_for_user` and the commit -/
  | insertUser (user : User) (seenAt : Datetime)
  | setActive (userId : ℕ) (active : Bool)
  | setPasswordHash (userId : ℕ) (passwordHash : String)
  | getDefault
  | listForDashboard (userId : ℕ)
  | getDossier (dossierId : ℕ)
  | getWork (dossierId : ℕ)
  | listNotes (dossierId : ℕ)
  /-- The notifications of a dossier that an employee has not read. -/
  | getUnread (dossierId userId : ℕ)
  /-- The rows of `acknowledge_dossier` and the commit. -/
  | insertReads (userId : ℕ) (unreadIds : List ℕ) (seenAt : Datetime)
  | insertWork (row : DossierWork)
  | updateWork (loaded current : DossierWork)
  | insertNote (dossierId authorId : ℕ) (body : String) (createdAt : Datetime)
  /-- `await sync_service.execute()` -/
  | execute
  /-- `sync_service.is_running` -/
  | isRunning
  /-- `session_connector.start()` -/
  | startConnection
  /-- `session_connector.last_start_blocked_by_sync` -/
  | lastStartBlockedBySync
  /-- `session_connector.is_active` -/
  | isActive
  /-- `session_connector.is_verifying` -/
  | isVerifying

abbrev SiteRequest.Val : SiteRequest → Type
  | time => ℕ
  | now => Datetime
  | salt => String
  | getByUsername _ => Option User
  | getUser _ => Option User
  | listUsers => List User
  | insertUser _ _ => User
  | getDefault => Option PortalAccount
  | listForDashboard _ => List DashboardRow
  | getDossier _ => Option Dossier
  | getWork _ => Option DossierWork
  | listNotes _ => List DossierNote
  | getUnread _ _ => List ℕ
  | insertNote _ _ _ _ => DossierNote
  | execute => SyncResult
  | isRunning | startConnection | lastStartBlockedBySync | isActive | isVerifying => Bool
  | _ => Unit

/-- A request of a route together with its answer. -/
abbrev SiteHappening : Type := Event SiteRequest.Val Exn

/-- Programs of the site. -/
abbrev SiteProg (α : Type) : Type := Coro SiteRequest.Val Exn α

namespace SiteRequest

/-- What writes to the database. -/
def isWrite : SiteRequest → Bool
  | .insertUser _ _ | .setActive _ _ | .setPasswordHash _ _ => true
  | .insertReads _ _ _ | .insertWork _ | .updateWork _ _ | .insertNote _ _ _ _ => true
  | _ => false

/-- What may be asked only by a page of the site itself.  Opening a page marks something as read. -/
def isChange : SiteRequest → Bool
  | .insertReads _ _ _ => false
  | .execute | .startConnection => true
  | q => q.isWrite

/-- Commit what a transaction has done; if it has raised, nothing has happened. -/
def committed {α : Type} (db : EmployeeDatabase) :
    Except Exn (α × EmployeeDatabase) → Except Exn α × EmployeeDatabase
  | .ok (a, db') => (.ok a, db')
  | .error e => (.error e, db)

/-- `users.create`, and nothing is unread for the new user. -/
def insertNewUser (normalize : String → String) (user : User) (seenAt : Datetime)
    (db : EmployeeDatabase) : Except Exn (User × EmployeeDatabase) := do
  let (user, db) ← UserRepository.create normalize user db
  -- a new employee must never inherit historical unread notifications
  let db ← NotificationRepository.markAllExistingAsReadForUser user.id seenAt db
  pure (user, db)

/-- What the database answers if nothing goes wrong with it. -/
def answer (site : SiteSettings) (db : EmployeeDatabase) :
    (q : SiteRequest) → q.Val → Except Exn q.Val × EmployeeDatabase
  | time, t => (.ok t, db)
  | now, t => (.ok t, db)
  | salt, s => (.ok s, db)
  | getByUsername username, _ => (.ok (UserRepository.getByUsername site.normalize username db), db)
  | getUser userId, _ =>
    (.ok (if 0 ≤ userId then UserRepository.get userId.toNat db else none), db)
  | listUsers, _ => (.ok (UserRepository.listAll db), db)
  | insertUser user seenAt, _ => committed db (insertNewUser site.normalize user seenAt db)
  | setActive userId active, _ => (.ok (), UserRepository.setActive userId active db)
  | setPasswordHash userId passwordHash, _ =>
    (.ok (), UserRepository.setPasswordHash userId passwordHash db)
  | getDefault, _ => (.ok (PortalAccountRepository.getDefault db.toDatabase), db)
  | listForDashboard userId, _ =>
    (.ok (DossierRepository.listForDashboard site.dashboardOrder userId db.toDatabase), db)
  | getDossier dossierId, _ => (.ok (db.dossiers.find? dossierId), db)
  | getWork dossierId, _ => (.ok (DossierWorkRepository.get dossierId db.toDatabase), db)
  | listNotes dossierId, _ =>
    (.ok (DossierNoteRepository.listForDossier site.noteOrder dossierId db.toDatabase), db)
  | getUnread dossierId userId, _ =>
    (.ok ((NotificationRepository.unreadOf dossierId userId db.toDatabase).map Notification.id), db)
  | insertReads userId unreadIds seenAt, _ =>
    committed db
      ((NotificationRepository.insertReads userId seenAt unreadIds db).map fun db ↦ ((), db))
  | insertWork row, _ => committed db (DossierWorkRepository.insert row db)
  | updateWork loaded current, _ => committed db (DossierWorkRepository.update loaded current db)
  | insertNote dossierId authorId body createdAt, _ =>
    committed db (DossierNoteRepository.add dossierId authorId body createdAt db)
  | execute, result => (.ok result, db)
  | isRunning, b | startConnection, b | lastStartBlockedBySync, b | isActive, b | isVerifying, b =>
    (.ok b, db)

/-- How the surroundings answer: as suggested if an error is suggested, else as they must.  Nothing
that fails is awaited, so it fails with an `Exception`; but a synchronization is, and may be
cancelled. -/
def serve (site : SiteSettings) : Server SiteRequest.Val Exn EmployeeDatabase
  | .execute, .error e, db => (.error e, db)
  | _, .error e, db => (.error e.fault, db)
  | q, .ok v, db => answer site db q v

/-- What goes wrong does so without a trace. -/
theorem serve_error (site : SiteSettings) (q : SiteRequest) (e : Exn) (db : EmployeeDatabase) :
    ∃ e', serve site q (.error e) db = (.error e', db) := by
  cases q <;> exact ⟨_, rfl⟩

theorem serve_ok (site : SiteSettings) (q : SiteRequest) (v : q.Val) (db : EmployeeDatabase) :
    serve site q (.ok v) db = answer site db q v := by
  cases q <;> rfl

end SiteRequest

/-- The rules the surroundings follow. -/
abbrev siteRules (site : SiteSettings) : Spec SiteRequest.Val Exn EmployeeDatabase :=
  .ofServer (SiteRequest.serve site)

/-! ### What a request does -/

/-- A request has written to the database. -/
inductive Wrote (site : SiteSettings) (db : EmployeeDatabase) :
    SiteHappening → EmployeeDatabase → Prop
  | user {user created : User} {seenAt : Datetime} {db' : EmployeeDatabase}
      (h : SiteRequest.insertNewUser site.normalize user seenAt db = .ok (created, db')) :
      Wrote site db ⟨.insertUser user seenAt, .ok created⟩ db'
  | active (userId : ℕ) (active : Bool) :
      Wrote site db ⟨.setActive userId active, .ok ()⟩ (UserRepository.setActive userId active db)
  | passwordHash (userId : ℕ) (passwordHash : String) :
      Wrote site db ⟨.setPasswordHash userId passwordHash, .ok ()⟩
        (UserRepository.setPasswordHash userId passwordHash db)
  | reads {userId : ℕ} {unreadIds : List ℕ} {seenAt : Datetime} {db' : EmployeeDatabase}
      (h : NotificationRepository.insertReads userId seenAt unreadIds db = .ok db') :
      Wrote site db ⟨.insertReads userId unreadIds seenAt, .ok ()⟩ db'
  | newWork {row : DossierWork} {db' : EmployeeDatabase}
      (h : DossierWorkRepository.insert row db = .ok ((), db')) :
      Wrote site db ⟨.insertWork row, .ok ()⟩ db'
  | work {loaded current : DossierWork} {db' : EmployeeDatabase}
      (h : DossierWorkRepository.update loaded current db = .ok ((), db')) :
      Wrote site db ⟨.updateWork loaded current, .ok ()⟩ db'
  | note {dossierId authorId : ℕ} {body : String} {createdAt : Datetime} {note : DossierNote}
      {db' : EmployeeDatabase}
      (h : DossierNoteRepository.add dossierId authorId body createdAt db = .ok (note, db')) :
      Wrote site db ⟨.insertNote dossierId authorId body createdAt, .ok note⟩ db'

/-- A transaction is committed, or nothing has happened. -/
theorem SiteRequest.committed_eq {α : Type} {db db' : EmployeeDatabase} {a : Except Exn α}
    {x : Except Exn (α × EmployeeDatabase)} (h : committed db x = (a, db')) :
    (db' = db ∧ ∃ e, a = .error e) ∨ ∃ v, a = .ok v ∧ x = .ok (v, db') := by
  cases x with
  | error e =>
    cases h
    exact .inl ⟨rfl, e, rfl⟩
  | ok p =>
    cases h
    exact .inr ⟨p.1, rfl, rfl⟩

/-- **What a request does to the database**: nothing, unless it is a write that has been accepted.
-/
theorem wrote_of_step {site : SiteSettings} {db db' : EmployeeDatabase} {q : SiteRequest}
    {a : Except Exn q.Val} (h : (siteRules site).step db q a db') :
    (db' = db ∧ (q.isWrite = true → ∃ e, a = .error e)) ∨ Wrote site db ⟨q, a⟩ db' := by
  obtain ⟨b, h⟩ := h
  cases b with
  | error e =>
    obtain ⟨e', he'⟩ := SiteRequest.serve_error site q e db
    cases he'.symm.trans h
    exact .inl ⟨rfl, fun _ ↦ ⟨e', rfl⟩⟩
  | ok b =>
    replace h : SiteRequest.answer site db q b = (a, db') := SiteRequest.serve_ok site q b db ▸ h
    cases q with
    | insertUser user seenAt =>
      obtain ⟨hsame, herr⟩ | ⟨v, rfl, hok⟩ := SiteRequest.committed_eq h
      · exact .inl ⟨hsame, fun _ ↦ herr⟩
      · exact .inr (.user hok)
    | setActive userId active =>
      cases h
      exact .inr (.active userId active)
    | setPasswordHash userId passwordHash =>
      cases h
      exact .inr (.passwordHash userId passwordHash)
    | insertReads userId unreadIds seenAt =>
      obtain ⟨hsame, herr⟩ | ⟨v, rfl, hok⟩ := SiteRequest.committed_eq h
      · exact .inl ⟨hsame, fun _ ↦ herr⟩
      · cases hinsert : NotificationRepository.insertReads userId seenAt unreadIds db with
        | error e => simp [hinsert, Except.map] at hok
        | ok db₁ =>
          simp only [hinsert, Except.map, Except.ok.injEq, Prod.mk.injEq] at hok
          rw [← hok.2]
          exact .inr (.reads hinsert)
    | insertWork row =>
      obtain ⟨hsame, herr⟩ | ⟨v, rfl, hok⟩ := SiteRequest.committed_eq h
      · exact .inl ⟨hsame, fun _ ↦ herr⟩
      · exact .inr (.newWork hok)
    | updateWork loaded current =>
      obtain ⟨hsame, herr⟩ | ⟨v, rfl, hok⟩ := SiteRequest.committed_eq h
      · exact .inl ⟨hsame, fun _ ↦ herr⟩
      · exact .inr (.work hok)
    | insertNote dossierId authorId body now =>
      obtain ⟨hsame, herr⟩ | ⟨v, rfl, hok⟩ := SiteRequest.committed_eq h
      · exact .inl ⟨hsame, fun _ ↦ herr⟩
      · exact .inr (.note hok)
    | time | now | salt | getByUsername | getUser | listUsers | getDefault | listForDashboard
    | getDossier | getWork | listNotes | getUnread | execute | isRunning | startConnection
    | lastStartBlockedBySync | isActive | isVerifying =>
      cases h
      exact .inl ⟨rfl, nofun⟩

/-- The routes run in threads, which are interrupted at any request. -/
def anywhere (_ : SiteRequest) : Bool := true

/-- Make a request. -/
def askSite (q : SiteRequest) : SiteProg q.Val := Coro.perform q

end RmaPortal
