import RmaPortal.Infrastructure.Repositories

/-!
# Employees and what they have read

The `users` table, and the repository methods that say which notifications an employee has read.
That a notification is unread is stored nowhere: a row of `notification_reads` marks a
notification as read by an employee, and what has no such row is unread.

## What is here

* `User`, `UserTable` — the employees, with their unique usernames.  Usernames are compared as
  `username.strip().casefold()`; `normalize` stands for that.
* `EmployeeDatabase` — the database together with its employees, its read marks and its notes, and
  with the foreign keys between them.  As for the other tables, a state that violates a constraint
  cannot be written down.
* `insertUser`, `insertRead`, `updateUser` — statements that write, with their checks.
* `getByUsername`, `get`, `listAll`, `setActive`, `create` — the repository of users.
* `unread`, `unreadOf`, `insertReads`, `markAllExistingAsReadForUser`, `acknowledgeDossier`,
  `unreadCountForUser`, `isUnreadForUser` — the repository of notifications, as far as employees
  are concerned.  Whatever marks something does so by one `INSERT` for each notification that has
  been found to be unread.
* `createUser` and `acknowledge` — the services, each in a unit of work of its own: an exception
  leaves the database as it was.

`createUser` marks everything that is there as read for the new employee, in the same transaction;
otherwise they would begin with all notifications there have ever been.
-/

set_option autoImplicit false

namespace RmaPortal

inductive Role
  | admin | employee
  deriving DecidableEq

structure User where
  id : ℕ
  username : String
  displayName : String
  passwordHash : String
  role : Role
  active : Bool
  createdAt : Datetime

/-- The `users` table, with its unique usernames. -/
structure UserTable extends Table User.id where
  usernames : (rows.map User.username).Nodup

namespace UserTable

/-- The users by their username. -/
def byUsername (t : UserTable) : Table User.username := ⟨t.rows, t.usernames⟩

/-- Put a user at the end. -/
def append (t : UserTable) (u : User) (h : t.find? u.id = none)
    (h' : t.byUsername.find? u.username = none) : UserTable where
  toTable := t.toTable.append u h
  usernames := (t.byUsername.append u h').nodup

/-- Change the user with an identifier, but for identifier and username. -/
def update (t : UserTable) (id : ℕ) (f : User → User) (hid : ∀ u, (f u).id = u.id)
    (hname : ∀ u, (f u).username = u.username) : UserTable where
  toTable := t.toTable.update id f hid
  usernames := (t.byUsername.map (fun u ↦ if u.id = id then f u else u)
    fun u ↦ by split <;> simp [hname]).nodup

theorem find?_update (t : UserTable) (id : ℕ) (f : User → User) (hid : ∀ u, (f u).id = u.id)
    (hname : ∀ u, (f u).username = u.username) (id' : ℕ) :
    (t.update id f hid hname).find? id' =
      if id' = id then (t.find? id').map f else t.find? id' :=
  Table.find?_update t.toTable id f hid id'

end UserTable

/-- The database together with its employees. -/
structure EmployeeDatabase extends Database where
  users : UserTable
  /-- The foreign key of `notification_reads.notification_id`. -/
  reads_notification :
    ∀ r ∈ notificationReads.rows, (notifications.find? r.notificationId).isSome
  /-- The foreign key of `notification_reads.user_id`. -/
  reads_user : ∀ r ∈ notificationReads.rows, (users.find? r.userId).isSome

namespace EmployeeDatabase

variable (db : EmployeeDatabase)

/-- `INSERT INTO users`.  The unique usernames are checked. -/
def insertUser (u : User) (h : db.users.find? u.id = none) : Except Exn EmployeeDatabase :=
  if h' : db.users.byUsername.find? u.username = none then
    .ok { db with
      users := db.users.append u h h'
      reads_user := fun r hr ↦ by
        have hfound := db.reads_user r hr
        rw [UserTable.append, Table.find?_append]
        split
        · rfl
        · exact hfound }
  else .error Database.integrityError

/-- `INSERT INTO notification_reads`.  Primary and foreign keys are checked. -/
def insertRead (r : NotificationRead) : Except Exn EmployeeDatabase :=
  if h : db.notificationReads.find? (r.notificationId, r.userId) = none ∧
      (db.notifications.find? r.notificationId).isSome ∧ (db.users.find? r.userId).isSome then
    .ok { db with
      notificationReads := db.notificationReads.append r h.1
      reads_notification := fun s hs ↦ by
        rcases List.mem_append.mp hs with hs | hs
        · exact db.reads_notification s hs
        · exact List.mem_singleton.mp hs ▸ h.2.1
      reads_user := fun s hs ↦ by
        rcases List.mem_append.mp hs with hs | hs
        · exact db.reads_user s hs
        · exact List.mem_singleton.mp hs ▸ h.2.2 }
  else .error Database.integrityError

/-- `UPDATE users … WHERE id = id` -/
def updateUser (id : ℕ) (f : User → User) (hid : ∀ u, (f u).id = u.id)
    (hname : ∀ u, (f u).username = u.username) : EmployeeDatabase :=
  { db with
    users := db.users.update id f hid hname
    reads_user := fun r hr ↦ by
      have hfound := db.reads_user r hr
      rw [UserTable.find?_update]
      split
      · rwa [Option.isSome_map]
      · exact hfound }

end EmployeeDatabase

/-! ## The repositories -/

namespace UserRepository

variable (normalize : String → String)

def getByUsername (username : String) (db : EmployeeDatabase) : Option User :=
  db.users.byUsername.find? (normalize username)

def get (userId : ℕ) (db : EmployeeDatabase) : Option User := db.users.find? userId

/-- `select(UserRow).order_by(UserRow.username)` -/
def listAll (db : EmployeeDatabase) : List User :=
  db.users.rows.mergeSort fun u v ↦ decide (u.username ≤ v.username)

def setActive (userId : ℕ) (active : Bool) (db : EmployeeDatabase) : EmployeeDatabase :=
  db.updateUser userId (fun row ↦ { row with active := active }) (fun _ ↦ rfl) fun _ ↦ rfl

theorem find?_setActive (userId : ℕ) (active : Bool) (db : EmployeeDatabase) (id : ℕ) :
    (setActive userId active db).users.find? id =
      if id = userId then (db.users.find? id).map fun row ↦ { row with active := active }
      else db.users.find? id :=
  UserTable.find?_update db.users userId (fun row ↦ { row with active := active }) (fun _ ↦ rfl)
    (fun _ ↦ rfl) id

/-- Insert the user under a new identifier. -/
def create (user : User) (db : EmployeeDatabase) : Except Exn (User × EmployeeDatabase) := do
  let user := { user with id := db.users.fresh, username := normalize user.username }
  let db ← db.insertUser user db.users.find?_fresh
  pure (user, db)

end UserRepository

namespace NotificationRepository

/-- `select(NotificationReadRow.notification_id).where(NotificationReadRow.user_id == user_id)` -/
def alreadyRead (userId : ℕ) (db : Database) : List ℕ :=
  (db.notificationReads.rows.filter fun r ↦ r.userId == userId).map NotificationRead.notificationId

/-- The notifications that an employee has not read. -/
def unread (userId : ℕ) (db : Database) : List Notification :=
  db.notifications.rows.filter fun n ↦ !(alreadyRead userId db).contains n.id

/-- Those of them that are about a dossier. -/
def unreadOf (dossierId userId : ℕ) (db : Database) : List Notification :=
  db.notifications.rows.filter fun n ↦
    n.dossierId == dossierId && !(alreadyRead userId db).contains n.id

/-- Mark notifications as read, one `INSERT` each. -/
def insertReads (userId : ℕ) (seenAt : Datetime) (unreadIds : List ℕ) (db : EmployeeDatabase) :
    Except Exn EmployeeDatabase :=
  unreadIds.foldlM (fun db id ↦ db.insertRead ⟨id, userId, seenAt⟩) db

def markAllExistingAsReadForUser (userId : ℕ) (seenAt : Datetime) (db : EmployeeDatabase) :
    Except Exn EmployeeDatabase :=
  insertReads userId seenAt ((unread userId db.toDatabase).map Notification.id) db

def acknowledgeDossier (dossierId userId : ℕ) (seenAt : Datetime) (db : EmployeeDatabase) :
    Except Exn EmployeeDatabase :=
  insertReads userId seenAt ((unreadOf dossierId userId db.toDatabase).map Notification.id) db

def unreadCountForUser (userId : ℕ) (db : Database) : ℕ := (unread userId db).length

def isUnreadForUser (dossierId userId : ℕ) (db : Database) : Bool :=
  decide (0 < (unreadOf dossierId userId db).length)

/-- What `create` adds: one notification, under a new identifier. -/
theorem create_ok {dossierId : ℕ} {kind : NotificationKind} {detectedAt : Datetime}
    {db db' : Database} {n : Notification}
    (h : create dossierId kind detectedAt db = .ok (n, db')) :
    n.dossierId = dossierId ∧ n.id = db.notifications.fresh ∧
      db'.notifications.rows = db.notifications.rows ++ [n] ∧
      db'.notificationReads = db.notificationReads := by
  simp only [create, Database.insertNotification, bind, Except.bind, pure, Except.pure] at h
  split at h
  · cases h
  · rename_i hins
    split at hins <;> cases hins
    cases h
    exact ⟨rfl, rfl, rfl, rfl⟩

/-- `create`, with the employees in the database. -/
def createForAll (dossierId : ℕ) (kind : NotificationKind) (detectedAt : Datetime)
    (db : EmployeeDatabase) : Except Exn (Notification × EmployeeDatabase) :=
  match h : create dossierId kind detectedAt db.toDatabase with
  | .error e => .error e
  | .ok (n, db') =>
    .ok (n,
      { toDatabase := db'
        users := db.users
        reads_notification := fun r hr ↦ by
          obtain ⟨-, -, hrows, hreads⟩ := create_ok h
          rw [hreads] at hr
          have hfound := db.reads_notification r hr
          rw [Table.find?_isSome] at hfound ⊢
          rw [hrows, List.map_append]
          exact List.mem_append_left _ hfound
        reads_user := fun r hr ↦ by
          obtain ⟨-, -, -, hreads⟩ := create_ok h
          exact db.reads_user r (hreads ▸ hr) })

end NotificationRepository

/-! ## The services -/

/-- What `AccountService.create_user` is called with. -/
structure NewUser where
  username : String
  displayName : String
  password : String
  role : Role

namespace AccountService

variable (normalize : String → String) (hash : String → Except Exn String)

def duplicateUsername (username : String) : Exn :=
  .exception "DuplicateUsernameError" ("username '" ++ username ++ "' already exists")

/-- `create_user`, at the time `now`.  An exception leaves the database as it was. -/
def createUser (u : NewUser) (now : Datetime) (db : EmployeeDatabase) :
    Except Exn (User × EmployeeDatabase) := do
  let normalized := normalize u.username
  let passwordHash ← hash u.password
  match UserRepository.getByUsername normalize normalized db with
  | some _ => throw (duplicateUsername normalized)
  | none =>
    let (user, db) ← UserRepository.create normalize
      { id := 0, username := normalized, displayName := u.displayName
        passwordHash := passwordHash, role := u.role, active := true, createdAt := now } db
    -- a new employee must never inherit historical unread notifications
    let db ← NotificationRepository.markAllExistingAsReadForUser user.id now db
    pure (user, db)

end AccountService

namespace DossierService

/-- `acknowledge`, at the time `now`. -/
def acknowledge (dossierId userId : ℕ) (now : Datetime) (db : EmployeeDatabase) :
    Except Exn EmployeeDatabase :=
  NotificationRepository.acknowledgeDossier dossierId userId now db

end DossierService

end RmaPortal
