import RmaPortal.Unread.History
import RmaPortal.Web.Site

/-!
# What requests do to the users

Three requests of the site write to the `users` table: one adds a user, one says whether a user is
active, and one gives a user a new password.  What the users keep through a run is a matter of
these three cases.

## What is here

* `changesUsers` — the request has changed the users.
* `Added` — a user has been added, under an identifier and a username that were free.
* `UsersAfter` — what a request has done to the users, with one constructor for each of the three
  writes and one for all other requests.
* `added_of_create`, `insertNewUser_ok` — who is added, and that what a new user may have to read
  does not matter to the users.
* `users_insertWork`, `users_updateWork`, `users_insertNote` — writes that leave the users alone.
* `users_of_step` — what a request does to the users, of every answer to every request.

Steps of a poll have nothing to do with users (`PollStep`).
-/

set_option autoImplicit false

open Coroutine

namespace RmaPortal
namespace Site

/-- The request has changed the users. -/
def changesUsers : SiteHappening → Bool
  | ⟨.insertUser _ _, .ok _⟩ | ⟨.setActive _ _, .ok _⟩ | ⟨.setPasswordHash _ _, .ok _⟩ => true
  | _ => false

/-- A user has been added, under an identifier and a username that were free. -/
structure Added (db : EmployeeDatabase) (created : User) (db' : EmployeeDatabase) : Prop where
  id : created.id = db.users.fresh
  username : db.users.byUsername.find? created.username = none
  find : ∀ id, db'.users.find? id = if id = created.id then some created else db.users.find? id
  findName : ∀ name, db'.users.byUsername.find? name =
    if name = created.username then some created else db.users.byUsername.find? name

/-- What a request has done to the users. -/
inductive UsersAfter (site : SiteSettings) (db db' : EmployeeDatabase) : SiteHappening → Prop
  | added {user created : User} {seenAt : Datetime} (h : Added db created db')
      (hcreated : created =
        { user with id := db.users.fresh, username := site.normalize user.username }) :
      UsersAfter site db db' ⟨.insertUser user seenAt, .ok created⟩
  | activated (userId : ℕ) (active : Bool) (h : db' = UserRepository.setActive userId active db) :
      UsersAfter site db db' ⟨.setActive userId active, .ok ()⟩
  | rekeyed (userId : ℕ) (passwordHash : String)
      (h : db' = UserRepository.setPasswordHash userId passwordHash db) :
      UsersAfter site db db' ⟨.setPasswordHash userId passwordHash, .ok ()⟩
  | same {e : SiteHappening} (he : changesUsers e = false) (h : db'.users = db.users) :
      UsersAfter site db db' e

variable {site : SiteSettings} {db db' : EmployeeDatabase}

theorem added_of_create {normalize : String → String} {user created : User}
    (h : UserRepository.create normalize user db = .ok (created, db')) :
    Added db created db' ∧
      created = { user with id := db.users.fresh, username := normalize user.username } := by
  simp only [UserRepository.create, EmployeeDatabase.insertUser, bind, Except.bind, pure,
    Except.pure] at h
  split at h
  · cases h
  rename_i hinsert
  split at hinsert <;> cases hinsert
  rename_i hname
  cases h
  refine ⟨⟨rfl, hname, fun id ↦ ?_, fun name ↦ ?_⟩, rfl⟩
  · exact Table.find?_append db.users.toTable _ db.users.find?_fresh id
  · exact Table.find?_append db.users.byUsername _ hname name

/-- What a new user may have to read does not matter to the users. -/
theorem insertNewUser_ok {normalize : String → String} {user created : User} {seenAt : Datetime}
    (h : SiteRequest.insertNewUser normalize user seenAt db = .ok (created, db')) :
    Added db created db' ∧
      created = { user with id := db.users.fresh, username := normalize user.username } := by
  simp only [SiteRequest.insertNewUser, bind, Except.bind, pure, Except.pure] at h
  split at h
  · cases h
  rename_i hcreate
  split at h
  · cases h
  rename_i hmark
  obtain ⟨hadded, hcreated⟩ := added_of_create hcreate
  obtain ⟨-, husers, -⟩ := NotificationRepository.insertReads_ok hmark
  cases h
  exact ⟨⟨hadded.id, hadded.username, by rw [husers]; exact hadded.find,
    by rw [husers]; exact hadded.findName⟩, hcreated⟩

theorem users_insertWork {row : DossierWork} {u : Unit}
    (h : DossierWorkRepository.insert row db = .ok (u, db')) : db'.users = db.users := by
  unfold DossierWorkRepository.insert at h
  split at h
  · split at h <;> cases h
    rfl
  · cases h

theorem users_updateWork {loaded current : DossierWork} {u : Unit}
    (h : DossierWorkRepository.update loaded current db = .ok (u, db')) : db'.users = db.users := by
  unfold DossierWorkRepository.update at h
  split at h
  · cases h
  · split at h <;> cases h
    rfl

theorem users_insertNote {dossierId authorId : ℕ} {body : String} {now : Datetime}
    {note : DossierNote}
    (h : DossierNoteRepository.add dossierId authorId body now db = .ok (note, db')) :
    db'.users = db.users := by
  simp only [DossierNoteRepository.add, EmployeeDatabase.insertNote, bind, Except.bind, pure,
    Except.pure] at h
  split at h
  · cases h
  rename_i hinsert
  split at hinsert <;> cases hinsert
  cases h
  rfl

/-- **What a request does to the users.** -/
theorem users_of_step {q : SiteRequest} {a : Except Exn q.Val}
    (h : (siteRules site).step db q a db') : UsersAfter site db db' ⟨q, a⟩ := by
  obtain ⟨rfl, hfails⟩ | hwrote := wrote_of_step h
  · refine .same ?_ rfl
    cases q with
    | insertUser | setActive | setPasswordHash =>
      obtain ⟨e, rfl⟩ := hfails rfl
      rfl
    | _ => rfl
  · cases hwrote with
    | user hinsert =>
      obtain ⟨hadded, hcreated⟩ := insertNewUser_ok hinsert
      exact .added hadded hcreated
    | active userId active => exact .activated userId active rfl
    | passwordHash userId passwordHash => exact .rekeyed userId passwordHash rfl
    | reads hreads => exact .same rfl (NotificationRepository.insertReads_ok hreads).2.1
    | newWork hinsert => exact .same rfl (users_insertWork hinsert)
    | work hupdate => exact .same rfl (users_updateWork hupdate)
    | note hinsert => exact .same rfl (users_insertNote hinsert)

end Site
end RmaPortal
