import RmaPortal.Coroutine.Basic
import RmaPortal.Infrastructure.Employees

/-!
# Administration of employees

The route `POST /admin/users/{user_id}/toggle-active` of `web/routes/admin_users.py`, with what it
depends on in `web/deps.py`, and under it `AccountService.set_active`.

Before the route runs, its dependencies find out who has sent the request and whether they may:
this is a transaction of its own, and the change of the user is another.  A transaction is one
request here; it may fail, and then it has changed nothing.

## What is here

* `AdminRequest`, `AdminRequest.serve`, `userDatabase` — the units of work, and how they are
  answered.
* `WebOrigin`, `ToggleRequest`, `AdminResponse` — of an HTTP request there is what the route looks
  at: whom its session cookie is a token of, and where it comes from; of a response, the page or
  the redirection, and the error that is shown.
* `getCurrentUser`, `requireUser`, `requireAdmin`, `checkSameOrigin` — the dependencies, in the
  order of the parameters that ask for them.
* `setActive`, `toggleActive` — the service and the route.  Nobody deactivates themselves; whether
  anybody is left who is active and an administrator is not asked.

What follows from this for the administrators there are is in `Accounts.LastAdmin`.  The whole
site, with every route, is in `Web/Routes.lean`.
-/

set_option autoImplicit false

open Coroutine

namespace RmaPortal

/-- A unit of work that an administration request asks for. -/
inductive AdminRequest
  /-- `uow.users.get(user_id)` -/
  | getUser (userId : ℕ)
  /-- `uow.users.set_active(user_id, active); uow.commit()` -/
  | setActive (userId : ℕ) (active : Bool)
  /-- `uow.users.list_all()` -/
  | listUsers

abbrev AdminRequest.Val : AdminRequest → Type
  | getUser _ => Option User
  | setActive _ _ => Unit
  | listUsers => List User

/-- How the database answers: as suggested if an error is suggested, else as it must. -/
def AdminRequest.serve : Server AdminRequest.Val Exn EmployeeDatabase
  | getUser _, .error e, db => (.error e, db)
  | getUser userId, .ok _, db => (.ok (UserRepository.get userId db), db)
  | setActive _ _, .error e, db => (.error e, db)
  | setActive userId active, .ok _, db => (.ok (), UserRepository.setActive userId active db)
  | listUsers, .error e, db => (.error e, db)
  | listUsers, .ok _, db => (.ok (UserRepository.listAll db), db)

/-- The rules the database follows. -/
abbrev userDatabase : Spec AdminRequest.Val Exn EmployeeDatabase := .ofServer AdminRequest.serve

/-- Programs of the administration. -/
abbrev AdminProg (α : Type) : Type := Coro AdminRequest.Val Exn α

/-- Ask for a unit of work. -/
def administer (r : AdminRequest) : AdminProg r.Val := Coro.perform r

/-- A scheme and a host, as `urlsplit` finds them. -/
structure WebOrigin where
  scheme : String
  netloc : String
  deriving DecidableEq

/-- A request to activate or deactivate an employee. -/
structure ToggleRequest where
  /-- The user whom the session cookie was issued to, if there is a valid one. -/
  sessionUser : Option ℕ
  /-- The `Origin` header, or else the `Referer` header. -/
  origin : Option WebOrigin
  /-- Where the request has been sent. -/
  url : WebOrigin
  /-- The employee. -/
  userId : ℕ
  /-- The form field. -/
  active : String

/-- What is sent back. -/
inductive AdminResponse
  | redirect (location : String)
  /-- The page `admin_users.html`. -/
  | usersPage (user : User) (users : List User) (error : String)

/-! ## Dependencies -/

def httpException (statusCode detail : String) : Exn :=
  .exception "HTTPException" (statusCode ++ ": " ++ detail)

/-- The active user whom the session belongs to. -/
def getCurrentUser (r : ToggleRequest) : AdminProg (Option User) :=
  match r.sessionUser with
  | none => pure none
  | some userId => do
    match ← administer (.getUser userId) with
    | none => pure none
    | some user => pure (if user.active then some user else none)

def requireUser (r : ToggleRequest) : AdminProg User := do
  match ← getCurrentUser r with
  | none => throw (httpException "303" "See Other")
  | some user => pure user

def requireAdmin (r : ToggleRequest) : AdminProg User := do
  let user ← requireUser r
  if user.role ≠ .admin then throw (httpException "403" "Réservé aux administrateurs.")
  else pure user

def checkSameOrigin (r : ToggleRequest) : AdminProg Unit :=
  match r.origin with
  | none => throw (httpException "403" "Origine manquante.")
  | some origin =>
    if origin ≠ r.url then throw (httpException "403" "Origine invalide.") else pure ()

/-! ## The route -/

namespace AccountService

def cannotDisableSelfError : Exn := .exception "CannotDisableSelfError" ""

/-- `set_active` -/
def setActive (userId : ℕ) (active : Bool) (actingAdminId : ℕ) : AdminProg Unit :=
  if userId = actingAdminId ∧ active = false then throw cannotDisableSelfError
  else administer (.setActive userId active)

end AccountService

/-- `toggle_active` -/
def toggleActive (r : ToggleRequest) : AdminProg AdminResponse := do
  let user ← requireAdmin r
  checkSameOrigin r
  match ← (AccountService.setActive r.userId (r.active = "1") user.id).attempt with
  | .ok () => pure (.redirect "/admin/users")
  | .error e =>
    if e.typeName = "CannotDisableSelfError" then do
      let users ← administer .listUsers
      pure (.usersPage user users "Vous ne pouvez pas désactiver votre propre compte actif.")
    else throw e

end RmaPortal
