import Mathlib.Data.String.Basic
import RmaPortal.Application.Administration
import RmaPortal.Web.Site

/-!
# The routes

The routes of the site (`web/routes`), what they depend on (`web/deps.py`), and under them
`AccountService` and `DossierService`.  Only `GET /health` is left out, which asks nobody anything.

## What is here

* `Route` and `HttpRequest` — what is sent: a route with what is taken from the path, the query and
  the form, and of the headers those that some route looks at.
* `Response` — what is answered: of a page there is what its template is given.  A route may also
  end with an exception: an `HTTPException` is a response too, and any other one is answered with an
  internal server error.
* `requireUser`, `requireAdmin` and `checkSameOrigin` — what routes depend on.  They are the first
  steps of a route, in the order of the parameters that ask for them.
* one definition for every route, by the name of its function, and `handle`, which finds the route.

The two routes that are about the portal are waited for in different ways.  `manualRefresh` awaits
a synchronization and renders the dashboard when it is over, minutes later and whatever came of it;
`connectSession` opens the window and returns at once.  Both show the session card, whose
`SessionView` is put together from the stored account and from what is going on in the process.
-/

set_option autoImplicit false

open Coroutine

namespace RmaPortal
namespace Site

/-! ## HTTP -/

/-- The query of the dashboard. -/
structure DashboardParams where
  search : String := ""
  unreadOnly : String := ""
  workStatus : String := ""
  portalStatus : String := ""

/-- A route, with what is taken from the path, the query and the form. -/
inductive Route
  | loginForm
  | loginSubmit (username password : String)
  | logout
  | dashboard (query : DashboardParams)
  | dossierDetail (dossierId : ℕ)
  | updateStatus (dossierId : ℕ) (status expectedVersion : String)
  | addNote (dossierId : ℕ) (body : String)
  | listUsers
  | createUser (username displayName password role : String)
  | toggleActive (userId : ℕ) (active : String)
  | resetPassword (userId : ℕ) (newPassword : String)
  | portalSessionStatus
  | refresh (query : DashboardParams)
  | connectSession

structure HttpRequest where
  route : Route
  /-- The session cookie. -/
  cookie : Option String
  /-- The `Origin` header, or else the `Referer` header. -/
  origin : Option WebOrigin
  /-- Where the request has been sent. -/
  url : WebOrigin
  /-- The header `HX-Request: true`. -/
  htmx : Bool

/-- What a response does to the session cookie. -/
inductive CookieChange
  | keep
  | set (token : String)
  | delete

/-- What the page of a dossier shows. -/
structure DossierPage where
  dossier : Dossier
  work : Option DossierWork
  notes : List DossierNote
  /-- `users_by_id` -/
  users : List User
  fragment : Bool

/-- `SESSION_STATES` -/
inductive SessionState
  | unknown | connecting | verifying | ready | authRequired | error
  deriving DecidableEq

/-- `session_status.value` -/
def SessionState.ofStatus : SessionStatus → SessionState
  | .unknown => .unknown
  | .ready => .ready
  | .authRequired => .authRequired
  | .error => .error

/-- What the session card shows. -/
structure SessionView where
  state : SessionState
  lastPollAt : Option Datetime
  lastSuccessAt : Option Datetime
  lastError : Option String
  syncing : Bool

/-- What the dashboard shows. -/
structure DashboardPage where
  rows : List DashboardRow
  counts : Dashboard.DashboardCounts
  portalAccount : Option PortalAccount
  session : SessionView
  filters : Dashboard.Filters
  portalStatusOptions : List String
  fragment : Bool

inductive Response
  | redirect (location : String) (cookie : CookieChange)
  | loginPage (error : Option String)
  | dashboard (user : User) (page : DashboardPage)
  | dossier (user : User) (page : DossierPage)
  | errorPage (user : User) (statusCode : ℕ) (title message : String)
  | workSection (user : User) (dossierId : ℕ) (work : Option DossierWork)
      (message messageClass : String)
  | notesSection (user : User) (dossierId : ℕ) (notes : List DossierNote) (users : List User)
      (message messageClass : String)
  | usersPage (user : User) (users : List User) (error : Option String)
  | portalSession (user : User) (account : Option PortalAccount)
  | sessionCard (user : User) (session : SessionView) (connectBlockedBySync : Bool)

variable (site : SiteSettings)

/-! ## Dependencies -/

/-- `codec.decode`.  The clock is only looked at if the signature is right. -/
def decode (token : String) : SiteProg (Option ℤ) :=
  match site.codec.serializer.unsign token with
  | none => pure none
  | some _ => do
    let now ← askSite .time
    .done (site.codec.decode token now)

/-- The active user whom the session belongs to. -/
def getCurrentUser (r : HttpRequest) : SiteProg (Option User) :=
  match r.cookie with
  | none => pure none
  | some token =>
    if token = "" then pure none
    else do
      match ← decode site token with
      | none => pure none
      | some userId => do
        match ← askSite (.getUser userId) with
        | none => pure none
        | some user => pure (if user.active then some user else none)

def requireUser (r : HttpRequest) : SiteProg User := do
  match ← getCurrentUser site r with
  | none => throw (httpException "303" "See Other")
  | some user => pure user

def requireAdmin (r : HttpRequest) : SiteProg User := do
  let user ← requireUser site r
  if user.role ≠ .admin then throw (httpException "403" "Réservé aux administrateurs.")
  else pure user

def checkSameOrigin (r : HttpRequest) : SiteProg Unit :=
  match r.origin with
  | none => throw (httpException "403" "Origine manquante.")
  | some origin =>
    if origin ≠ r.url then throw (httpException "403" "Origine invalide.") else pure ()

/-! ## Accounts -/

namespace AccountService

def authenticate (username password : String) : SiteProg (Option User) := do
  match ← askSite (.getByUsername username) with
  | none => pure none
  | some user =>
    if user.active = false then pure none
    else if Passwords.verifyPassword site.argon2 user.passwordHash password = false then pure none
    else pure (some user)

/-- `self._hasher.hash` -/
def hash (password : String) : SiteProg String := do
  let salt ← askSite .salt
  .done (Passwords.hashPassword site.argon2 salt password)

def createUser (username displayName password : String) (role : Role) : SiteProg User := do
  let normalized := site.normalize username
  let now ← askSite .now
  let passwordHash ← hash site password
  match ← askSite (.getByUsername normalized) with
  | some _ => throw (AccountService.duplicateUsername normalized)
  | none =>
    askSite (.insertUser
      { id := 0, username := normalized, displayName := displayName, passwordHash := passwordHash
        role := role, active := true, createdAt := now } now)

def setActive (userId : ℕ) (active : Bool) (actingAdminId : ℕ) : SiteProg Unit :=
  if userId = actingAdminId ∧ active = false then throw AccountService.cannotDisableSelfError
  else askSite (.setActive userId active)

def resetPassword (userId : ℕ) (newPassword : String) : SiteProg Unit := do
  let passwordHash ← hash site newPassword
  askSite (.setPasswordHash userId passwordHash)

end AccountService

/-- `_render` of `web/routes/admin_users.py` -/
def renderUsers (user : User) (error : Option String) : SiteProg Response := do
  let users ← askSite .listUsers
  pure (.usersPage user users error)

/-! ## Dossiers -/

namespace DossierService

def dossierNotFound (dossierId : ℕ) : Exn :=
  .exception "DossierNotFoundError" ("dossier " ++ toString dossierId ++ " not found")

def getDossier (dossierId : ℕ) :
    SiteProg (Dossier × Option DossierWork × List DossierNote) := do
  match ← askSite (.getDossier dossierId) with
  | none => throw (dossierNotFound dossierId)
  | some dossier => do
    let work ← askSite (.getWork dossierId)
    let notes ← askSite (.listNotes dossierId)
    pure (dossier, work, notes)

def acknowledge (dossierId userId : ℕ) : SiteProg Unit := do
  let now ← askSite .now
  let unreadIds ← askSite (.getUnread dossierId userId)
  askSite (.insertReads userId unreadIds now)

def updateWorkStatus (r : WorkUpdate) : SiteProg DossierWork := do
  let now ← askSite .now
  match ← askSite (.getWork r.dossierId) with
  | none => do
    let row := SqlAlchemyDossierWorkRepository.newRow r.dossierId r.status r.userId now
    askSite (.insertWork row)
    pure row
  | some row =>
    if r.expectedVersion.any (· ≠ row.version) then
      throw (.workStatusConflict r.dossierId (r.expectedVersion.getD 0) row.version)
    else do
      let current := SqlAlchemyDossierWorkRepository.nextRow r.status r.userId now row
      askSite (.updateWork row current)
      pure current

def addNote (dossierId authorId : ℕ) (body : String) : SiteProg DossierNote :=
  let body := Text.strip body
  if body.length > maxNoteLength then throw (DossierService.noteTooLong body.length maxNoteLength)
  else if body.isEmpty then throw DossierService.emptyNote
  else do
    let now ← askSite .now
    askSite (.insertNote dossierId authorId body now)

end DossierService

/-! ## `web/routes/auth.py` -/

def loginForm (r : HttpRequest) : SiteProg Response := do
  match ← getCurrentUser site r with
  | some _ => pure (.redirect "/" .keep)
  | none => pure (.loginPage none)

def loginSubmit (username password : String) : SiteProg Response := do
  match ← AccountService.authenticate site username password with
  | none => pure (.loginPage (some "Identifiants invalides ou compte désactivé."))
  | some user => do
    let now ← askSite .time
    pure (.redirect "/" (.set (site.codec.encode now user.id)))

def logout : SiteProg Response := pure (.redirect "/login" .delete)

/-! ## `web/routes/admin_users.py` and `web/routes/admin_session.py` -/

def listUsers (r : HttpRequest) : SiteProg Response := do
  let user ← requireAdmin site r
  renderUsers user none

/-- `Role(role)` -/
def parseRole (role : String) : Except Exn Role :=
  if role = "ADMIN" then .ok .admin
  else if role = "EMPLOYEE" then .ok .employee
  else .error (.exception "ValueError" (Text.repr role ++ " is not a valid Role"))

def createUser (r : HttpRequest) (username displayName password role : String) :
    SiteProg Response := do
  let user ← requireAdmin site r
  checkSameOrigin r
  let call : SiteProg User := do
    let role ← .done (parseRole role)
    AccountService.createUser site username displayName password role
  match ← call.attempt with
  | .ok _ => pure (.redirect "/admin/users" .keep)
  | .error e =>
    if e.typeName = "DuplicateUsernameError" then
      renderUsers user (some "Cet identifiant existe déjà.")
    else if e.typeName = "WeakPasswordError" then renderUsers user (some e.str)
    else throw e

def toggleActive (r : HttpRequest) (userId : ℕ) (active : String) : SiteProg Response := do
  let user ← requireAdmin site r
  checkSameOrigin r
  match ← (AccountService.setActive userId (active = "1") user.id).attempt with
  | .ok () => pure (.redirect "/admin/users" .keep)
  | .error e =>
    if e.typeName = "CannotDisableSelfError" then
      renderUsers user (some "Vous ne pouvez pas désactiver votre propre compte actif.")
    else throw e

def resetPassword (r : HttpRequest) (userId : ℕ) (newPassword : String) : SiteProg Response := do
  let user ← requireAdmin site r
  checkSameOrigin r
  match ← (AccountService.resetPassword site userId newPassword).attempt with
  | .ok () => pure (.redirect "/admin/users" .keep)
  | .error e =>
    if e.typeName = "WeakPasswordError" then renderUsers user (some e.str) else throw e

def portalSessionStatus (r : HttpRequest) : SiteProg Response := do
  let user ← requireAdmin site r
  let account ← askSite .getDefault
  pure (.portalSession user account)

/-! ## `web/routes/dossier.py` -/

def notFoundPage (user : User) : Response :=
  .errorPage user 404 "Dossier introuvable" "Ce dossier n'existe pas."

def dossierDetail (r : HttpRequest) (dossierId : ℕ) : SiteProg Response := do
  let user ← requireUser site r
  match ← (DossierService.getDossier dossierId).attempt with
  | .error e =>
    if e.typeName = "DossierNotFoundError" then pure (notFoundPage user) else throw e
  | .ok (dossier, work, notes) => do
    -- opening the dossier page is the explicit per-employee acknowledgement
    DossierService.acknowledge dossierId user.id
    let users ← askSite .listUsers
    pure (.dossier user ⟨dossier, work, notes, users, r.htmx⟩)

def statusConflictMessage : String :=
  "Ce dossier a été modifié entre-temps. Rechargez la page et réessayez."

def noteInvalidMessage : String := "La note doit contenir entre 1 et 2000 caractères."

/-- `WorkStatus(status)` -/
def parseWorkStatus (status : String) : Except Exn WorkStatus :=
  if status = "TO_DO" then .ok .toDo
  else if status = "IN_PROGRESS" then .ok .inProgress
  else if status = "WAITING" then .ok .waiting
  else if status = "DONE" then .ok .done
  else .error (.exception "ValueError" (Text.repr status ++ " is not a valid WorkStatus"))

/-- `int(expected_version) if expected_version.strip() else None` -/
def parseVersion (expectedVersion : String) : Except Exn (Option ℤ) :=
  if Text.strip expectedVersion = "" then .ok none
  else
    match Text.int? expectedVersion with
    | some version => .ok (some version)
    | none => .error (.exception "ValueError" "invalid literal for int() with base 10")

/-- What a refused update is answered with. -/
def renderConflict (r : HttpRequest) (user : User) (dossierId : ℕ) : SiteProg Response :=
  if r.htmx = false then
    pure (.errorPage user 409 "Conflit de mise à jour" statusConflictMessage)
  else do
    -- the visible selection and the hidden `expected_version` match the database again
    match ← (DossierService.getDossier dossierId).attempt with
    | .error e =>
      if e.typeName = "DossierNotFoundError" then pure (notFoundPage user) else throw e
    | .ok (_, currentWork, _) =>
      pure (.workSection user dossierId currentWork statusConflictMessage "error")

def updateStatus (r : HttpRequest) (dossierId : ℕ) (status expectedVersion : String) :
    SiteProg Response := do
  let user ← requireUser site r
  checkSameOrigin r
  let version ← .done (parseVersion expectedVersion)
  let call : SiteProg DossierWork := do
    let status ← .done (parseWorkStatus status)
    DossierService.updateWorkStatus ⟨dossierId, status, version, user.id⟩
  match ← call.attempt with
  | .ok work =>
    if r.htmx = false then pure (.redirect ("/dossiers/" ++ toString dossierId) .keep)
    else pure (.workSection user dossierId (some work) "Statut mis à jour." "success")
  | .error e =>
    if e.typeName = "WorkStatusConflict" then renderConflict r user dossierId else throw e

/-- `_render_notes_section` -/
def renderNotesSection (user : User) (dossierId : ℕ) (message messageClass : String) :
    SiteProg Response := do
  let (_, _, notes) ← DossierService.getDossier dossierId
  let users ← askSite .listUsers
  pure (.notesSection user dossierId notes users message messageClass)

def addNote (r : HttpRequest) (dossierId : ℕ) (body : String) : SiteProg Response := do
  let user ← requireUser site r
  checkSameOrigin r
  match ← (DossierService.addNote dossierId user.id body).attempt with
  | .ok _ =>
    if r.htmx = false then pure (.redirect ("/dossiers/" ++ toString dossierId) .keep)
    else renderNotesSection user dossierId "Note ajoutée." "success"
  | .error e =>
    if e.typeName = "NoteTooLongError" ∨ e.typeName = "EmptyNoteError" then
      if r.htmx = false then pure (.errorPage user 400 "Note invalide" noteInvalidMessage)
      else renderNotesSection user dossierId noteInvalidMessage "error"
    else throw e

/-! ## `web/routes/dashboard.py` -/

/-- `request.query_params.get(name) or None` -/
def param (value : String) : Option String := if value = "" then none else some value

def parseFilters (query : DashboardParams) : Except Exn Dashboard.Filters := do
  let workStatus ← (param query.workStatus).mapM parseWorkStatus
  pure
    { search := param query.search, unreadOnly := query.unreadOnly = "1", workStatus := workStatus
      portalStatus := param query.portalStatus }

/-- `sorted({r.portal_status for r in all_rows if r.portal_status})` -/
def portalStatusOptions (rows : List DashboardRow) : List String :=
  sortedBy id ((rows.map DashboardRow.portalStatus).filter (· ≠ "")).dedup

/-- `state`, in `build_session_view` -/
def sessionState (portalAccount : Option PortalAccount) : SiteProg SessionState := do
  if ← askSite .isActive then pure .connecting
  else if ← askSite .isVerifying then pure .verifying
  else pure (portalAccount.elim .unknown fun account ↦ .ofStatus account.sessionStatus)

/-- `build_session_view` of `web/session_view.py` -/
def buildSessionView (portalAccount : Option PortalAccount) : SiteProg SessionView := do
  let state ← sessionState portalAccount
  let syncing ← askSite .isRunning
  pure
    { state := state
      lastPollAt := portalAccount.bind PortalAccount.lastPollAt
      lastSuccessAt := portalAccount.bind PortalAccount.lastSuccessAt
      lastError := portalAccount.bind PortalAccount.lastError
      syncing := syncing }

/-- `_render_dashboard` -/
def renderDashboard (user : User) (query : DashboardParams) (fragment : Bool) :
    SiteProg Response := do
  let filters ← .done (parseFilters query)
  let portalAccount ← askSite .getDefault
  let allRows ← askSite (.listForDashboard user.id)
  let session ← buildSessionView portalAccount
  pure (.dashboard user
    { rows := Dashboard.filterAndSort site.casefold site.timestamp allRows filters
      counts := Dashboard.computeCounts allRows
      portalAccount := portalAccount
      session := session
      filters := filters
      portalStatusOptions := portalStatusOptions allRows
      fragment := fragment })

def dashboard (r : HttpRequest) (query : DashboardParams) : SiteProg Response := do
  let user ← requireUser site r
  renderDashboard site user query r.htmx

/-- `await app.sync_service.execute()`, with `except Exception` around it. -/
def awaitSync : SiteProg Unit := do
  match ← (askSite .execute).attempt with
  | .ok _ => pure ()
  | .error e => if e.isException then pure () else throw e

def manualRefresh (r : HttpRequest) (query : DashboardParams) : SiteProg Response := do
  let user ← requireUser site r
  checkSameOrigin r
  awaitSync
  renderDashboard site user query true

/-! ## `web/routes/session.py` -/

def connectSession (r : HttpRequest) : SiteProg Response := do
  let user ← requireUser site r
  checkSameOrigin r
  let _ ← askSite .startConnection
  let blockedBySync ← askSite .lastStartBlockedBySync
  let portalAccount ← askSite .getDefault
  let session ← buildSessionView portalAccount
  pure (.sessionCard user session blockedBySync)

/-! ## All of them -/

/-- What the site does about a request. -/
def handle (r : HttpRequest) : SiteProg Response :=
  match r.route with
  | .loginForm => loginForm site r
  | .loginSubmit username password => loginSubmit site username password
  | .logout => logout
  | .dashboard query => dashboard site r query
  | .dossierDetail dossierId => dossierDetail site r dossierId
  | .updateStatus dossierId status expectedVersion =>
    updateStatus site r dossierId status expectedVersion
  | .addNote dossierId body => addNote site r dossierId body
  | .listUsers => listUsers site r
  | .createUser username displayName password role =>
    createUser site r username displayName password role
  | .toggleActive userId active => toggleActive site r userId active
  | .resetPassword userId newPassword => resetPassword site r userId newPassword
  | .portalSessionStatus => portalSessionStatus site r
  | .refresh query => manualRefresh site r query
  | .connectSession => connectSession site r

end Site
end RmaPortal
