import RmaPortal.Infrastructure.Portal.CamoufoxReader

/-!
# The visible login window

`infrastructure/portal/session_setup.py` and the login phase of `session_connector.py`: a visible
browser is opened on the shared profile and closed again once the employee has logged in or has
closed the window.

## What is here

* `Settings` — the settings the login window depends on.
* `captureAndSaveSessionState` — what is saved of a session, best effort.  The log line at the end
  counts what was captured (`countLocalStorage`, `countCaptured`), and counting may raise.
* `loginInWindow` — the `try` block: the browser is opened, the page is gone to, and the employee
  is waited for.
* `closeWindow` — the `finally` block: the browser is closed within its bound.  The message about
  a close that cannot be confirmed names that bound (`teardownError`).
* `launchVisibleBrowserAndWait` — both of them.  It is what the two callers have in common, who
  hold the profile lock around it (`withProfileLock`).
* `runSessionSetup` and `runLogin` — the two callers: the command-line tool, and the login phase
  of `SessionConnector`, which says whether a verification is to follow.

How the employee is waited for is a request here.  The tasks that it is made of are in
`Waiting.Programs`.  The lines that print or log are left out.
-/

set_option autoImplicit false

open Coroutine

namespace RmaPortal

/-- The settings the login window depends on. -/
structure Settings extends ReaderSettings where
  startRoute : String
  dataDir : String
  logDir : String

/-- The settings of a portal whose data are in `data`. -/
def Settings.standard : Settings :=
  { ReaderSettings.standard with
    startRoute := "https://portal/start", dataDir := "data", logDir := "logs" }

/-- The sum the log line of a capture computes raises if an entry has no `localStorage` to count. -/
def countLocalStorage : List Json → Except Exn Unit
  | [] => .ok ()
  | o :: rest => do
    let items ← getField o "localStorage" (.arr [])
    if items.hasLen then countLocalStorage rest else .error typeError

/-- The sizes in the log line of a capture. -/
def countCaptured (state : Json) : Except Exn Unit := do
  let origins ← getField state "origins" (.arr [])
  countLocalStorage (← elements origins)
  let session ← getField state "session_storage" (.obj [])
  let items ← getField session "items" (.obj [])
  let cookies ← getField state "cookies" (.arr [])
  if items.hasLen && cookies.hasLen then .ok () else .error typeError

section

variable (settings : Settings)

/-- `_capture_and_save_session_state`: best effort. -/
def captureAndSaveSessionState (m : ManagerId) : Prog Unit := do
  let captured : Prog Json := do
    let state ← captureSessionState m (originOf settings.baseUrl)
    saveSessionState settings.sessionStatePath state
    pure state
  match ← captured.attempt with
  | .ok state => outcome (countCaptured state)
  | .error e => if e.isException then pure () else throw e

/-- The `try` block of `launch_visible_browser_and_wait`. -/
def loginInWindow (m : ManagerId) : Prog Unit := do
  CamoufoxReader.firstPage m
  portal (.goto m settings.startRoute)
  let loggedIn ← portal (.waitForLoginOrClose m)
  if loggedIn then captureAndSaveSessionState settings m

/-- `_TEARDOWN_TIMEOUT_SECONDS` -/
def teardownTimeout : ℕ := 30

/-- The bounds are whole seconds, which `:.0f` writes without a fraction. -/
def teardownError (teardownTimeoutSeconds : ℕ) : Exn :=
  .browserTeardownError <|
    "Le nettoyage du navigateur de connexion n'a pas pu être confirmé après " ++
      toString teardownTimeoutSeconds ++ "s."

/-- The `finally` block: close the browser within its bound. -/
def closeWindow (teardownTimeoutSeconds : ℕ) (m : ManagerId) (onTeardownUnconfirmed : Prog Unit)
    (body : Except Exn Unit) : Prog Unit := do
  match ← (waitFor (portal (.managerExit m))).attempt with
  | .ok () => outcome body
  | .error e =>
    if e.isException then
      onTeardownUnconfirmed
      match body with
      | .ok () => throw (teardownError teardownTimeoutSeconds)
      | .error e => throw e
    else throw e

def launchVisibleBrowserAndWait (onTeardownUnconfirmed : Prog Unit)
    (teardownTimeoutSeconds : ℕ := teardownTimeout) : Prog Unit := do
  portal (.mkdir settings.profileDir)
  let m ← portal (.managerEnter settings.profileDir)
  let body ← (loginInWindow settings m).attempt
  closeWindow teardownTimeoutSeconds m onTeardownUnconfirmed body

/-- `with acquire_profile_lock(…) as lock: …`: the window, with the lock held around it. -/
def withProfileLock {α : Type} (body : FileLock → Prog α) : Prog α := do
  let lock ← acquireProfileLock settings.toProfilePaths
  let result ← (body lock).attempt
  releaseProfileLock lock
  outcome result

/-! ## The two callers -/

/-- `run_session_setup`, the command-line tool. -/
def runSessionSetup : Prog Unit := do
  portal (.mkdir settings.dataDir)
  portal (.mkdir settings.profileDir)
  portal (.mkdir settings.logDir)
  let session : Prog Unit := withProfileLock settings fun lock ↦ do
    match ← (launchVisibleBrowserAndWait settings
      (markProfileTeardownUnconfirmed lock "configuration manuelle de la session")).attempt with
    | .ok () => pure ()
    | .error (.browserTeardownError _) => pure ()
    | .error e => throw e
  match ← session.attempt with
  | .ok () => pure ()
  | .error (.browserProfileLockedError _) => pure ()
  | .error e => throw e

def loginTeardownFailedMessage : String :=
  "La fenêtre de connexion OmegaFlow s'est fermée, mais son nettoyage n'a pas pu être " ++
  "confirmé ; le profil reste indisponible jusqu'au redémarrage du Portail RMA."

/-- `SessionConnector._run_login`; whether the login is to be followed by a verification. -/
def runLogin : Prog Bool := do
  let login : Prog Bool := withProfileLock settings fun lock ↦ do
    match ← (launchVisibleBrowserAndWait settings
      (markProfileTeardownUnconfirmed lock "fermeture de la fenêtre de connexion")).attempt with
    | .ok () => pure true
    | .error (.browserTeardownError _) =>
      SyncAgreementQueue.markLoginTeardownFailed loginTeardownFailedMessage
      pure false
    | .error e => throw e
  match ← login.attempt with
  | .ok verify => pure verify
  | .error e => if e.isException then pure false else throw e

end

end RmaPortal
