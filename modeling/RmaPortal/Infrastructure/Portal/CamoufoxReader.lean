import RmaPortal.Application.SyncService
import RmaPortal.Infrastructure.Portal.SessionState

/-!
# The Camoufox portal reader

How `CamoufoxPortalReader` of `infrastructure/portal/camoufox_reader.py` opens and closes the
browser: `aenter` and `aexit`.  How it reads pages is in `Infrastructure/Portal/PageReader.lean`.

## What is here

* `ReaderSettings`, `CamoufoxReader` — what a reader is configured with, and an entered reader:
  its manager and the lock it holds.
* `aenter` — the lock is acquired, the browser started, a page found and prepared.  It is in three
  parts that lie within one another (`startBrowser`, `preparePage`, `firstPage`), because the
  source has two `try` blocks with different ideas of what to do about a failure.
* `aexit` — the browser is closed within its bound.  If it cannot be confirmed that it was, the
  profile is marked, and the lock stays held.
* `only_portal`, `only_aenter`, `only_aexit` and the lemmas between — the reader has nothing to do
  with the database, and what the preparation of a page asks for is a few requests to that page.
* `camoufoxPortalReaderFactory` — the reader as the synchronization service is given it.

Which exceptions the two `try` blocks let through is what `Profile.Opening` and `Profile.Finality`
are about.
-/

set_option autoImplicit false

open Coroutine

namespace RmaPortal

/-- What a `CamoufoxPortalReader` is configured with. -/
structure ReaderSettings extends ProfilePaths where
  baseUrl : String
  sessionStatePath : String

/-- Some settings. -/
def ReaderSettings.standard : ReaderSettings where
  profileDir := "data/profile"
  lockPath := "data/profile.lock"
  lockDir := "data"
  baseUrl := "https://portal"
  sessionStatePath := "data/session.json"

/-- An entered reader: its manager and the lock it holds. -/
structure CamoufoxReader where
  manager : ManagerId
  lock : FileLock

namespace CamoufoxReader

variable (cfg : ReaderSettings)

/-- The page to work with. -/
def firstPage (m : ManagerId) : Prog Unit := do
  if ← portal (.contextPages m) then pure () else portal (.newPage m)

/-- What `__aenter__` does once the browser runs. -/
def preparePage (m : ManagerId) : Prog Unit := do
  portal (.route m)
  let savedState ← loadSessionState cfg.sessionStatePath
  restoreSessionState m savedState (originOf cfg.baseUrl)
  firstPage m

/-- The `try` block of `__aenter__`. -/
def startBrowser : Prog ManagerId := do
  portal (.mkdir cfg.profileDir)
  let m ← portal (.managerEnter cfg.profileDir)
  preparePage cfg m
  pure m

def aenter : Prog CamoufoxReader := do
  let lock ← acquireProfileLock cfg.toProfilePaths
  match ← (startBrowser cfg).attempt with
  | .ok m => pure ⟨m, lock⟩
  | .error e =>
    releaseProfileLock lock
    throw e

def teardownReason : String := "nettoyage du navigateur OmegaFlow"

def aexit (reader : CamoufoxReader) : Prog Unit := do
  let closed ← (portal (.managerExit reader.manager)).attempt
  match closed with
  | .ok () => pure ()
  | .error _ => markProfileTeardownUnconfirmed reader.lock teardownReason
  releaseProfileLock reader.lock
  outcome closed

/-! ## What the preparation of a page asks for -/

section

variable {P : Request → Prop} {m : ManagerId}

theorem only_firstPage (hpages : P (.portal (.contextPages m))) (hpage : P (.portal (.newPage m))) :
    Only P (firstPage m) := by
  refine only_bind (only_perform hpages) fun pages ↦ ?_
  cases pages
  · exact only_perform hpage
  · exact only_pure _

theorem only_preparePage (hroute : P (.portal (.route m)))
    (hread : P (.portal (.readStateFile cfg.sessionStatePath)))
    (hcookies : ∀ c, P (.portal (.addCookies m c)))
    (hscript : ∀ o l s, P (.portal (.addInitScript m o l s)))
    (hpages : P (.portal (.contextPages m))) (hpage : P (.portal (.newPage m))) :
    Only P (preparePage cfg m) :=
  only_bind (only_perform hroute) fun _ ↦ only_bind (only_loadSessionState hread) fun _ ↦
    only_bind (only_restoreSessionState (fun _ c _ _ _ ↦ hcookies c)
      fun _ l i _ _ _ _ ↦ hscript _ l i) fun _ ↦ only_firstPage hpages hpage

end

/-! ## The reader has nothing to do with the database -/

theorem only_portal (q : PortalRequest) : Only Request.IsPortal (portal q) := only_perform trivial

theorem only_acquireProfileLock {P : Request → Prop} {paths : ProfilePaths}
    (hget : P (.portal (.unconfirmedGet paths.lockPath)))
    (hmkdir : P (.portal (.mkdir paths.lockDir)))
    (hnew : P (.portal (.newFileLock paths.lockPath)))
    (hacquire : ∀ lock, P (.portal (.acquire lock)))
    (hforget : ∀ lock, P (.portal (.forget lock))) : Only P (acquireProfileLock paths) := by
  refine only_bind (only_perform hget) fun entry ↦ ?_
  cases entry with
  | some entry => exact only_throw _
  | none =>
    refine only_bind (only_perform hmkdir) fun _ ↦ only_bind (only_perform hnew) fun lock ↦
      only_bind (only_attempt (only_perform (hacquire lock))) fun acquired ↦ ?_
    cases acquired with
    | ok _ => exact only_pure lock
    | error e =>
      refine only_bind (only_perform (hforget lock)) fun _ ↦ ?_
      cases e <;> exact only_throw _

theorem only_releaseProfileLock {P : Request → Prop} {lock : FileLock}
    (hget : P (.portal (.unconfirmedGet lock.path))) (hrelease : P (.portal (.release lock)))
    (hforget : P (.portal (.forget lock))) : Only P (releaseProfileLock lock) := by
  refine only_bind (only_perform hget) fun entry ↦ ?_
  cases entry with
  | some entry => exact only_perform hforget
  | none => exact only_bind (only_perform hrelease) fun _ ↦ only_perform hforget

theorem only_startBrowser : Only Request.IsPortal (startBrowser cfg) :=
  only_bind (only_portal _) fun _ ↦ only_bind (only_portal _) fun m ↦
    only_bind (only_preparePage cfg trivial trivial (fun _ ↦ trivial) (fun _ _ _ ↦ trivial) trivial
      trivial) fun _ ↦ only_pure m

theorem only_aenter : Only Request.IsPortal (aenter cfg) := by
  refine only_bind (only_acquireProfileLock trivial trivial trivial (fun _ ↦ trivial)
    fun _ ↦ trivial) fun lock ↦
    only_bind (only_attempt (only_startBrowser cfg)) fun started ↦ ?_
  cases started with
  | ok m => exact only_pure _
  | error e =>
    exact only_bind (only_releaseProfileLock trivial trivial trivial) fun _ ↦ only_throw e

theorem only_aexit (reader : CamoufoxReader) : Only Request.IsPortal (aexit reader) := by
  refine only_bind (only_attempt (only_portal _)) fun closed ↦ ?_
  have hrest : Only Request.IsPortal (do releaseProfileLock reader.lock; outcome closed) :=
    only_bind (only_releaseProfileLock trivial trivial trivial) fun _ ↦ trivial
  cases closed with
  | ok _ => exact hrest
  | error e =>
    exact only_bind (only_bind (only_perform trivial) fun _ ↦ only_portal _) fun _ ↦ hrest

end CamoufoxReader

/-- `CamoufoxPortalReaderFactory` -/
def camoufoxPortalReaderFactory (cfg : ReaderSettings) : PortalReaderFactory CamoufoxReader where
  hasSavedSession := portal (.stateFileExists cfg.sessionStatePath)
  openReader := pure ()
  aenter := CamoufoxReader.aenter cfg
  aexit := CamoufoxReader.aexit
  hasSavedSession_portal := CamoufoxReader.only_portal _
  openReader_portal := only_pure _
  aenter_portal := CamoufoxReader.only_aenter cfg
  aexit_portal := CamoufoxReader.only_aexit

end RmaPortal
