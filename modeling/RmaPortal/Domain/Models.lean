import Mathlib.Data.Nat.Notation
import Mathlib.Data.Int.Notation

/-!
# Business entities

The entities of the portal (`domain/models.py`), its enumerations (`domain/enums.py`), and what
crosses the boundary to the portal reader (`application/dto.py`).  Entities carry their primary
key, as the columns of the database do; text columns are strings and identifiers natural numbers.

## What is here

* `Datetime` — a wall-clock time, as a `DateTime` column of SQLite keeps it: without a time zone.
* `SessionStatus`, `WorkStatus`, `PollStatus`, `NotificationKind` — the enumerations, and
  `maxMissingCompletePolls`, the number of COMPLETE polls a dossier may be absent from.
* `PortalAccount`, `Dossier`, `DossierWork`, `Notification`, `PollRun` — the entities.  Each of
  the five dates of a dossier is kept with its raw text (`DossierDates`), so that a text that can
  not be read as a date is not lost.
* `QueueRow`, `QueueSnapshot`, `DossierDetails`, `DashboardRow`, `SyncResult` — what the reader
  hands to the synchronization, what the dashboard is made of, and what a poll tells its caller.
* `Exn` — what a step of the program may raise.  The classes that some `except` clause of the
  program names have a constructor of their own, with the data that is read from them; all others
  are told apart by whether `except Exception` catches them.  A cancellation carries whether it
  comes from `asyncio.wait_for` running into its timeout.
* `Exn.isException`, `Exn.fault` — what `except Exception` catches, and what a call that is not
  awaited may raise: a cancellation is delivered at an `await` only.

Not here: users, which are in `Infrastructure/Employees.lean`, and the workflow tables of the not
yet activated multi-workflow synchronizer, which are in `Infrastructure/Workflows.lean`.
-/

set_option autoImplicit false

namespace RmaPortal

/-- A wall-clock time as a `DateTime` column of SQLite keeps it: without a time zone. -/
structure Datetime where
  year : ℕ
  month : ℕ
  day : ℕ
  hour : ℕ
  minute : ℕ
  second : ℕ
  microsecond : ℕ
  deriving DecidableEq, Inhabited

/-! ## Enumerations -/

inductive SessionStatus
  | unknown | ready | authRequired | error
  deriving DecidableEq, Inhabited

inductive WorkStatus
  | toDo | inProgress | waiting | done
  deriving DecidableEq

inductive PollStatus
  | complete | partialRead | authRequired | failed
  deriving DecidableEq, Inhabited

inductive NotificationKind
  | newAgreementDossier
  deriving DecidableEq, Inhabited

/-- Number of consecutive COMPLETE polls a dossier may be absent from before it is deactivated. -/
def maxMissingCompletePolls : ℕ := 2

/-! ## Entities -/

structure PortalAccount where
  id : ℕ
  name : String
  baseUrl : String
  enabled : Bool
  baselineCompletedAt : Option Datetime
  sessionStatus : SessionStatus
  lastPollAt : Option Datetime
  lastSuccessAt : Option Datetime
  lastError : Option String

/-- The five captured portal dates, each kept alongside its raw text. -/
structure DossierDates where
  dateCreation : Option Datetime := none
  dateCreationRaw : String := ""
  datePremiereFinPrevue : Option Datetime := none
  datePremiereFinPrevueRaw : String := ""
  dateFinTravauxPrevue : Option Datetime := none
  dateFinTravauxPrevueRaw : String := ""
  dateEnvoiDevisGarage : Option Datetime := none
  dateEnvoiDevisGarageRaw : String := ""
  datePhotosAvant : Option Datetime := none
  datePhotosAvantRaw : String := ""
  deriving DecidableEq, Inhabited

structure Dossier where
  id : ℕ
  portalAccountId : ℕ
  recordId : String
  dossierNumber : String
  insuredName : String
  procedure : String
  registration : String
  garage : String
  estimateAmountRaw : String
  portalStatus : String
  city : String
  observationCount : String
  agreementLogin : String
  detailsHref : String
  dates : DossierDates
  detailComplete : Bool
  detailError : Option String
  firstSeenAt : Datetime
  lastSeenAt : Datetime
  active : Bool
  /-- The column is a signed integer, but nothing that is ever stored in it is negative. -/
  missingCompletePolls : ℕ
  deriving Inhabited

structure Notification where
  id : ℕ
  dossierId : ℕ
  kind : NotificationKind
  detectedAt : Datetime
  deriving Inhabited

structure NotificationRead where
  notificationId : ℕ
  userId : ℕ
  seenAt : Datetime

structure DossierWork where
  dossierId : ℕ
  status : WorkStatus
  version : ℤ
  updatedBy : Option ℕ
  updatedAt : Datetime
  deriving DecidableEq

structure DossierNote where
  id : ℕ
  dossierId : ℕ
  authorId : ℕ
  body : String
  createdAt : Datetime

structure PollRun where
  id : ℕ
  portalAccountId : ℕ
  startedAt : Datetime
  completedAt : Option Datetime
  status : PollStatus
  rowsSeen : ℕ
  pagesSeen : ℕ
  detailsFailed : ℕ
  error : Option String
  deriving Inhabited

/-! ## What crosses the reader boundary -/

/-- Enough information to fetch a dossier's detail page. -/
structure PortalDossierRef where
  recordId : String
  detailsHref : String
  deriving DecidableEq

/-- One parsed row of the queue. -/
structure QueueRow where
  recordId : String
  dossierNumber : String
  insuredName : String
  procedure : String
  registration : String
  garage : String
  estimateAmountRaw : String
  portalStatus : String
  city : String
  observationCount : String
  agreementLogin : String
  detailsHref : String

structure QueueSnapshot where
  rows : List QueueRow := []
  pagesSeen : ℕ := 0

def QueueSnapshot.rowsSeen (s : QueueSnapshot) : ℕ := s.rows.length

structure DossierDetails where
  dates : DossierDates
  detailComplete : Bool
  detailError : Option String := none

/-- One row of the dashboard's table, already joined with work status and unread state. -/
structure DashboardRow where
  dossierId : ℕ
  dossierNumber : String
  insuredName : String
  registration : String
  garage : String
  portalStatus : String
  dateEnvoiDevisGarage : Option Datetime
  dateEnvoiDevisGarageRaw : String
  dateFinTravauxPrevue : Option Datetime
  dateFinTravauxPrevueRaw : String
  detectionTime : Datetime
  workStatus : WorkStatus
  unread : Bool
  deriving DecidableEq

structure SyncResult where
  status : Option PollStatus := none
  rowsSeen : ℕ := 0
  pagesSeen : ℕ := 0
  detailsFailed : ℕ := 0
  error : Option String := none
  created : ℕ := 0
  reactivated : ℕ := 0
  deactivated : ℕ := 0
  notificationsCreated : ℕ := 0
  skipped : Bool := false
  skipReason : Option String := none

/-! ## Exceptions -/

/-- What a step of the program may raise.  The classes that some `except` clause of the program
names have a constructor of their own; `exception` is every other subclass of `Exception`, and
`baseException` every other subclass of `BaseException` (`KeyboardInterrupt`, `SystemExit`, …).

A cancellation is delivered to a task either because somebody called `Task.cancel` or because the
`asyncio.timeout` around the statement expired; `byTimeout` tells which. -/
inductive Exn
  | portalAuthRequiredError (message : String)
  | portalReadError (message : String)
  | portalPartialReadError (message : String) (partialSnapshot : QueueSnapshot)
  | detailReadError (message : String)
  | browserProfileLockedError (message : String)
  | browserTeardownError (message : String)
  | workStatusConflict (dossierId : ℕ) (expectedVersion actualVersion : ℤ)
  | timeoutError (message : String)
  | filelockTimeout (message : String)
  | exception (typeName message : String)
  | cancelledError (byTimeout : Bool)
  | baseException (typeName message : String)

namespace Exn

/-- Whether the exception is caught by `except Exception`. -/
def isException : Exn → Bool
  | cancelledError _ => false
  | baseException _ _ => false
  | _ => true

/-- What a call that is not awaited raises when it fails: a cancellation is delivered at an `await`
only, so it is some `Exception`. -/
def fault (e : Exn) : Exn := if e.isException then e else exception "OSError" ""

theorem isException_fault (e : Exn) : e.fault.isException = true := by
  rw [fault]
  split
  · assumption
  · rfl

/-- `type(exc).__name__` -/
def typeName : Exn → String
  | portalAuthRequiredError _ => "PortalAuthRequiredError"
  | portalReadError _ => "PortalReadError"
  | portalPartialReadError _ _ => "PortalPartialReadError"
  | detailReadError _ => "DetailReadError"
  | browserProfileLockedError _ => "BrowserProfileLockedError"
  | browserTeardownError _ => "BrowserTeardownError"
  | workStatusConflict _ _ _ => "WorkStatusConflict"
  | timeoutError _ => "TimeoutError"
  | filelockTimeout _ => "Timeout"
  | exception typeName _ => typeName
  | cancelledError _ => "CancelledError"
  | baseException typeName _ => typeName

/-- `str(exc)` -/
def str : Exn → String
  | portalAuthRequiredError message => message
  | portalReadError message => message
  | portalPartialReadError message _ => message
  | detailReadError message => message
  | browserProfileLockedError message => message
  | browserTeardownError message => message
  | workStatusConflict dossierId expectedVersion actualVersion =>
    "dossier " ++ toString dossierId ++ ": expected version " ++ toString expectedVersion ++
      ", actual version " ++ toString actualVersion
  | timeoutError message => message
  | filelockTimeout message => message
  | exception _ message => message
  | cancelledError _ => ""
  | baseException _ message => message

end Exn

end RmaPortal
