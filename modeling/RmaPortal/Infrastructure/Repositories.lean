import RmaPortal.Domain.SyncRules
import RmaPortal.Infrastructure.Database

/-!
# The repositories

The repository methods of `infrastructure/db/repositories.py` that synchronization uses, as
functions of the database.  A method that only reads takes the database; one that writes returns
the new database, or the exception that violating a constraint raises.

The session is created with `autoflush=False`, but every object a method changes is the one the
identity map hands out to the methods after it, so within one unit of work a method sees the
changes of those before it.

## What is here

* Portal accounts: `getDefault`, and what is noted when a poll starts, when it is finished, and
  when the session has been checked.  `sessionStatusOf` is the one place where the outcome of a
  poll is turned into a status of the session.
* Dossiers: what `create_from_row`, `touch`, `reactivate`, `save_details` and the two methods for
  absences make of a row are functions of that row (`created`, `touched`, `reactivated`,
  `detailed`, `missed`, `deactivated`).  `edit` finds the row by account and record identifier and
  raises the `LookupError` if there is none.
* Notifications and poll runs.  `finish` is given all that it writes as one `Outcome`.
* `Repo` names the methods, one constructor each, so that a unit of work is a sequence of `Repo`
  requests; `Repo.run` is what a request does to the database.

The methods that only the web application calls are with the services that call them, and the
query of the dashboard is in `Infrastructure/DashboardQuery.lean`.
-/

set_option autoImplicit false

namespace RmaPortal

/-! ## Portal accounts -/

namespace PortalAccountRepository

/-- `SELECT … ORDER BY id LIMIT 1` -/
def getDefault (db : Database) : Option PortalAccount := db.portalAccounts.first

def markPollStarted (accountId : ℕ) (startedAt : Datetime) (db : Database) : Database :=
  { db with
    portalAccounts := db.portalAccounts.update accountId
      (fun row ↦ { row with lastPollAt := some startedAt }) fun _ ↦ rfl }

/-- The session status that the outcome of a poll stands for. -/
def sessionStatusOf : PollStatus → SessionStatus
  | .complete => .ready
  | .partialRead => .ready
  | .authRequired => .authRequired
  | .failed => .error

def markPollFinished (accountId : ℕ) (status : PollStatus) (polledAt : Datetime)
    (error : Option String) (db : Database) : Database :=
  { db with
    portalAccounts := db.portalAccounts.update accountId
      (fun row ↦
        { row with
          lastPollAt := some polledAt
          lastError := error
          lastSuccessAt := if status = .complete then some polledAt else row.lastSuccessAt
          sessionStatus := sessionStatusOf status }) fun _ ↦ rfl }

def markBaselineCompleted (accountId : ℕ) (completedAt : Datetime) (db : Database) : Database :=
  { db with
    portalAccounts := db.portalAccounts.update accountId
      (fun row ↦
        { row with
          baselineCompletedAt :=
            if row.baselineCompletedAt = none then some completedAt
            else row.baselineCompletedAt }) fun _ ↦ rfl }

def markSessionChecked (accountId : ℕ) (status : SessionStatus) (checkedAt : Datetime)
    (error : Option String) (db : Database) : Database :=
  { db with
    portalAccounts := db.portalAccounts.update accountId
      (fun row ↦
        { row with
          lastPollAt := some checkedAt
          lastError := error
          sessionStatus := status }) fun _ ↦ rfl }

end PortalAccountRepository

/-! ## Dossiers -/

/-- Copy the columns of the list page. -/
def applyRowFields (d : Dossier) (row : QueueRow) : Dossier :=
  { d with
    dossierNumber := row.dossierNumber
    insuredName := row.insuredName
    procedure := row.procedure
    registration := row.registration
    garage := row.garage
    estimateAmountRaw := row.estimateAmountRaw
    portalStatus := row.portalStatus
    city := row.city
    observationCount := row.observationCount
    agreementLogin := row.agreementLogin
    detailsHref := row.detailsHref }

namespace DossierRepository

def existingStateByAccount (accountId : ℕ) (db : Database) : Table ExistingDossierState.recordId :=
  .ofList ((db.dossiers.rows.filter fun d ↦ d.portalAccountId == accountId).map fun d ↦
    ⟨d.recordId, d.active, d.missingCompletePolls⟩)

/-- The new row of `create_from_row`. -/
def created (id accountId : ℕ) (row : QueueRow) (now : Datetime) : Dossier :=
  applyRowFields
    { id := id
      portalAccountId := accountId
      recordId := row.recordId
      dossierNumber := "", insuredName := "", procedure := "", registration := "", garage := ""
      estimateAmountRaw := "", portalStatus := "", city := "", observationCount := ""
      agreementLogin := "", detailsHref := ""
      dates := {}
      detailComplete := false
      detailError := none
      firstSeenAt := now
      lastSeenAt := now
      active := true
      missingCompletePolls := 0 } row

/-- Insert the dossier and, once it has its identifier, its work row. -/
def createFromRow (accountId : ℕ) (row : QueueRow) (now : Datetime) (db : Database) :
    Except Exn (Dossier × Database) := do
  let d := created db.dossiers.fresh accountId row now
  let db ← db.insertDossier d db.dossiers.find?_fresh
  let db ← db.insertWork
    { dossierId := d.id, status := .toDo, version := 1, updatedBy := none, updatedAt := now }
  pure (d, db)

/-- What `touch` does to the row it finds. -/
def touched (row : QueueRow) (now : Datetime) : Dossier.Edit where
  apply d := { applyRowFields d row with lastSeenAt := now, missingCompletePolls := 0 }
  id_apply _ := rfl
  recordKey_apply _ := rfl

/-- What `reactivate` does to the row it finds. -/
def reactivated (row : QueueRow) (now : Datetime) : Dossier.Edit where
  apply d :=
    { applyRowFields d row with
      active := true
      missingCompletePolls := 0
      lastSeenAt := now
      detailComplete := false
      detailError := none }
  id_apply _ := rfl
  recordKey_apply _ := rfl

/-- `raise LookupError(…)` -/
def notFound (accountId : ℕ) (recordId : String) : Exn :=
  .exception "LookupError" ("dossier " ++ recordId ++ " not found for account " ++
    toString accountId)

/-- The updated dossier, and whether its status on the portal changed. -/
def touch (accountId : ℕ) (row : QueueRow) (now : Datetime) (db : Database) :
    Except Exn ((Dossier × Bool) × Database) :=
  match db.dossier accountId row.recordId with
  | none => .error (notFound accountId row.recordId)
  | some d =>
    .ok (((touched row now).apply d, d.portalStatus != row.portalStatus),
      db.mapDossiers ((touched row now).at d.id))

def reactivate (accountId : ℕ) (row : QueueRow) (now : Datetime) (db : Database) :
    Except Exn (Dossier × Database) :=
  match db.dossier accountId row.recordId with
  | none => .error (notFound accountId row.recordId)
  | some d => .ok ((reactivated row now).apply d, db.mapDossiers ((reactivated row now).at d.id))

/-- `missing_complete_polls = count` -/
def missed (count : ℕ) : Dossier.Edit where
  apply d := { d with missingCompletePolls := count }
  id_apply _ := rfl
  recordKey_apply _ := rfl

/-- `active = False` -/
def deactivated : Dossier.Edit where
  apply d := { d with active := false }
  id_apply _ := rfl
  recordKey_apply _ := rfl

/-- Edit the dossier of an account with a record identifier, if there is one. -/
def edit (accountId : ℕ) (recordId : String) (e : Dossier.Edit) (db : Database) : Database :=
  match db.dossier accountId recordId with
  | none => db
  | some d => db.mapDossiers (e.at d.id)

def applyAbsenceIncrement (accountId : ℕ) (recordId : String) (count : ℕ) (db : Database) :
    Database := edit accountId recordId (missed count) db

def deactivate (accountId : ℕ) (recordId : String) (db : Database) : Database :=
  edit accountId recordId deactivated db

/-- What `save_details` does to the row it finds. -/
def detailed (details : DossierDetails) : Dossier.Edit where
  apply d :=
    { d with
      dates := details.dates
      detailComplete := details.detailComplete
      detailError := details.detailError }
  id_apply _ := rfl
  recordKey_apply _ := rfl

def saveDetails (dossierId : ℕ) (details : DossierDetails) (db : Database) : Database :=
  db.mapDossiers ((detailed details).at dossierId)

/-- The active dossiers without complete details.  The query names no order. -/
def dossiersNeedingDetailRetry (accountId : ℕ) (db : Database) : List Dossier :=
  db.dossiers.rows.filter fun d ↦
    d.portalAccountId == accountId && d.active && !d.detailComplete

end DossierRepository

/-! ## Notifications and poll runs -/

namespace NotificationRepository

def create (dossierId : ℕ) (kind : NotificationKind) (detectedAt : Datetime) (db : Database) :
    Except Exn (Notification × Database) := do
  let n : Notification :=
    { id := db.notifications.fresh, dossierId := dossierId, kind := kind, detectedAt := detectedAt }
  let db ← db.insertNotification n db.notifications.find?_fresh
  pure (n, db)

end NotificationRepository

namespace PollRunRepository

/-- A run is FAILED until it is finished. -/
def start (accountId : ℕ) (startedAt : Datetime) (db : Database) : PollRun × Database :=
  let run : PollRun :=
    { id := db.pollRuns.fresh, portalAccountId := accountId, startedAt := startedAt
      completedAt := none, status := .failed, rowsSeen := 0, pagesSeen := 0, detailsFailed := 0
      error := none }
  (run, { db with pollRuns := db.pollRuns.append run db.pollRuns.find?_fresh })

/-- What `finish` writes. -/
structure Outcome where
  status : PollStatus
  completedAt : Datetime
  rowsSeen : ℕ
  pagesSeen : ℕ
  detailsFailed : ℕ
  error : Option String

def finish (pollRunId : ℕ) (o : Outcome) (db : Database) : Except Exn Database :=
  match db.pollRuns.find? pollRunId with
  | none => .error (.exception "LookupError" ("poll run " ++ toString pollRunId ++ " not found"))
  | some _ =>
    .ok { db with
      pollRuns := db.pollRuns.update pollRunId
        (fun run ↦
          { run with
            status := o.status
            completedAt := some o.completedAt
            rowsSeen := o.rowsSeen
            pagesSeen := o.pagesSeen
            detailsFailed := o.detailsFailed
            error := o.error }) fun _ ↦ rfl }

end PollRunRepository

/-! ## The methods as requests -/

/-- A call of a repository method. -/
inductive Repo
  | getDefault
  | markPollStarted (accountId : ℕ) (startedAt : Datetime)
  | markPollFinished (accountId : ℕ) (status : PollStatus) (polledAt : Datetime)
      (error : Option String)
  | markBaselineCompleted (accountId : ℕ) (completedAt : Datetime)
  | markSessionChecked (accountId : ℕ) (status : SessionStatus) (checkedAt : Datetime)
      (error : Option String)
  | startPollRun (accountId : ℕ) (startedAt : Datetime)
  | finishPollRun (pollRunId : ℕ) (o : PollRunRepository.Outcome)
  | existingStateByAccount (accountId : ℕ)
  | dossiersNeedingDetailRetry (accountId : ℕ)
  | createFromRow (accountId : ℕ) (row : QueueRow) (now : Datetime)
  | touch (accountId : ℕ) (row : QueueRow) (now : Datetime)
  | reactivate (accountId : ℕ) (row : QueueRow) (now : Datetime)
  | applyAbsenceIncrement (accountId : ℕ) (recordId : String) (count : ℕ)
  | deactivate (accountId : ℕ) (recordId : String)
  | saveDetails (dossierId : ℕ) (details : DossierDetails)
  | createNotification (dossierId : ℕ) (kind : NotificationKind) (detectedAt : Datetime)

/-- What a method returns. -/
abbrev Repo.Val : Repo → Type
  | getDefault => Option PortalAccount
  | startPollRun _ _ => PollRun
  | existingStateByAccount _ => Table ExistingDossierState.recordId
  | dossiersNeedingDetailRetry _ => List Dossier
  | createFromRow _ _ _ => Dossier
  | touch _ _ _ => Dossier × Bool
  | reactivate _ _ _ => Dossier
  | createNotification _ _ _ => Notification
  | _ => Unit

/-- What a method does. -/
def Repo.run : (op : Repo) → Database → Except Exn (op.Val × Database)
  | getDefault, db => .ok (PortalAccountRepository.getDefault db, db)
  | markPollStarted a t, db => .ok ((), PortalAccountRepository.markPollStarted a t db)
  | markPollFinished a s t e, db => .ok ((), PortalAccountRepository.markPollFinished a s t e db)
  | markBaselineCompleted a t, db => .ok ((), PortalAccountRepository.markBaselineCompleted a t db)
  | markSessionChecked a s t e, db =>
    .ok ((), PortalAccountRepository.markSessionChecked a s t e db)
  | startPollRun a t, db => .ok (PollRunRepository.start a t db)
  | finishPollRun i o, db => (PollRunRepository.finish i o db).map ((), ·)
  | existingStateByAccount a, db => .ok (DossierRepository.existingStateByAccount a db, db)
  | dossiersNeedingDetailRetry a, db => .ok (DossierRepository.dossiersNeedingDetailRetry a db, db)
  | createFromRow a row now, db => DossierRepository.createFromRow a row now db
  | touch a row now, db => DossierRepository.touch a row now db
  | reactivate a row now, db => DossierRepository.reactivate a row now db
  | applyAbsenceIncrement a r n, db => .ok ((), DossierRepository.applyAbsenceIncrement a r n db)
  | deactivate a r, db => .ok ((), DossierRepository.deactivate a r db)
  | saveDetails i d, db => .ok ((), DossierRepository.saveDetails i d db)
  | createNotification i k t, db => NotificationRepository.create i k t db

end RmaPortal
