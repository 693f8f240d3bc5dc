import RmaPortal.Requests

/-!
# Synchronization

`application/sync_service.py`: one poll of the queue (`execute`), the bounded check of a session
(`verifySession`) and the note that a login window could not be closed
(`markLoginTeardownFailed`).

The service knows the portal only through a `PortalReaderFactory`: four programs that find out
whether there is a saved session, open a reader, enter it and close it again.  Whatever they do,
they leave the database alone, which is what the fields `*_portal` of the structure say.  What an
open reader is asked for afterwards is a request, so that a run shows what the portal answered.

## What is here

* `shortError`, `asPortalRef`, `missingRequiredQuoteDate`, `failedDetails`, `skipped` — the small
  functions of the module, with the texts and limits of the source.
* The reconciliation transaction.  `createDossier`, `reactivateDossier` and `touchDossier` are the
  bodies of the three loops over seen dossiers, `applyAbsences` has the two loops over missing
  ones, and `reconcileBody` is the `with` block.  The dictionary of dossiers whose details are to
  be read is passed along as a table.
* The detail phase.  `saveDetails` is a transaction of its own for each dossier, `enrichDossier`
  the body of the loop, and `reconcileAndEnrich` both phases.
* One poll.  `readQueue`, `readAndReconcile` (the `try` block) and `pollBody` (with its
  `except Exception`), `startPoll`, `finishPoll` and `recordFailedPoll` for the books,
  `closeReader` for the bounded close, `pollWith` for a poll with an open reader, and
  `executeOnce` and `execute`.
* Checking a session: `checkSession`, `checkFailure`, `verifySession`.

`execute` as it is here is what a call does on its own.  That many calls share one poll is in
`Application.SharedQueue`, where the lock and the future are.

Log lines and timings are left out; a timeout shows as a cancellation or a `TimeoutError` that
comes from outside.
-/

set_option autoImplicit false

open Coroutine

namespace RmaPortal

/-- Requests that have nothing to do with the database or with what a reader reads. -/
def Request.IsPortal : Request → Prop
  | .portal _ => True
  | .now => True
  | _ => False

/-- How a portal reader is opened and closed.  `H` is what an open reader is held by. -/
structure PortalReaderFactory (H : Type) where
  hasSavedSession : Prog Bool
  /-- `open()` -/
  openReader : Prog Unit
  /-- `reader_cm.__aenter__()` -/
  aenter : Prog H
  /-- `reader_cm.__aexit__(None, None, None)` -/
  aexit : H → Prog Unit
  hasSavedSession_portal : Only Request.IsPortal hasSavedSession
  openReader_portal : Only Request.IsPortal openReader
  aenter_portal : Only Request.IsPortal aenter
  aexit_portal : ∀ h, Only Request.IsPortal (aexit h)

namespace SyncAgreementQueue

/-! ## Messages -/

def unconfirmedCleanupMessage : String :=
  "Le nettoyage du navigateur après synchronisation a échoué ou a expiré ; le profil " ++
  "reste indisponible jusqu'au redémarrage du Portail RMA."

def unconfirmedVerificationMessage : String :=
  "Le nettoyage du navigateur après vérification de session a échoué ou a expiré ; le profil " ++
  "reste indisponible jusqu'au redémarrage du Portail RMA."

def noAccountError : Exn := .exception "RuntimeError" "no portal account is configured"

def maxErrorLength : ℕ := 500

/-- A short technical message safe to store. -/
def shortError (exc : Exn) : String :=
  let message := if exc.str.isEmpty then exc.typeName else exc.typeName ++ ": " ++ exc.str
  String.ofList (message.toList.take maxErrorLength)

def asPortalRef (d : Dossier) : PortalDossierRef := ⟨d.recordId, d.detailsHref⟩

/-- True while the one required detail date has never been captured. -/
def missingRequiredQuoteDate (d : Dossier) : Bool := d.dates.dateEnvoiDevisGarage.isNone

def failedDetails (error : String) : DossierDetails :=
  { dates := {}, detailComplete := false, detailError := some error }

def skipped (reason : String) : SyncResult := { skipped := true, skipReason := some reason }

/-! ## The reconciliation transaction -/

section Reconciliation

variable (accountId : ℕ) (rowsById : Table QueueRow.recordId) (now : Datetime)

/-- `rows_by_id[record_id]` -/
def rowOf (recordId : String) : Prog QueueRow :=
  match rowsById.find? recordId with
  | some row => pure row
  | none => throw (.exception "KeyError" recordId)

/-- Raise a notification if the baseline has been completed; how many were raised. -/
def notify (createNotifications : Bool) (dossierId notified : ℕ) : Prog ℕ := do
  if createNotifications then
    let _ ← repo .reconciliation (.createNotification dossierId .newAgreementDossier now)
    pure (notified + 1)
  else pure notified

/-- The body of the loop over `to_create`. -/
def createDossier (createNotifications : Bool) (acc : Table Dossier.id × ℕ) (recordId : String) :
    Prog (Table Dossier.id × ℕ) := do
  let row ← rowOf rowsById recordId
  let dossier ← repo .reconciliation (.createFromRow accountId row now)
  let needing := acc.1.upsert dossier
  let notified ← notify now createNotifications dossier.id acc.2
  pure (needing, notified)

/-- The body of the loop over `to_reactivate`. -/
def reactivateDossier (createNotifications : Bool) (acc : Table Dossier.id × ℕ)
    (recordId : String) : Prog (Table Dossier.id × ℕ) := do
  let row ← rowOf rowsById recordId
  let dossier ← repo .reconciliation (.reactivate accountId row now)
  let needing := acc.1.upsert dossier
  let notified ← notify now createNotifications dossier.id acc.2
  pure (needing, notified)

/-- The body of the loop over `to_touch`. -/
def touchDossier (needing : Table Dossier.id) (recordId : String) : Prog (Table Dossier.id) := do
  let row ← rowOf rowsById recordId
  let (dossier, statusChanged) ← repo .reconciliation (.touch accountId row now)
  if statusChanged || missingRequiredQuoteDate dossier then pure (needing.upsert dossier)
  else pure needing

/-- The three loops over seen dossiers: the dossiers whose details are to be read, and how many
notifications were raised. -/
def applySeen (result : ReconciliationResult) (retry : List Dossier) :
    Prog (Table Dossier.id × ℕ) := do
  let acc ← forEach result.toCreate
    (createDossier accountId rowsById now result.createNotifications) (Table.ofList retry, 0)
  let acc ← forEach result.toReactivate
    (reactivateDossier accountId rowsById now result.createNotifications) acc
  let needing ← forEach result.toTouch (touchDossier accountId rowsById now) acc.1
  pure (needing, acc.2)

/-- The two loops over missing dossiers. -/
def applyAbsences (result : ReconciliationResult) : Prog Unit := do
  result.absenceIncrements.rows.foldlM (fun _ r ↦
    repo .reconciliation (.applyAbsenceIncrement accountId r.1 r.2)) ()
  forEach result.toDeactivate (fun _ recordId ↦
    repo .reconciliation (.deactivate accountId recordId)) ()

/-- `if result.is_baseline_poll: …` -/
def applyBaseline (result : ReconciliationResult) : Prog Unit :=
  if result.isBaselinePoll then repo .reconciliation (.markBaselineCompleted accountId now)
  else pure ()

/-- What the `with` block of `_reconcile_and_enrich` does before it commits. -/
def reconcileBody (status : PollStatus) (baselineAlreadyCompleted : Bool) :
    Prog (ReconciliationResult × Table Dossier.id × ℕ) := do
  let existing ← repo .reconciliation (.existingStateByAccount accountId)
  let result := reconcile
    { pollStatus := status
      baselineAlreadyCompleted := baselineAlreadyCompleted
      seenRecordIds := rowsById.keys
      existing := existing }
  -- read before anything changes: what this poll creates or reactivates is not in it
  let selected ← repo .reconciliation (.dossiersNeedingDetailRetry accountId)
  let retry ← ask (.selectOrder selected)
  let acc ← applySeen accountId rowsById now result retry.val
  applyAbsences accountId result
  applyBaseline accountId now result
  pure (result, acc)

/-- The `with` block: what was decided, the dossiers whose details are to be read, and how many
notifications were raised. -/
def reconcileTransaction (status : PollStatus) (baselineAlreadyCompleted : Bool) :
    Prog (ReconciliationResult × Table Dossier.id × ℕ) :=
  transaction .reconciliation
    (reconcileBody accountId rowsById now status baselineAlreadyCompleted)

end Reconciliation

/-! ## The detail phase -/

/-- Save the details of one dossier in a transaction of its own. -/
def saveDetails (d : Dossier) (details : DossierDetails) : Prog Unit :=
  transaction .detailSave (repo .detailSave (.saveDetails d.id details))

/-- The body of the loop over the dossiers whose details are to be read. -/
def enrichDossier (detailsFailed : ℕ) (d : Dossier) : Prog ℕ := do
  match ← (ask (.reader (.readDossierDetails (asPortalRef d)))).attempt with
  | .ok details =>
    saveDetails d details
    pure detailsFailed
  | .error (.detailReadError message) =>
    saveDetails d (failedDetails message)
    pure (detailsFailed + 1)
  | .error e => throw e

/-- What a poll found out and did. -/
structure PollReport where
  status : PollStatus
  error : Option String := none
  snapshot : QueueSnapshot := {}
  created : ℕ := 0
  reactivated : ℕ := 0
  deactivated : ℕ := 0
  notified : ℕ := 0
  detailsFailed : ℕ := 0

def reconcileAndEnrich (accountId : ℕ) (status : PollStatus) (error : Option String)
    (baselineAlreadyCompleted : Bool) (snapshot : QueueSnapshot) (now : Datetime) :
    Prog PollReport := do
  let (result, needing, notified) ← reconcileTransaction accountId (Table.ofList snapshot.rows) now
    status baselineAlreadyCompleted
  let detailsFailed ← needing.rows.foldlM enrichDossier 0
  pure
    { status := status, error := error, snapshot := snapshot
      created := result.toCreate.rows.length
      reactivated := result.toReactivate.rows.length
      deactivated := result.toDeactivate.rows.length
      notified := notified
      detailsFailed := detailsFailed }

/-! ## One poll -/

/-- The queue, and the status of a poll that read it so. -/
def readQueue : Prog (QueueSnapshot × PollStatus × Option String) := do
  match ← (ask (.reader .readAgreementQueue)).attempt with
  | .ok snapshot => pure (snapshot, .complete, none)
  | .error (.portalAuthRequiredError message) => pure ({}, .authRequired, some message)
  | .error (.portalPartialReadError message partialSnapshot) =>
    pure (partialSnapshot, .partialRead, some message)
  | .error (.portalReadError message) => pure ({}, .failed, some message)
  | .error e => throw e

/-- The `try` block of `_execute_once`. -/
def readAndReconcile (accountId : ℕ) (baselineAlreadyCompleted : Bool) (now : Datetime) :
    Prog PollReport := do
  let (snapshot, status, error) ← readQueue
  if status = .complete ∨ status = .partialRead then
    reconcileAndEnrich accountId status error baselineAlreadyCompleted snapshot now
  else pure { status := status, error := error, snapshot := snapshot }

/-- … with its `except Exception` clause. -/
def pollBody (accountId : ℕ) (baselineAlreadyCompleted : Bool) (now : Datetime) :
    Prog PollReport := do
  match ← (readAndReconcile accountId baselineAlreadyCompleted now).attempt with
  | .ok report => pure report
  | .error e =>
    if e.isException then pure { status := .failed, error := some (shortError e) } else throw e

/-- A poll that never got a reader at all: one FAILED row, created and finished in one
transaction. -/
def recordFailedPoll (accountId : ℕ) (startedAt : Datetime) (error : String) :
    Prog SyncResult := do
  let completedAt ← datetimeNow
  transaction .failedPoll do
    repo .failedPoll (.markPollStarted accountId startedAt)
    let pollRun ← repo .failedPoll (.startPollRun accountId startedAt)
    repo .failedPoll (.finishPollRun pollRun.id
      { status := .failed, completedAt := completedAt, rowsSeen := 0, pagesSeen := 0
        detailsFailed := 0, error := some error })
    repo .failedPoll (.markPollFinished accountId .failed completedAt (some error))
  pure { status := some .failed, error := some error }

/-- Record that a poll has started, and get the identifier of its `poll_runs` row. -/
def startPoll (accountId : ℕ) (now : Datetime) : Prog ℕ :=
  transaction .pollStart do
    repo .pollStart (.markPollStarted accountId now)
    let pollRun ← repo .pollStart (.startPollRun accountId now)
    pure pollRun.id

/-- Record how a poll ended. -/
def finishPoll (accountId pollRunId : ℕ) (report : PollReport) : Prog SyncResult := do
  let completedAt ← datetimeNow
  transaction .pollFinish do
    repo .pollFinish (.finishPollRun pollRunId
      { status := report.status, completedAt := completedAt
        rowsSeen := report.snapshot.rowsSeen, pagesSeen := report.snapshot.pagesSeen
        detailsFailed := report.detailsFailed, error := report.error })
    repo .pollFinish (.markPollFinished accountId report.status completedAt report.error)
  pure
    { status := some report.status
      rowsSeen := report.snapshot.rowsSeen
      pagesSeen := report.snapshot.pagesSeen
      detailsFailed := report.detailsFailed
      error := report.error
      created := report.created
      reactivated := report.reactivated
      deactivated := report.deactivated
      notificationsCreated := report.notified }

section Service

variable {H : Type} (F : PortalReaderFactory H)

/-- Bounded, best-effort close: whether it was confirmed to finish. -/
def closeReader (reader : H) : Prog Bool := do
  match ← (waitFor (F.aexit reader)).attempt with
  | .ok () => pure true
  | .error e => if e.isException then pure false else throw e

/-- A poll with an open reader. -/
def pollWith (reader : H) (accountId : ℕ) (baselineAlreadyCompleted : Bool) (now : Datetime) :
    Prog SyncResult := do
  match ← (startPoll accountId now).attempt with
  | .error e =>
    if e.isException then
      if ← closeReader F reader then recordFailedPoll accountId now (shortError e)
      else recordFailedPoll accountId now unconfirmedCleanupMessage
    else throw e
  | .ok pollRunId =>
    let (report, cleanupOk) ←
      (pollBody accountId baselineAlreadyCompleted now).tryFinally (closeReader F reader)
    -- an unconfirmed close overrides the outcome, but not what was counted
    let report := if cleanupOk then report
      else { report with status := .failed, error := some unconfirmedCleanupMessage }
    finishPoll accountId pollRunId report

/-- Identifier of the default account and whether its baseline is complete; `none` if it is
disabled. -/
def enabledAccount : Prog (Option (ℕ × Bool)) :=
  withUow .defaultAccount do
    match ← repo .defaultAccount .getDefault with
    | none => throw noAccountError
    | some account =>
      pure (if account.enabled then some (account.id, account.baselineCompletedAt.isSome) else none)

def executeOnce : Prog SyncResult := do
  let now ← datetimeNow
  match ← enabledAccount with
  | none => pure (skipped "portal account disabled")
  | some (accountId, baselineAlreadyCompleted) =>
    if !(← F.hasSavedSession) then pure (skipped "no saved OmegaFlow session")
    else
      match ← F.openReader.attempt with
      | .error (.browserProfileLockedError message) => pure (skipped message)
      | .error e => throw e
      | .ok () =>
        match ← F.aenter.attempt with
        | .error (.browserProfileLockedError message) => pure (skipped message)
        | .error e =>
          if e.isException then recordFailedPoll accountId now (shortError e) else throw e
        | .ok reader => pollWith F reader accountId baselineAlreadyCompleted now

/-- A call joins the poll in flight if there is one, and takes its result. -/
def execute : Prog SyncResult := do
  match ← ask .inflight with
  | some result => outcome result
  | none => executeOnce F

/-! ## Checking a session -/

def markSessionChecked (accountId : ℕ) (status : SessionStatus) (checkedAt : Datetime)
    (error : Option String) : Prog Unit :=
  transaction .sessionChecked
    (repo .sessionChecked (.markSessionChecked accountId status checkedAt error))

/-- What a failed step of the check is recorded as. -/
def checkFailure (timeoutMessage : String) : Exn → Prog (SessionStatus × Option String)
  | .timeoutError _ => pure (.error, some timeoutMessage)
  | .filelockTimeout _ => pure (.error, some timeoutMessage)
  | e => if e.isException then pure (.error, some (shortError e)) else throw e

/-- The check itself, on an open reader. -/
def checkAuthenticated (timeoutSeconds : ℕ) : Prog (SessionStatus × Option String) := do
  match ← (waitFor (ask (.reader .verifyAuthenticated))).attempt with
  | .ok () => pure (.ready, none)
  | .error (.portalAuthRequiredError message) => pure (.authRequired, some message)
  | .error e =>
    checkFailure ("Vérification de session interrompue après " ++ toString timeoutSeconds ++ "s.") e

/-- The `try … finally` of `verify_session`. -/
def checkSession (timeoutSeconds : ℕ) : Prog (SessionStatus × Option String) := do
  match ← (waitFor F.aenter).attempt with
  | .error (.browserProfileLockedError message) => pure (.error, some message)
  | .error e =>
    checkFailure ("Démarrage du navigateur interrompu après " ++ toString timeoutSeconds ++ "s.") e
  | .ok reader =>
    let (checked, cleanupOk) ← (checkAuthenticated timeoutSeconds).tryFinally (closeReader F reader)
    -- an unconfirmed close overrides whatever the check found
    pure (if cleanupOk then checked else (.error, some unconfirmedVerificationMessage))

def verifySession (timeoutSeconds : ℕ) : Prog Bool := do
  let now ← datetimeNow
  let account ← withUow .defaultAccount (repo .defaultAccount .getDefault)
  match account with
  | none => throw noAccountError
  | some account =>
    match ← F.openReader.attempt with
    | .error (.browserProfileLockedError message) =>
      markSessionChecked account.id .error now (some message)
      pure false
    | .error e => throw e
    | .ok () =>
      let (status, error) ← checkSession F timeoutSeconds
      markSessionChecked account.id status now error
      pure (status = .ready)

end Service

def markLoginTeardownFailed (message : String) : Prog Unit := do
  let account ← withUow .defaultAccount (repo .defaultAccount .getDefault)
  match account with
  | none => pure ()
  | some account =>
    let now ← datetimeNow
    markSessionChecked account.id .error now (some message)

end SyncAgreementQueue

end RmaPortal
