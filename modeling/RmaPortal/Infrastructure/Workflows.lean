import RmaPortal.Data.Query
import RmaPortal.Infrastructure.Employees

/-!
# Workflows

The tables of the multi-workflow migration, and the repository method that reads the lifecycle of
the dossiers in a workflow.  What a dossier goes through in one queue of the portal is no longer a
matter of the dossier alone, but of its membership in the queue's workflow.

## What is here

* `InitialDatabase` — a state of the database with the initial schema, with every constraint of
  it.
* `WorkflowRulesStatus`, `Workflow`, `WorkflowMembership` — the entities.  A workflow is one queue
  of the portal, with a poll state of its own.
* `Workflow.accountKey`, `WorkflowMembership.workflowDossier` — what the unique constraints of the
  two tables are about.
* `WithWorkflows`, `WithMemberships` — the database with one table more, and with both.  The
  migration creates them one after the other, and fills each of them before it goes on.
* `existingStateByWorkflow` — what the synchronizer will ask for instead of
  `existingStateByAccount`.

The migration itself is in `Migration.MultiWorkflow`.
-/

set_option autoImplicit false

namespace RmaPortal

/-- `MAX_NOTE_LENGTH` -/
def maxNoteLength : ℕ := 2000

/-- A state of the database with the initial schema, with all its constraints. -/
structure InitialDatabase extends EmployeeDatabase where
  /-- The foreign key of `dossiers.portal_account_id`. -/
  dossiers_account : ∀ d ∈ dossiers.rows, (portalAccounts.find? d.portalAccountId).isSome
  /-- The foreign key of `poll_runs.portal_account_id`. -/
  pollRuns_account : ∀ r ∈ pollRuns.rows, (portalAccounts.find? r.portalAccountId).isSome
  /-- The foreign key of `dossier_notes.dossier_id`. -/
  dossierNotes_dossier : ∀ n ∈ dossierNotes.rows, (dossiers.find? n.dossierId).isSome
  /-- The foreign key of `dossier_notes.author_id`. -/
  dossierNotes_author : ∀ n ∈ dossierNotes.rows, (users.find? n.authorId).isSome
  /-- `ck_note_max_length` -/
  dossierNotes_body : ∀ n ∈ dossierNotes.rows, n.body.length ≤ maxNoteLength
  /-- The foreign key of `dossier_work.updated_by`. -/
  dossierWork_updatedBy :
    ∀ w ∈ dossierWork.rows, ∀ userId, w.updatedBy = some userId → (users.find? userId).isSome

/-! ## The new tables -/

inductive WorkflowRulesStatus
  | unconfirmed | confirmed
  deriving DecidableEq

/-- One queue of the portal, with a poll state of its own. -/
structure Workflow where
  id : ℕ
  portalAccountId : ℕ
  key : String
  name : String
  category : String
  route : String
  viewId : String
  enabled : Bool
  sortOrder : ℤ
  rulesStatus : WorkflowRulesStatus
  baselineCompletedAt : Option Datetime
  lastPollAt : Option Datetime
  lastSuccessAt : Option Datetime
  lastError : Option String

/-- What `uq_workflow_account_key` is about. -/
def Workflow.accountKey (w : Workflow) : ℕ × String := (w.portalAccountId, w.key)

/-- What a dossier goes through in one workflow: a row of `workflow_memberships`. -/
structure WorkflowMembership where
  id : ℕ
  workflowId : ℕ
  dossierId : ℕ
  firstSeenAt : Datetime
  lastSeenAt : Datetime
  active : Bool
  missingCompletePolls : ℕ
  occurrenceNumber : ℕ
  capturedFieldsJson : String
  fingerprint : String
  lastChangedAt : Option Datetime

/-- What `uq_membership_workflow_dossier` is about. -/
def WorkflowMembership.workflowDossier (m : WorkflowMembership) : ℕ × ℕ :=
  (m.workflowId, m.dossierId)

/-- A database with the `workflows` table. -/
structure WithWorkflows extends InitialDatabase where
  workflows : UniqueTable Workflow.id Workflow.accountKey
  /-- The foreign key of `workflows.portal_account_id`. -/
  workflows_account : ∀ w ∈ workflows.rows, (portalAccounts.find? w.portalAccountId).isSome

/-- A database with the `workflow_memberships` table as well. -/
structure WithMemberships extends WithWorkflows where
  workflowMemberships : UniqueTable WorkflowMembership.id WorkflowMembership.workflowDossier
  /-- The foreign key of `workflow_memberships.workflow_id`. -/
  workflowMemberships_workflow :
    ∀ m ∈ workflowMemberships.rows, (workflows.find? m.workflowId).isSome
  /-- The foreign key of `workflow_memberships.dossier_id`. -/
  workflowMemberships_dossier :
    ∀ m ∈ workflowMemberships.rows, (dossiers.find? m.dossierId).isSome

/-! ## The repository -/

namespace WorkflowMembershipRepository

/-- The states of the dossiers in a workflow.  The rows come in any order. -/
def existingStateByWorkflow (order : RowOrder (WorkflowMembership × Dossier)) (workflowId : ℕ)
    (db : WithMemberships) : Table ExistingDossierState.recordId :=
  let joined := innerJoin (fun m d ↦ decide (d.id = m.dossierId)) db.workflowMemberships.rows
    db.dossiers.rows
  .ofList ((order.sort (joined.filter fun p ↦ p.1.workflowId == workflowId)).map fun p ↦
    ⟨p.2.recordId, p.1.active, p.1.missingCompletePolls⟩)

end WorkflowMembershipRepository

end RmaPortal
