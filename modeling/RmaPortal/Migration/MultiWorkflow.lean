import RmaPortal.Infrastructure.Workflows
import RmaPortal.Synchronization.Reconciliation

/-!
# The multi-workflow migration

`upgrade` adds a workflow to every account and a membership to every dossier, as
`alembic/versions/8f3b2a1d7c40_multi_workflow_foundation.py` does: two tables are created, and
each is filled with one `INSERT … SELECT`.  `downgrade` drops them again.

The upgrade never fails, and it preserves the lifecycle (`upgrade_preserves`): what the
synchronization would find out about an account's dossiers is what it finds out about the members
of the account's workflow.  That nothing is lost, doubled or put under a foreign account comes
from the constraints: the workflow of a dossier's account exists because the account does, and
there is one of it because it is unique (`MultiWorkflow.Populated.garage`).

## What is here

* `workflowOf`, `membershipOf` — the rows that the two statements select, with the text and the
  order number of the workflow, and with the columns of the dossier that the membership takes.
* `createWorkflows`, `insertWorkflows`, `createMemberships`, `insertMemberships` — the four
  statements; each insert may fail, and then the whole migration does.  The queries name no order,
  so their rows come in any.
* `Populated` and `insertWorkflows_ok` — what the first insert leaves, and that it violates no
  constraint.
* `Enrolled` and `Populated.insertMemberships_ok` — the same for the second one.  The join of
  dossiers and workflows has one row for each dossier, because there is one workflow for each
  account.
* `Enrolled.membership` — each dossier has one membership, which says of it what the dossier says
  itself and belongs to the workflow of its account; `Enrolled.of_mem` is the converse.
* `Enrolled.find?_existingStateByWorkflow` — what the synchronization looks at, in both schemas.
* `LifecyclePreserved` and `upgrade_preserves` — all of it, for every database of the initial
  schema, with the way back.

`CREATE TABLE` and `DROP TABLE` are type changes here: an `InitialDatabase` has no such tables, so
nothing can be said of them too early.
-/

set_option autoImplicit false

namespace RmaPortal

namespace MultiWorkflow

/-! ## The steps of the migration -/

/-- The key of the workflow that every account gets. -/
def agreementGarage : String := "agreement_garage"

/-- The row that the first `INSERT` selects for an account. -/
def workflowOf (id : ℕ) (a : PortalAccount) : Workflow where
  id := id
  portalAccountId := a.id
  key := agreementGarage
  name := "Instance d'accord - Garage agréé"
  category := "Dossiers en instance d'accord"
  route := "#dossiers-en-instance-accord/"
  viewId := "view_1874"
  enabled := true
  sortOrder := 10
  rulesStatus := .unconfirmed
  baselineCompletedAt := a.baselineCompletedAt
  lastPollAt := a.lastPollAt
  lastSuccessAt := a.lastSuccessAt
  lastError := a.lastError

/-- The row that the second `INSERT` selects for a dossier and a workflow. -/
def membershipOf (id : ℕ) (p : Dossier × Workflow) : WorkflowMembership where
  id := id
  workflowId := p.2.id
  dossierId := p.1.id
  firstSeenAt := p.1.firstSeenAt
  lastSeenAt := p.1.lastSeenAt
  active := p.1.active
  missingCompletePolls := p.1.missingCompletePolls
  occurrenceNumber := 1
  capturedFieldsJson := "{}"
  fingerprint := ""
  lastChangedAt := none

/-- `CREATE TABLE workflows` -/
def createWorkflows (db : InitialDatabase) : WithWorkflows where
  toInitialDatabase := db
  workflows := .empty
  workflows_account := by simp [UniqueTable.empty, Table.empty]

/-- The `workflows` table with a row more for each account. -/
def backfilledWorkflows (order : RowOrder PortalAccount) (db : WithWorkflows) :
    Table Workflow.id :=
  .insertSelect workflowOf (fun _ _ ↦ rfl) (order.sort db.portalAccounts.rows) db.workflows.toTable

/-- `INSERT INTO workflows … SELECT … FROM portal_accounts`, with the accounts in some order.  The
unique constraint and the foreign key are checked. -/
def insertWorkflows (order : RowOrder PortalAccount) (db : WithWorkflows) :
    Except Exn WithWorkflows :=
  let table := backfilledWorkflows order db
  if h : (table.rows.map Workflow.accountKey).Nodup ∧
      ∀ w ∈ table.rows, (db.portalAccounts.find? w.portalAccountId).isSome then
    .ok { db with workflows := ⟨table, h.1⟩, workflows_account := h.2 }
  else .error Database.integrityError

/-- `CREATE TABLE workflow_memberships` -/
def createMemberships (db : WithWorkflows) : WithMemberships where
  toWithWorkflows := db
  workflowMemberships := .empty
  workflowMemberships_workflow := by simp [UniqueTable.empty, Table.empty]
  workflowMemberships_dossier := by simp [UniqueTable.empty, Table.empty]

/-- `dossiers JOIN workflows ON workflows.portal_account_id = dossiers.portal_account_id AND
workflows.key = 'agreement_garage'` -/
def dossiersWithWorkflows (db : WithWorkflows) : List (Dossier × Workflow) :=
  innerJoin (fun d w ↦ decide (w.portalAccountId = d.portalAccountId ∧ w.key = agreementGarage))
    db.dossiers.rows db.workflows.rows

/-- The `workflow_memberships` table with a row more for each row of the join. -/
def backfilledMemberships (order : RowOrder (Dossier × Workflow)) (db : WithMemberships) :
    Table WorkflowMembership.id :=
  .insertSelect membershipOf (fun _ _ ↦ rfl) (order.sort (dossiersWithWorkflows db.toWithWorkflows))
    db.workflowMemberships.toTable

/-- `INSERT INTO workflow_memberships … SELECT … FROM dossiers JOIN workflows …`.  The unique
constraint and the foreign keys are checked. -/
def insertMemberships (order : RowOrder (Dossier × Workflow)) (db : WithMemberships) :
    Except Exn WithMemberships :=
  let table := backfilledMemberships order db
  if h : (table.rows.map WorkflowMembership.workflowDossier).Nodup ∧
      (∀ m ∈ table.rows, (db.workflows.find? m.workflowId).isSome) ∧
        ∀ m ∈ table.rows, (db.dossiers.find? m.dossierId).isSome then
    .ok { db with
      workflowMemberships := ⟨table, h.1⟩
      workflowMemberships_workflow := h.2.1
      workflowMemberships_dossier := h.2.2 }
  else .error Database.integrityError

/-- `DROP TABLE workflow_memberships` -/
def dropMemberships (db : WithMemberships) : WithWorkflows := db.toWithWorkflows

/-- `DROP TABLE workflows`, to which nothing refers any more. -/
def dropWorkflows (db : WithWorkflows) : InitialDatabase := db.toInitialDatabase

end MultiWorkflow

open MultiWorkflow

/-- The migration.  The queries name no order, so their rows may come in any. -/
def upgrade (accounts : RowOrder PortalAccount) (joined : RowOrder (Dossier × Workflow))
    (db : InitialDatabase) : Except Exn WithMemberships := do
  let db ← insertWorkflows accounts (createWorkflows db)
  insertMemberships joined (createMemberships db)

/-- The way back. -/
def downgrade (db : WithMemberships) : InitialDatabase := dropWorkflows (dropMemberships db)

/-! ## The workflows -/

namespace MultiWorkflow

/-- What the first `INSERT` leaves: the workflows are those of the accounts. -/
structure Populated (db : InitialDatabase) (db₁ : WithWorkflows) : Prop where
  same : db₁.toInitialDatabase = db
  sound : ∀ w ∈ db₁.workflows.rows, ∃ a ∈ db.portalAccounts.rows, w = workflowOf w.id a
  complete : ∀ a ∈ db.portalAccounts.rows, ∃ id, workflowOf id a ∈ db₁.workflows.rows

/-- Inserting the workflows violates no constraint. -/
theorem insertWorkflows_ok (order : RowOrder PortalAccount) (db : InitialDatabase) :
    ∃ db₁, insertWorkflows order (createWorkflows db) = .ok db₁ ∧ Populated db db₁ := by
  have hkeys : (backfilledWorkflows order (createWorkflows db)).rows.map Workflow.accountKey =
      (order.sort db.portalAccounts.rows).map fun a ↦ (a.id, agreementGarage) :=
    Table.map_insertSelect workflowOf _ _ _ (fun _ _ ↦ rfl) _ _
  have hunique : ((backfilledWorkflows order (createWorkflows db)).rows.map
      Workflow.accountKey).Nodup := by
    rw [hkeys, ((order.perm _).map _).nodup_iff]
    refine List.Nodup.of_map Prod.fst ?_
    rw [List.map_map]
    exact db.portalAccounts.nodup
  have hsound : ∀ w ∈ (backfilledWorkflows order (createWorkflows db)).rows,
      ∃ a ∈ db.portalAccounts.rows, w = workflowOf w.id a := by
    intro w hw
    obtain hold | ⟨a, ha, hw⟩ := Table.of_mem_insertSelect workflowOf _ hw
    · cases hold
    · exact ⟨a, RowOrder.mem_sort.mp ha, hw⟩
  have haccount : ∀ w ∈ (backfilledWorkflows order (createWorkflows db)).rows,
      (db.portalAccounts.find? w.portalAccountId).isSome := by
    intro w hw
    obtain ⟨a, ha, hw⟩ := hsound w hw
    rw [hw, Table.find?_isSome]
    exact List.mem_map_of_mem ha
  exact ⟨_, dif_pos ⟨hunique, haccount⟩, rfl, hsound, fun a ha ↦
    Table.exists_mem_insertSelect workflowOf _ (RowOrder.mem_sort.mpr ha)⟩

/-- What the second `INSERT` leaves: the memberships are those of the dossiers, each in the workflow
of its account. -/
structure Enrolled (db : InitialDatabase) (db₂ : WithMemberships) : Prop where
  populated : Populated db db₂.toWithWorkflows
  sound : ∀ m ∈ db₂.workflowMemberships.rows, ∃ p ∈ dossiersWithWorkflows db₂.toWithWorkflows,
    m = membershipOf m.id p
  complete : ∀ p ∈ dossiersWithWorkflows db₂.toWithWorkflows,
    ∃ id, membershipOf id p ∈ db₂.workflowMemberships.rows
  dossierIds : (db₂.workflowMemberships.rows.map WorkflowMembership.dossierId).Nodup

section Populated

variable {db : InitialDatabase} {db₁ : WithWorkflows} (h : Populated db db₁)

include h

/-- **Each account has one workflow**, and it is that of the account. -/
theorem Populated.garage {a : PortalAccount} (ha : a ∈ db.portalAccounts.rows) :
    ∃ w, w = workflowOf w.id a ∧ db₁.workflows.rows.filter (fun w ↦
      decide (w.portalAccountId = a.id ∧ w.key = agreementGarage)) = [w] := by
  obtain ⟨id, hid⟩ := h.complete a ha
  refine ⟨workflowOf id a, rfl, ?_⟩
  rw [← filter_key_eq_singleton db₁.workflows.unique hid]
  refine List.filter_congr fun w _ ↦ ?_
  rw [decide_eq_decide, Workflow.accountKey, Workflow.accountKey, Prod.mk.injEq]
  rfl

/-- Each dossier has one partner in the join. -/
theorem Populated.partner {d : Dossier} (hd : d ∈ db.dossiers.rows) :
    ∃ w, db₁.workflows.rows.filter (fun w ↦
      decide (w.portalAccountId = d.portalAccountId ∧ w.key = agreementGarage)) = [w] := by
  obtain ⟨a, ha⟩ := Option.isSome_iff_exists.mp (db.dossiers_account d hd)
  obtain ⟨w, -, hw⟩ := h.garage (Table.mem_of_find? ha)
  rw [Table.key_of_find? ha] at hw
  exact ⟨w, hw⟩

/-- The join has one row for each dossier. -/
theorem Populated.map_fst_joined : (dossiersWithWorkflows db₁).map Prod.fst = db.dossiers.rows := by
  have hdossiers : db₁.dossiers.rows = db.dossiers.rows := by rw [h.same]
  rw [dossiersWithWorkflows, hdossiers]
  exact map_fst_innerJoin fun d hd ↦ h.partner hd

/-- Inserting the memberships violates no constraint. -/
theorem Populated.insertMemberships_ok (order : RowOrder (Dossier × Workflow)) :
    ∃ db₂, insertMemberships order (createMemberships db₁) = .ok db₂ ∧ Enrolled db db₂ := by
  have hids : (backfilledMemberships order (createMemberships db₁)).rows.map
      WorkflowMembership.dossierId =
        (order.sort (dossiersWithWorkflows db₁)).map fun p ↦ p.1.id :=
    Table.map_insertSelect membershipOf _ _ _ (fun _ _ ↦ rfl) _ _
  have hdossierIds : ((backfilledMemberships order (createMemberships db₁)).rows.map
      WorkflowMembership.dossierId).Nodup := by
    have hjoined : (dossiersWithWorkflows db₁).map (fun p ↦ p.1.id) =
        db.dossiers.rows.map Dossier.id := by
      rw [← h.map_fst_joined, List.map_map]
      rfl
    rw [hids, ((order.perm _).map _).nodup_iff, hjoined]
    exact db.dossiers.nodup
  have hunique : ((backfilledMemberships order (createMemberships db₁)).rows.map
      WorkflowMembership.workflowDossier).Nodup := by
    refine List.Nodup.of_map Prod.snd ?_
    rw [List.map_map]
    exact hdossierIds
  have hsound : ∀ m ∈ (backfilledMemberships order (createMemberships db₁)).rows,
      ∃ p ∈ dossiersWithWorkflows db₁, m = membershipOf m.id p := by
    intro m hm
    obtain hold | ⟨p, hp, hm⟩ := Table.of_mem_insertSelect membershipOf _ hm
    · cases hold
    · exact ⟨p, RowOrder.mem_sort.mp hp, hm⟩
  have hforeign : ∀ m ∈ (backfilledMemberships order (createMemberships db₁)).rows,
      (db₁.workflows.find? m.workflowId).isSome ∧ (db₁.dossiers.find? m.dossierId).isSome := by
    intro m hm
    obtain ⟨p, hp, hm⟩ := hsound m hm
    obtain ⟨hdossier, hworkflow, -⟩ := mem_innerJoin.mp hp
    rw [hm, Table.find?_isSome, Table.find?_isSome]
    exact ⟨List.mem_map_of_mem hworkflow, List.mem_map_of_mem hdossier⟩
  exact ⟨_, dif_pos ⟨hunique, fun m hm ↦ (hforeign m hm).1, fun m hm ↦ (hforeign m hm).2⟩,
    h, hsound, fun p hp ↦ Table.exists_mem_insertSelect membershipOf _ (RowOrder.mem_sort.mpr hp),
    hdossierIds⟩

end Populated

/-! ## The lifecycle -/

section Enrolled

variable {db : InitialDatabase} {db₂ : WithMemberships} (h : Enrolled db db₂)

include h

/-- Each dossier has one membership, which says of it what the dossier says itself, and belongs to
the workflow of its account. -/
theorem Enrolled.membership {d : Dossier} (hd : d ∈ db.dossiers.rows) :
    ∃ m ∈ db₂.workflowMemberships.rows, (∀ m' ∈ db₂.workflowMemberships.rows,
      m'.dossierId = d.id → m' = m) ∧ ∃ w ∈ db₂.workflows.rows,
        w.portalAccountId = d.portalAccountId ∧ w.key = agreementGarage ∧
          m = membershipOf m.id (d, w) := by
  obtain ⟨p, hp, rfl⟩ := List.mem_map.mp (h.populated.map_fst_joined.symm ▸ hd)
  obtain ⟨id, hid⟩ := h.complete p hp
  obtain ⟨-, hw, hon⟩ := mem_innerJoin.mp hp
  obtain ⟨haccount, hkey⟩ := of_decide_eq_true hon
  exact ⟨_, hid, fun m' hm' hdossier ↦ List.inj_on_of_nodup_map h.dossierIds hm' hid hdossier,
    p.2, hw, haccount, hkey, rfl⟩

/-- The members of a workflow are dossiers of its account. -/
theorem Enrolled.of_mem {m : WorkflowMembership} (hm : m ∈ db₂.workflowMemberships.rows)
    {w : Workflow} (hw : w ∈ db₂.workflows.rows) (hid : m.workflowId = w.id) {d : Dossier}
    (hd : d ∈ db.dossiers.rows) (hdossier : d.id = m.dossierId) :
    d.portalAccountId = w.portalAccountId ∧ m = membershipOf m.id (d, w) := by
  obtain ⟨m', hm', honly, w', hw', haccount, -, hrow⟩ := h.membership hd
  obtain rfl := honly m hm hdossier.symm
  have hwid : w'.id = w.id := (congrArg WorkflowMembership.workflowId hrow).symm.trans hid
  obtain rfl := List.inj_on_of_nodup_map db₂.workflows.nodup hw' hw hwid
  exact ⟨haccount.symm, hrow⟩

open WorkflowMembershipRepository in
/-- **A workflow's states are its account's.** -/
theorem Enrolled.find?_existingStateByWorkflow (order : RowOrder (WorkflowMembership × Dossier))
    {w : Workflow} (hw : w ∈ db₂.workflows.rows) (hkey : w.key = agreementGarage) (r : String) :
    (existingStateByWorkflow order w.id db₂).find? r =
      (DossierRepository.existingStateByAccount w.portalAccountId db.toDatabase).find? r := by
  have hdossiers : db₂.dossiers = db.dossiers := by
    show db₂.toWithWorkflows.toInitialDatabase.dossiers = db.dossiers
    rw [h.populated.same]
  let joined := innerJoin (fun m d ↦ decide (d.id = m.dossierId)) db₂.workflowMemberships.rows
    db₂.dossiers.rows
  let members := joined.filter fun p ↦ p.1.workflowId == w.id
  have hmember {p : WorkflowMembership × Dossier} (hp : p ∈ members) :
      p.2 ∈ db.dossiers.rows ∧ p.2.portalAccountId = w.portalAccountId ∧
        p.2.id = p.1.dossierId ∧ p.1 = membershipOf p.1.id (p.2, w) := by
    obtain ⟨hp, hworkflow⟩ := List.mem_filter.mp hp
    obtain ⟨hm, hd, hon⟩ := mem_innerJoin.mp hp
    rw [hdossiers] at hd
    obtain ⟨haccount, hrow⟩ := h.of_mem hm hw (beq_iff_eq.mp hworkflow) hd (of_decide_eq_true hon)
    exact ⟨hd, haccount, of_decide_eq_true hon, hrow⟩
  -- no dossier comes twice, because each has one membership
  have hids : (members.map fun p ↦ p.1.dossierId).Nodup := by
    have hfst : joined.map Prod.fst = db₂.workflowMemberships.rows :=
      map_fst_innerJoin fun m hm ↦ by
        obtain ⟨d, hd⟩ := Option.isSome_iff_exists.mp (db₂.workflowMemberships_dossier m hm)
        have hsingle := filter_key_eq_singleton db₂.dossiers.nodup (Table.mem_of_find? hd)
        rw [Table.key_of_find? hd] at hsingle
        exact ⟨d, hsingle⟩
    have hnodup : (joined.map fun p ↦ p.1.dossierId).Nodup := by
      have hdossierIds := h.dossierIds
      rw [← hfst, List.map_map] at hdossierIds
      exact hdossierIds
    exact hnodup.sublist (List.filter_sublist.map _)
  -- and so no record does
  have hrecords : (((order.sort members).map fun p ↦
      (⟨p.2.recordId, p.1.active, p.1.missingCompletePolls⟩ : ExistingDossierState)).map
        ExistingDossierState.recordId).Nodup := by
    rw [List.map_map, ((order.perm members).map _).nodup_iff]
    refine List.Nodup.map_on (fun p hp q hq hrecord ↦ ?_) (List.Nodup.of_map _ hids)
    obtain ⟨hdp, hap, hidp, -⟩ := hmember hp
    obtain ⟨hdq, haq, hidq, -⟩ := hmember hq
    have hrecord : p.2.recordId = q.2.recordId := hrecord
    have hsame : p.2 = q.2 := List.inj_on_of_nodup_map db.dossiers.unique hdp hdq <| by
      rw [Dossier.recordKey, Dossier.recordKey, hap, haq, hrecord]
    refine List.inj_on_of_nodup_map hids hp hq ?_
    rw [← hidp, ← hidq, hsame]
  ext state
  rw [find?_existingStateByAccount, existingStateByWorkflow, Table.find?_ofList_eq_some hrecords,
    Option.map_eq_some_iff]
  constructor
  · rintro ⟨hstate, rfl⟩
    obtain ⟨p, hp, rfl⟩ := List.mem_map.mp hstate
    obtain ⟨hd, haccount, -, hrow⟩ := hmember (RowOrder.mem_sort.mp hp)
    refine ⟨p.2, ?_, by rw [hrow]; rfl⟩
    have hfound := Table.find?_of_mem (t := db.dossiers.byRecord) hd
    rwa [Dossier.recordKey, haccount] at hfound
  · rintro ⟨d, hd, rfl⟩
    obtain ⟨hmem, hrecord⟩ := Table.find?_eq_some.mp hd
    obtain ⟨haccount, rfl⟩ := Prod.mk.inj hrecord
    obtain ⟨m, hm, -, w', hw', haccount', hkey', hrow⟩ := h.membership hmem
    obtain rfl : w' = w := List.inj_on_of_nodup_map db₂.workflows.unique hw' hw <| by
      rw [Workflow.accountKey, Workflow.accountKey, haccount', haccount, hkey', hkey]
    refine ⟨List.mem_map.mpr ⟨(m, d), RowOrder.mem_sort.mpr (List.mem_filter.mpr
      ⟨mem_innerJoin.mpr ⟨hm, hdossiers ▸ hmem, ?_⟩, ?_⟩), by rw [hrow]; rfl⟩, rfl⟩
    · rw [hrow]
      exact decide_eq_true rfl
    · rw [hrow]
      exact beq_self_eq_true _

end Enrolled

end MultiWorkflow

/-- **The migration preserves the lifecycle.** -/
structure LifecyclePreserved (db : InitialDatabase) (db' : WithMemberships) : Prop where
  /-- The tables there were are as they were. -/
  unchanged : db'.toInitialDatabase = db
  /-- Every account has one workflow, with its baseline and the times of its polls. -/
  workflow : ∀ a ∈ db.portalAccounts.rows, ∃ w ∈ db'.workflows.rows,
    w.portalAccountId = a.id ∧ w.key = agreementGarage ∧
      w.baselineCompletedAt = a.baselineCompletedAt ∧ w.lastPollAt = a.lastPollAt ∧
      w.lastSuccessAt = a.lastSuccessAt ∧
      ∀ v ∈ db'.workflows.rows, v.portalAccountId = a.id → v.key = agreementGarage → v = w
  /-- Every dossier has one membership, in the workflow of its own account. -/
  membership : ∀ d ∈ db.dossiers.rows, ∃ m ∈ db'.workflowMemberships.rows,
    m.dossierId = d.id ∧
      (∃ w ∈ db'.workflows.rows, w.id = m.workflowId ∧ w.portalAccountId = d.portalAccountId) ∧
      ∀ m' ∈ db'.workflowMemberships.rows, m'.dossierId = d.id → m' = m
  /-- The states of the dossiers in an account's workflow are those in the account. -/
  state : ∀ a ∈ db.portalAccounts.rows, ∀ w ∈ db'.workflows.rows,
    w.portalAccountId = a.id → w.key = agreementGarage →
      ∀ (order : RowOrder (WorkflowMembership × Dossier)) (r : String),
        (WorkflowMembershipRepository.existingStateByWorkflow order w.id db').find? r =
          (DossierRepository.existingStateByAccount a.id db.toDatabase).find? r

/-- **The upgrade succeeds and preserves the lifecycle, and the downgrade undoes it**, in whichever
order the queries return their rows. -/
theorem upgrade_preserves (accounts : RowOrder PortalAccount)
    (joined : RowOrder (Dossier × Workflow)) (db : InitialDatabase) :
    ∃ db', upgrade accounts joined db = .ok db' ∧ LifecyclePreserved db db' ∧
      downgrade db' = db := by
  obtain ⟨db₁, hok₁, hpopulated⟩ := insertWorkflows_ok accounts db
  obtain ⟨db₂, hok₂, h⟩ := hpopulated.insertMemberships_ok joined
  refine ⟨db₂, ?_, ⟨h.populated.same, fun a ha ↦ ?_, fun d hd ↦ ?_, ?_⟩, h.populated.same⟩
  · rw [upgrade, hok₁]
    exact hok₂
  · obtain ⟨w, hrow, hw⟩ := h.populated.garage ha
    have hmem {v : Workflow} : v ∈ db₂.workflows.rows ∧ v.portalAccountId = a.id ∧
        v.key = agreementGarage ↔ v = w := by
      have hsingle : v ∈ [w] ↔ v = w := List.mem_singleton
      rw [← hsingle, ← hw, List.mem_filter, decide_eq_true_eq]
    obtain ⟨hstored, haccount, hkey⟩ := hmem.mpr rfl
    exact ⟨w, hstored, haccount, hkey, by rw [hrow]; rfl, by rw [hrow]; rfl, by rw [hrow]; rfl,
      fun v hv haccount hkey ↦ hmem.mp ⟨hv, haccount, hkey⟩⟩
  · obtain ⟨m, hm, honly, w, hw, haccount, -, hrow⟩ := h.membership hd
    exact ⟨m, hm, by rw [hrow]; rfl, ⟨w, hw, by rw [hrow]; rfl, haccount⟩, honly⟩
  · intro a _ w hw haccount hkey order r
    rw [← haccount]
    exact h.find?_existingStateByWorkflow order hw hkey r

end RmaPortal
