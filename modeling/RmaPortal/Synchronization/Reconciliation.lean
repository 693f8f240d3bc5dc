import RmaPortal.Synchronization.Transactions

/-!
# What the reconciliation transaction does to a dossier

The transaction reads what is known, lets `reconcile` decide, and applies the decision in five
loops.  Each turn of a loop is about one record identifier, and everything it does can be seen at
that identifier: in the dossier itself, in the number of its notifications, and in the entry the
dossier has among those whose details are to be read.  `Tracked` is these three things together
and `view` shows them for a given account and record identifier, so that a turn of a loop is a
step at one key and the identity at every other.

The five loops work on disjoint sets of identifiers, or on one inside the other, so together they
take one step per identifier: `reconcileRow`.  `within_reconcileBody` says so, and that is all the
later modules use; none of them looks into a loop again.

## What is here

* `Tracked`, `view` — what is followed, and lemmas that say what each repository method does to
  it: a method that writes one dossier changes the view at one key (`view_upsert`), raising a
  notification counts one up (`view_notified`), and a dossier that has just been inserted has none
  (`notificationCount_fresh`).
* `QueueOk` — what holds between the turns of the loops: a dossier whose details are to be read is
  in the database, under the same account and record.  It is needed because the code queues
  dossiers by value and reads them again by identifier.
* `within_createDossier`, `within_reactivateDossier`, `within_touchDossier`, `within_edit` — one
  turn of each loop; what a turn does to the tracked values has a name of its own, such as
  `Tracked.touch`, which is where the counter of missed polls is set back to zero.
* `LoopEffect` and `within_loop` — a loop over a set of identifiers, in whatever order the set is
  enumerated.  The induction is on the elements that are left; the key of every turn is another
  one (`nodup_keys`), so no turn undoes what an earlier one did.
* `within_applySeen` and `within_applyAbsences` — the three loops over records that were seen, and
  the two over records that were not.
* `reconcileRow`, `reconcileRow_of_loops` — the loops together.  The cases are those of
  `reconcile`: whether the record was seen, whether there is a dossier, and whether it is active.
* `Reconciled` — the effect of the whole transaction, with the baseline of the account and what is
  queued for the detail phase.

A transaction that fails half-way leaves nothing behind, so there is no statement about part of a
loop: an exception in any turn ends the transaction, and the database is what it was.
-/

set_option autoImplicit false

open Coroutine

namespace RmaPortal

/-! ## Dossiers, their notifications and their place in the detail queue -/

/-- What is tracked of a dossier. -/
structure Tracked where
  dossier : Dossier
  /-- How many notifications it has. -/
  notifications : ℕ
  /-- Its entry among the dossiers whose details are to be read. -/
  queued : Option Dossier

/-- What is tracked of the dossier of an account with a record identifier. -/
def view (needing : Table Dossier.id) (db : Database) (k : ℕ × String) : Option Tracked :=
  (db.dossiers.byRecord.find? k).map fun d ↦
    ⟨d, db.notificationCount d.id, needing.find? d.id⟩

section View

variable {needing : Table Dossier.id} {db db' : Database} {k k' : ℕ × String} {d d' : Dossier}

theorem id_ne_of_key_ne (h : db.dossiers.byRecord.find? k = some d)
    (h' : db.dossiers.byRecord.find? k' = some d') (hk : k' ≠ k) : d'.id ≠ d.id := fun hid ↦
  hk <| by
    rw [← Table.key_of_find? h, ← Table.key_of_find? h', DossierTable.eq_of_id_eq h' h hid]

theorem view_of_find? (h : db.dossiers.byRecord.find? k = some d) :
    view needing db k = some ⟨d, db.notificationCount d.id, needing.find? d.id⟩ := by
  rw [view, h]
  rfl

theorem view_mapDossiers (h : db.dossiers.byRecord.find? k = some d) (e : Dossier.Edit) :
    view needing (db.mapDossiers (e.at d.id)) k' =
      if k' = k then some ⟨e.apply d, db.notificationCount d.id, needing.find? d.id⟩
      else view needing db k' := by
  simp only [view, Database.mapDossiers, DossierTable.byRecord_map_at h]
  split
  · simp [Database.notificationCount]
  · rfl

theorem view_upsert (h : db.dossiers.byRecord.find? k = some d) (hid : d'.id = d.id) :
    view (needing.upsert d') db k' =
      if k' = k then some ⟨d, db.notificationCount d.id, some d'⟩ else view needing db k' := by
  simp only [view]
  split
  · rename_i hk
    subst hk
    rw [h, Option.map_some, Table.find?_upsert, if_pos hid.symm]
  · rename_i hk
    cases hd : db.dossiers.byRecord.find? k' with
    | none => rfl
    | some x =>
      have hne := id_ne_of_key_ne h hd hk
      rw [Option.map_some, Option.map_some, Table.find?_upsert, hid, if_neg hne]

/-- Raising notifications for one dossier. -/
theorem view_notified (h : db.dossiers.byRecord.find? k = some d) {n : ℕ}
    (hdos : db'.dossiers = db.dossiers)
    (hcount : ∀ i, db'.notificationCount i = db.notificationCount i + if i = d.id then n else 0) :
    view needing db' k' =
      if k' = k then some ⟨d, db.notificationCount d.id + n, needing.find? d.id⟩
      else view needing db k' := by
  simp only [view, hdos]
  split
  · rename_i hk
    subst hk
    rw [h, Option.map_some, hcount, if_pos rfl]
  · rename_i hk
    cases hd : db.dossiers.byRecord.find? k' with
    | none => rfl
    | some x =>
      have hne := id_ne_of_key_ne h hd hk
      rw [Option.map_some, Option.map_some, hcount, if_neg hne, Nat.add_zero]

end View

/-! ## The repository methods -/

/-- What a successful `create_from_row` has done. -/
theorem createFromRow_ok {accountId : ℕ} {row : QueueRow} {now : Datetime} {db db' : Database}
    {d : Dossier} (h : DossierRepository.createFromRow accountId row now db = .ok (d, db')) :
    d = DossierRepository.created db.dossiers.fresh accountId row now ∧
      db.dossiers.byRecord.find? (accountId, row.recordId) = none ∧
      (∀ i, db'.dossiers.find? i = if i = d.id then some d else db.dossiers.find? i) ∧
      (∀ k, db'.dossiers.byRecord.find? k =
        if k = (accountId, row.recordId) then some d else db.dossiers.byRecord.find? k) ∧
      db'.notifications = db.notifications ∧ db'.portalAccounts = db.portalAccounts := by
  simp only [DossierRepository.createFromRow, bind, Except.bind, pure, Except.pure] at h
  split at h
  · cases h
  rename_i db₁ h₁
  split at h
  · cases h
  rename_i db₂ h₂
  cases h
  obtain ⟨⟨hnew, hdos₁⟩, hnot₁, hacc₁⟩ := Database.insertDossier_ok h₁
  obtain ⟨hdos₂, hnot₂, hacc₂⟩ := Database.insertWork_ok h₂
  refine ⟨rfl, hnew, fun i ↦ ?_, fun k ↦ ?_, hnot₂.trans hnot₁, hacc₂.trans hacc₁⟩
  · rw [hdos₂, hdos₁]
    exact DossierTable.find?_append _ _ _ _ i
  · rw [hdos₂, hdos₁]
    exact DossierTable.byRecord_append _ _ _ _ k

/-- A dossier that does not exist yet has no notifications. -/
theorem notificationCount_fresh (db : Database) :
    db.notificationCount db.dossiers.fresh = 0 := by
  rw [Database.notificationCount, List.countP_eq_zero]
  intro n hn h
  have hsome := db.notifications_dossier n hn
  rw [beq_iff_eq.mp h, Table.find?_fresh] at hsome
  cases hsome

/-- What a successful `notifications.create` has done. -/
theorem createNotification_ok {dossierId : ℕ} {kind : NotificationKind} {now : Datetime}
    {db db' : Database} {n : Notification}
    (h : NotificationRepository.create dossierId kind now db = .ok (n, db')) :
    db'.dossiers = db.dossiers ∧ db'.portalAccounts = db.portalAccounts ∧
      ∀ i, db'.notificationCount i = db.notificationCount i + if i = dossierId then 1 else 0 := by
  simp only [NotificationRepository.create, bind, Except.bind, pure, Except.pure] at h
  split at h
  · cases h
  rename_i db₁ h₁
  cases h
  obtain ⟨hnot, hdos, hacc⟩ := Database.insertNotification_ok h₁
  refine ⟨hdos, hacc, fun i ↦ ?_⟩
  simp only [Database.notificationCount, hnot, Table.append, List.countP_append,
    List.countP_singleton, beq_iff_eq, @eq_comm ℕ dossierId]

/-- The states of the dossiers of an account, by record identifier. -/
theorem find?_existingStateByAccount (accountId : ℕ) (db : Database) (recordId : String) :
    (DossierRepository.existingStateByAccount accountId db).find? recordId =
      (db.dossier accountId recordId).map fun d ↦
        ⟨d.recordId, d.active, d.missingCompletePolls⟩ := by
  have hnd : (((db.dossiers.rows.filter fun d ↦ d.portalAccountId == accountId).map fun d ↦
      (⟨d.recordId, d.active, d.missingCompletePolls⟩ : ExistingDossierState)).map
        ExistingDossierState.recordId).Nodup := by
    have h := db.dossiers.unique.sublist
      (((db.dossiers.rows.filter_sublist (p := fun d ↦ d.portalAccountId == accountId))).map
        Dossier.recordKey)
    rw [List.map_map]
    refine List.Nodup.of_map (fun r ↦ (accountId, r)) ?_
    rw [List.map_map]
    refine (List.map_congr_left fun d hd ↦ ?_) ▸ h
    have hacc : d.portalAccountId = accountId := by simpa using (List.mem_filter.mp hd).2
    simp [Dossier.recordKey, hacc]
  ext s
  rw [DossierRepository.existingStateByAccount, Table.find?_ofList_eq_some hnd]
  simp only [List.mem_map, List.mem_filter, beq_iff_eq, Option.map_eq_some_iff, Database.dossier,
    Table.find?_eq_some, DossierTable.byRecord, Dossier.recordKey, Prod.mk.injEq]
  constructor
  · rintro ⟨⟨d, ⟨hd, hacc⟩, rfl⟩, hr⟩
    exact ⟨d, ⟨hd, hacc, hr⟩, rfl⟩
  · rintro ⟨d, ⟨hd, hacc, hr⟩, rfl⟩
    exact ⟨⟨d, ⟨hd, hacc⟩, rfl⟩, hr⟩

/-- Whether a dossier is one whose details have to be read again. -/
def needsRetry (accountId : ℕ) (d : Dossier) : Bool :=
  d.portalAccountId == accountId && d.active && !d.detailComplete

/-- What is tracked before the loops begin. -/
theorem view_retry {accountId : ℕ} {db : Database} {retry : List Dossier}
    (h : retry.Perm (DossierRepository.dossiersNeedingDetailRetry accountId db)) (k : ℕ × String) :
    view (Table.ofList retry) db k = (db.dossiers.byRecord.find? k).map fun d ↦
      ⟨d, db.notificationCount d.id, if needsRetry accountId d then some d else none⟩ := by
  have hnd : (retry.map Dossier.id).Nodup := by
    rw [(h.map Dossier.id).nodup_iff]
    exact db.dossiers.nodup.sublist (List.filter_sublist.map Dossier.id)
  rw [view]
  cases hd : db.dossiers.byRecord.find? k with
  | none => rfl
  | some d =>
    have hmem : d ∈ db.dossiers.rows := Table.mem_of_find? (t := db.dossiers.byRecord) hd
    rw [Option.map_some, Option.map_some]
    congr 2
    ext x
    rw [Table.find?_ofList_eq_some hnd, h.mem_iff]
    simp only [DossierRepository.dossiersNeedingDetailRetry, List.mem_filter]
    constructor
    · rintro ⟨⟨hx, hneeds⟩, hid⟩
      have : x = d := List.inj_on_of_nodup_map db.dossiers.nodup hx hmem hid
      subst this
      rw [if_pos (by exact hneeds)]
    · intro hx
      split at hx
      · rename_i hneeds
        cases hx
        exact ⟨⟨hmem, hneeds⟩, rfl⟩
      · cases hx

/-! ## The loop bodies -/

/-- What holds between the turns of the loops: the accounts are as they were, and every dossier
whose details are to be read is in the database, under the same account and record identifier. -/
structure QueueOk (accountId : ℕ) (accounts : Table PortalAccount.id) (needing : Table Dossier.id)
    (db : Database) : Prop where
  accounts : db.portalAccounts = accounts
  queued : ∀ d ∈ needing.rows, d.portalAccountId = accountId ∧
    ∃ m, db.dossiers.find? d.id = some m ∧ m.recordKey = d.recordKey

section Bodies

variable {accountId : ℕ} {accounts : Table PortalAccount.id} {needing : Table Dossier.id}
  {rowsById : Table QueueRow.recordId} {now : Datetime} {db db' : Database}

theorem QueueOk.grow (h : QueueOk accountId accounts needing db)
    (hacc : db'.portalAccounts = db.portalAccounts)
    (hgrow : ∀ i m, db.dossiers.find? i = some m →
      ∃ m', db'.dossiers.find? i = some m' ∧ m'.recordKey = m.recordKey) :
    QueueOk accountId accounts needing db' := by
  refine ⟨hacc.trans h.accounts, fun d hd ↦ ?_⟩
  obtain ⟨ha, m, hm, hkey⟩ := h.queued d hd
  obtain ⟨m', hm', hkey'⟩ := hgrow d.id m hm
  exact ⟨ha, m', hm', hkey'.trans hkey⟩

theorem QueueOk.mapDossiers (h : QueueOk accountId accounts needing db) (e : Dossier.Edit) :
    QueueOk accountId accounts needing (db.mapDossiers e) := by
  refine h.grow rfl fun i m hm ↦ ⟨e.apply m, ?_, e.recordKey_apply m⟩
  rw [Database.mapDossiers, DossierTable.find?_map, hm]
  rfl

theorem QueueOk.upsert (h : QueueOk accountId accounts needing db) {d m : Dossier}
    (ha : d.portalAccountId = accountId) (hm : db.dossiers.find? d.id = some m)
    (hkey : m.recordKey = d.recordKey) : QueueOk accountId accounts (needing.upsert d) db := by
  refine ⟨h.accounts, fun x hx ↦ ?_⟩
  rcases Table.mem_upsert hx with rfl | hx
  · exact ⟨ha, m, hm, hkey⟩
  · exact h.queued x hx

open SyncAgreementQueue

theorem within_rowOf {recordId : String} {R : QueueRow → Database → Prop}
    (h : ∀ row, rowsById.find? recordId = some row → row.recordId = recordId → R row db) :
    Within (rowOf rowsById recordId) db R := by
  rw [rowOf]
  split
  · rename_i row hrow
    exact within_pure (h row hrow (Table.key_of_find? hrow))
  · exact within_throw rfl

theorem within_notify (createNotifications : Bool) (dossierId notified : ℕ) :
    Within (notify now createNotifications dossierId notified) db fun n db' ↦
      db'.dossiers = db.dossiers ∧ db'.portalAccounts = db.portalAccounts ∧
        (∀ i, db'.notificationCount i =
          db.notificationCount i + if i = dossierId then createNotifications.toNat else 0) ∧
        n = notified + createNotifications.toNat := by
  rw [notify]
  split
  · rename_i h
    refine within_bind (within_repo fun n db' hrun ↦ createNotification_ok hrun) fun n db' h' ↦ ?_
    obtain ⟨hdos, hacc, hcount⟩ := h'
    exact within_pure ⟨hdos, hacc, by rw [h]; exact hcount, by rw [h]; rfl⟩
  · rename_i h
    rw [Bool.not_eq_true] at h
    refine within_pure ⟨rfl, rfl, fun i ↦ ?_, by rw [h]; rfl⟩
    rw [h]
    split <;> rfl

/-- One turn of the loop over `to_create`. -/
theorem within_createDossier {createNotifications : Bool} {recordId : String}
    {acc : Table Dossier.id × ℕ} (hI : QueueOk accountId accounts acc.1 db) :
    Within (createDossier accountId rowsById now createNotifications acc recordId) db
      fun acc' db' ↦
        QueueOk accountId accounts acc'.1 db' ∧
        (∃ row id, rowsById.find? recordId = some row ∧
          view acc.1 db (accountId, recordId) = none ∧
          view acc'.1 db' (accountId, recordId) =
            some ⟨DossierRepository.created id accountId row now, createNotifications.toNat,
              some (DossierRepository.created id accountId row now)⟩) ∧
        ∀ k, k ≠ (accountId, recordId) → view acc'.1 db' k = view acc.1 db k := by
  refine within_bind (within_rowOf (R := fun row db' ↦ db = db' ∧
    rowsById.find? recordId = some row ∧ row.recordId = recordId)
    fun row hrow hid ↦ ⟨rfl, hrow, hid⟩) ?_
  rintro row _ ⟨rfl, hrow, hid⟩
  refine within_bind (within_repo fun d db₁ hrun ↦ createFromRow_ok hrun) ?_
  rintro d db₁ ⟨hd, hnone, hfind, hbyRecord, hnot, hacc⟩
  refine within_bind (within_notify createNotifications d.id acc.2) ?_
  rintro n db₂ ⟨hdos₂, hacc₂, hcount₂, -⟩
  rw [hid] at hnone hbyRecord
  have hkey : d.recordKey = (accountId, recordId) := by
    rw [hd, ← hid]
    rfl
  have hd₁ : db₁.dossiers.byRecord.find? (accountId, recordId) = some d := by
    rw [hbyRecord, if_pos rfl]
  have hd₂ : db₂.dossiers.byRecord.find? (accountId, recordId) = some d := by
    rw [hdos₂]
    exact hd₁
  have hcount : db₁.notificationCount d.id = 0 := by
    have h0 := notificationCount_fresh db
    rw [Database.notificationCount, hnot, hd]
    exact h0
  refine within_pure ⟨?_, ⟨row, db.dossiers.fresh, hrow, ?_, ?_⟩, fun k hk ↦ ?_⟩
  · refine QueueOk.upsert (hI.grow (hacc₂.trans hacc) fun i m hm ↦ ⟨m, ?_, rfl⟩)
      (congrArg Prod.fst hkey) (DossierTable.find?_id_of_byRecord hd₂) rfl
    have hne : i ≠ d.id := fun h ↦ by
      rw [h, hd] at hm
      exact absurd ((Table.find?_fresh _).symm.trans hm) (by simp)
    rw [hdos₂, hfind, if_neg hne, hm]
  · rw [view, hnone]
    rfl
  · rw [view_upsert hd₂ rfl, if_pos rfl, hcount₂, if_pos rfl, hcount, Nat.zero_add, hd]
  · rw [view_upsert hd₂ rfl, if_neg hk, view_notified hd₁ hdos₂ hcount₂, if_neg hk]
    simp only [view, hbyRecord, if_neg hk, Database.notificationCount, hnot]

/-- What is tracked of a dossier that reappears. -/
def Tracked.reactivate (row : QueueRow) (now : Datetime) (createNotifications : Bool)
    (x : Tracked) : Tracked :=
  ⟨(DossierRepository.reactivated row now).apply x.dossier,
    x.notifications + createNotifications.toNat,
    some ((DossierRepository.reactivated row now).apply x.dossier)⟩

/-- One turn of the loop over `to_reactivate`. -/
theorem within_reactivateDossier {createNotifications : Bool} {recordId : String}
    {acc : Table Dossier.id × ℕ} (hI : QueueOk accountId accounts acc.1 db) :
    Within (reactivateDossier accountId rowsById now createNotifications acc recordId) db
      fun acc' db' ↦
        QueueOk accountId accounts acc'.1 db' ∧
        (∃ row x, rowsById.find? recordId = some row ∧
          view acc.1 db (accountId, recordId) = some x ∧
          view acc'.1 db' (accountId, recordId) =
            some (x.reactivate row now createNotifications)) ∧
        ∀ k, k ≠ (accountId, recordId) → view acc'.1 db' k = view acc.1 db k := by
  refine within_bind (within_rowOf (R := fun row db' ↦ db = db' ∧
    rowsById.find? recordId = some row ∧ row.recordId = recordId)
    fun row hrow hid ↦ ⟨rfl, hrow, hid⟩) ?_
  rintro row _ ⟨rfl, hrow, hid⟩
  let e := DossierRepository.reactivated row now
  refine within_bind (R := fun d' db₁ ↦ ∃ d, db.dossiers.byRecord.find? (accountId, recordId) =
    some d ∧ d' = e.apply d ∧ db₁ = db.mapDossiers (e.at d.id))
    (within_repo fun d' db₁ hrun ↦ ?_) ?_
  · simp only [Repo.run, DossierRepository.reactivate, hid] at hrun
    split at hrun
    · cases hrun
    · rename_i d hd
      cases hrun
      exact ⟨d, hd, rfl, rfl⟩
  rintro _ _ ⟨d, hd, rfl, rfl⟩
  have hid' : (e.apply d).id = d.id := e.id_apply d
  refine within_bind (within_notify createNotifications (e.apply d).id acc.2) ?_
  rintro n db₂ ⟨hdos₂, hacc₂, hcount₂, -⟩
  have hd₁ : (db.mapDossiers (e.at d.id)).dossiers.byRecord.find? (accountId, recordId) =
      some (e.apply d) := by
    rw [Database.mapDossiers, DossierTable.byRecord_map_at hd, if_pos rfl]
  have hd₂ : db₂.dossiers.byRecord.find? (accountId, recordId) = some (e.apply d) := by
    rw [hdos₂]
    exact hd₁
  refine within_pure ⟨?_, ⟨row, _, hrow, view_of_find? hd, ?_⟩, fun k hk ↦ ?_⟩
  · refine QueueOk.upsert ((hI.mapDossiers (e.at d.id)).grow hacc₂ fun i m hm ↦ ⟨m, ?_, rfl⟩)
      ?_ (DossierTable.find?_id_of_byRecord hd₂) rfl
    · rw [hdos₂, hm]
    · exact congrArg Prod.fst (Table.key_of_find? hd₂)
  · rw [view_upsert hd₂ rfl, if_pos rfl, hcount₂, if_pos rfl, hid']
    rfl
  · rw [view_upsert hd₂ rfl, if_neg hk, view_notified hd₁ hdos₂ hcount₂, if_neg hk,
      view_mapDossiers hd, if_neg hk]

/-- What is tracked of an active dossier that is seen again. -/
def Tracked.touch (row : QueueRow) (now : Datetime) (x : Tracked) : Tracked :=
  let d := (DossierRepository.touched row now).apply x.dossier
  ⟨d, x.notifications,
    if x.dossier.portalStatus != row.portalStatus || missingRequiredQuoteDate d then some d
    else x.queued⟩

/-- One turn of the loop over `to_touch`. -/
theorem within_touchDossier {recordId : String} (hI : QueueOk accountId accounts needing db) :
    Within (touchDossier accountId rowsById now needing recordId) db fun needing' db' ↦
        QueueOk accountId accounts needing' db' ∧
        (∃ row x, rowsById.find? recordId = some row ∧
          view needing db (accountId, recordId) = some x ∧
          view needing' db' (accountId, recordId) = some (x.touch row now)) ∧
        ∀ k, k ≠ (accountId, recordId) → view needing' db' k = view needing db k := by
  refine within_bind (within_rowOf (R := fun row db' ↦ db = db' ∧
    rowsById.find? recordId = some row ∧ row.recordId = recordId)
    fun row hrow hid ↦ ⟨rfl, hrow, hid⟩) ?_
  rintro row _ ⟨rfl, hrow, hid⟩
  let e := DossierRepository.touched row now
  refine within_bind (R := fun p db₁ ↦ ∃ d, db.dossiers.byRecord.find? (accountId, recordId) =
    some d ∧ p = (e.apply d, d.portalStatus != row.portalStatus) ∧
      db₁ = db.mapDossiers (e.at d.id))
    (within_repo fun p db₁ hrun ↦ ?_) ?_
  · simp only [Repo.run, DossierRepository.touch, hid] at hrun
    split at hrun
    · cases hrun
    · rename_i d hd
      cases hrun
      exact ⟨d, hd, rfl, rfl⟩
  rintro _ _ ⟨d, hd, rfl, rfl⟩
  have hid' : (e.apply d).id = d.id := e.id_apply d
  have hd₁ : (db.mapDossiers (e.at d.id)).dossiers.byRecord.find? (accountId, recordId) =
      some (e.apply d) := by
    rw [Database.mapDossiers, DossierTable.byRecord_map_at hd, if_pos rfl]
  have hI' := hI.mapDossiers (e.at d.id)
  dsimp only
  split
  · rename_i hneeds
    refine within_pure ⟨?_, ⟨row, _, hrow, view_of_find? hd, ?_⟩, fun k hk ↦ ?_⟩
    · exact hI'.upsert (congrArg Prod.fst (Table.key_of_find? hd₁))
        (DossierTable.find?_id_of_byRecord hd₁) rfl
    · rw [view_upsert hd₁ rfl, if_pos rfl, Tracked.touch, if_pos hneeds, hid']
      rfl
    · rw [view_upsert hd₁ rfl, if_neg hk, view_mapDossiers hd, if_neg hk]
  · rename_i hneeds
    refine within_pure ⟨hI', ⟨row, _, hrow, view_of_find? hd, ?_⟩, fun k hk ↦ ?_⟩
    · rw [view_mapDossiers hd, if_pos rfl, Tracked.touch, if_neg hneeds]
    · rw [view_mapDossiers hd, if_neg hk]

/-- A turn of one of the loops over missing dossiers. -/
theorem within_edit {tx : Transaction} {op : Repo} {recordId : String} (e : Dossier.Edit)
    (hop : ∀ x db', op.run db = .ok (x, db') →
      db' = DossierRepository.edit accountId recordId e db)
    (hI : QueueOk accountId accounts needing db) :
    Within (repo tx op) db fun _ db' ↦
      QueueOk accountId accounts needing db' ∧
      view needing db' (accountId, recordId) =
        (view needing db (accountId, recordId)).map
          (fun x ↦ { x with dossier := e.apply x.dossier }) ∧
      ∀ k, k ≠ (accountId, recordId) → view needing db' k = view needing db k := by
  refine within_repo fun x db' hrun ↦ ?_
  rw [hop x db' hrun, DossierRepository.edit]
  split
  · rename_i hnone
    refine ⟨hI, ?_, fun _ _ ↦ rfl⟩
    have : view needing db (accountId, recordId) = none := by
      rw [view, show db.dossiers.byRecord.find? (accountId, recordId) = none from hnone]
      rfl
    rw [this]
    rfl
  · rename_i d hd
    refine ⟨hI.mapDossiers (e.at d.id), ?_, fun k hk ↦ ?_⟩
    · rw [view_mapDossiers hd, if_pos rfl, view_of_find? hd]
      rfl
    · rw [view_mapDossiers hd, if_neg hk]

end Bodies

/-! ## The loops -/

/-- A loop over `ids` has taken what was seen from `V` to `V'`: one step `G r` for each `r`. -/
structure LoopEffect (accountId : ℕ) (ids : List String)
    (G : String → Option Tracked → Option Tracked → Prop)
    (V V' : ℕ × String → Option Tracked) : Prop where
  step : ∀ r ∈ ids, G r (V (accountId, r)) (V' (accountId, r))
  frame : ∀ k, (∀ r ∈ ids, k ≠ (accountId, r)) → V' k = V k

section Loops

variable {accountId : ℕ} {accounts : Table PortalAccount.id} {rowsById : Table QueueRow.recordId}
  {now : Datetime} {db : Database}

open SyncAgreementQueue

/-- The elements of a set, in the order of a loop, have different keys. -/
theorem nodup_keys {s : FrozenSet String} {l : List String} (hl : l.Perm s.rows) :
    (l.map fun r ↦ (accountId, r)).Nodup := by
  have hs : s.rows.Nodup := by simpa using s.nodup
  exact (hl.nodup_iff.mpr hs).map fun a b h ↦ (Prod.mk.inj h).2

/-- A loop over a set, in whatever order. -/
theorem within_loop {β : Type} {f : β → String → Prog β} (queue : β → Table Dossier.id)
    (G : String → Option Tracked → Option Tracked → Prop) (s : FrozenSet String)
    (hbody : ∀ r b db, QueueOk accountId accounts (queue b) db →
      Within (f b r) db fun b' db' ↦
        QueueOk accountId accounts (queue b') db' ∧
        G r (view (queue b) db (accountId, r)) (view (queue b') db' (accountId, r)) ∧
        ∀ k, k ≠ (accountId, r) → view (queue b') db' k = view (queue b) db k)
    {b : β} (hI : QueueOk accountId accounts (queue b) db) :
    Within (forEach s f b) db fun b' db' ↦
      QueueOk accountId accounts (queue b') db' ∧
      LoopEffect accountId s.rows G (view (queue b) db) (view (queue b') db') := by
  refine within_bind (within_iterate (R := fun l db' ↦ db = db' ∧ l.Perm s.rows)
    fun l hl ↦ ⟨rfl, hl⟩) ?_
  rintro l _ ⟨rfl, hl⟩
  refine (within_foldlM (fun b db ↦ view (queue b) db) (fun r ↦ (accountId, r))
    (fun b db ↦ QueueOk accountId accounts (queue b) db) G (nodup_keys hl)
    (fun r _ b db h ↦ hbody r b db h) hI).mono fun b' db' ⟨hI', hG, hframe⟩ ↦
      ⟨hI', fun r hr ↦ hG r (hl.mem_iff.mpr hr), fun k hk ↦ hframe k fun hmem ↦ ?_⟩
  obtain ⟨r, hr, rfl⟩ := List.mem_map.mp hmem
  exact hk r (hl.mem_iff.mp hr) rfl

/-- The step of the loop over `to_create`. -/
def CreateStep (accountId : ℕ) (rowsById : Table QueueRow.recordId) (now : Datetime)
    (createNotifications : Bool) (r : String) (v v' : Option Tracked) : Prop :=
  ∃ row id, rowsById.find? r = some row ∧ v = none ∧
    v' = some ⟨DossierRepository.created id accountId row now, createNotifications.toNat,
      some (DossierRepository.created id accountId row now)⟩

/-- The step of the loop over `to_reactivate`. -/
def ReactivateStep (rowsById : Table QueueRow.recordId) (now : Datetime)
    (createNotifications : Bool) (r : String) (v v' : Option Tracked) : Prop :=
  ∃ row x, rowsById.find? r = some row ∧ v = some x ∧
    v' = some (x.reactivate row now createNotifications)

/-- The step of the loop over `to_touch`. -/
def TouchStep (rowsById : Table QueueRow.recordId) (now : Datetime) (r : String)
    (v v' : Option Tracked) : Prop :=
  ∃ row x, rowsById.find? r = some row ∧ v = some x ∧ v' = some (x.touch row now)

/-- The step of a loop that edits dossiers. -/
def EditStep (e : Dossier.Edit) (v v' : Option Tracked) : Prop :=
  v' = v.map fun x ↦ { x with dossier := e.apply x.dossier }

/-- What the three loops over seen dossiers do. -/
theorem within_applySeen {result : ReconciliationResult} {retry : List Dossier}
    (hI : QueueOk accountId accounts (Table.ofList retry) db) :
    Within (applySeen accountId rowsById now result retry) db fun acc db' ↦
      QueueOk accountId accounts acc.1 db' ∧ ∃ V₁ V₂,
        LoopEffect accountId result.toCreate.rows
          (CreateStep accountId rowsById now result.createNotifications)
          (view (Table.ofList retry) db) V₁ ∧
        LoopEffect accountId result.toReactivate.rows
          (ReactivateStep rowsById now result.createNotifications) V₁ V₂ ∧
        LoopEffect accountId result.toTouch.rows (TouchStep rowsById now) V₂ (view acc.1 db') := by
  refine within_bind (within_loop (fun acc ↦ acc.1)
    (CreateStep accountId rowsById now result.createNotifications) result.toCreate
    (fun r b db h ↦ within_createDossier h) hI) fun acc₁ db₁ ⟨hI₁, hL₁⟩ ↦ ?_
  refine within_bind (within_loop (fun acc ↦ acc.1)
    (ReactivateStep rowsById now result.createNotifications) result.toReactivate
    (fun r b db h ↦ within_reactivateDossier h) hI₁) fun acc₂ db₂ ⟨hI₂, hL₂⟩ ↦ ?_
  refine within_bind (within_loop (fun needing ↦ needing) (TouchStep rowsById now)
    result.toTouch (fun r b db h ↦ within_touchDossier h) hI₂) fun needing db₃ ⟨hI₃, hL₃⟩ ↦ ?_
  exact within_pure ⟨hI₃, _, _, hL₁, hL₂, hL₃⟩

/-- What the two loops over missing dossiers do. -/
theorem within_applyAbsences {result : ReconciliationResult} {needing : Table Dossier.id}
    (hI : QueueOk accountId accounts needing db) :
    Within (applyAbsences accountId result) db fun _ db' ↦
      QueueOk accountId accounts needing db' ∧ ∃ V,
        (∀ r n, result.absenceIncrements.find? r = some (r, n) →
          EditStep (DossierRepository.missed n) (view needing db (accountId, r))
            (V (accountId, r))) ∧
        (∀ k, (∀ r, k = (accountId, r) → result.absenceIncrements.find? r = none) →
          V k = view needing db k) ∧
        LoopEffect accountId result.toDeactivate.rows
          (fun _ ↦ EditStep DossierRepository.deactivated) V (view needing db') := by
  have hnd : (result.absenceIncrements.rows.map fun p ↦ (accountId, p.1)).Nodup := by
    have h := result.absenceIncrements.nodup.map (f := fun r ↦ (accountId, r))
      fun a b h ↦ (Prod.mk.inj h).2
    rwa [List.map_map] at h
  refine within_bind (within_foldlM (fun _ db ↦ view needing db) (fun p ↦ (accountId, p.1))
    (fun _ db ↦ QueueOk accountId accounts needing db)
    (fun p ↦ EditStep (DossierRepository.missed p.2)) hnd
    (fun p _ _ db h ↦ within_edit (DossierRepository.missed p.2) ?_ h) hI) ?_
  · intro x db' hrun
    cases hrun
    rfl
  rintro _ db₁ ⟨hI₁, hG, hframe⟩
  have hloop := within_loop (β := Unit) (b := ())
    (f := fun _ r ↦ repo .reconciliation (.deactivate accountId r)) (fun _ ↦ needing)
    (fun _ ↦ EditStep DossierRepository.deactivated) result.toDeactivate
    (fun r _ db h ↦ within_edit DossierRepository.deactivated (fun x db' hrun ↦ by
      cases hrun
      rfl) h) hI₁
  refine hloop.mono fun _ db₂ ⟨hI₂, hL⟩ ↦
    ⟨hI₂, view needing db₁, fun r n hr ↦ ?_, fun k hk ↦ ?_, hL⟩
  · exact hG (r, n) (Table.mem_of_find? hr)
  · refine hframe k fun hmem ↦ ?_
    obtain ⟨p, hp, rfl⟩ := List.mem_map.mp hmem
    have := hk p.1 rfl
    rw [Table.find?_of_mem hp] at this
    cases this

end Loops

/-! ## One step for each record identifier -/

/-- What is tracked of an active dossier that a COMPLETE poll has not seen. -/
def Tracked.miss (x : Tracked) : Tracked :=
  let count := x.dossier.missingCompletePolls + 1
  { x with
    dossier :=
      { x.dossier with
        missingCompletePolls := count
        active := decide (count < maxMissingCompletePolls) } }

section Row

variable (accountId : ℕ) (status : PollStatus) (baselineAlreadyCompleted : Bool) (now : Datetime)

/-- What a poll does to what is tracked under one record identifier, given the row it saw there, if
any, and the identifier a new dossier would get. -/
def reconcileRow (row? : Option QueueRow) (id : ℕ) : Option Tracked → Option Tracked
  | none => row?.map fun row ↦
    ⟨DossierRepository.created id accountId row now, baselineAlreadyCompleted.toNat,
      some (DossierRepository.created id accountId row now)⟩
  | some x =>
    match row? with
    | some row =>
      some (if x.dossier.active then x.touch row now
        else x.reactivate row now baselineAlreadyCompleted)
    | none => some (if x.dossier.active ∧ status = .complete then x.miss else x)

/-- A dossier does not go away, and keeps its identifier. -/
theorem reconcileRow_some (row? : Option QueueRow) (id : ℕ) (x : Tracked) :
    ∃ y, reconcileRow accountId status baselineAlreadyCompleted now row? id (some x) = some y ∧
      y.dossier.id = x.dossier.id := by
  cases row? with
  | none =>
    refine ⟨_, rfl, ?_⟩
    split <;> rfl
  | some row =>
    refine ⟨_, rfl, ?_⟩
    split <;> rfl

/-- What is tracked before the transaction. -/
def unreconciled (db : Database) (k : ℕ × String) : Option Tracked :=
  (db.dossiers.byRecord.find? k).map fun d ↦
    ⟨d, db.notificationCount d.id, if needsRetry accountId d then some d else none⟩

/-- The loops together take one step for each record identifier. -/
theorem reconcileRow_of_loops {rowsById : Table QueueRow.recordId}
    {existing : Table ExistingDossierState.recordId} {result : ReconciliationResult}
    {V₀ V₁ V₂ V₃ V₄ V₅ : ℕ × String → Option Tracked}
    (husable : status = .complete ∨ status = .partialRead)
    (hresult : result = reconcile ⟨status, baselineAlreadyCompleted, rowsById.keys, existing⟩)
    (hexisting : ∀ r, existing.find? r = (V₀ (accountId, r)).map fun x ↦
      ⟨r, x.dossier.active, x.dossier.missingCompletePolls⟩)
    (h₁ : LoopEffect accountId result.toCreate.rows
      (CreateStep accountId rowsById now baselineAlreadyCompleted) V₀ V₁)
    (h₂ : LoopEffect accountId result.toReactivate.rows
      (ReactivateStep rowsById now baselineAlreadyCompleted) V₁ V₂)
    (h₃ : LoopEffect accountId result.toTouch.rows (TouchStep rowsById now) V₂ V₃)
    (h₄ : ∀ r n, result.absenceIncrements.find? r = some (r, n) →
      EditStep (DossierRepository.missed n) (V₃ (accountId, r)) (V₄ (accountId, r)))
    (h₄' : ∀ k, (∀ r, k = (accountId, r) → result.absenceIncrements.find? r = none) → V₄ k = V₃ k)
    (h₅ : LoopEffect accountId result.toDeactivate.rows
      (fun _ ↦ EditStep DossierRepository.deactivated) V₄ V₅) (r : String) :
    ∃ id, V₅ (accountId, r) = reconcileRow accountId status baselineAlreadyCompleted now
      (rowsById.find? r) id (V₀ (accountId, r)) := by
  have hseen : r ∈ rowsById.keys ↔ (rowsById.find? r).isSome := Table.mem_keys
  have hcreate : r ∈ result.toCreate ↔ r ∈ rowsById.keys ∧ existing.find? r = none := by
    rw [hresult]
    exact mem_toCreate husable
  have hreactivate : r ∈ result.toReactivate ↔ r ∈ rowsById.keys ∧
      ∃ e, existing.find? r = some e ∧ e.active = false := by
    rw [hresult]
    exact mem_toReactivate husable
  have htouch : r ∈ result.toTouch ↔ r ∈ rowsById.keys ∧
      ∃ e, existing.find? r = some e ∧ e.active = true := by
    rw [hresult]
    exact mem_toTouch husable
  have habsent : ∀ n, result.absenceIncrements.find? r = some (r, n) ↔ status = .complete ∧
      r ∉ rowsById.keys ∧ ∃ e, existing.find? r = some e ∧ e.active = true ∧
        n = e.missingCompletePolls + 1 := by
    rw [hresult]
    exact fun n ↦ find?_absenceIncrements husable
  have hdeactivate : r ∈ result.toDeactivate ↔ ∃ n,
      result.absenceIncrements.find? r = some (r, n) ∧ maxMissingCompletePolls ≤ n := by
    rw [hresult]
    exact mem_toDeactivate husable
  -- a loop whose set does not contain `r` leaves it alone
  have hskip : ∀ {ids G V V'}, LoopEffect accountId ids G V V' → r ∉ ids →
      V' (accountId, r) = V (accountId, r) := by
    intro ids G V V' h hr
    refine h.frame _ fun r' hr' heq ↦ hr ?_
    rw [(Prod.mk.inj heq).2]
    exact hr'
  have hskip₄ : (∀ n, result.absenceIncrements.find? r ≠ some (r, n)) →
      V₄ (accountId, r) = V₃ (accountId, r) := by
    intro h
    refine h₄' _ fun r' hr' ↦ ?_
    obtain ⟨-, rfl⟩ := Prod.mk.inj hr'
    cases hf : result.absenceIncrements.find? r with
    | none => rfl
    | some p =>
      have hp : p.1 = r := Table.key_of_find? hf
      exact absurd (hp ▸ hf) (h p.2)
  rw [hexisting r] at hcreate hreactivate htouch habsent
  cases hrow : rowsById.find? r with
  | some row =>
    have hr : r ∈ rowsById.keys := hseen.mpr (by simp [hrow])
    have hnone : ∀ n, result.absenceIncrements.find? r ≠ some (r, n) :=
      fun n hn ↦ ((habsent n).mp hn).2.1 hr
    have hkeep : r ∉ result.toDeactivate.rows := fun h ↦ by
      obtain ⟨n, hn, -⟩ := hdeactivate.mp h
      exact hnone n hn
    rw [hskip h₅ hkeep, hskip₄ hnone]
    cases hx : V₀ (accountId, r) with
    | none =>
      simp only [hx, Option.map_none, and_true, reduceCtorEq, false_and]
        at hcreate hreactivate htouch
      rw [hskip h₃ (FrozenSet.mem_iff.not.mp (by simp [htouch])),
        hskip h₂ (FrozenSet.mem_iff.not.mp (by simp [hreactivate]))]
      obtain ⟨row', id, hrow', -, hV₁⟩ := h₁.step r (hcreate.mpr hr)
      cases hrow.symm.trans hrow'
      exact ⟨id, hV₁⟩
    | some x =>
      have hV₁ := hskip h₁ (FrozenSet.mem_iff.not.mp (by simp [hcreate, hx]))
      cases hactive : x.dossier.active with
      | true =>
        have hV₂ := hskip h₂ (FrozenSet.mem_iff.not.mp (by simp [hreactivate, hx, hactive]))
        obtain ⟨row', x', hrow', hx', hV₃⟩ := h₃.step r (htouch.mpr (by simp [hx, hr, hactive]))
        cases hrow.symm.trans hrow'
        cases (hx.symm.trans (hV₁.symm.trans (hV₂.symm.trans hx')))
        exact ⟨0, by rw [hV₃, reconcileRow, if_pos hactive]⟩
      | false =>
        rw [hskip h₃ (FrozenSet.mem_iff.not.mp (by simp [htouch, hx, hactive]))]
        obtain ⟨row', x', hrow', hx', hV₂⟩ :=
          h₂.step r (hreactivate.mpr (by simp [hx, hr, hactive]))
        cases hrow.symm.trans hrow'
        cases (hx.symm.trans (hV₁.symm.trans hx'))
        exact ⟨0, by rw [hV₂, reconcileRow, if_neg (by simp [hactive])]⟩
  | none =>
    have hr : r ∉ rowsById.keys := fun h ↦ by
      have := hseen.mp h
      simp [hrow] at this
    have hV₃ : V₃ (accountId, r) = V₀ (accountId, r) := by
      rw [hskip h₃ (FrozenSet.mem_iff.not.mp (by simp [htouch, hr])),
        hskip h₂ (FrozenSet.mem_iff.not.mp (by simp [hreactivate, hr])),
        hskip h₁ (FrozenSet.mem_iff.not.mp (by simp [hcreate, hr]))]
    cases hx : V₀ (accountId, r) with
    | none =>
      have hnone : ∀ n, result.absenceIncrements.find? r ≠ some (r, n) :=
        fun n hn ↦ by simpa [hx] using (habsent n).mp hn
      have hkeep : r ∉ result.toDeactivate.rows := fun h ↦ by
        obtain ⟨n, hn, -⟩ := hdeactivate.mp h
        exact hnone n hn
      exact ⟨0, by rw [hskip h₅ hkeep, hskip₄ hnone, hV₃, hx]; rfl⟩
    | some x =>
      by_cases hmiss : x.dossier.active = true ∧ status = .complete
      · have hn : ∀ n, result.absenceIncrements.find? r = some (r, n) ↔
            n = x.dossier.missingCompletePolls + 1 := by
          intro n
          rw [habsent n, hx]
          simp [hmiss, hr]
        have hV₄ := h₄ r _ ((hn _).mpr rfl)
        rw [EditStep, hV₃, hx] at hV₄
        refine ⟨0, ?_⟩
        rw [reconcileRow, if_pos hmiss]
        by_cases hmax : maxMissingCompletePolls ≤ x.dossier.missingCompletePolls + 1
        · have hV₅ := h₅.step r (hdeactivate.mpr ⟨_, (hn _).mpr rfl, hmax⟩)
          rw [EditStep, hV₄] at hV₅
          rw [hV₅]
          simp [Tracked.miss, DossierRepository.missed, DossierRepository.deactivated,
            Nat.not_lt.mpr hmax]
        · have hkeep : r ∉ result.toDeactivate.rows := fun h ↦ by
            obtain ⟨n, hn', hle⟩ := hdeactivate.mp h
            exact hmax ((hn n).mp hn' ▸ hle)
          rw [hskip h₅ hkeep, hV₄]
          simp [Tracked.miss, DossierRepository.missed, Nat.lt_of_not_le hmax, hmiss.1]
      · have hnone : ∀ n, result.absenceIncrements.find? r ≠ some (r, n) := by
          intro n hn
          obtain ⟨hc, -, e, he, hactive, -⟩ := (habsent n).mp hn
          rw [hx] at he
          cases he
          exact hmiss ⟨hactive, hc⟩
        have hkeep : r ∉ result.toDeactivate.rows := fun h ↦ by
          obtain ⟨n, hn, -⟩ := hdeactivate.mp h
          exact hnone n hn
        exact ⟨0, by rw [hskip h₅ hkeep, hskip₄ hnone, hV₃, hx, reconcileRow, if_neg hmiss]⟩

end Row

/-! ## The effect of the transaction -/

/-- The accounts' identifiers and baselines. -/
def Database.baselines (db : Database) : List (ℕ × Option Datetime) :=
  db.portalAccounts.rows.map fun a ↦ (a.id, a.baselineCompletedAt)

/-- The effect of `mark_baseline_completed` on one account. -/
def completeBaseline (accountId : ℕ) (now : Datetime) (p : ℕ × Option Datetime) :
    ℕ × Option Datetime :=
  if p.1 = accountId ∧ p.2 = none then (p.1, some now) else p

/-- **What the reconciliation transaction does**, from `db` to `db'`, when the poll saw the rows
`rowsById`.  `needing` are the dossiers whose details are to be read next. -/
structure Reconciled (accountId : ℕ) (status : PollStatus) (baselineAlreadyCompleted : Bool)
    (rowsById : Table QueueRow.recordId) (now : Datetime) (needing : Table Dossier.id)
    (db db' : Database) : Prop where
  /-- Each dossier of the account takes its step. -/
  row : ∀ r, ∃ id, view needing db' (accountId, r) = reconcileRow accountId status
    baselineAlreadyCompleted now (rowsById.find? r) id (unreconciled accountId db (accountId, r))
  /-- Other accounts are left alone. -/
  foreign : ∀ k : ℕ × String, k.1 ≠ accountId →
    view needing db' k = unreconciled accountId db k
  /-- The dossiers whose details are to be read are the account's. -/
  queued : ∀ d ∈ needing.rows, d.portalAccountId = accountId ∧
    ∃ m, db'.dossiers.find? d.id = some m ∧ m.recordKey = d.recordKey
  /-- The first COMPLETE poll completes the baseline. -/
  baselines : db'.baselines =
    if !baselineAlreadyCompleted && status == .complete then
      db.baselines.map (completeBaseline accountId now)
    else db.baselines

open SyncAgreementQueue

theorem baselines_markBaselineCompleted (accountId : ℕ) (now : Datetime) (db : Database) :
    (PortalAccountRepository.markBaselineCompleted accountId now db).baselines =
      db.baselines.map (completeBaseline accountId now) := by
  simp only [Database.baselines, PortalAccountRepository.markBaselineCompleted, Table.update,
    Table.map, List.map_map]
  refine List.map_congr_left fun a _ ↦ ?_
  simp only [Function.comp_apply, completeBaseline]
  by_cases hid : a.id = accountId <;> by_cases hb : a.baselineCompletedAt = none <;>
    simp [hid, hb]

theorem within_reconcileBody {accountId : ℕ} {rowsById : Table QueueRow.recordId}
    {now : Datetime} {status : PollStatus} {baselineAlreadyCompleted : Bool} {db : Database}
    (husable : status = .complete ∨ status = .partialRead) :
    Within (reconcileBody accountId rowsById now status baselineAlreadyCompleted) db fun x db' ↦
      Reconciled accountId status baselineAlreadyCompleted rowsById now x.2.1 db db' := by
  refine within_bind (R := fun existing db' ↦ db = db' ∧
      existing = DossierRepository.existingStateByAccount accountId db)
    (within_repo fun x db' hrun ↦ by cases hrun; exact ⟨rfl, rfl⟩) ?_
  rintro existing _ ⟨rfl, hexisting⟩
  refine within_bind (R := fun selected db' ↦ db = db' ∧
      selected = DossierRepository.dossiersNeedingDetailRetry accountId db)
    (within_repo fun x db' hrun ↦ by cases hrun; exact ⟨rfl, rfl⟩) ?_
  rintro selected _ ⟨rfl, hselected⟩
  refine within_bind (R := fun _ db' ↦ db = db') (within_selectOrder fun l ↦ rfl) ?_
  rintro ⟨retry, hretry⟩ _ rfl
  rw [hselected] at hretry
  have hI : QueueOk accountId db.portalAccounts (Table.ofList retry) db := by
    refine ⟨rfl, fun d hd ↦ ?_⟩
    have hmem := hretry.mem_iff.mp (Table.mem_of_find?_ofList (Table.find?_of_mem hd))
    obtain ⟨hrow, hneeds⟩ := List.mem_filter.mp hmem
    simp only [Bool.and_eq_true, beq_iff_eq] at hneeds
    exact ⟨hneeds.1.1, d, Table.find?_of_mem (t := db.dossiers.toTable) hrow, rfl⟩
  have hV₀ : view (Table.ofList retry) db = unreconciled accountId db :=
    funext fun k ↦ view_retry hretry k
  refine within_bind (within_applySeen hI) ?_
  rintro acc db₁ ⟨hI₁, V₁, V₂, h₁, h₂, h₃⟩
  refine within_bind (within_applyAbsences hI₁) ?_
  rintro _ db₂ ⟨hI₂, V₄, h₄, h₄', h₅⟩
  rw [createNotifications_eq husable, hV₀] at h₁
  rw [createNotifications_eq husable] at h₂
  -- all that is tracked is as it has to be; the baseline comes on top
  have hrow := reconcileRow_of_loops accountId status baselineAlreadyCompleted now husable rfl
    (fun r ↦ by
      rw [hexisting, find?_existingStateByAccount, unreconciled, Option.map_map]
      refine Option.map_congr fun d hd ↦ ?_
      have hkey : d.recordKey = (accountId, r) := Table.key_of_find? hd
      rw [← (Prod.mk.inj hkey).2]
      rfl) h₁ h₂ h₃ h₄ h₄' h₅
  have hforeign : ∀ k : ℕ × String, k.1 ≠ accountId →
      view acc.1 db₂ k = unreconciled accountId db k := by
    intro k hk
    have hne : ∀ r, k ≠ (accountId, r) := fun r h ↦ hk (congrArg Prod.fst h)
    rw [h₅.frame k fun r _ ↦ hne r, h₄' k fun r h ↦ absurd h (hne r),
      h₃.frame k fun r _ ↦ hne r, h₂.frame k fun r _ ↦ hne r, h₁.frame k fun r _ ↦ hne r]
  have hacc : db₂.baselines = db.baselines := by
    rw [Database.baselines, Database.baselines, hI₂.accounts]
  refine within_bind (R := fun _ db₃ ↦ Reconciled accountId status baselineAlreadyCompleted
    rowsById now acc.1 db db₃) ?_ fun _ db₃ h ↦ within_pure h
  rw [applyBaseline, isBaselinePoll_eq husable]
  dsimp only
  split
  · rename_i hb
    refine within_repo fun x db₃ hrun ↦ ?_
    cases hrun
    exact ⟨hrow, hforeign, hI₂.queued, by rw [if_pos hb, baselines_markBaselineCompleted, hacc]⟩
  · rename_i hb
    exact within_pure ⟨hrow, hforeign, hI₂.queued, by rw [if_neg hb, hacc]⟩

end RmaPortal
