import RmaPortal.Data.Table
import RmaPortal.Domain.Models

/-!
# The database

The tables of `infrastructure/db/models.py` that the modelled code reads or writes, with the
constraints the database enforces on them: the primary keys, the unique constraint
`uq_dossier_account_record`, and the foreign keys of notifications and work rows to dossiers.
`PRAGMA foreign_keys=ON` is set on every connection, so a state that violates one of them cannot
arise; here it cannot be written down.  A row is the entity it stores.

## What is here

* `DossierTable` — the `dossiers` table, with both of its keys.  `byRecord` finds a dossier by
  account and record identifier; `byRecord_map_at` says that editing the dossier found so leaves
  all others alone, and `find?_id_of_byRecord` that the primary key finds the same one.
* `Dossier.Edit` — a change to a dossier that leaves its identity alone.  Everything the program
  does to a dossier that is there is such a change, so no update can violate a constraint.
* `Database` — the tables, and the foreign keys between them.
* `insertDossier`, `insertNotification`, `insertWork`, `updateWork`, `mapDossiers` — statements
  that write.  What is inserted is checked, and the exception is the one SQLite raises; the lemmas
  beside them say when an insertion succeeds and which table it shows in.
* `Database.dossier`, `Database.notificationCount` — what one would ask for.
* `Database.ofAccount`, `Database.oneDossier` — the database of a portal that has never been
  polled, and one with a dossier in it.

Tables that only employees use are in `Infrastructure/Employees.lean`, and those of the
multi-workflow synchronizer in `Infrastructure/Workflows.lean`.  Columns that no modelled function
reads are left out.
-/

set_option autoImplicit false

namespace RmaPortal

/-! ## The dossiers table -/

/-- What identifies a dossier on the portal: its account and its record identifier. -/
def Dossier.recordKey (d : Dossier) : ℕ × String := (d.portalAccountId, d.recordId)

/-- A change to a dossier that leaves its identity alone. -/
structure Dossier.Edit where
  /-- The changed dossier. -/
  apply : Dossier → Dossier
  /-- The primary key is kept. -/
  id_apply : ∀ d, (apply d).id = d.id
  /-- The unique key is kept. -/
  recordKey_apply : ∀ d, (apply d).recordKey = d.recordKey

attribute [simp] Dossier.Edit.id_apply Dossier.Edit.recordKey_apply

/-- Apply an edit to the dossier with one identifier only. -/
def Dossier.Edit.at (e : Dossier.Edit) (id : ℕ) : Dossier.Edit where
  apply d := if d.id = id then e.apply d else d
  id_apply d := by split <;> simp
  recordKey_apply d := by split <;> simp

/-- The `dossiers` table. -/
structure DossierTable extends Table Dossier.id where
  /-- `uq_dossier_account_record` -/
  unique : (rows.map Dossier.recordKey).Nodup

namespace DossierTable

/-- The same rows, found by account and record identifier. -/
def byRecord (t : DossierTable) : Table Dossier.recordKey := ⟨t.rows, t.unique⟩

/-- Change every dossier. -/
def map (t : DossierTable) (e : Dossier.Edit) : DossierTable where
  toTable := t.toTable.map e.apply e.id_apply
  unique := (t.byRecord.map e.apply e.recordKey_apply).nodup

/-- Put a dossier with a new identity at the end. -/
def append (t : DossierTable) (d : Dossier) (h : t.find? d.id = none)
    (h' : t.byRecord.find? d.recordKey = none) : DossierTable where
  toTable := t.toTable.append d h
  unique := (t.byRecord.append d h').nodup

theorem eq_of_rows {t t' : DossierTable} (h : t.rows = t'.rows) : t = t' := by
  obtain ⟨⟨rows, nodup⟩, unique⟩ := t
  obtain ⟨⟨rows', nodup'⟩, unique'⟩ := t'
  obtain rfl : rows = rows' := h
  rfl

theorem find?_map (t : DossierTable) (e : Dossier.Edit) (id : ℕ) :
    (t.map e).find? id = (t.find? id).map e.apply :=
  Table.find?_map t.toTable e.apply e.id_apply id

theorem byRecord_map (t : DossierTable) (e : Dossier.Edit) (k : ℕ × String) :
    (t.map e).byRecord.find? k = (t.byRecord.find? k).map e.apply :=
  Table.find?_map t.byRecord e.apply e.recordKey_apply k

theorem find?_append (t : DossierTable) (d : Dossier) (h : t.find? d.id = none)
    (h' : t.byRecord.find? d.recordKey = none) (id : ℕ) :
    (t.append d h h').find? id = if id = d.id then some d else t.find? id :=
  Table.find?_append t.toTable d h id

theorem byRecord_append (t : DossierTable) (d : Dossier) (h : t.find? d.id = none)
    (h' : t.byRecord.find? d.recordKey = none) (k : ℕ × String) :
    (t.append d h h').byRecord.find? k = if k = d.recordKey then some d else t.byRecord.find? k :=
  Table.find?_append t.byRecord d h' k

/-- Both ways of finding a dossier lead to the same one. -/
theorem find?_id_of_byRecord {t : DossierTable} {k : ℕ × String} {d : Dossier}
    (h : t.byRecord.find? k = some d) : t.find? d.id = some d :=
  Table.find?_of_mem (t := t.toTable) (Table.mem_of_find? (t := t.byRecord) h)

theorem byRecord_of_find? {t : DossierTable} {id : ℕ} {d : Dossier} (h : t.find? id = some d) :
    t.byRecord.find? d.recordKey = some d :=
  Table.find?_of_mem (t := t.byRecord) (Table.mem_of_find? (t := t.toTable) h)

theorem eq_of_id_eq {t : DossierTable} {k k' : ℕ × String} {d d' : Dossier}
    (h : t.byRecord.find? k = some d) (h' : t.byRecord.find? k' = some d') (hid : d.id = d'.id) :
    d = d' := by
  have hd := find?_id_of_byRecord h
  rw [hid, find?_id_of_byRecord h'] at hd
  exact (Option.some.inj hd).symm

/-- Editing the dossier found under one key leaves those under other keys alone. -/
theorem byRecord_map_at {t : DossierTable} {k : ℕ × String} {d : Dossier}
    (h : t.byRecord.find? k = some d) (e : Dossier.Edit) (k' : ℕ × String) :
    (t.map (e.at d.id)).byRecord.find? k' =
      if k' = k then some (e.apply d) else t.byRecord.find? k' := by
  rw [byRecord_map]
  split
  · rename_i hk
    subst hk
    simp [h, Dossier.Edit.at]
  · rename_i hk
    cases hd' : t.byRecord.find? k' with
    | none => rfl
    | some d' =>
      have hne : d'.id ≠ d.id := fun hid ↦ hk <| by
        rw [← Table.key_of_find? h, ← Table.key_of_find? hd', eq_of_id_eq hd' h hid]
      simp [Dossier.Edit.at, hne]

end DossierTable

/-! ## The whole database -/

/-- A state of the database in which every constraint holds. -/
structure Database where
  portalAccounts : Table PortalAccount.id
  dossiers : DossierTable
  notifications : Table Notification.id
  notificationReads : Table fun r : NotificationRead ↦ (r.notificationId, r.userId)
  dossierWork : Table DossierWork.dossierId
  dossierNotes : Table DossierNote.id
  pollRuns : Table PollRun.id
  /-- The foreign key of `notifications.dossier_id`. -/
  notifications_dossier : ∀ n ∈ notifications.rows, (dossiers.find? n.dossierId).isSome
  /-- The foreign key of `dossier_work.dossier_id`. -/
  dossierWork_dossier : ∀ w ∈ dossierWork.rows, (dossiers.find? w.dossierId).isSome

namespace Database

/-- `IntegrityError`, what a statement raises that would violate a constraint. -/
def integrityError : Exn := .exception "IntegrityError" "constraint failed"

/-- Change every dossier. -/
def mapDossiers (db : Database) (e : Dossier.Edit) : Database :=
  { db with
    dossiers := db.dossiers.map e
    notifications_dossier := fun n hn ↦ by
      rw [DossierTable.find?_map, Option.isSome_map]
      exact db.notifications_dossier n hn
    dossierWork_dossier := fun w hw ↦ by
      rw [DossierTable.find?_map, Option.isSome_map]
      exact db.dossierWork_dossier w hw }

/-- `INSERT INTO dossiers`.  The primary key must be new; the unique constraint is checked. -/
def insertDossier (db : Database) (d : Dossier) (h : db.dossiers.find? d.id = none) :
    Except Exn Database :=
  if h' : db.dossiers.byRecord.find? d.recordKey = none then
    .ok { db with
      dossiers := db.dossiers.append d h h'
      notifications_dossier := fun n hn ↦ by
        rw [DossierTable.find?_append]
        split
        · rfl
        · exact db.notifications_dossier n hn
      dossierWork_dossier := fun w hw ↦ by
        rw [DossierTable.find?_append]
        split
        · rfl
        · exact db.dossierWork_dossier w hw }
  else .error integrityError

/-- `INSERT INTO notifications`.  The primary key must be new; the foreign key is checked. -/
def insertNotification (db : Database) (n : Notification) (h : db.notifications.find? n.id = none) :
    Except Exn Database :=
  if h' : (db.dossiers.find? n.dossierId).isSome then
    .ok { db with
      notifications := db.notifications.append n h
      notifications_dossier := fun m hm ↦ by
        rcases List.mem_append.mp hm with hm | hm
        · exact db.notifications_dossier m hm
        · rw [List.mem_singleton.mp hm]; exact h' }
  else .error integrityError

/-- `INSERT INTO dossier_work`.  Primary and foreign key are checked. -/
def insertWork (db : Database) (w : DossierWork) : Except Exn Database :=
  if h : db.dossierWork.find? w.dossierId = none ∧ (db.dossiers.find? w.dossierId).isSome then
    .ok { db with
      dossierWork := db.dossierWork.append w h.1
      dossierWork_dossier := fun v hv ↦ by
        rcases List.mem_append.mp hv with hv | hv
        · exact db.dossierWork_dossier v hv
        · rw [List.mem_singleton.mp hv]; exact h.2 }
  else .error integrityError

section Inserts

variable {db db' : Database} {e : Exn}

/-- The dossiers are the only table an inserted dossier shows in. -/
theorem insertDossier_ok {d : Dossier} {h : db.dossiers.find? d.id = none}
    (hok : db.insertDossier d h = .ok db') :
    (∃ h', db'.dossiers = db.dossiers.append d h h') ∧ db'.notifications = db.notifications ∧
      db'.portalAccounts = db.portalAccounts := by
  unfold insertDossier at hok
  split at hok <;> cases hok
  exact ⟨⟨by assumption, rfl⟩, rfl, rfl⟩

theorem insertDossier_error {d : Dossier} {h : db.dossiers.find? d.id = none}
    (herr : db.insertDossier d h = .error e) : e = integrityError := by
  unfold insertDossier at herr
  split at herr <;> cases herr
  rfl

theorem insertNotification_ok {n : Notification} {h : db.notifications.find? n.id = none}
    (hok : db.insertNotification n h = .ok db') :
    db'.notifications = db.notifications.append n h ∧ db'.dossiers = db.dossiers ∧
      db'.portalAccounts = db.portalAccounts := by
  unfold insertNotification at hok
  split at hok <;> cases hok
  exact ⟨rfl, rfl, rfl⟩

theorem insertNotification_error {n : Notification} {h : db.notifications.find? n.id = none}
    (herr : db.insertNotification n h = .error e) : e = integrityError := by
  unfold insertNotification at herr
  split at herr <;> cases herr
  rfl

theorem insertWork_ok {w : DossierWork} (hok : db.insertWork w = .ok db') :
    db'.dossiers = db.dossiers ∧ db'.notifications = db.notifications ∧
      db'.portalAccounts = db.portalAccounts := by
  unfold insertWork at hok
  split at hok <;> cases hok
  exact ⟨rfl, rfl, rfl⟩

/-- An `INSERT` leaves the rows there are alone. -/
theorem find?_insertWork {w row : DossierWork} {id : ℕ} (hok : db.insertWork w = .ok db')
    (hrow : db.dossierWork.find? id = some row) : db'.dossierWork.find? id = some row := by
  unfold insertWork at hok
  split at hok
  · rename_i h
    cases hok
    rw [Table.find?_append, if_neg, hrow]
    rintro rfl
    cases hrow.symm.trans h.1
  · cases hok

theorem insertWork_error {w : DossierWork} (herr : db.insertWork w = .error e) :
    e = integrityError := by
  unfold insertWork at herr
  split at herr <;> cases herr
  rfl

end Inserts

/-- `UPDATE dossier_work … WHERE dossier_id = id` -/
def updateWork (db : Database) (id : ℕ) (f : DossierWork → DossierWork)
    (hf : ∀ w, (f w).dossierId = w.dossierId) : Database :=
  { db with
    dossierWork := db.dossierWork.update id f hf
    dossierWork_dossier := fun v hv ↦ by
      obtain ⟨w, hw, rfl⟩ := List.mem_map.mp hv
      have hkey : (if w.dossierId = id then f w else w).dossierId = w.dossierId := by
        split <;> simp [hf]
      rw [hkey]
      exact db.dossierWork_dossier w hw }

/-- The dossier of an account with a record identifier. -/
def dossier (db : Database) (accountId : ℕ) (recordId : String) : Option Dossier :=
  db.dossiers.byRecord.find? (accountId, recordId)

/-- How many notifications a dossier has. -/
def notificationCount (db : Database) (dossierId : ℕ) : ℕ :=
  db.notifications.rows.countP fun n ↦ n.dossierId == dossierId

end Database

/-! ## A new portal -/

/-- The account of a portal that has never been polled. -/
def PortalAccount.unpolled (id : ℕ) : PortalAccount :=
  { id := id, name := "OmegaFlow", baseUrl := "https://portal", enabled := true
    baselineCompletedAt := none, sessionStatus := .unknown, lastPollAt := none
    lastSuccessAt := none, lastError := none }

/-- A database in which there is nothing but an account. -/
def Database.ofAccount (a : PortalAccount) : Database where
  portalAccounts := ⟨[a], List.nodup_singleton a.id⟩
  dossiers := ⟨.empty, List.nodup_nil⟩
  notifications := .empty
  notificationReads := .empty
  dossierWork := .empty
  dossierNotes := .empty
  pollRuns := .empty
  notifications_dossier := by simp [Table.empty]
  dossierWork_dossier := by simp [Table.empty]

/-- A database with a dossier and its work row. -/
def Database.ofWork (d : Dossier) (w : DossierWork) (h : w.dossierId = d.id) : Database :=
  { Database.ofAccount (.unpolled d.portalAccountId) with
    dossiers := ⟨⟨[d], List.nodup_singleton d.id⟩, List.nodup_singleton d.recordKey⟩
    dossierWork := ⟨[w], List.nodup_singleton w.dossierId⟩
    notifications_dossier := by simp [Database.ofAccount, Table.empty]
    dossierWork_dossier := fun v hv ↦ by
      obtain rfl := List.mem_singleton.mp hv
      simp [Table.find?, h] }

/-- A database with a dossier that nobody has worked on yet. -/
def Database.oneDossier : Database :=
  .ofWork { (default : Dossier) with id := 0 } ⟨0, .toDo, 1, none, default⟩ rfl

end RmaPortal
