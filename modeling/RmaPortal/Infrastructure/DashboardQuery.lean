import Mathlib.Data.List.Lex
import Mathlib.Data.List.MinMax
import Mathlib.Order.Bounds.Basic
import RmaPortal.Data.Query
import RmaPortal.Infrastructure.Employees

/-!
# The query of the dashboard

`SqlAlchemyDossierRepository.list_for_dashboard`: one statement that reads every active dossier
with its work row, and counts its unread notifications and finds the latest of them in correlated
subqueries.  There are queries about a single dossier that answer the same questions, and the
dashboard had better agree with them.

## What is here

* `Datetime.parts`, `Datetime.parts_injective` — the order of date-times, one part after the
  other.
* `unreadCount`, `latestDetection` — the two subqueries, correlated with a dossier.  The first
  joins the notifications of the dossier with what the user has read of them and counts where
  nothing was joined.
* `listForDashboard` — the statement.  There is no `ORDER BY`: in which order the rows come is for
  the database to choose, so the query has a `RowOrder` as a parameter.
* `joined_eq`, `listForDashboard_perm` — every dossier has one work row, so there is one row for
  every active dossier.
* `unreadCount_eq` — the one statement finds unread notifications by a left join with what has
  been read, `isUnreadForUser` by `NOT IN`; both count the same.
* `listForDashboard_spec` — the dashboard agrees with the queries about a single dossier, for
  every database and every user.

How the rows are filtered and sorted before they are shown is in `Application/Dashboard.lean`.
-/

set_option autoImplicit false

namespace RmaPortal

/-! ## The order of date-times -/

/-- What date-times are compared by, one part after the other. -/
def Datetime.parts (d : Datetime) : List ℕ :=
  [d.year, d.month, d.day, d.hour, d.minute, d.second, d.microsecond]

theorem Datetime.parts_injective : Function.Injective Datetime.parts := by
  rintro ⟨y, mo, d, h, mi, s, us⟩ ⟨y', mo', d', h', mi', s', us'⟩ hparts
  simp only [parts, List.cons.injEq, and_true] at hparts
  obtain ⟨rfl, rfl, rfl, rfl, rfl, rfl, rfl⟩ := hparts
  rfl

instance : LinearOrder Datetime := LinearOrder.lift' Datetime.parts Datetime.parts_injective

/-! ## The query -/

namespace DossierWorkRepository

/-- `get` -/
def get (dossierId : ℕ) (db : Database) : Option DossierWork := db.dossierWork.find? dossierId

end DossierWorkRepository

namespace DossierRepository

/-- The subquery `unread_count`, correlated with the dossier: its notifications, joined with what
the user has read of them, where nothing was joined. -/
def unreadCount (userId : ℕ) (db : Database) (dossier : Dossier) : ℕ :=
  let joined := leftJoin (fun (n : Notification) (r : NotificationRead) ↦
    r.notificationId == n.id && r.userId == userId) db.notifications.rows db.notificationReads.rows
  let ofDossier := joined.filter fun p ↦ p.1.dossierId == dossier.id
  (ofDossier.filter fun p ↦ p.2.isNone).length

/-- The subquery `detection_time`, correlated with the dossier. -/
def latestDetection (db : Database) (dossier : Dossier) : Option Datetime :=
  let ofDossier := db.notifications.rows.filter fun n ↦ n.dossierId == dossier.id
  (ofDossier.map Notification.detectedAt).max?

/-- The dashboard row of a row of the result. -/
def dashboardRow (dossierRow : Dossier) (workRow : Option DossierWork) (unread : ℕ)
    (detected : Option Datetime) : DashboardRow where
  dossierId := dossierRow.id
  dossierNumber := dossierRow.dossierNumber
  insuredName := dossierRow.insuredName
  registration := dossierRow.registration
  garage := dossierRow.garage
  portalStatus := dossierRow.portalStatus
  dateEnvoiDevisGarage := dossierRow.dates.dateEnvoiDevisGarage
  dateEnvoiDevisGarageRaw := dossierRow.dates.dateEnvoiDevisGarageRaw
  dateFinTravauxPrevue := dossierRow.dates.dateFinTravauxPrevue
  dateFinTravauxPrevueRaw := dossierRow.dates.dateFinTravauxPrevueRaw
  detectionTime := detected.getD dossierRow.firstSeenAt
  workStatus := (workRow.map DossierWork.status).getD .toDo
  unread := decide (unread ≠ 0)

/-- `list_for_dashboard`.  There is no `ORDER BY`: in which order the rows come is for the database
to choose. -/
def listForDashboard (order : RowOrder (Dossier × Option DossierWork × ℕ × Option Datetime))
    (userId : ℕ) (db : Database) : List DashboardRow :=
  let joined := leftJoin (fun (d : Dossier) (w : DossierWork) ↦ w.dossierId == d.id)
    db.dossiers.rows db.dossierWork.rows
  let active := joined.filter fun p ↦ p.1.active
  let selected := active.map fun p ↦
    (p.1, p.2, unreadCount userId db p.1, latestDetection db p.1)
  (order.sort selected).map fun p ↦ dashboardRow p.1 p.2.1 p.2.2.1 p.2.2.2

/-! ## One row for every active dossier -/

theorem joined_eq (db : Database) :
    leftJoin (fun (d : Dossier) (w : DossierWork) ↦ w.dossierId == d.id) db.dossiers.rows
      db.dossierWork.rows = db.dossiers.rows.map fun d ↦
        (d, DossierWorkRepository.get d.id db) := by
  rw [leftJoin_eq_map fun d _ ↦ ?_]
  · rfl
  · have hkey := db.dossierWork.countP_key d.id
    rw [List.countP_eq_length_filter] at hkey
    refine le_of_eq_of_le hkey ?_
    split <;> omega

theorem listForDashboard_perm
    (order : RowOrder (Dossier × Option DossierWork × ℕ × Option Datetime)) (userId : ℕ)
    (db : Database) :
    (listForDashboard order userId db).Perm
      ((db.dossiers.rows.filter Dossier.active).map fun d ↦
        dashboardRow d (DossierWorkRepository.get d.id db) (unreadCount userId db d)
          (latestDetection db d)) := by
  rw [listForDashboard, joined_eq]
  refine ((order.perm _).map _).trans (List.Perm.of_eq ?_)
  rw [List.filter_map, List.map_map, List.map_map]
  rfl

/-! ## Each part of a row -/

theorem unreadCount_eq (userId : ℕ) (db : Database) (d : Dossier) :
    unreadCount userId db d = (NotificationRepository.unreadOf d.id userId db).length := by
  have hread : ∀ n : Notification,
      (!db.notificationReads.rows.any fun r ↦ r.notificationId == n.id && r.userId == userId) =
        !(NotificationRepository.alreadyRead userId db).contains n.id := by
    intro n
    refine congrArg _ ?_
    rw [Bool.eq_iff_iff, List.any_eq_true, List.contains_iff_mem,
      NotificationRepository.alreadyRead, List.mem_map]
    constructor
    · rintro ⟨r, hr, hboth⟩
      rw [Bool.and_eq_true, beq_iff_eq] at hboth
      exact ⟨r, List.mem_filter.mpr ⟨hr, hboth.2⟩, hboth.1⟩
    · rintro ⟨r, hr, hid⟩
      obtain ⟨hr, huser⟩ := List.mem_filter.mp hr
      exact ⟨r, hr, by rw [Bool.and_eq_true, beq_iff_eq]; exact ⟨hid, huser⟩⟩
  rw [unreadCount, List.filter_comm, filter_isNone_leftJoin, List.filter_map, List.length_map,
    List.filter_filter, NotificationRepository.unreadOf]
  simp only [hread, Function.comp_apply]

theorem latestDetection_eq_none {db : Database} {d : Dossier} :
    latestDetection db d = none ↔ ∀ n ∈ db.notifications.rows, n.dossierId ≠ d.id := by
  rw [latestDetection, List.max?_eq_none_iff, List.map_eq_nil_iff, List.filter_eq_nil_iff]
  simp only [beq_iff_eq, ne_eq]

theorem latestDetection_eq_some {db : Database} {d : Dossier} {t : Datetime}
    (h : latestDetection db d = some t) :
    IsGreatest {t | ∃ n ∈ db.notifications.rows, n.dossierId = d.id ∧ n.detectedAt = t} t := by
  have hmem : ∀ t, t ∈ ((db.notifications.rows.filter fun n ↦ n.dossierId == d.id).map
      Notification.detectedAt) ↔
      t ∈ {t | ∃ n ∈ db.notifications.rows, n.dossierId = d.id ∧ n.detectedAt = t} := by
    intro t
    simp only [List.mem_map, List.mem_filter, beq_iff_eq, Set.mem_ofPred_eq, and_assoc]
  obtain ⟨ht, hle⟩ := List.max?_eq_some_iff.mp h
  exact ⟨(hmem t).mp ht, fun t' ht' ↦ hle t' ((hmem t').mpr ht')⟩

/-- **The dashboard agrees with the queries about a single dossier.**  It has exactly one row for
every active dossier and none for any other; each row says whether the dossier is unread for the
user, which work status it has, and when it was last detected. -/
theorem listForDashboard_spec
    (order : RowOrder (Dossier × Option DossierWork × ℕ × Option Datetime)) (userId : ℕ)
    (db : Database) :
    let rows := listForDashboard order userId db
    (∀ d ∈ db.dossiers.rows,
      rows.countP (fun r ↦ r.dossierId == d.id) = if d.active = true then 1 else 0) ∧
    ∀ r ∈ rows, ∃ d ∈ db.dossiers.rows, d.active = true ∧ r.dossierId = d.id ∧
      r.unread = NotificationRepository.isUnreadForUser d.id userId db ∧
      ((∃ n ∈ db.notifications.rows, n.dossierId = d.id) →
        IsGreatest {t | ∃ n ∈ db.notifications.rows, n.dossierId = d.id ∧ n.detectedAt = t}
          r.detectionTime) ∧
      ((∀ n ∈ db.notifications.rows, n.dossierId ≠ d.id) → r.detectionTime = d.firstSeenAt) ∧
      r.workStatus = ((DossierWorkRepository.get d.id db).map DossierWork.status).getD .toDo := by
  have hperm := listForDashboard_perm order userId db
  constructor
  · intro d hd
    have hone := (db.dossiers.toTable.filter Dossier.active).countP_key d.id
    rw [Table.find?_filter, Table.find?_of_mem hd, Option.filter_some] at hone
    rw [hperm.countP_eq, List.countP_map]
    refine Eq.trans hone ?_
    cases d.active <;> rfl
  · intro r hr
    obtain ⟨d, hd, rfl⟩ := List.mem_map.mp (hperm.mem_iff.mp hr)
    obtain ⟨hd, hactive⟩ := List.mem_filter.mp hd
    refine ⟨d, hd, hactive, rfl, ?_, ?_, ?_, rfl⟩
    · rw [dashboardRow, NotificationRepository.isUnreadForUser, unreadCount_eq]
      exact decide_eq_decide.mpr Nat.pos_iff_ne_zero.symm
    · rintro ⟨n, hn, hof⟩
      cases hlatest : latestDetection db d with
      | none => exact absurd hof (latestDetection_eq_none.mp hlatest n hn)
      | some t => exact latestDetection_eq_some hlatest
    · intro hnone
      rw [dashboardRow, latestDetection_eq_none.mpr hnone]
      rfl

end DossierRepository

end RmaPortal
