import RmaPortal.Coroutine.Environment
import RmaPortal.Synchronization.Interleaving
import RmaPortal.Web.Site

/-!
# The site and the poll

The site and the polls use one database.  `Workplace` is what there is of both: the database, the
poll that is running, and what its open transaction would commit.  For the site the polls are an
environment that takes steps of its own; for a poll the site is one more employee.

## What is here

* `Synchronized` — from one state of the database to another nothing has happened but what polls
  do: the employees' work is kept, nobody has read anything, and notifications have only been
  added.  `Synchronized.of_run` is this for one call of a repository method,
  `Portal.Step.synchronized` for one step of a poll.
* `PollState` and `Workplace` — how far the polls have got, and the whole.  That what is to be
  committed has been made of what is there is a field of it, so there is no state in which a poll
  would undo what an employee has written.
* `grant`, `serve`, `workplaceRules` — how the surroundings answer the site.  While a poll has a
  transaction open the site may read, and sees what has been committed, but a write would have to
  wait, or fails when it has waited for too long (`databaseLocked`).
* `answered_of_workplace` — so the site is answered as if there were no poll, or is told that the
  database is locked.
* `PollStep` — the poll makes a step.  Users are none of its business.
* `exists_pollStep` — the site is never in the way: whatever step the poll can make, it makes.

SQLite waits for a lock for some time before it gives up.  How long that is does not matter here,
and so a write is refused or is granted, as it happens.
-/

set_option autoImplicit false

open Coroutine

namespace RmaPortal

/-! ## What a poll changes -/

/-- From one state of the database to another nothing has happened but what polls do: the employees'
work is kept, nobody has read anything, and notifications have only been added. -/
structure Synchronized (before after : Database) : Prop extends WorkKept before after where
  reads : after.notificationReads = before.notificationReads
  raised : before.notifications.rows <+: after.notifications.rows

theorem DossierRepository.reads_edit (accountId : ℕ) (recordId : String) (e : Dossier.Edit)
    (db : Database) : (edit accountId recordId e db).notificationReads = db.notificationReads := by
  rw [edit]
  split <;> rfl

/-- A repository method of the synchronization marks nothing as read. -/
theorem Repo.reads_of_run {op : Repo} {db db' : Database} {x : op.Val}
    (h : op.run db = .ok (x, db')) : db'.notificationReads = db.notificationReads := by
  cases op
  case createFromRow accountId row now =>
    simp only [Repo.run, DossierRepository.createFromRow, bind, Except.bind, pure,
      Except.pure] at h
    split at h
    · cases h
    rename_i hinsert
    split at h
    · cases h
    rename_i hwork
    cases h
    unfold Database.insertDossier at hinsert
    split at hinsert <;> cases hinsert
    exact (Database.insertWork_reads hwork).2
  case createNotification =>
    simp only [Repo.run, NotificationRepository.create, bind, Except.bind, pure, Except.pure] at h
    split at h
    · cases h
    rename_i hinsert
    cases h
    unfold Database.insertNotification at hinsert
    split at hinsert <;> cases hinsert
    rfl
  case finishPollRun =>
    simp only [Repo.run, PollRunRepository.finish] at h
    split at h <;> cases h
    rfl
  case touch =>
    simp only [Repo.run, DossierRepository.touch] at h
    split at h <;> cases h
    rfl
  case reactivate =>
    simp only [Repo.run, DossierRepository.reactivate] at h
    split at h <;> cases h
    rfl
  case applyAbsenceIncrement | deactivate =>
    cases h
    exact DossierRepository.reads_edit ..
  all_goals
    cases h
    rfl

namespace Synchronized

variable {db db₁ db₂ : Database}

theorem refl (db : Database) : Synchronized db db := ⟨.refl db, rfl, List.prefix_rfl⟩

theorem trans (h : Synchronized db db₁) (h' : Synchronized db₁ db₂) : Synchronized db db₂ :=
  ⟨h.toWorkKept.trans h'.toWorkKept, h'.reads.trans h.reads, h.raised.trans h'.raised⟩

/-- One call of a repository method. -/
theorem of_run {op : Repo} {x : op.Val} (h : op.run db = .ok (x, db₁)) : Synchronized db db₁ := by
  refine ⟨.of_effect (Repo.effect h), Repo.reads_of_run h, ?_⟩
  by_cases hop : ∀ id kind t, op ≠ .createNotification id kind t
  · rw [Repo.notifications_of_run h hop]
  · push Not at hop
    obtain ⟨id, kind, t, rfl⟩ := hop
    exact ⟨_, (Repo.notifications_create h).symm⟩

/-- A work row was there, or it is that of a dossier that was not. -/
theorem work_of_mem (h : Synchronized db db₁) {row : DossierWork}
    (hrow : row ∈ db₁.dossierWork.rows) :
    row ∈ db.dossierWork.rows ∨ ∃ d, row = .untouched d ∧ db.dossiers.find? d.id = none ∧
      db₁.dossiers.find? d.id = some d := by
  have hfound := Table.find?_of_mem hrow
  obtain ⟨d, hd⟩ := Option.isSome_iff_exists.mp (db₁.dossierWork_dossier row hrow)
  have hid : d.id = row.dossierId := Table.key_of_find? hd
  cases hold : db.dossiers.find? row.dossierId with
  | none =>
    rw [h.created _ _ hold hd] at hfound
    exact .inr ⟨d, (Option.some.inj hfound).symm, hid ▸ hold, hid ▸ hd⟩
  | some d₀ =>
    rw [h.work _ (by rw [hold]; rfl)] at hfound
    exact .inl (Table.mem_of_find? hfound)

/-- A notification that was there is there. -/
theorem find?_notification (h : Synchronized db db₁) {i : ℕ}
    (hi : (db.notifications.find? i).isSome) : (db₁.notifications.find? i).isSome := by
  obtain ⟨n, hn⟩ := Option.isSome_iff_exists.mp hi
  obtain rfl : n.id = i := Table.key_of_find? hn
  rw [Table.find?_of_mem (h.raised.subset (Table.mem_of_find? hn))]
  rfl

end Synchronized

/-- **One step of a poll**, as far as the database is concerned. -/
theorem Portal.Step.synchronized {H : Type} {F : PortalReaderFactory H} {s s' : Portal}
    (h : Portal.Step F .poll s s')
    (hs : ∀ db, s.state.db.pending = some db → Synchronized s.db db) :
    Synchronized s.db s'.db ∧ ∀ db, s'.state.db.pending = some db → Synchronized s'.db db := by
  cases h with
  | begins => exact ⟨.refl _, hs⟩
  | ends => exact ⟨.refl _, hs⟩
  | @asks w finished t r k b =>
    cases r with
    | reader | portal | now | iterate | selectOrder | inflight => exact ⟨.refl _, hs⟩
    | uow q =>
      change ∀ db, w.db.pending = some db → Synchronized w.db.committed db at hs
      change Synchronized w.db.committed (q.serve b w.db).2.committed ∧
        ∀ db, (q.serve b w.db).2.pending = some db → Synchronized (q.serve b w.db).2.committed db
      cases q with
      | exit tx => exact ⟨.refl _, fun _ hdb ↦ by cases hdb⟩
      | enter tx =>
        cases b with
        | error e => exact ⟨.refl _, hs⟩
        | ok x =>
          refine ⟨.refl _, ?_⟩
          rintro _ ⟨⟩
          exact .refl _
      | repo tx op =>
        cases b with
        | error e => exact ⟨.refl _, hs⟩
        | ok x =>
          simp only [UowRequest.serve]
          split
          · exact ⟨.refl _, hs⟩
          rename_i db hdb
          split
          · exact ⟨.refl _, hs⟩
          rename_i hrun
          refine ⟨.refl _, ?_⟩
          rintro _ ⟨⟩
          exact (hs db hdb).trans (.of_run hrun)
      | commit tx =>
        cases b with
        | error e => exact ⟨.refl _, hs⟩
        | ok x =>
          simp only [UowRequest.serve]
          split
          · exact ⟨.refl _, hs⟩
          rename_i db hdb
          refine ⟨hs db hdb, ?_⟩
          rintro _ ⟨⟩
          exact .refl _

/-! ## The site and the poll -/

/-- How far the polls have got. -/
structure PollState where
  /-- What the open transaction would commit. -/
  pending : Option Database
  profile : PortalState
  /-- What the polls were answered that have come to their end. -/
  finished : List (List Happening)
  /-- What the poll was answered that is running, and what is left of it. -/
  running : Option (List Happening × Prog SyncResult)

/-- The database of the site, and the polls. -/
structure Workplace where
  db : EmployeeDatabase
  poll : PollState
  /-- What is to be committed has been made of what is there. -/
  kept : ∀ db', poll.pending = some db' → Synchronized db.toDatabase db'

namespace Workplace

/-- Nobody has polled yet. -/
def opened (db : EmployeeDatabase) (profile : PortalState) : Workplace where
  db := db
  poll := ⟨none, profile, [], none⟩
  kept := nofun

/-- What the polls see. -/
def portal (w : Workplace) : Portal :=
  ⟨⟨⟨w.db.toDatabase, w.poll.pending⟩, w.poll.profile⟩, w.poll.finished, w.poll.running⟩

/-- What SQLite says when a write has waited for too long. -/
def databaseLocked : Exn := .exception "OperationalError" "database is locked"

/-- What a request is answered if nothing goes wrong: while a transaction is open, a write has
waited for too long. -/
def grant (site : SiteSettings) (q : SiteRequest) (v : q.Val) (w : Workplace) :
    Except Exn q.Val × Workplace :=
  let r := SiteRequest.answer site w.db q v
  match h : w.poll.pending with
  | none => (r.1, ⟨r.2, w.poll, by simp [h]⟩)
  | some _ => if q.isWrite then (.error databaseLocked, w) else (r.1, w)

/-- How the surroundings answer the site. -/
def serve (site : SiteSettings) : Server SiteRequest.Val Exn Workplace
  | .execute, .error e, w => (.error e, w)
  | _, .error e, w => (.error e.fault, w)
  | q, .ok v, w => grant site q v w

theorem serve_ok (site : SiteSettings) (q : SiteRequest) (v : q.Val) (w : Workplace) :
    serve site q (.ok v) w = grant site q v w := by
  cases q <;> rfl

end Workplace

/-- The rules the surroundings of the site follow. -/
abbrev workplaceRules (site : SiteSettings) : Spec SiteRequest.Val Exn Workplace :=
  .ofServer (Workplace.serve site)

/-- **The site is answered as if there were no poll**, but writes nothing into a transaction of the
poll. -/
theorem answered_of_workplace {site : SiteSettings} {w w' : Workplace} {q : SiteRequest}
    {a : Except Exn q.Val} (h : (workplaceRules site).step w q a w') :
    (siteRules site).step w.db q a w'.db ∧ w'.poll = w.poll ∧
      (w.poll.pending = none ∨ w'.db = w.db) := by
  obtain ⟨b, h⟩ := h
  cases b with
  | error e =>
    cases q <;> cases h <;> exact ⟨⟨.error e, rfl⟩, rfl, .inr rfl⟩
  | ok v =>
    replace h : Workplace.grant site q v w = (a, w') := Workplace.serve_ok site q v w ▸ h
    simp only [Workplace.grant] at h
    split at h
    · rename_i hpending
      cases h
      exact ⟨⟨.ok v, SiteRequest.serve_ok ..⟩, rfl, .inl hpending⟩
    · split at h <;> cases h
      · refine ⟨⟨.error Workplace.databaseLocked, ?_⟩, rfl, .inr rfl⟩
        cases q <;> rfl
      · rename_i hread
        refine ⟨⟨.ok v, ?_⟩, rfl, .inr rfl⟩
        rw [SiteRequest.serve_ok]
        cases q <;> first | rfl | exact absurd rfl hread

/-- **The poll makes a step.**  It has nothing to do with users. -/
structure PollStep {H : Type} (F : PortalReaderFactory H) (w w' : Workplace) : Prop where
  step : Portal.Step F .poll w.portal w'.portal
  users : w'.db.users = w.db.users

section

variable {H : Type} {F : PortalReaderFactory H} {w w' : Workplace}

theorem PollStep.synchronized (h : PollStep F w w') :
    Synchronized w.db.toDatabase w'.db.toDatabase :=
  (h.step.synchronized w.kept).1

/-- **The site is never in the way**: whatever step the poll can make, it makes. -/
theorem exists_pollStep {s : Portal} (h : Portal.Step F .poll w.portal s) :
    ∃ w', PollStep F w w' ∧ w'.portal = s := by
  obtain ⟨hsync, hkept⟩ := h.synchronized w.kept
  obtain ⟨⟨⟨committed, pending⟩, profile⟩, finished, running⟩ := s
  change Synchronized w.db.toDatabase committed at hsync
  let db : EmployeeDatabase :=
    { toDatabase := committed
      users := w.db.users
      reads_notification := fun r hr ↦
        hsync.find?_notification (w.db.reads_notification r (hsync.reads ▸ hr))
      reads_user := fun r hr ↦ w.db.reads_user r (hsync.reads ▸ hr) }
  exact ⟨⟨db, ⟨pending, profile, finished, running⟩, hkept⟩, ⟨h, rfl⟩, rfl⟩

end

end RmaPortal
