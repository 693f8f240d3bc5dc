import RmaPortal.Accounts.Sessions
import RmaPortal.Unread.Harmless

/-!
# Where rows come from

Notes, work statuses and read marks carry the name of an employee.  `provenance` says that nobody
can put somebody else's name on anything: what a run leaves in these tables was there before, or it
was written by a request of the employee whose name it carries, and it is what the form of this
request says.

A note and a read mark are written once, and so it is enough to say who has written them.  A work
row has a history.  It begins when the portal starts, in the step of a poll that finds a new
dossier, or with the form of an employee who is the first to work on a dossier without a row; and
from then on it is what the updates that are accepted make of it, one after the other.  An update
writes only the columns that it changes, so two of them may cross each other, and then the row has
the status of the one and the name of the other.  But there is nothing in the row that does not come
from this history, and every update in it has been made by the employee who has sent its form.

## What is here

* `DoneAt` and `DoneBy` — a request has been committed, and who has made it: somebody who has been
  recognized by this very request, and to whom it is permitted, which includes that the request is
  made in their own name and is what the form says.
* `afterRequest` and `workAfter` — what accepted requests make of a work row.
* `WorkBegun` — how a work row begins, and in which state of the run.
* `notes_of_run`, `work_of_run`, `reads_of_run`, `notifications_of_run` — one table each, by
  induction on the run from what one request does to this table and from `Synchronized`, which is
  what polls do to all of them.
-/

set_option autoImplicit false

open Coroutine

namespace RmaPortal
namespace Site

/-- A step of a run has committed a request of this user, who was recognized and might make it. -/
structure DoneAt (site : SiteSettings) (requests : ℕ → HttpRequest) (before : SiteLabels)
    (l : ℕ × List SiteHappening) (user : User) (q : SiteRequest) : Prop where
  committed : ∃ a, ⟨q, .ok a⟩ ∈ l.2
  recognized : Recognized site (requests l.1) (eventsOf before l.1) user
  permitted : Permitted site (requests l.1) (eventsOf before l.1) user q

/-- Some step of a run has. -/
def DoneBy (site : SiteSettings) (requests : ℕ → HttpRequest) (ls : SiteLabels) (user : User)
    (q : SiteRequest) : Prop :=
  ∃ before l after, ls = before ++ l :: after ∧ DoneAt site requests before l user q

/-! ## Work rows -/

/-- What a request makes of a work row: it is changed by the updates of its dossier that are
accepted. -/
def afterRequest (row : DossierWork) : SiteHappening → DossierWork
  | ⟨.updateWork loaded current, .ok ()⟩ =>
    if row.dossierId = loaded.dossierId then DossierWork.merge loaded current row else row
  | _ => row

/-- What a run makes of a work row. -/
def workAfter (row : DossierWork) (ls : SiteLabels) : DossierWork :=
  ls.foldl (fun row l ↦ l.2.foldl afterRequest row) row

/-- A work row has begun, in this state of the run: the portal starts with it, a poll has just
inserted it with a dossier that is new, or an employee has. -/
inductive WorkBegun {H : Type} (site : SiteSettings) (F : PortalReaderFactory H)
    (requests : ℕ → HttpRequest) (start : Workplace) : DossierWork → SiteLabels → SitePool → Prop
  | initially {row : DossierWork} (h : row ∈ start.db.dossierWork.rows) :
      WorkBegun site F requests start row [] (Pool.empty start)
  | byPoll {ls : SiteLabels} {q : SitePool} {w : Workplace} {d : Dossier}
      (h : IsSiteRun site F requests start ls q) (hpoll : PollStep F q.state w)
      (hold : q.state.db.dossiers.find? d.id = none) (hnew : w.db.dossiers.find? d.id = some d) :
      WorkBegun site F requests start (.untouched d) ls ⟨w, q.tasks⟩
  | byUser {row : DossierWork} {ls : SiteLabels} {l : ℕ × List SiteHappening} {q : SitePool}
      {user : User} (h : IsSiteRun site F requests start (ls ++ [l]) q)
      (hdone : DoneAt site requests ls l user (.insertWork row)) :
      WorkBegun site F requests start row (ls ++ [l]) q

section

variable {H : Type} {F : PortalReaderFactory H} {site : SiteSettings} {requests : ℕ → HttpRequest}
  {start : Workplace} {ls : SiteLabels} {l : ℕ × List SiteHappening} {user : User} {q : SiteRequest}
  {db db' : EmployeeDatabase} {p : SitePool}

theorem DoneBy.append (h : DoneBy site requests ls user q) (ms : SiteLabels) :
    DoneBy site requests (ls ++ ms) user q := by
  obtain ⟨before, l, after, rfl, hdone⟩ := h
  exact ⟨before, l, after ++ ms, by simp, hdone⟩

theorem DoneAt.doneBy (h : DoneAt site requests ls l user q) :
    DoneBy site requests (ls ++ [l]) user q :=
  ⟨ls, l, [], rfl, h⟩

/-- **What has been committed somebody has done.** -/
theorem IsSiteRun.doneAt {before after : SiteLabels}
    (h : IsSiteRun site F requests start (before ++ l :: after) p) {a : q.Val}
    (he : ⟨q, .ok a⟩ ∈ l.2) (hguarded : q.isOpen = false) :
    ∃ user, DoneAt site requests before l user q := by
  obtain hopen | ⟨user, hrecognized, hpermitted⟩ := h.mayAsk he
  · exact absurd (hguarded.symm.trans hopen) Bool.false_ne_true
  · exact ⟨user, ⟨a, he⟩, hrecognized, hpermitted⟩

/-- What has been done in somebody's name, they have done. -/
theorem DoneBy.self (h : DoneBy site requests ls user q) {id : ℕ} (hid : q.onBehalfOf = some id) :
    id = user.id := by
  obtain ⟨before, l, after, -, hdone⟩ := h
  exact hdone.permitted.self id hid

theorem workAfter_singleton (row : DossierWork) (i : ℕ) (e : SiteHappening) :
    workAfter row [(i, [e])] = afterRequest row e := rfl

theorem workAfter_append (row : DossierWork) (ls ms : SiteLabels) :
    workAfter row (ls ++ ms) = workAfter (workAfter row ls) ms :=
  List.foldl_append ..

/-! ## What requests do to tables -/

theorem insertWork_ok {row : DossierWork} {u : Unit}
    (h : DossierWorkRepository.insert row db = .ok (u, db')) :
    db'.dossierWork.rows = db.dossierWork.rows ++ [row] ∧ db'.dossierNotes = db.dossierNotes ∧
      db'.notifications = db.notifications ∧ db'.notificationReads = db.notificationReads := by
  unfold DossierWorkRepository.insert at h
  split at h
  · split at h
    · cases h
    · rename_i hinsert
      cases h
      unfold Database.insertWork at hinsert
      split at hinsert <;> cases hinsert
      exact ⟨rfl, rfl, rfl, rfl⟩
  · cases h

theorem updateWork_ok {loaded current : DossierWork} {u : Unit}
    (h : DossierWorkRepository.update loaded current db = .ok (u, db')) :
    db'.dossierWork.rows = db.dossierWork.rows.map (fun row ↦
        if row.dossierId = loaded.dossierId then DossierWork.merge loaded current row else row) ∧
      db'.dossierNotes = db.dossierNotes ∧ db'.notifications = db.notifications ∧
      db'.notificationReads = db.notificationReads := by
  unfold DossierWorkRepository.update at h
  split at h
  · cases h
  · split at h <;> cases h
    exact ⟨rfl, rfl, rfl, rfl⟩

theorem insertNote_ok {dossierId authorId : ℕ} {body : String} {createdAt : Datetime}
    {note : DossierNote}
    (h : DossierNoteRepository.add dossierId authorId body createdAt db = .ok (note, db')) :
    (note.dossierId = dossierId ∧ note.authorId = authorId ∧ note.body = body ∧
      note.createdAt = createdAt) ∧ db'.dossierNotes.rows = db.dossierNotes.rows ++ [note] ∧
      db'.dossierWork = db.dossierWork ∧ db'.notifications = db.notifications ∧
      db'.notificationReads = db.notificationReads := by
  simp only [DossierNoteRepository.add, EmployeeDatabase.insertNote, bind, Except.bind, pure,
    Except.pure] at h
  split at h
  · cases h
  rename_i hinsert
  split at hinsert <;> cases hinsert
  cases h
  exact ⟨⟨rfl, rfl, rfl, rfl⟩, rfl, rfl, rfl, rfl⟩

/-- Marking notifications as read adds marks, and that is all. -/
theorem insertReads_rows {userId : ℕ} {seenAt : Datetime} {unreadIds : List ℕ}
    (h : NotificationRepository.insertReads userId seenAt unreadIds db = .ok db') :
    db'.notificationReads.rows =
        db.notificationReads.rows ++ unreadIds.map (fun id ↦ ⟨id, userId, seenAt⟩) ∧
      db'.dossierWork = db.dossierWork ∧ db'.dossierNotes = db.dossierNotes ∧
      db'.notifications = db.notifications := by
  induction unreadIds generalizing db with
  | nil =>
    cases h
    exact ⟨by simp, rfl, rfl, rfl⟩
  | cons id ids ih =>
    rw [NotificationRepository.insertReads, List.foldlM_cons] at h
    cases hfirst : db.insertRead ⟨id, userId, seenAt⟩ with
    | error e => simp [hfirst, bind, Except.bind] at h
    | ok db₁ =>
      simp only [hfirst, bind, Except.bind] at h
      obtain ⟨hrows, hwork, hnotes, hnotifications⟩ := ih h
      unfold EmployeeDatabase.insertRead at hfirst
      split at hfirst <;> cases hfirst
      refine ⟨?_, hwork, hnotes, hnotifications⟩
      rw [hrows]
      exact List.append_assoc _ [_] _

/-- A new user has read everything, and nothing else is new. -/
theorem insertNewUser_rows {new created : User} {seenAt : Datetime}
    (h : SiteRequest.insertNewUser site.normalize new seenAt db = .ok (created, db')) :
    db'.notificationReads.rows = db.notificationReads.rows ++
        ((NotificationRepository.unread created.id db.toDatabase).map Notification.id).map
          (fun id ↦ ⟨id, created.id, seenAt⟩) ∧
      db'.dossierWork = db.dossierWork ∧ db'.dossierNotes = db.dossierNotes ∧
      db'.notifications = db.notifications := by
  simp only [SiteRequest.insertNewUser, bind, Except.bind, pure, Except.pure] at h
  split at h
  · cases h
  rename_i hcreate
  split at h
  · cases h
  rename_i hmark
  simp only [UserRepository.create, EmployeeDatabase.insertUser, bind, Except.bind, pure,
    Except.pure] at hcreate
  split at hcreate
  · cases hcreate
  rename_i hinsert
  split at hinsert <;> cases hinsert
  cases hcreate
  cases h
  rw [NotificationRepository.markAllExistingAsReadForUser] at hmark
  have hrows := insertReads_rows hmark
  exact hrows

/-- **What a request does to the work rows.** -/
theorem work_of_answer {a : Except Exn q.Val} (h : (siteRules site).step db q a db')
    {row : DossierWork} (hrow : row ∈ db'.dossierWork.rows) :
    (∃ old ∈ db.dossierWork.rows, row = afterRequest old ⟨q, a⟩) ∨
      (⟨q, a⟩ : SiteHappening) = ⟨.insertWork row, .ok ()⟩ := by
  obtain ⟨rfl, hfails⟩ | hwrote := wrote_of_step h
  · refine .inl ⟨row, hrow, ?_⟩
    unfold afterRequest
    split
    · rename_i heq
      cases heq
      obtain ⟨e, he⟩ := hfails rfl
      cases he
    · rfl
  cases hwrote with
  | active | passwordHash => exact .inl ⟨row, hrow, rfl⟩
  | user hinsert => exact .inl ⟨row, (insertNewUser_rows hinsert).2.1 ▸ hrow, rfl⟩
  | reads hinsert => exact .inl ⟨row, (insertReads_rows hinsert).2.1 ▸ hrow, rfl⟩
  | note hinsert => exact .inl ⟨row, (insertNote_ok hinsert).2.2.1 ▸ hrow, rfl⟩
  | newWork hinsert =>
    rw [(insertWork_ok hinsert).1] at hrow
    rcases List.mem_append.mp hrow with hrow | hrow
    · exact .inl ⟨row, hrow, rfl⟩
    · obtain rfl := List.mem_singleton.mp hrow
      exact .inr rfl
  | work hupdate =>
    rw [(updateWork_ok hupdate).1] at hrow
    obtain ⟨old, hold, rfl⟩ := List.mem_map.mp hrow
    exact .inl ⟨old, hold, rfl⟩

/-- **What a request does to the notes.** -/
theorem notes_of_answer {a : Except Exn q.Val} (h : (siteRules site).step db q a db') :
    db'.dossierNotes.rows = db.dossierNotes.rows ∨ ∃ n : DossierNote,
      (⟨q, a⟩ : SiteHappening) =
        ⟨.insertNote n.dossierId n.authorId n.body n.createdAt, .ok n⟩ ∧
      db'.dossierNotes.rows = db.dossierNotes.rows ++ [n] := by
  obtain ⟨rfl, -⟩ | hwrote := wrote_of_step h
  · exact .inl rfl
  cases hwrote with
  | active | passwordHash => exact .inl rfl
  | user hinsert => exact .inl (congrArg Table.rows (insertNewUser_rows hinsert).2.2.1)
  | reads hinsert => exact .inl (congrArg Table.rows (insertReads_rows hinsert).2.2.1)
  | newWork hinsert => exact .inl (congrArg Table.rows (insertWork_ok hinsert).2.1)
  | work hupdate => exact .inl (congrArg Table.rows (updateWork_ok hupdate).2.1)
  | note hinsert =>
    obtain ⟨⟨rfl, rfl, rfl, rfl⟩, hnotes, -⟩ := insertNote_ok hinsert
    exact .inr ⟨_, rfl, hnotes⟩

/-- **What a request does to the read marks.** -/
theorem reads_of_answer {a : Except Exn q.Val} (h : (siteRules site).step db q a db')
    {r : NotificationRead} (hr : r ∈ db'.notificationReads.rows) :
    r ∈ db.notificationReads.rows ∨
      (∃ ids, (⟨q, a⟩ : SiteHappening) = ⟨.insertReads r.userId ids r.seenAt, .ok ()⟩ ∧
        r.notificationId ∈ ids) ∨
      ∃ new created, (⟨q, a⟩ : SiteHappening) = ⟨.insertUser new r.seenAt, .ok created⟩ ∧
        r.userId = created.id := by
  obtain ⟨rfl, -⟩ | hwrote := wrote_of_step h
  · exact .inl hr
  cases hwrote with
  | active | passwordHash => exact .inl hr
  | newWork hinsert => exact .inl ((insertWork_ok hinsert).2.2.2 ▸ hr)
  | work hupdate => exact .inl ((updateWork_ok hupdate).2.2.2 ▸ hr)
  | note hinsert => exact .inl ((insertNote_ok hinsert).2.2.2.2 ▸ hr)
  | user hinsert =>
    rw [(insertNewUser_rows hinsert).1] at hr
    refine (List.mem_append.mp hr).imp_right fun hr ↦ .inr ?_
    obtain ⟨id, -, rfl⟩ := List.mem_map.mp hr
    exact ⟨_, _, rfl, rfl⟩
  | reads hinsert =>
    rw [(insertReads_rows hinsert).1] at hr
    refine (List.mem_append.mp hr).imp_right fun hr ↦ .inl ?_
    obtain ⟨id, hid, rfl⟩ := List.mem_map.mp hr
    exact ⟨_, rfl, hid⟩

/-- No request raises a notification. -/
theorem notifications_of_answer {a : Except Exn q.Val} (h : (siteRules site).step db q a db') :
    db'.notifications = db.notifications := by
  obtain ⟨rfl, -⟩ | hwrote := wrote_of_step h
  · rfl
  cases hwrote with
  | active | passwordHash => rfl
  | user hinsert => exact (insertNewUser_rows hinsert).2.2.2
  | reads hinsert => exact (insertReads_rows hinsert).2.2.2
  | newWork hinsert => exact (insertWork_ok hinsert).2.2.1
  | work hupdate => exact (updateWork_ok hupdate).2.2.1
  | note hinsert => exact (insertNote_ok hinsert).2.2.2.1

/-! ## Runs -/

/-- **Every work row has a history.** -/
theorem work_of_run (h : IsSiteRun site F requests start ls p) {row : DossierWork}
    (hrow : row ∈ p.state.db.dossierWork.rows) :
    ∃ origin before after q, ls = before ++ after ∧
      WorkBegun site F requests start origin before q ∧ Later site F q after p ∧
      row = workAfter origin after := by
  induction h using IsSiteRun.induct generalizing row with
  | opened => exact ⟨row, [], [], _, rfl, .initially hrow, .refl _, rfl⟩
  | polled ls q w h hpoll ih =>
    obtain hrow | ⟨d, rfl, hold, hnew⟩ := hpoll.synchronized.work_of_mem hrow
    · obtain ⟨origin, before, after, q', rfl, hbegun, hlater, rfl⟩ := ih hrow
      exact ⟨origin, before, after, q', rfl, hbegun, .env hlater hpoll, rfl⟩
    · exact ⟨.untouched d, ls, [], _, by simp, .byPoll h hpoll hold hnew, .refl _, rfl⟩
  | served ls l q r _ h hstep hnext ih =>
    -- a row that is there goes on as the step says
    have hgoes {old : DossierWork} (hold : old ∈ q.state.db.dossierWork.rows) :
        ∃ origin before after q', ls ++ [l] = before ++ after ∧
          WorkBegun site F requests start origin before q' ∧ Later site F q' after r ∧
          workAfter old [l] = workAfter origin after := by
      obtain ⟨origin, before, after, q', rfl, hbegun, hlater, rfl⟩ := ih hold
      exact ⟨origin, before, after ++ [l], q', List.append_assoc .., hbegun, hlater.trans hnext,
        (workAfter_append ..).symm⟩
    obtain ⟨hnil, hstate⟩ | ⟨task, q₀, k, a, -, -, hes, hanswer, -⟩ := answer_of_step hstep
    · rw [hstate] at hrow
      have hsame : workAfter row [l] = row := by simp [workAfter, hnil]
      exact hsame ▸ hgoes hrow
    obtain ⟨i, es⟩ := l
    obtain rfl : es = [⟨q₀, a⟩] := hes
    obtain ⟨old, hold, rfl⟩ | he := work_of_answer hanswer hrow
    · exact workAfter_singleton old i _ ▸ hgoes hold
    · obtain ⟨user, hdone⟩ := h.doneAt (q := .insertWork row) (a := ()) (by simp [he]) rfl
      exact ⟨row, ls ++ [(i, _)], [], r, by simp, .byUser h hdone, .refl _, rfl⟩

/-- **Every note has an author.** -/
theorem notes_of_run (h : IsSiteRun site F requests start ls p) :
    ∃ written, p.state.db.dossierNotes.rows = start.db.dossierNotes.rows ++ written ∧
      ∀ n ∈ written, ∃ user,
        DoneBy site requests ls user (.insertNote n.dossierId n.authorId n.body n.createdAt) := by
  induction h using IsSiteRun.induct with
  | opened => exact ⟨[], by simp [Pool.empty], by simp⟩
  | polled ls q w _ hpoll ih => rwa [hpoll.synchronized.notes]
  | served ls l q p _ h hstep _ ih =>
    obtain ⟨written, hrows, hwritten⟩ := ih
    have hbefore : ∀ n ∈ written, ∃ user, DoneBy site requests (ls ++ [l]) user
        (.insertNote n.dossierId n.authorId n.body n.createdAt) :=
      fun n hn ↦ (hwritten n hn).imp fun user hdone ↦ hdone.append [l]
    obtain ⟨-, hstate⟩ | ⟨task, r, k, a, -, -, hes, hanswer, -⟩ := answer_of_step hstep
    · exact ⟨written, by rw [hstate, hrows], hbefore⟩
    obtain hsame | ⟨n, he, hnotes⟩ := notes_of_answer hanswer
    · exact ⟨written, by rw [hsame, hrows], hbefore⟩
    refine ⟨written ++ [n], by rw [hnotes, hrows, List.append_assoc], fun m hm ↦ ?_⟩
    rcases List.mem_append.mp hm with hm | hm
    · exact hbefore m hm
    · obtain rfl := List.mem_singleton.mp hm
      obtain ⟨user, hdone⟩ := h.doneAt (a := m)
        (q := .insertNote m.dossierId m.authorId m.body m.createdAt) (by simp [hes, he]) rfl
      exact ⟨user, hdone.doneBy⟩

/-- **Who has read something** has opened the dossier, or has only been created since. -/
theorem reads_of_run (h : IsSiteRun site F requests start ls p) {m : NotificationRead}
    (hm : m ∈ p.state.db.notificationReads.rows) :
    m ∈ start.db.notificationReads.rows ∨
      (∃ user unreadIds, m.notificationId ∈ unreadIds ∧
        DoneBy site requests ls user (.insertReads m.userId unreadIds m.seenAt)) ∨
      ∃ i new created, ⟨.insertUser new m.seenAt, .ok created⟩ ∈ eventsOf ls i ∧
        m.userId = created.id := by
  induction h using IsSiteRun.induct with
  | opened => exact .inl hm
  | polled ls q w _ hpoll ih => exact ih (hpoll.synchronized.reads ▸ hm)
  | served ls l q p _ h hstep _ ih =>
    have hbefore (hm : m ∈ q.state.db.notificationReads.rows) :
        m ∈ start.db.notificationReads.rows ∨
          (∃ user unreadIds, m.notificationId ∈ unreadIds ∧
            DoneBy site requests (ls ++ [l]) user (.insertReads m.userId unreadIds m.seenAt)) ∨
          ∃ i new created, ⟨.insertUser new m.seenAt, .ok created⟩ ∈ eventsOf (ls ++ [l]) i ∧
            m.userId = created.id := by
      obtain hm | ⟨user, ids, hid, hdone⟩ | ⟨i, new, created, hcreated, hid⟩ := ih hm
      · exact .inl hm
      · exact .inr (.inl ⟨user, ids, hid, hdone.append [l]⟩)
      · exact .inr (.inr ⟨i, new, created,
          by rw [eventsOf_append]; exact List.mem_append_left _ hcreated, hid⟩)
    obtain ⟨-, hstate⟩ | ⟨task, r, k, a, -, -, hes, hanswer, -⟩ := answer_of_step hstep
    · exact hbefore (hstate ▸ hm)
    have hl : ⟨r, a⟩ ∈ l.2 := by rw [hes]; exact List.mem_singleton_self _
    obtain hm | ⟨ids, he, hid⟩ | ⟨new, created, he, hid⟩ := reads_of_answer hanswer hm
    · exact hbefore hm
    · obtain ⟨user, hdone⟩ := h.doneAt (q := .insertReads m.userId ids m.seenAt) (a := ())
        (he ▸ hl) rfl
      exact .inr (.inl ⟨user, ids, hid, hdone.doneBy⟩)
    · exact .inr (.inr ⟨l.1, new, created,
        mem_eventsOf.mpr ⟨l.2, List.mem_append_right _ (List.mem_singleton_self _), he ▸ hl⟩, hid⟩)

/-- Notifications are only ever added, and not by employees. -/
theorem notifications_of_run (h : IsSiteRun site F requests start ls p) :
    start.db.notifications.rows <+: p.state.db.notifications.rows := by
  induction h using IsSiteRun.induct with
  | opened => exact List.prefix_rfl
  | polled ls q w _ hpoll ih => exact ih.trans hpoll.synchronized.raised
  | served ls l q p _ _ hstep _ ih =>
    obtain ⟨-, hstate⟩ | ⟨task, r, k, a, -, -, -, hanswer, -⟩ := answer_of_step hstep
    · rwa [hstate]
    · rwa [notifications_of_answer hanswer]

/-- What a run leaves in the tables was there or has been done by the employee it is ascribed to. -/
structure Provenance {H : Type} (site : SiteSettings) (F : PortalReaderFactory H)
    (requests : ℕ → HttpRequest) (start : Workplace) (ls : SiteLabels) (p : SitePool) : Prop where
  /-- Whatever has been written somebody has, who might do so. -/
  written : ∀ before l after q a, ls = before ++ l :: after → ⟨q, .ok a⟩ ∈ l.2 →
    q.isWrite = true → ∃ user, DoneAt site requests before l user q
  /-- Notes are only ever added, each by its author. -/
  notes : ∃ written, p.state.db.dossierNotes.rows = start.db.dossierNotes.rows ++ written ∧
    ∀ n ∈ written, ∃ user, user.id = n.authorId ∧
      DoneBy site requests ls user (.insertNote n.dossierId n.authorId n.body n.createdAt)
  /-- A work row is what the updates that were accepted have made of it since it began. -/
  work : ∀ row ∈ p.state.db.dossierWork.rows, ∃ origin before after q, ls = before ++ after ∧
    WorkBegun site F requests start origin before q ∧ Later site F q after p ∧
    row = workAfter origin after
  /-- Who has read something has opened the dossier, or has only been created since. -/
  reads : ∀ r ∈ p.state.db.notificationReads.rows, r ∈ start.db.notificationReads.rows ∨
    (∃ user unreadIds, r.notificationId ∈ unreadIds ∧ user.id = r.userId ∧
      DoneBy site requests ls user (.insertReads r.userId unreadIds r.seenAt)) ∨
    ∃ i new created, ⟨.insertUser new r.seenAt, .ok created⟩ ∈ eventsOf ls i ∧
      r.userId = created.id
  /-- Notifications are only ever added, and not by employees. -/
  notifications : start.db.notifications.rows <+: p.state.db.notifications.rows

/-- **Nobody can put another name on anything.**  Every note and every read mark that a run leaves
was there before, or it has been written by a request that was recognized as the one of the employee
it is ascribed to, and as the form of this request says.  Every work row is, in all of its columns,
what such requests have made of it, one after the other, since the portal started, a poll inserted
it with a new dossier, or such a request did. -/
theorem provenance (h : IsSiteRun site F requests start ls p) :
    Provenance site F requests start ls p where
  written before l after q a hls he hwrite := by
    subst hls
    exact h.doneAt he (by cases q <;> first | rfl | cases hwrite)
  notes := by
    obtain ⟨written, hrows, hwritten⟩ := notes_of_run h
    refine ⟨written, hrows, fun n hn ↦ ?_⟩
    obtain ⟨user, hdone⟩ := hwritten n hn
    exact ⟨user, (hdone.self rfl).symm, hdone⟩
  work row hrow := work_of_run h hrow
  reads r hr := by
    refine (reads_of_run h hr).imp_right (Or.imp_left ?_)
    rintro ⟨user, ids, hid, hdone⟩
    exact ⟨user, ids, hid, (hdone.self rfl).symm, hdone⟩
  notifications := notifications_of_run h

end

/-! ## A day of work -/

/-- An employee writes a note and twice changes the status of the dossier, the second time before
the first is through. -/
def workRequests : ℕ → HttpRequest
  | 0 => onSite none (.loginSubmit "a" "")
  | 1 => onSite (some "tu") (.addNote 0 " fini ")
  | 2 => onSite (some "tu") (.updateStatus 0 "DONE" "1")
  | _ => onSite (some "tu") (.updateStatus 0 "WAITING" "")

/-- Both updates have been accepted, and the later one has been merged into the row. -/
def worked : SitePool :=
  served workRequests 3 [3, 3, 3, 3, 2, 3] (served workRequests 2 [2, 2, 2, 2]
    (served workRequests 1 [1, 1, 1, 1]
      (served workRequests 0 [0, 0] (Pool.empty (newProcess notifiedOffice)))))

theorem exists_worked : ∃ ls, IsPlainRun workRequests (newProcess notifiedOffice) ls worked := by
  obtain ⟨_, h, -⟩ :=
    exists_served (isPlainRun_empty workRequests (newProcess notifiedOffice)) [0, 0] (i := 0) rfl
  obtain ⟨_, h, -⟩ := exists_served h [1, 1, 1, 1] (i := 1) rfl
  obtain ⟨_, h, -⟩ := exists_served h [2, 2, 2, 2] (i := 2) rfl
  obtain ⟨_, h, -⟩ := exists_served h [3, 3, 3, 3, 2, 3] (i := 3) rfl
  exact ⟨_, h⟩

/-- The note is the employee's, and so is all that has become of the work row. -/
theorem provenance_worked : ∃ ls, IsPlainRun workRequests (newProcess notifiedOffice) ls worked ∧
    (∃ n user, worked.state.db.dossierNotes.rows = [n] ∧ n.body = "fini" ∧ user.id = n.authorId ∧
      DoneBy plainSite workRequests ls user
        (.insertNote n.dossierId n.authorId n.body n.createdAt)) ∧
    ∃ row origin before after q, worked.state.db.dossierWork.rows = [row] ∧
      row.status = .waiting ∧ row.version = 2 ∧ row.updatedBy = some 1 ∧ ls = before ++ after ∧
      WorkBegun plainSite (camoufoxPortalReaderFactory .standard) workRequests
        (newProcess notifiedOffice) origin before q ∧ row = workAfter origin after := by
  obtain ⟨ls, h⟩ := exists_worked
  have hprovenance := provenance h
  have hnotes : worked.state.db.dossierNotes.rows.map DossierNote.body = ["fini"] := by
    decide +kernel
  have hwork : worked.state.db.dossierWork.rows.map (fun row ↦
      (row.status, row.version, row.updatedBy)) = [(.waiting, 2, some 1)] := by decide +kernel
  refine ⟨ls, h, ?_, ?_⟩
  · obtain ⟨n, hn, hbody⟩ := List.map_eq_singleton_iff.mp hnotes
    obtain ⟨written, hrows, hwritten⟩ := hprovenance.notes
    obtain rfl : written = [n] := hrows.symm.trans hn
    obtain ⟨user, hauthor, hdone⟩ := hwritten n (List.mem_singleton_self n)
    exact ⟨n, user, hn, hbody, hauthor, hdone⟩
  · obtain ⟨row, hrow, hcolumns⟩ := List.map_eq_singleton_iff.mp hwork
    obtain ⟨hstatus, hversion, hby⟩ : row.status = .waiting ∧ row.version = 2 ∧
        row.updatedBy = some 1 := by simpa using hcolumns
    obtain ⟨origin, before, after, q, hls, hbegun, -, horigin⟩ :=
      hprovenance.work row (hrow ▸ List.mem_singleton_self row)
    exact ⟨row, origin, before, after, q, hrow, hstatus, hversion, hby, hls, hbegun, horigin⟩

end Site
end RmaPortal
