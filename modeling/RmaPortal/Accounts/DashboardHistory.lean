import RmaPortal.Accounts.DashboardPage
import RmaPortal.Synchronization.Mirror

/-!
# The dashboard and the queue

What employees are shown is what the polls have found.  `shows_queue` puts together what is known of
a page and what is known of polls: whatever requests are served at the same time, and however far
the poll has got that is running, a page shows one row for every record that has been missed by at
most one COMPLETE poll, and the row says what has been seen last.

Two things have to come together.  The polls of a run of the site are not alone, and what is known
of polls is about polls that are; but the site is only one more employee to them, so the polls of a
run are like polls that run alone.  And a page is about all dossiers there are, while polls are
about the default account; so the dossiers that the portal has when the run begins are taken to be
those of this account, as they are if the portal has never had another one.

## What is here

* `workedOn_of_wrote` — what the site writes an employee may write; `IsSiteRun.lone` — the polls of
  a run are like polls that run alone, one after the other.
* `DashboardPage.ShowsQueue` — a page shows the queue, which is said by the findings of polls alone.
* `DossiersMirror` and `dossiersMirror_of_lone` — what polls leave behind; `Shows.showsQueue` — a
  page that shows such a database shows the queue.
* `shows_queue` — all of it together.
-/

set_option autoImplicit false

open Coroutine

namespace RmaPortal

open SyncAgreementQueue

namespace Site

/-! ## The site is an employee -/

theorem workedOn_insertReads {userId : ℕ} {seenAt : Datetime} {unreadIds : List ℕ}
    {db db' : EmployeeDatabase}
    (h : NotificationRepository.insertReads userId seenAt unreadIds db = .ok db') :
    Database.WorkedOn db.toDatabase db'.toDatabase := by
  induction unreadIds generalizing db with
  | nil =>
    cases h
    exact .refl _
  | cons id ids ih =>
    rw [NotificationRepository.insertReads, List.foldlM_cons] at h
    cases hfirst : db.insertRead ⟨id, userId, seenAt⟩ with
    | error e => simp [hfirst, bind, Except.bind] at h
    | ok db₁ =>
      simp only [hfirst, bind, Except.bind] at h
      exact (Database.WorkedOn.of_insertRead hfirst).trans (ih h)

/-- **What the site writes** an employee may write. -/
theorem workedOn_of_wrote {site : SiteSettings} {db db' : EmployeeDatabase} {e : SiteHappening}
    (h : Wrote site db e db') : Database.WorkedOn db.toDatabase db'.toDatabase := by
  cases h with
  | active | passwordHash => exact .refl _
  | reads hinsert => exact workedOn_insertReads hinsert
  | user hinsert =>
    simp only [SiteRequest.insertNewUser, bind, Except.bind, pure, Except.pure] at hinsert
    split at hinsert
    · cases hinsert
    rename_i hcreate
    split at hinsert
    · cases hinsert
    rename_i hmark
    cases hinsert
    simp only [UserRepository.create, EmployeeDatabase.insertUser, bind, Except.bind, pure,
      Except.pure] at hcreate
    split at hcreate
    · cases hcreate
    rename_i hnew
    split at hnew <;> cases hnew
    cases hcreate
    rw [NotificationRepository.markAllExistingAsReadForUser] at hmark
    have hworked := workedOn_insertReads hmark
    exact hworked
  | newWork hinsert =>
    unfold DossierWorkRepository.insert at hinsert
    split at hinsert
    · split at hinsert
      · cases hinsert
      · rename_i hrow
        cases hinsert
        exact .of_insertWork hrow
    · cases hinsert
  | work hupdate =>
    unfold DossierWorkRepository.update at hupdate
    split at hupdate
    · cases hupdate
    · split at hupdate <;> cases hupdate
      exact .of_updateWork _ _ _ _
  | note hinsert =>
    simp only [DossierNoteRepository.add, EmployeeDatabase.insertNote, bind, Except.bind, pure,
      Except.pure] at hinsert
    split at hinsert
    · cases hinsert
    rename_i hnew
    split at hnew <;> cases hnew
    cases hinsert
    exact ⟨⟨rfl, rfl, rfl, rfl⟩, fun _ hi ↦ hi⟩

section

variable {H : Type} {F : PortalReaderFactory H} {site : SiteSettings} {requests : ℕ → HttpRequest}
  {start : Workplace} {ls : SiteLabels} {p : SitePool} {w w' : Workplace}

/-- A poll does not notice what the site does. -/
theorem lone_of_answered {db : Database} (h : Portal.Lone F db w.portal) {q : SiteRequest}
    {a : Except Exn q.Val} (hanswer : (workplaceRules site).step w q a w') :
    Portal.Lone F db w'.portal := by
  obtain ⟨hstep, hpoll, hfree⟩ := answered_of_workplace hanswer
  obtain ⟨db₀, poll, kept⟩ := w
  obtain ⟨db₁, poll', kept'⟩ := w'
  cases hpoll
  have hsame (heq : db₁ = db₀) : Portal.Lone F db (Workplace.portal ⟨db₁, poll, kept'⟩) := by
    subst heq
    exact h
  obtain hpending | heq := hfree
  swap
  · exact hsame heq
  obtain ⟨heq, -⟩ | hwrote := wrote_of_step hstep
  · exact hsame heq
  have halike := (workedOn_of_wrote hwrote).toAlike
  obtain ⟨pending, profile, finished, running⟩ := poll
  obtain rfl : pending = none := hpending
  cases h with
  | idle h hfinished hpending hbetween =>
    exact .idle h hfinished rfl (Portal.between_trans hbetween (Portal.between_of_alike halike))
  | busy h hfinished hbetween htwin =>
    obtain ⟨w₀, w₁, hw₀, hafter, hpath, hw₁⟩ := htwin
    refine .busy h hfinished hbetween ⟨w₀, w₁, hw₀, hafter, hpath, ?_⟩
    exact ⟨hw₁.committed.trans halike, hw₁.pending, hw₁.portal⟩

/-- **The polls of a run** are like polls that run alone, one after the other. -/
theorem IsSiteRun.lone {db : EmployeeDatabase} {profile : PortalState}
    (h : IsSiteRun site F requests (.opened db profile) ls p) :
    Portal.Lone F db.toDatabase p.state.portal := by
  induction h using IsSiteRun.induct with
  | opened => exact .idle (.nil _) rfl rfl (.refl _)
  | polled ls q w _ hpoll ih => exact ih.step hpoll.step
  | served ls l q p _ _ hstep _ ih =>
    obtain ⟨-, hstate⟩ | ⟨task, r, k, a, -, -, -, hanswer⟩ := hstep.single fun _ ↦ rfl
    · rwa [hstate]
    · exact lone_of_answered ih hanswer

end

/-! ## The queue -/

/-- A row of the dashboard tells what a row of the queue does. -/
structure DashboardRow.Tells (x : DashboardRow) (row : QueueRow) : Prop where
  dossierNumber : x.dossierNumber = row.dossierNumber
  insuredName : x.insuredName = row.insuredName
  registration : x.registration = row.registration
  garage : x.garage = row.garage
  portalStatus : x.portalStatus = row.portalStatus

/-- **A page shows the queue**: there is one row for every record of it. -/
structure DashboardPage.ShowsQueue (site : SiteSettings) (fs : List Finding) (page : DashboardPage)
    (records : List String) (row : String → DashboardRow) : Prop where
  nodup : records.Nodup
  queued : ∀ r, r ∈ records ↔ ∃ seen, Queued fs r seen
  tells : ∀ r seen, Queued fs r seen → DashboardRow.Tells (row r) seen
  /-- The page has the rows that the filters accept … -/
  rows : page.rows.Perm ((records.map row).filter fun x ↦ page.filters.Accepts site.casefold x)
  /-- … and counts all of them. -/
  newForMe : page.counts.newForMe = (records.map row).countP DashboardRow.unread
  ofStatus : ∀ status, page.counts.ofStatus status =
    (records.map row).countP fun x ↦ x.workStatus == status
  /-- One can choose among the portal statuses in the queue. -/
  options : ∀ status, status ∈ page.portalStatusOptions ↔
    status ≠ "" ∧ ∃ r seen, Queued fs r seen ∧ seen.portalStatus = status

section

variable {db db' : Database} {ps : List Poll} {H : Type} {F : PortalReaderFactory H} {accountId : ℕ}

/-- If all dossiers belong to the default account, they do so after polls. -/
theorem account_of_polls (h : Polls F db ps db')
    (hold : ∀ d ∈ db.dossiers.rows, defaultId db = some d.portalAccountId) {d : Dossier}
    (hd : d ∈ db'.dossiers.rows) : defaultId db = some d.portalAccountId := by
  by_contra hne
  have hfound : db'.dossiers.byRecord.find? d.recordKey = some d :=
    Table.find?_of_mem (t := db'.dossiers.byRecord) hd
  rw [h.find?_foreign (k := d.recordKey) hne] at hfound
  exact hne (hold d (Table.mem_of_find? (t := db.dossiers.byRecord) hfound))

end

theorem tells_rowOf {userId : ℕ} {db : EmployeeDatabase} {d : Dossier} {seen : QueueRow}
    (h : d.Mirrors seen) : DashboardRow.Tells (rowOf userId db d) seen := by
  rw [← h]
  exact ⟨rfl, rfl, rfl, rfl, rfl⟩

section

variable {site : SiteSettings} {H : Type} {F : PortalReaderFactory H} {query : DashboardParams}
  {userId accountId : ℕ} {db : Database} {s : EmployeeDatabase} {fs : List Finding}
  {page : DashboardPage}

/-- What is known of the dossiers, and of the records that have been seen. -/
structure DossiersMirror (fs : List Finding) (accountId : ℕ) (db : Database) : Prop where
  account : ∀ d ∈ db.dossiers.rows, d.portalAccountId = accountId
  active : ∀ r, (∃ d, db.dossier accountId r = some d ∧ d.active = true) ↔ ∃ seen, Queued fs r seen
  mirrors : ∀ r seen, Queued fs r seen → ∀ d, db.dossier accountId r = some d → d.Mirrors seen

/-- A page that shows such a database shows the queue. -/
theorem DashboardPage.Shows.showsQueue (h : page.Shows site query userId s)
    (hmirror : DossiersMirror fs accountId s.toDatabase) :
    ∃ records row, page.ShowsQueue site fs records row := by
  let active := s.dossiers.rows.filter Dossier.active
  let dossierOf r := (s.toDatabase.dossier accountId r).getD default
  have hdossier : ∀ d ∈ active, s.toDatabase.dossier accountId d.recordId = some d := by
    intro d hd
    obtain ⟨hd, -⟩ := List.mem_filter.mp hd
    rw [← hmirror.account d hd]
    exact Table.find?_of_mem (t := s.dossiers.byRecord) hd
  have hrows : (active.map Dossier.recordId).map (fun r ↦ rowOf userId s (dossierOf r)) =
      active.map (rowOf userId s) := by
    rw [List.map_map]
    refine List.map_congr_left fun d hd ↦ ?_
    simp only [Function.comp_apply, dossierOf, hdossier d hd, Option.getD_some]
  have hactive : ∀ r, r ∈ active.map Dossier.recordId ↔
      ∃ d, s.toDatabase.dossier accountId r = some d ∧ d.active = true := by
    intro r
    rw [List.mem_map]
    constructor
    · rintro ⟨d, hd, rfl⟩
      exact ⟨d, hdossier d hd, (List.mem_filter.mp hd).2⟩
    · rintro ⟨d, hd, hactive⟩
      obtain ⟨hmem, hrecord⟩ := Database.mem_of_dossier hd
      exact ⟨d, List.mem_filter.mpr ⟨hmem, hactive⟩, hrecord⟩
  refine ⟨active.map Dossier.recordId, fun r ↦ rowOf userId s (dossierOf r), ?_, fun r ↦ ?_,
    fun r seen hqueued ↦ ?_, ?_, ?_, fun status ↦ ?_, fun status ↦ ?_⟩
  · have hunique : (active.map Dossier.recordKey).Nodup :=
      s.dossiers.unique.sublist (List.filter_sublist.map _)
    have hkey : active.map Dossier.recordKey =
        (active.map Dossier.recordId).map fun r ↦ (accountId, r) := by
      rw [List.map_map]
      refine List.map_congr_left fun d hd ↦ ?_
      rw [Function.comp_apply, ← hmirror.account d (List.mem_filter.mp hd).1, Dossier.recordKey]
    rw [hkey] at hunique
    exact hunique.of_map
  · rw [hactive, hmirror.active]
  · obtain ⟨d, hd, -⟩ := (hmirror.active r).mpr ⟨seen, hqueued⟩
    simp only [dossierOf, hd, Option.getD_some]
    exact tells_rowOf (hmirror.mirrors r seen hqueued d hd)
  · rw [hrows]
    exact h.rows
  · rw [hrows, h.newForMe]
    simp only [active, List.countP_map, List.countP_filter, Function.comp_def, unread_rowOf,
      Bool.and_comm]
  · rw [hrows, h.ofStatus]
    simp only [active, List.countP_map, List.countP_filter, Function.comp_def, Bool.and_comm]
    rfl
  · rw [h.options]
    refine and_congr_right fun _ ↦ ⟨?_, ?_⟩
    · rintro ⟨d, hd, hact, rfl⟩
      have hfound := hdossier d (List.mem_filter.mpr ⟨hd, hact⟩)
      obtain ⟨seen, hqueued⟩ := (hmirror.active d.recordId).mp ⟨d, hfound, hact⟩
      refine ⟨d.recordId, seen, hqueued, ?_⟩
      rw [← hmirror.mirrors _ _ hqueued d hfound]
      rfl
    · rintro ⟨r, seen, hqueued, rfl⟩
      obtain ⟨d, hd, hact⟩ := (hmirror.active r).mpr ⟨seen, hqueued⟩
      refine ⟨d, (Database.mem_of_dossier hd).1, hact, ?_⟩
      rw [← hmirror.mirrors _ _ hqueued d hd]
      rfl

/-- **What polls leave**: the dossiers mirror what the polls have found, the one that is running
too, if there were none at first or two COMPLETE polls have been made. -/
theorem dossiersMirror_of_lone {p : Portal} (h : Portal.Lone F db p)
    (hacc : defaultId db = some accountId)
    (hold : ∀ d ∈ db.dossiers.rows, d.portalAccountId = accountId)
    (hstart : db.dossiers.rows = [] ∨ 2 ≤ p.findings.countP Finding.completes) :
    DossiersMirror p.findings accountId p.db := by
  obtain ⟨ps, db', hpolls, hbetween, hfindings⟩ := h.exists_findings
  have hdossier : ∀ r, p.db.dossier accountId r = db'.dossier accountId r := by
    intro r
    rw [Database.dossier, hbetween.dossiers]
    rfl
  rw [← hfindings] at hstart ⊢
  have hstart' : (∀ r, db.dossier accountId r = none) ∨
      2 ≤ (findings ps).countP Finding.completes := by
    refine hstart.imp_left fun hempty r ↦ ?_
    rw [Database.dossier, Table.find?_eq_none, DossierTable.byRecord, hempty]
    simp
  refine ⟨fun d hd ↦ ?_, fun r ↦ ?_, fun r seen hqueued d hd ↦ ?_⟩
  · rw [hbetween.dossiers] at hd
    have haccount := account_of_polls hpolls (fun d hd ↦ by rw [hacc, hold d hd]) hd
    exact (Option.some.inj (hacc.symm.trans haccount)).symm
  · simp only [hdossier]
    exact hpolls.active_iff hacc hstart' r
  · obtain ⟨missed, hlast, -⟩ := hqueued
    obtain ⟨d', hd', hmirrors, -⟩ := hpolls.exists_mirror hacc hlast
    rw [hdossier, hd'] at hd
    cases hd
    exact hmirrors

variable {requests : ℕ → HttpRequest} {ls : SiteLabels} {p : SitePool} {profile : PortalState}

/-- **Every page of the dashboard shows the queue**, as the polls had found it at some moment while
the page was put together: one row for every record that has been missed by at most one COMPLETE
poll, with what has been seen of it last.  This is said of the pages that are asked for and of those
that are sent after a refresh, which has just synchronized, or has tried to. -/
theorem shows_queue {db : EmployeeDatabase}
    (h : IsSiteRun site F requests (.opened db profile) ls p)
    (hacc : defaultId db.toDatabase = some accountId)
    (hold : ∀ d ∈ db.dossiers.rows, d.portalAccountId = accountId) {i : ℕ}
    {task : Task SiteRequest.Val Exn Response} (htask : p.tasks i = some task) {user : User}
    (hover : task.rest = .done (.ok (.dashboard user page))) :
    ∃ before l after q, ls = before ++ l :: after ∧ l.1 = i ∧
      IsSiteRun site F requests (.opened db profile) before q ∧
      (db.dossiers.rows = [] ∨ 2 ≤ q.state.portal.findings.countP Finding.completes →
        ∃ records row, page.ShowsQueue site q.state.portal.findings records row) := by
  obtain ⟨query, -, before, l, after, q, hls, hl, hq, -, filters, account, session, fragment,
    hfilters, rfl⟩ := h.listed htask hover
  refine ⟨before, l, after, q, hls, hl, hq, fun hstart ↦ ?_⟩
  have hmirror := dossiersMirror_of_lone hq.lone hacc hold hstart
  have hshows : DashboardPage.Shows site query user.id q.state.db _ :=
    shows_of_listForDashboard hfilters account session fragment
  exact hshows.showsQueue hmirror

end

/-! ## A poll and a session -/

section Witness

variable {H : Type} {F : PortalReaderFactory H}

/-- Requests that a poll makes, one after the other. -/
theorem pollSteps_of_exec {c : Prog SyncResult} {w w' : World} {t : List Happening}
    {o : Except Exn SyncResult} (h : Exec world c w t o w') (finished : List (List Happening))
    (t₀ : List Happening) : Relation.ReflTransGen (Portal.Step F .poll)
      ⟨w, finished, some (t₀, c)⟩ ⟨w', finished, some (t₀ ++ t, .done o)⟩ := by
  induction c generalizing w t₀ t with
  | done o =>
    obtain ⟨rfl, rfl, rfl⟩ := h
    rw [List.append_nil]
  | ask r k ih =>
    obtain ⟨_, w₁, t₁, ⟨b, hb⟩, rfl, h⟩ := h
    obtain ⟨rfl, rfl⟩ := Prod.mk.inj hb
    have hrest := ih _ h (t₀ ++ [⟨r, (serve r b w).1⟩])
    rw [List.append_assoc] at hrest
    exact .head (.asks b) hrest

/-- What the poll can do it can do beside the site. -/
theorem IsSiteRun.exists_polled {site : SiteSettings} {requests : ℕ → HttpRequest}
    {start : Workplace}
    {ls : SiteLabels} {p : SitePool} (h : IsSiteRun site F requests start ls p) {s : Portal}
    (hpoll : Relation.ReflTransGen (Portal.Step F .poll) p.state.portal s) :
    ∃ w, IsSiteRun site F requests start ls ⟨w, p.tasks⟩ ∧ w.portal = s ∧
      w.db.users = p.state.db.users := by
  induction hpoll with
  | refl => exact ⟨p.state, h, rfl, rfl⟩
  | tail _ hstep ih =>
    obtain ⟨w, hw, hportal, husers⟩ := ih
    obtain ⟨w', hstep', hportal'⟩ := exists_pollStep (hportal ▸ hstep)
    exact ⟨w', hw.polled hstep', hportal', hstep'.users.trans husers⟩

/-- A whole poll, as suggested. -/
def afterPoll (F : PortalReaderFactory H) (suggest : (r : Request) → Except Exn r.Val)
    (s : Portal) : Portal :=
  let r := run serve (fun _ ↦ suggest) (execute F) 0 s.state
  ⟨r.2.2, s.finished ++ [r.1], none⟩

/-- Any time when no poll is running, one may. -/
theorem IsSiteRun.exists_afterPoll {site : SiteSettings} {requests : ℕ → HttpRequest}
    {start : Workplace} {ls : SiteLabels} {p : SitePool} (h : IsSiteRun site F requests start ls p)
    (suggest : (r : Request) → Except Exn r.Val) (hidle : p.state.portal.running = none) :
    ∃ w, IsSiteRun site F requests start ls ⟨w, p.tasks⟩ ∧
      w.portal = afterPoll F suggest p.state.portal ∧ w.db.users = p.state.db.users := by
  refine h.exists_polled ?_
  have hexec : Exec world _ _ _ _ _ := exec_run serve (fun _ ↦ suggest) (execute F) 0
    p.state.portal.state
  generalize p.state.portal = s at hidle hexec ⊢
  obtain ⟨w, finished, running⟩ := s
  obtain rfl : running = none := hidle
  exact .head .begins (.tail (pollSteps_of_exec hexec finished []) .ends)

end Witness

/-- Two workplaces are the same if the polls and the users cannot tell them apart. -/
theorem eq_of_portal {w w' : Workplace} (hportal : w.portal = w'.portal)
    (husers : w.db.users = w'.db.users) : w = w' := by
  obtain ⟨⟨db, users, _, _⟩, ⟨pending, profile, finished, running⟩, _⟩ := w
  obtain ⟨⟨db', users', _, _⟩, ⟨pending', profile', finished', running'⟩, _⟩ := w'
  obtain rfl : users = users' := husers
  simp only [Workplace.portal, Portal.mk.injEq, World.mk.injEq, DbState.mk.injEq] at hportal
  obtain ⟨⟨⟨rfl, rfl⟩, rfl⟩, rfl, rfl⟩ := hportal
  rfl

/-- The first poll of the portal, and where it leaves it. -/
def firstPoll : List Happening × Except Exn SyncResult × World :=
  run serve (fun _ ↦ (Script.shows [.ofStatus "a" "open"]).suggest)
    (execute (camoufoxPortalReaderFactory .standard)) 0 ⟨.idle staffed.toDatabase, .start⟩

theorem firstPoll_reads : ∀ r ∈ firstPoll.2.2.db.committed.notificationReads.rows,
    (firstPoll.2.2.db.committed.notifications.find? r.notificationId).isSome := by
  decide +kernel

theorem firstPoll_users : ∀ r ∈ firstPoll.2.2.db.committed.notificationReads.rows,
    (staffed.users.find? r.userId).isSome := by
  decide +kernel

theorem firstPoll_kept : ∀ db', firstPoll.2.2.db.pending = some db' →
    Synchronized firstPoll.2.2.db.committed db' := by
  intro db' hdb'
  have hnone : firstPoll.2.2.db.pending.isNone = true := by decide +kernel
  rw [hdb'] at hnone
  cases hnone

/-- The portal has been polled, and shows one dossier. -/
def polledOnce : Workplace where
  db :=
    { toDatabase := firstPoll.2.2.db.committed
      users := staffed.users
      reads_notification := firstPoll_reads
      reads_user := firstPoll_users }
  poll := ⟨firstPoll.2.2.db.pending, firstPoll.2.2.portal, [firstPoll.1], none⟩
  kept := firstPoll_kept

theorem isPlainRun_polledOnce :
    IsPlainRun sessionRequests (newProcess staffed) [] (Pool.empty polledOnce) := by
  obtain ⟨w, hrun, hportal, husers⟩ :=
    (isPlainRun_empty sessionRequests (newProcess staffed)).exists_afterPoll
      (Script.shows [.ofStatus "a" "open"]).suggest rfl
  obtain rfl : w = polledOnce := eq_of_portal hportal husers
  exact hrun

/-- The employee logs in, and asks for the dashboard. -/
def polledLoggedIn : SitePool :=
  served sessionRequests 2 [2, 2, 2, 2, 2, 2, 2]
    (served sessionRequests 0 [0, 0] (Pool.empty polledOnce))

/-- They are shown the queue, which is not empty. -/
theorem shows_queue_polledOnce : ∃ ls page fs records row,
    IsPlainRun sessionRequests (newProcess staffed) ls polledLoggedIn ∧
      sentPage polledLoggedIn 2 = some page ∧
      page.rows.map DashboardRow.portalStatus = ["open"] ∧
      page.ShowsQueue plainSite fs records row := by
  obtain ⟨_, h, -⟩ := exists_served isPlainRun_polledOnce [0, 0] (i := 0) rfl
  obtain ⟨_, h, -⟩ := exists_served h [2, 2, 2, 2, 2, 2, 2] (i := 2) rfl
  have hopen : (sentPage polledLoggedIn 2).map
      (fun page ↦ page.rows.map DashboardRow.portalStatus) =
      some ["open"] := by decide +kernel
  obtain ⟨page, hsent, hopen⟩ := Option.map_eq_some_iff.mp hopen
  obtain ⟨task, user, htask, hover⟩ := exists_of_sentPage hsent
  have hacc : defaultId staffed.toDatabase = some 1 := rfl
  obtain ⟨before, l, after, q, -, -, -, hshows⟩ := shows_queue h hacc
    (fun d hd ↦ absurd hd List.not_mem_nil) htask hover
  obtain ⟨records, row, hshows⟩ := hshows (.inl rfl)
  exact ⟨_, page, _, records, row, h, hsent, hopen, hshows⟩

end Site
end RmaPortal
