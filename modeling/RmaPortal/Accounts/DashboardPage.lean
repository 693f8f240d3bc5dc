import Mathlib.Data.List.Dedup
import RmaPortal.Accounts.ReadMarks
import RmaPortal.Application.DashboardCounts

/-!
# What the dashboard shows

Two routes send the dashboard.  One shows it as it is, and the other first waits for a
synchronization and shows it then, minutes after it has looked up who is asking.  Both end with
`renderDashboard`, which puts the page together from one query for the rows, its counts and its
choices of portal statuses too.

`shows_of_run` says of every page that is ever sent that it shows the database at one moment while
the request was served: for the user who has asked, and whatever else was going on.  The session
card on the page is not from this query; it is about the portal, and what it shows is asked for
afterwards.

## What is here

* `DashboardPage.Shows` — a page shows a database to a user: its rows, their order, its counts and
  its choices are all those of one database.
* `shows_of_listForDashboard` — what is put together from the rows of a database shows it.  This is
  where the query, the filters and the counts of the dashboard meet, each by its own specification.
* `ends_dashboard` — the inversion of the two routes: a page that is sent is put together from the
  answer to one query.
* `IsSiteRun.listed` and `shows_of_run` — in a run this answer is the dashboard of one state.
-/

set_option autoImplicit false

open Coroutine

namespace RmaPortal
namespace Site

variable (site : SiteSettings)

/-- The work status a dossier has on the dashboard. -/
def workStatusOf (db : EmployeeDatabase) (d : Dossier) : WorkStatus :=
  ((DossierWorkRepository.get d.id db.toDatabase).map DossierWork.status).getD .toDo

/-- The row of a dossier. -/
def rowOf (userId : ℕ) (db : EmployeeDatabase) (d : Dossier) : DashboardRow :=
  DossierRepository.dashboardRow d (DossierWorkRepository.get d.id db.toDatabase)
    (DossierRepository.unreadCount userId db.toDatabase d)
    (DossierRepository.latestDetection db.toDatabase d)

/-- **A page shows the database to a user.** -/
structure DashboardPage.Shows (query : DashboardParams) (userId : ℕ) (db : EmployeeDatabase)
    (page : DashboardPage) : Prop where
  filters : parseFilters query = .ok page.filters
  /-- The rows are those of the active dossiers that the filters accept … -/
  rows : page.rows.Perm (((db.dossiers.rows.filter Dossier.active).map (rowOf userId db)).filter
    fun r ↦ page.filters.Accepts site.casefold r)
  /-- … and they are in order. -/
  sorted : page.rows.Pairwise (Dashboard.ShownBefore site.timestamp)
  /-- The counts are those of all active dossiers. -/
  newForMe : page.counts.newForMe = db.dossiers.rows.countP fun d ↦
    d.active && NotificationRepository.isUnreadForUser d.id userId db.toDatabase
  ofStatus : ∀ status, page.counts.ofStatus status = db.dossiers.rows.countP fun d ↦
    d.active && workStatusOf db d == status
  /-- One can choose among the portal statuses there are. -/
  options : ∀ status, status ∈ page.portalStatusOptions ↔
    status ≠ "" ∧ ∃ d ∈ db.dossiers.rows, d.active = true ∧ d.portalStatus = status
  optionsSorted : page.portalStatusOptions.Pairwise (· < ·)

section

variable {site} {query : DashboardParams} {userId : ℕ} {db : EmployeeDatabase}

theorem unread_rowOf (d : Dossier) : (rowOf userId db d).unread =
    NotificationRepository.isUnreadForUser d.id userId db.toDatabase := by
  rw [rowOf, DossierRepository.dashboardRow, NotificationRepository.isUnreadForUser,
    DossierRepository.unreadCount_eq]
  exact decide_eq_decide.mpr Nat.pos_iff_ne_zero.symm

theorem listForDashboard_perm_rowOf
    (order : RowOrder (Dossier × Option DossierWork × ℕ × Option Datetime)) :
    (DossierRepository.listForDashboard order userId db.toDatabase).Perm
      ((db.dossiers.rows.filter Dossier.active).map (rowOf userId db)) :=
  DossierRepository.listForDashboard_perm order userId db.toDatabase

theorem mem_portalStatusOptions {rows : List DashboardRow} {status : String} :
    status ∈ portalStatusOptions rows ↔ status ≠ "" ∧ ∃ r ∈ rows, r.portalStatus = status := by
  simp only [portalStatusOptions, sortedBy_perm.mem_iff, List.mem_dedup, List.mem_filter,
    List.mem_map, decide_eq_true_eq]
  exact and_comm

theorem sorted_portalStatusOptions (rows : List DashboardRow) :
    (portalStatusOptions rows).Pairwise (· < ·) := by
  have hle : (portalStatusOptions rows).Pairwise (· ≤ ·) := pairwise_sortedBy
  have hnodup : (portalStatusOptions rows).Nodup :=
    sortedBy_perm.nodup_iff.mpr (List.nodup_dedup _)
  exact (hle.and hnodup).imp fun h ↦ lt_of_le_of_ne h.1 h.2

/-- The page that is put together from the rows of a database shows it. -/
theorem shows_of_listForDashboard {filters : Dashboard.Filters}
    (hfilters : parseFilters query = .ok filters) (account : Option PortalAccount)
    (session : SessionView) (fragment : Bool) :
    let rows := DossierRepository.listForDashboard site.dashboardOrder userId db.toDatabase
    DashboardPage.Shows site query userId db
      { rows := Dashboard.filterAndSort site.casefold site.timestamp rows filters
        counts := Dashboard.computeCounts rows, portalAccount := account, session := session
        filters := filters, portalStatusOptions := portalStatusOptions rows,
        fragment := fragment } := by
  intro rows
  have hperm : rows.Perm ((db.dossiers.rows.filter Dossier.active).map (rowOf userId db)) :=
    listForDashboard_perm_rowOf site.dashboardOrder
  refine ⟨hfilters, ?_, Dashboard.pairwise_filterAndSort, ?_, fun status ↦ ?_, fun status ↦ ?_,
    sorted_portalStatusOptions rows⟩
  · exact Dashboard.filterAndSort_perm.trans (hperm.filter _)
  · rw [Dashboard.computeCounts_perm hperm]
    simp only [Dashboard.computeCounts, List.countP_map, List.countP_filter, Function.comp_def,
      unread_rowOf, Bool.and_comm]
  · rw [Dashboard.computeCounts_perm hperm, Dashboard.ofStatus_computeCounts]
    simp only [Dashboard.countStatus, List.countP_map, List.countP_filter, Function.comp_def,
      Bool.and_comm]
    rfl
  · rw [mem_portalStatusOptions]
    simp only [hperm.mem_iff, List.mem_map, List.mem_filter]
    refine and_congr_right fun _ ↦ ⟨?_, ?_⟩
    · rintro ⟨r, ⟨d, ⟨hd, hactive⟩, rfl⟩, hstatus⟩
      exact ⟨d, hd, hactive, hstatus⟩
    · rintro ⟨d, hd, hactive, hstatus⟩
      exact ⟨_, ⟨d, ⟨hd, hactive⟩, rfl⟩, hstatus⟩

/-! ## Runs -/

variable {H : Type} {F : PortalReaderFactory H} {r : HttpRequest} {t : List SiteHappening}
  {requests : ℕ → HttpRequest} {start : Workplace} {ls : SiteLabels} {p : SitePool}

/-- A page that is rendered is put together from the rows of one query, for the user of the page. -/
theorem ends_renderDashboard {acting user : User} {fragment : Bool} {page : DashboardPage}
    (h : Ends (renderDashboard site acting query fragment) t (.ok (.dashboard user page))) :
    ∃ filters account session rows, ⟨.listForDashboard user.id, .ok rows⟩ ∈ t ∧
      parseFilters query = .ok filters ∧ page =
        { rows := Dashboard.filterAndSort site.casefold site.timestamp rows filters
          counts := Dashboard.computeCounts rows, portalAccount := account, session := session
          filters := filters, portalStatusOptions := portalStatusOptions rows
          fragment := fragment } := by
  rcases ends_bind_iff.mp h with ⟨e, -, ho⟩ | ⟨t₁, filters, t₂, rfl, hparsed, h₁⟩
  · cases ho
  obtain ⟨-, hfilters⟩ := ends_done_iff.mp hparsed
  rcases ends_bind_iff.mp h₁ with ⟨e, -, ho⟩ | ⟨t₃, account, t₄, rfl, -, h₂⟩
  · cases ho
  rcases ends_bind_iff.mp h₂ with ⟨e, -, ho⟩ | ⟨t₅, rows, t₆, rfl, hrows, h₃⟩
  · cases ho
  obtain rfl := ends_perform_iff.mp hrows
  rcases ends_bind_iff.mp h₃ with ⟨e, -, ho⟩ | ⟨t₇, session, t₈, rfl, -, h₄⟩
  · cases ho
  obtain ⟨-, ho⟩ := ends_done_iff.mp h₄
  cases ho
  exact ⟨filters, account, session, rows, by simp, hfilters.symm, rfl⟩

/-- **How a page comes to be sent**: by one of the two routes, and at the end of it the page is
rendered. -/
theorem ends_dashboard {user : User} {page : DashboardPage}
    (h : Ends (handle site r) t (.ok (.dashboard user page))) :
    ∃ query acting fragment t₁ t₂, r.route.dashboardQuery = some query ∧ t = t₁ ++ t₂ ∧
      Ends (renderDashboard site acting query fragment) t₂ (.ok (.dashboard user page)) := by
  obtain ⟨query, hquery⟩ := Route.query_of_allows (answers_handle t _ h)
  unfold handle at h
  cases hroute : r.route with
  | dashboard query' =>
    rw [hroute] at h hquery
    obtain rfl : query' = query := Option.some.inj hquery
    rcases ends_bind_iff.mp h with ⟨e, -, ho⟩ | ⟨t₁, acting, t₂, rfl, -, h⟩
    · cases ho
    · exact ⟨query', acting, r.htmx, t₁, t₂, rfl, rfl, h⟩
  | refresh query' =>
    rw [hroute] at h hquery
    obtain rfl : query' = query := Option.some.inj hquery
    rcases ends_bind_iff.mp h with ⟨e, -, ho⟩ | ⟨t₁, acting, t₂, rfl, -, h₁⟩
    · cases ho
    rcases ends_bind_iff.mp h₁ with ⟨e, -, ho⟩ | ⟨t₃, _, t₄, rfl, -, h₂⟩
    · cases ho
    rcases ends_bind_iff.mp h₂ with ⟨e, -, ho⟩ | ⟨t₅, _, t₆, rfl, -, h₃⟩
    · cases ho
    exact ⟨query', acting, true, t₁ ++ (t₃ ++ t₅), t₆, rfl, by simp, h₃⟩
  | _ =>
    rw [hroute] at hquery
    cases hquery

/-- A page that is sent is put together from the rows that one query has found, for the user who
asks. -/
theorem IsSiteRun.listed (h : IsSiteRun site F requests start ls p) {i : ℕ}
    {task : Task SiteRequest.Val Exn Response} (htask : p.tasks i = some task) {user : User}
    {page : DashboardPage} (hover : task.rest = .done (.ok (.dashboard user page))) :
    ∃ query, (requests i).route.dashboardQuery = some query ∧ ∃ before l after q,
      ls = before ++ l :: after ∧ l.1 = i ∧ IsSiteRun site F requests start before q ∧
      (∃ acting, Recognized site (requests i) (eventsOf before i) acting ∧ acting.id = user.id) ∧
      ∃ filters account session fragment, parseFilters query = .ok filters ∧
        let rows := DossierRepository.listForDashboard site.dashboardOrder user.id
          q.state.db.toDatabase
        page =
          { rows := Dashboard.filterAndSort site.casefold site.timestamp rows filters
            counts := Dashboard.computeCounts rows, portalAccount := account, session := session
            filters := filters, portalStatusOptions := portalStatusOptions rows
            fragment := fragment } := by
  obtain ⟨query, acting, fragment, t₁, t₂, hquery, ht, hends⟩ := ends_dashboard (h.ends htask hover)
  obtain ⟨filters, account, session, rows, hrows, hfilters, rfl⟩ := ends_renderDashboard hends
  have hasked : ⟨.listForDashboard user.id, .ok rows⟩ ∈ eventsOf ls i := by
    rw [ht]
    exact List.mem_append_right t₁ hrows
  obtain ⟨before, after, q, q', rfl, hq, ⟨b, hanswer⟩, -⟩ := h.cut hasked
  have hread : rows = DossierRepository.listForDashboard site.dashboardOrder user.id
      q.state.db.toDatabase := by
    cases b with
    | error e => cases hanswer
    | ok b => exact (Except.ok.inj (congrArg Prod.fst hanswer)).symm
  subst hread
  obtain hopen | ⟨acting, hrecognized, hpermitted⟩ := h.mayAsk (List.mem_singleton_self _)
  · cases hopen
  exact ⟨query, hquery, before, _, after, q, rfl, rfl, hq,
    ⟨acting, hrecognized, (hpermitted.self user.id rfl).symm⟩, filters, account, session, fragment,
    hfilters, rfl⟩

/-- **Every page of the dashboard shows the database** as it was, for the user of the page, at some
moment while the page was put together: the pages that are asked for, and those that are sent after
a refresh. -/
theorem shows_of_run (h : IsSiteRun site F requests start ls p) {i : ℕ}
    {task : Task SiteRequest.Val Exn Response} (htask : p.tasks i = some task) {user : User}
    {page : DashboardPage} (hover : task.rest = .done (.ok (.dashboard user page))) :
    ∃ query, (requests i).route.dashboardQuery = some query ∧ ∃ before l after q,
      ls = before ++ l :: after ∧ l.1 = i ∧ IsSiteRun site F requests start before q ∧
      (∃ acting, Recognized site (requests i) (eventsOf before i) acting ∧ acting.id = user.id) ∧
      page.Shows site query user.id q.state.db := by
  obtain ⟨query, hquery, before, l, after, q, hls, hl, hq, hacting, filters, account, session,
    fragment, hfilters, rfl⟩ := h.listed htask hover
  exact ⟨query, hquery, before, l, after, q, hls, hl, hq, hacting,
    shows_of_listForDashboard hfilters account session fragment⟩

end

/-- The page that is sent in response to a request, if it is the dashboard. -/
def sentPage (p : SitePool) (i : ℕ) : Option DashboardPage :=
  match p.tasks i with
  | some ⟨_, .done (.ok (.dashboard _ page)), _⟩ => some page
  | _ => none

theorem exists_of_sentPage {p : SitePool} {i : ℕ} {page : DashboardPage}
    (h : sentPage p i = some page) :
    ∃ task user, p.tasks i = some task ∧ task.rest = .done (.ok (.dashboard user page)) := by
  unfold sentPage at h
  split at h
  · rename_i htask
    cases h
    exact ⟨_, _, htask, rfl⟩
  · cases h

/-! ## A refresh -/

/-- A dossier that is in the queue. -/
def queuedDossier : Dossier := { (default : Dossier) with active := true, portalStatus := "open" }

/-- An office with this dossier, and an employee who has not opened it. -/
def unopenedOffice : EmployeeDatabase where
  toDatabase :=
    { Database.ofWork queuedDossier ⟨queuedDossier.id, .toDo, 1, none, default⟩ rfl with
      notifications := notifiedOffice.notifications
      notifications_dossier := fun n hn ↦ by
        obtain rfl := List.mem_singleton.mp hn
        rfl }
  users := notifiedOffice.users
  reads_notification _ hr := absurd hr List.not_mem_nil
  reads_user _ hr := absurd hr List.not_mem_nil

/-- An employee logs in, looks at the dashboard, and refreshes it. -/
def refreshRequests : ℕ → HttpRequest
  | 0 => onSite none (.loginSubmit "a" "")
  | 1 => onSite (some "tu") (.dashboard { workStatus := "DONE" })
  | _ => onSite (some "tu") (.refresh { unreadOnly := "1" })

/-- Both pages have been sent. -/
def refreshed : SitePool :=
  served refreshRequests 2 [2, 2, 2, 2, 2, 2, 2, 2] (served refreshRequests 1 [1, 1, 1, 1, 1, 1, 1]
    (served refreshRequests 0 [0, 0] (Pool.empty (newProcess unopenedOffice))))

theorem exists_refreshed :
    ∃ ls, IsPlainRun refreshRequests (newProcess unopenedOffice) ls refreshed := by
  obtain ⟨_, h, -⟩ :=
    exists_served (isPlainRun_empty refreshRequests (newProcess unopenedOffice)) [0, 0] (i := 0) rfl
  obtain ⟨_, h, -⟩ := exists_served h [1, 1, 1, 1, 1, 1, 1] (i := 1) rfl
  obtain ⟨_, h, -⟩ := exists_served h [2, 2, 2, 2, 2, 2, 2, 2] (i := 2) rfl
  exact ⟨_, h⟩

/-- The page after the refresh shows the database, too: the one dossier, which is unread. -/
theorem shows_of_run_refreshed : ∃ ls page userId db,
    IsPlainRun refreshRequests (newProcess unopenedOffice) ls refreshed ∧
      sentPage refreshed 2 = some page ∧ page.rows.map DashboardRow.dossierId = [0] ∧
      page.Shows plainSite { unreadOnly := "1" } userId db := by
  obtain ⟨ls, h⟩ := exists_refreshed
  have hone : (sentPage refreshed 2).map (fun page ↦ page.rows.map DashboardRow.dossierId) =
      some [0] := by decide +kernel
  obtain ⟨page, hsent, hone⟩ := Option.map_eq_some_iff.mp hone
  obtain ⟨task, user, htask, hover⟩ := exists_of_sentPage hsent
  obtain ⟨query, hquery, _, _, _, q, -, -, -, -, hshows⟩ := shows_of_run h htask hover
  cases hquery
  exact ⟨ls, page, user.id, q.state.db, h, hsent, hone, hshows⟩

end Site
end RmaPortal
