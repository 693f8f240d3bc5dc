import RmaPortal.Accounts.DashboardHistory
import RmaPortal.Synchronization.Appearances

/-!
# What is unread has appeared

A dossier is unread for an employee because its record has appeared in the queue since they last
opened its page.  This says nothing of notifications, read marks or dossiers: only of what polls
have found, and of pages that have been opened.

Two results are put together.  `Accounts.ReadMarks` says what is unread in terms of notifications
that polls have raised, and `Synchronization.Notifications` when a poll raises one.  What is
between them is that dossiers and records are two names of one thing, as long as the run lasts.

## What is here

* `recordKey_of_later`, `find?_recordKey` — a dossier keeps its record, and what is found by its
  identifier is found by its record too.
* `notified_before`, `raised_iff_appeared` — a step of a poll raises a notification of a dossier
  if and only if the record appears.
* `Told` — in a run an employee is told of a record: a step of a poll is made in which it appears,
  and they are there.
* `unread_iff_appeared` — in any run from a portal that has never been polled, a dossier is unread
  for a user if and only if they have been told of its record and have not opened its page since.
* `polledTwice` — a portal that has been polled when there was nothing, and again when there was a
  dossier.  Two polls are needed: the first one is the baseline, which raises nothing.

Polls may be cut off wherever it may be, and requests of other users come in between.
-/

set_option autoImplicit false

open Coroutine

namespace RmaPortal

open SyncAgreementQueue

namespace Site

section

variable {H : Type} {F : PortalReaderFactory H} {site : SiteSettings} {requests : ℕ → HttpRequest}
  {ls : SiteLabels} {p q : SitePool} {w w' : Workplace} {accountId : ℕ} {r : String} {i : ℕ}
  {d : Dossier}

/-- **Nobody makes another dossier of a dossier.** -/
theorem recordKey_of_later (h : Later site F p ls q)
    (hd : p.state.db.dossiers.find? i = some d) :
    ∃ d', q.state.db.dossiers.find? i = some d' ∧ d'.recordKey = d.recordKey := by
  induction h with
  | refl => exact ⟨d, hd, rfl⟩
  | env _ hpoll ih =>
    obtain ⟨d', hd', hkey⟩ := ih
    obtain ⟨d'', hd'', hkey', -⟩ := hpoll.synchronized.dossier i d' hd'
    exact ⟨d'', hd'', hkey'.trans hkey⟩
  | tail _ hstep ih =>
    obtain ⟨d', hd', hkey⟩ := ih
    obtain ⟨-, hstate⟩ | ⟨task, req, k, a, -, -, -, hanswer, -⟩ := answer_of_step hstep
    · exact ⟨d', by rw [hstate]; exact hd', hkey⟩
    obtain ⟨hsame, -⟩ | hwrote := wrote_of_step hanswer
    · exact ⟨d', by rw [hsame]; exact hd', hkey⟩
    · exact ⟨d', by rw [(workedOn_of_wrote hwrote).dossiers]; exact hd', hkey⟩

/-- What is found by its identifier is found by its record, too. -/
theorem find?_recordKey {db : Database} (hd : db.dossiers.find? i = some d) :
    db.dossiers.byRecord.find? d.recordKey = some d :=
  Table.find?_of_mem (t := db.dossiers.byRecord) (Table.mem_of_find? (t := db.dossiers.toTable) hd)

/-- A dossier keeps its identifier and its record. -/
theorem dossier_eq_of_synchronized {db db' : Database} (h : Synchronized db db')
    (hd : db'.dossier accountId r = some d) :
    db.dossier accountId r = db.dossiers.find? d.id := by
  have hkey : d.recordKey = (accountId, r) := Table.key_of_find? (t := db'.dossiers.byRecord) hd
  have hfound : db'.dossiers.find? d.id = some d :=
    Table.find?_of_mem (t := db'.dossiers.toTable) (Database.mem_of_dossier hd).1
  ext d₀
  constructor
  · intro hold
    have hkey₀ : d₀.recordKey = (accountId, r) :=
      Table.key_of_find? (t := db.dossiers.byRecord) hold
    have hfound₀ : db.dossiers.find? d₀.id = some d₀ :=
      Table.find?_of_mem (t := db.dossiers.toTable) (Database.mem_of_dossier hold).1
    obtain ⟨d₁, hd₁, hkey₁, -⟩ := h.dossier _ _ hfound₀
    have hsame := find?_recordKey hd₁
    rw [hkey₁, hkey₀] at hsame
    cases hd.symm.trans hsame
    rwa [Table.key_of_find? hd₁]
  · intro hold
    obtain ⟨d₁, hd₁, hkey₁, -⟩ := h.dossier _ _ hold
    cases hfound.symm.trans hd₁
    rw [Database.dossier, ← hkey, hkey₁]
    exact find?_recordKey hold

/-- Of a dossier there is after a step of a poll, it can be said already before it how many
notifications its record has. -/
theorem notified_before (h : PollStep F w w') (hd : w'.db.toDatabase.dossier accountId r = some d) :
    w.db.toDatabase.notified accountId r = w.db.toDatabase.notificationCount d.id := by
  rw [Database.notified, dossier_eq_of_synchronized h.synchronized hd]
  cases hold : w.db.dossiers.find? d.id with
  | some d₀ => rw [Option.elim_some, Table.key_of_find? hold]
  | none =>
    rw [Option.elim_none, Database.notificationCount, eq_comm, List.countP_eq_zero]
    intro n hn hid
    have hthere := w.db.notifications_dossier n hn
    rw [eq_of_beq hid, hold] at hthere
    cases hthere

/-- **A step of a poll raises a notification of a dossier iff the record appears.** -/
theorem raised_iff_appeared {db : Database} (h : PollStep F w w')
    (hlone : Portal.Lone F db w.portal)
    (hbase : db.baseline = some (accountId, none)) (hnone : ∀ r, db.dossier accountId r = none)
    (hd : w'.db.toDatabase.dossier accountId r = some d) :
    (∃ n ∈ w'.db.notifications.rows, n ∉ w.db.notifications.rows ∧ n.dossierId = d.id) ↔
      Portal.Appeared r w.portal w'.portal := by
  rw [h.step.appeared_iff hlone hbase hnone]
  change _ ↔ w.db.toDatabase.notified accountId r < w'.db.toDatabase.notified accountId r
  have hafter : w'.db.toDatabase.notified accountId r =
      w'.db.toDatabase.notificationCount d.id := by
    rw [Database.notified, hd, Option.elim_some]
  rw [notified_before h hd, hafter, Database.notificationCount, Database.notificationCount]
  obtain ⟨new, hnew⟩ := h.synchronized.raised
  have hdisjoint : ∀ n ∈ new, n ∉ w.db.notifications.rows := by
    have hnodup := w'.db.notifications.nodup
    rw [← hnew, List.map_append, List.nodup_append] at hnodup
    intro n hn hold
    exact hnodup.2.2 _ (List.mem_map_of_mem hold) _ (List.mem_map_of_mem hn) rfl
  rw [← hnew, List.countP_append, Nat.lt_add_right_iff_pos, List.countP_pos_iff]
  constructor
  · rintro ⟨n, hn, hold, hid⟩
    exact ⟨n, (List.mem_append.mp hn).resolve_left hold, by simpa using hid⟩
  · rintro ⟨n, hn, hid⟩
    exact ⟨n, List.mem_append_right _ hn, hdisjoint n hn, eq_of_beq hid⟩

/-- In a run an employee is told of a record: a step of a poll is made in which it appears, and they
are there. -/
structure Told (site : SiteSettings) (F : PortalReaderFactory H) (requests : ℕ → HttpRequest)
    (start : Workplace) (r : String) (u : ℕ) (ls : SiteLabels) (p : SitePool) : Prop where
  exists_step : ∃ (q : SitePool) (w : Workplace), IsSiteRun site F requests start ls q ∧
    PollStep F q.state w ∧ Portal.Appeared r q.state.portal w.portal ∧ p = ⟨w, q.tasks⟩
  user : (p.state.db.users.find? u).isSome

/-- What has only just been raised nobody has read. -/
theorem not_marked_of_new (h : PollStep F w w') {n : Notification}
    (hnew : n ∈ w'.db.notifications.rows)
    (hold : n ∉ w.db.notifications.rows) (u : ℕ) : ¬Marked w'.db n u := by
  rintro ⟨m, hm, -, hid⟩
  rw [h.synchronized.reads] at hm
  obtain ⟨n', hn'⟩ := Option.isSome_iff_exists.mp (w.db.reads_notification m hm)
  have hmem := Table.mem_of_find? hn'
  have hsame := eq_of_id_eq (h.synchronized.raised.subset hmem) hnew
    ((Table.key_of_find? hn').trans hid)
  exact hold (hsame ▸ hmem)

section

variable {db : EmployeeDatabase} {profile : PortalState} {account : PortalAccount} {u : ℕ}

/-- In a run from a portal that has never been polled, a dossier is found by its record. -/
theorem dossier_of_find? (h : IsSiteRun site F requests (.opened db profile) ls p)
    (hempty : db.dossiers.rows = []) (hacc : defaultId db.toDatabase = some accountId)
    (hd : p.state.db.dossiers.find? i = some d) :
    p.state.db.toDatabase.dossier accountId d.recordId = some d := by
  have haccount : ∀ d ∈ db.dossiers.rows, d.portalAccountId = accountId := by simp [hempty]
  have hmirror := dossiersMirror_of_lone h.lone hacc haccount (.inl hempty)
  have hfound := find?_recordKey hd
  rwa [Dossier.recordKey, hmirror.account d (Table.mem_of_find? hd)] at hfound

/-- **What is unread for an employee has appeared**, in any run from a portal that has never been
polled: a dossier is unread iff its record has appeared when they were there, and they have not
opened its page since. -/
theorem unread_iff_appeared
    (h : IsSiteRun site F requests (.opened db profile) ls p) (hempty : db.dossiers.rows = [])
    (hacc : PortalAccountRepository.getDefault db.toDatabase = some account)
    (hbase : account.baselineCompletedAt = none) (hu : (p.state.db.users.find? u).isSome)
    (hd : p.state.db.dossiers.find? i = some d) :
    NotificationRepository.isUnreadForUser i u p.state.db.toDatabase = true ↔
      ∃ before after q, ls = before ++ after ∧
        Told site F requests (.opened db profile) d.recordId u before q ∧
        Later site F q after p ∧ ¬Opened requests after i u := by
  have hdefault : defaultId db.toDatabase = some account.id := by rw [defaultId, hacc]; rfl
  have hbaseline : db.toDatabase.baseline = some (account.id, none) := by
    rw [Database.baseline, hacc, ← hbase]
    rfl
  have hnone : ∀ r, db.toDatabase.dossier account.id r = none := by
    intro r
    rw [Database.dossier, Table.find?_eq_none, DossierTable.byRecord, hempty]
    simp
  simp only [isUnreadForUser_iff, mem_unreadOf]
  constructor
  · rintro ⟨n, hn, rfl, hunread⟩
    obtain ⟨before, after, q, rfl, hraised, hlater⟩ := exists_raised h hn
    have hthere : (q.state.db.users.find? u).isSome := by
      cases hnew : q.state.db.users.find? u with
      | some user => rfl
      | none => exact absurd ((stays_of_later hlater).2.2.2 u hnew hu n hraised.mem) hunread
    have hopened := ((hraised.unread_iff h hlater hthere).mp hunread).2
    refine ⟨before, after, q, rfl, ⟨?_, hthere⟩, hlater, hopened⟩
    cases hraised with
    | initially hn =>
      obtain ⟨d₀, hd₀⟩ := Option.isSome_iff_exists.mp (db.notifications_dossier n hn)
      have hmem : d₀ ∈ db.dossiers.rows := Table.mem_of_find? (t := db.dossiers.toTable) hd₀
      rw [hempty] at hmem
      cases hmem
    | @byPoll _ q w hq hpoll hold hnew =>
      refine ⟨q, w, hq, hpoll, ?_, rfl⟩
      obtain ⟨d₁, hd₁⟩ := Option.isSome_iff_exists.mp (w.db.notifications_dossier n hnew)
      obtain ⟨d₂, hd₂, hkey⟩ := recordKey_of_later hlater hd₁
      cases hd.symm.trans hd₂
      have hfound := dossier_of_find? (hq.polled hpoll) hempty hdefault hd₁
      rw [← (Prod.mk.inj hkey).2] at hfound
      exact (raised_iff_appeared hpoll hq.lone hbaseline hnone hfound).mp
        ⟨n, hnew, hold, (Table.key_of_find? hd₁).symm⟩
  · rintro ⟨before, after, q, rfl, ⟨⟨q, w, hq, hpoll, happeared, rfl⟩, hthere⟩, hlater, hopened⟩
    obtain ⟨init, f, -, hfindings, -, hrow, -⟩ := id happeared
    obtain ⟨row, hrow⟩ := Option.isSome_iff_exists.mp hrow
    have hqueued : Queued w.portal.findings d.recordId row :=
      ⟨0, ⟨init, f, [], hfindings, hrow, by simp, rfl⟩, by omega⟩
    have haccount : ∀ d ∈ db.dossiers.rows, d.portalAccountId = account.id := by simp [hempty]
    have hmirror := dossiersMirror_of_lone (hq.polled hpoll).lone hdefault haccount (.inl hempty)
    obtain ⟨d₁, hd₁, -⟩ := (hmirror.active d.recordId).mpr ⟨row, hqueued⟩
    obtain ⟨n, hnew, hold, hid⟩ :=
      (raised_iff_appeared hpoll hq.lone hbaseline hnone hd₁).mpr happeared
    -- the dossier that the notification is of is this one
    have hfound₁ : w.db.dossiers.find? d₁.id = some d₁ :=
      Table.find?_of_mem (t := w.db.dossiers.toTable) (Database.mem_of_dossier hd₁).1
    obtain ⟨d₂, hd₂, hkey⟩ := recordKey_of_later (q := p) hlater hfound₁
    have hrecord : d₂.recordId = d.recordId :=
      (Prod.mk.inj hkey).2.trans (Database.mem_of_dossier hd₁).2
    have hfound₂ := dossier_of_find? h hempty hdefault hd₂
    rw [hrecord, dossier_of_find? h hempty hdefault hd] at hfound₂
    cases hfound₂
    have hsame : n.dossierId = i := by
      rw [hid, ← Table.key_of_find? hd, Table.key_of_find? hd₂]
    have hraised : Raised site F requests (.opened db profile) n before ⟨w, q.tasks⟩ :=
      .byPoll hq hpoll hold hnew
    refine ⟨n, (stays_of_later hlater).1.subset hraised.mem, hsame,
      (hraised.unread_iff h hlater hthere).mpr ⟨not_marked_of_new hpoll hnew hold u, ?_⟩⟩
    rwa [hsame]

end

end

/-- A portal that has been polled when there was nothing, and again when there was a dossier. -/
def polledTwice : Portal :=
  afterPoll (camoufoxPortalReaderFactory .standard) (Script.shows [.ofStatus "a" "open"]).suggest
    (afterPoll (camoufoxPortalReaderFactory .standard) (Script.shows []).suggest
      (newProcess staffed).portal)

/-- The dossier is unread, because it has appeared. -/
theorem unread_iff_appeared_polledTwice : ∃ w d before q,
    IsPlainRun sessionRequests (newProcess staffed) [] (Pool.empty w) ∧
      w.portal = polledTwice ∧ w.db.dossiers.find? 1 = some d ∧
      NotificationRepository.isUnreadForUser 1 1 w.db.toDatabase = true ∧
      Told plainSite (camoufoxPortalReaderFactory .standard) sessionRequests (newProcess staffed)
        d.recordId 1 before q := by
  obtain ⟨w₁, hrun₁, hportal₁, husers₁⟩ :=
    (isPlainRun_empty sessionRequests (newProcess staffed)).exists_afterPoll
      (Script.shows []).suggest rfl
  obtain ⟨w, hrun, hportal, husers⟩ := hrun₁.exists_afterPoll
    (Script.shows [.ofStatus "a" "open"]).suggest (by rw [hportal₁]; rfl)
  replace hportal : w.portal = polledTwice := by rw [hportal, hportal₁]; rfl
  have hdb : w.db.toDatabase = polledTwice.db := congrArg Portal.db hportal
  have hfound : (w.db.dossiers.find? 1).isSome = true := by
    rw [hdb]
    decide +kernel
  obtain ⟨d, hd⟩ := Option.isSome_iff_exists.mp hfound
  have hunread : NotificationRepository.isUnreadForUser 1 1 w.db.toDatabase = true := by
    rw [hdb]
    decide +kernel
  have hu : (w.db.users.find? 1).isSome = true := by
    rw [husers, husers₁]
    decide +kernel
  have hacc : PortalAccountRepository.getDefault staffed.toDatabase = some (.unpolled 1) := rfl
  obtain ⟨before, after, q, -, htold, -⟩ :=
    (unread_iff_appeared hrun rfl hacc rfl hu hd).mp hunread
  exact ⟨w, d, before, q, hrun, hportal, hd, hunread, htold⟩

end Site
end RmaPortal
