import RmaPortal.Accounts.Provenance

/-!
# What is unread, as site and polls go on

A dossier is unread for an employee as long as it has a notification without their read mark.  The
marks are written when its page is opened, by what has been looked up before, and when an employee
is created; in between a poll may have raised something new, which is not marked then.

`unread_iff_raised` says what this comes to, whichever requests are served at once and whatever is
polled: a notification is unread for an employee until they open the page of its dossier after it
has been raised.

## What is here

* `Marked`, `isUnreadForUser_iff` — the employee has read a notification, and what the query of
  the program says about it.
* `Marking` and `marking_of_step` — what one step of the site does to the read marks and the
  users: no mark is taken back, a mark is only written by a request to mark, and a user who is new
  has read everything that is there.
* `stays_of_later` — what stays as a run goes on, by induction along it: notifications, read marks
  and users, and of a user who is new that they have read what was there when they came.
* `exists_insertReads_of_later` — who has read something since has opened a page, if they were
  there.
* `unread_of_lookup`, `Opened`, `marked_of_opened` — to open the page of a dossier is two steps, a
  lookup of what is unread and the marking of just that; once both are done the notifications that
  were looked up are marked.
* `opened_of_marked` — the converse: only the page of its dossier marks a notification, if no
  request has seen it before.
* `Raised`, `exists_raised` — a notification is there when the run begins, or a poll has just
  raised it; every notification has been raised at some moment.
* `Raised.unread_iff`, `unread_iff_raised` — from when it has been raised, and in the words of the
  dashboard: a dossier is unread for a user if there is such a notification of it.

The runs are those of `IsSiteRun`, with all routes and with polls that make steps of their own; a
refresh waits for a poll and marks nothing.
-/

set_option autoImplicit false

open Coroutine

namespace RmaPortal
namespace Site

section

variable {H : Type} {F : PortalReaderFactory H} {site : SiteSettings} {requests : ℕ → HttpRequest}
  {start : Workplace} {ls before after : SiteLabels} {db db' : EmployeeDatabase} {p q : SitePool}
  {n : Notification} {u : ℕ}

/-! ## Notifications and marks -/

/-- The employee has read a notification. -/
def Marked (db : EmployeeDatabase) (n : Notification) (u : ℕ) : Prop :=
  ∃ r ∈ db.notificationReads.rows, r.userId = u ∧ r.notificationId = n.id

theorem mem_unreadOf {d : ℕ} :
    n ∈ NotificationRepository.unreadOf d u db.toDatabase ↔
      n ∈ db.notifications.rows ∧ n.dossierId = d ∧ ¬Marked db n u := by
  simp only [NotificationRepository.unreadOf, List.mem_filter, Bool.and_eq_true, beq_iff_eq,
    Bool.not_eq_true', NotificationRepository.alreadyRead]
  refine and_congr_right fun _ ↦ and_congr_right fun _ ↦ ?_
  rw [← Bool.not_eq_true, List.contains_iff_mem, List.mem_map, Marked]
  simp [and_assoc]

theorem isUnreadForUser_iff {d : ℕ} :
    NotificationRepository.isUnreadForUser d u db.toDatabase = true ↔
      ∃ n, n ∈ NotificationRepository.unreadOf d u db.toDatabase := by
  rw [NotificationRepository.isUnreadForUser, decide_eq_true_eq, List.length_pos_iff_exists_mem]

/-- What a request does to the read marks and the users. -/
structure Marking (db : EmployeeDatabase) (e : SiteHappening) (db' : EmployeeDatabase) : Prop where
  notifications : db'.notifications = db.notifications
  /-- No mark is taken back. -/
  kept : ∀ r ∈ db.notificationReads.rows, r ∈ db'.notificationReads.rows
  /-- A mark is new because a page has been opened, or the user is new. -/
  origin : ∀ r ∈ db'.notificationReads.rows, r ∈ db.notificationReads.rows ∨
    (∃ ids, e = ⟨.insertReads r.userId ids r.seenAt, .ok ()⟩ ∧ r.notificationId ∈ ids) ∨
    db.users.find? r.userId = none
  users : ∀ u, (db.users.find? u).isSome → (db'.users.find? u).isSome
  /-- A new user has read everything. -/
  newcomer : ∀ u, db.users.find? u = none → (db'.users.find? u).isSome →
    ∀ n ∈ db.notifications.rows, Marked db' n u

/-- **What a request does to the read marks.** -/
theorem marking_of_step {q : SiteRequest} {a : Except Exn q.Val}
    (h : (siteRules site).step db q a db') : Marking db ⟨q, a⟩ db' := by
  have husers := users_of_step h
  -- a request that leaves notifications, read marks and the set of users alone
  have hsame (hn : db'.notifications = db.notifications)
      (hr : db'.notificationReads = db.notificationReads)
      (hu : ∀ u, (db'.users.find? u).isSome = (db.users.find? u).isSome) :
      Marking db ⟨q, a⟩ db' := by
    refine ⟨hn, fun r hm ↦ hr ▸ hm, fun r hm ↦ .inl (hr ▸ hm), fun u hm ↦ (hu u).trans hm,
      fun u hnone hsome ↦ ?_⟩
    rw [hu, hnone] at hsome
    cases hsome
  obtain ⟨rfl, -⟩ | hwrote := wrote_of_step h
  · exact hsame rfl rfl fun _ ↦ rfl
  cases hwrote with
  | active userId active =>
    refine hsame rfl rfl fun u ↦ ?_
    rw [UserRepository.find?_setActive]
    split <;> simp
  | passwordHash userId passwordHash =>
    refine hsame rfl rfl fun u ↦ ?_
    rw [UserRepository.find?_setPasswordHash]
    split <;> simp
  | newWork hinsert =>
    exact hsame (insertWork_ok hinsert).2.2.1 (insertWork_ok hinsert).2.2.2
      fun u ↦ by rw [users_insertWork hinsert]
  | work hupdate =>
    exact hsame (updateWork_ok hupdate).2.2.1 (updateWork_ok hupdate).2.2.2
      fun u ↦ by rw [users_updateWork hupdate]
  | note hinsert =>
    exact hsame (insertNote_ok hinsert).2.2.2.1 (insertNote_ok hinsert).2.2.2.2
      fun u ↦ by rw [users_insertNote hinsert]
  | @reads userId ids seenAt _ hinsert =>
    obtain ⟨hreads, -, -, hnotifications⟩ := insertReads_rows hinsert
    have hsame := (NotificationRepository.insertReads_ok hinsert).2.1
    refine ⟨hnotifications, fun r hr ↦ ?_, fun r hr ↦ ?_, fun u hu ↦ hsame ▸ hu,
      fun u hnone hsome ↦ ?_⟩
    · rw [hreads]
      exact List.mem_append_left _ hr
    · rw [hreads] at hr
      rcases List.mem_append.mp hr with hr | hr
      · exact .inl hr
      · obtain ⟨id, hid, rfl⟩ := List.mem_map.mp hr
        exact .inr (.inl ⟨ids, rfl, hid⟩)
    · rw [hsame, hnone] at hsome
      cases hsome
  | @user _ created seenAt _ hinsert =>
    obtain ⟨hadded, -⟩ := insertNewUser_ok hinsert
    obtain ⟨hreads, -, -, hnotifications⟩ := insertNewUser_rows hinsert
    refine ⟨hnotifications, fun r hr ↦ ?_, fun r hr ↦ ?_, fun u hu ↦ ?_,
      fun u hnone hsome n hn ↦ ?_⟩
    · rw [hreads]
      exact List.mem_append_left _ hr
    · rw [hreads] at hr
      rcases List.mem_append.mp hr with hr | hr
      · exact .inl hr
      · obtain ⟨id, -, rfl⟩ := List.mem_map.mp hr
        exact .inr (.inr (hadded.id ▸ db.users.find?_fresh))
    · rw [hadded.find]
      split
      · rfl
      · exact hu
    · rw [hadded.find] at hsome
      split at hsome
      · rename_i hu
        subst hu
        by_cases hread : n.id ∈ NotificationRepository.alreadyRead created.id db.toDatabase
        · obtain ⟨r, hr, hid⟩ := List.mem_map.mp hread
          obtain ⟨hr, hu⟩ := List.mem_filter.mp hr
          exact ⟨r, by rw [hreads]; exact List.mem_append_left _ hr, by simpa using hu, hid⟩
        · refine ⟨⟨n.id, created.id, seenAt⟩, ?_, rfl, rfl⟩
          rw [hreads]
          refine List.mem_append_right _ (List.mem_map.mpr ⟨n.id, List.mem_map_of_mem ?_, rfl⟩)
          exact List.mem_filter.mpr ⟨hn, by simpa using hread⟩
      · rw [hnone] at hsome
        cases hsome

/-! ## What stays -/

/-- **What stays as a run goes on**: notifications, read marks and users, and of a user who is new
that they have read everything that was there. -/
theorem stays_of_later (h : Later site F p ls q) :
    p.state.db.notifications.rows <+: q.state.db.notifications.rows ∧
      (∀ r ∈ p.state.db.notificationReads.rows, r ∈ q.state.db.notificationReads.rows) ∧
      (∀ u, (p.state.db.users.find? u).isSome → (q.state.db.users.find? u).isSome) ∧
      ∀ u, p.state.db.users.find? u = none → (q.state.db.users.find? u).isSome →
        ∀ n ∈ p.state.db.notifications.rows, Marked q.state.db n u := by
  induction h with
  | refl =>
    refine ⟨List.prefix_rfl, fun r hr ↦ hr, fun u hu ↦ hu, fun u hnone hsome ↦ ?_⟩
    rw [hnone] at hsome
    cases hsome
  | env _ hpoll ih =>
    obtain ⟨hnotifications, hreads, husers, hnew⟩ := ih
    refine ⟨hnotifications.trans hpoll.synchronized.raised, fun r hr ↦ ?_, fun u hu ↦ ?_,
      fun u hnone hsome n hn ↦ ?_⟩
    · rw [hpoll.synchronized.reads]
      exact hreads r hr
    · rw [hpoll.users]
      exact husers u hu
    · rw [hpoll.users] at hsome
      obtain ⟨r, hr, hmark⟩ := hnew u hnone hsome n hn
      exact ⟨r, by rw [hpoll.synchronized.reads]; exact hr, hmark⟩
  | @tail q' r ls l _ hstep ih =>
    obtain ⟨hnotifications, hreads, husers, hnew⟩ := ih
    obtain ⟨-, hstate⟩ | ⟨task, r, k, a, -, -, -, hanswer, -⟩ := answer_of_step hstep
    · rw [hstate]
      exact ⟨hnotifications, hreads, husers, hnew⟩
    have hmarking := marking_of_step hanswer
    refine ⟨hmarking.notifications ▸ hnotifications, fun r hr ↦ hmarking.kept r (hreads r hr),
      fun u hu ↦ hmarking.users u (husers u hu), fun u hnone hsome n hn ↦ ?_⟩
    cases hold : q'.state.db.users.find? u with
    | none => exact hmarking.newcomer u hold hsome n (hnotifications.subset hn)
    | some user =>
      obtain ⟨r, hr, hmark⟩ := hnew u hnone (by rw [hold]; rfl) n hn
      exact ⟨r, hmarking.kept r hr, hmark⟩

theorem Marked.later (h : Marked p.state.db n u) (hlater : Later site F p ls q) :
    Marked q.state.db n u := by
  obtain ⟨r, hr, hmark⟩ := h
  exact ⟨r, (stays_of_later hlater).2.1 r hr, hmark⟩

/-- Who has read something since has opened a page, if they were there. -/
theorem exists_insertReads_of_later (h : Later site F p ls q)
    (hu : (p.state.db.users.find? u).isSome) (hunread : ¬Marked p.state.db n u)
    (hmarked : Marked q.state.db n u) :
    ∃ i ids seenAt, n.id ∈ ids ∧ ⟨.insertReads u ids seenAt, .ok ()⟩ ∈ eventsOf ls i := by
  induction h with
  | refl => exact absurd hmarked hunread
  | env _ hpoll ih =>
    refine ih ?_
    obtain ⟨r, hr, hmark⟩ := hmarked
    exact ⟨r, by rw [← hpoll.synchronized.reads]; exact hr, hmark⟩
  | @tail q' r ls l hlater hstep ih =>
    by_cases hold : Marked q'.state.db n u
    · obtain ⟨i, ids, seenAt, hid, he⟩ := ih hold
      exact ⟨i, ids, seenAt, hid, by rw [eventsOf_append]; exact List.mem_append_left _ he⟩
    obtain ⟨-, hstate⟩ | ⟨task, req, k, a, -, -, hes, hanswer, -⟩ := answer_of_step hstep
    · rw [hstate] at hmarked
      exact absurd hmarked hold
    obtain ⟨m, hm, rfl, hid⟩ := hmarked
    obtain hm | ⟨ids, he, hmem⟩ | hnone := (marking_of_step hanswer).origin m hm
    · exact absurd ⟨m, hm, rfl, hid⟩ hold
    · refine ⟨l.1, ids, m.seenAt, hid ▸ hmem, ?_⟩
      rw [eventsOf_append]
      exact List.mem_append_right _ (mem_eventsOf.mpr ⟨l.2, by simp, by rw [hes, he]; simp⟩)
    · have hsome := (stays_of_later hlater).2.2.1 _ hu
      rw [hnone] at hsome
      cases hsome

/-! ## Looking up what is unread -/

/-- Every lookup of what is unread has seen what was unread at some time. -/
theorem unread_of_lookup (h : Later site F p ls q) {i d : ℕ} {ids : List ℕ}
    (he : ⟨.getUnread d u, .ok ids⟩ ∈ eventsOf ls i) :
    ∃ ms ms' q', Later site F p ms q' ∧ Later site F q' ms' q ∧
      ids = (NotificationRepository.unreadOf d u q'.state.db.toDatabase).map Notification.id := by
  obtain ⟨ms, ms', q', q'', rfl, hq', ⟨b, hanswer⟩, hstep, hrest⟩ := cut_of_later h he
  refine ⟨ms, _, q', hq', hstep.trans hrest, ?_⟩
  cases b with
  | error e => cases hanswer
  | ok b => exact (Except.ok.inj (congrArg Prod.fst hanswer)).symm

/-- In a part of a run the user has opened the page of a dossier: what was unread has been looked up
and marked as read. -/
def Opened (requests : ℕ → HttpRequest) (ls : SiteLabels) (d u : ℕ) : Prop :=
  ∃ i ids seenAt, (requests i).route = .dossierDetail d ∧
    ⟨.getUnread d u, .ok ids⟩ ∈ eventsOf ls i ∧
    ⟨.insertReads u ids seenAt, .ok ()⟩ ∈ eventsOf ls i

/-- Once the page of a dossier has been opened, its notifications are marked. -/
theorem marked_of_opened (h : Later site F p ls q)
    (hopened : Opened requests ls n.dossierId u) (hn : n ∈ p.state.db.notifications.rows) :
    Marked q.state.db n u := by
  obtain ⟨i, ids, seenAt, -, hlookup, he⟩ := hopened
  obtain ⟨ms, ms', q₁, hq₁, hrest₁, hids⟩ := unread_of_lookup h hlookup
  by_cases hread : Marked q₁.state.db n u
  · exact hread.later hrest₁
  have hmem : n.id ∈ ids := by
    rw [hids]
    exact List.mem_map_of_mem
      (mem_unreadOf.mpr ⟨(stays_of_later hq₁).1.subset hn, rfl, hread⟩)
  -- the marks are written
  obtain ⟨ks, ks', q₂, q₃, -, -, hanswer, -, hrest₃⟩ := cut_of_later h he
  refine Marked.later ?_ hrest₃
  obtain ⟨-, hfails⟩ | hwrote := wrote_of_step hanswer
  · obtain ⟨e, he⟩ := hfails rfl
    cases he
  · generalize q₃.state.db = s at hwrote
    cases hwrote with
    | reads hinsert =>
      refine ⟨⟨n.id, u, seenAt⟩, ?_, rfl, rfl⟩
      rw [(insertReads_rows hinsert).1]
      exact List.mem_append_right _ (List.mem_map.mpr ⟨n.id, hmem, rfl⟩)

/-- There is one notification of an identifier. -/
theorem eq_of_id_eq {m : Notification} (hm : m ∈ db.notifications.rows)
    (hn : n ∈ db.notifications.rows) (hid : m.id = n.id) : m = n :=
  List.inj_on_of_nodup_map db.notifications.nodup hm hn hid

/-- **Only the page of its dossier marks a notification**, if no request has seen it yet. -/
theorem opened_of_marked (h : IsSiteRun site F requests start (before ++ after) q)
    (hlater : Later site F p after q) (hu : (p.state.db.users.find? u).isSome)
    (hn : n ∈ p.state.db.notifications.rows) (hunread : ¬Marked p.state.db n u)
    (hunseen : ∀ i d ids, ⟨.getUnread d u, .ok ids⟩ ∈ eventsOf before i → n.id ∉ ids)
    (hmarked : Marked q.state.db n u) : Opened requests after n.dossierId u := by
  obtain ⟨i, ids, seenAt, hid, he⟩ := exists_insertReads_of_later hlater hu hunread hmarked
  obtain ⟨es, hes, hmem⟩ := mem_eventsOf.mp he
  obtain rfl := hlater.eq_singleton (fun _ ↦ rfl) hes hmem
  obtain ⟨ms, ms', rfl⟩ := List.append_of_mem hes
  rw [← List.append_assoc] at h
  obtain hopen | ⟨user, -, hpermitted⟩ := h.mayAsk (List.mem_singleton_self _)
  · cases hopen
  obtain rfl : u = user.id := hpermitted.self u rfl
  obtain ⟨d, hroute, hlookup⟩ := hpermitted.asked.insertReads
  rw [eventsOf_append, List.mem_append] at hlookup
  replace hlookup := hlookup.resolve_left fun hearlier ↦ hunseen i d ids hearlier hid
  -- the lookup has seen this very notification
  have hlater' : ⟨.getUnread d user.id, .ok ids⟩ ∈
      eventsOf (ms ++ (i, [⟨.insertReads user.id ids seenAt, .ok ()⟩]) :: ms') i := by
    rw [eventsOf_append]
    exact List.mem_append_left _ hlookup
  obtain ⟨ks, ks', q₁, hq₁, hrest₁, hids⟩ := unread_of_lookup hlater hlater'
  obtain ⟨m, hm, hmid⟩ := List.mem_map.mp (hids ▸ hid)
  obtain ⟨hm, hmd, -⟩ := mem_unreadOf.mp hm
  obtain rfl := eq_of_id_eq hm ((stays_of_later hq₁).1.subset hn) hmid
  exact ⟨i, ids, seenAt, hmd ▸ hroute, hmd ▸ hlater', he⟩

/-! ## Being raised -/

/-- A notification is there when the run begins, or a poll has just raised it. -/
inductive Raised (site : SiteSettings) (F : PortalReaderFactory H) (requests : ℕ → HttpRequest)
    (start : Workplace) (n : Notification) : SiteLabels → SitePool → Prop
  | initially (h : n ∈ start.db.notifications.rows) :
      Raised site F requests start n [] (Pool.empty start)
  | byPoll {ls : SiteLabels} {q : SitePool} {w : Workplace}
      (h : IsSiteRun site F requests start ls q) (hpoll : PollStep F q.state w)
      (hold : n ∉ q.state.db.notifications.rows) (hnew : n ∈ w.db.notifications.rows) :
      Raised site F requests start n ls ⟨w, q.tasks⟩

theorem Raised.mem (h : Raised site F requests start n ls p) :
    n ∈ p.state.db.notifications.rows := by
  cases h with
  | initially h => exact h
  | byPoll _ _ _ hnew => exact hnew

/-- Nobody has looked up a notification that has only just been raised. -/
theorem Raised.unseen (h : Raised site F requests start n ls p) {i d : ℕ} {ids : List ℕ}
    (he : ⟨.getUnread d u, .ok ids⟩ ∈ eventsOf ls i) : n.id ∉ ids := by
  cases h with
  | initially h => cases he
  | @byPoll _ q w h hpoll hold hnew =>
    obtain ⟨ks, ks', q₁, -, hrest₁, rfl⟩ := unread_of_lookup h.later he
    rintro hid
    obtain ⟨m, hm, hmid⟩ := List.mem_map.mp hid
    have hm := (stays_of_later hrest₁).1.subset (mem_unreadOf.mp hm).1
    obtain rfl := eq_of_id_eq (hpoll.synchronized.raised.subset hm) hnew hmid
    exact hold hm

/-- **Every notification has been raised at some moment.** -/
theorem exists_raised (h : IsSiteRun site F requests start ls p)
    (hn : n ∈ p.state.db.notifications.rows) :
    ∃ before after q, ls = before ++ after ∧ Raised site F requests start n before q ∧
      Later site F q after p := by
  induction h using IsSiteRun.induct with
  | opened => exact ⟨[], [], _, rfl, .initially hn, .refl _⟩
  | polled ls q w h hpoll ih =>
    by_cases hold : n ∈ q.state.db.notifications.rows
    · obtain ⟨before, after, q', rfl, hraised, hlater⟩ := ih hold
      exact ⟨before, after, q', rfl, hraised, .env hlater hpoll⟩
    · exact ⟨ls, [], _, by simp, .byPoll h hpoll hold hn, .refl _⟩
  | served ls l q r _ _ hstep hnext ih =>
    have hold : n ∈ q.state.db.notifications.rows := by
      obtain ⟨-, hstate⟩ | ⟨task, req, k, a, -, -, -, hanswer, -⟩ := answer_of_step hstep
      · rwa [hstate] at hn
      · rwa [(marking_of_step hanswer).notifications] at hn
    obtain ⟨before, after, q', rfl, hraised, hlater⟩ := ih hold
    exact ⟨before, after ++ [l], q', List.append_assoc .., hraised, hlater.trans hnext⟩

/-- **A notification is unread for an employee until they open the page of its dossier**, from when
it has been raised on. -/
theorem Raised.unread_iff (h : IsSiteRun site F requests start (before ++ after) p)
    (hraised : Raised site F requests start n before q) (hlater : Later site F q after p)
    (hu : (q.state.db.users.find? u).isSome) :
    ¬Marked p.state.db n u ↔
      ¬Marked q.state.db n u ∧ ¬Opened requests after n.dossierId u := by
  constructor
  · exact fun hunread ↦ ⟨fun hmarked ↦ hunread (hmarked.later hlater),
      fun hopened ↦ hunread (marked_of_opened hlater hopened hraised.mem)⟩
  · exact fun ⟨hunread, hopened⟩ hmarked ↦ hopened
      (opened_of_marked h hlater hu hraised.mem hunread (fun _ _ _ ↦ hraised.unseen) hmarked)

/-- **What is unread for an employee**, after any run: a dossier of which there is a notification
that was raised when they were there already and had not read it, and whose page they have not
opened since. Nothing else that anybody does, and nothing that is going on at the same time,
matters. -/
theorem unread_iff_raised (h : IsSiteRun site F requests start ls p)
    (hu : (p.state.db.users.find? u).isSome) (d : ℕ) :
    NotificationRepository.isUnreadForUser d u p.state.db.toDatabase = true ↔
      ∃ n before after q, ls = before ++ after ∧ Raised site F requests start n before q ∧
        Later site F q after p ∧ n.dossierId = d ∧
        (q.state.db.users.find? u).isSome ∧ ¬Marked q.state.db n u ∧
        ¬Opened requests after d u := by
  simp only [isUnreadForUser_iff, mem_unreadOf]
  constructor
  · rintro ⟨n, hn, rfl, hunread⟩
    obtain ⟨before, after, q, rfl, hraised, hlater⟩ := exists_raised h hn
    have hthere : (q.state.db.users.find? u).isSome := by
      cases hnone : q.state.db.users.find? u with
      | some user => rfl
      | none => exact absurd ((stays_of_later hlater).2.2.2 u hnone hu n hraised.mem) hunread
    exact ⟨n, before, after, q, rfl, hraised, hlater, rfl, hthere,
      (hraised.unread_iff h hlater hthere).mp hunread⟩
  · rintro ⟨n, before, after, q, rfl, hraised, hlater, rfl, hthere, hunread⟩
    exact ⟨n, (stays_of_later hlater).1.subset hraised.mem, rfl,
      (hraised.unread_iff h hlater hthere).mpr hunread⟩

end

/-- An employee logs in and opens the page of a dossier. -/
def openingRequests : ℕ → HttpRequest
  | 0 => onSite none (.loginSubmit "a" "")
  | _ => onSite (some "tu") (.dossierDetail 0)

/-- The page has been opened, and what was unread has been marked. -/
def pageOpened : SitePool :=
  served openingRequests 1 [1, 1, 1, 1, 1, 1, 1, 1]
    (served openingRequests 0 [0, 0] (Pool.empty (newProcess notifiedOffice)))

theorem exists_pageOpened :
    ∃ ls, IsPlainRun openingRequests (newProcess notifiedOffice) ls pageOpened := by
  obtain ⟨_, h, -⟩ := exists_served
    (isPlainRun_empty openingRequests (newProcess notifiedOffice)) [0, 0] (i := 0) rfl
  obtain ⟨_, h, -⟩ := exists_served h [1, 1, 1, 1, 1, 1, 1, 1] (i := 1) rfl
  exact ⟨_, h⟩

/-- What is read now has been opened. -/
theorem unread_iff_raised_pageOpened : ∃ ls,
    IsPlainRun openingRequests (newProcess notifiedOffice) ls pageOpened ∧
      Opened openingRequests ls 0 1 := by
  obtain ⟨ls, h⟩ := exists_pageOpened
  refine ⟨ls, h, ?_⟩
  by_contra hopened
  have hunread := (unread_iff_raised h (u := 1) rfl 0).mpr
    ⟨⟨1, 0, .newAgreementDossier, default⟩, [], ls, _, rfl, .initially (List.mem_singleton_self _),
      h.later, rfl, rfl, ?_, hopened⟩
  · exact absurd hunread (by decide +kernel)
  · rintro ⟨r, hr, -⟩
    exact absurd hr List.not_mem_nil

end Site
end RmaPortal
