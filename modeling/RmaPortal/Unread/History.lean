import RmaPortal.Data.Feed
import RmaPortal.Infrastructure.Employees

/-!
# What an employee has not read

Notifications are the items of a feed, under their dossiers as topics; creating an employee makes
a reader join, and opening a dossier acknowledges it.  `Committed` is one committed operation of
the three, with the event it amounts to, and `OfficeHistory` any sequence of them.

The read marks are written by two different methods, and what is unread is what has no mark.
`Committed.unread` says that each operation changes the unread notifications of *every* employee
as its event does, so that `unread_history` follows from the feed.

## What is here

* `OfficeEvent`, `Committed`, `OfficeHistory` — operations and their events: an employee is
  created, a notification is raised, an employee opens a dossier.  The constructors are about the
  services of the program (`createUser`, the notification repository,
  `DossierService.acknowledge`), run to a commit.
* `insertReads_ok`, `unread_insertReads`, `unread_createForAll` — what the repository methods do
  to what is unread: a mark takes a notification away from one employee, and a notification that
  is only now raised is unread for everybody.
* `createRow_ok`, `createUser_ok` — an employee who is new has everything that is there marked as
  read, so has nothing to read.
* `Committed.unread` — the step lemma; `OfficeHistory.unread` is the run.
* `OfficeHistory.joins_le` — an employee joins once, because names are unique and identifiers are
  fresh.
* `OfficeHistory.unread_eq_missed` — for an employee who has joined, what is unread is what `Feed`
  calls missed.
* `unread_history` — whether a dossier is unread and how many notifications of it are, for every
  employee, by the history alone; what one employee opens does not matter to another one.

Requests that overlap are not a sequence of committed operations of this kind; they are in
`Unread.Harmless`, and with polls in `Accounts.ReadMarks`.
-/

set_option autoImplicit false

open Feed

namespace RmaPortal

/-- What happens to notifications and employees: the items are notifications, the topics dossiers
and the readers employees. -/
abbrev OfficeEvent : Type := Event Notification ℕ ℕ

section

variable (normalize : String → String) (hash : String → Except Exn String)

/-- An operation that is committed. -/
inductive Committed : EmployeeDatabase → OfficeEvent → EmployeeDatabase → Prop
  | notified {d : ℕ} {kind : NotificationKind} {now : Datetime} {n : Notification}
      {s s' : EmployeeDatabase}
      (h : NotificationRepository.createForAll d kind now s = .ok (n, s')) :
      Committed s (.post n) s'
  | joined {u : NewUser} {now : Datetime} {user : User} {s s' : EmployeeDatabase}
      (h : AccountService.createUser normalize hash u now s = .ok (user, s')) :
      Committed s (.join user.id) s'
  | acknowledged {d u : ℕ} {now : Datetime} {s s' : EmployeeDatabase}
      (h : DossierService.acknowledge d u now s = .ok s') : Committed s (.ack d u) s'

/-- Any number of committed operations. -/
inductive OfficeHistory : EmployeeDatabase → List OfficeEvent → EmployeeDatabase → Prop
  | start (s : EmployeeDatabase) : OfficeHistory s [] s
  | step {s s' s'' : EmployeeDatabase} {l : List OfficeEvent} {e : OfficeEvent}
      (h : OfficeHistory s l s') (he : Committed normalize hash s' e s'') :
      OfficeHistory s (l ++ [e]) s''

end

/-! ## Read marks -/

namespace NotificationRepository

variable {u v : ℕ} {db db' : EmployeeDatabase} {seenAt : Datetime}

theorem insertRead_ok {r : NotificationRead} (h : db.insertRead r = .ok db') :
    db'.notifications = db.notifications ∧ db'.users = db.users ∧
      db'.notificationReads.rows = db.notificationReads.rows ++ [r] := by
  unfold EmployeeDatabase.insertRead at h
  split at h <;> cases h
  exact ⟨rfl, rfl, rfl⟩

/-- What `insertReads` does: it marks the notifications as read by this employee. -/
theorem insertReads_ok {ids : List ℕ} (h : insertReads u seenAt ids db = .ok db') :
    db'.notifications = db.notifications ∧ db'.users = db.users ∧ ∀ v,
      alreadyRead v db'.toDatabase =
        alreadyRead v db.toDatabase ++ if v = u then ids else [] := by
  induction ids generalizing db with
  | nil =>
    cases h
    exact ⟨rfl, rfl, by simp⟩
  | cons id ids ih =>
    rw [insertReads, List.foldlM_cons] at h
    cases hfirst : db.insertRead ⟨id, u, seenAt⟩ with
    | error e => simp [hfirst, bind, Except.bind] at h
    | ok db₁ =>
      simp only [hfirst, bind, Except.bind] at h
      obtain ⟨hnotifications, husers, hreads⟩ := insertRead_ok hfirst
      obtain ⟨hnotifications', husers', hreads'⟩ := ih h
      refine ⟨hnotifications'.trans hnotifications, husers'.trans husers, fun v ↦ ?_⟩
      have hread : alreadyRead v db₁.toDatabase =
          alreadyRead v db.toDatabase ++ if v = u then [id] else [] := by
        simp only [alreadyRead, hreads, List.filter_append, List.map_append]
        congr 1
        by_cases hv : v = u
        · simp [hv]
        · simp [hv, Ne.symm hv]
      rw [hreads', hread]
      by_cases hv : v = u <;> simp [hv]

/-- What is unread after some notifications have been marked. -/
theorem unread_insertReads {p : Notification → Bool}
    (h : insertReads u seenAt ((db.notifications.rows.filter p).map Notification.id) db = .ok db')
    (v : ℕ) : unread v db'.toDatabase =
      if v = u then (unread v db.toDatabase).filter fun n ↦ !p n else unread v db.toDatabase := by
  obtain ⟨hnotifications, -, hread⟩ := insertReads_ok h
  by_cases hv : v = u
  · subst hv
    rw [if_pos rfl]
    simp only [unread, hnotifications, hread, if_true, List.filter_filter]
    refine List.filter_congr fun n hn ↦ ?_
    have hmarked :
        ((db.notifications.rows.filter p).map Notification.id).contains n.id = p n := by
      rw [Bool.eq_iff_iff, List.contains_iff_mem, List.mem_map]
      constructor
      · rintro ⟨m, hm, hid⟩
        obtain ⟨hm, hpm⟩ := List.mem_filter.mp hm
        rwa [← List.inj_on_of_nodup_map db.notifications.nodup hm hn hid]
      · exact fun hp ↦ ⟨n, List.mem_filter.mpr ⟨hn, hp⟩, rfl⟩
    rw [List.contains_append, hmarked]
    cases p n <;> simp
  · simp [unread, hnotifications, hread, hv]

/-- Nobody has read what is only now created. -/
theorem unread_createForAll {d : ℕ} {kind : NotificationKind} {now : Datetime} {n : Notification}
    (h : createForAll d kind now db = .ok (n, db')) (v : ℕ) :
    unread v db'.toDatabase = unread v db.toDatabase ++ [n] := by
  unfold createForAll at h
  split at h <;> cases h
  rename_i db' hcreate
  obtain ⟨-, hid, hrows, hreads⟩ := create_ok hcreate
  have hnew : n.id ∉ alreadyRead v db.toDatabase := by
    rw [alreadyRead, List.mem_map]
    rintro ⟨r, hr, hrid⟩
    have hfound := db.reads_notification r (List.mem_of_mem_filter hr)
    rw [hrid, hid, Table.find?_fresh] at hfound
    cases hfound
  have hsame : alreadyRead v db' = alreadyRead v db.toDatabase := by rw [alreadyRead, hreads]; rfl
  simp only [unread, hrows, hsame, List.filter_append]
  simp [hnew]

end NotificationRepository

/-! ## Single operations -/

variable {normalize : String → String} {hash : String → Except Exn String}
  {s s' : EmployeeDatabase} {e : OfficeEvent} {l : List OfficeEvent} {u : ℕ}

/-- What `create` of the user repository does: one more user, who has read nothing. -/
theorem createRow_ok {user user' : User}
    (h : UserRepository.create normalize user s = .ok (user', s')) :
    user'.id = s.users.fresh ∧ s'.toDatabase = s.toDatabase ∧
      ∀ v, s'.users.find? v = if v = user'.id then some user' else s.users.find? v := by
  simp only [UserRepository.create, EmployeeDatabase.insertUser, bind, Except.bind, pure,
    Except.pure] at h
  split at h
  · cases h
  · rename_i hins
    split at hins <;> cases hins
    cases h
    exact ⟨rfl, rfl, fun v ↦ s.users.toTable.find?_append _ s.users.find?_fresh v⟩

/-- What `create_user` does: the employee is new, and has nothing to read. -/
theorem createUser_ok {new : NewUser} {now : Datetime} {user : User}
    (h : AccountService.createUser normalize hash new now s = .ok (user, s')) :
    s.users.find? user.id = none ∧ (s'.users.find? user.id).isSome ∧
      (∀ v, (s.users.find? v).isSome → (s'.users.find? v).isSome) ∧
      ∀ v, NotificationRepository.unread v s'.toDatabase =
        if v = user.id then [] else NotificationRepository.unread v s.toDatabase := by
  simp only [AccountService.createUser, bind, Except.bind] at h
  split at h
  · cases h
  split at h
  · cases h
  split at h
  · cases h
  rename_i hcreate
  split at h
  · cases h
  rename_i hmark
  obtain ⟨hid, hdb, husers⟩ := createRow_ok hcreate
  obtain ⟨-, husers', -⟩ := NotificationRepository.insertReads_ok hmark
  have hunread := fun v ↦ NotificationRepository.unread_insertReads hmark v
  cases h
  refine ⟨hid ▸ s.users.find?_fresh, ?_, fun v hv ↦ ?_, fun v ↦ ?_⟩
  · rw [husers', husers, if_pos rfl]
    rfl
  · rw [husers', husers]
    split
    · rfl
    · exact hv
  · rw [hunread, hdb]
    split
    · rename_i hv
      rw [hv, List.filter_eq_nil_iff]
      intro n hn
      simpa using (List.mem_filter.mp hn).2
    · rfl

/-- **Each operation changes what is unread as its event does**, for every employee. -/
theorem Committed.unread (h : Committed normalize hash s e s') (u : ℕ) :
    NotificationRepository.unread u s'.toDatabase =
      e.after Notification.dossierId u (NotificationRepository.unread u s.toDatabase) := by
  cases h with
  | notified h => exact NotificationRepository.unread_createForAll h u
  | joined h =>
    rw [(createUser_ok h).2.2.2 u]
    simp only [Event.after, eq_comm]
  | @acknowledged d v now _ _ h =>
    rw [NotificationRepository.unread_insertReads h u]
    by_cases hv : u = v
    · subst hv
      simp only [Event.after, if_true]
      refine List.filter_congr fun n hn ↦ ?_
      have hnot : (NotificationRepository.alreadyRead u s.toDatabase).contains n.id = false := by
        simpa using (List.mem_filter.mp hn).2
      rw [hnot]
      by_cases hd : n.dossierId = d <;> simp [hd]
    · simp [Event.after, hv, Ne.symm hv]

/-- Who is an employee stays one, and who joins was none before. -/
theorem Committed.users (h : Committed normalize hash s e s') (u : ℕ) :
    ((s.users.find? u).isSome → (s'.users.find? u).isSome) ∧
      (e.joins u = true → s.users.find? u = none ∧ (s'.users.find? u).isSome) := by
  cases h with
  | notified h =>
    unfold NotificationRepository.createForAll at h
    split at h <;> cases h
    exact ⟨id, by simp [Event.joins]⟩
  | joined h =>
    obtain ⟨hnew, hnow, hkeep, -⟩ := createUser_ok h
    refine ⟨hkeep u, fun hu ↦ ?_⟩
    obtain rfl : _ = u := by simpa [Event.joins] using hu
    exact ⟨hnew, hnow⟩
  | acknowledged h =>
    obtain ⟨-, husers, -⟩ := NotificationRepository.insertReads_ok h
    rw [husers]
    exact ⟨id, by simp [Event.joins]⟩

/-! ## Runs -/

theorem OfficeHistory.unread (h : OfficeHistory normalize hash s l s') (u : ℕ) :
    NotificationRepository.unread u s'.toDatabase =
      Feed.unread Notification.dossierId u (NotificationRepository.unread u s.toDatabase) l := by
  induction h with
  | start => rfl
  | step h he ih =>
    rw [he.unread, ih, Feed.unread, Feed.unread, List.foldl_append]
    rfl

/-- An employee joins once. -/
theorem OfficeHistory.joins_le (h : OfficeHistory normalize hash s l s') (u : ℕ) :
    l.countP (Event.joins u) ≤ 1 ∧
      (0 < l.countP (Event.joins u) → (s'.users.find? u).isSome) := by
  induction h with
  | start => simp
  | @step s₂ s₃ l e h he ih =>
    obtain ⟨hle, hsome⟩ := ih
    obtain ⟨hkeep, hjoin⟩ := he.users u
    rw [List.countP_append, List.countP_singleton]
    by_cases hu : e.joins u = true
    · obtain ⟨hnone, hnow⟩ := hjoin hu
      have hzero : l.countP (Event.joins u) = 0 := by
        refine Nat.eq_zero_of_not_pos fun hpos ↦ ?_
        have := hsome hpos
        rw [hnone] at this
        cases this
      rw [hzero, if_pos hu]
      exact ⟨le_refl 1, fun _ ↦ hnow⟩
    · rw [if_neg hu, Nat.add_zero]
      exact ⟨hle, fun hpos ↦ hkeep (hsome hpos)⟩

/-- Whether a dossier is unread is whether one of the unread notifications is about it. -/
theorem NotificationRepository.isUnreadForUser_iff {d : ℕ} {db : Database} :
    isUnreadForUser d u db = true ↔ ∃ n ∈ unread u db, n.dossierId = d := by
  rw [isUnreadForUser, decide_eq_true_iff, List.length_pos_iff_exists_mem]
  refine exists_congr fun n ↦ ?_
  simp only [unreadOf, unread, List.mem_filter, Bool.and_eq_true, beq_iff_eq]
  tauto

theorem any_joins : l.any (Event.joins u) = true ↔ .join u ∈ l := by
  rw [List.any_eq_true]
  constructor
  · rintro ⟨e, he, hu⟩
    cases e with
    | join v => exact (of_decide_eq_true hu : v = u) ▸ he
    | post n => cases hu
    | ack d v => cases hu
  · exact fun h ↦ ⟨_, h, decide_eq_true rfl⟩

theorem any_acks {d : ℕ} : l.any (Event.acks u d) = false ↔ .ack d u ∉ l := by
  rw [← Bool.not_eq_true, not_iff_not, List.any_eq_true]
  constructor
  · rintro ⟨e, he, hu⟩
    cases e with
    | ack d' v =>
      obtain ⟨rfl, rfl⟩ : v = u ∧ d' = d := by simpa [Event.acks] using hu
      exact he
    | post n => cases hu
    | join v => cases hu
  · exact fun h ↦ ⟨_, h, by simp [Event.acks]⟩

/-- For an employee who has joined, what is unread is what has been missed. -/
theorem OfficeHistory.unread_eq_missed (h : OfficeHistory normalize hash s l s')
    (hu : .join u ∈ l) :
    NotificationRepository.unread u s'.toDatabase = missed Notification.dossierId u l := by
  rw [h.unread]
  exact Feed.unread_eq_missed (any_joins.mpr hu) (h.joins_le u).1 _

/-- **What is unread is what the history says.**  For an employee who has been created, a dossier is
unread iff one of its notifications has been created after the employee and after their last
acknowledgement of the dossier, and the unread count is the number of such notifications.  A new
employee has nothing to read, and nothing that is done by or to one employee changes what is unread
for another. -/
theorem unread_history (h : OfficeHistory normalize hash s l s') :
    (∀ u, .join u ∈ l →
      (∀ d, NotificationRepository.isUnreadForUser d u s'.toDatabase = true ↔
        ∃ i n, l[i]? = some (.post n) ∧ n.dossierId = d ∧ .join u ∈ l.take i ∧
          .ack d u ∉ l.drop (i + 1)) ∧
      NotificationRepository.unreadCountForUser u s'.toDatabase =
        (missed Notification.dossierId u l).length) ∧
    ∀ e s'', Committed normalize hash s' e s'' →
      (∀ u, e = .join u → NotificationRepository.unreadCountForUser u s''.toDatabase = 0) ∧
      ∀ u v, (e = .join v ∨ ∃ d, e = .ack d v) → v ≠ u →
        NotificationRepository.unread u s''.toDatabase =
          NotificationRepository.unread u s'.toDatabase := by
  refine ⟨fun u hu ↦ ⟨fun d ↦ ?_, ?_⟩, fun e s'' he ↦ ⟨?_, ?_⟩⟩
  · rw [NotificationRepository.isUnreadForUser_iff, h.unread_eq_missed hu]
    constructor
    · rintro ⟨n, hn, rfl⟩
      obtain ⟨i, hi, hjoin, hack⟩ := mem_missed.mp hn
      exact ⟨i, n, hi, rfl, any_joins.mp hjoin, any_acks.mp hack⟩
    · rintro ⟨i, n, hi, rfl, hjoin, hack⟩
      exact ⟨n, mem_missed.mpr ⟨i, hi, any_joins.mpr hjoin, any_acks.mpr hack⟩, rfl⟩
  · rw [NotificationRepository.unreadCountForUser, h.unread_eq_missed hu]
  · rintro u rfl
    rw [NotificationRepository.unreadCountForUser, he.unread, Event.after, if_pos rfl]
    rfl
  · rintro u v hv hne
    rw [he.unread]
    rcases hv with rfl | ⟨d, rfl⟩
    · rw [Event.after, if_neg hne]
    · rw [Event.after, if_neg hne]

/-! ## An office -/

/-- The office of a new portal that knows one dossier, without employees. -/
def office : EmployeeDatabase where
  toDatabase := .oneDossier
  users := ⟨.empty, List.nodup_nil⟩
  reads_notification _ hr := absurd hr List.not_mem_nil
  reads_user _ hr := absurd hr List.not_mem_nil

/-- Two employees are notified of the dossier, and one of them opens it. -/
theorem unread_history_office : ∃ s', OfficeHistory id .ok office
    [.join 1, .join 2, .post ⟨1, 0, .newAgreementDossier, default⟩, .ack 0 1] s' ∧
    NotificationRepository.unreadCountForUser 1 s'.toDatabase = 0 ∧
    NotificationRepository.unreadCountForUser 2 s'.toDatabase = 1 := by
  have joined : OfficeHistory id .ok office _ _ :=
    (OfficeHistory.start office).step
      (@Committed.joined _ _ ⟨"a", "A", "", .employee⟩ default _ _ _ rfl)
  have joined' := joined.step (@Committed.joined _ _ ⟨"b", "B", "", .employee⟩ default _ _ _ rfl)
  have notified := joined'.step
    (@Committed.notified _ _ 0 .newAgreementDossier default _ _ _ rfl)
  have opened := notified.step (@Committed.acknowledged _ _ 0 1 default _ _ rfl)
  obtain ⟨s', h⟩ : ∃ s', OfficeHistory id .ok office
      [.join 1, .join 2, .post ⟨1, 0, .newAgreementDossier, default⟩, .ack 0 1] s' := ⟨_, opened⟩
  have hist := (unread_history h).1
  exact ⟨s', h, (hist 1 (by simp)).2, (hist 2 (by simp)).2⟩

end RmaPortal
