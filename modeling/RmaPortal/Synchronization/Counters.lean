import RmaPortal.Synchronization.Endings
import RmaPortal.Synchronization.Lifecycle

/-!
# What the counters of a poll count

A poll reports how many dossiers it has created, reactivated and deactivated, and how many
notifications it has raised.  What it has really done is read off the database before and after
it.

The two agree but for one case (`counters_iff`): a poll whose reconciliation is committed, and
whose detail phase is then cut short, reports that it has done nothing.

## What is here

* `insertedDossiers`, `switchedDossiers`, `insertedNotifications` — what a poll has done, as
  differences of two databases; nothing of the decision of the poll is in them.
* `CountersExact` — the four counters are these numbers.
* `Poll.notifications_prefix` — notifications are only ever added, at the end of their table.
* `Poll.Effective.insertedDossiers_eq`, `Poll.Effective.switchedDossiers_eq` — counting is done by
  record identifiers: dossiers do not go away and keep their identity, so the rows that are new,
  or have become active or inactive, correspond to the elements of the sets of the decision.
* `CutShort` — the last thing that is observed of a poll is a detail read whose outcome was not
  saved.
* `Poll.LosesCounters` — the poll has committed a reconciliation that changed something, and its
  detail phase was then cut short.
* `counters_iff` — the counters are exact if and only if they are not lost in this way.  The cases
  are those of `Ended`: a poll that never got to reconcile counts nothing and has done nothing,
  one that did counts what was decided, and the `except` clause in between starts from a report
  with zeros.
* `not_countersExact` — a poll that sees a new dossier and finds its session expired when it reads
  the details: the dossier is committed, and the report says that none was created.
* `counters_iff_readPoll` — one that sees a new dossier and reads its details.

The condition speaks of the decision, which is a function of the snapshot and the database before,
so it can be checked without running the poll.
-/

set_option autoImplicit false

open Coroutine

namespace RmaPortal

open SyncAgreementQueue

/-! ## What a poll has done -/

namespace Database

/-- How many dossiers there are that were not there before. -/
def insertedDossiers (before after : Database) : ℕ :=
  (after.dossiers.rows.filter fun d ↦ (before.dossiers.find? d.id).isNone).length

/-- How many dossiers are active, or not, that were the contrary before. -/
def switchedDossiers (active : Bool) (before after : Database) : ℕ :=
  (after.dossiers.rows.filter fun d ↦
    d.active == active && (before.dossiers.find? d.id).any fun old ↦ old.active == !active).length

/-- How many notifications there are that were not there before. -/
def insertedNotifications (before after : Database) : ℕ :=
  (after.notifications.rows.filter fun n ↦ (before.notifications.find? n.id).isNone).length

end Database

/-- The counters of a poll are the numbers of what it has done. -/
structure CountersExact (before after : Database) (result : SyncResult) : Prop where
  created : result.created = before.insertedDossiers after
  reactivated : result.reactivated = before.switchedDossiers true after
  deactivated : result.deactivated = before.switchedDossiers false after
  notifications : result.notificationsCreated = before.insertedNotifications after

/-! ## Counting notifications -/

theorem only_true {α : Type} (c : Prog α) : Only (fun _ ↦ True) c := by
  induction c with
  | done o => trivial
  | ask r k ih => exact ⟨trivial, ih⟩

/-- Notifications are only ever added. -/
theorem Poll.notifications_prefix {H : Type} {F : PortalReaderFactory H} {p : Poll}
    (h : p.IsRun F) : p.before.notifications.rows <+: p.after.notifications.rows := by
  obtain ⟨w, w', hw, hexec, hw'⟩ := h
  have hkept := ((only_true (execute F)).sat (S := world)
    (I := fun w' ↦ Kept (fun db ↦ p.before.notifications.rows <+: db.notifications.rows) w'.db)
    (fun _ _ _ _ ↦ trivial) ?_ (s := w) ?_).exec hexec
  · rw [hw'] at hkept
    exact hkept.1.1
  · rintro w₁ r a w₂ - hI ⟨b, hb⟩
    simp only [RmaPortal.serve] at hb
    cases r with
    | uow q =>
      cases hb
      refine hI.serve (fun tx op db db' x _ hdb hrun ↦ hdb.trans ?_) b
      by_cases hop : ∀ id kind t, op ≠ .createNotification id kind t
      · rw [Repo.notifications_of_run hrun hop]
      · push Not at hop
        obtain ⟨id, kind, t, rfl⟩ := hop
        exact ⟨_, (Repo.notifications_create hrun).symm⟩
    | _ =>
      cases hb
      exact hI
  · rw [hw]
    exact ⟨List.prefix_rfl, fun _ h ↦ by cases h⟩

/-- Of rows that have been added, those are new that make the table longer. -/
theorem Database.insertedNotifications_of_prefix {before after : Database}
    (h : before.notifications.rows <+: after.notifications.rows) :
    after.notificationTotal = before.notificationTotal + before.insertedNotifications after := by
  obtain ⟨new, hnew⟩ := h
  have hnodup := after.notifications.nodup
  rw [← hnew, List.map_append, List.nodup_append] at hnodup
  have hold : before.notifications.rows.filter
      (fun n ↦ (before.notifications.find? n.id).isNone) = [] := by
    refine List.filter_eq_nil_iff.mpr fun n hn ↦ ?_
    rw [Table.find?_of_mem hn]
    simp
  have hfresh : new.filter (fun n ↦ (before.notifications.find? n.id).isNone) = new := by
    refine List.filter_eq_self.mpr fun n hn ↦ ?_
    rw [Option.isNone_iff_eq_none, Table.find?_eq_none]
    exact fun m hm ↦ hnodup.2.2 _ (List.mem_map_of_mem hm) _ (List.mem_map_of_mem hn)
  rw [notificationTotal, notificationTotal, insertedNotifications, ← hnew, List.filter_append,
    hold, hfresh, List.length_append, List.nil_append]

/-! ## Counting dossiers -/

/-- Rows that are those of an account with the record identifiers of a set are as many as the set
has elements. -/
theorem Database.length_filter_dossiers {db : Database} (accountId : ℕ) {P : Dossier → Bool}
    {s : FrozenSet String}
    (hP : ∀ d ∈ db.dossiers.rows, P d = true ↔ d.portalAccountId = accountId ∧ d.recordId ∈ s)
    (hs : ∀ r ∈ s, ∃ d, db.dossier accountId r = some d) :
    (db.dossiers.rows.filter P).length = s.rows.length := by
  have hnodup : ((db.dossiers.rows.filter P).map Dossier.recordId).Nodup := by
    have hkeys : ((db.dossiers.rows.filter P).map Dossier.recordKey).Nodup :=
      db.dossiers.unique.sublist (List.filter_sublist.map _)
    refine List.Nodup.map_on (fun d hd d' hd' hid ↦ ?_) (hkeys.of_map _)
    obtain ⟨hd, hPd⟩ := List.mem_filter.mp hd
    obtain ⟨hd', hPd'⟩ := List.mem_filter.mp hd'
    have hkey : d.recordKey = d'.recordKey :=
      Prod.ext ((((hP d hd).mp hPd).1).trans ((hP d' hd').mp hPd').1.symm) hid
    exact List.inj_on_of_nodup_map db.dossiers.unique hd hd' hkey
  have hperm : ((db.dossiers.rows.filter P).map Dossier.recordId).Perm s.rows := by
    have hset : s.rows.Nodup := by simpa using s.nodup
    refine (List.perm_ext_iff_of_nodup hnodup hset).mpr fun r ↦ ?_
    constructor
    · intro hr
      obtain ⟨d, hd, rfl⟩ := List.mem_map.mp hr
      obtain ⟨hd, hPd⟩ := List.mem_filter.mp hd
      exact ((hP d hd).mp hPd).2
    · intro hr
      obtain ⟨d, hd⟩ := hs r hr
      have hkey : d.recordKey = (accountId, r) := Table.key_of_find? hd
      have hmem : d ∈ db.dossiers.rows := Table.mem_of_find? (t := db.dossiers.byRecord) hd
      obtain ⟨haccount, rfl⟩ := Prod.mk.inj hkey
      exact List.mem_map_of_mem (List.mem_filter.mpr ⟨hmem, (hP d hmem).mpr ⟨haccount, hr⟩⟩)
  rw [← hperm.length_eq, List.length_map]

namespace Poll.Effective

variable {p : Poll} {status : PollStatus} {snapshot : QueueSnapshot} {account : PortalAccount}
  {needing : Table Dossier.id} {obs : List PollEvent} {mid last : Database}
  (h : p.Effective status snapshot account needing obs mid last)

include h

/-- A dossier does not go away, and keeps its identity. -/
theorem persists {k : ℕ × String} {d : Dossier}
    (hd : p.before.dossiers.byRecord.find? k = some d) :
    ∃ d', p.after.dossiers.byRecord.find? k = some d' ∧ d'.id = d.id := by
  by_cases hk : k.1 = account.id
  · obtain ⟨accountId, r⟩ := k
    obtain rfl : accountId = account.id := hk
    obtain ⟨id, hrow⟩ := h.row r
    rw [unreconciled, hd] at hrow
    obtain ⟨y, hy, hid⟩ := reconcileRow_some account.id status account.baselineCompletedAt.isSome
      p.startedAt ((Table.ofList snapshot.rows : Table QueueRow.recordId).find? r) id
      ⟨d, p.before.notificationCount d.id, if needsRetry account.id d then some d else none⟩
    rw [Option.map_some, hy] at hrow
    obtain ⟨d', hd', heq⟩ := Option.map_eq_some_iff.mp hrow
    refine ⟨d', hd', ?_⟩
    rw [(Prod.mk.inj heq).1, applyRead_id]
    exact hid
  · exact ⟨d, (h.foreign hk).trans hd, rfl⟩

/-- What there was of a dossier before, by its identity, is what there was by its record. -/
theorem find?_before {d : Dossier} (hd : d ∈ p.after.dossiers.rows) :
    p.before.dossiers.find? d.id = p.before.dossiers.byRecord.find? d.recordKey := by
  have hafter : p.after.dossiers.byRecord.find? d.recordKey = some d := Table.find?_of_mem hd
  cases hkey : p.before.dossiers.byRecord.find? d.recordKey with
  | some d₀ =>
    obtain ⟨d', hd', hid⟩ := h.persists hkey
    cases hd'.symm.trans hafter
    rw [hid]
    exact DossierTable.find?_id_of_byRecord hkey
  | none =>
    rw [Table.find?_eq_none]
    intro d₀ hd₀ hid
    have hd₀' : p.before.dossiers.byRecord.find? d₀.recordKey = some d₀ := Table.find?_of_mem hd₀
    obtain ⟨d', hd', hid'⟩ := h.persists hd₀'
    have heq := DossierTable.eq_of_id_eq hd' hafter (hid'.trans hid)
    subst heq
    rw [Table.key_of_find? hd', hd₀'] at hkey
    cases hkey

/-- A dossier that is seen is active. -/
theorem active_of_seen {r : String} {row : QueueRow}
    (hrow : (Table.ofList snapshot.rows : Table QueueRow.recordId).find? r = some row) :
    (p.after.dossier account.id r).map Dossier.active = some true := by
  obtain ⟨id, hpresence⟩ := h.presence_row r
  rw [hrow, presence_reconcileRow_some] at hpresence
  have hactive := congrArg (Option.map Prod.fst) hpresence
  rwa [Database.presence, Option.map_map] at hactive

/-- A dossier that is not seen stays as it is, or becomes inactive if it was missed too often. -/
theorem active_of_not_seen {r : String}
    (hrow : (Table.ofList snapshot.rows : Table QueueRow.recordId).find? r = none) :
    (p.after.dossier account.id r).map Dossier.active =
      (p.before.dossier account.id r).map fun d ↦ if d.active ∧ status = .complete then
        decide (d.missingCompletePolls + 1 < maxMissingCompletePolls) else d.active := by
  obtain ⟨id, hpresence⟩ := h.presence_row r
  have hactive := congrArg (Option.map Prod.fst) hpresence
  rw [Database.presence, Option.map_map, hrow, Option.map_map] at hactive
  refine hactive.trans ?_
  rw [unreconciled, Database.dossier]
  cases p.before.dossiers.byRecord.find? (account.id, r) with
  | none => rfl
  | some d =>
    rw [Option.map_some, reconcileRow, Option.map_some, Option.map_some]
    by_cases hmiss : d.active = true ∧ status = .complete
    · rw [if_pos hmiss, if_pos hmiss]
      rfl
    · rw [if_neg hmiss, if_neg hmiss]
      rfl

/-- What the poll decided. -/
theorem mem_decision (r : String) :
    let result := decision account.id account.baselineCompletedAt.isSome status snapshot p.before
    (r ∈ result.toCreate ↔
      p.before.dossier account.id r = none ∧ (p.after.dossier account.id r).isSome) ∧
    (r ∈ result.toReactivate ↔ (p.before.dossier account.id r).map Dossier.active = some false ∧
      (p.after.dossier account.id r).map Dossier.active = some true) ∧
    (r ∈ result.toDeactivate ↔ (p.before.dossier account.id r).map Dossier.active = some true ∧
      (p.after.dossier account.id r).map Dossier.active = some false) := by
  dsimp only
  have husable : ReconciliationInput.pollStatus
      { pollStatus := status
        baselineAlreadyCompleted := account.baselineCompletedAt.isSome
        seenRecordIds := (Table.ofList snapshot.rows : Table QueueRow.recordId).keys
        existing := DossierRepository.existingStateByAccount account.id p.before } = .complete ∨
      status = .partialRead := h.usable
  rw [decision, mem_toCreate husable, mem_toReactivate husable, mem_toDeactivate husable]
  simp only [find?_absenceIncrements husable, find?_existingStateByAccount, Table.mem_keys]
  have hsome : (p.after.dossier account.id r).isSome =
      ((p.after.dossier account.id r).map Dossier.active).isSome := by rw [Option.isSome_map]
  rw [hsome]
  cases hrow : (Table.ofList snapshot.rows : Table QueueRow.recordId).find? r with
  | some row =>
    rw [h.active_of_seen hrow]
    cases p.before.dossier account.id r with
    | none => simp
    | some d => simp
  | none =>
    rw [h.active_of_not_seen hrow]
    cases p.before.dossier account.id r with
    | none => simp
    | some d =>
      by_cases hactive : d.active = true <;> by_cases hcomplete : status = .complete <;>
        simp [hactive, hcomplete]

/-- A dossier of the account, before and after. -/
theorem dossier_of_mem {d : Dossier} (hd : d ∈ p.after.dossiers.rows)
    (haccount : d.portalAccountId = account.id) :
    p.after.dossier account.id d.recordId = some d ∧
      p.before.dossiers.find? d.id = p.before.dossier account.id d.recordId := by
  have hkey : d.recordKey = (account.id, d.recordId) := Prod.ext haccount rfl
  have hafter : p.after.dossiers.byRecord.find? d.recordKey = some d := Table.find?_of_mem hd
  rw [h.find?_before hd, hkey]
  rw [hkey] at hafter
  exact ⟨hafter, rfl⟩

/-- A dossier of another account is as it was. -/
theorem find?_of_foreign {d : Dossier} (hd : d ∈ p.after.dossiers.rows)
    (haccount : d.portalAccountId ≠ account.id) : p.before.dossiers.find? d.id = some d := by
  have hafter : p.after.dossiers.byRecord.find? d.recordKey = some d := Table.find?_of_mem hd
  rw [h.find?_before hd, ← h.foreign haccount, hafter]

theorem insertedDossiers_eq : p.before.insertedDossiers p.after =
    (decision account.id account.baselineCompletedAt.isSome status snapshot
      p.before).toCreate.rows.length := by
  refine Database.length_filter_dossiers account.id (fun d hd ↦ ?_) fun r hr ↦ ?_
  · by_cases haccount : d.portalAccountId = account.id
    · obtain ⟨hafter, hbefore⟩ := h.dossier_of_mem hd haccount
      rw [(h.mem_decision d.recordId).1, hafter, hbefore]
      simp [haccount]
    · rw [h.find?_of_foreign hd haccount]
      simp [haccount]
  · exact Option.isSome_iff_exists.mp ((h.mem_decision r).1.mp hr).2

theorem switchedDossiers_eq (active : Bool) {s : FrozenSet String}
    (hs : ∀ r, r ∈ s ↔ (p.before.dossier account.id r).map Dossier.active = some !active ∧
      (p.after.dossier account.id r).map Dossier.active = some active) :
    p.before.switchedDossiers active p.after = s.rows.length := by
  refine Database.length_filter_dossiers account.id (fun d hd ↦ ?_) fun r hr ↦ ?_
  · by_cases haccount : d.portalAccountId = account.id
    · obtain ⟨hafter, hbefore⟩ := h.dossier_of_mem hd haccount
      rw [hs d.recordId, hafter, hbefore]
      cases p.before.dossier account.id d.recordId with
      | none => simp
      | some old => simp [haccount, and_comm]
    · rw [h.find?_of_foreign hd haccount]
      simp [haccount]
  · obtain ⟨-, hafter⟩ := (hs r).mp hr
    obtain ⟨d, hd, -⟩ := Option.map_eq_some_iff.mp hafter
    exact ⟨d, hd⟩

end Poll.Effective

/-! ## Losing the counters -/

/-- The detail phase was cut short: the last thing that is observed is a detail read, whose outcome
was not saved. -/
def CutShort (obs : List PollEvent) : Prop :=
  ∃ ref answer, obs.getLast? = some (.detailRead ref answer)

/-- The event is the commit of what a detail read has found. -/
def PollEvent.isDetailSaved : PollEvent → Bool
  | .detailSaved => true
  | _ => false

/-- There is something to create, to reactivate or to deactivate. -/
def ReconciliationResult.Changes (result : ReconciliationResult) : Prop :=
  result.toCreate.rows ≠ [] ∨ result.toReactivate.rows ≠ [] ∨ result.toDeactivate.rows ≠ []

/-- The poll committed a reconciliation that changed something, and its detail phase was then cut
short. -/
def Poll.LosesCounters (p : Poll) : Prop :=
  ∃ account answer status snapshot obs,
    PortalAccountRepository.getDefault p.before = some account ∧
    queueReport answer = some (status, snapshot) ∧
    observed p.trace = .queueRead answer :: .reconciled :: obs ∧ CutShort obs ∧
    (decision account.id account.baselineCompletedAt.isSome status snapshot p.before).Changes

/-- A detail phase is cut short if it ends with an exception. -/
theorem DetailsEnd.cutShort_iff {obs : List PollEvent} {n : ℕ} {o : Except Exn ℕ}
    (h : DetailsEnd obs n o) : CutShort obs ↔ ∃ e, o = .error e := by
  induction h with
  | done n => simp [CutShort]
  | @saved ref answer details obs n o hsaved hrest ih =>
    rw [← ih, CutShort, CutShort]
    cases obs with
    | nil => simp
    | cons event obs => simp
  | raised hraised => simp [CutShort]
  | unsaved hsaved he => simp [CutShort]

/-- What is decided depends on the dossiers only. -/
theorem decision_congr {accountId : ℕ} {baseline : Bool} {status : PollStatus}
    {snapshot : QueueSnapshot} {db db' : Database} (h : db'.dossiers = db.dossiers) :
    decision accountId baseline status snapshot db' =
      decision accountId baseline status snapshot db := by
  have hexisting : DossierRepository.existingStateByAccount accountId db' =
      DossierRepository.existingStateByAccount accountId db := by
    simp only [DossierRepository.existingStateByAccount, h]
  rw [decision, decision, hexisting]

/-- Nothing is counted. -/
structure CountsNothing (result : SyncResult) : Prop where
  created : result.created = 0
  reactivated : result.reactivated = 0
  deactivated : result.deactivated = 0
  notifications : result.notificationsCreated = 0

/-- Where nothing is done, it is right to count nothing. -/
theorem CountsNothing.exact_of_sameDataset {result : SyncResult} {before after : Database}
    (h : CountsNothing result) (hsame : SameDataset before after) :
    CountersExact before after result := by
  have hfind {d : Dossier} (hd : d ∈ before.dossiers.rows) :
      before.dossiers.find? d.id = some d := Table.find?_of_mem hd
  have hswitched (active : Bool) : before.switchedDossiers active after = 0 := by
    rw [Database.switchedDossiers, hsame.dossiers, List.length_eq_zero_iff, List.filter_eq_nil_iff]
    intro d hd
    rw [hfind hd]
    cases hactive : d.active <;> cases active <;> simp [hactive]
  refine ⟨h.created.trans ?_, h.reactivated.trans (hswitched true).symm,
    h.deactivated.trans (hswitched false).symm, h.notifications.trans ?_⟩
  · rw [eq_comm, Database.insertedDossiers, hsame.dossiers, List.length_eq_zero_iff,
      List.filter_eq_nil_iff]
    intro d hd
    rw [hfind hd]
    simp
  · rw [eq_comm, Database.insertedNotifications, hsame.notifications, List.length_eq_zero_iff,
      List.filter_eq_nil_iff]
    intro n hn
    rw [Table.find?_of_mem hn]
    simp

/-- Closing the reader changes nothing that was counted. -/
theorem countsNothing_afterClose {report : PollReport} (h : CountsNothing report.result)
    (cleanupOk : Bool) : CountsNothing (report.afterClose cleanupOk).result := by
  cases cleanupOk
  · exact ⟨h.created, h.reactivated, h.deactivated, h.notifications⟩
  · exact h

theorem countsNothing_abandon {e : Exn} {report : PollReport} (h : abandon e = .ok report) :
    CountsNothing report.result := by
  unfold abandon at h
  split at h <;> cases h
  exact ⟨rfl, rfl, rfl, rfl⟩

theorem countsNothing_unread {e : Exn} {report : PollReport} (h : unreadReport e = .ok report) :
    CountsNothing report.result := by
  unfold unreadReport at h
  split at h
  · cases h
    exact ⟨rfl, rfl, rfl, rfl⟩
  · cases h
    exact ⟨rfl, rfl, rfl, rfl⟩
  · exact countsNothing_abandon h

section Counters

variable {H : Type} {F : PortalReaderFactory H} {p : Poll}

/-- A poll that has not reconciled has no counters to lose. -/
theorem Poll.not_losesCounters (h : observed p.trace = [] ∨
    ∃ answer, observed p.trace = [.queueRead answer]) : ¬p.LosesCounters := by
  rintro ⟨account, answer, status, snapshot, obs, -, -, hobs, -⟩
  rcases h with h | ⟨answer', h⟩ <;> simp [h] at hobs

/-- **The counters of a poll that has reconciled** are exact if they are those of the decision. -/
theorem Poll.Effective.countersExact_iff {status : PollStatus} {snapshot : QueueSnapshot}
    {account : PortalAccount} {needing : Table Dossier.id} {obs : List PollEvent}
    {mid last : Database} (h : p.Effective status snapshot account needing obs mid last)
    (hrun : p.IsRun F) {decided : ReconciliationResult}
    (hdecided : decided =
      decision account.id account.baselineCompletedAt.isSome status snapshot p.before)
    (htotal : p.after.notificationTotal = p.before.notificationTotal + decided.notified)
    (result : SyncResult) :
    CountersExact p.before p.after result ↔ result.created = decided.toCreate.rows.length ∧
      result.reactivated = decided.toReactivate.rows.length ∧
      result.deactivated = decided.toDeactivate.rows.length ∧
      result.notificationsCreated = decided.notified := by
  have hinserted : p.before.insertedNotifications p.after = decided.notified := by
    have hprefix := Database.insertedNotifications_of_prefix (Poll.notifications_prefix hrun)
    omega
  have htrue := h.switchedDossiers_eq true fun r ↦ (h.mem_decision r).2.1
  have hfalse := h.switchedDossiers_eq false fun r ↦ (h.mem_decision r).2.2
  have hcreated := h.insertedDossiers_eq
  rw [← hdecided] at htrue hfalse hcreated
  rw [← hinserted, ← hcreated, ← htrue, ← hfalse]
  constructor
  · exact fun h ↦ ⟨h.created, h.reactivated, h.deactivated, h.notifications⟩
  · rintro ⟨hcreated, hreactivated, hdeactivated, hnotifications⟩
    exact ⟨hcreated, hreactivated, hdeactivated, hnotifications⟩

/-- What is lost by a poll that has reconciled. -/
theorem Poll.losesCounters_iff {account : PortalAccount} {answer : Except Exn QueueSnapshot}
    {status : PollStatus} {snapshot : QueueSnapshot} {obs : List PollEvent}
    (haccount : PortalAccountRepository.getDefault p.before = some account)
    (hreport : queueReport answer = some (status, snapshot))
    (hobs : observed p.trace = .queueRead answer :: .reconciled :: obs) :
    p.LosesCounters ↔ CutShort obs ∧
      (decision account.id account.baselineCompletedAt.isSome status snapshot
        p.before).Changes := by
  constructor
  · rintro ⟨account', answer', status', snapshot', obs', haccount', hreport', hobs', hloses⟩
    rw [haccount] at haccount'
    rw [hobs] at hobs'
    cases haccount'
    cases hobs'
    rw [hreport] at hreport'
    cases hreport'
    exact hloses
  · exact fun h ↦ ⟨account, answer, status, snapshot, obs, haccount, hreport, hobs, h⟩

/-- Nothing changes if and only if there is nothing to count. -/
theorem ReconciliationResult.not_changes_iff {result : ReconciliationResult} :
    ¬result.Changes ↔ 0 = result.toCreate.rows.length ∧ 0 = result.toReactivate.rows.length ∧
      0 = result.toDeactivate.rows.length ∧ 0 = result.notified := by
  simp only [Changes, not_or, ne_eq, not_not, ← List.length_eq_zero_iff, notified]
  split <;> omega

/-- The counters are those of the report, however the reader was closed. -/
theorem counters_afterClose (report : PollReport) (cleanupOk : Bool) :
    (report.afterClose cleanupOk).result.created = report.created ∧
      (report.afterClose cleanupOk).result.reactivated = report.reactivated ∧
      (report.afterClose cleanupOk).result.deactivated = report.deactivated ∧
      (report.afterClose cleanupOk).result.notificationsCreated = report.notified := by
  cases cleanupOk <;> exact ⟨rfl, rfl, rfl, rfl⟩

/-- A poll that has reconciled: its detail phase says whether it keeps its counters. -/
theorem counters_iff_of_reconciled (hrun : p.IsRun F) {account : PortalAccount}
    {answer : Except Exn QueueSnapshot} {status : PollStatus} {snapshot : QueueSnapshot}
    {obs : List PollEvent} {db db' : Database} {o : Except Exn ℕ} {report : PollReport}
    (haccount : PortalAccountRepository.getDefault p.before = some account)
    (hreport : queueReport answer = some (status, snapshot))
    (hobs : observed p.trace = .queueRead answer :: .reconciled :: obs)
    (hstarted : SameDataset p.before db) (hfinished : SameDataset db' p.after)
    {decided : ReconciliationResult}
    (hdecided : decided =
      decision account.id account.baselineCompletedAt.isSome status snapshot db)
    (hgrown : db'.notificationTotal = db.notificationTotal + decided.notified)
    (hdetails : DetailsEnd obs 0 o)
    (hreported : caught (o.map (completeReport answer status snapshot decided)) = .ok report)
    (cleanupOk : Bool) :
    CountersExact p.before p.after (report.afterClose cleanupOk).result ↔ ¬p.LosesCounters := by
  rw [decision_congr hstarted.dossiers] at hdecided
  have htotal : p.after.notificationTotal = p.before.notificationTotal + decided.notified := by
    rw [Database.notificationTotal, Database.notificationTotal, hfinished.notifications,
      ← hstarted.notifications]
    exact hgrown
  obtain ⟨account', needing, obs', mid, last, heffective⟩ :=
    Poll.effective hrun ((Poll.report_of_reconciled hobs).trans hreport)
  obtain rfl : account' = account :=
    Option.some.inj (heffective.getDefault.symm.trans haccount)
  rw [heffective.countersExact_iff hrun hdecided htotal,
    Poll.losesCounters_iff haccount hreport hobs, ← hdecided, hdetails.cutShort_iff]
  obtain ⟨hcreated, hreactivated, hdeactivated, hnotified⟩ := counters_afterClose report cleanupOk
  rw [hcreated, hreactivated, hdeactivated, hnotified]
  cases o with
  | ok n =>
    cases hreported
    exact iff_of_true ⟨rfl, rfl, rfl, rfl⟩ (by simp)
  | error e =>
    have hnothing : CountsNothing report.result := countsNothing_abandon hreported
    rw [show report.created = 0 from hnothing.created,
      show report.reactivated = 0 from hnothing.reactivated,
      show report.deactivated = 0 from hnothing.deactivated,
      show report.notified = 0 from hnothing.notifications,
      ← ReconciliationResult.not_changes_iff]
    simp

/-- **When the counters of a poll are exact**: iff it does not lose them. -/
theorem counters_iff (hrun : p.IsRun F) (hlead : p.Leads) {result : SyncResult}
    (hresult : p.outcome = .ok result) :
    CountersExact p.before p.after result ↔ ¬p.LosesCounters := by
  have huntouched (hobs : observed p.trace = [] ∨ ∃ answer, observed p.trace = [.queueRead answer])
      (hcounts : CountsNothing result) (hsame : SameDataset p.before p.after) :
      CountersExact p.before p.after result ↔ ¬p.LosesCounters :=
    iff_of_true (hcounts.exact_of_sameDataset hsame) (Poll.not_losesCounters hobs)
  have hended := Poll.ended hrun hlead
  rw [hresult] at hended
  generalize hobserved : observed p.trace = obs at hended
  generalize hdb : p.after = after at hended
  generalize hok : (.ok result : Except Exn SyncResult) = o at hended
  cases hended with
  | skipped reason hobs =>
    cases hok
    have hiff := huntouched (.inl (hobserved.trans hobs)) ⟨rfl, rfl, rfl, rfl⟩ (hdb ▸ .refl _)
    rwa [hdb] at hiff
  | failed haccount hobs hrecorded hsame =>
    cases hok
    subst hdb
    exact huntouched (.inl (hobserved.trans hobs)) ⟨rfl, rfl, rfl, rfl⟩ hsame
  | @polled account run reader closed now completedAt db db' _ report cleanupOk haccount hopened
      heffect hreport hentered hclosed hconfirmed hrecorded hsame =>
    cases hok
    subst hdb
    generalize hreported : (.ok report : Except Exn PollReport) = o at hreport
    -- a poll that has not reconciled has left the dataset alone
    have hidle {answer : Except Exn QueueSnapshot} (hobs : obs = [.queueRead answer]) :
        SameDataset p.before p.after := by
      cases heffect with
      | untouched _ hdb =>
        subst hdb
        exact hopened.dataset.trans hsame
      | reconciled _ hobs' _ _ =>
        rw [hobs'] at hobs
        cases hobs
    cases hreport with
    | unread _ _ =>
      exact huntouched (.inr ⟨_, hobserved⟩)
        (countsNothing_afterClose (countsNothing_unread hreported.symm) cleanupOk) (hidle rfl)
    | unreconciled _ _ _ =>
      exact huntouched (.inr ⟨_, hobserved⟩)
        (countsNothing_afterClose (countsNothing_abandon hreported.symm) cleanupOk) (hidle rfl)
    | reconciled hread hdecided hdetails hgrown =>
      exact counters_iff_of_reconciled hrun haccount hread hobserved hopened.dataset hsame
        hdecided hgrown hdetails hreported.symm cleanupOk
  | _ => cases hok

end Counters

/-! ## Two polls -/

/-- A poll that sees a new dossier, and finds its session expired when it reads the details. -/
def expiredPoll : Poll :=
  .scripted (camoufoxPortalReaderFactory .standard) (.ofAccount (.unpolled 1))
    (.shows [.ofStatus "a" "open"] (.error (.portalAuthRequiredError "")))

/-- The new dossier is committed, and the poll says that it has created none. -/
theorem not_countersExact :
    ¬∀ p : Poll, p.IsRun (camoufoxPortalReaderFactory .standard) → p.Leads →
      ∀ result, p.outcome = .ok result → CountersExact p.before p.after result := by
  intro h
  have hcreated : expiredPoll.outcome.toOption.map SyncResult.created = some 0 := by
    decide +kernel
  have hinserted : expiredPoll.before.insertedDossiers expiredPoll.after = 1 := by
    decide +kernel
  cases hresult : expiredPoll.outcome with
  | error e =>
    rw [hresult] at hcreated
    cases hcreated
  | ok result =>
    have hexact := h expiredPoll (Poll.isRun_scripted _ _ _) (Poll.leads_scripted _ _ _) result
      hresult
    rw [hresult] at hcreated
    have hzero : result.created = 0 := Option.some.inj hcreated
    have hone := hexact.created
    rw [hinserted, hzero] at hone
    cases hone

/-- A poll that sees a new dossier and reads its details. -/
def readPoll : Poll :=
  .scripted (camoufoxPortalReaderFactory .standard) (.ofAccount (.unpolled 1))
    (.shows [.ofStatus "a" "open"] (.ok .quoted))

theorem counters_iff_readPoll :
    ∃ result, readPoll.outcome = .ok result ∧ result.created = 1 ∧
      CountersExact readPoll.before readPoll.after result := by
  have hcreated : readPoll.outcome.toOption.map SyncResult.created = some 1 := by decide +kernel
  have hlast : (observed readPoll.trace).getLast?.map PollEvent.isDetailSaved = some true := by
    decide +kernel
  cases hresult : readPoll.outcome with
  | error e =>
    rw [hresult] at hcreated
    cases hcreated
  | ok result =>
    rw [hresult] at hcreated
    refine ⟨result, rfl, Option.some.inj hcreated, (counters_iff (Poll.isRun_scripted _ _ _)
      (Poll.leads_scripted _ _ _) hresult).mpr ?_⟩
    rintro ⟨account, answer, status, snapshot, obs, -, -, hobs, ⟨ref, answer', hcut⟩, -⟩
    have hobs' : observed readPoll.trace = .queueRead answer :: .reconciled :: obs := hobs
    cases obs with
    | nil => cases hcut
    | cons event obs =>
      rw [hobs', List.getLast?_cons_cons, List.getLast?_cons_cons, hcut] at hlast
      cases hlast

end RmaPortal
