import RmaPortal.Synchronization.Counters
import RmaPortal.Synchronization.DetailRefresh

/-!
# Which details a poll reads

The dossiers whose details a poll reads are collected in a dictionary that is filled partly before
the rows change and partly while they do.  `Tracked.queued` is a dossier's entry in it, and a poll
reads the details of the dossiers that have an entry when the reconciliation is committed
(`Poll.Effective.queued_of_mem`), each with the link of its entry.

So a poll that comes to the end of its detail phase reads exactly what it must (`readsRight`).
The links are those of the poll's own rows but for one kind of dossier (`currentLink_iff`): the
entry of a dossier that waited for another attempt is a copy made before the row was refreshed,
and if nothing else about the dossier asks for a read, the copy stays.

## What is here

* `Dossier.details` — the columns that the detail phase writes.
* `Poll.Effective.queued_of_mem`, `Poll.Effective.reads_nodup`, `Poll.Effective.read_iff_queued` —
  what is read is what has an entry, nothing is read twice, and if the phase comes to its end
  everything is read.
* `readsRight` — the dossiers that have to be read are the new ones, the ones that have come back,
  those with a changed status, those with an unfinished or failed last attempt and those without a
  quote date; a poll reads these and no others, each of them once, and stores what it has read.
  It assumes that what is read is saved: a read that can not be saved ends the phase.
* `not_readsRight` — which is what happens to a poll whose disk is full.
* `readsRight_secondLook` — three dossiers of four are read, two of them with success.
* `Poll.KeepsOldLink` — the dossiers that are read with an old link: nothing but their unfinished
  details asks for a read, and the link that is stored of them is no longer that of their row.
* `currentLink_iff` — in every run of polls, a dossier that a poll has seen is read with the link
  of its row, but for the dossiers of which this holds; the condition is on the database before
  the poll and on the row, not on what the poll does.
* `not_currentLink` — a run of five polls in which the old link is used: a dossier that has
  disappeared and comes back is queued, but its read is cut short by an expired session, and its
  link changes meanwhile.

The entries are followed through the loops of the transaction in `Synchronization.Reconciliation`.
-/

set_option autoImplicit false

open Coroutine

namespace RmaPortal

open SyncAgreementQueue

/-! ## The entries of the queue -/

/-- The columns that the detail phase writes. -/
def Dossier.details (d : Dossier) : DossierDetails := ⟨d.dates, d.detailComplete, d.detailError⟩

namespace Poll.Effective

variable {p : Poll} {status : PollStatus} {snapshot : QueueSnapshot} {account : PortalAccount}
  {needing : Table Dossier.id} {obs : List PollEvent} {mid last : Database}
  (h : p.Effective status snapshot account needing obs mid last)

include h

/-- **What is read is what has an entry**, and it is read with the link of the entry. -/
theorem queued_of_mem {e : DetailRead} (he : e ∈ p.detailReads) :
    ∃ id x d, view needing mid (account.id, e.ref.recordId) = some x ∧
      reconcileRow account.id status account.baselineCompletedAt.isSome p.startedAt
        ((Table.ofList snapshot.rows : Table QueueRow.recordId).find? e.ref.recordId) id
        (unreconciled account.id p.before (account.id, e.ref.recordId)) = some x ∧
      x.queued = some d ∧ e.ref = asPortalRef d := by
  rw [h.detailReads_eq] at he
  obtain ⟨d, hd, href⟩ := h.enriched.mem_queue he
  obtain ⟨m, hm, hid⟩ := h.queueIn.find? hd
  have hview : view needing mid (account.id, d.recordId) =
      some ⟨m, mid.notificationCount m.id, needing.find? m.id⟩ := view_of_find? hm
  rw [show d.recordId = e.ref.recordId by rw [href]; rfl] at hview
  obtain ⟨id, hrow⟩ := h.reconciled.row e.ref.recordId
  refine ⟨id, _, d, hview, hrow.symm.trans hview, ?_, href⟩
  rw [hid]
  exact Table.find?_of_mem hd

/-- No dossier is read twice. -/
theorem reads_nodup : (p.detailReads.map fun e ↦ e.ref.recordId).Nodup := by
  have hprefix := h.enriched.refs_prefix.map PortalDossierRef.recordId
  rw [← h.detailReads_eq, List.map_map, List.map_map] at hprefix
  exact h.queueIn.recordIds_nodup.sublist hprefix.sublist

/-- What has an entry is read, if the detail phase comes to its end. -/
theorem read_iff_queued (hall : ∀ e ∈ p.detailReads, e.saved = true) (r : String) :
    (∃ e ∈ p.detailReads, e.ref.recordId = r) ↔
      ∃ x, view needing mid (account.id, r) = some x ∧ x.queued.isSome = true := by
  constructor
  · rintro ⟨e, he, rfl⟩
    obtain ⟨id, x, d, hview, -, hqueued, -⟩ := h.queued_of_mem he
    exact ⟨x, hview, by rw [hqueued]; rfl⟩
  · rintro ⟨x, hview, hqueued⟩
    obtain ⟨details, hcommitted⟩ := h.exists_readOf hall hview hqueued
    cases hread : p.readOf r with
    | none =>
      rw [hread] at hcommitted
      cases hcommitted
    | some e =>
      have hr : (e.ref.recordId == r) = true :=
        List.find?_some (p := fun e : DetailRead ↦ e.ref.recordId == r) hread
      exact ⟨e, List.mem_of_find?_eq_some hread, beq_iff_eq.mp hr⟩

end Poll.Effective

/-! ## What a poll must read -/

/-- Why a poll has to read the details of a dossier. -/
inductive Poll.MustRead (p : Poll) (accountId : ℕ) (r : String) : Prop
  /-- It has created the dossier. -/
  | created (hbefore : p.before.dossier accountId r = none)
      (hafter : (p.after.dossier accountId r).isSome)
  /-- It has reactivated the dossier. -/
  | reactivated (hbefore : (p.before.dossier accountId r).map Dossier.active = some false)
      (hafter : (p.after.dossier accountId r).map Dossier.active = some true)
  /-- It has touched the dossier, and its status has changed or its quote date is missing. -/
  | touched {d : Dossier} {row : QueueRow} (hbefore : p.before.dossier accountId r = some d)
      (hactive : d.active = true) (hrow : p.rowOf r = some row)
      (hneeds : d.portalStatus ≠ row.portalStatus ∨ d.dates.dateEnvoiDevisGarage = none)
  /-- The dossier was active before, without complete details. -/
  | unfinished {d : Dossier} (hbefore : p.before.dossier accountId r = some d)
      (hactive : d.active = true) (hincomplete : d.detailComplete = false)

/-- **A poll reads the right details**, once each: those it must.  It counts the reads that have
failed, and what becomes of the dossiers is what their own reads say. -/
structure Poll.ReadsRight (p : Poll) (accountId : ℕ) : Prop where
  once : (p.detailReads.map fun e ↦ e.ref.recordId).Nodup
  exactly : ∀ r, (∃ e ∈ p.detailReads, e.ref.recordId = r) ↔ p.MustRead accountId r
  counted : ∀ result, p.outcome = .ok result →
    result.detailsFailed = p.detailReads.countP DetailRead.failed
  succeeded : ∀ e ∈ p.detailReads, ∀ details, e.answer = .ok details →
    (p.after.dossier accountId e.ref.recordId).map Dossier.details = some details
  failed : ∀ e ∈ p.detailReads, ∀ message, e.answer = .error (.detailReadError message) →
    (p.after.dossier accountId e.ref.recordId).map Dossier.details = some (failedDetails message)
  others : ∀ k d, p.before.dossiers.byRecord.find? k = some d →
    (k.1 = accountId → ∀ e ∈ p.detailReads, e.ref.recordId ≠ k.2) →
      (p.after.dossiers.byRecord.find? k).map Dossier.details = some d.details

section Reads

variable {H : Type} {F : PortalReaderFactory H} {p : Poll} {accountId : ℕ} {status : PollStatus}
  {snapshot : QueueSnapshot} {account : PortalAccount} {needing : Table Dossier.id}
  {obs : List PollEvent} {mid last : Database}

/-- What a poll saw of a record. -/
theorem Poll.rowOf_eq (hreport : p.report = some (status, snapshot)) (r : String) :
    p.rowOf r = (Table.ofList snapshot.rows : Table QueueRow.recordId).find? r := by
  rw [Poll.rowOf, hreport]
  rfl

/-- A dossier is found under its own account. -/
theorem Database.accountId_of_dossier {db : Database} {r : String} {d : Dossier}
    (h : db.dossier accountId r = some d) : d.portalAccountId = accountId :=
  congrArg Prod.fst (Table.key_of_find? (t := db.dossiers.byRecord) h)

variable (h : p.Effective status snapshot account needing obs mid last)
  (hreport : p.report = some (status, snapshot)) {r : String}

include h hreport

/-- A dossier that was not there before has to be read if it is created. -/
theorem Poll.Effective.mustRead_iff_of_none (hbefore : p.before.dossier account.id r = none) :
    p.MustRead account.id r ↔ (p.rowOf r).isSome = true := by
  rw [Poll.rowOf_eq hreport]
  constructor
  · intro hmust
    cases hmust with
    | created _ hafter =>
      by_contra hunseen
      have hactive := h.active_of_not_seen (Option.not_isSome_iff_eq_none.mp hunseen)
      rw [hbefore, Option.map_none, Option.map_eq_none_iff] at hactive
      rw [hactive] at hafter
      cases hafter
    | reactivated hinactive _ =>
      rw [hbefore] at hinactive
      cases hinactive
    | touched hsome _ _ _ => cases hbefore.symm.trans hsome
    | unfinished hsome _ _ => cases hbefore.symm.trans hsome
  · intro hseen
    obtain ⟨row, hrow⟩ := Option.isSome_iff_exists.mp hseen
    refine .created hbefore ?_
    rw [← Option.isSome_map (f := Dossier.active), h.active_of_seen hrow]
    rfl

/-- A dossier that was there before has to be read for one of the other reasons. -/
theorem Poll.Effective.mustRead_iff_of_some {d : Dossier}
    (hbefore : p.before.dossier account.id r = some d) :
    p.MustRead account.id r ↔ (d.active = false ∧ (p.rowOf r).isSome = true) ∨
      (d.active = true ∧ ∃ row, p.rowOf r = some row ∧
        (d.portalStatus ≠ row.portalStatus ∨ d.dates.dateEnvoiDevisGarage = none)) ∨
      (d.active = true ∧ d.detailComplete = false) := by
  constructor
  · intro hmust
    cases hmust with
    | created hnone _ => cases hbefore.symm.trans hnone
    | reactivated hinactive hafter =>
      rw [hbefore] at hinactive
      have hinactive : d.active = false := Option.some.inj hinactive
      refine .inl ⟨hinactive, ?_⟩
      by_contra hunseen
      rw [Poll.rowOf_eq hreport, Option.not_isSome_iff_eq_none] at hunseen
      rw [h.active_of_not_seen hunseen, hbefore] at hafter
      simp [hinactive] at hafter
    | touched hsome hactive hseen hneeds =>
      cases hbefore.symm.trans hsome
      exact .inr (.inl ⟨hactive, _, hseen, hneeds⟩)
    | unfinished hsome hactive hincomplete =>
      cases hbefore.symm.trans hsome
      exact .inr (.inr ⟨hactive, hincomplete⟩)
  · rintro (⟨hinactive, hseen⟩ | ⟨hactive, row, hseen, hneeds⟩ | ⟨hactive, hincomplete⟩)
    · obtain ⟨row, hseen⟩ := Option.isSome_iff_exists.mp hseen
      refine .reactivated (by rw [hbefore, Option.map_some, hinactive]) ?_
      exact h.active_of_seen ((Poll.rowOf_eq hreport r).symm.trans hseen)
    · exact .touched hbefore hactive hseen hneeds
    · exact .unfinished hbefore hactive hincomplete

omit h hreport in
/-- When the entry of a dossier is there after the dossier has been touched. -/
theorem isSome_queued_touch {x : Tracked} {row : QueueRow} {now : Datetime} :
    (x.touch row now).queued.isSome = true ↔ (x.dossier.portalStatus ≠ row.portalStatus ∨
      x.dossier.dates.dateEnvoiDevisGarage = none) ∨ x.queued.isSome = true := by
  have hdates : ((DossierRepository.touched row now).apply x.dossier).dates = x.dossier.dates := rfl
  rw [Tracked.touch]
  dsimp only
  rw [missingRequiredQuoteDate, hdates]
  split
  · rename_i hneeds
    refine iff_of_true rfl (.inl ?_)
    simpa using hneeds
  · rename_i hneeds
    rw [or_iff_right]
    simpa using hneeds

/-- **What has an entry is what must be read.** -/
theorem Poll.Effective.queued_iff : (∃ x, view needing mid (account.id, r) = some x ∧
    x.queued.isSome = true) ↔ p.MustRead account.id r := by
  obtain ⟨id, hrow⟩ := h.reconciled.row r
  have hrowOf := Poll.rowOf_eq hreport r
  rw [hrow, unreconciled, ← hrowOf]
  cases hd : p.before.dossiers.byRecord.find? (account.id, r) with
  | none =>
    rw [h.mustRead_iff_of_none hreport hd, Option.map_none, reconcileRow]
    cases p.rowOf r <;> simp
  | some d =>
    have hretry : (if needsRetry account.id d then some d else none).isSome = true ↔
        d.active = true ∧ d.detailComplete = false := by
      simp [needsRetry, Database.accountId_of_dossier hd]
    rw [h.mustRead_iff_of_some hreport hd, Option.map_some]
    cases p.rowOf r with
    | none =>
      rw [reconcileRow]
      by_cases hmiss : d.active = true ∧ status = .complete
      · simp [hmiss, Tracked.miss, hretry]
      · simp [hmiss, hretry]
    | some row =>
      rw [reconcileRow]
      cases hactive : d.active with
      | true => simp [hactive, isSome_queued_touch, hretry]
      | false => simp [Tracked.reactivate]

omit hreport in
/-- **The details of a dossier that is not read** are as they were. -/
theorem Poll.Effective.details_of_not_read {d : Dossier}
    (hbefore : p.before.dossier account.id r = some d)
    (hsafe : ¬∃ x, view needing mid (account.id, r) = some x ∧ x.queued.isSome = true)
    (hread : p.readOf r = none) :
    (p.after.dossier account.id r).map Dossier.details = some d.details := by
  obtain ⟨id, hrow⟩ := h.reconciled.row r
  have hbefore' : p.before.dossiers.byRecord.find? (account.id, r) = some d := hbefore
  rw [unreconciled, hbefore', Option.map_some] at hrow
  generalize (if needsRetry account.id d then some d else none) = queued at hrow
  have hafter : p.after.dossier account.id r =
      (view needing mid (account.id, r)).map Tracked.dossier := by
    rw [Database.dossier, h.byRecord, hread, view, Option.map_map]
    rfl
  rw [hafter, hrow]
  rw [hrow] at hsafe
  clear hrow hafter
  cases hseen : (Table.ofList snapshot.rows : Table QueueRow.recordId).find? r with
  | none =>
    rw [reconcileRow]
    split <;> rfl
  | some row =>
    rw [hseen, reconcileRow] at hsafe
    rw [reconcileRow]
    split
    · rfl
    · rename_i hactive
      rw [if_neg hactive] at hsafe
      exact absurd ⟨_, rfl, rfl⟩ hsafe

end Reads

/-! ## Counting failures -/

/-- A detail phase that saves everything comes to its end, and has counted the failures. -/
theorem DetailsEnd.counted {obs : List PollEvent} {n : ℕ} {o : Except Exn ℕ}
    (h : DetailsEnd obs n o) (hall : ∀ e ∈ detailReads obs, e.saved = true) :
    o = .ok (n + (detailReads obs).countP DetailRead.failed) := by
  induction h with
  | done n => rfl
  | @saved ref answer details obs n o hsaved hrest ih =>
    have hfailures : failures answer = if DetailRead.failed ⟨ref, answer, true⟩ then 1 else 0 := by
      cases answer with
      | ok d => rfl
      | error e => cases e <;> first | rfl | cases hsaved
    rw [ih fun e he ↦ hall e (List.mem_cons_of_mem _ he), detailReads, List.countP_cons, hfailures,
      Nat.add_assoc, Nat.add_comm (List.countP _ _)]
  | raised hraised => cases hall _ (List.mem_singleton_self _)
  | unsaved hsaved he => cases hall _ (List.mem_singleton_self _)

/-- The counters of a result. -/
def SyncResult.counters (result : SyncResult) : List ℕ :=
  [result.rowsSeen, result.pagesSeen, result.detailsFailed, result.created, result.reactivated,
    result.deactivated, result.notificationsCreated]

/-- The counters of a poll that has decided so. -/
def ReconciliationResult.counters (decided : ReconciliationResult) (snapshot : QueueSnapshot)
    (detailsFailed : ℕ) : List ℕ :=
  [snapshot.rowsSeen, snapshot.pagesSeen, detailsFailed, decided.toCreate.rows.length,
    decided.toReactivate.rows.length, decided.toDeactivate.rows.length, decided.notified]

/-- **What a poll reports** whose detail phase comes to its end. -/
theorem Poll.counters_eq {H : Type} {F : PortalReaderFactory H} {p : Poll} (hrun : p.IsRun F)
    {status : PollStatus} {snapshot : QueueSnapshot} (hreport : p.report = some (status, snapshot))
    (hall : ∀ e ∈ p.detailReads, e.saved = true) {account : PortalAccount}
    (haccount : PortalAccountRepository.getDefault p.before = some account) {result : SyncResult}
    (hresult : p.outcome = .ok result) :
    result.counters = (decision account.id account.baselineCompletedAt.isSome status snapshot
      p.before).counters snapshot (p.detailReads.countP DetailRead.failed) := by
  -- a poll that has joined another one, or read nothing, has no report
  have hidle (hobs : observed p.trace = [] ∨ ∃ answer, observed p.trace = [.queueRead answer]) :
      False := by
    rw [Poll.report_of_untouched hobs] at hreport
    cases hreport
  have hlead : p.Leads := by
    refine (Poll.leads_or_joins hrun).resolve_right ?_
    rintro ⟨result', htrace, -, -⟩
    exact hidle (.inl (by rw [htrace]; rfl))
  have hended := Poll.ended hrun hlead
  rw [hresult] at hended
  generalize hobserved : observed p.trace = obs at hended
  generalize p.after = after at hended
  generalize hok : (.ok result : Except Exn SyncResult) = o at hended
  cases hended with
  | skipped reason hobs => exact (hidle (.inl (hobserved.trans hobs))).elim
  | failed haccount hobs hrecorded hsame => exact (hidle (.inl (hobserved.trans hobs))).elim
  | @polled account' run reader closed now completedAt db db' _ report cleanupOk haccount' hopened
      heffect hreported hentered hclosed hconfirmed hrecorded hsame =>
    cases hok
    obtain rfl : account' = account := Option.some.inj (haccount'.symm.trans haccount)
    generalize hbody : (.ok report : Except Exn PollReport) = o at hreported
    cases hreported with
    | unread _ _ => exact (hidle (.inr ⟨_, hobserved⟩)).elim
    | unreconciled _ _ _ => exact (hidle (.inr ⟨_, hobserved⟩)).elim
    | reconciled hread hdecided hdetails hgrown =>
      rw [Poll.report_of_reconciled hobserved, hread] at hreport
      cases hreport
      rw [Poll.detailReads, hobserved] at hall ⊢
      rw [hdetails.counted hall, Nat.zero_add] at hbody
      cases hbody
      rw [decision_congr hopened.dataset.dossiers] at hdecided
      rw [← hdecided]
      cases cleanupOk <;> rfl
  | _ => cases hok

/-- What a poll reports of its detail phase, if that comes to its end. -/
theorem Poll.detailsFailed_eq {H : Type} {F : PortalReaderFactory H} {p : Poll} (hrun : p.IsRun F)
    (hfinishes : p.FinishesDetails) {result : SyncResult} (hresult : p.outcome = .ok result) :
    result.detailsFailed = p.detailReads.countP DetailRead.failed := by
  obtain ⟨hreport, hall⟩ := hfinishes
  obtain ⟨⟨status, snapshot⟩, hreport⟩ := Option.isSome_iff_exists.mp hreport
  obtain ⟨account, _, _, _, _, h⟩ := Poll.effective hrun hreport
  have hcounters := Poll.counters_eq hrun hreport hall h.getDefault hresult
  simp only [SyncResult.counters, ReconciliationResult.counters, List.cons.injEq] at hcounters
  exact hcounters.2.2.1

/-! ## Reading what must be read -/

section ReadsRight

variable {H : Type} {F : PortalReaderFactory H} {p : Poll} {accountId : ℕ}

/-- **Each poll reads exactly the right details**, if nothing it reads raises anything but
`DetailReadError` and what it reads is saved. -/
theorem readsRight (hrun : p.IsRun F) (hreport : p.report.isSome = true)
    (hacc : defaultId p.before = some accountId)
    (hraised : ∀ e ∈ p.detailReads, e.succeeded = true ∨ e.failed = true)
    (hsaved : ∀ e ∈ p.detailReads, e.succeeded = true ∨ e.failed = true → e.saved = true) :
    p.ReadsRight accountId := by
  have hall : ∀ e ∈ p.detailReads, e.saved = true := fun e he ↦ hsaved e he (hraised e he)
  obtain ⟨⟨status, snapshot⟩, hsome⟩ := Option.isSome_iff_exists.mp hreport
  obtain ⟨account, needing, obs, mid, last, h⟩ := Poll.effective hrun hsome
  obtain rfl := h.id_eq hacc
  -- what is saved of a read is what the dossier has afterwards
  have hdetails (e : DetailRead) (he : e ∈ p.detailReads) {details : DossierDetails}
      (hdetails : savedDetails e.answer = some details) :
      (p.after.dossier account.id e.ref.recordId).map Dossier.details = some details := by
    obtain ⟨id, x, d, hview, -⟩ := h.queued_of_mem he
    obtain ⟨m, hm, -⟩ := Option.map_eq_some_iff.mp hview
    have hcommitted : (p.readOf e.ref.recordId).bind DetailRead.committed = some details := by
      rw [h.readOf_of_mem he, Option.bind_some, DetailRead.committed, if_pos (hall e he), hdetails]
    rw [Database.dossier, h.byRecord, hm, Option.map_some, Option.map_some,
      applyRead_of_committed hcommitted]
    rfl
  refine ⟨h.reads_nodup, fun r ↦ ?_, fun result ↦ Poll.detailsFailed_eq hrun ⟨hreport, hall⟩,
    fun e he details hanswer ↦ hdetails e he (by rw [hanswer]; rfl),
    fun e he message hanswer ↦ hdetails e he (by rw [hanswer]; rfl), fun k d hd hnot ↦ ?_⟩
  · rw [h.read_iff_queued hall, h.queued_iff hsome]
  · by_cases hk : k.1 = account.id
    · obtain ⟨_, r⟩ := k
      obtain rfl : _ = account.id := hk
      have hnot : ∀ e ∈ p.detailReads, e.ref.recordId ≠ r := hnot rfl
      refine h.details_of_not_read hd ?_ ?_
      · rw [← h.read_iff_queued hall]
        rintro ⟨e, he, hr⟩
        exact hnot e he hr
      · exact List.find?_eq_none.mpr fun e he ↦ by simpa using hnot e he
    · rw [h.foreign hk, hd]
      rfl

end ReadsRight

/-- The surroundings' suggestions under a script, with a disk that is full when details are to be
saved. -/
def Script.suggestFull (s : Script) : (r : Request) → Except Exn r.Val
  | .uow (.commit .detailSave) =>
    .error (.exception "OperationalError" "database or disk is full")
  | r => s.suggest r

/-- A poll that reads the details of a new dossier and cannot save them. -/
def unsavedPoll : Poll :=
  .suggested (camoufoxPortalReaderFactory .standard) (.ofAccount (.unpolled 1))
    (Script.shows [.ofStatus "a" "open"] (.ok .quoted)).suggestFull

/-- What it has read is not what is stored. -/
theorem not_readsRight :
    ¬∀ (p : Poll) (accountId : ℕ), p.IsRun (camoufoxPortalReaderFactory .standard) →
      p.report.isSome = true → defaultId p.before = some accountId →
      (∀ e ∈ p.detailReads, e.succeeded = true ∨ e.failed = true) → p.ReadsRight accountId := by
  intro h
  have hright := h unsavedPoll 1 (Poll.isRun_suggested _ _ _) (by decide +kernel) rfl
    (by decide +kernel)
  have hread : unsavedPoll.detailReads.any (fun e ↦ decide (e.ref.recordId = "a") &&
      e.answer.toOption.any DossierDetails.detailComplete) = true := by decide +kernel
  have hstored : (unsavedPoll.after.dossier 1 "a").map Dossier.detailComplete = some false := by
    decide +kernel
  obtain ⟨e, he, hanswer⟩ := List.any_eq_true.mp hread
  rw [Bool.and_eq_true, decide_eq_true_eq] at hanswer
  obtain ⟨hid, hanswer⟩ := hanswer
  cases hdetails : e.answer with
  | error x =>
    rw [hdetails] at hanswer
    cases hanswer
  | ok details =>
    have hsucceeded := congrArg (Option.map DossierDetails.detailComplete)
      (hright.succeeded e he details hdetails)
    rw [hid, Option.map_map] at hsucceeded
    rw [hdetails] at hanswer
    have hcomplete : details.detailComplete = true := hanswer
    rw [Option.map_some, hcomplete] at hsucceeded
    cases hstored.symm.trans hsucceeded

/-- The portal shows some rows, and every detail page but the one of `b`. -/
def Script.suggestWithoutB (rows : List QueueRow) : (r : Request) → Except Exn r.Val
  | .reader (.readDossierDetails ref) =>
    if ref.recordId = "b" then .error (.detailReadError "no such page") else .ok .quoted
  | r => (Script.shows rows).suggest r

/-- Of three dossiers that have been polled, `a` changes its status, `b` is still to be read, and
for `d` there is nothing to do; `c` is new. -/
def secondLook : Poll :=
  let factory := camoufoxPortalReaderFactory .standard
  let first := Poll.suggested factory (.ofAccount (.unpolled 1))
    (Script.suggestWithoutB [.ofStatus "a" "open", .ofStatus "b" "open", .ofStatus "d" "open"])
  .suggested factory first.after (Script.suggestWithoutB
    [.ofStatus "a" "closed", .ofStatus "b" "open", .ofStatus "c" "open", .ofStatus "d" "open"])

/-- Two reads succeed and one fails, and all of them are saved. -/
theorem readsRight_secondLook :
    secondLook.detailReads.map (fun e ↦ (e.ref.recordId, e.failed)) =
        [("b", true), ("c", false), ("a", false)] ∧
      secondLook.ReadsRight 1 :=
  ⟨by decide +kernel, readsRight (Poll.isRun_suggested _ _ _) (by decide +kernel)
    (by decide +kernel) (by decide +kernel) (by decide +kernel)⟩

/-! ## Which link is used -/

/-- Nothing but its unfinished details asks for a read of the dossier, and the link that is stored
of it is no longer that of its row. -/
structure Poll.KeepsOldLink (p : Poll) (accountId : ℕ) (r : String) (d : Dossier) (row : QueueRow) :
    Prop where
  stored : p.before.dossier accountId r = some d
  seen : p.rowOf r = some row
  active : d.active = true
  incomplete : d.detailComplete = false
  sameStatus : d.portalStatus = row.portalStatus
  quoted : missingRequiredQuoteDate d = false
  otherLink : d.detailsHref ≠ row.detailsHref

/-- An entry has been filled from the row, or it is the copy that was made before. -/
theorem queued_reconcileRow {accountId : ℕ} {status : PollStatus} {baseline : Bool} {now : Datetime}
    {row : QueueRow} {id n : ℕ} {d d' : Dossier} {x : Tracked}
    (hx : reconcileRow accountId status baseline now (some row) id
      (some ⟨d, n, if needsRetry accountId d then some d else none⟩) = some x)
    (hqueued : x.queued = some d') :
    (d'.detailsHref = row.detailsHref ∧
      (d.active = false ∨ d.portalStatus ≠ row.portalStatus ∨ missingRequiredQuoteDate d = true)) ∨
    (d' = d ∧ d.active = true ∧ d.detailComplete = false ∧ d.portalStatus = row.portalStatus ∧
      missingRequiredQuoteDate d = false) := by
  rw [reconcileRow] at hx
  dsimp only at hx
  cases hactive : d.active with
  | false =>
    rw [if_neg (by simp [hactive])] at hx
    cases hx
    cases hqueued
    exact .inl ⟨rfl, .inl rfl⟩
  | true =>
    rw [if_pos hactive] at hx
    cases hx
    have hdates : missingRequiredQuoteDate ((DossierRepository.touched row now).apply d) =
      missingRequiredQuoteDate d := rfl
    rw [Tracked.touch] at hqueued
    dsimp only at hqueued
    rw [hdates] at hqueued
    by_cases hneeds : (d.portalStatus != row.portalStatus || missingRequiredQuoteDate d) = true
    · rw [if_pos hneeds] at hqueued
      cases hqueued
      exact .inl ⟨rfl, .inr (by simpa using hneeds)⟩
    · rw [if_neg hneeds] at hqueued
      by_cases hretry : needsRetry accountId d = true
      · rw [if_pos hretry] at hqueued
        cases hqueued
        simp only [needsRetry, Bool.and_eq_true, Bool.not_eq_true'] at hretry
        refine .inr ⟨rfl, rfl, hretry.2, ?_⟩
        simpa using hneeds
      · rw [if_neg hretry] at hqueued
        cases hqueued

/-- **The link of one read.** -/
theorem Poll.link_iff {H : Type} {F : PortalReaderFactory H} {p : Poll} (hrun : p.IsRun F)
    {accountId : ℕ} (hacc : defaultId p.before = some accountId) {e : DetailRead}
    (he : e ∈ p.detailReads) {row : QueueRow} (hrow : p.rowOf e.ref.recordId = some row) :
    e.ref.detailsHref = row.detailsHref ↔ ∀ d, ¬p.KeepsOldLink accountId e.ref.recordId d row := by
  obtain ⟨⟨status, snapshot⟩, hreport⟩ : ∃ x, p.report = some x := by
    refine Option.isSome_iff_exists.mp ?_
    by_contra hnone
    rw [Poll.rowOf, Option.not_isSome_iff_eq_none.mp hnone] at hrow
    cases hrow
  obtain ⟨account, needing, obs, mid, last, h⟩ := Poll.effective hrun hreport
  obtain rfl := h.id_eq hacc
  obtain ⟨id, x, d', -, hx, hqueued, href⟩ := h.queued_of_mem he
  rw [← Poll.rowOf_eq hreport, hrow, unreconciled] at hx
  have hlink : e.ref.detailsHref = d'.detailsHref := by rw [href]; rfl
  rw [hlink]
  cases hd : p.before.dossiers.byRecord.find? (account.id, e.ref.recordId) with
  | none =>
    -- the dossier is new
    rw [hd] at hx
    cases hx
    cases hqueued
    exact iff_of_true rfl fun d hold ↦ by cases hd.symm.trans hold.stored
  | some d =>
    have hstored {d₁ : Dossier} (hold : p.KeepsOldLink account.id e.ref.recordId d₁ row) :
        d₁ = d := Option.some.inj (hold.stored.symm.trans hd)
    rw [hd, Option.map_some] at hx
    rcases queued_reconcileRow hx hqueued with
      ⟨hcurrent, hother⟩ | ⟨rfl, hactive, hincomplete, hstatus, hquoted⟩
    · refine iff_of_true hcurrent fun d₁ hold ↦ ?_
      obtain rfl := hstored hold
      simp [hold.active, hold.sameStatus, hold.quoted] at hother
    · constructor
      · intro hsame d₁ hold
        obtain rfl := hstored hold
        exact hold.otherLink hsame
      · intro hnot
        by_contra hother
        exact hnot d' ⟨hd, hrow, hactive, hincomplete, hstatus, hquoted, hother⟩

/-- **When detail reads use the current link**: in every run of polls, a dossier that a poll has
seen is read with the link of its row, but for the dossiers of which the poll keeps an old link. -/
theorem currentLink_iff {H : Type} {F : PortalReaderFactory H} {db db' : Database} {qs : List Poll}
    (h : Polls F db qs db') {accountId : ℕ} (hacc : defaultId db = some accountId) :
    ∀ p ∈ qs, ∀ e ∈ p.detailReads, ∀ row, p.rowOf e.ref.recordId = some row →
      (e.ref.detailsHref = row.detailsHref ↔
        ∀ d, ¬p.KeepsOldLink accountId e.ref.recordId d row) := by
  intro p hp e he row hrow
  obtain ⟨hrun, hid⟩ := h.of_mem hp
  exact Poll.link_iff hrun (hid.trans hacc) he hrow

/-- A row of the queue with a link. -/
def QueueRow.ofLink (recordId link : String) : QueueRow :=
  { QueueRow.ofStatus recordId "open" with detailsHref := link }

/-- The details of a dossier are read; it is missed twice and comes back, but the session expires
before its details are read again; when the session is back its link has changed. -/
def movedAway : List Script :=
  [.shows [.ofLink "a" "#old"] (.ok .quoted), .shows [], .shows [],
    .shows [.ofLink "a" "#old"] (.error (.portalAuthRequiredError "")),
    .shows [.ofLink "a" "#new"] (.ok .quoted)]

/-- The last of these polls uses the old link. -/
theorem not_currentLink :
    ¬∀ (db db' : Database) (qs : List Poll),
      Polls (camoufoxPortalReaderFactory .standard) db qs db' → ∀ p ∈ qs, ∀ e ∈ p.detailReads,
        ∀ row, p.rowOf e.ref.recordId = some row → e.ref.detailsHref = row.detailsHref := by
  intro h
  have hpolls := polls_scripted (camoufoxPortalReaderFactory .standard) (.ofAccount (.unpolled 1))
    movedAway
  have hold : (scriptedPolls (camoufoxPortalReaderFactory .standard) (.ofAccount (.unpolled 1))
      movedAway).any (fun p ↦ p.detailReads.any fun e ↦ (p.rowOf e.ref.recordId).any fun row ↦
        decide (e.ref.detailsHref ≠ row.detailsHref)) = true := by decide +kernel
  obtain ⟨p, hp, hold⟩ := List.any_eq_true.mp hold
  obtain ⟨e, he, hold⟩ := List.any_eq_true.mp hold
  obtain ⟨row, hrow, hold⟩ := (Option.any_eq_true _ _).mp hold
  exact of_decide_eq_true hold (h _ _ _ hpolls p hp e he row hrow)

/-- A dossier is seen twice, with different links, and read each time because it has no quote
date. -/
def movedBetween : List Script :=
  [.shows [.ofLink "a" "#old"], .shows [.ofLink "a" "#new"]]

/-- Both polls read the details, and each with the link of its own row. -/
theorem currentLink_iff_movedBetween :
    (scriptedPolls (camoufoxPortalReaderFactory .standard) (.ofAccount (.unpolled 1))
      movedBetween).all (fun p ↦ p.detailReads.any fun e ↦ (p.rowOf e.ref.recordId).isSome) = true ∧
    ∀ p ∈ scriptedPolls (camoufoxPortalReaderFactory .standard) (.ofAccount (.unpolled 1))
      movedBetween, ∀ e ∈ p.detailReads, ∀ row, p.rowOf e.ref.recordId = some row →
        e.ref.detailsHref = row.detailsHref := by
  refine ⟨by decide +kernel, fun p hp e he row hrow ↦ ?_⟩
  refine (currentLink_iff (polls_scripted (camoufoxPortalReaderFactory .standard)
    (.ofAccount (.unpolled 1)) movedBetween) rfl p hp e he row hrow).mpr fun d hold ↦ ?_
  have hmissing : ∀ p ∈ scriptedPolls (camoufoxPortalReaderFactory .standard)
      (.ofAccount (.unpolled 1)) movedBetween,
      ∀ d ∈ p.before.dossiers.rows, missingRequiredQuoteDate d = true := by decide +kernel
  have hquoted := hold.quoted
  rw [hmissing p hp d (Database.mem_of_dossier hold.stored).1] at hquoted
  cases hquoted

end RmaPortal
