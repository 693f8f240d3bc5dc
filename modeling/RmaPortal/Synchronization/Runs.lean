import RmaPortal.Infrastructure.Portal.CamoufoxReader
import RmaPortal.Synchronization.DetailReads

/-!
# Polls, one after the other

A `Poll` is what there is to know about one finished call of `execute`: the database before and
after it, what it asked and was answered, and how it ended.  `Polls` is any number of them in a
row.  Between two polls other parts of the portal may write to the database, but none of them
writes the dossiers, the notifications or the baselines (`Between`).

Which records a poll saw, and whether its reconciliation took effect, is read off its trace
(`Poll.report`).

## What is here

* `Poll`, `Poll.IsRun` — a finished call, and that it is a run of `execute`, whoever answers.
  What a poll is said to have done is always a statement about its databases and its trace.
* `Poll.report`, `Poll.saw`, `Poll.completes`, `Poll.detailReads`, `Poll.rowOf`, `Poll.startedAt`
  — what a poll reconciled with, which details it read, which row it saw of a record, and when it
  began.
* `Script` and `Poll.scripted` — what the portal shows a poll, for concrete polls; a scripted poll
  is one that can happen.
* `Between`, `Polls`, `scriptedPolls` — polls in a row, from one database to another.  The list of
  polls is built at its end, so that an induction goes forward in time.
* `defaultId` — the account that polls are about; no poll changes which one that is.
* `Poll.Effective` — what a poll that has reconciled does: the transaction takes its step from the
  database before the poll, and the detail phase makes the rest of it.  The fields are what later
  modules use.
* `Poll.Effective.dossier_after`, `Poll.Effective.row`, `Poll.Effective.foreign` — one record
  identifier over a poll: what `reconcileRow` has made of what there was, and then the detail
  phase of that.  Dossiers of other accounts are left alone.
* `Polls.of_mem`, `Polls.take` — every poll of a run is one, and the first part of a run is a run.

Polls that run among employees are in `Synchronization.Interleaving`, and come down to these.
-/

set_option autoImplicit false

open Coroutine

namespace RmaPortal

open SyncAgreementQueue

/-- A finished call of `execute`. -/
structure Poll where
  before : Database
  after : Database
  trace : List Happening
  outcome : Except Exn SyncResult

namespace Poll

variable {H : Type} (F : PortalReaderFactory H) (p : Poll)

/-- The poll is a run of `execute`. -/
def IsRun : Prop :=
  ∃ w w', w.db = .idle p.before ∧ Exec world (execute F) w p.trace p.outcome w' ∧
    w'.db = .idle p.after

/-- What the poll reconciled with: its status when it had read the queue, and the rows it saw. -/
def report : Option (PollStatus × QueueSnapshot) :=
  match observed p.trace with
  | .queueRead answer :: .reconciled :: _ => queueReport answer
  | _ => none

/-- The record identifiers the poll saw and reconciled. -/
def seen : List String := p.report.elim [] fun x ↦ x.2.rows.map QueueRow.recordId

/-- The poll saw a record, and reconciled. -/
def saw (r : String) : Bool := decide (r ∈ p.seen)

/-- The poll reconciled as a COMPLETE one. -/
def completes : Bool := p.report.any fun x ↦ x.1 == .complete

/-- The detail reads of the poll. -/
def detailReads : List DetailRead := RmaPortal.detailReads (observed p.trace)

/-- The read of the details of a record. -/
def readOf (r : String) : Option DetailRead := p.detailReads.find? fun e ↦ e.ref.recordId == r

/-- The row the poll saw of a record, if it reconciled. -/
def rowOf (r : String) : Option QueueRow :=
  p.report.bind fun x ↦ (Table.ofList x.2.rows : Table QueueRow.recordId).find? r

/-- When the poll began. -/
def startedAt : Datetime := RmaPortal.startedAt p.trace

variable {F p}

theorem effect (h : p.IsRun F) :
    PollEffect p.startedAt (observed p.trace) p.before p.after ∧
      ∀ result, p.outcome = .ok result → result.skipped = true → p.after = p.before := by
  obtain ⟨w, w', hw, hexec, hw'⟩ := h
  obtain ⟨after, hafter, heffect, hskip⟩ := (sat_execute hw).exec hexec
  rw [hw'] at hafter
  cases hafter
  exact ⟨heffect, hskip⟩

end Poll

/-! ## Scripted polls -/

/-- What the portal shows a poll.  Nothing else goes wrong. -/
structure Script where
  queue : Except Exn QueueSnapshot
  details : Except Exn DossierDetails := .error (.detailReadError "")

/-- The surroundings' suggestions under a script. -/
def Script.suggest (s : Script) : (r : Request) → Except Exn r.Val
  | .reader .readAgreementQueue => s.queue
  | .reader (.readDossierDetails _) => s.details
  | r => routine r

/-- The poll that suggestions lead to, in a process that has just started. -/
def Poll.suggested {H : Type} (F : PortalReaderFactory H) (db : Database)
    (suggest : (r : Request) → Except Exn r.Val) : Poll :=
  let r := run serve (fun _ ↦ suggest) (execute F) 0 ⟨.idle db, .start⟩
  ⟨db, r.2.2.db.committed, r.1, r.2.1⟩

/-- It is one that can happen. -/
theorem Poll.isRun_suggested {H : Type} (F : PortalReaderFactory H) (db : Database)
    (suggest : (r : Request) → Except Exn r.Val) : (Poll.suggested F db suggest).IsRun F := by
  have hexec := exec_run serve (fun _ ↦ suggest) (execute F) 0 ⟨.idle db, .start⟩
  obtain ⟨after, hafter, -, -⟩ := (sat_execute (show DbState.idle db = _ from rfl)).exec hexec
  refine ⟨_, _, rfl, hexec, ?_⟩
  rw [Poll.suggested]
  dsimp only
  rw [hafter]
  rfl

/-- The poll that a script leads to, in a process that has just started. -/
def Poll.scripted {H : Type} (F : PortalReaderFactory H) (db : Database) (s : Script) : Poll :=
  let r := run serve (fun _ ↦ s.suggest) (execute F) 0 ⟨.idle db, .start⟩
  ⟨db, r.2.2.db.committed, r.1, r.2.1⟩

/-- A scripted poll is one that can happen. -/
theorem Poll.isRun_scripted {H : Type} (F : PortalReaderFactory H) (db : Database) (s : Script) :
    (Poll.scripted F db s).IsRun F := Poll.isRun_suggested F db s.suggest

/-- The portal shows some rows, and every detail page shows the same. -/
def Script.shows (rows : List QueueRow)
    (details : Except Exn DossierDetails := .error (.detailReadError "")) : Script :=
  { queue := .ok ⟨rows, 1⟩, details := details }

/-- The portal shows some rows before reading them fails. -/
def Script.showsSome (rows : List QueueRow) : Script :=
  { queue := .error (.portalPartialReadError "" ⟨rows, 1⟩) }

/-- A row of the queue in which only the identifier and the status are filled in. -/
def QueueRow.ofStatus (recordId portalStatus : String) : QueueRow :=
  { recordId := recordId, portalStatus := portalStatus
    dossierNumber := "", insuredName := "", procedure := "", registration := "", garage := ""
    estimateAmountRaw := "", city := "", observationCount := "", agreementLogin := ""
    detailsHref := "" }

/-- Details with a quote date. -/
def DossierDetails.quoted : DossierDetails :=
  { dates := { dateEnvoiDevisGarage := some default }, detailComplete := true }

/-- What may happen to the database between two polls. -/
structure Between (db db' : Database) : Prop where
  dossiers : db'.dossiers = db.dossiers
  notifications : db'.notifications = db.notifications
  baselines : db'.baselines = db.baselines

theorem Between.refl (db : Database) : Between db db := ⟨rfl, rfl, rfl⟩

/-- `Polls F db ps db'`: the polls `ps`, one after the other, lead from `db` to `db'`. -/
inductive Polls {H : Type} (F : PortalReaderFactory H) :
    Database → List Poll → Database → Prop
  /-- No poll. -/
  | nil (db : Database) : Polls F db [] db
  /-- One poll more. -/
  | concat {db mid : Database} {ps : List Poll} {p : Poll} (h : Polls F db ps mid)
      (hbetween : Between mid p.before) (hrun : p.IsRun F) : Polls F db (ps ++ [p]) p.after

/-- Polls under a list of scripts, one right after the other. -/
def scriptedPolls {H : Type} (F : PortalReaderFactory H) (db : Database) : List Script → List Poll
  | [] => []
  | s :: scripts =>
    let p := Poll.scripted F db s
    p :: scriptedPolls F p.after scripts

/-- The database after polls in a row. -/
def lastDatabase (db : Database) (ps : List Poll) : Database := ps.foldl (fun _ p ↦ p.after) db

theorem polls_append_scripted {H : Type} {F : PortalReaderFactory H} (scripts : List Script) :
    ∀ {db₀ db : Database} {ps : List Poll}, Polls F db₀ ps db →
      Polls F db₀ (ps ++ scriptedPolls F db scripts)
        (lastDatabase db (scriptedPolls F db scripts)) := by
  induction scripts with
  | nil =>
    intro db₀ db ps h
    rw [scriptedPolls, List.append_nil]
    exact h
  | cons s scripts ih =>
    intro db₀ db ps h
    have h' := ih (h.concat (.refl _) (Poll.isRun_scripted F db s))
    rw [List.append_assoc] at h'
    exact h'

/-- Scripted polls are polls that can happen one after the other. -/
theorem polls_scripted {H : Type} (F : PortalReaderFactory H) (db : Database)
    (scripts : List Script) :
    Polls F db (scriptedPolls F db scripts) (lastDatabase db (scriptedPolls F db scripts)) :=
  polls_append_scripted scripts (.nil db)

/-! ## The default account -/

/-- Identifier and baseline of the default account can be read off the list of baselines. -/
theorem getDefault_baseline (db : Database) :
    (PortalAccountRepository.getDefault db).map (fun a ↦ (a.id, a.baselineCompletedAt)) =
      Table.firstBy Prod.fst db.baselines :=
  (@Table.firstBy_map _ _ Prod.fst PortalAccount.id
    (fun a : PortalAccount ↦ (a.id, a.baselineCompletedAt)) (fun _ ↦ rfl)
    db.portalAccounts.rows).symm

/-- The account that polls are about. -/
def defaultId (db : Database) : Option ℕ :=
  (PortalAccountRepository.getDefault db).map PortalAccount.id

theorem defaultId_eq (db : Database) :
    defaultId db = Table.firstBy id (db.baselines.map Prod.fst) := by
  have hfst : Table.firstBy id (db.baselines.map Prod.fst) =
      (Table.firstBy Prod.fst db.baselines).map Prod.fst :=
    @Table.firstBy_map _ _ id Prod.fst Prod.fst (fun _ ↦ rfl) db.baselines
  rw [hfst, ← getDefault_baseline, Option.map_map]
  rfl

theorem defaultId_of_baselines {db db' : Database}
    (h : db'.baselines.map Prod.fst = db.baselines.map Prod.fst) :
    defaultId db' = defaultId db := by
  rw [defaultId_eq, defaultId_eq, h]

theorem Between.defaultId_eq {db db' : Database} (h : Between db db') :
    defaultId db' = defaultId db :=
  defaultId_of_baselines (by rw [h.baselines])

/-! ## What a poll does -/

section Effects

variable {H : Type} {F : PortalReaderFactory H} {p : Poll}

theorem Poll.report_of_reconciled {answer : Except Exn QueueSnapshot} {obs : List PollEvent}
    (h : observed p.trace = .queueRead answer :: .reconciled :: obs) :
    p.report = queueReport answer := by
  rw [Poll.report, h]

theorem Poll.report_of_untouched
    (h : observed p.trace = [] ∨ ∃ answer, observed p.trace = [.queueRead answer]) :
    p.report = none := by
  rw [Poll.report]
  rcases h with h | ⟨answer, h⟩ <;> rw [h]

theorem Poll.saw_iff {status : PollStatus} {snapshot : QueueSnapshot}
    (h : p.report = some (status, snapshot)) (r : String) :
    p.saw r = ((Table.ofList snapshot.rows : Table QueueRow.recordId).find? r).isSome := by
  rw [Bool.eq_iff_iff, Table.find?_ofList_isSome, Poll.saw, decide_eq_true_eq, Poll.seen, h]
  rfl

/-- A poll that has not reconciled leaves the dataset alone. -/
theorem Poll.sameDataset (h : p.IsRun F) (hreport : p.report = none) :
    SameDataset p.before p.after := by
  cases (Poll.effect h).1 with
  | untouched hobs hsame => exact hsame
  | reconciled haccount hrep hobs hstarted hrec hen hfinished =>
    rw [Poll.report_of_reconciled hobs, hrep] at hreport
    cases hreport

/-- The transaction reads nothing but the dataset. -/
theorem Reconciled.congr {accountId : ℕ} {status : PollStatus} {baseline : Bool}
    {rowsById : Table QueueRow.recordId} {now : Datetime} {needing : Table Dossier.id}
    {db₀ db db' : Database} (hsame : SameDataset db₀ db)
    (h : Reconciled accountId status baseline rowsById now needing db db') :
    Reconciled accountId status baseline rowsById now needing db₀ db' := by
  have hun : unreconciled accountId db = unreconciled accountId db₀ := by
    funext k
    simp only [unreconciled, hsame.dossiers, Database.notificationCount, hsame.notifications]
  refine ⟨fun r ↦ hun ▸ h.row r, fun k hk ↦ hun ▸ h.foreign k hk, h.queued, ?_⟩
  rw [h.baselines, hsame.baselines]

/-- **What a poll that has reconciled does**: the reconciliation takes its step from the database
before the poll, and after it only the details of dossiers change. -/
structure Poll.Effective (p : Poll) (status : PollStatus) (snapshot : QueueSnapshot)
    (account : PortalAccount) (needing : Table Dossier.id) (obs : List PollEvent)
    (mid last : Database) : Prop where
  getDefault : PortalAccountRepository.getDefault p.before = some account
  usable : status = .complete ∨ status = .partialRead
  observed : ∃ answer, RmaPortal.observed p.trace = .queueRead answer :: .reconciled :: obs
  reconciled : Reconciled account.id status account.baselineCompletedAt.isSome
    (Table.ofList snapshot.rows) p.startedAt needing p.before mid
  enriched : Enriched needing.rows obs mid last
  recorded : SameDataset last p.after

theorem Poll.effective (h : p.IsRun F) {status : PollStatus} {snapshot : QueueSnapshot}
    (hreport : p.report = some (status, snapshot)) :
    ∃ account needing obs mid last, p.Effective status snapshot account needing obs mid last := by
  cases (Poll.effect h).1 with
  | untouched hobs hsame =>
    rw [Poll.report_of_untouched hobs] at hreport
    cases hreport
  | reconciled haccount hrep hobs hstarted hrec hen hfinished =>
    rw [Poll.report_of_reconciled hobs, hrep] at hreport
    cases hreport
    exact ⟨_, _, _, _, _, haccount, queueReport_usable hrep, ⟨_, hobs⟩, hrec.congr hstarted, hen,
      hfinished⟩

namespace Poll.Effective

variable {status : PollStatus} {snapshot : QueueSnapshot} {account : PortalAccount}
  {needing : Table Dossier.id} {obs : List PollEvent} {mid last : Database}
  (h : p.Effective status snapshot account needing obs mid last)

include h

theorem id_eq {accountId : ℕ} (hacc : defaultId p.before = some accountId) :
    account.id = accountId := by
  rw [defaultId, h.getDefault] at hacc
  exact Option.some.inj hacc

theorem detailReads_eq : p.detailReads = RmaPortal.detailReads obs := by
  obtain ⟨answer, hobs⟩ := h.observed
  rw [Poll.detailReads, hobs]
  rfl

theorem queueIn : Enriched.QueueIn account.id needing.rows mid :=
  ⟨needing.nodup, h.reconciled.queued⟩

/-- A dossier after the poll: what the detail phase has made of what the reconciliation has. -/
theorem byRecord (r : String) :
    p.after.dossiers.byRecord.find? (account.id, r) =
      (mid.dossiers.byRecord.find? (account.id, r)).map (applyRead (p.readOf r)) := by
  rw [h.recorded.dossiers, h.enriched.byRecord h.queueIn, Poll.readOf, h.detailReads_eq]

/-- A read is the only one of its record. -/
theorem readOf_of_mem {e : DetailRead} (he : e ∈ p.detailReads) :
    p.readOf e.ref.recordId = some e := by
  rw [h.detailReads_eq] at he
  rw [Poll.readOf, h.detailReads_eq]
  exact h.enriched.find?_of_mem h.queueIn he

/-- **A dossier after the poll**: what the reconciliation has made of what there was, and then the
detail phase of that. -/
theorem dossier_after {r : String} {d : Dossier} (hd : p.after.dossier account.id r = some d) :
    ∃ id x, view needing mid (account.id, r) = some x ∧
      reconcileRow account.id status account.baselineCompletedAt.isSome p.startedAt
        ((Table.ofList snapshot.rows : Table QueueRow.recordId).find? r) id
        (unreconciled account.id p.before (account.id, r)) = some x ∧
      d = applyRead (p.readOf r) x.dossier := by
  obtain ⟨id, hid⟩ := h.reconciled.row r
  obtain ⟨m, hm, rfl⟩ := Option.map_eq_some_iff.mp ((h.byRecord r).symm.trans hd)
  exact ⟨id, _, view_of_find? hm, hid.symm.trans (view_of_find? hm), rfl⟩

/-- If every read of the poll has been committed, there is one for every dossier of the queue. -/
theorem exists_readOf (hall : ∀ e ∈ p.detailReads, e.saved = true) {r : String} {x : Tracked}
    (hx : view needing mid (account.id, r) = some x) (hqueued : x.queued.isSome) :
    ∃ details, (p.readOf r).bind DetailRead.committed = some details := by
  obtain ⟨m, hm, rfl⟩ := Option.map_eq_some_iff.mp hx
  obtain ⟨d, hd⟩ := Option.isSome_iff_exists.mp hqueued
  have hmem : d ∈ needing.rows := Table.mem_of_find? hd
  rw [h.detailReads_eq] at hall
  obtain ⟨e, he, href, hcommitted⟩ := h.enriched.exists_read hall hmem
  obtain ⟨m', hm', hid'⟩ := h.queueIn.find? hmem
  have hsame : m' = m := DossierTable.eq_of_id_eq hm' hm (hid'.trans (Table.key_of_find? hd))
  have hr : d.recordId = r := by
    rw [hsame] at hm'
    exact (Prod.mk.inj ((Table.key_of_find? hm').symm.trans (Table.key_of_find? hm))).2
  have hread := h.readOf_of_mem (h.detailReads_eq ▸ he)
  rw [href, show (asPortalRef d).recordId = d.recordId from rfl, hr] at hread
  rw [hread]
  exact Option.isSome_iff_exists.mp hcommitted

theorem notificationCount (i : ℕ) : p.after.notificationCount i = mid.notificationCount i := by
  rw [Database.notificationCount, h.recorded.notifications, h.enriched.frame.1,
    Database.notificationCount]

theorem baselines : p.after.baselines = mid.baselines := by
  rw [h.recorded.baselines, Database.baselines, h.enriched.frame.2, Database.baselines]

/-- **One record identifier over a poll**: the dossier and the number of its notifications are those
that `reconcileRow` computes, but for the details. -/
theorem row (r : String) :
    ∃ id, (p.after.dossier account.id r).map (fun d ↦ (d, p.after.notificationCount d.id)) =
      (reconcileRow account.id status account.baselineCompletedAt.isSome p.startedAt
        ((Table.ofList snapshot.rows : Table QueueRow.recordId).find? r) id
        (unreconciled account.id p.before (account.id, r))).map fun x ↦
          (applyRead (p.readOf r) x.dossier, x.notifications) := by
  obtain ⟨id, hid⟩ := h.reconciled.row r
  refine ⟨id, ?_⟩
  rw [← hid, view, Database.dossier, h.byRecord, Option.map_map, Option.map_map]
  refine Option.map_congr fun d _ ↦ ?_
  simp only [Function.comp_apply, h.notificationCount, applyRead_id]

/-- Dossiers of other accounts are left alone. -/
theorem foreign {k : ℕ × String} (hk : k.1 ≠ account.id) :
    p.after.dossiers.byRecord.find? k = p.before.dossiers.byRecord.find? k := by
  have hmid := congrArg (Option.map Tracked.dossier) (h.reconciled.foreign k hk)
  rw [view, unreconciled, Option.map_map, Option.map_map] at hmid
  rw [h.recorded.dossiers, h.enriched.byRecord_foreign h.queueIn hk]
  exact (Option.map_id_apply.symm.trans hmid).trans Option.map_id_apply

end Poll.Effective

/-- No poll changes which account the polls are about. -/
theorem Poll.defaultId_after (h : p.IsRun F) : defaultId p.after = defaultId p.before := by
  cases hreport : p.report with
  | none => exact defaultId_of_baselines (by rw [(Poll.sameDataset h hreport).baselines])
  | some x =>
    obtain ⟨account, needing, obs, mid, last, he⟩ := Poll.effective h hreport
    refine defaultId_of_baselines ?_
    rw [he.baselines, he.reconciled.baselines]
    split
    · rw [List.map_map]
      refine List.map_congr_left fun a _ ↦ ?_
      simp only [Function.comp_apply, completeBaseline]
      split <;> rfl
    · rfl

theorem Polls.defaultId_eq {db db' : Database} {ps : List Poll} (h : Polls F db ps db') :
    defaultId db' = defaultId db := by
  induction h with
  | nil => rfl
  | concat h hbetween hrun ih =>
    rw [Poll.defaultId_after hrun, hbetween.defaultId_eq, ih]

/-- Every poll of a run is one, and is about the same account. -/
theorem Polls.of_mem {db db' : Database} {ps : List Poll} (h : Polls F db ps db') {q : Poll}
    (hq : q ∈ ps) : q.IsRun F ∧ defaultId q.before = defaultId db := by
  induction h with
  | nil => cases hq
  | @concat mid ps p h hbetween hrun ih =>
    rcases List.mem_append.mp hq with hq | hq
    · exact ih hq
    · rw [List.mem_singleton.mp hq]
      exact ⟨hrun, hbetween.defaultId_eq.trans h.defaultId_eq⟩

/-- A run up to one of its polls is a run. -/
theorem Polls.take {db db' : Database} {qs : List Poll} (h : Polls F db qs db') :
    ∀ {ps : List Poll} {q : Poll} {rest : List Poll}, qs = ps ++ q :: rest →
      ∃ mid, Polls F db ps mid ∧ Between mid q.before ∧ q.IsRun F := by
  induction h with
  | nil =>
    intro ps q rest heq
    simp at heq
  | @concat mid ps p h hbetween hrun ih =>
    intro ps' q rest heq
    rcases List.eq_nil_or_concat' rest with rfl | ⟨rest, last, rfl⟩
    · obtain ⟨rfl, hlast⟩ := List.append_inj' heq rfl
      cases List.singleton_inj.mp hlast
      exact ⟨mid, h, hbetween, hrun⟩
    · rw [← List.cons_append, ← List.append_assoc] at heq
      obtain ⟨rfl, -⟩ := List.append_inj' heq rfl
      exact ih rfl

end Effects

end RmaPortal
