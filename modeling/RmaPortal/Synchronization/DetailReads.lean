import RmaPortal.Synchronization.PollEffect

/-!
# The detail phase, one dossier at a time

What a poll reads in its detail phase is a list of reads, each with its answer and with whether
what it found was committed.  They go through a queue of different dossiers, so that there is at
most one for each record identifier, and what the phase does to a dossier depends on that one
alone.

## What is here

* `DetailRead` and `detailReads` — the reads among the events of a poll.  What a read has found is
  saved in a transaction of its own; it has been committed if the commit is the next event.
* `succeeded`, `failed`, `committed` — the three things that matter of a read.  A read that has
  failed is committed too, as a failure: `committed_of_not_succeeded`.
* `applyRead` — what becomes of a dossier.  The lemmas beside it say that its identity, its
  status, and what the reconciliation has counted are left alone.
* `Enriched.refs_prefix`, `Enriched.mem_queue` — the reads go through the queue from its
  beginning, and only dossiers of the queue are read.
* `Enriched.exists_read` — a phase in which every read is committed goes through the whole queue.
* `QueueIn` — what the queue has to be for its reads to be told apart: different dossiers of one
  account that are in the database.
* `Enriched.byRecord` and `Enriched.byRecord_foreign` — a dossier after the phase is what its
  read, if there was one, has made of it; dossiers of other accounts are left alone.

`Enriched` itself, which says what the programs of the phase do to the database, is in
`Synchronization.PollEffect`.
-/

set_option autoImplicit false

namespace RmaPortal

open SyncAgreementQueue

/-- The read of one dossier's details. -/
structure DetailRead where
  ref : PortalDossierRef
  answer : Except Exn DossierDetails
  /-- Whether what was found has been committed. -/
  saved : Bool

namespace DetailRead

/-- The details were read. -/
def succeeded (e : DetailRead) : Bool := e.answer.isOk

/-- Reading the details raised `DetailReadError`. -/
def failed (e : DetailRead) : Bool :=
  match e.answer with
  | .error (.detailReadError _) => true
  | _ => false

/-- What has been committed because of a read. -/
def committed (e : DetailRead) : Option DossierDetails :=
  if e.saved then savedDetails e.answer else none

theorem failed_iff {e : DetailRead} :
    e.failed = true ↔ ∃ message, e.answer = .error (.detailReadError message) := by
  rw [failed]
  split
  · rename_i message h
    exact ⟨fun _ ↦ ⟨message, h⟩, fun _ ↦ rfl⟩
  · rename_i hne
    exact ⟨fun h ↦ absurd h (by simp), fun ⟨message, h⟩ ↦ absurd h (hne message)⟩

/-- What is committed without the read having succeeded is that it has failed. -/
theorem committed_of_not_succeeded {e : DetailRead} {details : DossierDetails}
    (h : e.committed = some details) (hfail : e.succeeded = false) :
    e.failed = true ∧ details.dates = {} ∧ details.detailComplete = false := by
  obtain ⟨ref, answer, saved⟩ := e
  rw [committed] at h
  split at h
  · cases answer with
    | ok d => cases hfail
    | error e =>
      cases e with
      | detailReadError message =>
        cases h
        exact ⟨rfl, rfl, rfl⟩
      | _ => cases h
  · cases h

end DetailRead

/-- The reads among the events of a poll.  A read has been committed if that is the next event. -/
def detailReads : List PollEvent → List DetailRead
  | [] => []
  | .detailRead ref answer :: .detailSaved :: obs => ⟨ref, answer, true⟩ :: detailReads obs
  | .detailRead ref answer :: obs => ⟨ref, answer, false⟩ :: detailReads obs
  | _ :: obs => detailReads obs

/-- What becomes of a dossier in the detail phase. -/
def applyRead (e? : Option DetailRead) (d : Dossier) : Dossier :=
  match e?.bind DetailRead.committed with
  | none => d
  | some details => (DossierRepository.detailed details).apply d

section ApplyRead

variable (e? : Option DetailRead) (d : Dossier)

@[simp] theorem applyRead_id : (applyRead e? d).id = d.id := by
  rw [applyRead]
  split <;> rfl

@[simp] theorem applyRead_recordKey : (applyRead e? d).recordKey = d.recordKey := by
  rw [applyRead]
  split <;> rfl

@[simp] theorem applyRead_active : (applyRead e? d).active = d.active := by
  rw [applyRead]
  split <;> rfl

@[simp] theorem applyRead_missingCompletePolls :
    (applyRead e? d).missingCompletePolls = d.missingCompletePolls := by
  rw [applyRead]
  split <;> rfl

@[simp] theorem applyRead_portalStatus : (applyRead e? d).portalStatus = d.portalStatus := by
  rw [applyRead]
  split <;> rfl

theorem applyRead_of_committed {e? : Option DetailRead} {details : DossierDetails}
    (h : e?.bind DetailRead.committed = some details) (d : Dossier) :
    applyRead e? d = (DossierRepository.detailed details).apply d := by
  rw [applyRead, h]

theorem applyRead_of_not_committed {e? : Option DetailRead}
    (h : e?.bind DetailRead.committed = none) (d : Dossier) : applyRead e? d = d := by
  rw [applyRead, h]

end ApplyRead

namespace Enriched

variable {queue : List Dossier} {obs : List PollEvent} {db db' : Database} {accountId : ℕ}

theorem frame (h : Enriched queue obs db db') :
    db'.notifications = db.notifications ∧ db'.portalAccounts = db.portalAccounts := by
  induction h with
  | done db => exact ⟨rfl, rfl⟩
  | saved hsaved hrest ih => exact ih
  | cutShort d queue answer db => exact ⟨rfl, rfl⟩

/-- The reads go through the queue from its beginning. -/
theorem refs_prefix (h : Enriched queue obs db db') :
    (detailReads obs).map DetailRead.ref <+: queue.map asPortalRef := by
  induction h with
  | done db => exact List.prefix_rfl
  | @saved d queue answer details obs db db' hsaved hrest ih =>
    exact List.cons_prefix_cons.mpr ⟨rfl, ih⟩
  | cutShort d queue answer db =>
    exact List.cons_prefix_cons.mpr ⟨rfl, List.nil_prefix⟩

/-- Only details of the queue's dossiers are read. -/
theorem mem_queue (h : Enriched queue obs db db') {e : DetailRead} (he : e ∈ detailReads obs) :
    ∃ d ∈ queue, e.ref = asPortalRef d := by
  induction h with
  | done db => cases he
  | @saved d queue answer details obs db db' hsaved hrest ih =>
    rcases List.mem_cons.mp he with rfl | he
    · exact ⟨d, List.mem_cons_self, rfl⟩
    · obtain ⟨x, hx, href⟩ := ih he
      exact ⟨x, List.mem_cons_of_mem d hx, href⟩
  | cutShort d queue answer db =>
    rw [List.mem_singleton.mp he]
    exact ⟨d, List.mem_cons_self, rfl⟩

/-- A phase in which every read is committed goes through the whole queue. -/
theorem exists_read (h : Enriched queue obs db db') (hall : ∀ e ∈ detailReads obs, e.saved = true)
    {d : Dossier} (hd : d ∈ queue) :
    ∃ e ∈ detailReads obs, e.ref = asPortalRef d ∧ e.committed.isSome := by
  induction h with
  | done db => cases hd
  | @saved x queue answer details obs db db' hsaved hrest ih =>
    rcases List.mem_cons.mp hd with rfl | hd
    · refine ⟨⟨asPortalRef d, answer, true⟩, List.mem_cons_self, rfl, ?_⟩
      rw [DetailRead.committed, if_pos rfl, hsaved]
      rfl
    · obtain ⟨e, he, href⟩ := ih (fun e he ↦ hall e (List.mem_cons_of_mem _ he)) hd
      exact ⟨e, List.mem_cons_of_mem _ he, href⟩
  | cutShort x queue answer db =>
    have := hall _ (List.mem_singleton_self _)
    cases this

/-- What the queue has to be for its reads to be told apart: different dossiers of one account. -/
structure QueueIn (accountId : ℕ) (queue : List Dossier) (db : Database) : Prop where
  nodup : (queue.map Dossier.id).Nodup
  stored : ∀ d ∈ queue, d.portalAccountId = accountId ∧
    ∃ m, db.dossiers.find? d.id = some m ∧ m.recordKey = d.recordKey

/-- A dossier of the queue is found under its account and record identifier. -/
theorem QueueIn.find? (hq : QueueIn accountId queue db) {d : Dossier} (hd : d ∈ queue) :
    ∃ m, db.dossiers.byRecord.find? (accountId, d.recordId) = some m ∧ m.id = d.id := by
  obtain ⟨hacc, m, hm, hkey⟩ := hq.stored d hd
  refine ⟨m, ?_, Table.key_of_find? hm⟩
  have hfind := DossierTable.byRecord_of_find? hm
  rw [hkey] at hfind
  rw [← hacc]
  exact hfind

theorem QueueIn.recordIds_nodup (hq : QueueIn accountId queue db) :
    (queue.map Dossier.recordId).Nodup := by
  have hinj : ∀ d ∈ queue, ∀ d' ∈ queue, d.recordId = d'.recordId → d.id = d'.id := by
    intro d hd d' hd' heq
    obtain ⟨m, hm, hid⟩ := hq.find? hd
    obtain ⟨m', hm', hid'⟩ := hq.find? hd'
    rw [heq, hm'] at hm
    rw [← hid, ← hid', Option.some.inj hm]
  refine List.Nodup.map_on (fun d hd d' hd' heq ↦ ?_) (List.Nodup.of_map _ hq.nodup)
  exact List.inj_on_of_nodup_map hq.nodup hd hd' (hinj d hd d' hd' heq)

theorem QueueIn.tail {d : Dossier} {details : DossierDetails}
    (hq : QueueIn accountId (d :: queue) db) :
    QueueIn accountId queue (DossierRepository.saveDetails d.id details db) := by
  refine ⟨(List.nodup_cons.mp hq.nodup).2, fun x hx ↦ ?_⟩
  obtain ⟨hacc, m, hm, hkey⟩ := hq.stored x (List.mem_cons_of_mem d hx)
  let e := (DossierRepository.detailed details).at d.id
  refine ⟨hacc, e.apply m, ?_, (e.recordKey_apply m).trans hkey⟩
  rw [DossierRepository.saveDetails, Database.mapDossiers, DossierTable.find?_map, hm]
  rfl

/-- There is no second read for a record. -/
theorem find?_rest (h : Enriched queue obs db db') {r : String}
    (hr : r ∉ queue.map Dossier.recordId) :
    (detailReads obs).find? (fun e ↦ e.ref.recordId == r) = none := by
  rw [List.find?_eq_none]
  intro e he heq
  obtain ⟨d, hd, hdref⟩ := h.mem_queue he
  refine hr ?_
  rw [← beq_iff_eq.mp heq, hdref]
  exact List.mem_map_of_mem hd

/-- **A dossier after the detail phase**: what its read, if there was one, has made of it. -/
theorem byRecord (h : Enriched queue obs db db') (hq : QueueIn accountId queue db) (r : String) :
    db'.dossiers.byRecord.find? (accountId, r) =
      (db.dossiers.byRecord.find? (accountId, r)).map
        (applyRead ((detailReads obs).find? fun e ↦ e.ref.recordId == r)) := by
  induction h with
  | done db => exact (Option.map_id_apply).symm
  | @saved d queue answer details obs db db' hsaved hrest ih =>
    obtain ⟨m, hm, hid⟩ := hq.find? List.mem_cons_self
    have hnot : d.recordId ∉ queue.map Dossier.recordId :=
      (List.nodup_cons.mp hq.recordIds_nodup).1
    have hedit := DossierTable.byRecord_map_at hm (DossierRepository.detailed details)
      (accountId, r)
    rw [hid] at hedit
    rw [ih hq.tail, DossierRepository.saveDetails, Database.mapDossiers, hedit, detailReads,
      List.find?_cons]
    by_cases hr : r = d.recordId
    · subst hr
      have hread : (asPortalRef d).recordId = d.recordId := rfl
      rw [if_pos rfl, hrest.find?_rest hnot, hm, hread, BEq.rfl]
      simp only [Option.map_some]
      have hcommitted : ∀ e?, e?.bind DetailRead.committed = some details →
          applyRead e? m = (DossierRepository.detailed details).apply m :=
        fun _ h ↦ applyRead_of_committed h m
      rw [applyRead_of_not_committed rfl, hcommitted]
      rw [Option.bind_some, DetailRead.committed, if_pos rfl, hsaved]
    · have hne : ((asPortalRef d).recordId == r) = false :=
        beq_eq_false_iff_ne.mpr fun heq ↦ hr heq.symm
      rw [if_neg fun heq ↦ hr (Prod.mk.inj heq).2, hne]
  | cutShort d queue answer db =>
    refine Eq.symm ?_
    rw [show detailReads [.detailRead (asPortalRef d) answer] = [⟨asPortalRef d, answer, false⟩]
      from rfl]
    have hcommitted : ∀ e ∈ [(⟨asPortalRef d, answer, false⟩ : DetailRead)],
        e.committed = none := by
      intro e he
      rw [List.mem_singleton.mp he]
      rfl
    cases db.dossiers.byRecord.find? (accountId, r) with
    | none => rfl
    | some m =>
      rw [Option.map_some, applyRead_of_not_committed]
      cases hf : [(⟨asPortalRef d, answer, false⟩ : DetailRead)].find?
        fun e ↦ e.ref.recordId == r with
      | none => rfl
      | some e => exact hcommitted e (List.mem_of_find?_eq_some hf)

/-- Dossiers of other accounts are left alone. -/
theorem byRecord_foreign (h : Enriched queue obs db db') (hq : QueueIn accountId queue db)
    {k : ℕ × String} (hk : k.1 ≠ accountId) :
    db'.dossiers.byRecord.find? k = db.dossiers.byRecord.find? k := by
  induction h with
  | done db => rfl
  | @saved d queue answer details obs db db' hsaved hrest ih =>
    obtain ⟨m, hm, hid⟩ := hq.find? List.mem_cons_self
    have hedit := DossierTable.byRecord_map_at hm (DossierRepository.detailed details) k
    rw [hid, if_neg fun heq ↦ hk (congrArg Prod.fst heq)] at hedit
    rw [ih hq.tail, DossierRepository.saveDetails, Database.mapDossiers, hedit]
  | cutShort d queue answer db => rfl

/-- A read is the only one of its record. -/
theorem find?_of_mem (h : Enriched queue obs db db') (hq : QueueIn accountId queue db)
    {e : DetailRead} (he : e ∈ detailReads obs) :
    (detailReads obs).find? (fun e' ↦ e'.ref.recordId == e.ref.recordId) = some e := by
  induction h with
  | done db => cases he
  | @saved d queue answer details obs db db' hsaved hrest ih =>
    have hnot : d.recordId ∉ queue.map Dossier.recordId :=
      (List.nodup_cons.mp hq.recordIds_nodup).1
    rw [detailReads, List.find?_cons]
    rcases List.mem_cons.mp he with rfl | he
    · rw [BEq.rfl]
    · obtain ⟨x, hx, hxref⟩ := hrest.mem_queue he
      have hne : ((asPortalRef d).recordId == e.ref.recordId) = false := by
        refine beq_eq_false_iff_ne.mpr fun heq ↦ hnot ?_
        rw [hxref] at heq
        exact List.mem_map.mpr ⟨x, hx, heq.symm⟩
      rw [hne]
      exact ih hq.tail he
  | cutShort d queue answer db =>
    rw [List.mem_singleton.mp he]
    simp [detailReads]

end Enriched

end RmaPortal
