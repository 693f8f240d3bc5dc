import RmaPortal.Synchronization.Reconciliation

/-!
# What a poll does to the database

`PollEffect` is the whole of it.  Either a poll leaves the dataset as it was (`SameDataset`), or
it commits its reconciliation (`Reconciled`) and then, for as long as nothing goes wrong, reads
and saves the details of one dossier after the other (`Enriched`).  `sat_execute` proves that
every run of `execute` is of one of these two kinds, whatever the portal, the browser and the
database do, and wherever the task is cancelled.

## What is here

* `SameDataset` — everything but the bookkeeping of polls is the same.  The `poll_runs` table and
  the columns of an account that say how its last poll went are left out; `Synchronization.Books`
  is about them.
* `savedDetails` — what is saved after a detail read, if it lets the phase go on: the details that
  were read, or, after a `DetailReadError`, empty ones that are marked as not complete.
* `Enriched` — the detail phase, by recursion on the queue: the queue is empty, the details of the
  first dossier are read and saved and the phase goes on, or it is cut short there.  A phase that
  is cut short has still saved everything before.
* `queueReport` — what a poll has learned from reading the queue, if it can use it; a read that
  fails midway still says something, and that is what a PARTIAL poll is.
* `BodyEffect` and `PollEffect` — what the body of a poll does between its two records, and what a
  whole poll does.  The observed events (`PollEvent`) are part of both, so that a later statement
  can speak of what was read and of what was committed.
* `sat_enrichDossier`, `sat_enrich`, `sat_pollWith`, `sat_executeOnce`, `sat_execute` — one spec
  lemma for each part.  What holds of a transaction comes from `Within`, in
  `Synchronization.Transactions`, and a reader is known to ask for nothing but its page.

A poll that joins another one does nothing here, and a poll that skips changes nothing at all
(`ExecuteEnds`); both are among the cases.
-/

set_option autoImplicit false

open Coroutine

namespace RmaPortal

/-! ## Leaving the dataset alone -/

/-- Everything but the bookkeeping of polls is the same: the `poll_runs` table and the columns of an
account that say how its last poll went may differ. -/
structure SameDataset (db db' : Database) : Prop where
  dossiers : db'.dossiers = db.dossiers
  dossierWork : db'.dossierWork = db.dossierWork
  dossierNotes : db'.dossierNotes = db.dossierNotes
  notifications : db'.notifications = db.notifications
  notificationReads : db'.notificationReads = db.notificationReads
  baselines : db'.baselines = db.baselines

theorem SameDataset.refl (db : Database) : SameDataset db db := ⟨rfl, rfl, rfl, rfl, rfl, rfl⟩

theorem SameDataset.trans {db₁ db₂ db₃ : Database} (h : SameDataset db₁ db₂)
    (h' : SameDataset db₂ db₃) : SameDataset db₁ db₃ :=
  ⟨h'.dossiers.trans h.dossiers, h'.dossierWork.trans h.dossierWork,
    h'.dossierNotes.trans h.dossierNotes, h'.notifications.trans h.notifications,
    h'.notificationReads.trans h.notificationReads, h'.baselines.trans h.baselines⟩

/-- Changing accounts without changing their baselines. -/
theorem sameDataset_of_update {db db' : Database} {id : ℕ} {f : PortalAccount → PortalAccount}
    {hf : ∀ a, (f a).id = a.id}
    (h : db' = { db with portalAccounts := db.portalAccounts.update id f hf })
    (hb : ∀ a, (f a).baselineCompletedAt = a.baselineCompletedAt) : SameDataset db db' := by
  subst h
  refine ⟨rfl, rfl, rfl, rfl, rfl, ?_⟩
  simp only [Database.baselines, Table.update, Table.map, List.map_map]
  refine List.map_congr_left fun a _ ↦ ?_
  simp only [Function.comp_apply]
  split <;> simp [hf, hb]

section Bookkeeping

variable {tx : Transaction} {db : Database}

theorem within_markPollStarted (accountId : ℕ) (startedAt : Datetime) :
    Within (repo tx (.markPollStarted accountId startedAt)) db fun _ db' ↦ SameDataset db db' :=
  within_repo fun _ db' hrun ↦ by
    cases hrun
    exact sameDataset_of_update rfl fun _ ↦ rfl

theorem within_markPollFinished (accountId : ℕ) (status : PollStatus) (polledAt : Datetime)
    (error : Option String) :
    Within (repo tx (.markPollFinished accountId status polledAt error)) db
      fun _ db' ↦ SameDataset db db' :=
  within_repo fun _ db' hrun ↦ by
    cases hrun
    exact sameDataset_of_update rfl fun _ ↦ rfl

theorem within_startPollRun (accountId : ℕ) (startedAt : Datetime) :
    Within (repo tx (.startPollRun accountId startedAt)) db fun _ db' ↦ SameDataset db db' :=
  within_repo fun _ db' hrun ↦ by
    cases hrun
    exact ⟨rfl, rfl, rfl, rfl, rfl, rfl⟩

theorem within_finishPollRun (pollRunId : ℕ) (o : PollRunRepository.Outcome) :
    Within (repo tx (.finishPollRun pollRunId o)) db fun _ db' ↦ SameDataset db db' :=
  within_repo fun _ db' hrun ↦ by
    simp only [Repo.run, PollRunRepository.finish] at hrun
    split at hrun <;> cases hrun
    exact ⟨rfl, rfl, rfl, rfl, rfl, rfl⟩

end Bookkeeping

open SyncAgreementQueue

/-! ## The detail phase -/

/-- What is saved after a detail read, if it lets the phase go on. -/
def savedDetails : Except Exn DossierDetails → Option DossierDetails
  | .ok details => some details
  | .error (.detailReadError message) => some (failedDetails message)
  | .error _ => none

/-- **What the detail phase does**, from `db` to `db'`, to the dossiers of a queue: it deals with
one after the other, and may be cut short. -/
inductive Enriched : List Dossier → List PollEvent → Database → Database → Prop
  /-- The queue is empty. -/
  | done (db : Database) : Enriched [] [] db db
  /-- The details of the first dossier are read and saved. -/
  | saved {d : Dossier} {queue : List Dossier} {answer : Except Exn DossierDetails}
      {details : DossierDetails} {obs : List PollEvent} {db db' : Database}
      (hsaved : savedDetails answer = some details)
      (hrest : Enriched queue obs (DossierRepository.saveDetails d.id details db) db') :
      Enriched (d :: queue) (.detailRead (asPortalRef d) answer :: .detailSaved :: obs) db db'
  /-- Reading the details of the first dossier raises something else than `DetailReadError`, or
  what was found cannot be saved. -/
  | cutShort (d : Dossier) (queue : List Dossier) (answer : Except Exn DossierDetails)
      (db : Database) : Enriched (d :: queue) [.detailRead (asPortalRef d) answer] db db

/-- One transaction for the details of one dossier. -/
theorem sat_saveDetails {d : Dossier} {details : DossierDetails} {w : World} {db : Database}
    (hw : w.db = .idle db) :
    Sat world (saveDetails d details) w fun t o w' ↦
      match o with
      | .ok _ => w'.db = .idle (DossierRepository.saveDetails d.id details db) ∧
        observed t = [.detailSaved]
      | .error _ => w'.db = .idle db ∧ observed t = [] := by
  refine (sat_transaction hw (within_repo (R := fun _ db' ↦
    db' = DossierRepository.saveDetails d.id details db)
    fun x db' hrun ↦ by cases hrun; rfl)).mono fun t o w' ⟨_, h⟩ ↦ ?_
  cases o with
  | ok x =>
    obtain ⟨db', hdb', rfl, hobs⟩ := h
    exact ⟨hdb', hobs⟩
  | error e => exact h.2

/-- How one turn of the loop can end: the dossier is dealt with, or the phase is cut short. -/
def TurnEnds (d : Dossier) (db : Database) (t : List Happening) (o : Except Exn ℕ)
    (s : DbState) : Prop :=
  ∃ answer,
    match o with
    | .ok _ => ∃ details, savedDetails answer = some details ∧
      s = .idle (DossierRepository.saveDetails d.id details db) ∧
      observed t = [.detailRead (asPortalRef d) answer, .detailSaved]
    | .error _ => s = .idle db ∧ observed t = [.detailRead (asPortalRef d) answer]

theorem sat_enrichDossier {n : ℕ} {d : Dossier} {w : World} {db : Database}
    (hw : w.db = .idle db) :
    Sat world (enrichDossier n d) w fun t o w' ↦ TurnEnds d db t o w'.db := by
  refine sat_attempt_bind (R := fun t o w' ↦ w = w' ∧
    t = [⟨.reader (.readDossierDetails (asPortalRef d)), o⟩]) (sat_reader fun a ↦ ⟨rfl, rfl⟩) ?_
  rintro _ answer _ ⟨rfl, rfl⟩
  have hsave : ∀ details m, savedDetails answer = some details →
      Sat world (do saveDetails d details; pure m) w fun t o w' ↦
        TurnEnds d db ([⟨.reader (.readDossierDetails (asPortalRef d)), answer⟩] ++ t) o w'.db := by
    intro details m hdetails
    refine sat_bind (sat_saveDetails hw) ?_ ?_
    · rintro t _ w₁ ⟨hdb, hobs⟩
      refine sat_pure ⟨answer, details, hdetails, hdb, ?_⟩
      simp [observed_cons, observe, hobs]
    · rintro t e w₁ ⟨hdb, hobs⟩
      refine ⟨answer, hdb, ?_⟩
      simp [observed_cons, observe, hobs]
  split
  · exact hsave _ _ rfl
  · exact hsave _ _ rfl
  · exact sat_throw ⟨_, hw, rfl⟩

/-- The whole phase. -/
theorem sat_enrich (queue : List Dossier) {n : ℕ} {w : World} {db : Database}
    (hw : w.db = .idle db) :
    Sat world (queue.foldlM enrichDossier n) w fun t _ w' ↦
      ∃ db', w'.db = .idle db' ∧ Enriched queue (observed t) db db' := by
  induction queue generalizing n w db with
  | nil => exact sat_pure ⟨db, hw, .done db⟩
  | cons d queue ih =>
    rw [List.foldlM_cons]
    refine sat_bind (sat_enrichDossier hw) ?_ ?_
    · rintro t m w₁ ⟨answer, details, hdetails, hdb, hobs⟩
      refine (ih hdb).mono fun t' o w₂ ⟨db', hdb', hrest⟩ ↦ ⟨db', hdb', ?_⟩
      rw [observed_append, hobs]
      exact .saved hdetails hrest
    · rintro t e w₁ ⟨answer, hdb, hobs⟩
      exact ⟨db, hdb, by rw [hobs]; exact .cutShort d queue answer db⟩

/-! ## The body of a poll -/

/-- What a poll has learned from reading the queue, if it can use it: a read that fails midway still
says something. -/
def queueReport : Except Exn QueueSnapshot → Option (PollStatus × QueueSnapshot)
  | .ok snapshot => some (.complete, snapshot)
  | .error (.portalPartialReadError _ partialSnapshot) => some (.partialRead, partialSnapshot)
  | .error _ => none

theorem queueReport_usable {answer : Except Exn QueueSnapshot} {status : PollStatus}
    {snapshot : QueueSnapshot} (h : queueReport answer = some (status, snapshot)) :
    status = .complete ∨ status = .partialRead := by
  unfold queueReport at h
  split at h <;> cases h <;> simp

/-- What reading the queue, reconciling and reading details do together. -/
inductive BodyEffect (accountId : ℕ) (baselineAlreadyCompleted : Bool) (now : Datetime)
    (obs : List PollEvent) (db db' : Database) : Prop
  /-- Nothing was committed. -/
  | untouched {answer : Except Exn QueueSnapshot} (hobs : obs = [.queueRead answer])
      (hdb : db' = db)
  /-- The reconciliation was committed. -/
  | reconciled {answer : Except Exn QueueSnapshot} {status : PollStatus} {snapshot : QueueSnapshot}
      {needing : Table Dossier.id} {obs' : List PollEvent} {mid : Database}
      (hreport : queueReport answer = some (status, snapshot))
      (hobs : obs = .queueRead answer :: .reconciled :: obs')
      (hreconciled : Reconciled accountId status baselineAlreadyCompleted
        (Table.ofList snapshot.rows) now needing db mid)
      (henriched : Enriched needing.rows obs' mid db')

theorem sat_readQueue {w : World} :
    Sat world readQueue w fun t o w' ↦ w' = w ∧ ∃ answer, observed t = [.queueRead answer] ∧
      ∀ x, o = .ok x → (x.2.1 = .complete ∨ x.2.1 = .partialRead) →
        queueReport answer = some (x.2.1, x.1) := by
  refine sat_attempt_bind (R := fun t o w' ↦ w = w' ∧
    t = [⟨.reader .readAgreementQueue, o⟩]) (sat_reader fun a ↦ ⟨rfl, rfl⟩) ?_
  rintro _ answer _ ⟨rfl, rfl⟩
  split
  case h_5 => exact sat_throw ⟨rfl, _, rfl, by simp⟩
  all_goals
    refine sat_pure ⟨rfl, _, rfl, ?_⟩
    rintro _ ⟨⟩
    simp [queueReport]

theorem sat_reconcileAndEnrich {accountId : ℕ} {status : PollStatus} {error : Option String}
    {baselineAlreadyCompleted : Bool} {snapshot : QueueSnapshot} {now : Datetime} {w : World}
    {db : Database} (husable : status = .complete ∨ status = .partialRead)
    (hw : w.db = .idle db) :
    Sat world (reconcileAndEnrich accountId status error baselineAlreadyCompleted snapshot now) w
      fun t _ w' ↦ ∃ db', w'.db = .idle db' ∧
        ((observed t = [] ∧ db' = db) ∨ ∃ needing obs mid,
          observed t = .reconciled :: obs ∧
          Reconciled accountId status baselineAlreadyCompleted (Table.ofList snapshot.rows) now
            needing db mid ∧
          Enriched needing.rows obs mid db') := by
  refine sat_bind (sat_transaction hw (within_reconcileBody husable)) ?_ ?_
  · rintro t ⟨result, needing, notified⟩ w₁ ⟨-, mid, hmid, hrec, hobs⟩
    have hobs' : observed t = [.reconciled] := hobs
    refine sat_bind (R := fun t' _ w' ↦ ∃ db', w'.db = .idle db' ∧
      Enriched needing.rows (observed t') mid db') (sat_enrich needing.rows hmid) ?_ ?_
    · rintro t' failed w₂ ⟨db', hdb', hen⟩
      refine sat_pure ⟨db', hdb', Or.inr ⟨needing, observed t', mid, ?_, hrec, hen⟩⟩
      simp [hobs']
    · rintro t' e w₂ ⟨db', hdb', hen⟩
      refine ⟨db', hdb', Or.inr ⟨needing, observed t', mid, ?_, hrec, hen⟩⟩
      simp [hobs']
  · rintro t e w₁ ⟨-, -, hdb, hobs⟩
    exact ⟨db, hdb, Or.inl ⟨hobs, rfl⟩⟩

theorem sat_pollBody {accountId : ℕ} {baselineAlreadyCompleted : Bool} {now : Datetime}
    {w : World} {db : Database} (hw : w.db = .idle db) :
    Sat world (pollBody accountId baselineAlreadyCompleted now) w fun t _ w' ↦
      ∃ db', w'.db = .idle db' ∧
        BodyEffect accountId baselineAlreadyCompleted now (observed t) db db' := by
  refine sat_attempt_bind (R := fun t _ w' ↦ ∃ db', w'.db = .idle db' ∧
    BodyEffect accountId baselineAlreadyCompleted now (observed t) db db') ?_ ?_
  · refine sat_bind sat_readQueue ?_ ?_
    · rintro t ⟨snapshot, status, error⟩ _ ⟨rfl, answer, hobs, hreport⟩
      dsimp only
      split
      · rename_i husable
        have hreport := hreport _ rfl husable
        refine (sat_reconcileAndEnrich husable hw).mono fun t' o w' ⟨db', hdb', h⟩ ↦
          ⟨db', hdb', ?_⟩
        rcases h with ⟨hobs', rfl⟩ | ⟨needing, obs, mid, hobs', hrec, hen⟩
        · exact .untouched (by rw [observed_append, hobs, hobs', List.append_nil]) rfl
        · exact .reconciled hreport (by rw [observed_append, hobs, hobs']; rfl) hrec hen
      · exact sat_pure ⟨db, hw, .untouched (by rw [List.append_nil, hobs]) rfl⟩
    · rintro t e _ ⟨rfl, answer, hobs, -⟩
      exact ⟨db, hw, .untouched hobs rfl⟩
  · rintro t o w₁ ⟨db', hdb', h⟩
    cases o with
    | ok report => exact sat_pure ⟨db', hdb', by rwa [List.append_nil]⟩
    | error e =>
      dsimp only
      split
      · exact sat_pure ⟨db', hdb', by rwa [List.append_nil]⟩
      · exact sat_throw ⟨db', hdb', by rwa [List.append_nil]⟩

/-! ## A whole poll -/

/-- **What a poll does to the database**, from `before` to `after`, if it began at `now`. -/
inductive PollEffect (now : Datetime) (obs : List PollEvent) (before after : Database) : Prop
  /-- The dataset is as it was. -/
  | untouched (hobs : obs = [] ∨ ∃ answer, obs = [.queueRead answer])
      (hsame : SameDataset before after)
  /-- The poll was recorded as started, reconciled, went through its detail phase and was recorded
  as finished. -/
  | reconciled {account : PortalAccount} {answer : Except Exn QueueSnapshot} {status : PollStatus}
      {snapshot : QueueSnapshot} {needing : Table Dossier.id} {obs' : List PollEvent}
      {db₁ db₂ db₃ : Database}
      (haccount : PortalAccountRepository.getDefault before = some account)
      (hreport : queueReport answer = some (status, snapshot))
      (hobs : obs = .queueRead answer :: .reconciled :: obs')
      (hstarted : SameDataset before db₁)
      (hreconciled : Reconciled account.id status account.baselineCompletedAt.isSome
        (Table.ofList snapshot.rows) now needing db₁ db₂)
      (henriched : Enriched needing.rows obs' db₂ db₃)
      (hfinished : SameDataset db₃ after)

/-- How a poll that did more than to skip can end. -/
def PollEnds (now : Datetime) (before : Database) (t : List Happening)
    (o : Except Exn SyncResult) (s : DbState) : Prop :=
  (∃ after, s = .idle after ∧ PollEffect now (observed t) before after) ∧
    ∀ result, o = .ok result → result.skipped = false

/-- How a transaction of the bookkeeping that gives the poll its result can end. -/
def RecordEnds (db : Database) (t : List Happening) (o : Except Exn SyncResult)
    (s : DbState) : Prop :=
  (∃ db', s = .idle db' ∧ SameDataset db db' ∧ observed t = []) ∧
    ∀ result, o = .ok result → result.skipped = false

section Poll

variable {H : Type} {F : PortalReaderFactory H} {now : Datetime} {w : World} {db : Database}

theorem only_waitFor {α : Type} {P : Request → Prop} {c : Prog α} (h : Only P c) :
    Only P (waitFor c) :=
  only_next h fun o ↦ by split <;> trivial

theorem closeReader_portal (reader : H) : Only Request.IsPortal (closeReader F reader) := by
  refine only_bind (only_attempt (only_waitFor (F.aexit_portal reader))) fun o ↦ ?_
  split
  · trivial
  · split <;> trivial

theorem sat_recordFailedPoll {accountId : ℕ} {startedAt : Datetime} {error : String}
    (hw : w.db = .idle db) :
    Sat world (recordFailedPoll accountId startedAt error) w fun t o w' ↦
      RecordEnds db t o w'.db := by
  refine sat_bind (sat_now (Q := fun t o w' ↦ w' = w ∧ observed t = []) fun d ↦ ⟨rfl, rfl⟩) ?_ ?_
  · rintro t completedAt _ ⟨rfl, hobs⟩
    refine sat_bind (sat_transaction hw (R := fun _ db' ↦ SameDataset db db')
      (within_bind (within_markPollStarted _ _) fun _ db₁ h₁ ↦
        within_bind (within_startPollRun _ _) fun _ db₂ h₂ ↦
          within_bind (within_finishPollRun _ _) fun _ db₃ h₃ ↦
            (within_markPollFinished _ _ _ _).mono fun _ db₄ h₄ ↦
              ((h₁.trans h₂).trans h₃).trans h₄)) ?_ ?_
    · rintro t' _ w₁ ⟨-, db', hdb', hsame, hobs'⟩
      refine sat_pure ⟨⟨db', hdb', hsame, ?_⟩, ?_⟩
      · rw [observed_append, hobs, List.append_nil, hobs']
        rfl
      · rintro _ ⟨⟩
        rfl
    · rintro t' e w₁ ⟨-, -, hdb', hobs'⟩
      refine ⟨⟨db, hdb', .refl db, ?_⟩, by simp⟩
      rw [observed_append, hobs, hobs']
      rfl
  · rintro t e _ ⟨rfl, hobs⟩
    exact ⟨⟨db, hw, .refl db, hobs⟩, by simp⟩

theorem sat_startPoll {accountId : ℕ} (hw : w.db = .idle db) :
    Sat world (startPoll accountId now) w fun t _ w' ↦
      ∃ db', w'.db = .idle db' ∧ SameDataset db db' ∧ observed t = [] := by
  refine (sat_transaction hw (R := fun _ db' ↦ SameDataset db db')
    (within_bind (within_markPollStarted _ _) fun _ db₁ h₁ ↦
      within_bind (within_startPollRun _ _) fun _ db₂ h₂ ↦
        within_pure (h₁.trans h₂))).mono ?_
  rintro t o w' ⟨-, h⟩
  cases o with
  | ok x =>
    obtain ⟨db', hdb', hsame, hobs⟩ := h
    exact ⟨db', hdb', hsame, hobs⟩
  | error e => exact ⟨db, h.2.1, .refl db, h.2.2⟩

theorem sat_finishPoll {accountId pollRunId : ℕ} {report : PollReport} (hw : w.db = .idle db) :
    Sat world (finishPoll accountId pollRunId report) w fun t o w' ↦
      RecordEnds db t o w'.db := by
  refine sat_bind (sat_now (Q := fun t o w' ↦ w' = w ∧ observed t = []) fun d ↦ ⟨rfl, rfl⟩) ?_ ?_
  · rintro t completedAt _ ⟨rfl, hobs⟩
    refine sat_bind (sat_transaction hw (R := fun _ db' ↦ SameDataset db db')
      (within_bind (within_finishPollRun _ _) fun _ db₁ h₁ ↦
        (within_markPollFinished _ _ _ _).mono fun _ db₂ h₂ ↦ h₁.trans h₂)) ?_ ?_
    · rintro t' _ w₁ ⟨-, db', hdb', hsame, hobs'⟩
      refine sat_pure ⟨⟨db', hdb', hsame, ?_⟩, ?_⟩
      · rw [observed_append, hobs, List.append_nil, hobs']
        rfl
      · rintro _ ⟨⟩
        rfl
    · rintro t' e w₁ ⟨-, -, hdb', hobs'⟩
      refine ⟨⟨db, hdb', .refl db, ?_⟩, by simp⟩
      rw [observed_append, hobs, hobs']
      rfl
  · rintro t e _ ⟨rfl, hobs⟩
    exact ⟨⟨db, hw, .refl db, hobs⟩, by simp⟩

/-- The effect of the body of a poll, between its two records. -/
theorem PollEffect.of_body {account : PortalAccount} {obs : List PollEvent}
    {before db₁ db₃ after : Database}
    (haccount : PortalAccountRepository.getDefault before = some account)
    (hstarted : SameDataset before db₁)
    (hbody : BodyEffect account.id account.baselineCompletedAt.isSome now obs db₁ db₃)
    (hfinished : SameDataset db₃ after) : PollEffect now obs before after := by
  cases hbody with
  | untouched hobs hdb =>
    subst hdb
    exact .untouched (Or.inr ⟨_, hobs⟩) (hstarted.trans hfinished)
  | reconciled hreport hobs hrec hen =>
    exact .reconciled haccount hreport hobs hstarted hrec hen hfinished

theorem sat_pollWith {account : PortalAccount} {reader : H}
    (haccount : PortalAccountRepository.getDefault db = some account) (hw : w.db = .idle db) :
    Sat world (pollWith F reader account.id account.baselineCompletedAt.isSome now) w
      fun t o w' ↦ PollEnds now db t o w'.db := by
  refine sat_attempt_bind (sat_startPoll hw) ?_
  rintro t o w₁ ⟨db₁, hdb₁, hstarted, hobs⟩
  cases o with
  | error e =>
    dsimp only
    split
    · -- the poll could not be recorded: close the reader and record the failure
      refine sat_bind (sat_portal (closeReader_portal reader)) ?_ ?_
      · rintro t' closed w₂ ⟨hdb₂, hobs'⟩
        have hrecord : ∀ message, Sat world (recordFailedPoll account.id now message) w₂
            fun t'' o' w' ↦ PollEnds now db (t ++ (t' ++ t'')) o' w'.db := by
          intro message
          refine (sat_recordFailedPoll (hdb₂.trans hdb₁)).mono ?_
          rintro t'' o' w' ⟨⟨after, hafter, hsame, hobs''⟩, hresult⟩
          refine ⟨⟨after, hafter, .untouched (Or.inl ?_) (hstarted.trans hsame)⟩, hresult⟩
          simp [hobs, hobs', hobs'']
        split <;> exact hrecord _
      · rintro t' e' w₂ ⟨hdb₂, hobs'⟩
        refine ⟨⟨db₁, hdb₂.trans hdb₁, .untouched (Or.inl ?_) hstarted⟩, by simp⟩
        simp [hobs, hobs']
    · exact sat_throw ⟨⟨db₁, hdb₁, .untouched (Or.inl (by simp [hobs])) hstarted⟩, by simp⟩
  | ok pollRunId =>
    refine sat_bind (sat_tryFinally (sat_pollBody hdb₁) (Q := fun t' _ w' ↦
      ∃ db₃, w'.db = .idle db₃ ∧ BodyEffect account.id account.baselineCompletedAt.isSome now
        (observed t') db₁ db₃) ?_) ?_ ?_
    · rintro t' o' w₂ ⟨db₃, hdb₃, hbody⟩
      refine (sat_portal (closeReader_portal reader)).mono ?_
      rintro t'' o'' w₃ ⟨hdb', hobs''⟩
      have hbody' : BodyEffect account.id account.baselineCompletedAt.isSome now
          (observed (t' ++ t'')) db₁ db₃ := by
        rwa [observed_append, hobs'', List.append_nil]
      cases o'' with
      | ok closed => exact ⟨db₃, hdb'.trans hdb₃, hbody'⟩
      | error e => exact ⟨db₃, hdb'.trans hdb₃, hbody'⟩
    · rintro t' ⟨report, cleanupOk⟩ w₂ ⟨db₃, hdb₃, hbody⟩
      refine (sat_finishPoll hdb₃).mono ?_
      rintro t'' o' w₃ ⟨⟨after, hafter, hsame, hobs''⟩, hresult⟩
      refine ⟨⟨after, hafter, ?_⟩, hresult⟩
      have := PollEffect.of_body haccount hstarted hbody hsame
      simpa [hobs, hobs''] using this
    · rintro t' e w₂ ⟨db₃, hdb₃, hbody⟩
      have := PollEffect.of_body haccount hstarted hbody (.refl db₃)
      exact ⟨⟨db₃, hdb₃, by simpa [hobs] using this⟩, by simp⟩

/-- The look at the default account. -/
theorem sat_enabledAccount (hw : w.db = .idle db) :
    Sat world enabledAccount w fun t o w' ↦ w'.db = .idle db ∧ observed t = [] ∧
      ∀ id baseline, o = .ok (some (id, baseline)) → ∃ account,
        PortalAccountRepository.getDefault db = some account ∧ id = account.id ∧
          baseline = account.baselineCompletedAt.isSome := by
  refine sat_withUow hw (fun e he ↦ ⟨hw, rfl, by simp⟩) ?_
  refine sat_bind (within_repo (R := fun x db' ↦ db' = db ∧
    x = PortalAccountRepository.getDefault db)
    (fun x db' hrun ↦ by cases hrun; exact ⟨rfl, rfl⟩) _ rfl) ?_ ?_
  · rintro t x w₁ ⟨ht, -, hcom, db', hdb', rfl, rfl⟩
    have hobs : observed t = [] := observed_of_local ht
    split
    · exact sat_throw ⟨by rw [hcom], by simp [observed_cons, observe, hobs], by simp⟩
    · rename_i account haccount
      refine sat_pure ⟨by rw [hcom], by simp [observed_cons, observe, hobs], ?_⟩
      rintro id baseline ho
      split at ho <;> cases ho
      exact ⟨account, haccount, rfl, rfl⟩
  · rintro t e w₁ ⟨ht, -, hcom, db', hdb', he⟩
    have hobs : observed t = [] := observed_of_local ht
    exact ⟨by rw [hcom], by simp [observed_cons, observe, hobs], by simp⟩

/-- When a run of `execute` began. -/
def startedAt (t : List Happening) : Datetime :=
  (t.findSome? fun
    | ⟨.now, .ok d⟩ => some d
    | _ => none).getD default

/-- How a run of `execute` can end: a poll that skips changes nothing at all. -/
def ExecuteEnds (before : Database) (t : List Happening) (o : Except Exn SyncResult)
    (s : DbState) : Prop :=
  ∃ after, s = .idle after ∧ PollEffect (startedAt t) (observed t) before after ∧
    ∀ result, o = .ok result → result.skipped = true → after = before

/-- A poll that has not got further than to look. -/
theorem ExecuteEnds.nothing {t : List Happening} {o : Except Exn SyncResult} {s : DbState}
    (hs : s = .idle db) (hobs : observed t = []) : ExecuteEnds db t o s :=
  ⟨db, hs, .untouched (Or.inl hobs) (.refl db), fun _ _ _ ↦ rfl⟩

theorem sat_executeOnce (hw : w.db = .idle db) :
    Sat world (executeOnce F) w fun t o w' ↦
      ∀ a, ExecuteEnds db (⟨.inflight, a⟩ :: t) o w'.db := by
  refine sat_bind (sat_now (Q := fun t o w' ↦ w = w' ∧ ∃ d, o = .ok d ∧ t = [⟨.now, .ok d⟩])
    fun d ↦ ⟨rfl, d, rfl, rfl⟩) ?_ ?_
  · rintro _ d _ ⟨rfl, now, ho, rfl⟩
    obtain rfl : now = d := Except.ok.inj ho.symm
    -- from here on everything is about runs that begin at `now`
    suffices h : ∀ {c : Prog SyncResult}, (Sat world c w fun t o w' ↦
        (w'.db = .idle db ∧ observed t = []) ∨ PollEnds now db t o w'.db) →
        Sat world c w fun t o w' ↦
          ∀ a, ExecuteEnds db (⟨.inflight, a⟩ :: ([⟨.now, .ok now⟩] ++ t)) o w'.db by
      refine h ?_
      refine sat_bind (sat_enabledAccount hw) ?_ ?_
      · rintro t start w₁ ⟨hdb₁, hobs, hstart⟩
        split
        · exact sat_pure (Or.inl ⟨hdb₁, by simp [hobs]⟩)
        rename_i accountId baseline
        obtain ⟨account, haccount, rfl, rfl⟩ := hstart _ _ rfl
        refine sat_bind (sat_portal F.hasSavedSession_portal) ?_ ?_
        · rintro t₁ saved w₂ ⟨hdb₂, hobs₁⟩
          have hdb₂ := hdb₂.trans hdb₁
          split
          · exact sat_pure (Or.inl ⟨hdb₂, by simp [hobs, hobs₁]⟩)
          refine sat_attempt_bind (sat_portal F.openReader_portal) ?_
          rintro t₂ opened w₃ ⟨hdb₃, hobs₂⟩
          have hdb₃ := hdb₃.trans hdb₂
          split
          · exact sat_pure (Or.inl ⟨hdb₃, by simp [hobs, hobs₁, hobs₂]⟩)
          · exact sat_throw (Or.inl ⟨hdb₃, by simp [hobs, hobs₁, hobs₂]⟩)
          refine sat_attempt_bind (sat_portal F.aenter_portal) ?_
          rintro t₃ reader w₄ ⟨hdb₄, hobs₃⟩
          have hdb₄ := hdb₄.trans hdb₃
          split
          · exact sat_pure (Or.inl ⟨hdb₄, by simp [hobs, hobs₁, hobs₂, hobs₃]⟩)
          · split
            · refine (sat_recordFailedPoll hdb₄).mono ?_
              rintro t₄ o w' ⟨⟨after, hafter, hsame, hobs₄⟩, hresult⟩
              refine Or.inr ⟨⟨after, hafter, .untouched (Or.inl ?_) hsame⟩, hresult⟩
              simp [hobs, hobs₁, hobs₂, hobs₃, hobs₄]
            · exact sat_throw (Or.inl ⟨hdb₄, by simp [hobs, hobs₁, hobs₂, hobs₃]⟩)
          · refine (sat_pollWith haccount hdb₄).mono ?_
            rintro t₄ o w' ⟨⟨after, hafter, heffect⟩, hresult⟩
            refine Or.inr ⟨⟨after, hafter, ?_⟩, hresult⟩
            simpa [hobs, hobs₁, hobs₂, hobs₃] using heffect
        · rintro t₁ e w₂ ⟨hdb₂, hobs₁⟩
          exact Or.inl ⟨hdb₂.trans hdb₁, by simp [hobs, hobs₁]⟩
      · rintro t e w₁ ⟨hdb₁, hobs, -⟩
        exact Or.inl ⟨hdb₁, hobs⟩
    intro c hc
    refine hc.mono fun t o w' h a ↦ ?_
    have hobs : observed (⟨.inflight, a⟩ :: ([⟨.now, .ok now⟩] ++ t)) = observed t := rfl
    rcases h with ⟨hdb', hobs'⟩ | ⟨⟨after, hafter, heffect⟩, hresult⟩
    · exact .nothing hdb' (hobs.trans hobs')
    · refine ⟨after, hafter, by rw [hobs]; exact heffect, fun result ho hskipped ↦ ?_⟩
      rw [hresult result ho] at hskipped
      cases hskipped
  · rintro t e _ ⟨rfl, d, ho, -⟩
    cases ho

/-- **Every run of `execute`**, whatever it is answered. -/
theorem sat_execute (hw : w.db = .idle db) :
    Sat world (execute F) w fun t o w' ↦ ExecuteEnds db t o w'.db := by
  refine sat_bind (R := fun t o w' ↦ w = w' ∧ t = [(⟨.inflight, o⟩ : Happening)] ∧ ∃ x, o = .ok x)
    (sat_perform trivial fun a w' ⟨b, hb⟩ ↦ ?_) ?_ ?_
  · simp only [serve, Prod.mk.injEq] at hb
    obtain ⟨rfl, rfl⟩ := hb
    exact ⟨rfl, rfl, _, rfl⟩
  · rintro _ joined _ ⟨rfl, rfl, -⟩
    split
    · exact .nothing hw rfl
    · exact (sat_executeOnce hw).mono fun t o w' h ↦ h _
  · rintro t e _ ⟨rfl, -, x, ho⟩
    cases ho

end Poll

end RmaPortal
