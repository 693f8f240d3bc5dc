import RmaPortal.Coroutine.Calls
import RmaPortal.Synchronization.PollEffect

/-!
# The books of the polls

A poll keeps its books in two places: a row of `poll_runs`, which is opened when the poll starts
and closed when it ends, and three columns of the account, its `Standing`.  `RunOpened` and
`RunClosed` say what the two transactions that write them do, `SameBooks` that nothing is written,
and `Recorded` what they come to together: one more row, closed, and the account's standing with
it.

Between its two transactions a poll makes many requests, none of which touches the books
(`only_pollBody`, `sat_pollBody_books`).

## What is here

* `Standing`, `PortalAccount.standing`, `Standing.after` — what an account shows of how its polls
  went, and what it shows after one more.  A poll that has failed leaves the time of the last
  success alone.
* `Repo.keepsBooks`, `Repo.sameBooks_of_run` — the repository methods that leave the books alone,
  which are all but four.  The list is a function on the methods and is checked method by method.
* `RunOpened`, `RunClosed`, `Recorded`, `Recorded.of_closed` — opening a row, leaving the books
  alone, and closing the row.
* `within_openRun`, `within_closeRun` — the loop bodies of the two transactions, as rules of
  `Within`.
* `Fails` and `sat_transaction_fails` — a transaction whose body only calls repositories fails
  only if one of its requests does; this is how an exception of a poll is traced to the block it
  comes from.
* `failedOutcome` and `failedResult`, `PollReport.outcome` and `PollReport.result` — how a poll
  ends in the books, and for its caller.  That the two agree is what a later claim is about, so
  they are two definitions.
* `sat_startPoll_books`, `sat_recordFailedPoll_books`, `sat_finishPoll_books` — the transactions
  of the bookkeeping.
* `Request.IsOfBody` and `sat_pollBody_books` — everything in between.

Whether the closing transaction is reached at all depends on how the poll ends.  A cancelled poll
does not reach it, and its row stays open; see `Synchronization.Endings` and
`Synchronization.Unfinished`.
-/

set_option autoImplicit false

open Coroutine

namespace RmaPortal

open SyncAgreementQueue

/-! ## Standings -/

/-- What an account shows of how its polls went. -/
structure Standing where
  lastError : Option String
  sessionStatus : SessionStatus
  lastSuccessAt : Option Datetime

def PortalAccount.standing (a : PortalAccount) : Standing :=
  ⟨a.lastError, a.sessionStatus, a.lastSuccessAt⟩

/-- The standing of an account after a poll that ended so. -/
def Standing.after (o : PollRunRepository.Outcome) (s : Standing) : Standing where
  lastError := o.error
  sessionStatus := PortalAccountRepository.sessionStatusOf o.status
  lastSuccessAt := if o.status = .complete then some o.completedAt else s.lastSuccessAt

/-- The row of a poll that ended so. -/
def PollRun.finished (run : PollRun) (o : PollRunRepository.Outcome) : PollRun :=
  { run with
    status := o.status
    completedAt := some o.completedAt
    rowsSeen := o.rowsSeen
    pagesSeen := o.pagesSeen
    detailsFailed := o.detailsFailed
    error := o.error }

namespace Database

/-- The standing of an account. -/
def standing (db : Database) (accountId : ℕ) : Option Standing :=
  (db.portalAccounts.find? accountId).map PortalAccount.standing

theorem standing_of_update {db db' : Database} {accountId : ℕ}
    {f : PortalAccount → PortalAccount} {hf : ∀ a, (f a).id = a.id}
    (h : db' = { db with portalAccounts := db.portalAccounts.update accountId f hf })
    {g : Standing → Standing} (hg : ∀ a, (f a).standing = g a.standing) (id : ℕ) :
    db'.standing id = if id = accountId then (db.standing id).map g else db.standing id := by
  subst h
  rw [standing, standing, Table.find?_update]
  split
  · cases db.portalAccounts.find? id with
    | none => rfl
    | some a => exact congrArg some (hg a)
  · rfl

/-- The same, where the standing is left alone. -/
theorem standing_of_update_same {db db' : Database} {accountId : ℕ}
    {f : PortalAccount → PortalAccount} {hf : ∀ a, (f a).id = a.id}
    (h : db' = { db with portalAccounts := db.portalAccounts.update accountId f hf })
    (hg : ∀ a, (f a).standing = a.standing) (id : ℕ) : db'.standing id = db.standing id := by
  rw [standing_of_update h (g := fun s ↦ s) hg]
  split <;> simp

end Database

/-! ## Leaving the books alone -/

/-- The books of the polls are the same. -/
structure SameBooks (db db' : Database) : Prop where
  pollRuns : db'.pollRuns = db.pollRuns
  standing : ∀ id, db'.standing id = db.standing id

theorem SameBooks.refl (db : Database) : SameBooks db db := ⟨rfl, fun _ ↦ rfl⟩

theorem SameBooks.trans {db₁ db₂ db₃ : Database} (h : SameBooks db₁ db₂)
    (h' : SameBooks db₂ db₃) : SameBooks db₁ db₃ :=
  ⟨h'.pollRuns.trans h.pollRuns, fun id ↦ (h'.standing id).trans (h.standing id)⟩

/-- Whether a method leaves the books alone. -/
def Repo.keepsBooks : Repo → Bool
  | .startPollRun _ _ => false
  | .finishPollRun _ _ => false
  | .markPollFinished _ _ _ _ => false
  | .markSessionChecked _ _ _ _ => false
  | _ => true

section SameBooks

variable {db db' : Database}

/-- Only the accounts and the poll runs are looked at. -/
theorem SameBooks.of_tables (hruns : db'.pollRuns = db.pollRuns)
    (haccounts : db'.portalAccounts = db.portalAccounts) : SameBooks db db' :=
  ⟨hruns, fun _ ↦ by rw [Database.standing, haccounts]; rfl⟩

theorem sameBooks_edit {accountId : ℕ} {recordId : String} {e : Dossier.Edit} :
    SameBooks db (DossierRepository.edit accountId recordId e db) := by
  unfold DossierRepository.edit
  split <;> exact .of_tables rfl rfl

theorem sameBooks_insertDossier {d : Dossier} {h : db.dossiers.find? d.id = none}
    (hok : db.insertDossier d h = .ok db') : SameBooks db db' := by
  unfold Database.insertDossier at hok
  split at hok <;> cases hok
  exact .of_tables rfl rfl

theorem sameBooks_insertWork {w : DossierWork} (hok : db.insertWork w = .ok db') :
    SameBooks db db' := by
  unfold Database.insertWork at hok
  split at hok <;> cases hok
  exact .of_tables rfl rfl

theorem sameBooks_insertNotification {n : Notification} {h : db.notifications.find? n.id = none}
    (hok : db.insertNotification n h = .ok db') : SameBooks db db' := by
  unfold Database.insertNotification at hok
  split at hok <;> cases hok
  exact .of_tables rfl rfl

theorem Repo.sameBooks_of_run {op : Repo} {x : op.Val} (hop : op.keepsBooks = true)
    (h : op.run db = .ok (x, db')) : SameBooks db db' := by
  cases op
  case startPollRun => cases hop
  case finishPollRun => cases hop
  case markPollFinished => cases hop
  case markSessionChecked => cases hop
  case markPollStarted =>
    cases h
    exact ⟨rfl, Database.standing_of_update_same rfl fun _ ↦ rfl⟩
  case markBaselineCompleted =>
    cases h
    exact ⟨rfl, Database.standing_of_update_same rfl fun _ ↦ rfl⟩
  case createFromRow =>
    simp only [Repo.run, DossierRepository.createFromRow, bind, Except.bind, pure,
      Except.pure] at h
    split at h
    · cases h
    rename_i hinsert
    split at h
    · cases h
    rename_i hwork
    cases h
    exact (sameBooks_insertDossier hinsert).trans (sameBooks_insertWork hwork)
  case createNotification =>
    simp only [Repo.run, NotificationRepository.create, bind, Except.bind, pure,
      Except.pure] at h
    split at h
    · cases h
    rename_i hinsert
    cases h
    exact sameBooks_insertNotification hinsert
  case touch =>
    simp only [Repo.run, DossierRepository.touch] at h
    split at h <;> cases h
    exact .of_tables rfl rfl
  case reactivate =>
    simp only [Repo.run, DossierRepository.reactivate] at h
    split at h <;> cases h
    exact .of_tables rfl rfl
  case applyAbsenceIncrement =>
    cases h
    exact sameBooks_edit
  case deactivate =>
    cases h
    exact sameBooks_edit
  all_goals
    cases h
    exact .of_tables rfl rfl

end SameBooks

/-! ## Writing the books -/

/-- The row `run` has been opened for a poll of an account. -/
structure RunOpened (accountId : ℕ) (run : PollRun) (before db : Database) : Prop where
  rows : db.pollRuns.rows = before.pollRuns.rows ++ [run]
  account : run.portalAccountId = accountId
  unfinished : run.completedAt = none
  standing : ∀ id, db.standing id = before.standing id
  dataset : SameDataset before db

/-- The row of a poll has been closed, and the account's standing brought up to date. -/
structure RunClosed (accountId pollRunId : ℕ) (o : PollRunRepository.Outcome)
    (db after : Database) : Prop where
  rows : after.pollRuns.rows =
    db.pollRuns.rows.map fun run ↦ if run.id = pollRunId then run.finished o else run
  standing : ∀ id, after.standing id =
    if id = accountId then (db.standing id).map (Standing.after o) else db.standing id
  dataset : SameDataset db after

/-- **One poll in the books**: one more row, and the account's standing with it. -/
structure Recorded (accountId : ℕ) (o : PollRunRepository.Outcome)
    (before after : Database) : Prop where
  rows : ∃ run : PollRun, run.portalAccountId = accountId ∧
    after.pollRuns.rows = before.pollRuns.rows ++ [run.finished o]
  standing : ∀ id, after.standing id =
    if id = accountId then (before.standing id).map (Standing.after o) else before.standing id

section Writing

variable {before db db' after : Database} {accountId : ℕ} {run : PollRun}
  {o : PollRunRepository.Outcome}

/-- Opening a row, leaving the books alone, and closing the row. -/
theorem Recorded.of_closed (hopened : RunOpened accountId run before db)
    (hsame : SameBooks db db') (hclosed : RunClosed accountId run.id o db' after) :
    Recorded accountId o before after := by
  refine ⟨⟨run, hopened.account, ?_⟩, fun id ↦ ?_⟩
  · have hnew : ∀ row ∈ before.pollRuns.rows, row.id ≠ run.id := by
      have hnodup := db.pollRuns.nodup
      rw [hopened.rows, List.map_append, List.nodup_append] at hnodup
      intro row hrow
      exact hnodup.2.2 _ (List.mem_map_of_mem hrow) _ (by simp)
    have hrest : before.pollRuns.rows.map (fun row ↦
        if row.id = run.id then row.finished o else row) = before.pollRuns.rows := by
      conv_rhs => rw [← List.map_id before.pollRuns.rows]
      exact List.map_congr_left fun row hrow ↦ if_neg (hnew row hrow)
    rw [hclosed.rows, hsame.pollRuns, hopened.rows, List.map_append, hrest, List.map_singleton,
      if_pos rfl]
  · rw [hclosed.standing, hsame.standing, hopened.standing]

theorem standing_markPollFinished (id : ℕ) :
    (PortalAccountRepository.markPollFinished accountId o.status o.completedAt o.error
      db).standing id =
      if id = accountId then (db.standing id).map (Standing.after o) else db.standing id :=
  Database.standing_of_update rfl (fun _ ↦ rfl) id

/-- Open a row, and go on with it. -/
theorem within_openRun {α : Type} {tx : Transaction} {startedAt : Datetime} {f : PollRun → Prog α}
    {R : α → Database → Prop}
    (h : ∀ run db, RunOpened accountId run before db → Within (f run) db R) :
    Within (do
      repo tx (.markPollStarted accountId startedAt)
      let run ← repo tx (.startPollRun accountId startedAt)
      f run) before R := by
  refine within_bind (R := fun _ db ↦ SameBooks before db ∧ SameDataset before db)
    (within_repo fun x db hrun ↦ ⟨Repo.sameBooks_of_run rfl hrun, ?_⟩) fun _ db hdb ↦ ?_
  · cases hrun
    exact sameDataset_of_update rfl fun _ ↦ rfl
  refine within_bind (within_repo fun run db' hrun ↦ ?_) h
  cases hrun
  exact ⟨congrArg (·.rows ++ _) hdb.1.pollRuns, rfl, rfl, hdb.1.standing,
    hdb.2.trans ⟨rfl, rfl, rfl, rfl, rfl, rfl⟩⟩

/-- Close a row. -/
theorem within_closeRun {tx : Transaction} (accountId pollRunId : ℕ)
    (o : PollRunRepository.Outcome) :
    Within (do
      repo tx (.finishPollRun pollRunId o)
      repo tx (.markPollFinished accountId o.status o.completedAt o.error)) db fun _ after ↦
        RunClosed accountId pollRunId o db after := by
  refine within_bind (R := fun _ db' ↦ SameDataset db db' ∧ ∃ hf, db' = { db with
    pollRuns := db.pollRuns.update pollRunId (·.finished o) hf })
    (within_repo fun x db' hrun ↦ ?_) ?_
  · simp only [Repo.run, PollRunRepository.finish] at hrun
    split at hrun <;> cases hrun
    exact ⟨⟨rfl, rfl, rfl, rfl, rfl, rfl⟩, fun _ ↦ rfl, rfl⟩
  · rintro _ db' ⟨hsame, hf, hdb'⟩
    refine within_repo fun x after hrun ↦ ?_
    cases hrun
    refine ⟨?_, fun id ↦ ?_, hsame.trans (sameDataset_of_update rfl fun _ ↦ rfl)⟩
    · rw [hdb']
      rfl
    · rw [standing_markPollFinished, hdb']
      rfl

end Writing

/-! ## Transactions that fail -/

/-- The block a request belongs to. -/
def UowRequest.transaction : UowRequest → Transaction
  | enter tx => tx
  | repo tx _ => tx
  | commit tx => tx
  | exit tx => tx

/-- In the run, a request of the block failed. -/
def Fails (tx : Transaction) (t : List Happening) : Prop :=
  ∃ (q : UowRequest) (e : Exn), q.transaction = tx ∧ (⟨.uow q, .error e⟩ : Happening) ∈ t

theorem Fails.append_left {tx : Transaction} {t : List Happening} (h : Fails tx t)
    (t' : List Happening) : Fails tx (t' ++ t) := by
  obtain ⟨q, e, hq, hmem⟩ := h
  exact ⟨q, e, hq, List.mem_append_right _ hmem⟩

theorem Fails.append_right {tx : Transaction} {t : List Happening} (h : Fails tx t)
    (t' : List Happening) : Fails tx (t ++ t') := by
  obtain ⟨q, e, hq, hmem⟩ := h
  exact ⟨q, e, hq, List.mem_append_left _ hmem⟩

/-- A request of the block. -/
def Request.IsOf (tx : Transaction) : Request → Prop
  | .uow q => q.transaction = tx
  | _ => False

theorem passesOn_repo {tx : Transaction} (op : Repo) :
    PassesOn (Request.IsOf tx) (repo tx op) := passesOn_perform rfl

theorem passesOn_transaction {α : Type} {tx : Transaction} {body : Prog α}
    (h : PassesOn (Request.IsOf tx) body) : PassesOn (Request.IsOf tx) (transaction tx body) :=
  passesOn_bind (passesOn_perform rfl) fun _ ↦
    passesOn_bind (passesOn_tryFinally
      (passesOn_bind h fun _ ↦ passesOn_bind (passesOn_perform rfl) fun _ ↦ passesOn_pure _)
      (passesOn_perform rfl)) fun _ ↦ passesOn_pure _

/-- **A transaction whose body only calls repositories** fails only if one of its requests does. -/
theorem sat_transaction_fails {α : Type} {tx : Transaction} {body : Prog α} {w : World}
    {db : Database} {R : α → Database → Prop} (hw : w.db = .idle db) (hbody : Within body db R)
    (hpass : PassesOn (Request.IsOf tx) body) :
    Sat world (transaction tx body) w fun t o w' ↦ TransactionEnds tx db R t o w'.db ∧
      ∀ e, o = .error e → Fails tx t := by
  refine (sat_transaction hw hbody).ends.mono fun t o w' ⟨⟨_, h⟩, hends⟩ ↦ ⟨h, ?_⟩
  rintro e rfl
  obtain ⟨r, hr, hmem⟩ := passesOn_transaction hpass t e hends
  cases r with
  | uow q => exact ⟨q, e, hr, hmem⟩
  | _ => exact hr.elim

/-! ## The transactions of the bookkeeping -/

/-- How a poll that never got to read ends, in the books … -/
def failedOutcome (completedAt : Datetime) (error : String) : PollRunRepository.Outcome where
  status := .failed
  completedAt := completedAt
  rowsSeen := 0
  pagesSeen := 0
  detailsFailed := 0
  error := some error

/-- … and for its caller. -/
def failedResult (error : String) : SyncResult := { status := some .failed, error := some error }

/-- How a poll with this report ends, in the books … -/
def SyncAgreementQueue.PollReport.outcome (report : PollReport) (completedAt : Datetime) :
    PollRunRepository.Outcome where
  status := report.status
  completedAt := completedAt
  rowsSeen := report.snapshot.rowsSeen
  pagesSeen := report.snapshot.pagesSeen
  detailsFailed := report.detailsFailed
  error := report.error

/-- … and for its caller. -/
def SyncAgreementQueue.PollReport.result (report : PollReport) : SyncResult where
  status := some report.status
  rowsSeen := report.snapshot.rowsSeen
  pagesSeen := report.snapshot.pagesSeen
  detailsFailed := report.detailsFailed
  error := report.error
  created := report.created
  reactivated := report.reactivated
  deactivated := report.deactivated
  notificationsCreated := report.notified

section Transactions

variable {w : World} {db : Database} {accountId : ℕ}

theorem sat_startPoll_books {now : Datetime} (hw : w.db = .idle db) :
    Sat world (startPoll accountId now) w fun t o w' ↦ observed t = [] ∧
      match o with
      | .ok id => ∃ run db', run.id = id ∧ w'.db = .idle db' ∧ RunOpened accountId run db db'
      | .error e => e.isException = true ∧ w'.db = .idle db ∧ Fails .pollStart t := by
  refine (sat_transaction_fails hw (R := fun id db' ↦ ∃ run, run.id = id ∧
    RunOpened accountId run db db') ?_ ?_).mono ?_
  · exact within_openRun fun run db' h ↦ within_pure ⟨run, rfl, h⟩
  · exact passesOn_bind (passesOn_repo _) fun _ ↦
      passesOn_bind (passesOn_repo _) fun _ ↦ passesOn_pure _
  · rintro t o w' ⟨h, hfails⟩
    cases o with
    | ok id =>
      obtain ⟨db', hdb', ⟨run, hid, hopened⟩, hobs⟩ := h
      exact ⟨hobs, run, db', hid, hdb', hopened⟩
    | error e => exact ⟨h.2.2, h.1, h.2.1, hfails e rfl⟩

theorem sat_recordFailedPoll_books {startedAt : Datetime} {error : String}
    (hw : w.db = .idle db) :
    Sat world (recordFailedPoll accountId startedAt error) w fun t o w' ↦ observed t = [] ∧
      match o with
      | .ok result => ∃ completedAt after, result = failedResult error ∧ w'.db = .idle after ∧
        Recorded accountId (failedOutcome completedAt error) db after ∧ SameDataset db after
      | .error e => e.isException = true ∧ w'.db = .idle db ∧ Fails .failedPoll t := by
  refine sat_bind (sat_now (Q := fun t o w' ↦ w' = w ∧ observed t = [] ∧ ∃ d, o = .ok d)
    fun d ↦ ⟨rfl, rfl, d, rfl⟩) ?_ ?_
  · rintro t completedAt _ ⟨rfl, hobs, -⟩
    refine sat_bind (sat_transaction_fails hw (R := fun _ after ↦ ∃ run db',
      RunOpened accountId run db db' ∧
        RunClosed accountId run.id (failedOutcome completedAt error) db' after) ?_ ?_) ?_ ?_
    · exact within_openRun fun run db' h ↦
        (within_closeRun accountId run.id (failedOutcome completedAt error)).mono
          fun _ _ h' ↦ ⟨run, db', h, h'⟩
    · exact passesOn_bind (passesOn_repo _) fun _ ↦ passesOn_bind (passesOn_repo _) fun _ ↦
        passesOn_bind (passesOn_repo _) fun _ ↦ passesOn_repo _
    · rintro t' _ w₁ ⟨⟨after, hafter, ⟨run, db', hopened, hclosed⟩, hobs'⟩, -⟩
      refine sat_pure ⟨?_, completedAt, after, rfl, hafter,
        .of_closed hopened (.refl db') hclosed, hopened.dataset.trans hclosed.dataset⟩
      rw [observed_append, hobs, List.append_nil, hobs']
      rfl
    · rintro t' e w₁ ⟨⟨he, hdb, hobs'⟩, hfails⟩
      refine ⟨?_, he, hdb, (hfails e rfl).append_left _⟩
      rw [observed_append, hobs, hobs']
      rfl
  · rintro t e _ ⟨rfl, -, d, ho⟩
    cases ho

theorem sat_finishPoll_books {pollRunId : ℕ} {report : PollReport} (hw : w.db = .idle db) :
    Sat world (finishPoll accountId pollRunId report) w fun t o w' ↦ observed t = [] ∧
      match o with
      | .ok result => ∃ completedAt after, result = report.result ∧ w'.db = .idle after ∧
        RunClosed accountId pollRunId (report.outcome completedAt) db after
      | .error e => e.isException = true ∧ w'.db = .idle db ∧ Fails .pollFinish t := by
  refine sat_bind (sat_now (Q := fun t o w' ↦ w' = w ∧ observed t = [] ∧ ∃ d, o = .ok d)
    fun d ↦ ⟨rfl, rfl, d, rfl⟩) ?_ ?_
  · rintro t completedAt _ ⟨rfl, hobs, -⟩
    refine sat_bind (sat_transaction_fails hw
      (within_closeRun accountId pollRunId (report.outcome completedAt)) ?_) ?_ ?_
    · exact passesOn_bind (passesOn_repo _) fun _ ↦ passesOn_repo _
    · rintro t' _ w₁ ⟨⟨after, hafter, hclosed, hobs'⟩, -⟩
      refine sat_pure ⟨?_, completedAt, after, rfl, hafter, hclosed⟩
      rw [observed_append, hobs, List.append_nil, hobs']
      rfl
    · rintro t' e w₁ ⟨⟨he, hdb, hobs'⟩, hfails⟩
      refine ⟨?_, he, hdb, (hfails e rfl).append_left _⟩
      rw [observed_append, hobs, hobs']
      rfl
  · rintro t e _ ⟨rfl, -, d, ho⟩
    cases ho

end Transactions

/-! ## Between the two transactions -/

/-- Whether a request leaves the books alone. -/
def UowRequest.keepsBooks : UowRequest → Bool
  | repo _ op => op.keepsBooks
  | _ => true

/-- What the body of a poll asks: what a reader reads, and, in its two kinds of transactions,
anything but the books. -/
def Request.IsOfBody : Request → Prop
  | .uow q => (q.transaction = .reconciliation ∨ q.transaction = .detailSave) ∧
    q.keepsBooks = true
  | .reader _ => True
  | .iterate _ => True
  | .selectOrder _ => True
  | _ => False

theorem ofBody_repo {op : Repo} (h : op.keepsBooks = true) :
    Only Request.IsOfBody (repo .reconciliation op) := only_perform ⟨.inl rfl, h⟩

theorem ofBody_saveDetails {d : Dossier} {details : DossierDetails} :
    Only Request.IsOfBody (saveDetails d details) :=
  only_transaction ⟨.inr rfl, rfl⟩ ⟨.inr rfl, rfl⟩ ⟨.inr rfl, rfl⟩ (only_perform ⟨.inr rfl, rfl⟩)

theorem ofBody_forEach {β : Type} {s : FrozenSet String} {body : β → String → Prog β} {b : β}
    (h : ∀ b x, Only Request.IsOfBody (body b x)) : Only Request.IsOfBody (forEach s body b) :=
  only_bind (only_bind (only_perform trivial) fun _ ↦ only_pure _) fun l ↦ only_foldlM h l b

theorem ofBody_rowOf {rowsById : Table QueueRow.recordId} {recordId : String} :
    Only Request.IsOfBody (rowOf rowsById recordId) := by
  rw [rowOf]
  split <;> trivial

theorem ofBody_notify {now : Datetime} {create : Bool} {dossierId notified : ℕ} :
    Only Request.IsOfBody (notify now create dossierId notified) := by
  rw [notify]
  split
  · exact only_bind (ofBody_repo rfl) fun _ ↦ only_pure _
  · exact only_pure _

theorem ofBody_reconcileTransaction {accountId : ℕ} {rowsById : Table QueueRow.recordId}
    {now : Datetime} {status : PollStatus} {completed : Bool} :
    Only Request.IsOfBody (reconcileTransaction accountId rowsById now status completed) := by
  refine only_transaction ⟨.inl rfl, rfl⟩ ⟨.inl rfl, rfl⟩ ⟨.inl rfl, rfl⟩ <|
    only_bind (ofBody_repo rfl) fun existing ↦ only_bind (ofBody_repo rfl) fun selected ↦
      only_bind (only_perform trivial) fun retry ↦ only_bind ?_ fun acc ↦ only_bind ?_ fun _ ↦
        only_bind ?_ fun _ ↦ only_pure _
  · refine only_bind (ofBody_forEach fun _ _ ↦ ?_) fun _ ↦
      only_bind (ofBody_forEach fun _ _ ↦ ?_) fun _ ↦
        only_bind (ofBody_forEach fun _ _ ↦ ?_) fun _ ↦ only_pure _
    · exact only_bind ofBody_rowOf fun _ ↦ only_bind (ofBody_repo rfl) fun _ ↦
        only_bind ofBody_notify fun _ ↦ only_pure _
    · exact only_bind ofBody_rowOf fun _ ↦ only_bind (ofBody_repo rfl) fun _ ↦
        only_bind ofBody_notify fun _ ↦ only_pure _
    · refine only_bind ofBody_rowOf fun _ ↦ only_bind (ofBody_repo rfl) fun _ ↦ ?_
      dsimp only
      split <;> exact only_pure _
  · refine only_bind ?_ fun _ ↦ ofBody_forEach fun _ _ ↦ ofBody_repo rfl
    refine only_foldlM (fun _ _ ↦ ?_) _ _
    exact ofBody_repo rfl
  · rw [applyBaseline]
    split
    · exact ofBody_repo rfl
    · exact only_pure _

theorem only_pollBody {accountId : ℕ} {completed : Bool} {now : Datetime} :
    Only Request.IsOfBody (pollBody accountId completed now) := by
  have hqueue : Only Request.IsOfBody readQueue :=
    only_bind (only_attempt (only_perform trivial)) fun o ↦ by
      split <;> trivial
  have henrich (n : ℕ) (d : Dossier) : Only Request.IsOfBody (enrichDossier n d) :=
    only_bind (only_attempt (only_perform trivial)) fun o ↦ by
      split
      · exact only_bind ofBody_saveDetails fun _ ↦ only_pure _
      · exact only_bind ofBody_saveDetails fun _ ↦ only_pure _
      · exact only_throw _
  refine only_bind (only_attempt (only_bind hqueue fun _ ↦ ?_)) fun o ↦ ?_
  · dsimp only
    split
    · exact only_bind ofBody_reconcileTransaction fun _ ↦
        only_bind (only_foldlM henrich _ _) fun _ ↦ only_pure _
    · exact only_pure _
  · split
    · exact only_pure _
    · split <;> trivial

/-- **The body of a poll leaves the books alone.** -/
theorem sat_pollBody_books {accountId : ℕ} {completed : Bool} {now : Datetime} {w : World}
    {db : Database} (hw : w.db = .idle db) :
    Sat world (pollBody accountId completed now) w fun _ _ w' ↦ Kept (SameBooks db) w'.db := by
  refine (only_pollBody.sat (I := fun w' ↦ Kept (SameBooks db) w'.db) (fun _ _ _ _ ↦ trivial) ?_
    ?_).mono fun t o w' h ↦ h.1
  · rintro w₁ r a w₂ hr hI ⟨b, hb⟩
    simp only [RmaPortal.serve] at hb
    cases r with
    | uow q =>
      cases hb
      refine hI.serve (fun tx op db₁ db₂ x hq h hrun ↦ ?_) b
      subst hq
      exact h.trans (Repo.sameBooks_of_run hr.2 hrun)
    | portal q => exact hr.elim
    | now => exact hr.elim
    | inflight => exact hr.elim
    | _ =>
      cases hb
      exact hI
  · rw [hw]
    exact ⟨.refl db, fun _ h ↦ by cases h⟩

end RmaPortal
