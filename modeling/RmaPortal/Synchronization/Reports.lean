import RmaPortal.Synchronization.PollEffect

/-!
# What a poll reports

A poll reports a status, an error and its counters.  `BodyReport` says which, from what the poll
was answered: whether the queue could be read, whether the reconciliation was committed, and
whether the detail phase came to its end.  It also says how many notifications there are more than
before.

The counters of a poll are carried by the value of its `try` block.  So an exception that ends the
detail phase loses them, although what they count is committed; this is what `abandon` does.

## What is here

* `abandon` and `caught` — what the `except Exception` clause makes of an exception.  One that
  says that the session is gone is reported as such, any other one as a failure; what is not an
  `Exception` passes it by.
* `unreadReport`, `completeReport` — the report of a poll that can not use the queue, and of one
  whose detail phase comes to its end.
* `DetailsEnd` — how a detail phase ends when some reads have failed before: by recursion on the
  queue, like `Enriched`, but for what is counted.
* `decision`, `ReconciliationResult.notified` — what the transaction decides, and how many
  notifications it raises by that.
* `BodyReport` — the list of what a body can report: the queue was of no use, the transaction
  failed, the phase came to its end, or it was cut short.
* `within_foldlM_count`, `within_forEach_count` — the loop rule for an invariant that counts the
  turns; with `Within.and` it is added to what is known of a loop otherwise.
* `within_createDossier_count` and its siblings — each loop notifies once in a turn, or never.
* `sat_enrich_report`, `sat_reconcileAndEnrich_report`, `sat_readAndReconcile_report`,
  `sat_pollBody_report` — from the inside to the outside.

What the report does to the books is in `Synchronization.Books`, and whether the counters are
right is the subject of `Synchronization.Counters`.
-/

set_option autoImplicit false

open Coroutine

namespace RmaPortal

open SyncAgreementQueue

/-! ## Reports -/

/-- What the `except Exception` clause of a poll makes of an exception; what is not an `Exception`
passes it by. -/
def abandon (e : Exn) : Except Exn PollReport :=
  if e.isException then .ok { status := .failed, error := some (shortError e) } else .error e

/-- How the `try` block of a poll ends together with its `except` clause. -/
def caught : Except Exn PollReport → Except Exn PollReport
  | .ok report => .ok report
  | .error e => abandon e

/-- What a poll reports that cannot use the queue. -/
def unreadReport : Exn → Except Exn PollReport
  | .portalAuthRequiredError message => .ok { status := .authRequired, error := some message }
  | .portalReadError message => .ok { status := .failed, error := some message }
  | e => abandon e

/-- The error of a poll that can use the queue. -/
def queueError : Except Exn QueueSnapshot → Option String
  | .error (.portalPartialReadError message _) => some message
  | _ => none

/-- What a detail read adds to the number of failed ones. -/
def failures : Except Exn DossierDetails → ℕ
  | .ok _ => 0
  | .error _ => 1

/-- How a detail phase ends, when `n` reads have failed before. -/
inductive DetailsEnd : List PollEvent → ℕ → Except Exn ℕ → Prop
  | done (n : ℕ) : DetailsEnd [] n (.ok n)
  /-- The details of a dossier are read and saved. -/
  | saved {ref : PortalDossierRef} {answer : Except Exn DossierDetails} {details : DossierDetails}
      {obs : List PollEvent} {n : ℕ} {o : Except Exn ℕ}
      (hsaved : savedDetails answer = some details)
      (hrest : DetailsEnd obs (n + failures answer) o) :
      DetailsEnd (.detailRead ref answer :: .detailSaved :: obs) n o
  /-- Reading the details of a dossier raises something else than `DetailReadError`. -/
  | raised {ref : PortalDossierRef} {e : Exn} {n : ℕ}
      (hraised : savedDetails (.error e) = none) :
      DetailsEnd [.detailRead ref (.error e)] n (.error e)
  /-- What was found cannot be saved. -/
  | unsaved {ref : PortalDossierRef} {answer : Except Exn DossierDetails}
      {details : DossierDetails} {e : Exn} {n : ℕ} (hsaved : savedDetails answer = some details)
      (he : e.isException = true) : DetailsEnd [.detailRead ref answer] n (.error e)

/-- What a poll decides: `reconcile` with what it saw and what it knew. -/
def decision (accountId : ℕ) (baselineAlreadyCompleted : Bool) (status : PollStatus)
    (snapshot : QueueSnapshot) (db : Database) : ReconciliationResult :=
  reconcile
    { pollStatus := status
      baselineAlreadyCompleted := baselineAlreadyCompleted
      seenRecordIds := (Table.ofList snapshot.rows : Table QueueRow.recordId).keys
      existing := DossierRepository.existingStateByAccount accountId db }

/-- How many notifications a decision raises. -/
def ReconciliationResult.notified (result : ReconciliationResult) : ℕ :=
  if result.createNotifications then result.toCreate.rows.length + result.toReactivate.rows.length
  else 0

/-- The report of a poll whose detail phase comes to its end. -/
def completeReport (answer : Except Exn QueueSnapshot) (status : PollStatus)
    (snapshot : QueueSnapshot) (result : ReconciliationResult) (detailsFailed : ℕ) :
    PollReport where
  status := status
  error := queueError answer
  snapshot := snapshot
  created := result.toCreate.rows.length
  reactivated := result.toReactivate.rows.length
  deactivated := result.toDeactivate.rows.length
  notified := result.notified
  detailsFailed := detailsFailed

/-- How many notifications there are. -/
def Database.notificationTotal (db : Database) : ℕ := db.notifications.rows.length

/-- **What a poll reports**, by what is observed of it. -/
inductive BodyReport (accountId : ℕ) (baselineAlreadyCompleted : Bool) (db db' : Database) :
    List PollEvent → Except Exn PollReport → Prop
  /-- The queue is of no use. -/
  | unread {e : Exn} (hreport : queueReport (.error e) = none)
      (hsame : db'.notificationTotal = db.notificationTotal) :
      BodyReport accountId baselineAlreadyCompleted db db' [.queueRead (.error e)] (unreadReport e)
  /-- The reconciliation fails. -/
  | unreconciled {answer : Except Exn QueueSnapshot} {status : PollStatus}
      {snapshot : QueueSnapshot} {e : Exn} (hreport : queueReport answer = some (status, snapshot))
      (he : e.isException = true) (hsame : db'.notificationTotal = db.notificationTotal) :
      BodyReport accountId baselineAlreadyCompleted db db' [.queueRead answer] (abandon e)
  /-- The reconciliation is committed. -/
  | reconciled {answer : Except Exn QueueSnapshot} {status : PollStatus} {snapshot : QueueSnapshot}
      {result : ReconciliationResult} {obs : List PollEvent} {o : Except Exn ℕ}
      (hreport : queueReport answer = some (status, snapshot))
      (hresult : result = decision accountId baselineAlreadyCompleted status snapshot db)
      (hdetails : DetailsEnd obs 0 o)
      (hgrown : db'.notificationTotal = db.notificationTotal + result.notified) :
      BodyReport accountId baselineAlreadyCompleted db db'
        (.queueRead answer :: .reconciled :: obs)
        (caught (o.map (completeReport answer status snapshot result)))

/-! ## Counting notifications -/

section Within

variable {α β γ : Type}

/-- What two rules say of the body of a transaction holds together. -/
theorem Within.and {body : Prog α} {db : Database} {R R' : α → Database → Prop}
    (h : Within body db R) (h' : Within body db R') :
    Within body db fun x db' ↦ R x db' ∧ R' x db' := by
  intro w hw
  refine ((h w hw).and (h' w hw)).mono ?_
  rintro t o w' ⟨⟨hlocal, hportal, hcommitted, db₁, hdb₁, ho⟩, -, -, -, db₂, hdb₂, ho'⟩
  obtain rfl : db₁ = db₂ := Option.some.inj (hdb₁.symm.trans hdb₂)
  refine ⟨hlocal, hportal, hcommitted, db₁, hdb₁, ?_⟩
  cases o with
  | ok x => exact ⟨ho, ho'⟩
  | error e => exact ho

/-- The loop rule for an invariant that counts the turns. -/
theorem within_foldlM_count {f : β → γ → Prog β} (I : ℕ → β → Database → Prop)
    (hbody : ∀ n b x db, I n b db → Within (f b x) db (I (n + 1))) (l : List γ) {n : ℕ} {b : β}
    {db : Database} (h : I n b db) : Within (l.foldlM f b) db (I (n + l.length)) := by
  induction l generalizing n b db with
  | nil => exact within_pure h
  | cons x l ih =>
    rw [List.foldlM_cons]
    refine within_bind (hbody n b x db h) fun b' db' h' ↦ ?_
    rw [List.length_cons, ← Nat.add_assoc, Nat.add_right_comm]
    exact ih h'

theorem within_forEach_count {f : β → String → Prog β} (I : ℕ → β → Database → Prop)
    (hbody : ∀ n b x db, I n b db → Within (f b x) db (I (n + 1))) (s : FrozenSet String) {n : ℕ}
    {b : β} {db : Database} (h : I n b db) :
    Within (forEach s f b) db (I (n + s.rows.length)) := by
  refine within_bind (R := fun l db' ↦ db' = db ∧ l.length = s.rows.length)
    (within_iterate fun l hl ↦ ⟨rfl, hl.length_eq⟩) ?_
  rintro l _ ⟨rfl, hl⟩
  rw [← hl]
  exact within_foldlM_count I hbody l h

end Within

/-- Only `create` of the notifications writes notifications. -/
theorem Repo.notifications_of_run {op : Repo} {db db' : Database} {x : op.Val}
    (h : op.run db = .ok (x, db')) (hop : ∀ id kind t, op ≠ .createNotification id kind t) :
    db'.notifications = db.notifications := by
  cases op
  case createNotification id kind t => exact absurd rfl (hop id kind t)
  case createFromRow =>
    simp only [Repo.run, DossierRepository.createFromRow, bind, Except.bind, pure,
      Except.pure] at h
    split at h
    · cases h
    rename_i hinsert
    split at h
    · cases h
    rename_i hwork
    cases h
    rw [(Database.insertWork_ok hwork).2.1, (Database.insertDossier_ok hinsert).2.1]
  case finishPollRun =>
    simp only [Repo.run, PollRunRepository.finish] at h
    split at h <;> cases h
    rfl
  case touch =>
    simp only [Repo.run, DossierRepository.touch] at h
    split at h <;> cases h
    rfl
  case reactivate =>
    simp only [Repo.run, DossierRepository.reactivate] at h
    split at h <;> cases h
    rfl
  case applyAbsenceIncrement =>
    cases h
    rw [DossierRepository.applyAbsenceIncrement, DossierRepository.edit]
    split <;> rfl
  case deactivate =>
    cases h
    rw [DossierRepository.deactivate, DossierRepository.edit]
    split <;> rfl
  all_goals
    cases h
    rfl

theorem Repo.notifications_create {dossierId : ℕ} {kind : NotificationKind} {t : Datetime}
    {db db' : Database} {n : Notification}
    (h : (Repo.createNotification dossierId kind t).run db = .ok (n, db')) :
    db'.notifications.rows = db.notifications.rows ++ [n] := by
  simp only [Repo.run, NotificationRepository.create, bind, Except.bind, pure, Except.pure] at h
  split at h
  · cases h
  rename_i hinsert
  cases h
  rw [(Database.insertNotification_ok hinsert).1, Table.append]

section Counting

variable {accountId : ℕ} {rowsById : Table QueueRow.recordId} {now : Datetime} {db : Database}
  {total : ℕ}

/-- A method that adds no notification. -/
theorem within_repo_total {tx : Transaction} {op : Repo}
    (hop : ∀ id kind t, op ≠ .createNotification id kind t) (h : db.notificationTotal = total) :
    Within (repo tx op) db fun _ db' ↦ db'.notificationTotal = total :=
  within_repo fun _ _ hrun ↦ by
    rw [Database.notificationTotal, Repo.notifications_of_run hrun hop]
    exact h

theorem within_rowOf_total {recordId : String} (h : db.notificationTotal = total) :
    Within (rowOf rowsById recordId) db fun _ db' ↦ db'.notificationTotal = total := by
  unfold rowOf
  split
  · exact within_pure h
  · exact within_throw rfl

/-- The counter of a loop that notifies, after `n` turns, and the notifications there are. -/
def Notified (createNotifications : Bool) (total n : ℕ) (notified : ℕ) (db : Database) : Prop :=
  notified = (if createNotifications then n else 0) ∧ db.notificationTotal = total + notified

theorem within_notify_count {createNotifications : Bool} {dossierId n notified : ℕ}
    (h : Notified createNotifications total n notified db) :
    Within (notify now createNotifications dossierId notified) db
      (Notified createNotifications total (n + 1)) := by
  obtain ⟨rfl, htotal⟩ := h
  unfold notify
  cases createNotifications with
  | false => exact within_pure ⟨rfl, htotal⟩
  | true =>
    refine within_bind (R := fun _ db' ↦ db'.notificationTotal = db.notificationTotal + 1)
      (within_repo fun _ _ hrun ↦ ?_) fun _ db' hdb' ↦ ?_
    · rw [Database.notificationTotal, Repo.notifications_create hrun, List.length_append]
      rfl
    exact within_pure ⟨rfl, by rw [hdb', htotal]; rfl⟩

theorem within_createDossier_count {createNotifications : Bool} {n : ℕ}
    {acc : Table Dossier.id × ℕ} {recordId : String}
    (h : Notified createNotifications total n acc.2 db) :
    Within (createDossier accountId rowsById now createNotifications acc recordId) db
      fun acc db' ↦ Notified createNotifications total (n + 1) acc.2 db' := by
  refine within_bind (within_rowOf_total rfl) fun row db₁ h₁ ↦ ?_
  refine within_bind (within_repo_total (by simp) h₁) fun d db₂ h₂ ↦ ?_
  exact within_bind (within_notify_count ⟨h.1, h₂.trans h.2⟩) fun _ db₃ h₃ ↦ within_pure h₃

theorem within_reactivateDossier_count {createNotifications : Bool} {n : ℕ}
    {acc : Table Dossier.id × ℕ} {recordId : String}
    (h : Notified createNotifications total n acc.2 db) :
    Within (reactivateDossier accountId rowsById now createNotifications acc recordId) db
      fun acc db' ↦ Notified createNotifications total (n + 1) acc.2 db' := by
  refine within_bind (within_rowOf_total rfl) fun row db₁ h₁ ↦ ?_
  refine within_bind (within_repo_total (by simp) h₁) fun d db₂ h₂ ↦ ?_
  exact within_bind (within_notify_count ⟨h.1, h₂.trans h.2⟩) fun _ db₃ h₃ ↦ within_pure h₃

theorem within_touchDossier_total {needing : Table Dossier.id} {recordId : String}
    (h : db.notificationTotal = total) :
    Within (touchDossier accountId rowsById now needing recordId) db
      fun _ db' ↦ db'.notificationTotal = total := by
  refine within_bind (within_rowOf_total h) fun row db₁ h₁ ↦ ?_
  refine within_bind (within_repo_total (by simp) h₁) fun x db₂ h₂ ↦ ?_
  dsimp only
  split <;> exact within_pure h₂

theorem within_applySeen_count {result : ReconciliationResult} {retry : List Dossier} :
    Within (applySeen accountId rowsById now result retry) db fun acc db' ↦
      acc.2 = result.notified ∧ db'.notificationTotal = db.notificationTotal + acc.2 := by
  have hstart : Notified result.createNotifications db.notificationTotal 0 0 db :=
    ⟨by simp, rfl⟩
  refine within_bind (within_forEach_count (fun n acc db' ↦
    Notified result.createNotifications db.notificationTotal n acc.2 db')
    (fun _ _ _ _ h ↦ within_createDossier_count h) result.toCreate hstart) fun acc₁ db₁ h₁ ↦ ?_
  refine within_bind (within_forEach_count (fun n acc db' ↦
    Notified result.createNotifications db.notificationTotal n acc.2 db')
    (fun _ _ _ _ h ↦ within_reactivateDossier_count h) result.toReactivate h₁) fun acc₂ db₂ h₂ ↦ ?_
  refine within_bind (within_forEach_count (fun _ _ db' ↦
    db'.notificationTotal = db₂.notificationTotal)
    (fun _ _ _ _ h ↦ within_touchDossier_total h) (n := 0) result.toTouch rfl)
    fun needing db₃ h₃ ↦ ?_
  obtain ⟨hacc, htotal⟩ := h₂
  rw [Nat.zero_add] at hacc
  exact within_pure ⟨hacc, h₃.trans htotal⟩

theorem within_applyAbsences_total {result : ReconciliationResult} :
    Within (applyAbsences accountId result) db fun _ db' ↦
      db'.notificationTotal = db.notificationTotal := by
  refine within_bind (R := fun _ db' ↦ db'.notificationTotal = db.notificationTotal) ?_
    fun _ db₁ h₁ ↦ ?_
  · refine within_foldlM_count (fun _ _ db' ↦ db'.notificationTotal = db.notificationTotal)
      (n := 0) ?_ _ rfl
    intro _ _ _ _ h
    exact within_repo_total (by simp) h
  · refine within_forEach_count (fun _ _ db' ↦ db'.notificationTotal = db.notificationTotal)
      (n := 0) ?_ _ h₁
    intro _ _ _ _ h
    exact within_repo_total (by simp) h

/-- What the reconciliation transaction decides and counts. -/
theorem within_reconcileBody_count {status : PollStatus} {baselineAlreadyCompleted : Bool} :
    Within (reconcileBody accountId rowsById now status baselineAlreadyCompleted) db fun x db' ↦
      x.1 = reconcile ⟨status, baselineAlreadyCompleted, rowsById.keys,
        DossierRepository.existingStateByAccount accountId db⟩ ∧
      x.2.2 = x.1.notified ∧ db'.notificationTotal = db.notificationTotal + x.2.2 := by
  refine within_bind (R := fun existing db' ↦ db = db' ∧
      existing = DossierRepository.existingStateByAccount accountId db)
    (within_repo fun x db' hrun ↦ by cases hrun; exact ⟨rfl, rfl⟩) ?_
  rintro existing _ ⟨rfl, rfl⟩
  refine within_bind (within_repo_total (by simp) rfl) fun selected db₁ h₁ ↦ ?_
  refine within_bind (R := fun _ db' ↦ db' = db₁) (within_selectOrder fun _ ↦ rfl) ?_
  rintro retry _ rfl
  refine within_bind within_applySeen_count fun acc db₂ ⟨hacc, h₂⟩ ↦ ?_
  refine within_bind within_applyAbsences_total fun _ db₃ h₃ ↦ ?_
  refine within_bind (R := fun _ db' ↦ db'.notificationTotal = db₃.notificationTotal) ?_
    fun _ db₄ h₄ ↦ within_pure ⟨rfl, hacc, by rw [h₄, h₃, h₂, h₁]⟩
  unfold applyBaseline
  split
  · exact within_repo_total (by simp) rfl
  · exact within_pure rfl

end Counting

/-! ## The body of a poll -/

section Body

variable {w : World} {db : Database}

/-- How one turn of the detail phase ends. -/
def TurnReports (n : ℕ) (d : Dossier) (t : List Happening) (o : Except Exn ℕ) : Prop :=
  ∃ answer, match o with
    | .ok m => ∃ details, savedDetails answer = some details ∧ m = n + failures answer ∧
      observed t = [.detailRead (asPortalRef d) answer, .detailSaved]
    | .error e => observed t = [.detailRead (asPortalRef d) answer] ∧
      (answer = .error e ∧ savedDetails answer = none ∨
        e.isException = true ∧ ∃ details, savedDetails answer = some details)

theorem sat_enrichDossier_report {n : ℕ} {d : Dossier} (hw : w.db = .idle db) :
    Sat world (enrichDossier n d) w fun t o w' ↦ TurnReports n d t o ∧
      ∃ db', w'.db = .idle db' ∧ db'.notificationTotal = db.notificationTotal := by
  refine sat_attempt_bind (R := fun t o w' ↦ w = w' ∧
    t = [⟨.reader (.readDossierDetails (asPortalRef d)), o⟩]) (sat_reader fun a ↦ ⟨rfl, rfl⟩) ?_
  rintro _ answer _ ⟨rfl, rfl⟩
  have hsave (details : DossierDetails) (m : ℕ) (hdetails : savedDetails answer = some details)
      (hm : m = n + failures answer) :
      Sat world (do saveDetails d details; pure m) w fun t o w' ↦
        TurnReports n d ([⟨.reader (.readDossierDetails (asPortalRef d)), answer⟩] ++ t) o ∧
          ∃ db', w'.db = .idle db' ∧ db'.notificationTotal = db.notificationTotal := by
    refine sat_bind (sat_transaction hw (within_repo_total (by simp) rfl)) ?_ ?_
    · rintro t _ w₁ ⟨-, db', hdb', htotal, hobs⟩
      refine sat_pure ⟨⟨answer, details, hdetails, hm, ?_⟩, db', hdb', htotal⟩
      simp [observed_cons, observe, hobs]
    · rintro t e w₁ ⟨-, he, hdb, hobs⟩
      refine ⟨⟨answer, ?_, .inr ⟨he, details, hdetails⟩⟩, db, hdb, rfl⟩
      simp [observed_cons, observe, hobs]
  cases answer with
  | ok details => exact hsave details n rfl rfl
  | error e =>
    cases e with
    | detailReadError message => exact hsave (failedDetails message) (n + 1) rfl rfl
    | _ => exact sat_throw ⟨⟨_, rfl, .inl ⟨rfl, rfl⟩⟩, db, hw, rfl⟩

theorem sat_enrich_report (queue : List Dossier) {n : ℕ} (hw : w.db = .idle db) :
    Sat world (queue.foldlM enrichDossier n) w fun t o w' ↦ DetailsEnd (observed t) n o ∧
      ∃ db', w'.db = .idle db' ∧ db'.notificationTotal = db.notificationTotal := by
  induction queue generalizing n w db with
  | nil => exact sat_pure ⟨.done n, db, hw, rfl⟩
  | cons d queue ih =>
    rw [List.foldlM_cons]
    refine sat_bind (sat_enrichDossier_report hw) ?_ ?_
    · rintro t m w₁ ⟨⟨answer, details, hdetails, rfl, hobs⟩, db₁, hdb₁, htotal⟩
      refine (ih hdb₁).mono fun t' o w₂ ⟨hrest, db₂, hdb₂, htotal'⟩ ↦
        ⟨?_, db₂, hdb₂, htotal'.trans htotal⟩
      rw [observed_append, hobs]
      exact .saved hdetails hrest
    · rintro t e w₁ ⟨⟨answer, hobs, he⟩, hdb₁⟩
      refine ⟨?_, hdb₁⟩
      rw [hobs]
      rcases he with ⟨rfl, hraised⟩ | ⟨he, details, hdetails⟩
      · exact .raised hraised
      · exact .unsaved hdetails he

variable {accountId : ℕ} {baselineAlreadyCompleted : Bool} {now : Datetime}

/-- How the `try` block of a poll reports. -/
def TryReports (accountId : ℕ) (baselineAlreadyCompleted : Bool) (db : Database)
    (t : List Happening) (o : Except Exn PollReport) (s : DbState) : Prop :=
  ∃ db', s = .idle db' ∧
    BodyReport accountId baselineAlreadyCompleted db db' (observed t) (caught o)

theorem sat_reconcileAndEnrich_report {answer : Except Exn QueueSnapshot} {status : PollStatus}
    {snapshot : QueueSnapshot} (hreport : queueReport answer = some (status, snapshot))
    (hw : w.db = .idle db) :
    Sat world (reconcileAndEnrich accountId status (queueError answer) baselineAlreadyCompleted
      snapshot now) w fun t o w' ↦ TryReports accountId baselineAlreadyCompleted db
        (⟨.reader .readAgreementQueue, answer⟩ :: t) o w'.db := by
  have hobserved (t : List Happening) :
      observed (⟨.reader .readAgreementQueue, answer⟩ :: t) = .queueRead answer :: observed t := rfl
  refine sat_bind (sat_transaction hw within_reconcileBody_count) ?_ ?_
  · rintro t ⟨result, needing, notified⟩ w₁ ⟨-, mid, hmid, ⟨hresult, hnotified, htotal⟩, hobs⟩
    have hobs : observed t = [.reconciled] := hobs
    dsimp only at hresult hnotified htotal
    refine sat_bind (sat_enrich_report needing.rows hmid) ?_ ?_
    · rintro t' failed w₂ ⟨hdetails, db', hdb', htotal'⟩
      refine sat_pure ⟨db', hdb', ?_⟩
      rw [hobserved, List.append_nil, observed_append, hobs, hnotified]
      exact .reconciled hreport hresult hdetails (by rw [htotal', htotal, hnotified])
    · rintro t' e w₂ ⟨hdetails, db', hdb', htotal'⟩
      refine ⟨db', hdb', ?_⟩
      rw [hobserved, observed_append, hobs]
      exact .reconciled hreport hresult hdetails (by rw [htotal', htotal, hnotified])
  · rintro t e w₁ ⟨-, he, hdb, hobs⟩
    refine ⟨db, hdb, ?_⟩
    rw [hobserved, hobs]
    exact .unreconciled hreport he rfl

theorem sat_readAndReconcile_report (hw : w.db = .idle db) :
    Sat world (readAndReconcile accountId baselineAlreadyCompleted now) w fun t o w' ↦
      TryReports accountId baselineAlreadyCompleted db t o w'.db := by
  refine sat_bind (R := fun t o w' ↦ w' = w ∧ ∃ answer,
    t = [⟨.reader .readAgreementQueue, answer⟩] ∧
    match queueReport answer with
    | some (status, snapshot) => o = .ok (snapshot, status, queueError answer)
    | none => ∃ e, answer = .error e ∧ (o = .error e ∧ unreadReport e = abandon e ∨
      ∃ status error, o = .ok ({}, status, error) ∧
        ¬(status = .complete ∨ status = .partialRead) ∧
        unreadReport e = .ok { status := status, error := error })) ?queue ?_ ?_
  case queue =>
    refine sat_attempt_bind (R := fun t o w' ↦ w = w' ∧
      t = [⟨.reader .readAgreementQueue, o⟩]) (sat_reader fun a ↦ ⟨rfl, rfl⟩) ?_
    rintro _ answer _ ⟨rfl, rfl⟩
    cases answer with
    | ok snapshot => exact sat_pure ⟨rfl, _, rfl, rfl⟩
    | error e =>
      cases e with
      | portalPartialReadError message snapshot => exact sat_pure ⟨rfl, _, rfl, rfl⟩
      | portalAuthRequiredError message =>
        exact sat_pure ⟨rfl, _, rfl, _, rfl, .inr ⟨_, _, rfl, by simp, rfl⟩⟩
      | portalReadError message =>
        exact sat_pure ⟨rfl, _, rfl, _, rfl, .inr ⟨_, _, rfl, by simp, rfl⟩⟩
      | _ => exact sat_throw ⟨rfl, _, rfl, _, rfl, .inl ⟨rfl, rfl⟩⟩
  · rintro t ⟨snapshot, status, error⟩ w' ⟨rfl, answer, rfl, hanswer⟩
    split at hanswer
    · rename_i hreport
      cases hanswer
      dsimp only
      rw [if_pos (queueReport_usable hreport)]
      exact sat_reconcileAndEnrich_report hreport hw
    · rename_i hreport
      obtain ⟨e, rfl, ⟨⟨⟩, -⟩ | ⟨_, _, ⟨⟩, husable, hunread⟩⟩ := hanswer
      dsimp only
      rw [if_neg husable]
      refine sat_pure ⟨db, hw, ?_⟩
      rw [caught, ← hunread]
      exact .unread hreport rfl
  · rintro t e w' ⟨rfl, answer, rfl, hanswer⟩
    split at hanswer
    · cases hanswer
    · rename_i hreport
      obtain ⟨e', rfl, ⟨⟨⟩, hunread⟩ | ⟨_, _, ⟨⟩, -⟩⟩ := hanswer
      refine ⟨db, hw, ?_⟩
      rw [caught, ← hunread]
      exact .unread hreport rfl

/-- **What a poll reports**, whatever it is answered. -/
theorem sat_pollBody_report (hw : w.db = .idle db) :
    Sat world (pollBody accountId baselineAlreadyCompleted now) w fun t o w' ↦
      ∃ db', w'.db = .idle db' ∧
        BodyReport accountId baselineAlreadyCompleted db db' (observed t) o := by
  refine sat_attempt_bind (sat_readAndReconcile_report hw) ?_
  rintro t o w₁ ⟨db', hdb', hreport⟩
  rw [← List.append_nil t] at hreport
  cases o with
  | ok report => exact sat_pure ⟨db', hdb', hreport⟩
  | error e =>
    dsimp only
    rw [caught, abandon] at hreport
    split <;> rename_i he
    · rw [if_pos he] at hreport
      exact sat_pure ⟨db', hdb', hreport⟩
    · rw [if_neg he] at hreport
      exact sat_throw ⟨db', hdb', hreport⟩

end Body

end RmaPortal
