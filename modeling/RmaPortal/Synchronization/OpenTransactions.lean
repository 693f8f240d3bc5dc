import RmaPortal.Application.SyncService
import RmaPortal.Coroutine.Brackets

/-!
# Open transactions

The programs of the synchronization service close every unit of work that they open, one after the
other, and as long as one is open they ask nothing but the database: no reader, no browser, no
other poll.  This holds whatever they are answered, and whoever the reader is; it is what keeps a
slow portal from holding up everybody who wants to write.

## What is here

* `unitRole` — what a request has to do with a unit of work: it opens one, closes it, or neither.
* `Inside` and `Outside` — requests that may be made in a unit of work, and requests that have
  nothing to do with the database.
* `balanced_withUow` — a `with` block is balanced if its body stays inside.  From there on the
  lemmas follow the programs, one for each part: the reconciliation, the detail phase, the records
  a poll keeps of itself.
* `balanced_reconcileAndEnrich` — the details are read between the transactions that save them,
  one transaction for each dossier, and not in one long transaction.
* `balanced_execute`, `balanced_verifySession`, `balanced_markLoginTeardownFailed` — the entry
  points.

`Balanced` is the rule of `Coroutine.Brackets`, which knows nothing of databases.  What follows
for the site, whose writes have to wait for the transactions of a poll, is in `Web.Blocking`.
-/

set_option autoImplicit false

open Coroutine

namespace RmaPortal

/-- What a request has to do with a unit of work. -/
def unitRole : Request → BracketRole
  | .uow (.enter _) => .opens
  | .uow (.exit _) => .closes
  | .uow (.repo _ _) | .uow (.commit _) => .inner
  | .reader _ | .portal _ | .inflight => .outer
  | .now | .iterate _ | .selectOrder _ => .neutral

/-- Requests that may be made in a unit of work. -/
def Inside (r : Request) : Prop := unitRole r = .inner ∨ unitRole r = .neutral

/-- Requests that have nothing to do with the database. -/
def Outside (r : Request) : Prop := unitRole r = .outer ∨ unitRole r = .neutral

section

variable {α : Type} {tx : Transaction} {body : Prog α}

/-- A `with` block. -/
theorem balanced_withUow (h : Only Inside body) : Balanced unitRole (withUow tx body) :=
  balanced_block rfl rfl h fun _ ↦ balanced_pure _

theorem balanced_transaction (h : Only Inside body) : Balanced unitRole (transaction tx body) :=
  balanced_withUow <| only_bind h fun _ ↦ only_bind (only_perform (.inl rfl)) fun _ ↦ only_pure _

theorem inside_repo (op : Repo) : Only Inside (repo tx op) := only_perform (.inl rfl)

theorem balanced_outside (h : Only Outside body) : Balanced unitRole body := balanced_of_only h

/-- What only has to do with the portal. -/
theorem balanced_of_isPortal (h : Only Request.IsPortal body) : Balanced unitRole body := by
  refine balanced_outside (h.mono fun r hr ↦ ?_)
  cases r with
  | portal q => exact .inl rfl
  | now => exact .inr rfl
  | uow | reader | iterate | selectOrder | inflight => exact hr.elim

theorem balanced_waitFor (h : Balanced unitRole body) : Balanced unitRole (waitFor body) :=
  balanced_next h fun o ↦ by split <;> exact balanced_done _

theorem balanced_datetimeNow : Balanced unitRole datetimeNow :=
  balanced_outside (only_perform (.inr rfl))

end

namespace SyncAgreementQueue

/-! ## The reconciliation -/

section

variable {β : Type} {accountId : ℕ} {rowsById : Table QueueRow.recordId} {now : Datetime}

theorem inside_forEach {s : FrozenSet String} {f : β → String → Prog β} {b : β}
    (h : ∀ b x, Only Inside (f b x)) : Only Inside (forEach s f b) :=
  only_bind (only_bind (only_perform (.inr rfl)) fun _ ↦ only_pure _) fun l ↦ only_foldlM h l b

theorem inside_rowOf {recordId : String} : Only Inside (rowOf rowsById recordId) := by
  rw [rowOf]
  split <;> trivial

theorem inside_notify {create : Bool} {dossierId notified : ℕ} :
    Only Inside (notify now create dossierId notified) := by
  rw [notify]
  split
  · exact only_bind (inside_repo _) fun _ ↦ only_pure _
  · exact only_pure _

theorem inside_applySeen {result : ReconciliationResult} {retry : List Dossier} :
    Only Inside (applySeen accountId rowsById now result retry) := by
  refine only_bind (inside_forEach fun _ _ ↦ ?_) fun _ ↦
    only_bind (inside_forEach fun _ _ ↦ ?_) fun _ ↦
      only_bind (inside_forEach fun _ _ ↦ ?_) fun _ ↦ only_pure _
  · exact only_bind inside_rowOf fun _ ↦ only_bind (inside_repo _) fun _ ↦
      only_bind inside_notify fun _ ↦ only_pure _
  · exact only_bind inside_rowOf fun _ ↦ only_bind (inside_repo _) fun _ ↦
      only_bind inside_notify fun _ ↦ only_pure _
  · refine only_bind inside_rowOf fun _ ↦ only_bind (inside_repo _) fun _ ↦ ?_
    dsimp only
    split <;> exact only_pure _

theorem inside_reconcileBody {status : PollStatus} {completed : Bool} :
    Only Inside (reconcileBody accountId rowsById now status completed) := by
  refine only_bind (inside_repo _) fun existing ↦ only_bind (inside_repo _) fun selected ↦
    only_bind (only_perform (.inr rfl)) fun retry ↦ only_bind inside_applySeen fun acc ↦
      only_bind ?_ fun _ ↦ only_bind ?_ fun _ ↦ only_pure _
  · refine only_bind (only_foldlM (fun _ _ ↦ ?_) _ _) fun _ ↦ inside_forEach fun _ _ ↦ ?_
    · exact inside_repo _
    · exact inside_repo _
  · rw [applyBaseline]
    split
    · exact inside_repo _
    · exact only_pure _

end

/-! ## Polls and checks -/

section

variable {accountId : ℕ} {now : Datetime}

theorem balanced_reader {q : ReaderRequest} : Balanced unitRole (ask (.reader q)) :=
  balanced_outside (only_perform (.inl rfl))

theorem balanced_enrichDossier (detailsFailed : ℕ) (d : Dossier) :
    Balanced unitRole (enrichDossier detailsFailed d) := by
  refine balanced_bind (balanced_attempt balanced_reader) fun o ↦ ?_
  have hsave (details : DossierDetails) : Balanced unitRole (saveDetails d details) :=
    balanced_transaction (inside_repo _)
  split
  · exact balanced_bind (hsave _) fun _ ↦ balanced_pure _
  · exact balanced_bind (hsave _) fun _ ↦ balanced_pure _
  · exact balanced_throw _

/-- The details are read between the transactions that save them. -/
theorem balanced_reconcileAndEnrich {status : PollStatus} {error : Option String} {completed : Bool}
    {snapshot : QueueSnapshot} :
    Balanced unitRole (reconcileAndEnrich accountId status error completed snapshot now) :=
  balanced_bind (balanced_transaction inside_reconcileBody) fun _ ↦
    balanced_bind (balanced_foldlM balanced_enrichDossier _ _) fun _ ↦ balanced_pure _

theorem balanced_pollBody {completed : Bool} :
    Balanced unitRole (pollBody accountId completed now) := by
  refine balanced_bind (balanced_attempt (balanced_bind ?_ fun x ↦ ?_)) fun o ↦ ?_
  · refine balanced_bind (balanced_attempt balanced_reader) fun o ↦ ?_
    split
    · exact balanced_pure _
    · exact balanced_pure _
    · exact balanced_pure _
    · exact balanced_pure _
    · exact balanced_throw _
  · dsimp only
    split
    · exact balanced_reconcileAndEnrich
    · exact balanced_pure _
  · split
    · exact balanced_pure _
    · split
      · exact balanced_pure _
      · exact balanced_throw _

theorem balanced_recordFailedPoll {error : String} :
    Balanced unitRole (recordFailedPoll accountId now error) :=
  balanced_bind balanced_datetimeNow fun _ ↦
    balanced_bind (balanced_transaction <| only_bind (inside_repo _) fun _ ↦
      only_bind (inside_repo _) fun _ ↦ only_bind (inside_repo _) fun _ ↦ inside_repo _)
    fun _ ↦ balanced_pure _

theorem balanced_startPoll : Balanced unitRole (startPoll accountId now) :=
  balanced_transaction <| only_bind (inside_repo _) fun _ ↦
    only_bind (inside_repo _) fun _ ↦ only_pure _

theorem balanced_finishPoll {pollRunId : ℕ} {report : PollReport} :
    Balanced unitRole (finishPoll accountId pollRunId report) :=
  balanced_bind balanced_datetimeNow fun _ ↦
    balanced_bind (balanced_transaction <| only_bind (inside_repo _) fun _ ↦ inside_repo _)
    fun _ ↦ balanced_pure _

theorem balanced_enabledAccount : Balanced unitRole enabledAccount :=
  balanced_withUow <| only_bind (inside_repo _) fun account ↦ by cases account <;> trivial

theorem balanced_getDefault :
    Balanced unitRole (withUow .defaultAccount (repo .defaultAccount .getDefault)) :=
  balanced_withUow (inside_repo _)

theorem balanced_markSessionChecked {status : SessionStatus} {error : Option String} :
    Balanced unitRole (markSessionChecked accountId status now error) :=
  balanced_transaction (inside_repo _)

variable {H : Type} (F : PortalReaderFactory H)

theorem balanced_closeReader (reader : H) : Balanced unitRole (closeReader F reader) := by
  refine balanced_bind (balanced_attempt
    (balanced_waitFor (balanced_of_isPortal (F.aexit_portal reader)))) fun o ↦ ?_
  split
  · exact balanced_pure _
  · split
    · exact balanced_pure _
    · exact balanced_throw _

theorem balanced_pollWith (reader : H) {completed : Bool} :
    Balanced unitRole (pollWith F reader accountId completed now) := by
  refine balanced_bind (balanced_attempt balanced_startPoll) fun o ↦ ?_
  split
  · split
    · refine balanced_bind (balanced_closeReader F reader) fun closed ↦ ?_
      split <;> exact balanced_recordFailedPoll
    · exact balanced_throw _
  · exact balanced_bind (balanced_tryFinally balanced_pollBody (balanced_closeReader F reader))
      fun x ↦ balanced_finishPoll

/-- **A poll closes every unit of work it opens**, and asks nothing but the database in between. -/
theorem balanced_execute : Balanced unitRole (execute F) := by
  refine balanced_bind (balanced_outside (only_perform (.inl rfl))) fun joined ↦ ?_
  split
  · exact balanced_done _
  refine balanced_bind balanced_datetimeNow fun now ↦
    balanced_bind balanced_enabledAccount fun account ↦ ?_
  split
  · exact balanced_pure _
  refine balanced_bind (balanced_of_isPortal F.hasSavedSession_portal) fun saved ↦ ?_
  split
  · exact balanced_pure _
  refine balanced_bind (balanced_attempt (balanced_of_isPortal F.openReader_portal)) fun o ↦ ?_
  split
  · exact balanced_pure _
  · exact balanced_throw _
  refine balanced_bind (balanced_attempt (balanced_of_isPortal F.aenter_portal)) fun o ↦ ?_
  split
  · exact balanced_pure _
  · split
    · exact balanced_recordFailedPoll
    · exact balanced_throw _
  · exact balanced_pollWith F _

theorem balanced_checkFailure {message : String} {e : Exn} :
    Balanced unitRole (checkFailure message e) := by
  unfold checkFailure
  split
  · exact balanced_pure _
  · exact balanced_pure _
  · split
    · exact balanced_pure _
    · exact balanced_throw _

theorem balanced_checkSession {timeoutSeconds : ℕ} :
    Balanced unitRole (checkSession F timeoutSeconds) := by
  refine balanced_bind (balanced_attempt
    (balanced_waitFor (balanced_of_isPortal F.aenter_portal))) fun o ↦ ?_
  split
  · exact balanced_pure _
  · exact balanced_checkFailure
  refine balanced_bind (balanced_tryFinally ?_ (balanced_closeReader F _)) fun x ↦ balanced_pure _
  refine balanced_bind (balanced_attempt (balanced_waitFor balanced_reader)) fun o ↦ ?_
  split
  · exact balanced_pure _
  · exact balanced_pure _
  · exact balanced_checkFailure

/-- **So does the check of a session** … -/
theorem balanced_verifySession {timeoutSeconds : ℕ} :
    Balanced unitRole (verifySession F timeoutSeconds) := by
  refine balanced_bind balanced_datetimeNow fun now ↦ balanced_bind balanced_getDefault fun x ↦ ?_
  split
  · exact balanced_throw _
  refine balanced_bind (balanced_attempt (balanced_of_isPortal F.openReader_portal)) fun o ↦ ?_
  split
  · exact balanced_bind balanced_markSessionChecked fun _ ↦ balanced_pure _
  · exact balanced_throw _
  · exact balanced_bind (balanced_checkSession F) fun _ ↦
      balanced_bind balanced_markSessionChecked fun _ ↦ balanced_pure _

end

/-- … and the note that a login window could not be closed. -/
theorem balanced_markLoginTeardownFailed {message : String} :
    Balanced unitRole (markLoginTeardownFailed message) := by
  refine balanced_bind balanced_getDefault fun x ↦ ?_
  split
  · exact balanced_pure _
  · exact balanced_bind balanced_datetimeNow fun _ ↦ balanced_markSessionChecked

end SyncAgreementQueue

end RmaPortal
