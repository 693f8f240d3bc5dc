import RmaPortal.Synchronization.Records

/-!
# Expired sessions

A reader raises `PortalAuthRequiredError` where it finds its session expired, be it at the queue
or at the details of some dossier.  Only at the queue does a poll know the exception; from a
detail read it ends up among the unexpected ones, and the poll reports FAILED
(`reportsExpired_iff`).

## What is here

* `ExpiresAtQueue`, `ExpiresAtDetails` — where the session is found expired, as an event of the
  trace.
* `ReportsExpired` — what is promised: the poll finishes with the status AUTH_REQUIRED, for its
  caller and in its row, and the account shows it.
* `CleanupConfirmed` — whatever was opened and closed, the close was confirmed.  A close that is
  not overrides the status of the poll on purpose, and is not what the claim is about.
* The last transaction: `surfaces_execute` says that a poll that returns has recorded its end if
  it came to it, because no failure of that transaction is swallowed.  The rules are those of
  `Surfaces`, and for what comes before, that it does not come near the last transaction
  (`avoidsFinish_portal`, `avoidsFinish_body`).
* `DetailsEnd.of_expired`, `BodyReport.of_expired` — a detail phase in which the session expires
  ends with that, and the report is AUTH_REQUIRED if it is found at the queue and FAILED
  otherwise.
* `Poll.ended_of_expired` — such a poll comes to its end with its own report, or can not record
  it.
* `reportsExpired_iff` — for every poll in which the session expires: it reports this if and only
  if it is found expired at the queue, and the end of the poll can be recorded.
* `not_reportsExpired`, `reportsExpired_expiredAtQueue` — one poll of each kind.

A poll that finds its session expired twice does not exist: the first time ends its reading.
-/

set_option autoImplicit false

open Coroutine

namespace RmaPortal

open SyncAgreementQueue

/-! ## The last transaction -/

section Finish

variable {α : Type}

/-- A program that keeps to the portal does not come near the last transaction. -/
theorem avoidsFinish_portal {c : Prog α} (hc : Only Request.IsPortal c) :
    Only (fun r ↦ ¬Request.IsOf .pollFinish r) c := by
  refine hc.mono fun r hr ↦ ?_
  cases r with
  | uow q => exact hr.elim
  | _ => exact id

theorem avoidsFinish_body {c : Prog α} (hc : Only Request.IsOfBody c) :
    Only (fun r ↦ ¬Request.IsOf .pollFinish r) c := by
  refine hc.mono fun r hr ↦ ?_
  cases r with
  | uow q =>
    intro hfinish
    have htx : q.transaction = .pollFinish := hfinish
    rw [Request.IsOfBody, htx] at hr
    simp at hr
  | _ => exact id

theorem surfaces_repo {tx : Transaction} (op : Repo) :
    Surfaces (Request.IsOf .pollFinish) (repo tx op) := surfaces_perform _

theorem surfaces_withUow {tx : Transaction} {body : Prog α}
    (h : Surfaces (Request.IsOf .pollFinish) body) :
    Surfaces (Request.IsOf .pollFinish) (withUow tx body) :=
  surfaces_bind (surfaces_perform _) fun _ ↦
    surfaces_bind (surfaces_tryFinally h (surfaces_perform _)) fun _ ↦
      surfaces_of_only (only_pure _)

theorem surfaces_transaction {tx : Transaction} {body : Prog α}
    (h : Surfaces (Request.IsOf .pollFinish) body) :
    Surfaces (Request.IsOf .pollFinish) (transaction tx body) :=
  surfaces_withUow <| surfaces_bind h fun _ ↦ surfaces_bind (surfaces_perform _) fun _ ↦
    surfaces_of_only (only_pure _)

theorem surfaces_attempt {c : Prog α} (hc : Only (fun r ↦ ¬Request.IsOf .pollFinish r) c) :
    Surfaces (Request.IsOf .pollFinish) c.attempt := surfaces_of_only (only_attempt hc)

theorem surfaces_recordFailedPoll {accountId : ℕ} {startedAt : Datetime} {error : String} :
    Surfaces (Request.IsOf .pollFinish) (recordFailedPoll accountId startedAt error) :=
  surfaces_bind (surfaces_perform _) fun _ ↦
    surfaces_bind (surfaces_transaction <| surfaces_bind (surfaces_repo _) fun _ ↦
      surfaces_bind (surfaces_repo _) fun _ ↦ surfaces_bind (surfaces_repo _) fun _ ↦
        surfaces_repo _) fun _ ↦ surfaces_of_only (only_pure _)

theorem surfaces_finishPoll {accountId pollRunId : ℕ} {report : PollReport} :
    Surfaces (Request.IsOf .pollFinish) (finishPoll accountId pollRunId report) :=
  surfaces_bind (surfaces_perform _) fun _ ↦
    surfaces_bind (surfaces_transaction <| surfaces_bind (surfaces_repo _) fun _ ↦
      surfaces_repo _) fun _ ↦ surfaces_of_only (only_pure _)

variable {H : Type} {F : PortalReaderFactory H}

theorem avoidsFinish_startPoll {accountId : ℕ} {now : Datetime} :
    Only (fun r ↦ ¬Request.IsOf .pollFinish r) (startPoll accountId now) := by
  have hrepo (op : Repo) : Only (fun r ↦ ¬Request.IsOf .pollFinish r) (repo .pollStart op) :=
    only_perform (by simp [Request.IsOf, UowRequest.transaction])
  refine only_transaction ?_ ?_ ?_ (only_bind (hrepo _) fun _ ↦ only_bind (hrepo _) fun _ ↦
    only_pure _) <;> simp [Request.IsOf, UowRequest.transaction]

theorem surfaces_pollWith {reader : H} {accountId : ℕ} {completed : Bool} {now : Datetime} :
    Surfaces (Request.IsOf .pollFinish) (pollWith F reader accountId completed now) := by
  have hclose := avoidsFinish_portal (closeReader_portal (F := F) reader)
  refine surfaces_bind (surfaces_attempt avoidsFinish_startPoll) fun o ↦ ?_
  cases o with
  | error e =>
    dsimp only
    split
    · refine surfaces_bind (surfaces_of_only hclose) fun closed ↦ ?_
      split <;> exact surfaces_recordFailedPoll
    · exact surfaces_of_only (only_throw _)
  | ok pollRunId =>
    exact surfaces_bind (surfaces_tryFinally (surfaces_of_only (avoidsFinish_body only_pollBody))
      (surfaces_of_only hclose)) fun _ ↦ surfaces_finishPoll

/-- **A poll that returns has recorded its end**, if it came to it. -/
theorem surfaces_execute : Surfaces (Request.IsOf .pollFinish) (execute F) := by
  refine surfaces_bind (surfaces_perform _) fun joined ↦ ?_
  cases joined with
  | some result => exact surfaces_of_only trivial
  | none =>
    refine surfaces_bind (surfaces_perform _) fun now ↦ surfaces_bind ?_ fun enabled ↦ ?_
    · refine surfaces_withUow (surfaces_bind (surfaces_repo _) fun account ↦ ?_)
      cases account <;> exact surfaces_of_only trivial
    cases enabled with
    | none => exact surfaces_of_only (only_pure _)
    | some enabled =>
      refine surfaces_bind (surfaces_of_only (avoidsFinish_portal F.hasSavedSession_portal))
        fun saved ↦ ?_
      split
      · exact surfaces_of_only (only_pure _)
      refine surfaces_bind (surfaces_attempt (avoidsFinish_portal F.openReader_portal))
        fun opened ↦ ?_
      split
      · exact surfaces_of_only (only_pure _)
      · exact surfaces_of_only (only_throw _)
      refine surfaces_bind (surfaces_attempt (avoidsFinish_portal F.aenter_portal))
        fun entered ↦ ?_
      split
      · exact surfaces_of_only (only_pure _)
      · split
        · exact surfaces_recordFailedPoll
        · exact surfaces_of_only (only_throw _)
      · exact surfaces_pollWith

theorem Poll.not_fails_of_ok {p : Poll} (h : p.IsRun F) {result : SyncResult}
    (hresult : p.outcome = .ok result) : ¬Fails .pollFinish p.trace := by
  obtain ⟨w, w', -, hexec, -⟩ := h
  rintro ⟨q, e, hq, hmem⟩
  exact surfaces_execute _ result (hresult ▸ hexec.ends) (.uow q) e hq hmem

end Finish

/-! ## Where the session expires -/

namespace Poll

variable (p : Poll)

/-- The queue read raises `PortalAuthRequiredError`. -/
def ExpiresAtQueue : Prop :=
  ∃ message, (⟨.reader .readAgreementQueue, .error (.portalAuthRequiredError message)⟩ :
    Happening) ∈ p.trace

/-- A detail read raises `PortalAuthRequiredError`. -/
def ExpiresAtDetails : Prop :=
  ∃ ref message, (⟨.reader (.readDossierDetails ref),
    .error (.portalAuthRequiredError message)⟩ : Happening) ∈ p.trace

/-- The poll finishes with the status AUTH_REQUIRED, for its caller and in its row, and the account
shows it. -/
def ReportsExpired : Prop :=
  ∃ result account run new, p.outcome = .ok result ∧ result.status = some .authRequired ∧
    PortalAccountRepository.getDefault p.before = some account ∧
    p.after.pollRuns.rows = p.before.pollRuns.rows ++ [run] ∧ run.status = .authRequired ∧
    p.after.portalAccounts.find? account.id = some new ∧ new.sessionStatus = .authRequired

/-- Whatever was opened and closed, the close was confirmed. -/
def CleanupConfirmed {H : Type} (F : PortalReaderFactory H) : Prop :=
  ∀ reader o, F.Makes (execute F) p.trace (.entered (.ok reader)) →
    F.Makes (execute F) p.trace (.closed reader o) → o = .ok ()

end Poll

section Expiry

variable {H : Type} {F : PortalReaderFactory H} {p : Poll}

theorem Poll.leads_of_reader (h : p.IsRun F) {q : ReaderRequest} {a : Except Exn q.Val}
    (hmem : (⟨.reader q, a⟩ : Happening) ∈ p.trace) : p.Leads := by
  obtain hlead | ⟨result, htrace, -⟩ := Poll.leads_or_joins h
  · exact hlead
  · rw [htrace] at hmem
    cases List.mem_singleton.mp hmem

/-- A detail phase in which the session expires ends with that. -/
theorem DetailsEnd.of_expired {obs : List PollEvent} {n : ℕ} {o : Except Exn ℕ}
    (h : DetailsEnd obs n o) {ref : PortalDossierRef} {message : String}
    (hmem : .detailRead ref (.error (.portalAuthRequiredError message)) ∈ obs) :
    o = .error (.portalAuthRequiredError message) := by
  induction h with
  | done n => simp at hmem
  | saved hsaved hrest ih =>
    rcases List.mem_cons.mp hmem with heq | hmem
    · cases heq
      cases hsaved
    · rcases List.mem_cons.mp hmem with heq | hmem
      · cases heq
      · exact ih hmem
  | raised hraised =>
    cases List.mem_singleton.mp hmem
    rfl
  | unsaved hsaved he =>
    cases List.mem_singleton.mp hmem
    cases hsaved

/-- The detail phase does not read the queue. -/
theorem DetailsEnd.not_queueRead {obs : List PollEvent} {n : ℕ} {o : Except Exn ℕ}
    (h : DetailsEnd obs n o) {answer : Except Exn QueueSnapshot} :
    .queueRead answer ∉ obs := by
  induction h with
  | done n => simp
  | saved hsaved hrest ih => simpa using ih
  | raised hraised => simp
  | unsaved hsaved he => simp

/-- What a poll reports in which the session expires: AUTH_REQUIRED if that is found at the queue,
and FAILED if it is found at a detail read. -/
theorem BodyReport.of_expired {accountId : ℕ} {baseline : Bool} {db db' : Database}
    {o : Except Exn PollReport}
    (h : BodyReport accountId baseline db db' (observed p.trace) o)
    (hexpired : p.ExpiresAtQueue ∨ p.ExpiresAtDetails) :
    ∃ report, o = .ok report ∧ (p.ExpiresAtQueue ∧ report.status = .authRequired ∨
      ¬p.ExpiresAtQueue ∧ report.status = .failed) := by
  have hqueue : p.ExpiresAtQueue ↔ ∃ message,
      .queueRead (.error (.portalAuthRequiredError message)) ∈ observed p.trace :=
    exists_congr fun message ↦ ⟨fun h ↦ mem_observed h rfl, happened_of_queueRead⟩
  have hdetails : p.ExpiresAtDetails → ∃ ref message,
      .detailRead ref (.error (.portalAuthRequiredError message)) ∈ observed p.trace := by
    rintro ⟨ref, message, hmem⟩
    exact ⟨ref, message, mem_observed hmem rfl⟩
  rw [hqueue] at hexpired ⊢
  replace hexpired := hexpired.imp_right hdetails
  generalize observed p.trace = obs at h hexpired ⊢
  cases h with
  | @unread e hreport hsame =>
    obtain ⟨message, hmem⟩ | ⟨ref, message, hmem⟩ := hexpired
    · cases List.mem_singleton.mp hmem
      exact ⟨_, rfl, .inl ⟨⟨message, hmem⟩, rfl⟩⟩
    · cases List.mem_singleton.mp hmem
  | unreconciled hreport he hsame =>
    obtain ⟨message, hmem⟩ | ⟨ref, message, hmem⟩ := hexpired
    · cases List.mem_singleton.mp hmem
      cases hreport
    · cases List.mem_singleton.mp hmem
  | @reconciled answer status snapshot result obs o hreport hresult hend hgrown =>
    have hnot : ¬∃ message, .queueRead (.error (.portalAuthRequiredError message)) ∈
        (.queueRead answer :: .reconciled :: obs : List PollEvent) := by
      rintro ⟨message, hmem⟩
      rcases List.mem_cons.mp hmem with heq | hmem
      · cases heq
        cases hreport
      · exact hend.not_queueRead (by simpa using hmem)
    obtain hmem | ⟨ref, message, hmem⟩ := hexpired
    · exact absurd hmem hnot
    · have hmem' : .detailRead ref (.error (.portalAuthRequiredError message)) ∈ obs := by
        simpa using hmem
      cases hend.of_expired hmem'
      exact ⟨_, rfl, .inr ⟨hnot, rfl⟩⟩

/-- What the account shows after a poll that is recorded. -/
theorem Recorded.sessionStatus {account : PortalAccount} {o : PollRunRepository.Outcome}
    {before after : Database} (h : Recorded account.id o before after)
    (haccount : PortalAccountRepository.getDefault before = some account) :
    ∃ new, after.portalAccounts.find? account.id = some new ∧
      new.sessionStatus = PortalAccountRepository.sessionStatusOf o.status := by
  have hstanding := h.standing account.id
  rw [if_pos rfl, Database.standing, Database.standing, Table.find?_first haccount] at hstanding
  obtain ⟨new, hnew, hafter⟩ := Option.map_eq_some_iff.mp hstanding
  exact ⟨new, hnew, congrArg Standing.sessionStatus hafter⟩

/-- A poll in which the session expires, and whose close is confirmed, comes to its end with its own
report, or cannot record its end. -/
theorem Poll.ended_of_expired (hrun : p.IsRun F)
    (hexpired : p.ExpiresAtQueue ∨ p.ExpiresAtDetails) (hcleanup : p.CleanupConfirmed F) :
    (∃ e, p.outcome = .error e ∧ Fails .pollFinish p.trace) ∨
      ∃ account, ∃ report : PollReport, ∃ completedAt,
        PortalAccountRepository.getDefault p.before = some account ∧
        p.outcome = .ok report.result ∧
        Recorded account.id (report.outcome completedAt) p.before p.after ∧
        (p.ExpiresAtQueue ∧ report.status = .authRequired ∨
          ¬p.ExpiresAtQueue ∧ report.status = .failed) := by
  have hlead : p.Leads := by
    obtain ⟨message, hmem⟩ | ⟨ref, message, hmem⟩ := hexpired <;>
      exact Poll.leads_of_reader hrun hmem
  have hread : observed p.trace ≠ [] := by
    obtain ⟨message, hmem⟩ | ⟨ref, message, hmem⟩ := hexpired <;>
      exact List.ne_nil_of_mem (mem_observed hmem rfl)
  have hended := Poll.ended hrun hlead
  have hreported {accountId : ℕ} {baseline : Bool} {db db' : Database}
      {o : Except Exn PollReport} (h : BodyReport accountId baseline db db' (observed p.trace) o) :=
    h.of_expired hexpired
  generalize p.outcome = o at hended ⊢
  generalize p.after = after at hended ⊢
  cases hended with
  | skipped reason hobs => exact absurd hobs hread
  | unstarted hobs h => exact absurd hobs hread
  | failed haccount hobs hrecorded hsame => exact absurd hobs hread
  | unrecorded e hobs h => exact absurd hobs hread
  | uncleared hobs hentered hclosed he => exact absurd hobs hread
  | polled haccount hopened heffect hreport hentered hclosed hok hrecorded hsame =>
    obtain rfl := hcleanup _ _ hentered hclosed
    cases hok
    obtain ⟨report, ho, hstatus⟩ := hreported hreport
    cases ho
    exact .inr ⟨_, _, _, haccount, rfl, hrecorded, hstatus⟩
  | cutOff haccount hopened hreport hbooks hentered hclosed hcause =>
    obtain rfl := hcleanup _ _ hentered hclosed
    obtain ⟨report, rfl, -⟩ := hreported hreport
    obtain ⟨e, he⟩ | ⟨e, he⟩ | hfails := hcause
    · cases he
    · cases he
    · exact .inl ⟨_, rfl, hfails⟩

/-- **When an expired session is reported**: iff it is found expired at the queue, and the end of
the poll can be recorded. -/
theorem reportsExpired_iff (hrun : p.IsRun F)
    (hexpired : p.ExpiresAtQueue ∨ p.ExpiresAtDetails) (hcleanup : p.CleanupConfirmed F) :
    p.ReportsExpired ↔ p.ExpiresAtQueue ∧ ¬Fails .pollFinish p.trace := by
  obtain ⟨e, ho, hfails⟩ | ⟨account, report, completedAt, haccount, ho, hrecorded, hstatus⟩ :=
    Poll.ended_of_expired hrun hexpired hcleanup
  · refine iff_of_false ?_ fun h ↦ h.2 hfails
    rintro ⟨result, -, -, -, hresult, -⟩
    rw [ho] at hresult
    cases hresult
  · have hclean := Poll.not_fails_of_ok hrun ho
    obtain ⟨run, -, hrows⟩ := hrecorded.rows
    obtain ⟨new, hnew, hsession⟩ := hrecorded.sessionStatus haccount
    obtain ⟨hqueue, hstatus⟩ | ⟨hqueue, hstatus⟩ := hstatus
    · refine iff_of_true ⟨_, account, _, new, ho, ?_, haccount, hrows, hstatus, hnew, ?_⟩
        ⟨hqueue, hclean⟩
      · exact congrArg some hstatus
      · rw [hsession, show (report.outcome completedAt).status = _ from hstatus]
        rfl
    · refine iff_of_false ?_ fun h ↦ hqueue h.1
      rintro ⟨result, -, -, -, hresult, hexpected, -⟩
      rw [ho] at hresult
      cases hresult
      rw [show report.result.status = _ from congrArg some hstatus] at hexpected
      cases hexpected

end Expiry

/-! ## Two polls -/

theorem cleanupConfirmed_closingWith (p : Poll) : p.CleanupConfirmed (.closingWith (.ok ())) :=
  fun _ _ _ h ↦ Calls.eq_of_done h

/-- Whether the event is a read that finds the session expired, of the queue or of details. -/
def expiredRead : Happening → Option Bool
  | ⟨.reader .readAgreementQueue, .error (.portalAuthRequiredError _)⟩ => some true
  | ⟨.reader (.readDossierDetails _), .error (.portalAuthRequiredError _)⟩ => some false
  | _ => none

theorem expires_of_mem {p : Poll} {atQueue : Bool}
    (h : some atQueue ∈ p.trace.map expiredRead) :
    if atQueue then p.ExpiresAtQueue else p.ExpiresAtDetails := by
  obtain ⟨e, hmem, he⟩ := List.mem_map.mp h
  unfold expiredRead at he
  split at he <;> cases he
  · exact ⟨_, hmem⟩
  · exact ⟨_, _, hmem⟩

/-- A poll that finds its session expired when it reads the details of a dossier. -/
def expiredAtDetails : Poll :=
  .scripted (.closingWith (.ok ())) (.ofAccount (.unpolled 1))
    (.shows [.ofStatus "a" "open"] (.error (.portalAuthRequiredError "")))

/-- It reports FAILED. -/
theorem not_reportsExpired :
    ¬∀ p : Poll, p.IsRun (.closingWith (.ok ())) → p.ExpiresAtQueue ∨ p.ExpiresAtDetails →
      p.CleanupConfirmed (.closingWith (.ok ())) → p.ReportsExpired := by
  intro h
  have hstatus : expiredAtDetails.outcome.toOption.bind SyncResult.status = some .failed := by
    decide +kernel
  have hdetails : expiredAtDetails.ExpiresAtDetails :=
    expires_of_mem (show some false ∈ _ by decide +kernel)
  obtain ⟨result, -, -, -, hresult, hexpected, -⟩ := h expiredAtDetails (Poll.isRun_scripted _ _ _)
    (.inr hdetails) (cleanupConfirmed_closingWith _)
  rw [hresult] at hstatus
  have hfailed : result.status = some .failed := hstatus
  rw [hexpected] at hfailed
  cases hfailed

/-- A poll that finds its session expired when it reads the queue. -/
def expiredAtQueue : Poll :=
  .scripted (.closingWith (.ok ())) (.ofAccount (.unpolled 1))
    { queue := .error (.portalAuthRequiredError "") }

theorem reportsExpired_expiredAtQueue : expiredAtQueue.ReportsExpired := by
  have hqueue : expiredAtQueue.ExpiresAtQueue :=
    expires_of_mem (show some true ∈ _ by decide +kernel)
  refine (reportsExpired_iff (F := .closingWith (.ok ())) (Poll.isRun_scripted _ _ _) (.inl hqueue)
    (cleanupConfirmed_closingWith _)).mpr ⟨hqueue, fun hfails ↦ ?_⟩
  have hnone : ∀ x ∈ expiredAtQueue.trace.map failedTransaction, x = none := by decide +kernel
  cases hnone _ hfails.mem

end RmaPortal
