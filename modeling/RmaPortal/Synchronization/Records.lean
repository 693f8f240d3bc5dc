import RmaPortal.Synchronization.Endings

/-!
# The three records of a poll

A poll says how it went in three places: the `SyncResult` that its caller gets, its row of
`poll_runs`, and the account.  They are written at different times and on different paths, and an
exception in between may override what has been worked out before.

## What is here

* `AccountAgrees`, `RunAgrees`, `RecordsAgree` — what is to agree.  A skipped poll has no row, any
  other exactly one; status, counters and message of the row are those of the result; and the
  account shows the status of the session and when it was last polled.
* `Poll.Orderly` — what is taken for granted of a poll.  Nobody cancels it; the database fails at
  most in the transactions that prepare the poll or do its work; and whatever the reader raises is
  an `Exception`, but for a close that runs into its timeout.
* `AccountAgrees.of_standing`, `Recorded.agree` — the books of `Synchronization.Books` say the
  same as the caller is told.
* `Poll.Orderly.not_unstarted` — an orderly poll is not stopped before it could record anything.
* `records_agree` — the three records agree, on every path.
* `overriddenPoll`, `records_agree_overridden` — a poll that sees a dossier for the first time,
  cannot read its details, and whose close runs into its timeout.  What it returns is not what its
  body has come to, and still all three records say it.

What happens to the records of a poll that is cancelled is in `Synchronization.Unfinished`, and
what becomes of the counters in `Synchronization.Counters`.
-/

set_option autoImplicit false

open Coroutine

namespace RmaPortal

open SyncAgreementQueue

/-! ## What is to agree -/

/-- The account shows how the poll of the row `run` went, which was closed at `completedAt`. -/
structure AccountAgrees (run : PollRun) (completedAt : Datetime) (old new : PortalAccount) :
    Prop where
  lastError : new.lastError = run.error
  ready : run.status = .complete ∨ run.status = .partialRead → new.sessionStatus = .ready
  authRequired : run.status = .authRequired → new.sessionStatus = .authRequired
  failed : run.status = .failed → new.sessionStatus = .error
  success : run.status = .complete → new.lastSuccessAt = some completedAt
  noSuccess : run.status ≠ .complete → new.lastSuccessAt = old.lastSuccessAt

/-- The row of a poll shows what its caller is told. -/
structure RunAgrees (run : PollRun) (result : SyncResult) : Prop where
  status : result.status = some run.status
  rowsSeen : result.rowsSeen = run.rowsSeen
  pagesSeen : result.pagesSeen = run.pagesSeen
  detailsFailed : result.detailsFailed = run.detailsFailed
  error : result.error = run.error

/-- The three records of a poll agree: a skipped poll has no row, any other exactly one. -/
def RecordsAgree (accountId : ℕ) (before after : Database) (result : SyncResult) : Prop :=
  if result.skipped then after.pollRuns = before.pollRuns
  else ∃ run completedAt old new, after.pollRuns.rows = before.pollRuns.rows ++ [run] ∧
    run.completedAt = some completedAt ∧ RunAgrees run result ∧
    before.portalAccounts.find? accountId = some old ∧
    after.portalAccounts.find? accountId = some new ∧ AccountAgrees run completedAt old new

/-- What is taken for granted of a poll.  Of the database: it fails at most in the transactions that
prepare the poll or do its work.  Of the reader: it is opened or locked, and whatever it raises is
an `Exception`, so that nobody cancels the poll; only the close may run into its timeout. -/
structure Poll.Orderly {H : Type} (F : PortalReaderFactory H) (p : Poll) : Prop where
  account : PortalAccountRepository.getDefault p.before ≠ none
  database : ∀ tx, Fails tx p.trace → tx = .pollStart ∨ tx = .reconciliation ∨ tx = .detailSave
  savedSession : ∀ e, ¬F.Makes (execute F) p.trace (.savedSession (.error e))
  opened : ∀ e, F.Makes (execute F) p.trace (.opened (.error e)) →
    ∃ message, e = .browserProfileLockedError message
  entered : ∀ e, F.Makes (execute F) p.trace (.entered (.error e)) → e.isException = true
  read : ∀ q e, (⟨.reader q, .error e⟩ : Happening) ∈ p.trace → e.isException = true
  closed : ∀ reader e, F.Makes (execute F) p.trace (.entered (.ok reader)) →
    F.Makes (execute F) p.trace (.closed reader (.error e)) →
    e.isException = true ∨ e = .cancelledError true

/-! ## They do -/

theorem closeConfirmed_ok {closed : Except Exn Unit}
    (h : ∀ e, closed = .error e → e.isException = true ∨ e = .cancelledError true) :
    ∃ cleanupOk, closeConfirmed closed = .ok cleanupOk := by
  cases closed with
  | ok x => exact ⟨true, rfl⟩
  | error e =>
    refine ⟨false, ?_⟩
    obtain he | rfl := h e rfl
    · cases e <;> first | rfl | cases he
    · rfl

/-- An account whose standing has been brought up to date. -/
theorem AccountAgrees.of_standing {old new : PortalAccount} {o : PollRunRepository.Outcome}
    (run : PollRun) (h : new.standing = old.standing.after o) :
    AccountAgrees (run.finished o) o.completedAt old new := by
  have herror : new.lastError = o.error := congrArg Standing.lastError h
  have hstatus : new.sessionStatus = PortalAccountRepository.sessionStatusOf o.status :=
    congrArg Standing.sessionStatus h
  have hsuccess : new.lastSuccessAt =
      if o.status = .complete then some o.completedAt else old.lastSuccessAt :=
    congrArg Standing.lastSuccessAt h
  have hfinished : (run.finished o).status = o.status := rfl
  refine ⟨herror, ?_, ?_, ?_, ?_, ?_⟩ <;> rw [hfinished]
  · rintro (h | h) <;>
    · rw [hstatus, h]
      rfl
  · intro h
    rw [hstatus, h]
    rfl
  · intro h
    rw [hstatus, h]
    rfl
  · intro h
    rw [hsuccess, if_pos h]
  · intro h
    rw [hsuccess, if_neg h]

/-- What the books say is what the caller is told. -/
theorem Recorded.agree {account : PortalAccount} {o : PollRunRepository.Outcome}
    {before after : Database} {result : SyncResult}
    (haccount : PortalAccountRepository.getDefault before = some account)
    (h : Recorded account.id o before after) (hskipped : result.skipped = false)
    (hresult : ∀ run : PollRun, RunAgrees (run.finished o) result) :
    RecordsAgree account.id before after result := by
  rw [RecordsAgree, hskipped, if_neg Bool.false_ne_true]
  obtain ⟨run, -, hrows⟩ := h.rows
  have hfind : before.portalAccounts.find? account.id = some account := Table.find?_first haccount
  have hstanding := h.standing account.id
  rw [if_pos rfl, Database.standing, Database.standing, hfind] at hstanding
  cases hnew : after.portalAccounts.find? account.id with
  | none =>
    rw [hnew] at hstanding
    cases hstanding
  | some new =>
    rw [hnew] at hstanding
    exact ⟨run.finished o, o.completedAt, account, new, hrows, rfl, hresult run, hfind, rfl,
      .of_standing run (Option.some.inj hstanding)⟩

section Agreement

variable {H : Type} {F : PortalReaderFactory H} {p : Poll}

/-- An orderly poll is not stopped before it could record anything. -/
theorem Poll.Orderly.not_unstarted {e : Exn} (h : p.Orderly F) :
    ¬Unstarted (F.Makes (execute F) p.trace) (fun tx ↦ Fails tx p.trace) p.before e := by
  intro hunstarted
  cases hunstarted with
  | noAccount hnone => exact h.account hnone
  | lookup _ hfails => simpa using h.database _ hfails
  | savedSession hmade => exact h.savedSession e hmade
  | opening hmade hlocked =>
    obtain ⟨message, rfl⟩ := h.opened e hmade
    exact hlocked message rfl
  | entering hmade he =>
    rw [h.entered e hmade] at he
    cases he

/-- **The three records of a poll agree.** -/
theorem records_agree (hrun : p.IsRun F) (hlead : p.Leads) (horderly : p.Orderly F) :
    ∃ account result, PortalAccountRepository.getDefault p.before = some account ∧
      p.outcome = .ok result ∧ RecordsAgree account.id p.before p.after result := by
  obtain ⟨account, haccount⟩ := Option.ne_none_iff_exists'.mp horderly.account
  have hconfirmed {reader : H} {closed : Except Exn Unit}
      (hentered : F.Makes (execute F) p.trace (.entered (.ok reader)))
      (hmade : F.Makes (execute F) p.trace (.closed reader closed)) (e : Exn) :
      closeConfirmed closed ≠ .error e := by
    obtain ⟨cleanupOk, hok⟩ := closeConfirmed_ok fun e (he : closed = .error e) ↦
      horderly.closed reader e hentered (he ▸ hmade)
    simp [hok]
  have hended := Poll.ended hrun hlead
  generalize p.outcome = o at hended ⊢
  generalize p.after = after at hended ⊢
  cases hended with
  | skipped reason hobs => exact ⟨account, _, haccount, rfl, rfl⟩
  | unstarted hobs h => exact absurd h horderly.not_unstarted
  | failed haccount hobs hrecorded hsame =>
    exact ⟨_, _, haccount, rfl, hrecorded.agree haccount rfl fun run ↦ ⟨rfl, rfl, rfl, rfl, rfl⟩⟩
  | unrecorded e hobs hfails => simpa using horderly.database _ hfails
  | uncleared hobs hentered hclosed he => exact absurd he (hconfirmed hentered hclosed _)
  | polled haccount hopened heffect hreport hentered hclosed hok hrecorded hsame =>
    exact ⟨_, _, haccount, rfl, hrecorded.agree haccount rfl fun run ↦ ⟨rfl, rfl, rfl, rfl, rfl⟩⟩
  | cutOff haccount hopened hreport hbooks hentered hclosed hcause =>
    exfalso
    obtain ⟨e, rfl⟩ | ⟨e, he⟩ | hfails := hcause
    · obtain ⟨he, q, hmem⟩ := hreport.cut
      rw [horderly.read q e hmem] at he
      cases he
    · exact hconfirmed hentered hclosed e he
    · simpa using horderly.database _ hfails

end Agreement

/-! ## A poll they agree on -/

/-- A reader that opens whenever it is asked to, and closes with the outcome `closing`. -/
def PortalReaderFactory.closingWith (closing : Except Exn Unit) : PortalReaderFactory Unit where
  hasSavedSession := pure true
  openReader := pure ()
  aenter := pure ()
  aexit _ := outcome closing
  hasSavedSession_portal := only_pure _
  openReader_portal := only_pure _
  aenter_portal := only_pure _
  aexit_portal _ := trivial

theorem Calls.eq_of_done {α β : Type} {c : Prog α} {t : List Happening} {o o' : Except Exn β}
    (h : Calls c t (.done o) o') : o' = o := by
  obtain ⟨t₁, t₂, t₃, k, -, -, -, ho, -⟩ := h
  exact ho

/-- Whether a request to the database failed. -/
def failedTransaction : Happening → Option Transaction
  | ⟨.uow q, .error _⟩ => some q.transaction
  | _ => none

theorem Fails.mem {tx : Transaction} {t : List Happening} (h : Fails tx t) :
    some tx ∈ t.map failedTransaction := by
  obtain ⟨q, e, rfl, hmem⟩ := h
  exact List.mem_map.mpr ⟨_, hmem, rfl⟩

/-- What the reader raised. -/
def raisedByReader : Happening → Option Exn
  | ⟨.reader _, .error e⟩ => some e
  | _ => none

/-- A poll that sees a dossier for the first time, cannot read its details, and whose close runs
into its timeout. -/
def overriddenPoll : Poll :=
  .scripted (.closingWith (.error (.cancelledError true))) (.ofAccount (.unpolled 1))
    (.shows [.ofStatus "a" "open"])

theorem orderly_overriddenPoll :
    overriddenPoll.Orderly (.closingWith (.error (.cancelledError true))) where
  account := by decide +kernel
  database tx h := by
    have hnone : ∀ x ∈ overriddenPoll.trace.map failedTransaction, x = none := by decide +kernel
    cases hnone _ h.mem
  savedSession e h := by cases Calls.eq_of_done h
  opened e h := by cases Calls.eq_of_done h
  entered e h := by cases Calls.eq_of_done h
  read q e h := by
    have hall : ((overriddenPoll.trace.filterMap raisedByReader).all Exn.isException) = true := by
      decide +kernel
    exact List.all_eq_true.mp hall e (List.mem_filterMap.mpr ⟨_, h, rfl⟩)
  closed reader e _ h := by
    cases Calls.eq_of_done h
    exact .inr rfl

theorem records_agree_overridden :
    ∃ account result, PortalAccountRepository.getDefault overriddenPoll.before = some account ∧
      overriddenPoll.outcome = .ok result ∧
      RecordsAgree account.id overriddenPoll.before overriddenPoll.after result :=
  records_agree (Poll.isRun_scripted _ _ _) (Poll.leads_scripted _ _ _) orderly_overriddenPoll

end RmaPortal
