import RmaPortal.Synchronization.Runs

/-!
# Captured dates and failed reads

Nothing that was captured is to be lost by a later failure.  But `save_details` overwrites the
dates of a dossier with whatever a read has given, and for a read that raised `DetailReadError`
that is nothing at all.  `dates_kept` says exactly when a poll keeps the dates of the dossiers it
could not read: if none of those whose failure it records had any.  In a run of such polls the
dates that are stored are those of the last read that succeeded.

## What is here

* `Database.dates` — the dates captured of a record, parsed ones and raw texts alike.
* `Poll.KeepsDates`, `Poll.FailsWithoutDates` — what is claimed of a poll, and the condition: of
  the dossiers whose failed read the poll records, no dates had been captured.  The condition is
  on the database before the poll and on what the reader and the commit have answered.
* `Poll.readDates`, `Poll.savedDates` — the dates a poll has read of a record, and those it has
  also saved.
* `reconcileRow_dates`, `readInto_of_failed` — the reconciliation leaves dates alone, and a failed
  read leaves nothing of them.
* `Poll.dates_after` — the dates after a poll: those read and committed, or else those before.
* `Poll.keepsDates_iff` — a poll keeps the dates if and only if the condition holds of it.
* `Polls.dates_eq` and `dates_kept` — the run, by induction on the polls: as long as they all meet
  the condition, the dates are those of the last read that succeeded and was saved.
* `not_dates_kept`, `dates_kept_failedThenRead` — a dossier that is read and then can not be read,
  and one for which it is the other way round.

Dossiers are never read without a reason, and a dossier with dates is read again when its status
changes; that is when the dates are in danger.
-/

set_option autoImplicit false

open Coroutine

namespace RmaPortal

open SyncAgreementQueue

/-- The dates captured of a record; none if there is no dossier. -/
def Database.dates (db : Database) (accountId : ℕ) (r : String) : DossierDates :=
  (db.dossier accountId r).elim {} Dossier.dates

/-- A dossier whose detail read raises `DetailReadError` keeps its dates. -/
def Poll.KeepsDates (accountId : ℕ) (p : Poll) : Prop :=
  ∀ e ∈ p.detailReads, e.failed = true →
    p.after.dates accountId e.ref.recordId = p.before.dates accountId e.ref.recordId

/-- Of the dossiers whose failed read the poll records, no dates had been captured. -/
def Poll.FailsWithoutDates (accountId : ℕ) (p : Poll) : Prop :=
  ∀ e ∈ p.detailReads, e.failed = true → e.saved = true →
    p.before.dates accountId e.ref.recordId = {}

/-- The dates a poll has read of a record. -/
def Poll.readDates (r : String) (p : Poll) : Option DossierDates :=
  (p.readOf r).bind fun e ↦ e.answer.toOption.map DossierDetails.dates

/-- The dates a poll has read of a record, and saved. -/
def Poll.savedDates (r : String) (p : Poll) : Option DossierDates :=
  (p.readOf r).bind fun e ↦ if e.saved then e.answer.toOption.map DossierDetails.dates else none

instance (accountId : ℕ) (p : Poll) : Decidable (p.KeepsDates accountId) :=
  inferInstanceAs (Decidable (∀ e ∈ p.detailReads, _ → _))

instance (accountId : ℕ) (p : Poll) : Decidable (p.FailsWithoutDates accountId) :=
  inferInstanceAs (Decidable (∀ e ∈ p.detailReads, _ → _ → _))

/-- The dates after a detail phase. -/
def readInto (e? : Option DetailRead) (dates : DossierDates) : DossierDates :=
  (e?.bind DetailRead.committed).elim dates DossierDetails.dates

theorem applyRead_dates (e? : Option DetailRead) (d : Dossier) :
    (applyRead e? d).dates = readInto e? d.dates := by
  rw [applyRead, readInto]
  cases e?.bind DetailRead.committed <;> rfl

/-- The reconciliation leaves dates alone. -/
theorem reconcileRow_dates {accountId : ℕ} {status : PollStatus} {baseline : Bool} {now : Datetime}
    {row? : Option QueueRow} {id : ℕ} {v : Option Tracked} {y : Tracked}
    (h : reconcileRow accountId status baseline now row? id v = some y) :
    y.dossier.dates = v.elim {} fun x ↦ x.dossier.dates := by
  cases v with
  | none =>
    obtain ⟨row, -, rfl⟩ := Option.map_eq_some_iff.mp h
    rfl
  | some x =>
    cases row? with
    | none =>
      rw [reconcileRow] at h
      rw [← Option.some.inj h]
      split <;> rfl
    | some row =>
      rw [reconcileRow] at h
      rw [← Option.some.inj h]
      split <;> rfl

section

variable {H : Type} {F : PortalReaderFactory H} {p : Poll}

/-- A poll that has not reconciled has read no details. -/
theorem Poll.detailReads_eq_nil (hrun : p.IsRun F) (hreport : p.report = none) :
    p.detailReads = [] := by
  cases (Poll.effect hrun).1 with
  | untouched hobs hsame =>
    rw [Poll.detailReads]
    rcases hobs with hobs | ⟨answer, hobs⟩ <;> rw [hobs] <;> rfl
  | reconciled haccount hrep hobs hstarted hrec hen hfinished =>
    rw [Poll.report_of_reconciled hobs, hrep] at hreport
    cases hreport

/-- A poll reads the details of dossiers that are there. -/
theorem Poll.dossier_of_read (hrun : p.IsRun F) {accountId : ℕ}
    (hacc : defaultId p.before = some accountId) {e : DetailRead} (he : e ∈ p.detailReads) :
    (∃ d, p.after.dossier accountId e.ref.recordId = some d) ∧
      p.readOf e.ref.recordId = some e := by
  cases hreport : p.report with
  | none =>
    rw [Poll.detailReads_eq_nil hrun hreport] at he
    cases he
  | some x =>
    obtain ⟨account, needing, obs, mid, last, heff⟩ := Poll.effective hrun hreport
    obtain rfl := heff.id_eq hacc
    refine ⟨?_, heff.readOf_of_mem he⟩
    obtain ⟨d, hd, href⟩ := heff.enriched.mem_queue (heff.detailReads_eq ▸ he)
    obtain ⟨m, hm, -⟩ := heff.queueIn.find? hd
    rw [href]
    exact ⟨_, (heff.byRecord d.recordId).trans (by rw [hm]; rfl)⟩

/-- **The dates after a poll**: those read and committed, or else those before. -/
theorem Poll.dates_after (hrun : p.IsRun F) {accountId : ℕ}
    (hacc : defaultId p.before = some accountId) (r : String) :
    p.after.dates accountId r = readInto (p.readOf r) (p.before.dates accountId r) := by
  cases hreport : p.report with
  | none =>
    rw [Poll.readOf, Poll.detailReads_eq_nil hrun hreport, Database.dates, Database.dossier,
      (Poll.sameDataset hrun hreport).dossiers]
    rfl
  | some x =>
    obtain ⟨account, needing, obs, mid, last, he⟩ := Poll.effective hrun hreport
    obtain rfl := he.id_eq hacc
    have hbefore : p.before.dates account.id r =
        (unreconciled account.id p.before (account.id, r)).elim {} fun x ↦ x.dossier.dates := by
      rw [Database.dates, Database.dossier, unreconciled]
      cases p.before.dossiers.byRecord.find? (account.id, r) <;> rfl
    cases hd : p.after.dossier account.id r with
    | some d =>
      obtain ⟨id, y, hview, hrow, rfl⟩ := he.dossier_after hd
      rw [Database.dates, hd, hbefore, ← reconcileRow_dates hrow]
      exact applyRead_dates _ _
    | none =>
      -- there was no dossier before, and there is nothing to read
      have hread : p.readOf r = none := by
        cases hread : p.readOf r with
        | none => rfl
        | some e =>
          have hmem : e ∈ p.detailReads := List.mem_of_find?_eq_some hread
          have hr : e.ref.recordId = r := by simpa using List.find?_some hread
          obtain ⟨⟨d, hd'⟩, -⟩ := Poll.dossier_of_read hrun hacc hmem
          rw [hr, hd] at hd'
          cases hd'
      obtain ⟨id, hrow⟩ := he.row r
      rw [hd] at hrow
      have hnone := Option.map_eq_none_iff.mp hrow.symm
      have hv : unreconciled account.id p.before (account.id, r) = none := by
        cases hv : unreconciled account.id p.before (account.id, r) with
        | none => rfl
        | some x =>
          obtain ⟨y, hy, -⟩ := reconcileRow_some _ _ _ _ _ id x
          rw [hv, hy] at hnone
          cases hnone
      rw [hread, Database.dates, hd, hbefore, hv]
      rfl

/-- What a failed read leaves of the dates. -/
theorem readInto_of_failed {e : DetailRead} (hfailed : e.failed = true) (dates : DossierDates) :
    readInto (some e) dates = if e.saved then {} else dates := by
  obtain ⟨message, hanswer⟩ := DetailRead.failed_iff.mp hfailed
  rw [readInto, Option.bind_some, DetailRead.committed, hanswer]
  split <;> rfl

/-- **When a poll keeps the dates of the dossiers it could not read**: if and only if it records the
failure only of dossiers without dates. -/
theorem Poll.keepsDates_iff (hrun : p.IsRun F) {accountId : ℕ}
    (hacc : defaultId p.before = some accountId) :
    p.KeepsDates accountId ↔ p.FailsWithoutDates accountId := by
  have hafter : ∀ e ∈ p.detailReads, e.failed = true →
      p.after.dates accountId e.ref.recordId =
        if e.saved then {} else p.before.dates accountId e.ref.recordId := by
    intro e he hfailed
    rw [Poll.dates_after hrun hacc, (Poll.dossier_of_read hrun hacc he).2,
      readInto_of_failed hfailed]
  constructor
  · intro hkeeps e he hfailed hsaved
    rw [← hkeeps e he hfailed, hafter e he hfailed, if_pos hsaved]
  · intro hempty e he hfailed
    rw [hafter e he hfailed]
    split
    · rename_i hsaved
      exact (hempty e he hfailed hsaved).symm
    · rfl

/-- A poll that only records failures of dossiers without dates changes dates by saving others. -/
theorem Poll.dates_after_of_failsWithoutDates (hrun : p.IsRun F) {accountId : ℕ}
    (hacc : defaultId p.before = some accountId) (hempty : p.FailsWithoutDates accountId)
    (r : String) :
    p.after.dates accountId r = (p.savedDates r).getD (p.before.dates accountId r) := by
  rw [Poll.dates_after hrun hacc, Poll.savedDates]
  cases hread : p.readOf r with
  | none => rfl
  | some e =>
    have hmem : e ∈ p.detailReads := List.mem_of_find?_eq_some hread
    have hr : e.ref.recordId = r := by simpa using List.find?_some hread
    rw [Option.bind_some]
    cases hfailed : e.failed with
    | true =>
      obtain ⟨message, hanswer⟩ := DetailRead.failed_iff.mp hfailed
      rw [readInto_of_failed hfailed, hanswer]
      split
      · rename_i hsaved
        rw [← hr, hempty e hmem hfailed hsaved]
        rfl
      · rfl
    | false =>
      rw [readInto, Option.bind_some, DetailRead.committed]
      cases hsaved : e.saved with
      | false => rfl
      | true =>
        rw [if_pos rfl, if_pos rfl]
        cases hanswer : e.answer with
        | ok details => rfl
        | error exc =>
          cases exc with
          | detailReadError message =>
            rw [DetailRead.failed, hanswer] at hfailed
            cases hfailed
          | _ => rfl

/-! ## Runs -/

/-- What the last poll to give something has given. -/
theorem findSome?_reverse_concat {α β : Type} (f : α → Option β) (l : List α) (x : α) (b : β) :
    ((l ++ [x]).reverse.findSome? f).getD b = (f x).getD ((l.reverse.findSome? f).getD b) := by
  rw [List.reverse_append, List.reverse_singleton, List.singleton_append, List.findSome?_cons]
  cases f x <;> rfl

theorem findSome?_congr_mem {α β : Type} {f g : α → Option β} {l : List α}
    (h : ∀ x ∈ l, f x = g x) : l.findSome? f = l.findSome? g := by
  induction l with
  | nil => rfl
  | cons x l ih =>
    rw [List.findSome?_cons, List.findSome?_cons, h x List.mem_cons_self,
      ih fun y hy ↦ h y (List.mem_cons_of_mem x hy)]

/-- In a run of polls that only record failures of dossiers without dates, the dates are those of
the last read that was saved. -/
theorem Polls.dates_eq {db db' : Database} {ps : List Poll} (h : Polls F db ps db')
    {accountId : ℕ} (hacc : defaultId db = some accountId) {r : String}
    (hnone : db.dossier accountId r = none) (hempty : ∀ p ∈ ps, p.FailsWithoutDates accountId) :
    db'.dates accountId r = (ps.reverse.findSome? (Poll.savedDates r)).getD {} := by
  induction h with
  | nil =>
    rw [Database.dates, hnone]
    rfl
  | @concat mid ps p h hbetween hrun ih =>
    have hacc' : defaultId p.before = some accountId := by
      rw [hbetween.defaultId_eq, h.defaultId_eq, hacc]
    have hbefore : p.before.dates accountId r = mid.dates accountId r := by
      rw [Database.dates, Database.dates, Database.dossier, hbetween.dossiers]
      rfl
    rw [Poll.dates_after_of_failsWithoutDates hrun hacc' (hempty p (by simp)), hbefore,
      ih fun q hq ↦ hempty q (List.mem_append_left _ hq), findSome?_reverse_concat]

/-- **Failed reads and captured dates.**  In a run of polls from an account without dossiers, a poll
keeps the dates of the dossiers whose details it could not read if and only if it records the
failure only of dossiers without dates.  If every poll is like that, the dates that are stored are
those of the last read that succeeded and was saved; and if besides every read that succeeded was
saved, they are those of the last read that succeeded. -/
theorem dates_kept {db db' : Database} {ps : List Poll} (h : Polls F db ps db') {accountId : ℕ}
    (hacc : defaultId db = some accountId) (hnone : ∀ r, db.dossier accountId r = none) :
    (∀ p ∈ ps, p.KeepsDates accountId ↔ p.FailsWithoutDates accountId) ∧
      ((∀ p ∈ ps, p.FailsWithoutDates accountId) → ∀ r,
        db'.dates accountId r = (ps.reverse.findSome? (Poll.savedDates r)).getD {} ∧
        ((∀ p ∈ ps, ∀ e ∈ p.detailReads, e.succeeded = true → e.saved = true) →
          db'.dates accountId r = (ps.reverse.findSome? (Poll.readDates r)).getD {})) := by
  refine ⟨fun p hp ↦ ?_, fun hempty r ↦ ?_⟩
  · obtain ⟨hrun, hid⟩ := h.of_mem hp
    exact Poll.keepsDates_iff hrun (hid.trans hacc)
  · have hdates := h.dates_eq hacc (hnone r) hempty
    refine ⟨hdates, fun hsaved ↦ ?_⟩
    have hsame : ∀ p ∈ ps.reverse, p.savedDates r = p.readDates r := by
      intro p hp
      rw [Poll.savedDates, Poll.readDates]
      cases hread : p.readOf r with
      | none => rfl
      | some e =>
        have hmem : e ∈ p.detailReads := List.mem_of_find?_eq_some hread
        rw [Option.bind_some, Option.bind_some]
        split
        · rfl
        · rename_i hnot
          have hfail : e.succeeded = false := Bool.eq_false_iff.mpr fun hs ↦
            hnot (hsaved p (List.mem_reverse.mp hp) e hmem hs)
          cases hanswer : e.answer with
          | ok details =>
            rw [DetailRead.succeeded, hanswer] at hfail
            cases hfail
          | error exc => rfl
    rw [hdates, findSome?_congr_mem hsame]

end

/-- A dossier's details are read; its status changes, and its detail page cannot be read. -/
def readThenFailed : List Script :=
  [.shows [.ofStatus "a" "open"] (.ok .quoted),
    .shows [.ofStatus "a" "closed"] (.error (.detailReadError "timeout"))]

/-- The second of these polls loses the quote date. -/
theorem not_dates_kept :
    ¬∀ (db db' : Database) (ps : List Poll) (accountId : ℕ),
      Polls (camoufoxPortalReaderFactory .standard) db ps db' → defaultId db = some accountId →
        (∀ r, db.dossier accountId r = none) → ∀ p ∈ ps, p.KeepsDates accountId := by
  intro h
  have hpolls := polls_scripted (camoufoxPortalReaderFactory .standard)
    (.ofAccount (.unpolled 1)) readThenFailed
  have hkeeps := h _ _ _ 1 hpolls rfl (fun r ↦ rfl) _
    (List.getElem_mem (n := 1) (by decide +kernel))
  revert hkeeps
  decide +kernel

/-- A dossier's detail page cannot be read at first. -/
def failedThenRead : List Script :=
  [.shows [.ofStatus "a" "open"] (.error (.detailReadError "timeout")),
    .shows [.ofStatus "a" "open"] (.ok .quoted)]

/-- Then the dates are those of the read that succeeded. -/
theorem dates_kept_failedThenRead :
    (lastDatabase (.ofAccount (.unpolled 1)) (scriptedPolls
        (camoufoxPortalReaderFactory .standard) (.ofAccount (.unpolled 1)) failedThenRead)).dates
          1 "a" =
      ((scriptedPolls (camoufoxPortalReaderFactory .standard) (.ofAccount (.unpolled 1))
        failedThenRead).reverse.findSome? (Poll.readDates "a")).getD {} := by
  have hpolls := polls_scripted (camoufoxPortalReaderFactory .standard)
    (.ofAccount (.unpolled 1)) failedThenRead
  exact ((dates_kept hpolls rfl fun r ↦ rfl).2 (by decide +kernel) "a").2 (by decide +kernel)

end RmaPortal
