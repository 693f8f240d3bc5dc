import RmaPortal.Synchronization.Runs

/-!
# Polls without usable data

Most polls that go wrong do so before they have seen anything.  The account is disabled, or another
poll is in flight; the profile is locked, or the browser does not start; the session has expired, or
the queue cannot be read and no part of it can; or the transaction of the reconciliation is not
committed. None of these polls may change what the employees work with, however it is recorded that
they have failed.

The dataset is that: the dossiers with their dates, the work rows, the notes, the notifications with
their read marks, and whether there is a baseline.  What else there is in the database is the
account, of which a poll may change the session status and the times, and the records of polls.

## What is here

* `Poll.ReadNothing` — the queue was read, and there is nothing in the answer.  An answer with a
  part of the queue is not of this kind.
* `dataset_untouched` — by the effect of a poll (`Poll.effect`), which is one of two kinds: it has
  reconciled, and then it has read the queue and has committed; or the dataset is as it was.
-/

set_option autoImplicit false

open Coroutine

namespace RmaPortal

/-- The detail phase reads no queue. -/
theorem Enriched.queueRead_not_mem {queue : List Dossier} {obs : List PollEvent} {db db' : Database}
    (h : Enriched queue obs db db') (answer : Except Exn QueueSnapshot) :
    .queueRead answer ∉ obs := by
  induction h with
  | done db => simp
  | saved hsaved hrest ih => simpa using ih
  | cutShort d queue answer db => simp

/-- Reading the queue gave nothing that could be used: it raised something else than
`PortalPartialReadError`. -/
def Poll.ReadNothing (p : Poll) : Prop :=
  ∃ e, ⟨.reader .readAgreementQueue, .error e⟩ ∈ p.trace ∧
    ∀ message snapshot, e ≠ .portalPartialReadError message snapshot

/-- **A poll without usable data leaves the dataset untouched**, and one that is skipped the whole
database. -/
theorem dataset_untouched {H : Type} {F : PortalReaderFactory H} {p : Poll} (h : p.IsRun F)
    (hunusable : (∃ result, p.outcome = .ok result ∧ result.skipped = true) ∨
      (∀ e ∈ p.trace, e.1 ≠ .reader .readAgreementQueue) ∨ p.ReadNothing ∨
      ∀ a, ⟨.uow (.commit .reconciliation), .ok a⟩ ∉ p.trace) :
    SameDataset p.before p.after ∧
      ∀ result, p.outcome = .ok result → result.skipped = true → p.after = p.before := by
  obtain ⟨heffect, hskipped⟩ := Poll.effect h
  refine ⟨?_, hskipped⟩
  cases heffect with
  | untouched hobs hsame => exact hsame
  | @reconciled account answer status snapshot needing obs db₁ db₂ db₃ haccount hreport hobs
      hstarted hrec hen hfinished =>
    -- such a poll has read the queue and committed
    have hread : ⟨.reader .readAgreementQueue, answer⟩ ∈ p.trace := by
      obtain ⟨e, he, hobserve⟩ :=
        mem_of_mem_observed (show .queueRead answer ∈ observed p.trace by rw [hobs]; simp)
      rwa [eq_of_observe_queueRead hobserve] at he
    rcases hunusable with ⟨result, hresult, hskip⟩ | hnoread | ⟨e, he, hnot⟩ | hnocommit
    · rw [hskipped result hresult hskip]
      exact .refl p.before
    · exact absurd rfl (hnoread _ hread)
    · have hmem : .queueRead (.error e) ∈ observed p.trace :=
        List.mem_filterMap.mpr ⟨_, he, rfl⟩
      have hanswer : Except.error e = answer := by
        rw [hobs] at hmem
        simp only [List.mem_cons, PollEvent.queueRead.injEq, reduceCtorEq, false_or] at hmem
        exact hmem.resolve_right (hen.queueRead_not_mem _)
      rw [← hanswer] at hreport
      cases e with
      | portalPartialReadError message snapshot => exact absurd rfl (hnot message snapshot)
      | _ => cases hreport
    · obtain ⟨e, he, hobserve⟩ :=
        mem_of_mem_observed (show .reconciled ∈ observed p.trace by rw [hobs]; simp)
      obtain ⟨a, rfl⟩ := eq_of_observe_reconciled hobserve
      exact absurd he (hnocommit a)

/-! ## A session that expires -/

/-- Two polls, between which a dossier has come into the queue. -/
def polledPortal : Database :=
  let factory := camoufoxPortalReaderFactory .standard
  let first := Poll.scripted factory (.ofAccount (.unpolled 1)) (.shows [.ofStatus "a" "open"])
  (Poll.scripted factory first.after (.shows [.ofStatus "a" "open", .ofStatus "b" "open"])).after

/-- An employee has written a note, and has read what there was to read. -/
def portalInUse : Database :=
  { polledPortal with
    dossierNotes := ⟨[⟨1, 1, 1, "fini", default⟩], List.nodup_singleton _⟩
    notificationReads := ⟨[⟨1, 1, default⟩], List.nodup_singleton _⟩ }

/-- A poll that finds the session expired. -/
def expired : Poll :=
  Poll.scripted (camoufoxPortalReaderFactory .standard) portalInUse
    { queue := .error (.portalAuthRequiredError "login form") }

theorem portalInUse_rows : portalInUse.dossiers.rows.map Dossier.recordId = ["a", "b"] ∧
    portalInUse.notifications.rows.map Notification.dossierId = [2] := by
  decide +kernel

theorem readNothing_expired : expired.ReadNothing := by
  have hread : (observed expired.trace).head? =
      some (.queueRead (.error (.portalAuthRequiredError "login form"))) := rfl
  obtain ⟨e, he, hobserve⟩ := mem_of_mem_observed (List.mem_of_head? hread)
  rw [eq_of_observe_queueRead hobserve] at he
  exact ⟨_, he, by simp⟩

/-- What is there when the session expires is there afterwards. -/
theorem dataset_untouched_expired :
    (portalInUse.dossiers.rows.map Dossier.recordId = ["a", "b"] ∧
      portalInUse.notifications.rows.map Notification.dossierId = [2]) ∧
    SameDataset portalInUse expired.after ∧
      ∀ result, expired.outcome = .ok result → result.skipped = true →
        expired.after = portalInUse :=
  ⟨portalInUse_rows,
    dataset_untouched (Poll.isRun_scripted _ _ _) (.inr (.inr (.inl readNothing_expired)))⟩

end RmaPortal
