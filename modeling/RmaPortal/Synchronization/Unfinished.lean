import RmaPortal.Synchronization.Records

/-!
# Unfinished poll records

The row of a poll is committed when the poll starts and finished when it ends.  In between the
poll waits for the portal, again and again, and what is raised there and is no `Exception` passes
every `except` clause: the poll ends without finishing its row.  A cancellation is the case in
point, which is how the scheduler is stopped.

## What is here

* `Database.AllFinished` — every row of `poll_runs` has its `completed_at`.
* `PollSequence` — polls in a row, from one state of the database to another.  Nothing else writes
  to `poll_runs`.
* `Poll.Interrupted` — the poll was answered with something that is no `Exception`, and not by its
  own bound on closing the browser.  The condition is on the answers of the portal and of the
  clock.
* `Poll.allFinished_after` — one poll leaves no row unfinished, unless it is interrupted.  What is
  recorded of a poll is known from `Synchronization.Books`; what remains is that a poll which is
  not interrupted gets to the place where it is recorded.
* `finished_of_uninterrupted` — any number of polls: as long as none of them is interrupted, every
  row is finished, between them and after the last one.
* `not_allFinished`, `finished_of_uninterrupted_overridden` — a poll that is cancelled while it
  reads the queue, and one whose close runs into its own timeout.
-/

set_option autoImplicit false

open Coroutine

namespace RmaPortal

open SyncAgreementQueue

/-- Every row of `poll_runs` has its `completed_at`. -/
def Database.AllFinished (db : Database) : Prop :=
  ∀ run ∈ db.pollRuns.rows, run.completedAt.isSome = true

/-- Polls in a row, from `db` to `db'`.  Nothing else writes to `poll_runs`. -/
inductive PollSequence {H : Type} (F : PortalReaderFactory H) :
    Database → List Poll → Database → Prop
  /-- No poll. -/
  | nil (db : Database) : PollSequence F db [] db
  /-- One poll more. -/
  | concat {db mid : Database} {ps : List Poll} {p : Poll} (h : PollSequence F db ps mid)
      (hbetween : p.before.pollRuns = mid.pollRuns) (hrun : p.IsRun F) :
      PollSequence F db (ps ++ [p]) p.after

/-- Something that is no `Exception` is raised while the poll waits: for what it reads, or for the
close of its reader, unless that is the close's own timeout. -/
def Poll.Interrupted {H : Type} (F : PortalReaderFactory H) (p : Poll) : Prop :=
  (∃ q e, (⟨.reader q, .error e⟩ : Happening) ∈ p.trace ∧ e.isException = false) ∨
    ∃ reader e, F.Makes (execute F) p.trace (.entered (.ok reader)) ∧
      F.Makes (execute F) p.trace (.closed reader (.error e)) ∧ e.isException = false ∧
      e ≠ .cancelledError true

/-! ## One poll -/

theorem Database.AllFinished.of_recorded {accountId : ℕ} {o : PollRunRepository.Outcome}
    {before after : Database} (h : before.AllFinished)
    (hrecorded : Recorded accountId o before after) : after.AllFinished := by
  obtain ⟨run, -, hrows⟩ := hrecorded.rows
  intro row hrow
  rw [hrows] at hrow
  rcases List.mem_append.mp hrow with hrow | hrow
  · exact h row hrow
  · rw [List.mem_singleton.mp hrow]
    rfl

section Poll

variable {H : Type} {F : PortalReaderFactory H} {p : Poll}

/-- A close that was cut off was cut off by something that is no `Exception`. -/
theorem closeConfirmed_error {closed : Except Exn Unit} {e : Exn}
    (h : closeConfirmed closed = .error e) :
    closed = .error e ∧ e.isException = false ∧ e ≠ .cancelledError true := by
  unfold closeConfirmed at h
  split at h
  · cases h
  · cases h
  · rename_i e' hne
    split at h
    · cases h
    · rename_i he
      cases h
      exact ⟨rfl, by simpa using he, fun heq ↦ hne heq⟩

/-- **One poll** leaves no row unfinished, unless it is interrupted. -/
theorem Poll.allFinished_after (hrun : p.IsRun F) (hbefore : p.before.AllFinished)
    (hfinish : ¬Fails .pollFinish p.trace) (hinterrupted : ¬p.Interrupted F) :
    p.after.AllFinished := by
  obtain hlead | ⟨result, -, -, hsame⟩ := Poll.leads_or_joins hrun
  · have hended := Poll.ended hrun hlead
    generalize p.outcome = o at hended
    generalize p.after = after at hended ⊢
    cases hended with
    | skipped reason hobs => exact hbefore
    | unstarted hobs h => exact hbefore
    | failed haccount hobs hrecorded hsame => exact hbefore.of_recorded hrecorded
    | unrecorded e hobs h => exact hbefore
    | uncleared hobs hentered hclosed he => exact hbefore
    | polled haccount hopened heffect hreport hentered hclosed hok hrecorded hsame =>
      exact hbefore.of_recorded hrecorded
    | cutOff haccount hopened hreport hbooks hentered hclosed hcause =>
      exfalso
      obtain ⟨e, rfl⟩ | ⟨e, he⟩ | hfails := hcause
      · obtain ⟨he, q, hmem⟩ := hreport.cut
        exact hinterrupted (.inl ⟨q, e, hmem, he⟩)
      · obtain ⟨rfl, he, htimeout⟩ := closeConfirmed_error he
        exact hinterrupted (.inr ⟨_, e, hentered, hclosed, he, htimeout⟩)
      · exact hfinish hfails
  · rwa [hsame]

/-! ## Any number of polls -/

/-- **When no poll record is left unfinished**: as long as no poll is interrupted.  Between the
polls, and after the last one, every row is finished. -/
theorem finished_of_uninterrupted {db db' : Database} {ps : List Poll}
    (h : PollSequence F db ps db') (hstart : db.AllFinished)
    (hfinish : ∀ p ∈ ps, ¬Fails .pollFinish p.trace)
    (hinterrupted : ∀ p ∈ ps, ¬p.Interrupted F) :
    db'.AllFinished ∧ ∀ p ∈ ps, p.before.AllFinished ∧ p.after.AllFinished := by
  induction h with
  | nil => exact ⟨hstart, by simp⟩
  | @concat mid ps p h hbetween hrun ih =>
    obtain ⟨hmid, hall⟩ := ih (fun q hq ↦ hfinish q (by simp [hq]))
      fun q hq ↦ hinterrupted q (by simp [hq])
    have hbefore : p.before.AllFinished := by
      rw [Database.AllFinished, hbetween]
      exact hmid
    have hafter := Poll.allFinished_after hrun hbefore (hfinish p (by simp))
      (hinterrupted p (by simp))
    refine ⟨hafter, fun q hq ↦ ?_⟩
    rcases List.mem_append.mp hq with hq | hq
    · exact hall q hq
    · rw [List.mem_singleton.mp hq]
      exact ⟨hbefore, hafter⟩

end Poll

/-! ## Two polls -/

/-- A poll that is cancelled while it reads the queue, as it is when the application stops. -/
def cancelledPoll : Poll :=
  .scripted (.closingWith (.ok ())) (.ofAccount (.unpolled 1))
    { queue := .error (.cancelledError false) }

/-- Its row stays unfinished. -/
theorem not_allFinished :
    ¬∀ db ps db', PollSequence (.closingWith (.ok ())) db ps db' → db.AllFinished →
      (∀ p ∈ ps, ∀ tx, ¬Fails tx p.trace) → db'.AllFinished := by
  intro h
  have hnone : ∀ x ∈ cancelledPoll.trace.map failedTransaction, x = none := by decide +kernel
  have hunfinished : ¬cancelledPoll.after.AllFinished := by
    unfold Database.AllFinished
    decide +kernel
  refine hunfinished (h (.ofAccount (.unpolled 1)) [cancelledPoll] _
    (.concat (.nil _) rfl (Poll.isRun_scripted _ _ _)) (by rintro _ ⟨⟩) fun p hp tx hfails ↦ ?_)
  rw [List.mem_singleton.mp hp] at hfails
  cases hnone _ hfails.mem

/-- A poll whose close runs into its own timeout finishes its row. -/
theorem finished_of_uninterrupted_overridden : overriddenPoll.after.AllFinished := by
  refine (finished_of_uninterrupted (F := .closingWith (.error (.cancelledError true)))
    (.concat (.nil (.ofAccount (.unpolled 1))) rfl (Poll.isRun_scripted _ _ _) :
      PollSequence _ _ [overriddenPoll] _) (by rintro _ ⟨⟩) (fun p hp hfails ↦ ?_) fun p hp ↦ ?_).1
  · rw [List.mem_singleton.mp hp] at hfails
    simpa using orderly_overriddenPoll.database _ hfails
  · rw [List.mem_singleton.mp hp]
    rintro (⟨q, e, hmem, he⟩ | ⟨reader, e, -, hclosed, -, he⟩)
    · rw [orderly_overriddenPoll.read q e hmem] at he
      cases he
    · cases Calls.eq_of_done hclosed
      exact he rfl

end RmaPortal
