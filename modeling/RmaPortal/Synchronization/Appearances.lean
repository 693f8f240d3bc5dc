import RmaPortal.Synchronization.Mirror
import RmaPortal.Synchronization.Notifications

/-!
# Appearances

A record appears when a poll sees it that was not in the queue, once the baseline has been
completed.  This goes by what polls have found alone, not by what the database holds.

## What is here

* `Appears` — after some polls, a record appears with what is found next.  Whether a record is in
  the queue is known from the polls: it has been seen, and not been missed too often since.
* `appearances` — how often a record has appeared; `appearances_concat` is one poll more.
* `Polls.notified_eq_appearances` — there is one notification for each appearance.
* `Step.findings` — what a step of a poll finds: nothing, or what the poll had been looking for.
  A poll finds something once, in the step in which it commits its reconciliation, and what it has
  found it does not find again (`finding_append_of_some`).
* `Appeared`, `Step.appearances`, `Step.appeared_iff` — so an appearance belongs to a step of a
  run in which employees are at work, too, and that step raises the notification.
* `Lone.notified_eq` — one notification for each appearance, whatever employees have done.
-/

set_option autoImplicit false

open Coroutine

namespace RmaPortal

open SyncAgreementQueue

/-- After some polls, a record appears with what is found next. -/
def Appears (fs : List Finding) (f : Finding) (r : String) : Prop :=
  fs.any Finding.completes = true ∧ (f.rowOf r).isSome = true ∧ ¬∃ row, Queued fs r row

theorem not_appears_none (fs : List Finding) (r : String) : ¬Appears fs none r := by
  rintro ⟨-, hrow, -⟩
  cases hrow

open Classical in
/-- How often a record has appeared. -/
noncomputable def appearances (r : String) (fs : List Finding) : ℕ :=
  (List.range fs.length).countP fun i ↦ decide (∃ f, fs[i]? = some f ∧ Appears (fs.take i) f r)

section

variable {r : String} {fs : List Finding} {f : Finding}

open Classical in
theorem appearances_concat : appearances r (fs ++ [f]) =
    appearances r fs + if Appears fs f r then 1 else 0 := by
  rw [appearances, List.length_append, List.length_singleton, List.range_succ, List.countP_append,
    List.countP_singleton, List.getElem?_concat_length, List.take_left]
  congr 1
  · refine List.countP_congr fun i hi ↦ ?_
    have hi : i < fs.length := List.mem_range.mp hi
    rw [List.getElem?_append_left hi, List.take_append_of_le_length hi.le]
  · simp

theorem appearances_concat_none : appearances r (fs ++ [none]) = appearances r fs := by
  rw [appearances_concat, if_neg (not_appears_none fs r), Nat.add_zero]

end

section

variable {H : Type} {F : PortalReaderFactory H} {p : Poll} {db db' : Database} {ps : List Poll}
  {accountId : ℕ} {r : String}

theorem Poll.saw_eq (p : Poll) (r : String) : p.saw r = (p.rowOf r).isSome := by
  cases hreport : p.report with
  | none => simp [Poll.saw, Poll.seen, Poll.rowOf, hreport]
  | some x => rw [Poll.saw_iff hreport, Poll.rowOf_eq hreport]

/-- **There is one notification for each appearance.** -/
theorem Polls.notified_eq_appearances (h : Polls F db ps db')
    (hbase : db.baseline = some (accountId, none)) (hnone : ∀ r, db.dossier accountId r = none) :
    db'.notified accountId r = appearances r (findings ps) := by
  induction h with
  | nil =>
    rw [Database.notified, hnone]
    rfl
  | @concat mid ps p h hbetween hrun ih =>
    obtain ⟨account, hacc, hpair⟩ :=
      Option.map_eq_some_iff.mp (hbetween.baseline.trans (h.baseline_eq hbase))
    obtain ⟨rfl, hcompleted⟩ := Prod.mk.inj hpair
    have hdefault : defaultId db = some account.id := by
      have hfst := congrArg (Option.map Prod.fst) hbase
      rwa [Database.baseline, Option.map_map] at hfst
    have hqueued : (p.before.dossier account.id r).all (fun d ↦ !d.active) = true ↔
        ¬∃ row, Queued (findings ps) r row := by
      rw [← h.active_iff hdefault (.inl hnone) r, Database.dossier, hbetween.dossiers]
      change (mid.dossier account.id r).all _ = true ↔ _
      cases mid.dossier account.id r <;> simp
    have happears : (account.baselineCompletedAt.isSome && p.appearance account.id r) = true ↔
        Appears (findings ps) (finding p.trace) r := by
      rw [Bool.and_eq_true, Poll.appearance, Bool.and_eq_true, hqueued, Poll.saw_eq, hcompleted,
        Option.isSome_map, List.find?_isSome, Appears, rowOf_finding, findings, List.any_map,
        List.any_eq_true]
      rfl
    rw [findings, List.map_append, List.map_singleton, appearances_concat,
      Poll.notified_after hrun hacc, hbetween.notified, ih]
    congr 1
    split
    · rename_i hyes
      rw [happears.mpr hyes]
      rfl
    · rename_i hno
      rw [Bool.eq_false_iff.mpr (mt happears.mp hno)]
      rfl

end

/-! ## Steps -/

namespace Portal

variable {H : Type} {F : PortalReaderFactory H} {s s' : Portal} {db : Database} {accountId : ℕ}
  {r : String}

/-- What a poll has found it does not find again. -/
theorem finding_append_of_some {t t' : List Happening} {x : PollStatus × QueueSnapshot}
    (h : finding t = some x) : finding (t ++ t') = some x := by
  rw [finding] at h ⊢
  split at h
  · rename_i answer rest hobs
    rw [observed_append, hobs]
    exact h
  · cases h

/-- **What a step of a poll finds**: nothing, or what the poll had been looking for. -/
theorem Step.findings (h : Step F .poll s s') :
    s'.findings = s.findings ∨ s'.findings = s.findings ++ [none] ∨
      ∃ init f, s.findings = init ++ [none] ∧ s'.findings = init ++ [f] := by
  cases h with
  | begins => exact .inr (.inl (by simp [Portal.findings, traces, finding, observed]))
  | ends => exact .inl (by simp [Portal.findings, traces])
  | @asks w finished t q k b =>
    have hsplit : ∀ w t c, Portal.findings ⟨w, finished, some (t, c)⟩ =
        finished.map finding ++ [finding t] := fun _ _ _ ↦ by simp [Portal.findings, traces]
    rw [hsplit, hsplit]
    cases hfound : finding t with
    | none => exact .inr (.inr ⟨_, _, rfl, rfl⟩)
    | some x => exact .inl (by rw [finding_append_of_some hfound])

/-- In a step of a poll a record appears. -/
def Appeared (r : String) (s s' : Portal) : Prop :=
  ∃ init f, s.findings = init ++ [none] ∧ s'.findings = init ++ [f] ∧ Appears init f r

/-- A step in which a record appears counts, and no other step of a poll. -/
theorem Step.appearances (h : Step F .poll s s') :
    (Appeared r s s' ∧ RmaPortal.appearances r s'.findings =
      RmaPortal.appearances r s.findings + 1) ∨
    (¬Appeared r s s' ∧ RmaPortal.appearances r s'.findings =
      RmaPortal.appearances r s.findings) := by
  by_cases happeared : Appeared r s s'
  · refine .inl ⟨happeared, ?_⟩
    obtain ⟨init, f, hs, hs', happears⟩ := happeared
    rw [hs, hs', appearances_concat_none, appearances_concat, if_pos happears]
  · refine .inr ⟨happeared, ?_⟩
    obtain heq | heq | ⟨init, f, hs, hs'⟩ := h.findings
    · rw [heq]
    · rw [heq, appearances_concat_none]
    · rw [hs, hs', appearances_concat_none, appearances_concat,
        if_neg fun happears ↦ happeared ⟨init, f, hs, hs', happears⟩, Nat.add_zero]

/-- There is one notification for each appearance, whatever employees have done. -/
theorem Lone.notified_eq (h : Lone F db s) (hbase : db.baseline = some (accountId, none))
    (hnone : ∀ r, db.dossier accountId r = none) :
    s.db.notified accountId r = RmaPortal.appearances r s.findings := by
  obtain ⟨ps, db', hpolls, hbetween, hfindings⟩ := h.exists_findings
  rw [hbetween.notified, hpolls.notified_eq_appearances hbase hnone, hfindings]

/-- **A step of a poll raises a notification of a record iff the record appears.** -/
theorem Step.appeared_iff (h : Step F .poll s s') (hs : Lone F db s)
    (hbase : db.baseline = some (accountId, none)) (hnone : ∀ r, db.dossier accountId r = none) :
    Appeared r s s' ↔ s.db.notified accountId r < s'.db.notified accountId r := by
  rw [hs.notified_eq hbase hnone, (hs.step h).notified_eq hbase hnone]
  obtain ⟨happeared, hcount⟩ | ⟨happeared, hcount⟩ := h.appearances
  · exact iff_of_true happeared (by omega)
  · exact iff_of_false happeared (by omega)

end Portal

end RmaPortal
