import RmaPortal.Synchronization.Runs

/-!
# Notifications and the baseline

A poll raises a notification for a record that it sees and that had no active dossier before it,
provided the baseline has been completed by an earlier poll.  The baseline is completed by the
first COMPLETE poll, and keeps that time for good.

## What is here

* `Database.notified`, `Database.baseline` — the two things that are counted and kept: how many
  notifications the dossier of a record has, and when the baseline was completed.
* `Poll.appearance` — the poll saw a record that had no dossier, or an inactive one.  This is
  about the queue that was read and the database before the poll.
* `notifications_reconcileRow`, `Poll.notified_after`, `Poll.baseline_after` — one poll: what it
  adds to the notifications of a record, and what it does to the baseline.
* `raises` — the poll of this number saw a record appear, and a COMPLETE poll came before it.
* `raises_append`, `countP_raises_append`, `Polls.notified_eq`, `Polls.baseline_eq` — the run, by
  induction on its polls; one poll more does not change what the others have raised.
* `notifications_once` — over any run of polls from an account without dossiers: the number of
  notifications of a record, the time of the baseline, and that a poll that finds a dossier active
  raises none for it.

`reappears` is a run in which a dossier is seen by a PARTIAL poll and by the first COMPLETE one,
goes away, and comes back: it has one notification.
-/

set_option autoImplicit false

open Coroutine

namespace RmaPortal

open SyncAgreementQueue

/-- How many notifications the dossier of a record has; none if there is no dossier. -/
def Database.notified (db : Database) (accountId : ℕ) (r : String) : ℕ :=
  (db.dossier accountId r).elim 0 fun d ↦ db.notificationCount d.id

/-- The default account's identifier, and when its baseline was completed. -/
def Database.baseline (db : Database) : Option (ℕ × Option Datetime) :=
  (PortalAccountRepository.getDefault db).map fun a ↦ (a.id, a.baselineCompletedAt)

/-- The poll saw a record that had no dossier, or an inactive one. -/
def Poll.appearance (accountId : ℕ) (r : String) (p : Poll) : Bool :=
  p.saw r && (p.before.dossier accountId r).all fun d ↦ !d.active

/-- The `i`-th poll of a run saw a record appear, and a COMPLETE poll came before it. -/
def raises (accountId : ℕ) (r : String) (ps : List Poll) (i : ℕ) : Bool :=
  (ps.take i).any Poll.completes && (ps[i]?).any (Poll.appearance accountId r)

/-- Whether a record whose dossier is tracked as `v` appears with a row. -/
def appears (row? : Option QueueRow) (v : Option Tracked) : Bool :=
  row?.isSome && v.all fun x ↦ !x.dossier.active

theorem notifications_reconcileRow {accountId : ℕ} {status : PollStatus} {baseline : Bool}
    {now : Datetime} (row? : Option QueueRow) (id : ℕ) (v : Option Tracked) :
    (reconcileRow accountId status baseline now row? id v).elim 0 Tracked.notifications =
      v.elim 0 Tracked.notifications + (baseline && appears row? v).toNat := by
  cases row? with
  | none =>
    have hno : ∀ v, (baseline && appears none v).toNat = 0 := fun v ↦ by simp [appears]
    cases v with
    | none => simp [reconcileRow, hno]
    | some x =>
      rw [hno, reconcileRow]
      split <;> rfl
  | some row =>
    cases v with
    | none => simp [reconcileRow, appears]
    | some x =>
      rw [reconcileRow]
      split
      · rename_i hactive
        simp [appears, hactive, Tracked.touch]
      · rename_i hactive
        simp [appears, hactive, Tracked.reactivate]

section

variable {H : Type} {F : PortalReaderFactory H} {p : Poll}

/-- **A poll raises a notification for what appears, if the baseline has been completed.** -/
theorem Poll.notified_after (hrun : p.IsRun F) {account : PortalAccount}
    (hacc : PortalAccountRepository.getDefault p.before = some account) (r : String) :
    p.after.notified account.id r = p.before.notified account.id r +
      (account.baselineCompletedAt.isSome && p.appearance account.id r).toNat := by
  cases hreport : p.report with
  | none =>
    have hsame := Poll.sameDataset hrun hreport
    have hsaw : p.saw r = false := by simp [Poll.saw, Poll.seen, hreport]
    simp only [Database.notified, Database.dossier, Database.notificationCount, hsame.dossiers,
      hsame.notifications, Poll.appearance, hsaw, Bool.false_and, Bool.and_false, Bool.toNat_false,
      Nat.add_zero]
  | some x =>
    obtain ⟨status, snapshot⟩ := x
    obtain ⟨account', needing, obs, mid, last, he⟩ := Poll.effective hrun hreport
    cases hacc.symm.trans he.getDefault
    obtain ⟨id, hrow⟩ := he.row r
    have helim : ∀ {α : Type} (o : Option α) (g : α → ℕ), (o.map g).getD 0 = o.elim 0 g :=
      fun o g ↦ by cases o <;> rfl
    have hafter := congrArg (fun o ↦ (o.map Prod.snd).getD 0) hrow
    rw [Option.map_map, Option.map_map, helim, helim] at hafter
    rw [Database.notified]
    refine hafter.trans ((notifications_reconcileRow _ id _).trans ?_)
    have happears : p.appearance account.id r =
        appears ((Table.ofList snapshot.rows : Table QueueRow.recordId).find? r)
          (unreconciled account.id p.before (account.id, r)) := by
      rw [Poll.appearance, Poll.saw_iff hreport, appears, unreconciled, Database.dossier]
      cases p.before.dossiers.byRecord.find? (account.id, r) <;> rfl
    rw [happears, unreconciled, Database.notified, Database.dossier]
    cases p.before.dossiers.byRecord.find? (account.id, r) <;> rfl

theorem Database.baseline_eq (db : Database) :
    db.baseline = Table.firstBy Prod.fst db.baselines := getDefault_baseline db

/-- **The baseline is completed by a COMPLETE poll, unless it has been before.** -/
theorem Poll.baseline_after (hrun : p.IsRun F) {accountId : ℕ} {completedAt : Option Datetime}
    (hbase : p.before.baseline = some (accountId, completedAt)) :
    p.after.baseline =
      some (accountId, completedAt.or (if p.completes then some p.startedAt else none)) := by
  cases hreport : p.report with
  | none =>
    have hcompletes : p.completes = false := by simp [Poll.completes, hreport]
    rw [Database.baseline_eq, (Poll.sameDataset hrun hreport).baselines, ← Database.baseline_eq,
      hbase, hcompletes, if_neg Bool.false_ne_true, Option.or_none]
  | some x =>
    obtain ⟨status, snapshot⟩ := x
    obtain ⟨account, needing, obs, mid, last, he⟩ := Poll.effective hrun hreport
    have hcompletes : p.completes = (status == .complete) := by simp [Poll.completes, hreport]
    have hpair : (account.id, account.baselineCompletedAt) = (accountId, completedAt) := by
      rw [Database.baseline, he.getDefault] at hbase
      exact Option.some.inj hbase
    obtain ⟨rfl, rfl⟩ := Prod.mk.inj hpair
    have hmap := @Table.firstBy_map _ _ Prod.fst Prod.fst (completeBaseline account.id p.startedAt)
      (fun x ↦ by rw [completeBaseline]; split <;> rfl) p.before.baselines
    rw [Database.baseline_eq] at hbase
    rw [Database.baseline_eq, he.baselines, he.reconciled.baselines, hcompletes]
    cases hb : account.baselineCompletedAt with
    | some t => simp [hbase, hb]
    | none =>
      cases hc : status == .complete with
      | false => simp [hbase, hb]
      | true =>
        simp only [Option.isSome_none, Bool.not_false, Bool.true_and, if_true, hmap, hbase, hb,
          Option.map_some, completeBaseline, and_self, Option.none_or]

/-! ## Runs -/

theorem Between.baseline {db db' : Database} (h : Between db db') : db'.baseline = db.baseline := by
  rw [Database.baseline_eq, Database.baseline_eq, h.baselines]

theorem Between.notified {db db' : Database} (h : Between db db') (accountId : ℕ) (r : String) :
    db'.notified accountId r = db.notified accountId r := by
  simp only [Database.notified, Database.dossier, Database.notificationCount, h.dossiers,
    h.notifications]

/-- The baseline is the time of the first COMPLETE poll. -/
theorem Polls.baseline_eq {db db' : Database} {ps : List Poll} (h : Polls F db ps db')
    {accountId : ℕ} (hbase : db.baseline = some (accountId, none)) :
    db'.baseline = some (accountId, (ps.find? Poll.completes).map Poll.startedAt) := by
  induction h with
  | nil => exact hbase
  | @concat mid ps p h hbetween hrun ih =>
    have hbefore := hbetween.baseline.trans ih
    rw [Poll.baseline_after hrun hbefore, List.find?_append, Option.map_or]
    cases hc : p.completes <;> simp [hc]

/-- One poll more does not change what the polls before it have raised. -/
theorem raises_append {accountId : ℕ} {r : String} {ps : List Poll} (p : Poll) {i : ℕ}
    (hi : i < ps.length) : raises accountId r (ps ++ [p]) i = raises accountId r ps i := by
  rw [raises, raises, List.take_append_of_le_length hi.le, List.getElem?_append_left hi]

theorem raises_last (accountId : ℕ) (r : String) (ps : List Poll) (p : Poll) :
    raises accountId r (ps ++ [p]) ps.length =
      (ps.any Poll.completes && p.appearance accountId r) := by
  rw [raises, List.take_left, List.getElem?_concat_length]
  rfl

theorem countP_raises_append (accountId : ℕ) (r : String) (ps : List Poll) (p : Poll) :
    (List.range (ps ++ [p]).length).countP (raises accountId r (ps ++ [p])) =
      (List.range ps.length).countP (raises accountId r ps) +
        (ps.any Poll.completes && p.appearance accountId r).toNat := by
  rw [List.length_append, List.length_singleton, List.range_succ, List.countP_append,
    List.countP_singleton, raises_last]
  congr 1
  · exact List.countP_congr fun i hi ↦ by rw [raises_append p (List.mem_range.mp hi)]
  · cases ps.any Poll.completes && p.appearance accountId r <;> rfl

/-- The number of notifications counts the appearances. -/
theorem Polls.notified_eq {db db' : Database} {ps : List Poll} (h : Polls F db ps db')
    {accountId : ℕ} (hbase : db.baseline = some (accountId, none)) {r : String}
    (hnone : db.dossier accountId r = none) :
    db'.notified accountId r = (List.range ps.length).countP (raises accountId r ps) := by
  induction h with
  | nil =>
    rw [Database.notified, hnone]
    rfl
  | @concat mid ps p h hbetween hrun ih =>
    obtain ⟨account, hacc, hpair⟩ :=
      Option.map_eq_some_iff.mp (hbetween.baseline.trans (h.baseline_eq hbase))
    obtain ⟨rfl, hcompleted⟩ := Prod.mk.inj hpair
    have hany : account.baselineCompletedAt.isSome = ps.any Poll.completes := by
      rw [hcompleted, Option.isSome_map, Bool.eq_iff_iff, List.find?_isSome, List.any_eq_true]
    rw [countP_raises_append, ← hany, Poll.notified_after hrun hacc, hbetween.notified, ih]

/-- A dossier that is active before a poll gets no notification from it. -/
theorem Poll.notified_of_active (hrun : p.IsRun F) {accountId : ℕ}
    (hacc : defaultId p.before = some accountId) {r : String}
    (hactive : (p.before.dossier accountId r).any Dossier.active = true) :
    p.after.notified accountId r = p.before.notified accountId r := by
  obtain ⟨account, haccount, rfl⟩ := Option.map_eq_some_iff.mp hacc
  have happearance : p.appearance account.id r = false := by
    obtain ⟨d, hd, hactive⟩ := (Option.any_eq_true _ _).mp hactive
    simp [Poll.appearance, hd, hactive]
  rw [Poll.notified_after hrun haccount, happearance, Bool.and_false]
  rfl

/-- **Notifications are raised once for each appearance after the baseline.**  In a run of polls
from an account without dossiers whose baseline is not completed, the notifications of a record
count the polls at which it appeared and before which some poll had been a COMPLETE one.  So up to
and including the first COMPLETE poll there are none, and a dossier that is active before a poll
gets none from it; and the baseline was completed when the first COMPLETE poll of the run began. -/
theorem notifications_once {db db' : Database} {ps : List Poll} (h : Polls F db ps db')
    {account : PortalAccount} (hacc : PortalAccountRepository.getDefault db = some account)
    (hbase : account.baselineCompletedAt = none)
    (hnone : ∀ r, db.dossier account.id r = none) (r : String) :
    db'.notified account.id r = (List.range ps.length).countP (raises account.id r ps) ∧
      ((∀ q ∈ ps.dropLast, q.completes = false) → db'.notified account.id r = 0) ∧
      (∀ p ∈ ps, (p.before.dossier account.id r).any Dossier.active = true →
        p.after.notified account.id r = p.before.notified account.id r) ∧
      (PortalAccountRepository.getDefault db').map (fun a ↦ (a.id, a.baselineCompletedAt)) =
        some (account.id, (ps.find? Poll.completes).map Poll.startedAt) := by
  have hbaseline : db.baseline = some (account.id, none) := by
    rw [Database.baseline, hacc, ← hbase]
    rfl
  have hcount := h.notified_eq hbaseline (hnone r)
  refine ⟨hcount, fun hfirst ↦ ?_, fun p hp hactive ↦ ?_, h.baseline_eq hbaseline⟩
  · rw [hcount, List.countP_eq_zero]
    intro i hi
    have hi : i < ps.length := List.mem_range.mp hi
    have hany : (ps.take i).any Poll.completes = false := by
      rw [List.any_eq_false]
      intro q hq
      have hle : i ≤ ps.length - 1 := by omega
      rw [Bool.not_eq_true]
      exact hfirst q (List.dropLast_eq_take ▸ List.take_subset_take_left ps hle hq)
    simp [raises, hany]
  · obtain ⟨hrun, hid⟩ := h.of_mem hp
    refine Poll.notified_of_active hrun ?_ hactive
    rw [hid, defaultId, hacc]
    rfl

end

/-- A dossier that is seen by a PARTIAL poll and by the first COMPLETE one, goes away, and comes
back. -/
def reappears : List Script :=
  [.showsSome [.ofStatus "a" "open"], .shows [.ofStatus "a" "open"], .shows [], .shows [],
    .shows [.ofStatus "a" "open"], .shows [.ofStatus "a" "open"]]

/-- It has one notification. -/
theorem notifications_once_reappears :
    (lastDatabase (.ofAccount (.unpolled 1)) (scriptedPolls
      (camoufoxPortalReaderFactory .standard) (.ofAccount (.unpolled 1)) reappears)).notified
        1 "a" = 1 := by
  have hpolls := polls_scripted (camoufoxPortalReaderFactory .standard)
    (.ofAccount (.unpolled 1)) reappears
  have hacc : PortalAccountRepository.getDefault (.ofAccount (.unpolled 1)) =
    some (.unpolled 1) := rfl
  exact (notifications_once hpolls hacc rfl (fun r ↦ rfl) "a").1.trans (by decide +kernel)

end RmaPortal
