import RmaPortal.Synchronization.Lifecycle

/-!
# What a poll that cannot read the whole queue does to absences

Only a COMPLETE poll is to touch the absence bookkeeping of active dossiers: the columns `active`
and `missing_complete_polls`.  `reconcile` keeps to that, but `touch` resets the counter of every
dossier a PARTIAL poll has seen.  So the rule holds of a poll exactly if no dossier that it resets
had anything to reset.

## What is here

* `Poll.QueueFailed` — reading the queue raised an exception: the poll can at best be a PARTIAL
  one.
* `Poll.KeepsAbsences` — every dossier that was active before the poll is still active after it,
  with the same number of absences.
* `Poll.SeesNoneMissed` — the condition, on the database before the poll and the queue that it has
  read: among the records seen there is none whose dossier is active and has been missed before.
* `reconcileRow_none_of_ne`, `Poll.presence_of_queueFailed` — what such a poll makes of one
  record.
* `Poll.find?_presence`, `Poll.presence_foreign` — the same of a dossier that is looked up by its
  identifier; dossiers of other accounts are not in question.
* `keepsAbsences_iff` — the equivalence.
* `not_keepsAbsences`, `keepsAbsences_seenTwice` — a dossier that is seen, missed by a COMPLETE
  poll and seen by a PARTIAL one; and one that is seen by a COMPLETE poll and at once again by a
  PARTIAL one.
-/

set_option autoImplicit false

open Coroutine

namespace RmaPortal

open SyncAgreementQueue

/-- Reading the queue raised an exception: the poll can at best be a PARTIAL one. -/
def Poll.QueueFailed (p : Poll) : Prop :=
  ∃ e obs, observed p.trace = .queueRead (.error e) :: obs

/-- Every dossier that was active before the poll is still active after it, with the same number of
absences. -/
def Poll.KeepsAbsences (p : Poll) : Prop :=
  ∀ d ∈ p.before.dossiers.rows, d.active = true →
    (p.after.dossiers.find? d.id).map (fun d' ↦ (d'.active, d'.missingCompletePolls)) =
      some (true, d.missingCompletePolls)

/-- The poll does not see an active dossier that has been missed before. -/
def Poll.SeesNoneMissed (p : Poll) : Prop :=
  ∀ accountId r d, defaultId p.before = some accountId → p.before.dossier accountId r = some d →
    d.active = true → d.missingCompletePolls ≠ 0 → p.saw r = false

instance (p : Poll) : Decidable p.KeepsAbsences :=
  inferInstanceAs (Decidable (∀ d ∈ p.before.dossiers.rows, _ → _))

/-- Only a COMPLETE poll misses anything. -/
theorem reconcileRow_none_of_ne {accountId : ℕ} {status : PollStatus} {baseline : Bool}
    {now : Datetime} {id : ℕ} (hstatus : status ≠ .complete) (v : Option Tracked) :
    reconcileRow accountId status baseline now none id v = v := by
  cases v with
  | none => rfl
  | some x => rw [reconcileRow, if_neg fun h ↦ hstatus h.2]

section

variable {H : Type} {F : PortalReaderFactory H} {p : Poll}

/-- The two ways to look up a dossier after a poll. -/
theorem Poll.Effective.find?_id {status : PollStatus} {snapshot : QueueSnapshot}
    {account : PortalAccount} {needing : Table Dossier.id} {obs : List PollEvent}
    {mid last : Database} (h : p.Effective status snapshot account needing obs mid last)
    {k : ℕ × String} {d : Dossier} (hd : p.before.dossiers.byRecord.find? k = some d) :
    p.after.dossiers.find? d.id = p.after.dossiers.byRecord.find? k := by
  have hkept : ∀ d', p.after.dossiers.byRecord.find? k = some d' → d'.id = d.id →
      p.after.dossiers.find? d.id = p.after.dossiers.byRecord.find? k := fun d' hd' hid ↦ by
    rw [← hid, DossierTable.find?_id_of_byRecord hd', hd']
  by_cases hk : k.1 = account.id
  · obtain ⟨a, r⟩ := k
    subst hk
    obtain ⟨id, hrow⟩ := h.row r
    have hbefore : unreconciled account.id p.before (account.id, r) = some
        ⟨d, p.before.notificationCount d.id, if needsRetry account.id d then some d else none⟩ := by
      rw [unreconciled, hd]
      rfl
    rw [hbefore] at hrow
    obtain ⟨y, hy, hid⟩ := reconcileRow_some _ _ _ _ _ id _
    rw [hy] at hrow
    obtain ⟨d', hd', hpair⟩ := Option.map_eq_some_iff.mp hrow
    have hdossier : d' = applyRead (p.readOf r) y.dossier := congrArg Prod.fst hpair
    refine hkept d' hd' ?_
    rw [hdossier, applyRead_id, hid]
  · exact hkept d ((h.foreign hk).trans hd) rfl

/-- A failed read of the queue makes no COMPLETE poll. -/
theorem Poll.QueueFailed.status_ne (hfail : p.QueueFailed) {status : PollStatus}
    {snapshot : QueueSnapshot} (hreport : p.report = some (status, snapshot)) :
    status ≠ .complete := by
  obtain ⟨e, obs, hobs⟩ := hfail
  rintro rfl
  rw [Poll.report, hobs] at hreport
  cases obs with
  | nil => cases hreport
  | cons event obs =>
    cases event with
    | reconciled =>
      dsimp only at hreport
      cases e <;> cases hreport
    | _ => cases hreport

/-- What a poll that could not read the whole queue makes of one record. -/
theorem Poll.presence_of_queueFailed (hrun : p.IsRun F) (hfail : p.QueueFailed) {accountId : ℕ}
    (hacc : defaultId p.before = some accountId) (r : String) :
    p.after.presence accountId r =
      if p.saw r then some (true, 0) else p.before.presence accountId r := by
  cases hreport : p.report with
  | none =>
    rw [Poll.saw_of_report_none hreport, if_neg Bool.false_ne_true, Database.presence,
      Database.dossier, (Poll.sameDataset hrun hreport).dossiers]
    rfl
  | some x =>
    obtain ⟨status, snapshot⟩ := x
    obtain ⟨account, needing, obs, mid, last, he⟩ := Poll.effective hrun hreport
    obtain rfl := he.id_eq hacc
    obtain ⟨id, hrow⟩ := he.presence_row r
    rw [hrow, Poll.saw_iff hreport]
    cases (Table.ofList snapshot.rows : Table QueueRow.recordId).find? r with
    | some row => rw [presence_reconcileRow_some, Option.isSome_some, if_pos rfl]
    | none =>
      rw [reconcileRow_none_of_ne (hfail.status_ne hreport), Option.isSome_none,
        if_neg Bool.false_ne_true, unreconciled, Option.map_map]
      rfl

/-- A dossier found before a poll is found after it, and its columns are those of its presence. -/
theorem Poll.find?_presence (hrun : p.IsRun F) {k : ℕ × String} {d : Dossier}
    (hd : p.before.dossiers.byRecord.find? k = some d) :
    (p.after.dossiers.find? d.id).map (fun d' ↦ (d'.active, d'.missingCompletePolls)) =
      p.after.presence k.1 k.2 := by
  cases hreport : p.report with
  | none =>
    rw [Database.presence, Database.dossier, (Poll.sameDataset hrun hreport).dossiers, hd,
      DossierTable.find?_id_of_byRecord hd]
  | some x =>
    obtain ⟨account, needing, obs, mid, last, he⟩ := Poll.effective hrun hreport
    rw [he.find?_id hd]
    rfl

/-- Dossiers of other accounts are not in question. -/
theorem Poll.presence_foreign (hrun : p.IsRun F) {k : ℕ × String}
    (hk : defaultId p.before ≠ some k.1) :
    p.after.presence k.1 k.2 = p.before.presence k.1 k.2 := by
  rw [Database.presence, Database.presence, Database.dossier, Database.dossier]
  cases hreport : p.report with
  | none => rw [(Poll.sameDataset hrun hreport).dossiers]
  | some x =>
    obtain ⟨account, needing, obs, mid, last, he⟩ := Poll.effective hrun hreport
    refine congrArg _ (he.foreign fun heq ↦ hk ?_)
    rw [defaultId, he.getDefault]
    exact congrArg some heq.symm

/-- **When a poll that cannot read the whole queue leaves absences alone**: if and only if it sees
no active dossier that has been missed before. -/
theorem keepsAbsences_iff {db db' : Database} {ps : List Poll} (h : Polls F db ps db')
    (hp : p ∈ ps) (hfail : p.QueueFailed) : p.KeepsAbsences ↔ p.SeesNoneMissed := by
  have hrun := (h.of_mem hp).1
  constructor
  · intro hkeeps accountId r d hacc hd hactive hmissed
    have hmem : d ∈ p.before.dossiers.rows :=
      Table.mem_of_find? (t := p.before.dossiers.byRecord) hd
    have hafter := hkeeps d hmem hactive
    rw [Poll.find?_presence hrun hd, Poll.presence_of_queueFailed hrun hfail hacc] at hafter
    by_contra hsaw
    rw [Bool.not_eq_false] at hsaw
    rw [hsaw, if_pos rfl] at hafter
    exact hmissed (Prod.mk.inj (Option.some.inj hafter)).2.symm
  · intro hnone d hd hactive
    have hfind : p.before.dossiers.byRecord.find? d.recordKey = some d :=
      Table.find?_of_mem (t := p.before.dossiers.byRecord) hd
    have hbefore : p.before.presence d.portalAccountId d.recordId =
        some (true, d.missingCompletePolls) := by
      rw [Database.presence, Database.dossier, show p.before.dossiers.byRecord.find?
        (d.portalAccountId, d.recordId) = some d from hfind, Option.map_some, hactive]
    rw [Poll.find?_presence hrun hfind]
    by_cases hacc : defaultId p.before = some d.portalAccountId
    · refine (Poll.presence_of_queueFailed hrun hfail hacc d.recordId).trans ?_
      split
      · rename_i hsaw
        have hzero : d.missingCompletePolls = 0 := by
          by_contra hmissed
          rw [hnone _ _ d hacc hfind hactive hmissed] at hsaw
          cases hsaw
        rw [hzero]
      · exact hbefore
    · exact (Poll.presence_foreign hrun hacc).trans hbefore

end

/-- A dossier is seen, missed by a COMPLETE poll, and seen by a PARTIAL one. -/
def missedThenSeen : List Script :=
  [.shows [.ofStatus "a" "open"], .shows [], .showsSome [.ofStatus "a" "open"]]

/-- The third of these polls resets the counter. -/
theorem not_keepsAbsences :
    ¬∀ (db db' : Database) (ps : List Poll),
      Polls (camoufoxPortalReaderFactory .standard) db ps db' →
        ∀ p ∈ ps, p.QueueFailed → p.KeepsAbsences := by
  intro h
  have hpolls := polls_scripted (camoufoxPortalReaderFactory .standard)
    (.ofAccount (.unpolled 1)) missedThenSeen
  have hkeeps := h _ _ _ hpolls _ (List.getElem_mem (n := 2) (by decide +kernel)) ⟨_, _, rfl⟩
  revert hkeeps
  decide +kernel

/-- A dossier is seen by a COMPLETE poll, and at once again by a PARTIAL one. -/
def seenTwice : List Script := [.shows [.ofStatus "a" "open"], .showsSome [.ofStatus "a" "open"]]

/-- The second of these polls has nothing to reset. -/
theorem keepsAbsences_seenTwice :
    ∃ p ∈ scriptedPolls (camoufoxPortalReaderFactory .standard) (.ofAccount (.unpolled 1))
        seenTwice,
      p.QueueFailed ∧ p.KeepsAbsences ∧ p.SeesNoneMissed := by
  have hmem := List.getElem_mem (l := scriptedPolls (camoufoxPortalReaderFactory .standard)
    (.ofAccount (.unpolled 1)) seenTwice) (n := 1) (by decide +kernel)
  refine ⟨_, hmem, ⟨_, _, rfl⟩, by decide +kernel, ?_⟩
  exact (keepsAbsences_iff (polls_scripted _ _ _) hmem ⟨_, _, rfl⟩).mp (by decide +kernel)

end RmaPortal
