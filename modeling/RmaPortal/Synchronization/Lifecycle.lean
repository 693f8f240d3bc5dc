import RmaPortal.Presence.Basic
import RmaPortal.Synchronization.Runs

/-!
# The lifecycle of a dossier

Polls are reports in the sense of `Presence`: a poll that has reconciled reports the records it
saw, and if its status is COMPLETE the report is a full one.  The columns `active` and
`missing_complete_polls` are what is held of these reports, with `maxMissingCompletePolls` for the
limit.

## What is here

* `Database.presence`, `columns` — whether a dossier is active and how many COMPLETE polls it has
  missed, and the columns in which this is stored.
* `Poll.asReport` — a poll as a report.
* `Tracked.presence`, `presence_reconcileRow_some`, `presence_reconcileRow_none` — the
  reconciliation of one record: what is seen becomes or stays active, and what is not seen loses
  only through a COMPLETE poll.
* `Poll.presence_note` — the step: a poll, whatever happens in it, notes its report.  Details are
  read and saved after that, and may be broken off; `Poll.Effective.presence_row` says that this
  makes no difference.
* `Polls.presence_eq` — the run: what is left of its reports, by induction on the polls.
* `dossier_lifecycle` — the history of the polls says which dossiers there are, which of them are
  active, and how many COMPLETE polls each has missed since it was last seen.
* `dossier_lifecycle_missedTwice` — a dossier that is seen, then missed by a PARTIAL poll and by
  two COMPLETE ones.

The general part, that forgetting the history and noting a report commute, is
`Held.note_ofAbsences` in `Presence.Basic`.
-/

set_option autoImplicit false

open Coroutine Presence

namespace RmaPortal

open SyncAgreementQueue

/-- Whether a dossier is active, and how many COMPLETE polls it has missed. -/
def Database.presence (db : Database) (accountId : ℕ) (r : String) : Option (Bool × ℕ) :=
  (db.dossier accountId r).map fun d ↦ (d.active, d.missingCompletePolls)

/-- The columns in which it is stored what is held of the reports. -/
def columns (h : Held maxMissingCompletePolls) : Bool × ℕ := (h.present, h.missed)

/-- A poll as a report. -/
def Poll.asReport (p : Poll) : Report String := ⟨{r | p.saw r = true}, p.completes = true⟩

theorem maxMissingCompletePolls_pos : 0 < maxMissingCompletePolls := by decide

/-! ## One poll -/

/-- The presence that is tracked. -/
def Tracked.presence (x : Tracked) : Bool × ℕ := (x.dossier.active, x.dossier.missingCompletePolls)

/-- A dossier that is seen becomes, or stays, active. -/
theorem presence_reconcileRow_some {accountId : ℕ} {status : PollStatus} {baseline : Bool}
    {now : Datetime} (row : QueueRow) (id : ℕ) (v : Option Tracked) :
    (reconcileRow accountId status baseline now (some row) id v).map Tracked.presence =
      some (true, 0) := by
  cases v with
  | none => rfl
  | some x =>
    rw [reconcileRow]
    split
    · rename_i hactive
      simp [Tracked.presence, Tracked.touch, DossierRepository.touched, applyRowFields, hactive]
    · rfl

/-- A dossier that is not seen loses only through a COMPLETE poll. -/
theorem presence_reconcileRow_none {accountId : ℕ} {status : PollStatus} {baseline : Bool}
    {now : Datetime} {id : ℕ} {v : Option Tracked} {h : Option (Held maxMissingCompletePolls)}
    (hv : v.map Tracked.presence = h.map columns) :
    (reconcileRow accountId status baseline now none id v).map Tracked.presence =
      (if status = .complete then h.map Held.miss else h).map columns := by
  cases v with
  | none =>
    cases h with
    | none => split <;> rfl
    | some h => cases hv
  | some x =>
    cases h with
    | none => cases hv
    | some h =>
      have hx : x.presence = columns h := Option.some.inj hv
      obtain ⟨hactive, hmissed⟩ := Prod.mk.inj hx
      rw [reconcileRow]
      by_cases hmiss : x.dossier.active = true ∧ status = .complete
      · have hlt : h.missed < maxMissingCompletePolls := h.present_iff.mp (hactive ▸ hmiss.1)
        rw [if_pos hmiss, if_pos hmiss.2]
        simp [Tracked.presence, Tracked.miss, columns, Held.miss, hlt, hmissed]
      · rw [if_neg hmiss, Option.map_some, hx]
        by_cases hcomplete : status = .complete
        · have hnot : ¬h.missed < maxMissingCompletePolls := fun hlt ↦
            hmiss ⟨hactive.trans (h.present_iff.mpr hlt), hcomplete⟩
          rw [if_pos hcomplete, Option.map_some, Held.miss, dif_neg hnot]
          rfl
        · rw [if_neg hcomplete]
          rfl

section

variable {H : Type} {F : PortalReaderFactory H} {p : Poll}

theorem Poll.completes_iff {status : PollStatus} {snapshot : QueueSnapshot}
    (h : p.report = some (status, snapshot)) : p.completes = true ↔ status = .complete := by
  simp [Poll.completes, h]

theorem Poll.saw_of_report_none (h : p.report = none) (r : String) : p.saw r = false := by
  simp [Poll.saw, Poll.seen, h]

theorem Poll.completes_of_report_none (h : p.report = none) : p.completes = false := by
  simp [Poll.completes, h]

/-- Of the row only the two columns matter, and details do not change them. -/
theorem Poll.Effective.presence_row {status : PollStatus} {snapshot : QueueSnapshot}
    {account : PortalAccount} {needing : Table Dossier.id} {obs : List PollEvent}
    {mid last : Database} (h : p.Effective status snapshot account needing obs mid last)
    (r : String) :
    ∃ id, p.after.presence account.id r =
      (reconcileRow account.id status account.baselineCompletedAt.isSome p.startedAt
        ((Table.ofList snapshot.rows : Table QueueRow.recordId).find? r) id
        (unreconciled account.id p.before (account.id, r))).map Tracked.presence := by
  obtain ⟨id, hrow⟩ := h.row r
  have hcolumns := congrArg
    (Option.map fun y : Dossier × ℕ ↦ (y.1.active, y.1.missingCompletePolls)) hrow
  rw [Option.map_map, Option.map_map] at hcolumns
  refine ⟨id, hcolumns.trans (Option.map_congr fun x _ ↦ ?_)⟩
  simp [Tracked.presence]

/-- **A poll notes its report.** -/
theorem Poll.presence_note (hrun : p.IsRun F) {accountId : ℕ}
    (hacc : defaultId p.before = some accountId) {r : String}
    {h : Option (Held maxMissingCompletePolls)}
    (hbefore : p.before.presence accountId r = h.map columns) :
    p.after.presence accountId r =
      (Held.note r maxMissingCompletePolls_pos p.asReport h).map columns := by
  have hmem : r ∈ p.asReport.seen ↔ p.saw r = true := Iff.rfl
  have hfull : p.asReport.full ↔ p.completes = true := Iff.rfl
  rw [Held.note]
  simp only [hmem, hfull]
  cases hreport : p.report with
  | none =>
    rw [Poll.saw_of_report_none hreport, Poll.completes_of_report_none hreport,
      if_neg Bool.false_ne_true, if_neg Bool.false_ne_true, ← hbefore, Database.presence,
      Database.dossier, (Poll.sameDataset hrun hreport).dossiers]
    rfl
  | some x =>
    obtain ⟨status, snapshot⟩ := x
    obtain ⟨account, needing, obs, mid, last, he⟩ := Poll.effective hrun hreport
    obtain rfl := he.id_eq hacc
    obtain ⟨id, hafter⟩ := he.presence_row r
    have hbefore' : (unreconciled account.id p.before (account.id, r)).map Tracked.presence =
        h.map columns := by
      rw [← hbefore, unreconciled, Option.map_map]
      rfl
    rw [hafter, Poll.saw_iff hreport]
    cases (Table.ofList snapshot.rows : Table QueueRow.recordId).find? r with
    | some row =>
      rw [presence_reconcileRow_some, Option.isSome_some, if_pos rfl]
      rfl
    | none =>
      rw [presence_reconcileRow_none hbefore', Option.isSome_none, if_neg Bool.false_ne_true,
        if_congr (Poll.completes_iff hreport).symm rfl rfl]

/-! ## Runs -/

theorem Between.presence {db db' : Database} (h : Between db db') (accountId : ℕ) (r : String) :
    db'.presence accountId r = db.presence accountId r := by
  rw [Database.presence, Database.presence, Database.dossier, Database.dossier, h.dossiers]

/-- **What a run of polls leaves of its reports.** -/
theorem Polls.presence_eq {db db' : Database} {ps : List Poll} (h : Polls F db ps db')
    {accountId : ℕ} (hacc : defaultId db = some accountId) {r : String}
    (hnone : db.dossier accountId r = none) :
    db'.presence accountId r = ((absences r (ps.map Poll.asReport)).map
      (Held.ofAbsences maxMissingCompletePolls)).map columns := by
  induction h with
  | nil =>
    rw [Database.presence, hnone]
    rfl
  | @concat mid ps p h hbetween hrun ih =>
    have hacc' : defaultId p.before = some accountId := by
      rw [hbetween.defaultId_eq, h.defaultId_eq, hacc]
    have hbefore := (hbetween.presence accountId r).trans ih
    rw [Poll.presence_note hrun hacc' hbefore, Held.note_ofAbsences, List.map_append,
      ← absences_concat]
    rfl

/-- The polls after the last one that saw a record. -/
theorem exists_last_poll {ps : List Poll} {r : String} (h : ∃ p ∈ ps, p.saw r = true) :
    ∃ before p after, ps = before ++ p :: after ∧ p.saw r = true ∧
      (∀ q ∈ after, q.saw r = false) ∧
      absences r (ps.map Poll.asReport) = some (after.countP Poll.completes) := by
  have h' : ∃ rep ∈ ps.map Poll.asReport, r ∈ rep.seen := by
    obtain ⟨p, hp, hsaw⟩ := h
    exact ⟨p.asReport, List.mem_map_of_mem hp, hsaw⟩
  obtain ⟨before, rep, after, heq, hseen, hafter⟩ := exists_last r h'
  obtain ⟨before, rest, rfl, rfl, hrest⟩ := List.map_eq_append_iff.mp heq
  obtain ⟨p, after, rfl, rfl, rfl⟩ := List.map_eq_cons_iff.mp hrest
  refine ⟨before, p, after, rfl, hseen, fun q hq ↦ ?_, ?_⟩
  · exact Bool.eq_false_iff.mpr fun hsaw ↦ hafter q.asReport (List.mem_map_of_mem hq) hsaw
  · rw [heq, absences_of_last r hseen hafter, List.countP_map]
    congr 1
    exact List.countP_congr fun q _ ↦ @decide_eq_true_iff _ (Classical.propDecidable _)

/-- **The lifecycle of a dossier is the history of the polls.**  In a run of polls from an account
without dossiers there is a dossier for exactly the records that some poll saw and reconciled.  It
is active, and counts the absences it counts, because of the COMPLETE polls since the last one that
saw it. -/
theorem dossier_lifecycle {db db' : Database} {ps : List Poll} (h : Polls F db ps db')
    {accountId : ℕ} (hacc : defaultId db = some accountId)
    (hnone : ∀ r, db.dossier accountId r = none) (r : String) :
    ((db'.dossier accountId r).isSome ↔ ∃ p ∈ ps, p.saw r = true) ∧
      ∀ d, db'.dossier accountId r = some d →
        (∃ before p after, ps = before ++ p :: after ∧ p.saw r = true ∧
          (∀ q ∈ after, q.saw r = false) ∧
          d.active = decide (after.countP Poll.completes < 2) ∧
          d.missingCompletePolls = min (after.countP Poll.completes) 2) ∧
        (d.active = true → d.missingCompletePolls < 2) ∧
        (d.active = false → d.missingCompletePolls = 2) := by
  have hpresence := h.presence_eq hacc (hnone r)
  have hiff : (db'.dossier accountId r).isSome ↔ ∃ p ∈ ps, p.saw r = true := by
    have hsome := congrArg Option.isSome hpresence
    rw [Database.presence, Option.isSome_map, Option.isSome_map, Option.isSome_map] at hsome
    rw [hsome, absences_isSome]
    simp [Poll.asReport]
  refine ⟨hiff, fun d hd ↦ ?_⟩
  obtain ⟨before, p, after, heq, hsaw, hafter, habsences⟩ :=
    exists_last_poll (hiff.mp (by rw [hd]; rfl))
  rw [Database.presence, hd, habsences] at hpresence
  obtain ⟨hactive, hmissed⟩ := Prod.mk.inj (Option.some.inj hpresence)
  have hactive' : d.active = decide (after.countP Poll.completes < 2) := hactive
  have hmissed' : d.missingCompletePolls = min (after.countP Poll.completes) 2 := hmissed
  refine ⟨⟨before, p, after, heq, hsaw, hafter, hactive', hmissed'⟩, fun ht ↦ ?_, fun hf ↦ ?_⟩
  · have : after.countP Poll.completes < 2 := by simpa [hactive'] using ht
    omega
  · have : ¬after.countP Poll.completes < 2 := by simpa [hactive'] using hf
    omega

end

/-- A dossier is seen, then missed by a PARTIAL poll and by two COMPLETE ones. -/
def missedTwice : List Script :=
  [.shows [.ofStatus "a" "open"], .showsSome [], .shows [], .shows []]

/-- It is there, and inactive with two absences. -/
theorem dossier_lifecycle_missedTwice :
    ∃ d, (lastDatabase (.ofAccount (.unpolled 1)) (scriptedPolls
        (camoufoxPortalReaderFactory .standard) (.ofAccount (.unpolled 1)) missedTwice)).dossier
          1 "a" = some d ∧ d.active = false ∧ d.missingCompletePolls = 2 := by
  have hlife := dossier_lifecycle (polls_scripted (camoufoxPortalReaderFactory .standard)
    (.ofAccount (.unpolled 1)) missedTwice) rfl (fun r ↦ rfl) "a"
  have hseen := hlife.1.mpr ⟨_, List.getElem_mem (n := 0) (by decide +kernel), by decide +kernel⟩
  obtain ⟨d, hd⟩ := Option.isSome_iff_exists.mp hseen
  have hinactive : d.active = false := by
    have := congrArg (Option.map Dossier.active) hd
    exact (Option.some.inj (Eq.trans (by decide +kernel) this)).symm
  exact ⟨d, hd, hinactive, (hlife.2 d hd).2.2 hinactive⟩

end RmaPortal
