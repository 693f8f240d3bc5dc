import Mathlib.Logic.Function.Iterate
import RmaPortal.Synchronization.DetailQueue
import RmaPortal.Synchronization.Interleaving
import RmaPortal.Synchronization.Lifecycle

/-!
# The database as a mirror of the queue

Whatever is in the database when the portal is first polled, and however inconsistent it may be,
two COMPLETE polls put it right: from then on the active dossiers are those of the records that
have been missed by at most one COMPLETE poll since they were last seen, and they say what the
last row said that was seen of them (`dossiers_mirror`).

What polls have seen of a record is `LastSeen`.  Nothing in it is about the database.  It can be
said of polls that are still running, and among employees, too (`Lone.exists_findings`).

## What is here

* `Dossier.Mirrors` — a dossier says what a row says, in each of the columns that a row has.  A
  dossier that is seen is made to say it, and one that is not seen goes on saying it.
* `missStep`, `iterate_missStep` — what a COMPLETE poll makes of the two columns of a dossier that
  it has not seen.  The counter of missed polls is an integer, and whatever it was before, it is
  counted up from the last sighting on; a dossier that nobody has seen is inactive after two
  polls, because a counter that is too small was not written by a poll that has seen it.
* `Finding`, `finding`, `findings` — what a poll has reconciled with: its status when it had read
  the queue, and the rows it saw.
* `LastSeen` — the last of some polls that has seen a record has seen this row, and this many
  COMPLETE polls have missed the record since.
* `Polls.unseen` — the induction: as long as a record is not seen its dossier counts the COMPLETE
  polls and says what it said.  `Polls.lastSeen` and `Polls.inactive_of_unseen` are read off it.
* `Queued`, `Polls.active_iff`, `dossiers_mirror` — a record is in the queue, by what polls have
  found; and the active dossiers of the account are those of such records, one for each.
* `dossiers_mirror_showsOther` — a database with a dossier that has been missed five times and is
  active all the same, and a portal that shows another record.
* `Lone.exists_findings` — the same for the polls of a run among employees, the one that is
  running too.

PARTIAL polls take part only by what they see: they never count an absence.
-/

set_option autoImplicit false

open Coroutine

namespace RmaPortal

open SyncAgreementQueue

/-! ## The columns of a row -/

/-- A dossier says what a row says. -/
def Dossier.Mirrors (d : Dossier) (row : QueueRow) : Prop := applyRowFields d row = d

theorem mirrors_applyRowFields (d : Dossier) (row : QueueRow) :
    (applyRowFields d row).Mirrors row :=
  rfl

/-- Details are not in the row. -/
theorem Dossier.Mirrors.applyRead {d : Dossier} {row : QueueRow} (h : d.Mirrors row)
    (e? : Option DetailRead) : (applyRead e? d).Mirrors row := by
  have hcommute : applyRowFields (RmaPortal.applyRead e? d) row =
      RmaPortal.applyRead e? (applyRowFields d row) := by
    rw [RmaPortal.applyRead, RmaPortal.applyRead]
    split <;> rfl
  rw [Mirrors, hcommute, h]

section Row

variable {accountId : ℕ} {status : PollStatus} {baseline : Bool} {now : Datetime} {id : ℕ}

/-- A dossier that is seen says what has been seen … -/
theorem mirrors_reconcileRow_some {row : QueueRow} {v : Option Tracked} {x : Tracked}
    (h : reconcileRow accountId status baseline now (some row) id v = some x) :
    x.dossier.Mirrors row := by
  cases v with
  | none =>
    cases h
    exact mirrors_applyRowFields _ row
  | some y =>
    rw [reconcileRow] at h
    split at h <;>
    · cases h
      rfl

/-- … and goes on saying so when it is not seen any more. -/
theorem mirrors_reconcileRow_none {row : QueueRow} {v : Option Tracked} {x : Tracked}
    (h : reconcileRow accountId status baseline now none id v = some x) :
    ∃ y, v = some y ∧ (y.dossier.Mirrors row → x.dossier.Mirrors row) := by
  cases v with
  | none => cases h
  | some y =>
    refine ⟨y, rfl, fun hy ↦ ?_⟩
    rw [reconcileRow] at h
    have hmiss : applyRowFields y.miss.dossier row =
        { applyRowFields y.dossier row with
          missingCompletePolls := y.miss.dossier.missingCompletePolls
          active := y.miss.dossier.active } := rfl
    split at h <;> cases h
    · rw [Dossier.Mirrors, hmiss, hy]
      rfl
    · exact hy

/-! ## Absences -/

/-- What a COMPLETE poll makes of the two columns of a dossier that it has not seen. -/
def missStep (x : Bool × ℕ) : Bool × ℕ :=
  if x.1 then (decide (x.2 + 1 < maxMissingCompletePolls), x.2 + 1) else x

theorem presence_reconcileRow_unseen (v : Option Tracked) :
    (reconcileRow accountId status baseline now none id v).map Tracked.presence =
      (v.map Tracked.presence).map (missStep^[(decide (status = .complete)).toNat]) := by
  cases v with
  | none => rfl
  | some x =>
    rw [reconcileRow]
    by_cases hcomplete : status = .complete
    · by_cases hactive : x.dossier.active = true
      · simp [hcomplete, hactive, missStep, Tracked.presence, Tracked.miss]
      · simp [hcomplete, hactive, missStep, Tracked.presence]
    · simp [hcomplete]

/-- Two absences are too many. -/
theorem lt_of_iterate_missStep {x : Bool × ℕ} {k : ℕ} (h : (missStep^[k] x).1 = true) : k < 2 := by
  by_contra hk
  obtain ⟨j, rfl⟩ := Nat.exists_eq_add_of_le (not_lt.mp hk)
  have hgone : (missStep (missStep x)).1 = false := by
    obtain ⟨a, m⟩ := x
    cases a with
    | false => rfl
    | true =>
      by_cases hm : m + 1 < maxMissingCompletePolls
      · have : ¬m + 1 + 1 < maxMissingCompletePolls := by
          have : maxMissingCompletePolls = 2 := rfl
          omega
        simp [missStep, hm, this]
      · simp [missStep, hm]
  have hstays : ∀ i (y : Bool × ℕ), y.1 = false → missStep^[i] y = y := by
    intro i y hy
    refine Function.iterate_fixed ?_ i
    simp [missStep, hy]
  rw [Nat.add_comm, Function.iterate_add_apply] at h
  change (missStep^[j] (missStep (missStep x))).1 = true at h
  rw [hstays j _ hgone, hgone] at h
  cases h

/-- Absences are counted from the last sighting on. -/
theorem iterate_missStep (k : ℕ) : missStep^[k] (true, 0) = (decide (k < 2), min k 2) := by
  have htwo : maxMissingCompletePolls = 2 := rfl
  induction k with
  | zero => rfl
  | succ k ih =>
    rw [Function.iterate_succ_apply', ih, missStep]
    by_cases hk : k < 2
    · simp only [hk, decide_true, if_true, htwo, Prod.mk.injEq, decide_eq_decide]
      omega
    · simp only [hk, decide_false, Bool.false_eq_true, if_false]
      have hk' : ¬k + 1 < 2 := by omega
      have hmin : min k 2 = min (k + 1) 2 := by omega
      simp only [hk', decide_false, hmin]

end Row

/-! ## What polls have seen -/

/-- What a poll has reconciled with, if it has: its status when it had read the queue, and the rows
it saw. -/
abbrev Finding : Type := Option (PollStatus × QueueSnapshot)

namespace Finding

/-- The row that has been seen of a record. -/
def rowOf (f : Finding) (r : String) : Option QueueRow :=
  f.bind fun x ↦ (Table.ofList x.2.rows : Table QueueRow.recordId).find? r

/-- The poll has reconciled as a COMPLETE one. -/
def completes (f : Finding) : Bool := f.any fun x ↦ x.1 == .complete

end Finding

/-- What a poll has found by now. -/
def finding (t : List Happening) : Finding :=
  match observed t with
  | .queueRead answer :: .reconciled :: _ => queueReport answer
  | _ => none

/-- What polls have found. -/
def findings (ps : List Poll) : List Finding := ps.map fun p ↦ finding p.trace

/-- The last of some polls that has seen a record has seen this row, and this many COMPLETE polls
have missed the record since. -/
def LastSeen (fs : List Finding) (r : String) (row : QueueRow) (missed : ℕ) : Prop :=
  ∃ before f after, fs = before ++ f :: after ∧ f.rowOf r = some row ∧
    (∀ g ∈ after, g.rowOf r = none) ∧ missed = after.countP Finding.completes

section Seen

variable {r : String} {fs : List Finding}

/-- Either no poll has seen a record, or there is a last one. -/
theorem lastSeen_or (fs : List Finding) (r : String) :
    (∀ f ∈ fs, f.rowOf r = none) ∨ ∃ row missed, LastSeen fs r row missed := by
  induction fs using List.reverseRecOn with
  | nil => exact .inl (by simp)
  | append_singleton fs f ih =>
    cases hf : f.rowOf r with
    | some row => exact .inr ⟨row, 0, fs, f, [], rfl, hf, by simp, rfl⟩
    | none =>
      rcases ih with ih | ⟨row, missed, before, g, after, rfl, hg, hafter, rfl⟩
      · refine .inl fun g hg ↦ ?_
        rcases List.mem_append.mp hg with hg | hg
        · exact ih g hg
        · rwa [List.mem_singleton.mp hg]
      · refine .inr ⟨row, _, before, g, after ++ [f], by simp, hg, fun g' hg' ↦ ?_, rfl⟩
        rcases List.mem_append.mp hg' with hg' | hg'
        · exact hafter g' hg'
        · rwa [List.mem_singleton.mp hg']

/-- A record that no poll has seen has not been seen last by any. -/
theorem LastSeen.not_unseen {row : QueueRow} {missed : ℕ} (h : LastSeen fs r row missed) :
    ¬∀ f ∈ fs, f.rowOf r = none := by
  obtain ⟨before, f, after, rfl, hf, -, -⟩ := h
  intro hnone
  rw [hnone f (by simp)] at hf
  cases hf

end Seen

/-! ## Runs -/

section Polls

variable {H : Type} {F : PortalReaderFactory H} {p : Poll} {db db' : Database} {ps qs : List Poll}
  {accountId : ℕ} {r : String}

/-- What a poll has found is what it reports … -/
theorem rowOf_finding (p : Poll) (r : String) : (finding p.trace).rowOf r = p.rowOf r := rfl

/-- … and it counts if it is a COMPLETE one. -/
theorem countP_findings (ps : List Poll) :
    (findings ps).countP Finding.completes = ps.countP Poll.completes := List.countP_map

/-- A run of polls can be cut anywhere. -/
theorem Polls.split (h : Polls F db (ps ++ qs) db') :
    ∃ mid, Polls F db ps mid ∧ Polls F mid qs db' := by
  induction qs using List.reverseRecOn generalizing db' with
  | nil =>
    rw [List.append_nil] at h
    exact ⟨db', h, .nil db'⟩
  | append_singleton qs q ih =>
    rw [← List.append_assoc] at h
    generalize hks : (ps ++ qs) ++ [q] = ks at h
    cases h with
    | nil => simp at hks
    | concat h hbetween hrun =>
      obtain ⟨rfl, hlast⟩ := List.append_inj' hks rfl
      cases List.singleton_inj.mp hlast
      obtain ⟨mid, hps, hqs⟩ := ih h
      exact ⟨mid, hps, hqs.concat hbetween hrun⟩

/-- A poll that does not see a record counts an absence, if it is a COMPLETE one. -/
theorem Poll.presence_unseen (hrun : p.IsRun F) (hacc : defaultId p.before = some accountId)
    (hunseen : p.rowOf r = none) :
    p.after.presence accountId r =
      (p.before.presence accountId r).map (missStep^[p.completes.toNat]) := by
  cases hreport : p.report with
  | none =>
    rw [Poll.completes_of_report_none hreport, Database.presence, Database.dossier,
      (Poll.sameDataset hrun hreport).dossiers]
    exact Option.map_id_apply.symm
  | some x =>
    obtain ⟨status, snapshot⟩ := x
    obtain ⟨account, needing, obs, mid, last, he⟩ := Poll.effective hrun hreport
    obtain rfl := he.id_eq hacc
    obtain ⟨id, hafter⟩ := he.presence_row r
    rw [hafter, ← Poll.rowOf_eq hreport r, hunseen, presence_reconcileRow_unseen]
    have hcompletes : p.completes = decide (status = .complete) := by
      rw [Bool.eq_iff_iff, Poll.completes_iff hreport, decide_eq_true_iff]
    have hbefore : (unreconciled account.id p.before (account.id, r)).map Tracked.presence =
        p.before.presence account.id r := by
      rw [unreconciled, Option.map_map]
      rfl
    rw [hcompletes, hbefore]

/-- A poll that sees a record makes its dossier active, and say what it has seen. -/
theorem Poll.seen_after (hrun : p.IsRun F) (hacc : defaultId p.before = some accountId)
    {row : QueueRow} (hseen : p.rowOf r = some row) :
    p.after.presence accountId r = some (true, 0) ∧
      ∀ d, p.after.dossier accountId r = some d → d.Mirrors row := by
  cases hreport : p.report with
  | none => simp [Poll.rowOf, hreport] at hseen
  | some x =>
    obtain ⟨status, snapshot⟩ := x
    obtain ⟨account, needing, obs, mid, last, he⟩ := Poll.effective hrun hreport
    obtain rfl := he.id_eq hacc
    rw [Poll.rowOf_eq hreport r] at hseen
    obtain ⟨id, hafter⟩ := he.presence_row r
    refine ⟨?_, fun d hd ↦ ?_⟩
    · rw [hafter, hseen, presence_reconcileRow_some]
    · obtain ⟨id, x, -, hx, rfl⟩ := he.dossier_after hd
      rw [hseen] at hx
      exact (mirrors_reconcileRow_some hx).applyRead _

/-- A poll that does not see a record leaves its dossier saying what it said. -/
theorem Poll.mirrors_unseen (hrun : p.IsRun F) (hacc : defaultId p.before = some accountId)
    (hunseen : p.rowOf r = none) {row : QueueRow}
    (h : ∀ d, p.before.dossier accountId r = some d → d.Mirrors row) {d : Dossier}
    (hd : p.after.dossier accountId r = some d) : d.Mirrors row := by
  cases hreport : p.report with
  | none =>
    rw [Database.dossier, (Poll.sameDataset hrun hreport).dossiers] at hd
    exact h d hd
  | some x =>
    obtain ⟨status, snapshot⟩ := x
    obtain ⟨account, needing, obs, mid, last, he⟩ := Poll.effective hrun hreport
    obtain rfl := he.id_eq hacc
    obtain ⟨id, x, -, hx, rfl⟩ := he.dossier_after hd
    rw [← Poll.rowOf_eq hreport r, hunseen] at hx
    obtain ⟨y, hy, hkeep⟩ := mirrors_reconcileRow_none hx
    obtain ⟨d₀, hd₀, rfl⟩ := Option.map_eq_some_iff.mp hy
    exact (hkeep (h d₀ hd₀)).applyRead _

/-- **As long as a record is not seen**, its dossier counts the COMPLETE polls and says what it
said. -/
theorem Polls.unseen (h : Polls F db ps db') (hacc : defaultId db = some accountId)
    (hunseen : ∀ p ∈ ps, p.rowOf r = none) :
    db'.presence accountId r =
        (db.presence accountId r).map (missStep^[ps.countP Poll.completes]) ∧
      ∀ row, (∀ d, db.dossier accountId r = some d → d.Mirrors row) →
        ∀ d, db'.dossier accountId r = some d → d.Mirrors row := by
  induction h with
  | nil => exact ⟨Option.map_id_apply.symm, fun row h ↦ h⟩
  | @concat mid ps p h hbetween hrun ih =>
    obtain ⟨hpresence, hmirrors⟩ := ih fun q hq ↦ hunseen q (List.mem_append_left _ hq)
    have hp : p.rowOf r = none := hunseen p (by simp)
    have hacc' : defaultId p.before = some accountId := by
      rw [hbetween.defaultId_eq, h.defaultId_eq, hacc]
    constructor
    · rw [Poll.presence_unseen hrun hacc' hp, hbetween.presence, hpresence, Option.map_map,
        ← Function.iterate_add, List.countP_append, List.countP_singleton, Nat.add_comm]
      cases p.completes <;> rfl
    · intro row hrow d hd
      refine Poll.mirrors_unseen hrun hacc' hp (fun d₀ hd₀ ↦ hmirrors row hrow d₀ ?_) hd
      rwa [Database.dossier, hbetween.dossiers] at hd₀

/-- **What has been seen last is what the dossier says.** -/
theorem Polls.lastSeen (h : Polls F db ps db') (hacc : defaultId db = some accountId)
    {row : QueueRow} {missed : ℕ} (hlast : LastSeen (findings ps) r row missed) :
    db'.presence accountId r = some (decide (missed < 2), min missed 2) ∧
      ∀ d, db'.dossier accountId r = some d → d.Mirrors row := by
  obtain ⟨fs, f, fs', heq, hp, hafter, rfl⟩ := hlast
  obtain ⟨before, rest, rfl, -, hrest⟩ := List.map_eq_append_iff.mp heq
  obtain ⟨p, after, rfl, rfl, rfl⟩ := List.map_eq_cons_iff.mp hrest
  have hafter : ∀ q ∈ after, q.rowOf r = none := fun q hq ↦ hafter _ (List.mem_map_of_mem hq)
  change _ = some (decide ((findings after).countP _ < 2), min ((findings after).countP _) 2) ∧ _
  rw [countP_findings]
  obtain ⟨mid, hbefore, hrest⟩ := h.split
  rw [← List.singleton_append] at hrest
  obtain ⟨mid', hone, hrest⟩ := hrest.split
  generalize hps : [p] = l at hone
  cases hone with
  | nil => cases hps
  | @concat _ ks q hks hbetween hrun =>
    rw [← List.nil_append [p]] at hps
    obtain ⟨hnil, hq⟩ := List.append_inj' hps rfl
    subst hnil
    cases List.singleton_inj.mp hq
    have hacc' : defaultId p.before = some accountId := by
      rw [hbetween.defaultId_eq, hks.defaultId_eq, hbefore.defaultId_eq, hacc]
    have hacc'' : defaultId p.after = some accountId := by
      rw [(hks.concat hbetween hrun).defaultId_eq, hbefore.defaultId_eq, hacc]
    obtain ⟨hpresence, hmirrors⟩ := Poll.seen_after hrun hacc' hp
    obtain ⟨hpresence', hmirrors'⟩ := hrest.unseen hacc'' hafter
    refine ⟨?_, hmirrors' row hmirrors⟩
    rw [hpresence', hpresence, Option.map_some, iterate_missStep]

/-- A record that no poll sees has no active dossier any more after two COMPLETE polls. -/
theorem Polls.inactive_of_unseen (h : Polls F db ps db') (hacc : defaultId db = some accountId)
    (hstart : (∀ r, db.dossier accountId r = none) ∨ 2 ≤ ps.countP Poll.completes)
    (hunseen : ∀ p ∈ ps, p.rowOf r = none) {d : Dossier} (hd : db'.dossier accountId r = some d) :
    d.active = false := by
  have hpresence := (h.unseen hacc hunseen).1
  rw [Database.presence, hd, Option.map_some] at hpresence
  obtain ⟨x, hx, heq⟩ := Option.map_eq_some_iff.mp hpresence.symm
  rcases hstart with hnone | htwo
  · rw [Database.presence, hnone r] at hx
    cases hx
  · by_contra hactive
    have hlt : ps.countP Poll.completes < 2 := by
      refine lt_of_iterate_missStep (x := x) ?_
      rw [heq]
      exact Bool.not_eq_false _ ▸ hactive
    exact absurd htwo (not_le.mpr hlt)

/-- The dossier of a record that has been seen. -/
theorem Polls.exists_mirror (h : Polls F db ps db') (hacc : defaultId db = some accountId)
    {row : QueueRow} {missed : ℕ} (hlast : LastSeen (findings ps) r row missed) :
    ∃ d, db'.dossier accountId r = some d ∧ d.Mirrors row ∧ d.active = decide (missed < 2) ∧
      d.missingCompletePolls = min missed 2 := by
  obtain ⟨hpresence, hmirrors⟩ := h.lastSeen hacc hlast
  obtain ⟨d, hd, hcolumns⟩ := Option.map_eq_some_iff.mp hpresence
  obtain ⟨hactive, hmissed⟩ := Prod.mk.inj hcolumns
  exact ⟨d, hd, hmirrors d hd, hactive, hmissed⟩

/-- A record is in the queue, by what polls have found: it was last seen with this row, and has been
missed by at most one COMPLETE poll since. -/
def Queued (fs : List Finding) (r : String) (row : QueueRow) : Prop :=
  ∃ missed, LastSeen fs r row missed ∧ missed < 2

/-- The dossier of a record is active while it is in the queue. -/
theorem Polls.active_iff (h : Polls F db ps db') (hacc : defaultId db = some accountId)
    (hstart : (∀ r, db.dossier accountId r = none) ∨
      2 ≤ (findings ps).countP Finding.completes) (r : String) :
    (∃ d, db'.dossier accountId r = some d ∧ d.active = true) ↔
      ∃ row, Queued (findings ps) r row := by
  constructor
  · rintro ⟨d, hd, hactive⟩
    rcases lastSeen_or (findings ps) r with hunseen | ⟨row, missed, hlast⟩
    · rw [countP_findings] at hstart
      have hunseen : ∀ p ∈ ps, p.rowOf r = none := fun p hp ↦ hunseen _ (List.mem_map_of_mem hp)
      rw [h.inactive_of_unseen hacc hstart hunseen hd] at hactive
      cases hactive
    · obtain ⟨d', hd', -, hactive', -⟩ := h.exists_mirror hacc hlast
      cases hd.symm.trans hd'
      exact ⟨row, missed, hlast, of_decide_eq_true (hactive'.symm.trans hactive)⟩
  · rintro ⟨row, missed, hlast, hlt⟩
    obtain ⟨d, hd, -, hactive, -⟩ := h.exists_mirror hacc hlast
    exact ⟨d, hd, by rw [hactive, decide_eq_true hlt]⟩

/-- **The active dossiers mirror the queue**, whatever has been in the database before, once there
have been two COMPLETE polls. -/
theorem dossiers_mirror (h : Polls F db ps db') (hacc : defaultId db = some accountId)
    (hstart : (∀ r, db.dossier accountId r = none) ∨
      2 ≤ (findings ps).countP Finding.completes) (r : String) :
    ((∃ d, db'.dossier accountId r = some d ∧ d.active = true) ↔
        ∃ row, Queued (findings ps) r row) ∧
      ∀ row missed, LastSeen (findings ps) r row missed → ∃ d, db'.dossier accountId r = some d ∧
        d.Mirrors row ∧ d.active = decide (missed < 2) ∧ d.missingCompletePolls = min missed 2 :=
  ⟨h.active_iff hacc hstart r, fun _ _ ↦ h.exists_mirror hacc⟩

end Polls

/-- A database with an active dossier that has been missed five times already. -/
def Database.neglected : Database :=
  .ofWork { DossierRepository.created 1 1 (.ofStatus "a" "open") default with
    missingCompletePolls := 5 } ⟨1, .toDo, 1, none, default⟩ rfl

/-- The portal shows another record, twice. -/
def showsOther : List Script := [.shows [.ofStatus "b" "open"], .shows [.ofStatus "b" "done"]]

/-- Then only that record is active, with its last status. -/
theorem dossiers_mirror_showsOther :
    let db' := lastDatabase .neglected (scriptedPolls
      (camoufoxPortalReaderFactory .standard) .neglected showsOther)
    (¬∃ d, db'.dossier 1 "a" = some d ∧ d.active = true) ∧
      ∃ d, db'.dossier 1 "b" = some d ∧ d.portalStatus = "done" ∧ d.active = true := by
  intro db'
  have hpolls := polls_scripted (camoufoxPortalReaderFactory .standard) .neglected showsOther
  have hacc : defaultId .neglected = some 1 := rfl
  have htwo : 2 ≤ (findings (scriptedPolls (camoufoxPortalReaderFactory .standard) .neglected
      showsOther)).countP Finding.completes := by decide +kernel
  constructor
  · rw [(dossiers_mirror hpolls hacc (.inr htwo) "a").1]
    rintro ⟨row, missed, hlast, -⟩
    exact hlast.not_unseen (by decide +kernel)
  · obtain ⟨d, hd, hrow, hactive, -⟩ :=
      (dossiers_mirror hpolls hacc (.inr htwo) "b").2 (.ofStatus "b" "done") 0
        ⟨[_], _, [], rfl, rfl, by simp, rfl⟩
    refine ⟨d, hd, ?_, hactive⟩
    rw [← hrow]
    rfl

/-! ## Polls among employees -/

namespace Portal

/-- What polls have found by now. -/
def findings (s : Portal) : List Finding := s.traces.map finding

theorem finding_append_of_vain {t t' : List Happening} (ht' : ∀ e ∈ t', Vain e) :
    finding (t ++ t') = finding t := by
  have hnot := reconciled_notMem_of_vain ht'
  rw [finding, finding, observed_append]
  generalize observed t' = l' at hnot ⊢
  rcases observed t with _ | ⟨x, _ | ⟨y, l⟩⟩
  · rcases l' with _ | ⟨x', _ | ⟨y', l'⟩⟩
    · rfl
    · cases x' <;> rfl
    · cases x' <;> cases y' <;> simp_all
  · rcases l' with _ | ⟨y', l'⟩
    · rfl
    · cases x <;> cases y' <;> simp_all
  · cases x <;> cases y <;> rfl

variable {H : Type} {F : PortalReaderFactory H} {db : Database} {s : Portal}

/-- The polls of a run have found what has been found, the poll that is running too. -/
theorem Lone.exists_findings (h : Lone F db s) :
    ∃ ps db', Polls F db ps db' ∧ Between db' s.db ∧ RmaPortal.findings ps = s.findings := by
  cases h with
  | idle h hfinished hpending hbetween =>
    refine ⟨_, _, h, hbetween, ?_⟩
    rw [findings, traces, ← hfinished, RmaPortal.findings]
    simp
  | @busy ps mid before w finished t c h hfinished hbetween htwin =>
    obtain ⟨w₀, w', hw₀, hafter, hpath, halike⟩ := htwin
    -- let the poll end at once: what it has committed by now is what it commits at all
    obtain ⟨t', o, w'', hexec, hcommitted, hvain⟩ := exists_vain c w'
    have hexec := hafter.exec hpath hexec
    obtain ⟨after, hidle, -, -⟩ := (sat_execute hw₀).exec hexec
    have hrun : Poll.IsRun F ⟨before, after, t ++ t', o⟩ := ⟨w₀, w'', hw₀, hexec, hidle⟩
    refine ⟨_, _, h.concat hbetween hrun, ?_, ?_⟩
    · have hafter : after = w'.db.committed := by rw [← hcommitted, hidle]; rfl
      rw [hafter]
      exact between_of_alike halike.committed
    · rw [findings, traces, ← hfinished, RmaPortal.findings]
      simp [finding_append_of_vain hvain]

end Portal

end RmaPortal
