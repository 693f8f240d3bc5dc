import RmaPortal.Data.Table
import RmaPortal.Domain.Models

/-!
# The reconciliation policy

`domain/sync_rules.py`: given what is already known of the dossiers of an account and which record
identifiers a poll saw, `reconcile` decides what must change.  It does no input or output.

## What is here

* `ExistingDossierState`, `ReconciliationInput`, `ReconciliationResult` — the data of the source:
  what is known, what was seen, and the actions the caller must apply, each a set of record
  identifiers.
* `unknown`, `known`, `absent` — the sets that the loops of the source build, as filters: each
  loop builds its sets element by element, and no element looks at another.
* `reconcile` — the decision.  A poll that has not read the queue decides nothing, a PARTIAL one
  counts no absences, and notifications are created only once an earlier poll has completed the
  baseline.
* `mem_toCreate`, `mem_toReactivate`, `mem_toTouch`, `find?_absenceIncrements`,
  `mem_toDeactivate`, `createNotifications_eq`, `isBaselinePoll_eq` — one lemma for each action:
  when it is decided on, in terms of what is known and what was seen.

The lemmas are all that is used of `reconcile` further on.  Whether its caller applies what it
decides is a question about `_apply_reconciliation`, which is in `Application/SyncService.lean`.
-/

set_option autoImplicit false

namespace RmaPortal

/-- The minimal state of a previously known dossier needed to reconcile. -/
structure ExistingDossierState where
  recordId : String
  active : Bool
  missingCompletePolls : ℕ

structure ReconciliationInput where
  pollStatus : PollStatus
  baselineAlreadyCompleted : Bool
  seenRecordIds : FrozenSet String
  existing : Table ExistingDossierState.recordId

/-- Actions the caller must apply. -/
structure ReconciliationResult where
  /-- Record identifiers never seen before. -/
  toCreate : FrozenSet String
  /-- Record identifiers that were inactive and reappeared. -/
  toReactivate : FrozenSet String
  /-- Record identifiers already active and seen again. -/
  toTouch : FrozenSet String
  /-- Record identifier and new value of `missing_complete_polls`. -/
  absenceIncrements : Table (Prod.fst : String × ℕ → String)
  /-- Record identifiers crossing the absence threshold this poll. -/
  toDeactivate : FrozenSet String
  createNotifications : Bool
  /-- This poll is the first COMPLETE poll. -/
  isBaselinePoll : Bool
  /-- False for AUTH_REQUIRED and FAILED polls. -/
  reconciled : Bool

namespace ReconciliationInput

variable (data : ReconciliationInput)

/-- The record identifiers of the seen dossiers that are not known. -/
def unknown : FrozenSet String :=
  data.seenRecordIds.filter fun recordId ↦ (data.existing.find? recordId).isNone

/-- The record identifiers of the seen dossiers that are known, and active or not. -/
def known (active : Bool) : FrozenSet String :=
  data.seenRecordIds.filter fun recordId ↦
    (data.existing.find? recordId).any fun existing ↦ existing.active == active

/-- The active dossiers that were not seen, each with its new absence count. -/
def absent : Table (Prod.fst : String × ℕ → String) :=
  data.existing.filterMap
    (fun existing ↦
      if !existing.active || decide (existing.recordId ∈ data.seenRecordIds) then none
      else some (existing.recordId, existing.missingCompletePolls + 1))
    fun existing r h ↦ by
      split at h
      · exact absurd h (by simp)
      · cases h; rfl

end ReconciliationInput

/-- Decide the lifecycle transitions of the dossiers for one poll. -/
def reconcile (data : ReconciliationInput) : ReconciliationResult :=
  if data.pollStatus = .authRequired ∨ data.pollStatus = .failed then
    { toCreate := .empty
      toReactivate := .empty
      toTouch := .empty
      absenceIncrements := .empty
      toDeactivate := .empty
      createNotifications := false
      isBaselinePoll := false
      reconciled := false }
  else
    let isBaselinePoll := !data.baselineAlreadyCompleted && data.pollStatus == .complete
    -- only a COMPLETE poll counts absences
    let absenceIncrements := if data.pollStatus = .complete then data.absent else .empty
    { toCreate := data.unknown
      toReactivate := data.known false
      toTouch := data.known true
      absenceIncrements := absenceIncrements
      toDeactivate :=
        (absenceIncrements.filter fun r ↦ decide (maxMissingCompletePolls ≤ r.2)).keys
      createNotifications := data.baselineAlreadyCompleted
      isBaselinePoll := isBaselinePoll
      reconciled := true }

/-! ## What a poll that read the queue decides -/

section Usable

variable {data : ReconciliationInput}
  (h : data.pollStatus = .complete ∨ data.pollStatus = .partialRead)

include h

theorem reconcile_usable : ¬ (data.pollStatus = .authRequired ∨ data.pollStatus = .failed) := by
  rcases h with h | h <;> simp [h]

theorem mem_toCreate {r : String} :
    r ∈ (reconcile data).toCreate ↔ r ∈ data.seenRecordIds ∧ data.existing.find? r = none := by
  rw [reconcile, if_neg (reconcile_usable h)]
  simp [ReconciliationInput.unknown]

theorem mem_toReactivate {r : String} :
    r ∈ (reconcile data).toReactivate ↔
      r ∈ data.seenRecordIds ∧ ∃ e, data.existing.find? r = some e ∧ e.active = false := by
  rw [reconcile, if_neg (reconcile_usable h)]
  simp [ReconciliationInput.known, Option.any_eq_true]

theorem mem_toTouch {r : String} :
    r ∈ (reconcile data).toTouch ↔
      r ∈ data.seenRecordIds ∧ ∃ e, data.existing.find? r = some e ∧ e.active = true := by
  rw [reconcile, if_neg (reconcile_usable h)]
  simp [ReconciliationInput.known, Option.any_eq_true]

/-- Only a COMPLETE poll counts absences, and only those of active dossiers. -/
theorem find?_absenceIncrements {r : String} {n : ℕ} :
    (reconcile data).absenceIncrements.find? r = some (r, n) ↔
      data.pollStatus = .complete ∧ r ∉ data.seenRecordIds ∧
        ∃ e, data.existing.find? r = some e ∧ e.active = true ∧
          n = e.missingCompletePolls + 1 := by
  rw [reconcile, if_neg (reconcile_usable h)]
  dsimp only
  split
  · rename_i hc
    rw [ReconciliationInput.absent, Table.find?_filterMap, Option.bind_eq_some_iff]
    simp only [hc, true_and]
    constructor
    · rintro ⟨e, he, hn⟩
      have hid := Table.key_of_find? he
      split at hn
      · cases hn
      · rename_i hcond
        cases hn
        simp only [Bool.or_eq_true, Bool.not_eq_true', decide_eq_true_eq, not_or,
          Bool.not_eq_false] at hcond
        exact ⟨hcond.2, e, he, hcond.1, rfl⟩
    · rintro ⟨hseen, e, he, hactive, rfl⟩
      have hid := Table.key_of_find? he
      subst hid
      exact ⟨e, he, by simp [hactive, hseen]⟩
  · rename_i hc
    simp [hc]

theorem mem_toDeactivate {r : String} :
    r ∈ (reconcile data).toDeactivate ↔
      ∃ n, (reconcile data).absenceIncrements.find? r = some (r, n) ∧
        maxMissingCompletePolls ≤ n := by
  rw [reconcile, if_neg (reconcile_usable h)]
  dsimp only
  rw [Table.mem_keys, Table.find?_filter, Option.isSome_iff_exists]
  constructor
  · rintro ⟨⟨r', n⟩, hr⟩
    obtain ⟨hr, hn⟩ := Option.filter_eq_some_iff.mp hr
    have hid : r' = r := Table.key_of_find? hr
    subst hid
    exact ⟨n, hr, by simpa using hn⟩
  · rintro ⟨n, hr, hn⟩
    exact ⟨(r, n), Option.filter_eq_some_iff.mpr ⟨hr, by simpa using hn⟩⟩

theorem createNotifications_eq :
    (reconcile data).createNotifications = data.baselineAlreadyCompleted := by
  rw [reconcile, if_neg (reconcile_usable h)]

theorem isBaselinePoll_eq :
    (reconcile data).isBaselinePoll =
      (!data.baselineAlreadyCompleted && data.pollStatus == .complete) := by
  rw [reconcile, if_neg (reconcile_usable h)]

end Usable

end RmaPortal
