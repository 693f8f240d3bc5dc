import RmaPortal.Synchronization.Runs

/-!
# When a record has been seen

A poll sees a record if the record is in the queue that the poll has read and reconciled.  The
poll need not have come to its end for this, and so it is said of what the poll has been answered
so far.

## What is here

* `sees` — whether a run of `execute` that was answered so has seen a record and reconciled it.
* `sightings` — when the polls began that have seen a record, in the order of the polls.
* `firstSeenAt_reconcileRow`, `lastSeenAt_reconcileRow`, `applyRead_firstSeenAt`,
  `applyRead_lastSeenAt` — the two columns of a dossier, through the reconciliation and through
  the detail phase: a dossier keeps the time at which it was first seen, and notes the time
  whenever it is seen.
* `SeenAt` — what polls say of one record: its dossier was first seen when it was there before, or
  else at the first of the sightings, and was last seen at the last of them.  It is closed under
  composition, so that `Polls.seenAt` is an induction on the polls with `Poll.seenAt` for the
  step.
* `Poll.find?_foreign`, `Polls.find?_foreign`, `Polls.account_of_mem` — polls are about the
  default account; dossiers of other accounts are left alone, and if there was no dossier at
  first, there is none of another account.
* `Polls.exists_dossier` — a record that has been seen has a dossier.
-/

set_option autoImplicit false

namespace RmaPortal

open SyncAgreementQueue

/-- Whether a run of `execute` that was answered so has seen a record, and reconciled. -/
def sees (recordId : String) (t : List Happening) : Bool :=
  match observed t with
  | .queueRead answer :: .reconciled :: _ =>
    (queueReport answer).any fun x ↦ decide (recordId ∈ x.2.rows.map QueueRow.recordId)
  | _ => false

/-- When the polls began that have seen a record. -/
def sightings (recordId : String) (traces : List (List Happening)) : List Datetime :=
  (traces.filter (sees recordId)).map startedAt

theorem sightings_append (recordId : String) (ts ts' : List (List Happening)) :
    sightings recordId (ts ++ ts') = sightings recordId ts ++ sightings recordId ts' := by
  rw [sightings, List.filter_append, List.map_append, sightings, sightings]

theorem sightings_singleton (recordId : String) (t : List Happening) :
    sightings recordId [t] = if sees recordId t then [startedAt t] else [] := by
  rw [sightings]
  split
  · rename_i h
    rw [List.filter_cons_of_pos h]
    rfl
  · rename_i h
    rw [List.filter_cons_of_neg h]
    rfl

theorem Poll.sees_trace (p : Poll) (recordId : String) :
    sees recordId p.trace = p.saw recordId := by
  have hreport (report : Option (PollStatus × QueueSnapshot)) :
      (report.any fun x ↦ decide (recordId ∈ x.2.rows.map QueueRow.recordId)) =
        decide (recordId ∈ report.elim [] fun x ↦ x.2.rows.map QueueRow.recordId) := by
    cases report <;> simp
  rw [sees, Poll.saw, Poll.seen, Poll.report]
  rcases observed p.trace with _ | ⟨x, _ | ⟨y, obs⟩⟩
  · exact hreport none
  · cases x <;> exact hreport none
  · cases x <;> cases y <;> first | exact hreport none | exact hreport (queueReport _)

/-! ## One poll -/

section Dossier

variable (e? : Option DetailRead) (d : Dossier)

@[simp] theorem applyRead_firstSeenAt : (applyRead e? d).firstSeenAt = d.firstSeenAt := by
  rw [applyRead]
  split <;> rfl

@[simp] theorem applyRead_lastSeenAt : (applyRead e? d).lastSeenAt = d.lastSeenAt := by
  rw [applyRead]
  split <;> rfl

end Dossier

section Row

variable {accountId : ℕ} {status : PollStatus} {baseline : Bool} {now : Datetime}

/-- A dossier keeps the time at which it was first seen. -/
theorem firstSeenAt_reconcileRow (row? : Option QueueRow) (id : ℕ) (x? : Option Tracked) :
    (reconcileRow accountId status baseline now row? id x?).map (·.dossier.firstSeenAt) =
      (x?.map (·.dossier.firstSeenAt)).or (row?.map fun _ ↦ now) := by
  cases x? with
  | none => cases row? <;> rfl
  | some x =>
    cases row? <;>
    · rw [reconcileRow]
      split <;> rfl

/-- A dossier that is seen notes the time. -/
theorem lastSeenAt_reconcileRow (row? : Option QueueRow) (id : ℕ) (x? : Option Tracked) :
    (reconcileRow accountId status baseline now row? id x?).map (·.dossier.lastSeenAt) =
      (row?.map fun _ ↦ now).or (x?.map (·.dossier.lastSeenAt)) := by
  cases x? with
  | none => cases row? <;> rfl
  | some x =>
    cases row? <;>
    · rw [reconcileRow]
      split <;> rfl

end Row

/-- What polls say of one record: its dossier in `after` was first seen when it was in `before`, or
else at the first of the sightings, and was last seen at the last of them. -/
structure SeenAt (sightings : List Datetime) (before after : Option Dossier) : Prop where
  first : after.map Dossier.firstSeenAt = (before.map Dossier.firstSeenAt).or sightings.head?
  last : after.map Dossier.lastSeenAt = sightings.getLast?.or (before.map Dossier.lastSeenAt)

theorem SeenAt.refl (d? : Option Dossier) : SeenAt [] d? d? := ⟨by simp, by simp⟩

theorem SeenAt.trans {l l' : List Datetime} {d? d₁? d₂? : Option Dossier} (h : SeenAt l d? d₁?)
    (h' : SeenAt l' d₁? d₂?) : SeenAt (l ++ l') d? d₂? where
  first := by rw [h'.first, h.first, List.head?_append, Option.or_assoc]
  last := by rw [h'.last, h.last, List.getLast?_append, Option.or_assoc]

section Poll

variable {H : Type} {F : PortalReaderFactory H} {p : Poll}

/-- **One poll** sees a record or not, and its dossier shows it. -/
theorem Poll.seenAt (h : p.IsRun F) {accountId : ℕ} (hacc : defaultId p.before = some accountId)
    (r : String) :
    SeenAt (sightings r [p.trace]) (p.before.dossier accountId r)
      (p.after.dossier accountId r) := by
  rw [sightings_singleton, p.sees_trace]
  cases hreport : p.report with
  | none =>
    have hsaw : p.saw r = false := by simp [Poll.saw, Poll.seen, hreport]
    rw [hsaw, Database.dossier, Database.dossier, (Poll.sameDataset h hreport).dossiers]
    exact .refl _
  | some x =>
    obtain ⟨status, snapshot⟩ := x
    obtain ⟨account, needing, obs, mid, last, he⟩ := Poll.effective h hreport
    obtain rfl := he.id_eq hacc
    obtain ⟨id, hrow⟩ := he.row r
    generalize hrow? : (Table.ofList snapshot.rows : Table QueueRow.recordId).find? r = row?
      at hrow
    have hsightings : (if p.saw r then [RmaPortal.startedAt p.trace] else []) =
        (row?.map fun _ ↦ p.startedAt).toList := by
      rw [Poll.saw_iff hreport, hrow?]
      cases row? <;> rfl
    have hbefore (f : Dossier → Datetime) :
        (unreconciled account.id p.before (account.id, r)).map (fun x ↦ f x.dossier) =
          (p.before.dossier account.id r).map f := by
      rw [unreconciled, Option.map_map]
      rfl
    have hafter (f : Dossier → Datetime) (hf : ∀ d, f (applyRead (p.readOf r) d) = f d) :
        (p.after.dossier account.id r).map f =
          (reconcileRow account.id status account.baselineCompletedAt.isSome p.startedAt row? id
            (unreconciled account.id p.before (account.id, r))).map fun x ↦ f x.dossier := by
      have hfst := congrArg (Option.map fun x ↦ f x.1) hrow
      rw [Option.map_map, Option.map_map] at hfst
      simpa [Function.comp_def, hf] using hfst
    rw [hsightings]
    refine ⟨?_, ?_⟩
    · rw [hafter _ fun d ↦ applyRead_firstSeenAt _ d, firstSeenAt_reconcileRow, hbefore]
      cases row? <;> rfl
    · rw [hafter _ fun d ↦ applyRead_lastSeenAt _ d, lastSeenAt_reconcileRow, hbefore]
      cases row? <;> rfl

/-- A poll leaves the dossiers of other accounts than the default one alone. -/
theorem Poll.find?_foreign (h : p.IsRun F) {k : ℕ × String} (hk : defaultId p.before ≠ some k.1) :
    p.after.dossiers.byRecord.find? k = p.before.dossiers.byRecord.find? k := by
  cases hreport : p.report with
  | none => rw [(Poll.sameDataset h hreport).dossiers]
  | some x =>
    obtain ⟨account, needing, obs, mid, last, he⟩ := Poll.effective h hreport
    refine he.foreign fun hid ↦ hk ?_
    rw [defaultId, he.getDefault, hid]
    rfl

/-- A poll that has seen a record is about an account. -/
theorem Poll.exists_defaultId (h : p.IsRun F) {r : String} (hsaw : p.saw r) :
    ∃ accountId, defaultId p.before = some accountId := by
  cases hreport : p.report with
  | none => simp [Poll.saw, Poll.seen, hreport] at hsaw
  | some x =>
    obtain ⟨account, needing, obs, mid, last, he⟩ := Poll.effective h hreport
    refine ⟨account.id, ?_⟩
    rw [defaultId, he.getDefault]
    rfl

end Poll

/-! ## Any number of polls -/

section Polls

variable {H : Type} {F : PortalReaderFactory H} {db db' : Database} {ps : List Poll}

/-- **The dossiers of the default account** carry the times of the first and of the last sighting.
-/
theorem Polls.seenAt (h : Polls F db ps db') {accountId : ℕ} (hacc : defaultId db = some accountId)
    (r : String) :
    SeenAt (sightings r (ps.map Poll.trace)) (db.dossier accountId r)
      (db'.dossier accountId r) := by
  induction h with
  | nil => exact .refl _
  | @concat mid ps p h hbetween hrun ih =>
    have hacc' : defaultId p.before = some accountId := by
      rw [hbetween.defaultId_eq, h.defaultId_eq, hacc]
    have hmid : mid.dossier accountId r = p.before.dossier accountId r := by
      rw [Database.dossier, Database.dossier, hbetween.dossiers]
    rw [List.map_append, sightings_append]
    exact (hmid ▸ ih).trans (Poll.seenAt hrun hacc' r)

theorem Polls.find?_foreign (h : Polls F db ps db') {k : ℕ × String}
    (hk : defaultId db ≠ some k.1) :
    db'.dossiers.byRecord.find? k = db.dossiers.byRecord.find? k := by
  induction h with
  | nil => rfl
  | @concat mid ps p h hbetween hrun ih =>
    have hk' : defaultId p.before ≠ some k.1 := by
      rwa [hbetween.defaultId_eq, h.defaultId_eq]
    rw [Poll.find?_foreign hrun hk', hbetween.dossiers, ih]

/-- If there was no dossier, then every dossier belongs to the default account. -/
theorem Polls.account_of_mem (h : Polls F db ps db') (hempty : db.dossiers.rows = [])
    {d : Dossier} (hd : d ∈ db'.dossiers.rows) : defaultId db = some d.portalAccountId := by
  by_contra hne
  have hfound : db'.dossiers.byRecord.find? d.recordKey = some d :=
    Table.find?_of_mem (t := db'.dossiers.byRecord) hd
  rw [h.find?_foreign (k := d.recordKey) hne] at hfound
  have hmem := Table.mem_of_find? (t := db.dossiers.byRecord) hfound
  rw [DossierTable.byRecord, hempty] at hmem
  cases hmem

/-- A record that has been seen has a dossier. -/
theorem Polls.exists_dossier (h : Polls F db ps db') {r : String}
    (hr : sightings r (ps.map Poll.trace) ≠ []) : ∃ d ∈ db'.dossiers.rows, d.recordId = r := by
  obtain ⟨at₀, hat₀⟩ := List.exists_mem_of_ne_nil _ hr
  obtain ⟨t, ht, -⟩ := List.mem_map.mp hat₀
  obtain ⟨hmem, hsees⟩ := List.mem_filter.mp ht
  obtain ⟨q, hq, rfl⟩ := List.mem_map.mp hmem
  obtain ⟨hrun, hdefault⟩ := h.of_mem hq
  obtain ⟨accountId, hacc⟩ := Poll.exists_defaultId hrun ((q.sees_trace r).symm.trans hsees)
  have hfirst := (h.seenAt (hdefault ▸ hacc) r).first
  cases hd : db'.dossier accountId r with
  | some d =>
    exact ⟨d, Table.mem_of_find? (t := db'.dossiers.byRecord) hd,
      congrArg Prod.snd (Table.key_of_find? hd)⟩
  | none =>
    rw [hd, Option.map_none] at hfirst
    have hhead := (Option.or_eq_none_iff.mp hfirst.symm).2
    exact (hr (List.head?_eq_none_iff.mp hhead)).elim

end Polls

end RmaPortal
