import RmaPortal.Presence.Freshness
import RmaPortal.Synchronization.DetailSaves

/-!
# Details after a change of status

When a poll finds that the status of a dossier has changed, it reads the dossier's details again.
That it has to is known inside this poll only: the new status is committed with the reconciliation,
before the detail phase.  If the phase is cut short before the dossier's turn, nothing that is
stored says that its details are out of date, unless they were incomplete anyway or had no quote
date; the poll has abandoned the dossier.

## What is here

* `Poll.Abandons` — the poll was cut short (`CutsShort`, which is about what it was answered) when
  the turn of a dossier had not come whose new status it had just stored.
* `DetailsUpToDate` — the details of a record have been read since the last change of its status.
  It is `Presence.UpToDate`, of any run of any polls, with the two events filled in.
* `Poll.upToDate_after` — the step: what one poll does to that.  A poll that was not cut short has
  read the details of every dossier in its queue, and a dossier with a new status is in the queue
  because `touch` finds that it is new.  This is where the code is needed; no hypothesis speaks of
  the queue.
* `details_upToDate` — the payoff, from the step by induction over the run: **if no poll abandons a
  dossier**, then whenever a poll has come to the end of its detail phase, the details of the
  dossiers it saw that count as complete have been read since the last change of their status.

`not_details_upToDate` is the run of three polls that shows what a single abandoned dossier does:
the third poll, to which nothing happens at all, does not catch up.
-/

set_option autoImplicit false

open Coroutine Presence

namespace RmaPortal

open SyncAgreementQueue

/-- The poll changed the stored status of a record, or stored one for the first time. -/
def Poll.changesStatus (accountId : ℕ) (r : String) (p : Poll) : Bool :=
  (p.after.dossier accountId r).map Dossier.portalStatus !=
    (p.before.dossier accountId r).map Dossier.portalStatus

/-- The poll read the details of a record. -/
def Poll.readsDetails (r : String) (p : Poll) : Bool :=
  p.detailReads.any fun e ↦ e.ref.recordId == r && e.succeeded

/-- The poll reconciled and came to the end of its detail phase: everything it read was saved. -/
def Poll.FinishesDetails (p : Poll) : Prop :=
  p.report.isSome ∧ ∀ e ∈ p.detailReads, e.saved = true

/-- The poll was cut short before the turn of a dossier of which it had seen a new status: the
dossier is active, its details count as complete and have a quote date, and they were neither read
nor was it recorded that they could not be read. -/
def Poll.Abandons (accountId : ℕ) (r : String) (p : Poll) : Prop :=
  CutsShort p.trace ∧ ∃ d row, p.before.dossier accountId r = some d ∧ p.rowOf r = some row ∧
    d.active = true ∧ d.detailComplete = true ∧ missingRequiredQuoteDate d = false ∧
    row.portalStatus ≠ d.portalStatus ∧
    ∀ e, p.readOf r = some e → e.succeeded = false ∧ e.committed = none

/-- The details of a record have been read since the last change of its status. -/
abbrev DetailsUpToDate (accountId : ℕ) (r : String) (ps : List Poll) : Prop :=
  UpToDate (Poll.changesStatus accountId r) (Poll.readsDetails r) ps

section

variable {H : Type} {F : PortalReaderFactory H} {p : Poll} {status : PollStatus}
  {snapshot : QueueSnapshot} {account : PortalAccount} {needing : Table Dossier.id}
  {obs : List PollEvent} {mid last : Database}

/-- A read that is found is one of the poll's. -/
theorem Poll.readsDetails_of_readOf {r : String} {e : DetailRead} (h : p.readOf r = some e)
    (hsucceeded : e.succeeded = true) : p.readsDetails r = true := by
  rw [Poll.readsDetails, List.any_eq_true]
  have hr := List.find?_some h
  exact ⟨e, List.mem_of_find?_eq_some h, by simp only [hr, hsucceeded, Bool.and_self]⟩

/-- If the details are complete after a poll that has not read them, it has not changed them. -/
theorem applyRead_complete {r : String} {d : Dossier}
    (hcomplete : (applyRead (p.readOf r) d).detailComplete = true)
    (hread : p.readsDetails r = false) :
    (p.readOf r).bind DetailRead.committed = none ∧ applyRead (p.readOf r) d = d ∧
      ∀ e, p.readOf r = some e → e.succeeded = false ∧ e.committed = none := by
  have hnot : ∀ e, p.readOf r = some e → e.succeeded = false := fun e he ↦ by
    by_contra hs
    rw [Bool.not_eq_false] at hs
    rw [Poll.readsDetails_of_readOf he hs] at hread
    cases hread
  have hnone : (p.readOf r).bind DetailRead.committed = none := by
    cases he : p.readOf r with
    | none => rfl
    | some e =>
      cases hc : e.committed with
      | none => exact hc
      | some details =>
        obtain ⟨-, -, hincomplete⟩ := DetailRead.committed_of_not_succeeded hc (hnot e he)
        rw [he, applyRead_of_committed (show (some e).bind _ = some details from hc)] at hcomplete
        exact absurd hcomplete (by rw [← Bool.not_eq_true] at hincomplete; exact hincomplete)
  refine ⟨hnone, applyRead_of_not_committed hnone d, fun e he ↦ ⟨hnot e he, ?_⟩⟩
  rw [he] at hnone
  exact hnone

/-- A dossier that the reconciliation leaves complete was there before, and was not seen, or was
active and touched. -/
theorem reconcileRow_complete {accountId : ℕ} {baseline : Bool} {now : Datetime}
    {row? : Option QueueRow} {id : ℕ} {v : Option Tracked} {y : Tracked}
    (h : reconcileRow accountId status baseline now row? id v = some y)
    (hcomplete : y.dossier.detailComplete = true) :
    ∃ x, v = some x ∧
      ((row? = none ∧ y.dossier.dates = x.dossier.dates ∧
          y.dossier.detailComplete = x.dossier.detailComplete ∧
          y.dossier.portalStatus = x.dossier.portalStatus) ∨
        ∃ row, row? = some row ∧ x.dossier.active = true ∧ y = x.touch row now) := by
  cases v with
  | none =>
    obtain ⟨row, -, rfl⟩ := Option.map_eq_some_iff.mp h
    cases hcomplete
  | some x =>
    refine ⟨x, rfl, ?_⟩
    cases row? with
    | none =>
      left
      rw [reconcileRow] at h
      rw [← Option.some.inj h]
      split <;> exact ⟨rfl, rfl, rfl, rfl⟩
    | some row =>
      right
      rw [reconcileRow] at h
      have hy := Option.some.inj h
      split at hy
      · rename_i hactive
        exact ⟨row, rfl, hactive, hy.symm⟩
      · rw [← hy] at hcomplete
        cases hcomplete

/-- **One poll keeps the details up to date**, if it does not abandon the dossier. -/
theorem Poll.upToDate_after (hrun : p.IsRun F) {accountId : ℕ}
    (hacc : defaultId p.before = some accountId) {r : String} (hkeep : ¬p.Abandons accountId r)
    {ps : List Poll} (hbefore : ∀ d, p.before.dossier accountId r = some d →
      d.detailComplete = true → missingRequiredQuoteDate d = false → DetailsUpToDate accountId r ps)
    {d : Dossier} (hd : p.after.dossier accountId r = some d) (hcomplete : d.detailComplete = true)
    (hquote : missingRequiredQuoteDate d = false ∨ (p.FinishesDetails ∧ p.saw r = true)) :
    DetailsUpToDate accountId r (ps ++ [p]) := by
  cases hread : p.readsDetails r with
  | true => exact upToDate_of_read hread
  | false =>
  cases hreport : p.report with
  | none =>
    have hsame : p.after.dossier accountId r = p.before.dossier accountId r := by
      rw [Database.dossier, (Poll.sameDataset hrun hreport).dossiers]
      rfl
    have hquote' : missingRequiredQuoteDate d = false := by
      rcases hquote with hquote | ⟨hfinishes, -⟩
      · exact hquote
      · rw [Poll.FinishesDetails, hreport] at hfinishes
        cases hfinishes.1
    exact (hbefore d (hsame ▸ hd) hcomplete hquote').concat (by simp [Poll.changesStatus, hsame])
  | some x =>
    obtain ⟨status, snapshot⟩ := x
    obtain ⟨account, needing, obs, mid, last, he⟩ := Poll.effective hrun hreport
    obtain rfl := he.id_eq hacc
    obtain ⟨id, y, hview, hrow, rfl⟩ := he.dossier_after hd
    obtain ⟨hnone, hsame, hnot⟩ := applyRead_complete hcomplete hread
    rw [hsame] at hd hcomplete hquote
    obtain ⟨x, hx, hcases⟩ := reconcileRow_complete hrow hcomplete
    obtain ⟨d₀, hd₀, rfl⟩ := Option.map_eq_some_iff.mp hx
    have hrowOf : p.rowOf r = (Table.ofList snapshot.rows : Table QueueRow.recordId).find? r := by
      rw [Poll.rowOf, hreport]
      rfl
    have hd₀ : p.before.dossier account.id r = some d₀ := hd₀
    rcases hcases with ⟨hunseen, hdates, hcomplete₀, hstatus⟩ | ⟨row, hseen, hactive, rfl⟩
    · -- a dossier that was not seen is as it was
      have hquote' : missingRequiredQuoteDate y.dossier = false := by
        rcases hquote with hquote | ⟨-, hsaw⟩
        · exact hquote
        · rw [Poll.saw_iff hreport, hunseen] at hsaw
          cases hsaw
      refine (hbefore d₀ hd₀ (hcomplete₀ ▸ hcomplete) ?_).concat ?_
      · rw [missingRequiredQuoteDate, hdates] at hquote'
        exact hquote'
      · simp [Poll.changesStatus, hd, hd₀, hstatus]
    · -- a dossier without a quote date would have been read again
      have hquote' : missingRequiredQuoteDate ((DossierRepository.touched row p.startedAt).apply d₀)
          = false := by
        rcases hquote with hquote | ⟨hfinishes, -⟩
        · exact hquote
        · by_contra hmissing
          rw [Bool.not_eq_false] at hmissing
          obtain ⟨details, hcommitted⟩ := he.exists_readOf hfinishes.2 hview
            (by simp [Tracked.touch, hmissing])
          rw [hnone] at hcommitted
          cases hcommitted
      by_cases hstatus : row.portalStatus = d₀.portalStatus
      · refine (hbefore d₀ hd₀ hcomplete hquote').concat ?_
        rw [Poll.changesStatus, hd, hd₀, Option.map_some, Option.map_some, ← hstatus]
        exact bne_self_eq_false _
      · -- neither would one with a new status have been left out, unless the poll was cut short
        refine absurd ⟨?_, d₀, row, hd₀, hrowOf.trans hseen, hactive, hcomplete, hquote', hstatus,
          hnot⟩ hkeep
        by_contra hcut
        obtain ⟨details, hcommitted⟩ := he.exists_readOf (Poll.saved_of_not_cutsShort hrun hcut)
          hview (by simp [Tracked.touch, Ne.symm hstatus])
        rw [hnone] at hcommitted
        cases hcommitted

/-- In a run in which no poll abandons a dossier, details that count as complete and have a quote
date are up to date. -/
theorem Polls.upToDate {db db' : Database} {ps : List Poll} (h : Polls F db ps db') {accountId : ℕ}
    (hacc : defaultId db = some accountId) {r : String}
    (hkeep : ∀ p ∈ ps, ¬p.Abandons accountId r) {d : Dossier}
    (hd : db'.dossier accountId r = some d) (hcomplete : d.detailComplete = true)
    (hquote : missingRequiredQuoteDate d = false) : DetailsUpToDate accountId r ps := by
  induction h generalizing d with
  | nil => exact upToDate_nil
  | @concat mid ps p h hbetween hrun ih =>
    have hacc' : defaultId p.before = some accountId := by
      rw [hbetween.defaultId_eq, h.defaultId_eq, hacc]
    refine Poll.upToDate_after hrun hacc' (hkeep p (by simp)) (fun d₀ hd₀ hc hq ↦ ?_) hd hcomplete
      (Or.inl hquote)
    refine ih (fun q hq ↦ hkeep q (List.mem_append_left _ hq)) ?_ hc hq
    rw [Database.dossier, hbetween.dossiers] at hd₀
    exact hd₀

/-- **A changed status is not left without a detail refresh**, in a run in which no poll abandons a
dossier: after every poll that comes to the end of its detail phase, the details of every dossier
that it saw, that is active and whose details count as complete have been read since the last change
of its status. -/
theorem details_upToDate {db db' : Database} {qs : List Poll} (h : Polls F db qs db')
    {accountId : ℕ} (hacc : defaultId db = some accountId)
    (hkeep : ∀ p ∈ qs, ∀ r, ¬p.Abandons accountId r) :
    ∀ ps p rest, qs = ps ++ p :: rest → p.FinishesDetails →
      ∀ r d, p.saw r = true → p.after.dossier accountId r = some d → d.active = true →
        d.detailComplete = true → DetailsUpToDate accountId r (ps ++ [p]) := by
  rintro ps p rest rfl hfinishes r d hsaw hd - hcomplete
  obtain ⟨mid, hps, hbetween, hrun⟩ := h.take rfl
  have hacc' : defaultId p.before = some accountId := by
    rw [hbetween.defaultId_eq, hps.defaultId_eq, hacc]
  refine Poll.upToDate_after hrun hacc' (hkeep p (by simp) r) (fun d₀ hd₀ hc hq ↦ ?_) hd hcomplete
    (Or.inr ⟨hfinishes, hsaw⟩)
  refine hps.upToDate hacc (fun q hq ↦ hkeep q (List.mem_append_left _ hq) r) ?_ hc hq
  rw [Database.dossier, hbetween.dossiers] at hd₀
  exact hd₀

end

/-- A dossier is seen and its details are read; its status changes and the session expires before
its details are read; the session is back. -/
def expiredInBetween : List Script :=
  [.shows [.ofStatus "a" "open"] (.ok .quoted),
    .shows [.ofStatus "a" "closed"] (.error (.portalAuthRequiredError "")),
    .shows [.ofStatus "a" "closed"] (.ok .quoted)]

/-- The third of these polls does not catch up. -/
theorem not_details_upToDate :
    ¬∀ (db db' : Database) (qs : List Poll) (accountId : ℕ),
      Polls (camoufoxPortalReaderFactory .standard) db qs db' → defaultId db = some accountId →
        ∀ ps p rest, qs = ps ++ p :: rest → p.FinishesDetails →
          ∀ r d, p.saw r = true → p.after.dossier accountId r = some d → d.active = true →
            d.detailComplete = true → DetailsUpToDate accountId r (ps ++ [p]) := by
  intro h
  have hpolls := polls_scripted (camoufoxPortalReaderFactory .standard)
    (.ofAccount (.unpolled 1)) expiredInBetween
  let p₁ := Poll.scripted (camoufoxPortalReaderFactory .standard) (.ofAccount (.unpolled 1))
    (.shows [.ofStatus "a" "open"] (.ok .quoted))
  let p₂ := Poll.scripted (camoufoxPortalReaderFactory .standard) p₁.after
    (.shows [.ofStatus "a" "closed"] (.error (.portalAuthRequiredError "")))
  let p₃ := Poll.scripted (camoufoxPortalReaderFactory .standard) p₂.after
    (.shows [.ofStatus "a" "closed"] (.ok .quoted))
  have hstored : (p₃.after.dossier 1 "a").any (fun d ↦ d.active && d.detailComplete) = true := by
    decide +kernel
  obtain ⟨d, hd, hcolumns⟩ := (Option.any_eq_true _ _).mp hstored
  obtain ⟨hactive, hcomplete⟩ := (Bool.and_eq_true _ _).mp hcolumns
  have hup := h _ _ _ 1 hpolls rfl [p₁, p₂] p₃ [] rfl ⟨by decide +kernel, by decide +kernel⟩ "a" d
    (by decide +kernel) hd hactive hcomplete
  obtain ⟨q, hq, hread⟩ := hup [p₁] p₂ [p₃] rfl (by decide +kernel) (by
    intro q hq
    rw [List.mem_singleton.mp hq]
    decide +kernel)
  have hnone : ∀ q ∈ [p₂, p₃], q.readsDetails "a" = false := by
    intro q hq
    rcases List.mem_cons.mp hq with rfl | hq
    · decide +kernel
    · rw [List.mem_singleton.mp hq]
      decide +kernel
  rw [hnone q hq] at hread
  cases hread

/-- A dossier is seen, and then seen again with another status; both times its details are read. -/
def readBothTimes : List Script :=
  [.shows [.ofStatus "a" "open"] (.ok .quoted), .shows [.ofStatus "a" "closed"] (.ok .quoted)]

/-- A dossier that was found is stored under its record identifier. -/
theorem Database.mem_of_dossier {db : Database} {accountId : ℕ} {r : String} {d : Dossier}
    (h : db.dossier accountId r = some d) : d ∈ db.dossiers.rows ∧ d.recordId = r := by
  have hkey : d.recordKey = (accountId, r) := Table.key_of_find? (t := db.dossiers.byRecord) h
  exact ⟨Table.mem_of_find? (t := db.dossiers.byRecord) h, (Prod.mk.inj hkey).2⟩

/-- The second of these polls keeps up. -/
theorem details_upToDate_readBothTimes :
    DetailsUpToDate 1 "a" (scriptedPolls (camoufoxPortalReaderFactory .standard)
      (.ofAccount (.unpolled 1)) readBothTimes) := by
  let p₁ := Poll.scripted (camoufoxPortalReaderFactory .standard) (.ofAccount (.unpolled 1))
    (.shows [.ofStatus "a" "open"] (.ok .quoted))
  let p₂ := Poll.scripted (camoufoxPortalReaderFactory .standard) p₁.after
    (.shows [.ofStatus "a" "closed"] (.ok .quoted))
  have hkeep : ∀ p ∈ [p₁, p₂], ∀ r, ¬p.Abandons 1 r := by
    have honly : ∀ p ∈ [p₁, p₂], ∀ d ∈ p.before.dossiers.rows, d.recordId = "a" := by decide +kernel
    have hread : ∀ p ∈ [p₁, p₂], (p.readOf "a").any DetailRead.succeeded = true := by decide +kernel
    rintro p hp r ⟨-, d, row, hd, -, -, -, -, -, hnot⟩
    obtain ⟨hmem, hr⟩ := Database.mem_of_dossier hd
    obtain ⟨e, he, hsucceeded⟩ := (Option.any_eq_true _ _).mp (hread p hp)
    rw [← hr, honly p hp d hmem] at hnot
    rw [(hnot e he).1] at hsucceeded
    cases hsucceeded
  have hstored : (p₂.after.dossier 1 "a").any (fun d ↦ d.active && d.detailComplete) = true := by
    decide +kernel
  obtain ⟨d, hd, hcolumns⟩ := (Option.any_eq_true _ _).mp hstored
  obtain ⟨hactive, hcomplete⟩ := (Bool.and_eq_true _ _).mp hcolumns
  exact details_upToDate (polls_scripted (camoufoxPortalReaderFactory .standard)
    (.ofAccount (.unpolled 1)) readBothTimes) rfl hkeep [p₁] p₂ [] rfl
    ⟨by decide +kernel, by decide +kernel⟩ "a" d (by decide +kernel) hd hactive hcomplete

end RmaPortal
