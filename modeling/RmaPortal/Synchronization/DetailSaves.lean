import RmaPortal.Synchronization.Books
import RmaPortal.Synchronization.OpenTransactions
import RmaPortal.Synchronization.Runs

/-!
# What cuts a detail phase short

The detail phase reads the details of one dossier after the other and saves each before it goes on
to the next.  This file says what can make a read stay without its save: what the poll is told from
outside, and nothing else.

## What is here

* `CutsShort` — a run is told to break the phase off: a read of details raises something that the
  phase does not handle (the session is gone, the task is cancelled), or a transaction that saves
  details fails.  It is a property of the answers alone, whatever the code makes of them.
* `Settled` — after every read of details the next thing observed is that they have been saved,
  unless the run is cut short.  Runs that are settled are so one after the other
  (`composes_settled`), so that a program is settled if its parts are; of the parts of a poll only
  the turns of the detail phase read details at all (`settles_enrichDossier`).
* `Poll.saved_of_not_cutsShort` — the payoff: **in a poll that is not cut short every read is
  saved**.  The queue of the phase has then been gone through to its end.

The recorded trace has no word for an attempt that was not made, so that the absence of a save has
to be argued from the program.  That is why this is about runs of programs, and not about lists of
events.
-/

set_option autoImplicit false

open Coroutine

namespace RmaPortal

open SyncAgreementQueue

/-- The detail phase of the run was cut short: a read of details raised something else than
`DetailReadError`, a cancellation for instance, or what was read could not be saved. -/
def CutsShort (t : List Happening) : Prop :=
  (∃ ref e, (⟨.reader (.readDossierDetails ref), .error e⟩ : Happening) ∈ t ∧
    ∀ message, e ≠ .detailReadError message) ∨ Fails .detailSave t

theorem CutsShort.append_left {t : List Happening} (h : CutsShort t) (t' : List Happening) :
    CutsShort (t' ++ t) := by
  refine h.imp ?_ (·.append_left t')
  rintro ⟨ref, e, hmem, he⟩
  exact ⟨ref, e, List.mem_append_right _ hmem, he⟩

theorem CutsShort.append_right {t : List Happening} (h : CutsShort t) (t' : List Happening) :
    CutsShort (t ++ t') := by
  refine h.imp ?_ (·.append_right t')
  rintro ⟨ref, e, hmem, he⟩
  exact ⟨ref, e, List.mem_append_left _ hmem, he⟩

/-! ## Settled runs -/

/-- A read of details. -/
def readEvent (ref : PortalDossierRef) (answer : Except Exn DossierDetails) : Happening :=
  ⟨.reader (.readDossierDetails ref), answer⟩

/-- What is observed next is that details have been saved. -/
def SavedNext (t : List Happening) : Prop := ∃ obs, observed t = .detailSaved :: obs

/-- After every read of details they are saved, unless the run is cut short. -/
def Settled (t : List Happening) : Prop :=
  ∀ t₁ ref answer t₂, t = t₁ ++ readEvent ref answer :: t₂ → CutsShort t ∨ SavedNext t₂

theorem composes_settled : Composes Settled where
  nil t₁ ref answer t₂ h := by simp at h
  append := by
    intro t t' ht ht' t₁ ref answer t₂ h
    rcases List.append_eq_append_iff.mp h with ⟨as, rfl, rfl⟩ | ⟨bs, rfl, hbs⟩
    · -- the read is one of the second part
      exact (ht' as ref answer t₂ rfl).imp_left (·.append_left _)
    · cases bs with
      | nil =>
        rw [List.nil_append] at hbs
        exact (ht' [] ref answer t₂ hbs.symm).imp_left (·.append_left _)
      | cons b bs =>
        -- the read is one of the first part, and so is what follows it
        obtain ⟨rfl, rfl⟩ : b = readEvent ref answer ∧ t₂ = bs ++ t' :=
          ⟨(List.cons.inj hbs).1.symm, (List.cons.inj hbs).2⟩
        refine (ht t₁ ref answer bs rfl).imp (·.append_right _) ?_
        rintro ⟨obs, hobs⟩
        exact ⟨obs ++ observed t', by rw [observed_append, hobs]; rfl⟩

/-- A request that does not read details. -/
def Request.IsOther (r : Request) : Prop := ∀ ref, r ≠ .reader (.readDossierDetails ref)

theorem settled_of_other {t : List Happening} (h : ∀ e ∈ t, e.1.IsOther) : Settled t := by
  rintro t₁ ref answer t₂ rfl
  exact (h (readEvent ref answer) (by simp) ref rfl).elim

/-- A turn of the detail phase, if the read is followed by its save. -/
theorem settled_turn {ref : PortalDossierRef} {answer : Except Exn DossierDetails}
    {t : List Happening} (ht : ∀ e ∈ t, e.1.IsOther)
    (h : CutsShort (readEvent ref answer :: t) ∨ SavedNext t) :
    Settled (readEvent ref answer :: t) := by
  intro t₁ ref' answer' t₂ heq
  rcases List.cons_eq_append_iff.mp heq with ⟨rfl, hcons⟩ | ⟨as, rfl, rfl⟩
  · obtain ⟨-, rfl⟩ := List.cons.inj hcons
    exact h
  · exact (ht (readEvent ref' answer') (by simp) ref' rfl).elim

/-- A part of a poll all of whose runs are settled. -/
abbrev Settles {α : Type} (c : Prog α) : Prop := EveryRun Settled c

section

variable {α : Type} {c : Prog α}

theorem settles_of_other (h : Only Request.IsOther c) : Settles c :=
  everyRun_of_only h fun _ ↦ settled_of_other

theorem settles_ask {r : Request} (h : r.IsOther) : Settles (ask r) :=
  settles_of_other (only_perform h)

theorem settles_of_isPortal (h : Only Request.IsPortal c) : Settles c := by
  refine settles_of_other (h.mono ?_)
  rintro _ hr ref rfl
  exact hr

theorem settles_bind {β : Type} {f : α → Prog β} (hc : Settles c) (hf : ∀ a, Settles (f a)) :
    Settles (c >>= f) := everyRun_bind composes_settled hc hf

theorem settles_done (o : Except Exn α) : Settles (.done o : Prog α) :=
  everyRun_done composes_settled o

theorem settles_attempt (h : Settles c) : Settles c.attempt := everyRun_attempt composes_settled h

/-- In a transaction no details are read. -/
theorem other_transaction {tx : Transaction} (h : Only Inside c) :
    Only Request.IsOther (transaction tx c) := by
  refine only_transaction nofun nofun nofun (h.mono ?_)
  rintro _ hr ref rfl
  rcases hr with hr | hr <;> cases hr

theorem settles_transaction {tx : Transaction} (h : Only Inside c) : Settles (transaction tx c) :=
  settles_of_other (other_transaction h)

end

/-! ## The parts of a poll -/

namespace SyncAgreementQueue

section

variable {accountId : ℕ} {now : Datetime} {d : Dossier}

/-- A transaction with one call of a repository, in which nothing fails. -/
theorem ends_saveDetails {details : DossierDetails} {t : List Happening} {x : Unit}
    (h : Ends (saveDetails d details) t (.ok x)) : SavedNext t := by
  obtain ⟨_ | _, _, t, -, rfl, h⟩ := h
  · cases h.2.1
  obtain ⟨_ | _, _, t, -, rfl, h⟩ := h
  · obtain ⟨_ | _, _, t, -, rfl, h⟩ := h <;> cases h.2.1
  obtain ⟨_ | _, _, t, -, rfl, h⟩ := h
  · obtain ⟨_ | _, _, t, -, rfl, h⟩ := h <;> cases h.2.1
  exact ⟨_, rfl⟩

theorem savedNext_or_fails {details : DossierDetails} {n : ℕ} {t : List Happening}
    {o : Except Exn ℕ} (h : Ends (do saveDetails d details; pure n) t o) :
    Fails .detailSave t ∨ SavedNext t := by
  rcases ends_bind_iff.mp h with ⟨e, hends, -⟩ | ⟨t₁, x, t₂, rfl, hends, hrest⟩
  · obtain ⟨r, hr, hmem⟩ := passesOn_transaction (passesOn_repo _) t e hends
    cases r with
    | uow q => exact .inl ⟨q, e, hr, hmem⟩
    | _ => exact hr.elim
  · obtain ⟨rfl, -⟩ := hrest
    rw [List.append_nil]
    exact .inr (ends_saveDetails hends)

/-- **A turn of the detail phase is settled.** -/
theorem settles_enrichDossier (n : ℕ) (d : Dossier) : Settles (enrichDossier n d) := by
  intro t o h
  obtain ⟨t₁, answer, t₂, rfl, hread, hsave⟩ := Ends.of_attempt_bind h
  obtain rfl := ends_perform_iff.mp hread
  have hturn (details : DossierDetails) (m : ℕ)
      (h : Ends (do saveDetails d details; pure m) t₂ o) :
      Settled (readEvent (asPortalRef d) answer :: t₂) := by
    have hother : Only Request.IsOther (do saveDetails d details; pure m : Prog ℕ) :=
      only_bind (other_transaction (inside_repo _)) fun _ ↦ only_pure _
    refine settled_turn (hother.of_ends h) ((savedNext_or_fails h).imp_left fun hfails ↦ ?_)
    exact .inr (hfails.append_left [readEvent (asPortalRef d) answer])
  split at hsave
  · exact hturn _ _ hsave
  · exact hturn _ _ hsave
  · rename_i e hne
    obtain ⟨rfl, -⟩ := hsave
    refine settled_turn (by simp) (.inl (.inl ⟨asPortalRef d, e, List.mem_cons_self, ?_⟩))
    rintro message rfl
    exact hne message rfl

theorem settles_readQueue : Settles readQueue := by
  refine settles_bind (settles_attempt (settles_ask nofun)) fun o ↦ ?_
  split <;> exact settles_done _

theorem settles_pollBody {completed : Bool} : Settles (pollBody accountId completed now) := by
  refine settles_bind (settles_attempt (settles_bind settles_readQueue fun x ↦ ?_)) fun o ↦ ?_
  · dsimp only
    split
    · exact settles_bind (settles_transaction inside_reconcileBody) fun _ ↦
        settles_bind (everyRun_foldlM composes_settled settles_enrichDossier _ _) fun _ ↦
          settles_done _
    · exact settles_done _
  · split
    · exact settles_done _
    · split <;> exact settles_done _

theorem settles_recordFailedPoll {error : String} :
    Settles (recordFailedPoll accountId now error) :=
  settles_bind (settles_ask nofun) fun _ ↦
    settles_bind (settles_transaction <| only_bind (inside_repo _) fun _ ↦
      only_bind (inside_repo _) fun _ ↦ only_bind (inside_repo _) fun _ ↦ inside_repo _)
    fun _ ↦ settles_done _

theorem settles_startPoll : Settles (startPoll accountId now) :=
  settles_transaction <| only_bind (inside_repo _) fun _ ↦
    only_bind (inside_repo _) fun _ ↦ only_pure _

theorem settles_finishPoll {pollRunId : ℕ} {report : PollReport} :
    Settles (finishPoll accountId pollRunId report) :=
  settles_bind (settles_ask nofun) fun _ ↦
    settles_bind (settles_transaction <| only_bind (inside_repo _) fun _ ↦ inside_repo _)
    fun _ ↦ settles_done _

theorem settles_enabledAccount : Settles enabledAccount := by
  refine settles_of_other (only_withUow nofun nofun
    (only_bind (only_perform nofun) fun account ↦ ?_))
  cases account <;> trivial

variable {H : Type} (F : PortalReaderFactory H)

theorem settles_closeReader (reader : H) : Settles (closeReader F reader) := by
  refine settles_bind (settles_attempt (everyRun_next composes_settled
    (settles_of_isPortal (F.aexit_portal reader)) fun o ↦ ?_)) fun o ↦ ?_
  · split <;> exact settles_done _
  · split
    · exact settles_done _
    · split <;> exact settles_done _

theorem settles_pollWith (reader : H) {completed : Bool} :
    Settles (pollWith F reader accountId completed now) := by
  refine settles_bind (settles_attempt settles_startPoll) fun o ↦ ?_
  split
  · split
    · refine settles_bind (settles_closeReader F reader) fun closed ↦ ?_
      split <;> exact settles_recordFailedPoll
    · exact settles_done _
  · exact settles_bind
      (everyRun_tryFinally composes_settled settles_pollBody (settles_closeReader F reader))
      fun x ↦ settles_finishPoll

/-- **Every call of `execute` saves what it reads**, unless it is cut short. -/
theorem settles_execute : Settles (execute F) := by
  refine settles_bind (settles_ask nofun) fun joined ↦ ?_
  split
  · exact settles_done _
  refine settles_bind (settles_ask nofun) fun now ↦
    settles_bind settles_enabledAccount fun account ↦ ?_
  split
  · exact settles_done _
  refine settles_bind (settles_of_isPortal F.hasSavedSession_portal) fun saved ↦ ?_
  split
  · exact settles_done _
  refine settles_bind (settles_attempt (settles_of_isPortal F.openReader_portal)) fun o ↦ ?_
  split
  · exact settles_done _
  · exact settles_done _
  refine settles_bind (settles_attempt (settles_of_isPortal F.aenter_portal)) fun o ↦ ?_
  split
  · exact settles_done _
  · split
    · exact settles_recordFailedPoll
    · exact settles_done _
  · exact settles_pollWith F _

end

end SyncAgreementQueue

/-! ## Every read is saved -/

/-- A read that counts as unsaved is not followed by a save. -/
theorem mem_detailReads {obs : List PollEvent} {e : DetailRead} (h : e ∈ detailReads obs) :
    ∃ pre post, obs = pre ++ .detailRead e.ref e.answer :: post ∧
      (e.saved = false → ∀ rest, post ≠ .detailSaved :: rest) := by
  fun_induction detailReads obs with
  | case1 => cases h
  | case2 ref answer obs ih =>
    rcases List.mem_cons.mp h with rfl | h
    · exact ⟨[], _, rfl, nofun⟩
    · obtain ⟨pre, post, rfl, hpost⟩ := ih h
      exact ⟨.detailRead ref answer :: .detailSaved :: pre, post, rfl, hpost⟩
  | case3 ref answer obs hnext ih =>
    rcases List.mem_cons.mp h with rfl | h
    · exact ⟨[], obs, rfl, fun _ rest hrest ↦ hnext rest hrest⟩
    · obtain ⟨pre, post, rfl, hpost⟩ := ih h
      exact ⟨.detailRead ref answer :: pre, post, rfl, hpost⟩
  | case4 event obs _ _ ih =>
    obtain ⟨pre, post, rfl, hpost⟩ := ih h
    exact ⟨event :: pre, post, rfl, hpost⟩

/-- **In a poll that is not cut short every read is saved.** -/
theorem Poll.saved_of_not_cutsShort {H : Type} {F : PortalReaderFactory H} {p : Poll}
    (hrun : p.IsRun F) (hcut : ¬CutsShort p.trace) : ∀ e ∈ p.detailReads, e.saved = true := by
  intro e he
  by_contra hunsaved
  obtain ⟨w, w', -, hexec, -⟩ := hrun
  obtain ⟨pre, post, hobs, hpost⟩ := mem_detailReads he
  -- the read in the trace, and what is observed after it
  obtain ⟨t₁, t₂, htrace, -, hrest⟩ := List.filterMap_eq_append_iff.mp hobs
  obtain ⟨t₃, x, t₄, rfl, -, hx, rfl⟩ := List.filterMap_eq_cons_iff.mp hrest
  obtain rfl := eq_of_observe_detailRead hx
  have hsettled := settles_execute F p.trace p.outcome hexec.ends
  rcases hsettled (t₁ ++ t₃) e.ref e.answer t₄ (by rw [htrace, List.append_assoc]; rfl) with
    hshort | ⟨obs, hnext⟩
  · exact hcut hshort
  · exact hpost (by simpa using hunsaved) obs hnext

end RmaPortal
