import RmaPortal.Coroutine.Calls
import RmaPortal.Infrastructure.Portal.CamoufoxReader

/-!
# Where interruptions come from

A poll catches every `Exception` somewhere or means to let it through.  What is no `Exception`, a
cancellation above all, it hands on, and it never raises one by itself: when a poll ends with an
interruption, then one of its requests was answered with it.

There is one exception to this, and it is excused by name.  When the close of the browser takes
longer than its bound, `asyncio.wait_for` cancels it; the request is then answered with a
cancellation, but the poll makes a `TimeoutError` of it (`ClosesLate`, `relays_waitFor`).

## What is here

* `Exn.IsInterruption` — a cancellation, or another exception that `except Exception` lets
  through.
* `Relays` — the program raises no interruption by itself, except for those that satisfy a given
  condition, and it hands on none that is due to a late close.  It is `Echoes` with the requests
  of the program.
* `relays_portal`, `relays_repo`, `relays_now` — single requests; `relays_withUow`,
  `relays_transaction`, `relays_forEach` — what they are put together with; `relays_throw`,
  `relays_reraise`, `relays_abandon` — what the `except` clauses do.
* The browser: taking the lock, starting, restoring the saved session, closing.  What the
  restoring computes from the saved file raises an `Exception`, if anything, and this needs a
  lemma for each function that looks into the file (`raises_bind` and what follows).
* The poll: one lemma for each of its functions.
* `relays_executeOnce` — a poll raises no interruption by itself if the opening and the closing of
  its reader do not, and `relays_executeOnce_camoufox`, for the reader of the portal.

This is what the claims about cancelled polls rest on: who was not cancelled ends with a result or
with an `Exception`.
-/

set_option autoImplicit false

open Coroutine

namespace RmaPortal

/-- A cancellation, or another exception that `except Exception` lets through. -/
def Exn.IsInterruption (e : Exn) : Prop := e.isException = false

/-- The `__aexit__` of the browser is cancelled because it has exceeded the bound that the poll sets
for it.  The poll makes a `TimeoutError` of this cancellation, which nobody else has asked for. -/
def ClosesLate (r : Request) (e : Exn) : Prop :=
  e = .cancelledError true ∧ ∃ m, r = .portal (.managerExit m)

section

variable {X : Exn → Prop} {α : Type}

/-- The program raises no interruption by itself, except for those satisfying `X`, and it hands on
none that is due to a late close. -/
abbrev Relays (X : Exn → Prop) (c : Prog α) : Prop :=
  Echoes Exn.IsInterruption (fun r e ↦ ¬ClosesLate r e) X c

theorem relays_ask (r : Request) (hr : ∀ m, r ≠ .portal (.managerExit m)) : Relays X (ask r) :=
  echoes_perform fun _ _ ↦ .inr fun ⟨_, m, hm⟩ ↦ hr m hm

theorem relays_portal (q : PortalRequest) (hq : ∀ m, q ≠ .managerExit m) :
    Relays X (portal q) := relays_ask _ fun m h ↦ hq m (Request.portal.inj h)

theorem relays_repo (tx : Transaction) (op : Repo) : Relays X (repo tx op) := relays_ask _ nofun

theorem relays_now : Relays X datetimeNow := relays_ask _ nofun

/-- Only the close can be late. -/
theorem relays_managerExit (m : ManagerId) :
    Relays (fun e ↦ X e ∨ e = .cancelledError true) (portal (.managerExit m)) :=
  echoes_perform fun e _ ↦ (em (e = .cancelledError true)).imp .inr fun he h ↦ he h.1

/-- An exception the program raises itself is no interruption. -/
theorem relays_throw {e : Exn} (h : e.isException = true) : Relays X (throw e : Prog α) :=
  echoes_throw fun hE ↦ by rw [Exn.IsInterruption, h] at hE; cases hE

/-- `raise`, in an `except` clause. -/
theorem relays_reraise (e : Exn) : Relays (fun e' ↦ X e' ∨ e' = e) (throw e : Prog α) :=
  echoes_throw fun _ ↦ .inr rfl

theorem relays_outcome {o : Except Exn α} (h : ∀ e, o = .error e → e.isException = true) :
    Relays X (outcome o) :=
  echoes_done fun e he hE ↦ by rw [Exn.IsInterruption, h e he] at hE; cases hE

theorem relays_withUow {tx : Transaction} {body : Prog α} (h : Relays X body) :
    Relays X (withUow tx body) :=
  echoes_bind (relays_ask _ nofun) fun _ ↦
    echoes_bind (echoes_tryFinally h fun _ ↦ relays_ask _ nofun) fun _ ↦ echoes_pure _

theorem relays_transaction {tx : Transaction} {body : Prog α} (h : Relays X body) :
    Relays X (transaction tx body) :=
  relays_withUow (echoes_bind h fun _ ↦ echoes_bind (relays_ask _ nofun) fun _ ↦ echoes_pure _)

theorem relays_forEach {β : Type} {s : FrozenSet String} {body : β → String → Prog β} {b : β}
    (h : ∀ b x, Relays X (body b x)) : Relays X (forEach s body b) :=
  echoes_bind (echoes_bind (relays_ask _ nofun) fun _ ↦ echoes_pure _) fun l ↦ echoes_foldlM h l b

/-- `asyncio.wait_for` makes an `Exception` of its own cancellation. -/
theorem relays_waitFor {c : Prog α} (h : Relays (fun e ↦ X e ∨ e = .cancelledError true) c) :
    Relays X (waitFor c) := by
  intro t e hends he
  obtain ⟨t₁, o, t₂, rfl, h₁, h₂⟩ := Ends.of_next hends
  split at h₂
  · obtain ⟨-, ho, -⟩ := h₂
    cases ho
    cases he
  · rename_i hlate
    obtain ⟨rfl, rfl⟩ := ends_done_iff.mp h₂
    rw [List.append_nil]
    rcases h t₁ e h₁ he with (hX | rfl) | hasked
    · exact .inl hX
    · exact (hlate rfl).elim
    · exact .inr hasked

/-- `except Exception: …`, with the interruptions let through. -/
theorem relays_abandon {e : Exn} {c : Prog α} (h : Relays (fun e' ↦ X e' ∨ e' = e) c) :
    Relays (fun e' ↦ X e' ∨ e' = e) (if e.isException then c else throw e) := by
  split
  · exact h
  · exact relays_reraise e

end

/-! ## The browser -/

section Browser

variable {X : Exn → Prop}

theorem relays_markProfileTeardownUnconfirmed (lock : FileLock) (reason : String) :
    Relays X (markProfileTeardownUnconfirmed lock reason) :=
  echoes_bind relays_now fun _ ↦ relays_portal _ nofun

theorem relays_acquireProfileLock (paths : ProfilePaths) :
    Relays X (acquireProfileLock paths) := by
  refine echoes_bind (relays_portal _ nofun) fun entry ↦ ?_
  cases entry with
  | some entry => exact relays_throw rfl
  | none =>
    refine echoes_bind (relays_portal _ nofun) fun _ ↦
      echoes_bind (relays_portal _ nofun) fun lock ↦
      echoes_attempt_bind (relays_portal _ nofun) (fun _ ↦ echoes_pure _) fun e ↦
        echoes_bind (relays_portal _ nofun) fun _ ↦ ?_
    split
    · exact relays_throw rfl
    · exact relays_reraise _

theorem relays_releaseProfileLock (lock : FileLock) : Relays X (releaseProfileLock lock) := by
  refine echoes_bind (relays_portal _ nofun) fun entry ↦ ?_
  cases entry with
  | some entry => exact relays_portal _ nofun
  | none => exact echoes_bind (relays_portal _ nofun) fun _ ↦ relays_portal _ nofun

/-! What the restoring of a session computes from the saved file raises an `Exception`, if
anything. -/

theorem raises_bind {α β : Type} {x : Except Exn α} {f : α → Except Exn β}
    (hx : ∀ e, x = .error e → e.isException = true)
    (hf : ∀ a e, f a = .error e → e.isException = true) :
    ∀ e, x >>= f = .error e → e.isException = true := by
  intro e h
  cases x with
  | error e' =>
    cases h
    exact hx e rfl
  | ok a => exact hf a e h

theorem raises_getField (v : Json) (key : String) (default : Json) :
    ∀ e, getField v key default = .error e → e.isException = true := by
  intro e h
  rw [getField] at h
  cases hv : v.get key default with
  | none =>
    rw [hv] at h
    cases h
    rfl
  | some x =>
    rw [hv] at h
    cases h

theorem raises_getOr (v : Json) (key : String) (default : Json) :
    ∀ e, getOr v key default = .error e → e.isException = true := by
  intro e h
  rw [getOr] at h
  cases hv : getField v key .null with
  | ok x =>
    rw [hv] at h
    cases h
  | error e' =>
    rw [hv] at h
    cases h
    exact raises_getField _ _ _ _ hv

theorem raises_elements (v : Json) : ∀ e, elements v = .error e → e.isException = true := by
  intro e h
  rw [elements] at h
  cases hv : v.elements with
  | none =>
    rw [hv] at h
    cases h
    rfl
  | some items =>
    rw [hv] at h
    cases h

theorem raises_originEntry (origin : String) (entries : List Json) :
    ∀ e, originEntry origin entries = .error e → e.isException = true := by
  induction entries with
  | nil =>
    intro e h
    cases h
  | cons o rest ih =>
    refine raises_bind (raises_getField _ _ _) fun name e h ↦ ?_
    split at h
    · cases h
    · exact ih e h

theorem raises_restoreLocalItems (state : Json) (origin : String) :
    ∀ e, restoreLocalItems state origin = .error e → e.isException = true := by
  refine raises_bind (raises_getField _ _ _) fun origins ↦
    raises_bind (raises_elements _) fun entries ↦
      raises_bind (raises_originEntry _ _) fun entry e h ↦ ?_
  cases entry with
  | none => cases h
  | some entry =>
    dsimp only at h
    split at h
    · exact raises_getField _ _ _ e h
    · cases h

theorem raises_restoreSessionItems (state : Json) (origin : String) :
    ∀ e, restoreSessionItems state origin = .error e → e.isException = true := by
  refine raises_bind (raises_getOr _ _ _) fun entry ↦
    raises_bind (raises_getField _ _ _) fun name e h ↦ ?_
  split at h
  · exact raises_getField _ _ _ e h
  · cases h

theorem relays_addCookies (m : ManagerId) (cookies : Json) : Relays X (addCookies m cookies) := by
  rw [addCookies]
  split
  · exact echoes_attempt_bind (relays_portal _ fun _ h ↦ by cases h) (fun _ ↦ echoes_pure _)
      fun e ↦ relays_abandon (echoes_pure _)
  · exact echoes_pure _

theorem relays_addInitScript (m : ManagerId) (origin : String) (plan : RestorePlan) :
    Relays X (addInitScript m origin plan) := by
  rw [addInitScript]
  split
  · exact echoes_pure _
  · refine echoes_attempt_bind (relays_portal _ fun _ h ↦ by cases h) (fun _ ↦ ?_) fun e ↦
      relays_abandon (echoes_pure _)
    dsimp only
    split
    · exact echoes_pure _
    · exact relays_throw rfl

theorem relays_restoreSessionState (m : ManagerId) (state : Option Json) (origin : String) :
    Relays X (restoreSessionState m state origin) := by
  cases state with
  | none => exact echoes_pure _
  | some state =>
    rw [restoreSessionState]
    split
    · exact echoes_pure _
    · exact echoes_bind (relays_outcome (raises_getOr _ _ _)) fun _ ↦
        echoes_bind (relays_addCookies _ _) fun _ ↦
          echoes_bind (relays_outcome (raises_restoreLocalItems _ _)) fun _ ↦
            echoes_bind (relays_outcome (raises_restoreSessionItems _ _)) fun _ ↦
              relays_addInitScript _ _ _

theorem relays_loadSessionState (path : String) : Relays X (loadSessionState path) := by
  refine echoes_bind (relays_portal _ nofun) fun file ↦ ?_
  cases file with
  | undecodable => exact relays_throw rfl
  | _ => exact echoes_pure _

theorem relays_firstPage (m : ManagerId) : Relays X (CamoufoxReader.firstPage m) := by
  refine echoes_bind (relays_portal _ nofun) fun pages ↦ ?_
  split
  · exact echoes_pure _
  · exact relays_portal _ nofun

theorem relays_startBrowser (cfg : ReaderSettings) :
    Relays X (CamoufoxReader.startBrowser cfg) :=
  echoes_bind (relays_portal _ nofun) fun _ ↦ echoes_bind (relays_portal _ nofun) fun _ ↦
    echoes_bind
      (echoes_bind (relays_portal _ nofun) fun _ ↦ echoes_bind (relays_loadSessionState _) fun _ ↦
        echoes_bind (relays_restoreSessionState _ _ _) fun _ ↦ relays_firstPage _)
      fun _ ↦ echoes_pure _

theorem relays_aenter (cfg : ReaderSettings) : Relays X (CamoufoxReader.aenter cfg) :=
  echoes_bind (relays_acquireProfileLock _) fun lock ↦
    echoes_attempt_bind (relays_startBrowser cfg) (fun _ ↦ echoes_pure _) fun e ↦
      echoes_bind (relays_releaseProfileLock lock) fun _ ↦ relays_reraise e

theorem relays_aexit (reader : CamoufoxReader) :
    Relays (fun e ↦ X e ∨ e = .cancelledError true) (CamoufoxReader.aexit reader) := by
  refine echoes_attempt_bind (relays_managerExit _) (fun _ ↦ ?_) fun e ↦ ?_
  · exact echoes_bind (relays_releaseProfileLock _) fun _ ↦ echoes_pure _
  · exact echoes_bind (relays_markProfileTeardownUnconfirmed _ _) fun _ ↦
      echoes_bind (relays_releaseProfileLock _) fun _ ↦ relays_reraise e

end Browser

/-! ## The poll -/

namespace SyncAgreementQueue

section Poll

variable {X : Exn → Prop} {H : Type} {F : PortalReaderFactory H}

theorem relays_rowOf (rowsById : Table QueueRow.recordId) (recordId : String) :
    Relays X (rowOf rowsById recordId) := by
  rw [rowOf]
  split
  · exact echoes_pure _
  · exact relays_throw rfl

theorem relays_notify (now : Datetime) (create : Bool) (dossierId notified : ℕ) :
    Relays X (notify now create dossierId notified) := by
  rw [notify]
  split
  · exact echoes_bind (relays_repo _ _) fun _ ↦ echoes_pure _
  · exact echoes_pure _

theorem relays_reconcileBody (accountId : ℕ) (rowsById : Table QueueRow.recordId) (now : Datetime)
    (status : PollStatus) (baseline : Bool) :
    Relays X (reconcileBody accountId rowsById now status baseline) := by
  refine echoes_bind (relays_repo _ _) fun existing ↦ echoes_bind (relays_repo _ _) fun _ ↦
    echoes_bind (relays_ask _ nofun) fun retry ↦ echoes_bind ?_ fun acc ↦ echoes_bind ?_ fun _ ↦
      echoes_bind ?_ fun _ ↦ echoes_pure _
  · refine echoes_bind (relays_forEach fun acc r ↦ ?_) fun _ ↦
      echoes_bind (relays_forEach fun acc r ↦ ?_) fun _ ↦
        echoes_bind (relays_forEach fun acc r ↦ ?_) fun _ ↦ echoes_pure _
    · exact echoes_bind (relays_rowOf _ _) fun _ ↦ echoes_bind (relays_repo _ _) fun _ ↦
        echoes_bind (relays_notify _ _ _ _) fun _ ↦ echoes_pure _
    · exact echoes_bind (relays_rowOf _ _) fun _ ↦ echoes_bind (relays_repo _ _) fun _ ↦
        echoes_bind (relays_notify _ _ _ _) fun _ ↦ echoes_pure _
    · refine echoes_bind (relays_rowOf _ _) fun _ ↦ echoes_bind (relays_repo _ _) fun _ ↦ ?_
      dsimp only
      split
      · exact echoes_pure _
      · exact echoes_pure _
  · refine echoes_bind (echoes_foldlM (fun _ r ↦ ?_) _ _) fun _ ↦ relays_forEach fun _ r ↦ ?_
    · exact relays_repo _ _
    · exact relays_repo _ _
  · rw [applyBaseline]
    split
    · exact relays_repo _ _
    · exact echoes_pure _

theorem relays_saveDetails (d : Dossier) (details : DossierDetails) :
    Relays X (saveDetails d details) := relays_transaction (relays_repo _ _)

theorem relays_enrichDossier (detailsFailed : ℕ) (d : Dossier) :
    Relays X (enrichDossier detailsFailed d) := by
  refine echoes_attempt_bind (relays_ask _ nofun) (fun _ ↦ ?_) fun e ↦ ?_
  · exact echoes_bind (relays_saveDetails _ _) fun _ ↦ echoes_pure _
  · split
    · rename_i h
      cases h
    · exact echoes_bind (relays_saveDetails _ _) fun _ ↦ echoes_pure _
    · rename_i e' _ h
      cases h
      exact relays_reraise _

theorem relays_pollBody (accountId : ℕ) (baseline : Bool) (now : Datetime) :
    Relays X (pollBody accountId baseline now) := by
  refine echoes_attempt_bind (echoes_bind ?_ fun read ↦ ?_) (fun _ ↦ echoes_pure _) fun e ↦
    relays_abandon (echoes_pure _)
  · refine echoes_attempt_bind (relays_ask _ nofun) (fun _ ↦ echoes_pure _) fun e ↦ ?_
    split
    · exact echoes_pure _
    · exact echoes_pure _
    · exact echoes_pure _
    · exact echoes_pure _
    · rename_i e' _ _ _ h
      cases h
      exact relays_reraise _
  · dsimp only
    split
    · exact echoes_bind (relays_transaction (relays_reconcileBody _ _ _ _ _)) fun _ ↦
        echoes_bind (echoes_foldlM relays_enrichDossier _ _) fun _ ↦ echoes_pure _
    · exact echoes_pure _

theorem relays_recordFailedPoll (accountId : ℕ) (startedAt : Datetime) (error : String) :
    Relays X (recordFailedPoll accountId startedAt error) :=
  echoes_bind relays_now fun _ ↦ echoes_bind
    (relays_transaction (echoes_bind (relays_repo _ _) fun _ ↦ echoes_bind (relays_repo _ _) fun _ ↦
      echoes_bind (relays_repo _ _) fun _ ↦ relays_repo _ _)) fun _ ↦ echoes_pure _

theorem relays_startPoll (accountId : ℕ) (now : Datetime) : Relays X (startPoll accountId now) :=
  relays_transaction (echoes_bind (relays_repo _ _) fun _ ↦ echoes_bind (relays_repo _ _) fun _ ↦
    echoes_pure _)

theorem relays_finishPoll (accountId pollRunId : ℕ) (report : PollReport) :
    Relays X (finishPoll accountId pollRunId report) :=
  echoes_bind relays_now fun _ ↦ echoes_bind
    (relays_transaction (echoes_bind (relays_repo _ _) fun _ ↦ relays_repo _ _)) fun _ ↦
      echoes_pure _

/-- **A poll raises no interruption by itself**, if the opening and the closing of its reader
do not. -/
theorem relays_executeOnce
    (hhasSaved : ∀ {X}, Relays X F.hasSavedSession) (hopen : ∀ {X}, Relays X F.openReader)
    (haenter : ∀ {X}, Relays X F.aenter)
    (haexit : ∀ {X : Exn → Prop} reader,
      Relays (fun e ↦ X e ∨ e = .cancelledError true) (F.aexit reader)) :
    Relays X (executeOnce F) := by
  have hclose : ∀ {X} reader, Relays X (closeReader F reader) := fun reader ↦
    echoes_attempt_bind (relays_waitFor (haexit reader)) (fun _ ↦ echoes_pure _) fun _ ↦
      relays_abandon (echoes_pure _)
  have hpoll : ∀ {X} reader accountId baseline now,
      Relays X (pollWith F reader accountId baseline now) := by
    intro X reader accountId baseline now
    refine echoes_attempt_bind (relays_startPoll _ _) (fun pollRunId ↦ ?_) fun e ↦
      relays_abandon ?_
    · exact echoes_bind (echoes_tryFinally (relays_pollBody _ _ _) fun _ ↦ hclose reader)
        fun _ ↦ relays_finishPoll _ _ _
    · refine echoes_bind (hclose reader) fun closed ↦ ?_
      split
      · exact relays_recordFailedPoll _ _ _
      · exact relays_recordFailedPoll _ _ _
  refine echoes_bind relays_now fun now ↦ echoes_bind (relays_withUow ?_) fun account ↦ ?_
  · refine echoes_bind (relays_repo _ _) fun account ↦ ?_
    cases account with
    | none => exact relays_throw rfl
    | some account => exact echoes_pure _
  · cases account with
    | none => exact echoes_pure _
    | some account =>
      refine echoes_bind hhasSaved fun saved ↦ ?_
      split
      · exact echoes_pure _
      · refine echoes_attempt_bind hopen (fun _ ↦ ?_) fun e ↦ ?_
        · refine echoes_attempt_bind haenter (fun reader ↦ hpoll reader _ _ _) fun e ↦ ?_
          split
          · exact echoes_pure _
          · rename_i e' _ h
            cases h
            exact relays_abandon (relays_recordFailedPoll _ _ _)
          · rename_i h
            cases h
        · split
          · exact echoes_pure _
          · rename_i e' _ h
            cases h
            exact relays_reraise _
          · rename_i h
            cases h

end Poll

end SyncAgreementQueue

/-- **Who interrupts a poll of the portal**: one of its requests was answered with what it ends
with. -/
theorem relays_executeOnce_camoufox {X : Exn → Prop} (cfg : ReaderSettings) :
    Relays X (SyncAgreementQueue.executeOnce (camoufoxPortalReaderFactory cfg)) :=
  SyncAgreementQueue.relays_executeOnce (relays_portal _ nofun) (echoes_pure _) (relays_aenter cfg)
    relays_aexit

end RmaPortal
