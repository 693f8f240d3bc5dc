import RmaPortal.Profile.Exclusion
import RmaPortal.Profile.LoginWindow
import RmaPortal.Synchronization.Books

/-!
# The tasks of the process

The three programs that use the profile, a poll, the check of a session and a login, keep to the
protocol of `Phase`.  For a poll and a check that is more than the absence of a wrong step: when a
reader has been entered, its browser is closed exactly once on every way to the end, and the phase
in which the task ends says how (`Used`).

Most of what these programs do has nothing to do with the profile.  Transactions, the clock and
the requests to a page are *quiet*: whatever they are answered, the task stays in its phase
(`sat_quiet`).  So the proofs follow the programs, and stop only where one of them takes the lock,
starts or closes a browser, writes into the registry of unconfirmed closes, or lets go of the
lock.

## What is here

* Quiet programs: one lemma for every part of a poll and of a check that never touches the
  profile.  Two of them say a little more, because a session may be reported ready only when the
  close has been confirmed: `reportsReady_of_keepsBooks` and `quiet_finishPoll`.
* The lock: `phase_acquireProfileLock`, and the two ways in which `release_profile_lock` can end,
  `phase_release_carried` and `phase_release_marked`.  Which of them is taken is decided by the
  registry, not by the task.
* The reader: `phase_aenter` follows every way in which opening a browser can fail, `phase_aexit`
  every way in which closing it can.  `Phase.Ended` is what they leave: the close was confirmed
  and the lock is free, or it was not and the registry keeps the lock for as long as the process
  lives.
* `Tame` programs are quiet and raise nothing but exceptions; the code between the opening and the
  closing of a reader has to be such, for a `CancelledError` takes another way.
* `Entered` and `Uses` — how a task has used the profile: not at all, or `aenter` was run once,
  and if it returned a reader then the use of that reader has ended.  `Uses.append` and
  `Uses.append_right` are what lets a proof ignore what happens before and afterwards.
* `phase_execute`, `phase_verifySession` and `phase_runLogin` — the three programs.

Nothing is assumed of the answers.  A close that hangs until its time is up, a database that is
locked, and a cancellation at any `await` are among them.
-/

set_option autoImplicit false

open Coroutine

namespace RmaPortal

section Quiet

variable {p : String} {q : Phase}

/-! ## Quiet programs -/

theorem Phase.Step.eq_of_quiet {q' : Phase} {r : Request} {a : Except Exn r.Val}
    (h : Phase.Step p q r a q') (hquiet : r.Quiet q) : q' = q := by
  cases h <;> first | rfl | exact hquiet.elim

/-- A program whose requests are quiet leaves the task in its phase. -/
theorem sat_quiet {α : Type} {c : Prog α} (hc : Only (Request.Quiet q) c) :
    Sat (phases p) c q fun t _ q' ↦ q' = q ∧ ∀ e ∈ t, e.1.Quiet q := by
  refine hc.sat (I := fun q' ↦ q' = q) ?_ ?_ rfl
  · rintro _ r hr rfl
    obtain ⟨a, ha⟩ := r.exists_mayAnswer
    exact ⟨a, _, .quiet _ r a hr ha⟩
  · rintro _ r a q' hr rfl hstep
    exact hstep.eq_of_quiet hr

theorem quiet_repo {tx : Transaction} {op : Repo} (h : op.reportsReady = false) :
    Only (Request.Quiet q) (repo tx op) :=
  only_perform fun hready ↦ by rw [h] at hready; cases hready

theorem quiet_withUow {α : Type} {tx : Transaction} {body : Prog α}
    (h : Only (Request.Quiet q) body) : Only (Request.Quiet q) (withUow tx body) :=
  only_withUow trivial trivial h

theorem quiet_transaction {α : Type} {tx : Transaction} {body : Prog α}
    (h : Only (Request.Quiet q) body) : Only (Request.Quiet q) (transaction tx body) :=
  only_transaction trivial trivial trivial h

theorem quiet_now : Only (Request.Quiet q) datetimeNow := only_perform trivial

namespace SyncAgreementQueue

/-! ### The poll -/

theorem quiet_recordFailedPoll {accountId : ℕ} {startedAt : Datetime} {error : String} :
    Only (Request.Quiet q) (recordFailedPoll accountId startedAt error) :=
  only_bind quiet_now fun _ ↦ only_bind (quiet_transaction <|
    only_bind (quiet_repo rfl) fun _ ↦ only_bind (quiet_repo rfl) fun _ ↦
      only_bind (quiet_repo rfl) fun _ ↦ quiet_repo rfl) fun _ ↦ only_pure _

theorem quiet_enabledAccount : Only (Request.Quiet q) enabledAccount :=
  quiet_withUow <| only_bind (quiet_repo rfl) fun account ↦ by
    cases account <;> trivial

/-- A method that leaves the books alone does not report the session ready. -/
theorem reportsReady_of_keepsBooks {op : Repo} (h : op.keepsBooks = true) :
    op.reportsReady = false := by
  cases op <;> first | rfl | cases h

theorem quiet_pollBody {accountId : ℕ} {completed : Bool} {now : Datetime}
    (hq : q.canWait = true) : Only (Request.Quiet q) (pollBody accountId completed now) := by
  refine only_pollBody.mono fun r hr ↦ ?_
  cases r with
  | uow u =>
    cases u with
    | repo tx op =>
      intro hready
      rw [reportsReady_of_keepsBooks hr.2] at hready
      cases hready
    | _ => trivial
  | reader u => exact hq
  | portal u => exact hr.elim
  | inflight => exact hr.elim
  | _ => trivial

/-- The end of a poll: it reports the session ready only if the close has been confirmed. -/
theorem quiet_finishPoll {accountId pollRunId : ℕ} {report : PollReport}
    (h : report.status = .failed ∨ q.confirmed = true) :
    Only (Request.Quiet q) (finishPoll accountId pollRunId report) := by
  have hrepo : ∀ op : Repo, (report.status = .failed → op.reportsReady = false) →
      Only (Request.Quiet q) (repo .pollFinish op) := by
    intro op hop
    rcases h with h | h
    · exact quiet_repo (hop h)
    · exact only_perform fun _ ↦ h
  refine only_bind quiet_now fun _ ↦ only_bind (quiet_transaction <|
    only_bind (hrepo _ fun h ↦ ?_) fun _ ↦ hrepo _ fun h ↦ ?_) fun _ ↦ only_pure _
  · simp [Repo.reportsReady, h, PortalAccountRepository.sessionStatusOf]
  · simp [Repo.reportsReady, h, PortalAccountRepository.sessionStatusOf]

/-! ### The check of a session -/

theorem quiet_markSessionChecked {accountId : ℕ} {status : SessionStatus} {checkedAt : Datetime}
    {error : Option String} (h : status = .ready → q.confirmed = true) :
    Only (Request.Quiet q) (markSessionChecked accountId status checkedAt error) :=
  quiet_transaction <| only_perform fun hready ↦ h (by simpa [Repo.reportsReady] using hready)

/-- A failed step is turned into a record of it, or raised again. -/
theorem quiet_checkFailure {message : String} {e : Exn} :
    Only (Request.Quiet q) (checkFailure message e) := by
  unfold checkFailure
  split
  · trivial
  · trivial
  · split <;> trivial

theorem quiet_checkAuthenticated {timeout : ℕ} (hq : q.canWait = true) :
    Only (Request.Quiet q) (checkAuthenticated timeout) := by
  refine only_bind (only_attempt (only_waitFor (only_perform hq))) fun o ↦ ?_
  split
  · exact only_pure _
  · exact only_pure _
  · exact quiet_checkFailure

theorem quiet_markLoginTeardownFailed {message : String} :
    Only (Request.Quiet q) (markLoginTeardownFailed message) := by
  refine only_bind (quiet_withUow (quiet_repo rfl)) fun account ↦ ?_
  cases account with
  | none => exact only_pure _
  | some account => exact only_bind quiet_now fun _ ↦ quiet_markSessionChecked (by simp)

end SyncAgreementQueue

end Quiet

section Locking

variable {p : String} {q : Phase} {w : World}

/-! ## Taking the lock and letting go of it -/

/-- A single step of the protocol. -/
theorem phase_portal {r : PortalRequest} {Q : List Happening → Except Exn r.Val → Phase → Prop}
    (hpre : ∃ a q', Phase.Step p q (.portal r) a q')
    (h : ∀ a q', Phase.Step p q (.portal r) a q' → Q [⟨.portal r, a⟩] a q') :
    Sat (phases p) (portal r) q Q := sat_perform hpre h

/-- A quiet step. -/
theorem phase_quiet {r : PortalRequest} (h : (Request.portal r).Quiet q) :
    Sat (phases p) (portal r) q fun _ _ q' ↦ q' = q :=
  (sat_quiet (only_perform h)).mono fun _ _ _ h ↦ h.1

theorem phase_acquireProfileLock {paths : ProfilePaths} :
    Sat (phases paths.lockPath) (acquireProfileLock paths) .free fun _ o q ↦
      ∀ lock, o = .ok lock → q = .held lock ∧ lock.path = paths.lockPath := by
  refine sat_bind (R := fun _ o q ↦ o = .ok none → q = .checked) (phase_portal ⟨_, _, .look⟩ ?_) ?_
    (by simp)
  · rintro a q' hstep
    cases hstep with
    | quiet _ _ _ hquiet => exact hquiet.elim
    | look => exact fun _ ↦ rfl
    | warned entry => simp
    | lookCarrying _ _ _ hcarries => cases hcarries
  rintro _ entry q hq
  cases entry with
  | some entry => exact sat_throw (by simp)
  | none =>
    obtain rfl := hq rfl
    refine sat_bind (phase_quiet trivial) ?_ (by simp)
    rintro _ u _ rfl
    refine sat_bind (R := fun _ o q ↦ ∃ lock : FileLock, o = .ok lock ∧ q = .created lock ∧
      lock.path = paths.lockPath) (phase_portal ⟨_, _, .create ⟨0, _⟩ rfl⟩ ?_) ?_ (by simp)
    · rintro a q' hstep
      cases hstep with
      | quiet _ _ _ hquiet => exact hquiet.elim
      | create l h => exact ⟨l, rfl, rfl, h⟩
    rintro _ lock q₁ ⟨_, ho, rfl, hpath⟩
    cases ho
    refine sat_attempt_bind (R := fun _ o q ↦ (o = .ok () ∧ q = .held lock) ∨
      (∃ e, o = .error e) ∧ q = .refused lock) (phase_portal ⟨_, _, .acquire lock⟩ ?_) ?_
    · rintro a q' hstep
      cases hstep with
      | quiet _ _ _ hquiet => exact hquiet.elim
      | acquire => exact Or.inl ⟨rfl, rfl⟩
      | refuse _ e => exact Or.inr ⟨⟨e, rfl⟩, rfl⟩
    rintro _ _ _ (⟨rfl, rfl⟩ | ⟨⟨e, rfl⟩, rfl⟩)
    · refine sat_pure ?_
      rintro _ ⟨⟩
      exact ⟨rfl, hpath⟩
    · refine sat_bind (R := fun _ _ _ ↦ True) (phase_portal ⟨_, _, .forgetRefused lock⟩ fun _ _ _ ↦
        trivial) ?_ (by simp)
      intro _ u q _
      cases e <;> exact sat_throw (by simp)

/-- A lock that no entry refers to is released. -/
theorem phase_release_carried {lock : FileLock} {o : Option Closing} (hpath : lock.path = p)
    (hq : q.carries = some (lock, o)) :
    Sat (phases p) (releaseProfileLock lock) q fun _ o' q' ↦ o' = .ok () ∧ q' = .gone lock o := by
  subst hpath
  refine sat_bind (R := fun _ o' q' ↦ o' = .ok none ∧ q' = .releasing lock o)
    (phase_portal ⟨_, _, .lookCarrying q lock o hq⟩ ?_) ?_ (by simp)
  · rintro a q' hstep
    cases hstep with
    | quiet _ _ _ hquiet => exact hquiet.elim
    | lookCarrying _ l o' hq' =>
      rw [hq] at hq'
      cases hq'
      exact ⟨rfl, rfl⟩
    | look | warned | lookMarked => cases hq
  rintro _ _ _ ⟨ho, rfl⟩
  cases ho
  refine sat_bind (R := fun _ o' q' ↦ o' = .ok () ∧ q' = .released lock o)
    (phase_portal ⟨_, _, .release lock o⟩ ?_) ?_ (by simp)
  · rintro a q' hstep
    cases hstep with
    | quiet _ _ _ hquiet => exact hquiet.elim
    | release => exact ⟨rfl, rfl⟩
  rintro _ u _ ⟨-, rfl⟩
  refine phase_portal ⟨_, _, .forgetReleased lock o⟩ ?_
  rintro a q' hstep
  cases hstep with
  | quiet _ _ _ hquiet => exact hquiet.elim
  | forgetReleased => exact ⟨rfl, rfl⟩

/-- A lock that the registry refers to is not. -/
theorem phase_release_marked {lock : FileLock} {m : ManagerId} {e : Exn} (hpath : lock.path = p) :
    Sat (phases p) (releaseProfileLock lock) (.marked lock m e) fun _ o' q' ↦
      o' = .ok () ∧ q' = .kept lock m e := by
  subst hpath
  refine sat_bind (R := fun _ o q' ↦ (∃ entry, o = .ok (some entry)) ∧ q' = .dropping lock m e)
    (phase_portal ⟨_, _, .lookMarked lock m e ⟨"", lock, "", default⟩⟩ ?_) ?_ (by simp)
  · rintro a q' hstep
    cases hstep with
    | quiet _ _ _ hquiet => exact hquiet.elim
    | lookCarrying _ _ _ hq => cases hq
    | lookMarked _ _ _ entry => exact ⟨⟨entry, rfl⟩, rfl⟩
  rintro _ _ _ ⟨⟨entry, ho⟩, rfl⟩
  cases ho
  refine phase_portal ⟨_, _, .forgetMarked lock m e⟩ ?_
  rintro a q' hstep
  cases hstep with
  | quiet _ _ _ hquiet => exact hquiet.elim
  | forgetMarked => exact ⟨rfl, rfl⟩

/-- Entering a profile whose close has failed into the registry. -/
theorem phase_markProfileTeardownUnconfirmed {lock : FileLock} {m : ManagerId} {e : Exn}
    {reason : String} (hpath : lock.path = p) :
    Sat (phases p) (markProfileTeardownUnconfirmed lock reason) (.ended lock m (.error e))
      fun _ o q' ↦ o = .ok () ∧ q' = .marked lock m e := by
  refine sat_bind (R := fun _ o q' ↦ (∃ d, o = .ok d) ∧ q' = .ended lock m (.error e))
    (sat_perform ⟨.ok default, _, .quiet _ _ _ trivial trivial⟩ ?_) ?_ (by simp)
  · rintro a q' hstep
    cases hstep with
    | quiet _ _ _ _ ha =>
      cases a with
      | ok d => exact ⟨⟨d, rfl⟩, rfl⟩
      | error e => exact ha.elim
  rintro _ since _ ⟨-, rfl⟩
  refine phase_portal ⟨_, _, .mark lock m e ⟨lock.path, lock, reason, since⟩ hpath rfl⟩ ?_
  rintro a q' hstep
  cases hstep with
  | quiet _ _ _ hquiet => exact hquiet.elim
  | mark => exact ⟨rfl, rfl⟩

end Locking

section Reader

variable {cfg : ReaderSettings} {q : Phase}

/-! ## The reader -/

theorem quiet_preparePage {m : ManagerId} (hq : q.canWait = true) :
    Only (Request.Quiet q) (CamoufoxReader.preparePage cfg m) :=
  CamoufoxReader.only_preparePage cfg hq trivial (fun _ ↦ hq) (fun _ _ _ ↦ hq) trivial hq

theorem phase_managerEnter {p dir : String} {l : FileLock} :
    Sat (phases p) (portal (.managerEnter dir)) (.held l) fun _ o q ↦
      (∃ m, o = .ok m ∧ q = .browsing l m) ∨ (∃ e, o = .error e) ∧ q = .held l := by
  refine phase_portal ⟨.ok (0 : ℕ), _, .start l 0 _⟩ ?_
  rintro a q' hstep
  cases hstep with
  | quiet _ _ _ hquiet => exact hquiet.elim
  | start _ m => exact Or.inl ⟨m, rfl, rfl⟩
  | startFails _ e => exact Or.inr ⟨⟨e, rfl⟩, rfl⟩

theorem phase_startBrowser {l : FileLock} :
    Sat (phases cfg.lockPath) (CamoufoxReader.startBrowser cfg) (.held l) fun _ o q ↦
      (∀ m, o = .ok m → q = .browsing l m) ∧ q.carries = some (l, none) := by
  refine sat_bind (phase_quiet trivial) ?_ ?_
  swap
  · rintro _ e _ rfl
    exact ⟨by simp, rfl⟩
  rintro _ u _ rfl
  refine sat_bind phase_managerEnter ?_ ?_
  · rintro _ m _ (⟨_, ho, rfl⟩ | ⟨⟨e, ho⟩, -⟩)
    · cases ho
      refine sat_bind (sat_quiet (quiet_preparePage rfl)) ?_ ?_
      · rintro _ u _ ⟨rfl, -⟩
        refine sat_pure ⟨?_, rfl⟩
        rintro _ ⟨⟩
        rfl
      · rintro _ e _ ⟨rfl, -⟩
        exact ⟨by simp, rfl⟩
    · cases ho
  · rintro _ e _ (⟨_, ho, -⟩ | ⟨-, rfl⟩)
    · cases ho
    · exact ⟨by simp, rfl⟩

theorem phase_aenter :
    Sat (phases cfg.lockPath) (CamoufoxReader.aenter cfg) .free fun _ o q ↦
      ∀ reader, o = .ok reader →
        q = .browsing reader.lock reader.manager ∧ reader.lock.path = cfg.lockPath := by
  refine sat_bind phase_acquireProfileLock ?_ (by simp)
  rintro _ lock _ hlock
  obtain ⟨rfl, hpath⟩ := hlock lock rfl
  refine sat_attempt_bind phase_startBrowser ?_
  rintro _ o q ⟨hok, hcarries⟩
  cases o with
  | ok m =>
    refine sat_pure ?_
    rintro _ ⟨⟩
    exact ⟨hok m rfl, hpath⟩
  | error e =>
    exact sat_bind (phase_release_carried hpath hcarries) (fun _ _ _ _ ↦ sat_throw (by simp))
      (by simp)

/-- How the use of a reader ends: its close was confirmed and the lock is free, or it was not and
the registry keeps the lock. -/
def Phase.Ended (reader : CamoufoxReader) (confirmed : Prop) (q : Phase) : Prop :=
  (confirmed ∧ q = .gone reader.lock (some (reader.manager, .ok ()))) ∨
    (¬confirmed ∧ ∃ e, q = .kept reader.lock reader.manager e)

variable {reader : CamoufoxReader}

theorem phase_aexit (hpath : reader.lock.path = cfg.lockPath) :
    Sat (phases cfg.lockPath) (CamoufoxReader.aexit reader) (.browsing reader.lock reader.manager)
      fun _ o q ↦ q.Ended reader (o = .ok ()) := by
  refine sat_attempt_bind (R := fun _ o q ↦ q = .ended reader.lock reader.manager o)
    (phase_portal ⟨_, _, .close _ _ (.ok ())⟩ ?_) ?_
  · rintro a q' hstep
    cases hstep with
    | quiet _ _ _ hquiet => exact hquiet.elim
    | close => rfl
  rintro _ closed _ rfl
  cases closed with
  | ok u =>
    refine sat_bind (phase_release_carried hpath rfl) ?_ (by simp)
    rintro _ _ _ ⟨-, rfl⟩
    exact Or.inl ⟨rfl, rfl⟩
  | error e =>
    refine sat_bind (phase_markProfileTeardownUnconfirmed hpath) ?_ (by simp)
    rintro _ _ _ ⟨-, rfl⟩
    refine sat_bind (phase_release_marked hpath) ?_ (by simp)
    rintro _ _ _ ⟨-, rfl⟩
    exact Or.inr ⟨by simp, e, rfl⟩

theorem phase_closeReader (hpath : reader.lock.path = cfg.lockPath) :
    Sat (phases cfg.lockPath)
      (SyncAgreementQueue.closeReader (camoufoxPortalReaderFactory cfg) reader)
      (.browsing reader.lock reader.manager) fun _ o q ↦ q.Ended reader (o = .ok true) := by
  have hwait : Sat (phases cfg.lockPath) (waitFor (CamoufoxReader.aexit reader))
      (.browsing reader.lock reader.manager) fun _ o q ↦ q.Ended reader (o = .ok ()) := by
    refine sat_next (phase_aexit hpath) ?_
    intro _ o q hq
    split
    · exact hq.imp (fun h ↦ by cases h.1) fun h ↦ ⟨by simp, h.2⟩
    · exact hq
  refine sat_attempt_bind hwait ?_
  intro _ o q hq
  split
  · exact hq.imp (fun h ↦ ⟨rfl, h.2⟩) fun h ↦ (h.1 rfl).elim
  · have hkept := hq.resolve_left fun h ↦ by cases h.1
    split
    · exact Or.inr ⟨by simp, hkept.2⟩
    · exact Or.inr ⟨by simp, hkept.2⟩

/-! ## A poll with an open reader -/

/-- The program leaves the task in its phase, and raises only exceptions. -/
def Tame {α : Type} (p : String) (q : Phase) (c : Prog α) : Prop :=
  Sat (phases p) c q fun _ o q' ↦ q' = q ∧ ∀ e, o = .error e → e.isException = true

section Tame

variable {p : String} {α β : Type}

theorem tame_uow {op : UowRequest} (h : (Request.uow op).Quiet q) :
    Tame p q (ask (.uow op)) := by
  refine sat_perform ?_ ?_
  · obtain ⟨a, ha⟩ := (Request.uow op).exists_mayAnswer
    exact ⟨a, q, .quiet q _ a h ha⟩
  · rintro a q' hstep
    cases hstep with
    | quiet _ _ _ _ ha =>
      refine ⟨rfl, ?_⟩
      rintro e rfl
      exact ha

theorem tame_pure {x : α} : Tame p q (pure x) := sat_pure ⟨rfl, by simp⟩

theorem tame_bind {c : Prog α} {f : α → Prog β} (hc : Tame p q c) (hf : ∀ x, Tame p q (f x)) :
    Tame p q (c >>= f) := by
  refine sat_bind hc ?_ ?_
  · rintro _ x _ ⟨rfl, -⟩
    exact hf x
  · rintro _ e _ ⟨rfl, he⟩
    refine ⟨rfl, ?_⟩
    rintro _ ⟨⟩
    exact he e rfl

theorem tame_transaction {tx : Transaction} {body : Prog α} (h : Tame p q body) :
    Tame p q (transaction tx body) := by
  refine tame_bind (tame_uow trivial) fun _ ↦ tame_bind ?_ fun _ ↦ tame_pure
  refine sat_tryFinally
    (tame_bind h fun x ↦ tame_bind (tame_uow trivial) fun _ ↦ tame_pure) ?_
  rintro _ o q ⟨rfl, ho⟩
  have hexit : Tame p q (ask (.uow (.exit tx))) := tame_uow trivial
  refine hexit.mono ?_
  rintro _ o' _ ⟨rfl, ho'⟩
  cases o' with
  | ok u =>
    refine ⟨rfl, fun e he ↦ ?_⟩
    cases o with
    | ok x => cases he
    | error e' =>
      cases he
      exact ho _ rfl
  | error e =>
    refine ⟨rfl, ?_⟩
    rintro _ ⟨⟩
    exact ho' e rfl

theorem tame_startPoll {accountId : ℕ} {now : Datetime} :
    Tame p q (SyncAgreementQueue.startPoll accountId now) :=
  tame_transaction <| tame_bind (tame_uow (by simp [Request.Quiet, Repo.reportsReady])) fun _ ↦
    tame_bind (tame_uow (by simp [Request.Quiet, Repo.reportsReady])) fun _ ↦ tame_pure

end Tame

/-- The use of a reader has ended. -/
def Phase.Closed (reader : CamoufoxReader) (q : Phase) : Prop :=
  ∃ confirmed, q.Ended reader confirmed

theorem phase_pollWith (hpath : reader.lock.path = cfg.lockPath) {accountId : ℕ} {completed : Bool}
    {now : Datetime} :
    Sat (phases cfg.lockPath)
      (SyncAgreementQueue.pollWith (camoufoxPortalReaderFactory cfg) reader accountId completed now)
      (.browsing reader.lock reader.manager) fun _ _ q ↦ q.Closed reader := by
  refine sat_attempt_bind tame_startPoll ?_
  rintro _ o _ ⟨rfl, ho⟩
  cases o with
  | error e =>
    dsimp only
    rw [if_pos (ho e rfl)]
    refine sat_bind (phase_closeReader hpath) ?_ fun _ _ _ h ↦ ⟨_, h⟩
    intro _ b q hq
    cases b
    all_goals
      refine (sat_quiet SyncAgreementQueue.quiet_recordFailedPoll).mono ?_
      rintro _ _ _ ⟨rfl, -⟩
      exact ⟨_, hq⟩
  | ok pollRunId =>
    refine sat_bind (R := fun _ o q ↦ (∀ x, o = .ok x → q.Ended reader (x.2 = true)) ∧
      q.Closed reader)
      (sat_tryFinally (sat_quiet (SyncAgreementQueue.quiet_pollBody rfl)) ?_) ?_ fun _ _ _ h ↦ h.2
    · rintro _ o _ ⟨rfl, -⟩
      refine (phase_closeReader hpath).mono ?_
      intro _ o' q hq
      cases o' with
      | ok b =>
        refine ⟨fun x hx ↦ ?_, _, hq⟩
        cases o with
        | ok report =>
          cases hx
          simpa using hq
        | error e => cases hx
      | error e => exact ⟨by simp, _, hq⟩
    · rintro _ ⟨report, cleanupOk⟩ q ⟨hq, -⟩
      have hended := hq _ rfl
      refine (sat_quiet (SyncAgreementQueue.quiet_finishPoll ?_)).mono ?_
      · rcases hended with ⟨hok, rfl⟩ | ⟨hno, -⟩
        · exact Or.inr rfl
        · left
          simp only at hno
          simp [hno]
      · rintro _ _ _ ⟨rfl, -⟩
        exact ⟨_, hended⟩

/-! ## Readers that have been entered -/

/-- In the run a reader has been entered: a part of it is a run of `aenter` that returned it. -/
def Entered (cfg : ReaderSettings) (t : List Happening) (reader : CamoufoxReader) : Prop :=
  ∃ t₁ t₂ t₃, t = t₁ ++ (t₂ ++ t₃) ∧ Ends (CamoufoxReader.aenter cfg) t₂ (.ok reader)

/-- A run of `aenter` creates its lock with its third request, or fails before. -/
theorem creates_of_aenter {t : List Happening} {o : Except Exn CamoufoxReader}
    (h : Ends (CamoufoxReader.aenter cfg) t o) :
    (∃ e₁ e₂ e₃ rest, t = [e₁, e₂] ++ e₃ :: rest ∧ Happening.creates e₃ = true) ∨
      (∀ e ∈ t, Happening.creates e = false) ∧ ∃ e, o = .error e := by
  obtain ⟨a₁, _, t, -, rfl, h⟩ := h
  cases a₁ with
  | error e =>
    obtain ⟨rfl, rfl, -⟩ := h
    exact Or.inr ⟨by simp [Happening.creates], e, rfl⟩
  | ok entry =>
  cases entry with
  | some entry =>
    obtain ⟨rfl, rfl, -⟩ := h
    exact Or.inr ⟨by simp [Happening.creates], _, rfl⟩
  | none =>
  obtain ⟨a₂, _, t, -, rfl, h⟩ := h
  cases a₂ with
  | error e =>
    obtain ⟨rfl, rfl, -⟩ := h
    exact Or.inr ⟨by simp [Happening.creates], e, rfl⟩
  | ok u =>
    obtain ⟨a₃, _, t, -, rfl, h⟩ := h
    exact Or.inl ⟨_, _, _, t, rfl, rfl⟩

/-- How a task has used the profile: not at all, or `aenter` was run once, and if it returned a
reader the use of that reader has ended. -/
def Uses (cfg : ReaderSettings) (t : List Happening) (q : Phase) : Prop :=
  (∀ e ∈ t, Happening.creates e = false) ∨
    ∃ t₁ t₂ t₃ o, t = t₁ ++ (t₂ ++ t₃) ∧ Ends (CamoufoxReader.aenter cfg) t₂ o ∧
      (∀ e ∈ t₁, Happening.creates e = false) ∧ (∀ e ∈ t₃, Happening.creates e = false) ∧
      ∀ reader, o = .ok reader → q.Closed reader

/-- A reader that a task has entered is the one whose use has ended. -/
theorem Uses.closed {t : List Happening} (h : Uses cfg t q)
    (hpath : (phases cfg.lockPath).Path .free t q) (hentered : Entered cfg t reader) :
    q.Closed reader := by
  obtain ⟨t₁, t₂, t₃, rfl, hends⟩ := hentered
  obtain ⟨e₁, e₂, e₃, rest, rfl, hcreates⟩ | ⟨-, e, he⟩ := creates_of_aenter hends
  swap
  · cases he
  have hmem : e₃ ∈ t₁ ++ (([e₁, e₂] ++ e₃ :: rest) ++ t₃) := by simp
  rcases h with hnone | ⟨u₁, u₂, u₃, o, heq, hends', hu₁, hu₃, hclosed⟩
  · rw [hnone e₃ hmem] at hcreates
    cases hcreates
  obtain ⟨d₁, d₂, d₃, rest', rfl, hcreates'⟩ | ⟨hu₂, -⟩ := creates_of_aenter hends'
  swap
  · have hnone : ∀ e ∈ u₁ ++ (u₂ ++ u₃), Happening.creates e = false := fun e he ↦ by
      rcases List.mem_append.mp he with he | he
      · exact hu₁ e he
      · exact (List.mem_append.mp he).elim (hu₂ e) (hu₃ e)
    rw [hnone e₃ (heq ▸ hmem)] at hcreates
    cases hcreates
  -- only one lock has been created, so both runs of `aenter` start at the same place
  have hcount : (t₁ ++ (([e₁, e₂] ++ e₃ :: rest) ++ t₃)).countP Happening.creates ≤ 1 := by
    rw [← Nat.add_zero (List.countP _ _)]
    exact (creates_of_path hpath).trans_le Option.length_toList_le
  have halign : (t₁ ++ [e₁, e₂]) ++ e₃ :: (rest ++ t₃) =
      (u₁ ++ [d₁, d₂]) ++ d₃ :: (rest' ++ u₃) := by
    simpa using heq
  have hzero : (t₁ ++ [e₁, e₂]).countP Happening.creates = 0 ∧
      (rest ++ t₃).countP Happening.creates = 0 := by
    have hsum : (t₁ ++ [e₁, e₂]).countP Happening.creates +
        ((rest ++ t₃).countP Happening.creates + 1) ≤ 1 := by
      rw [← List.countP_cons_of_pos hcreates, ← List.countP_append]
      have hlist : (t₁ ++ [e₁, e₂]) ++ e₃ :: (rest ++ t₃) =
          t₁ ++ (([e₁, e₂] ++ e₃ :: rest) ++ t₃) := by simp
      rw [hlist]
      exact hcount
    omega
  have hnot : ∀ {l : List Happening}, l.countP Happening.creates = 0 → d₃ ∉ l := fun h hmem ↦
    List.countP_eq_zero.mp h d₃ hmem hcreates'
  obtain ⟨hstart, -, -⟩ := (List.append_cons_inj_of_notMem (hnot hzero.1) (hnot hzero.2)).mp halign
  obtain ⟨rfl, -⟩ := List.append_inj' hstart rfl
  obtain ⟨-, ho⟩ := hends.unique hends' (List.append_cancel_left heq)
  exact hclosed reader ho.symm

/-! ## A poll -/

theorem not_creates_of_quiet {q' : Phase} {t : List Happening} (h : ∀ e ∈ t, e.1.Quiet q') :
    ∀ e ∈ t, Happening.creates e = false := fun e he ↦ (quiet_event (a := e.2) (h e he)).2

/-- What happens before the profile is used does not matter. -/
theorem Uses.append {t₁ t₂ : List Happening} (h : Uses cfg t₂ q)
    (ht : ∀ e ∈ t₁, Happening.creates e = false) : Uses cfg (t₁ ++ t₂) q := by
  rcases h with hnone | ⟨u₁, u₂, u₃, o, rfl, hends, hu₁, hu₃, hclosed⟩
  · exact Or.inl fun e he ↦ (List.mem_append.mp he).elim (ht e) (hnone e)
  · refine Or.inr ⟨t₁ ++ u₁, u₂, u₃, o, by rw [List.append_assoc], hends,
      fun e he ↦ ?_, hu₃, hclosed⟩
    exact (List.mem_append.mp he).elim (ht e) (hu₁ e)

/-- Neither does what happens afterwards, as long as the phase stays the same. -/
theorem Uses.append_right {t₁ t₂ : List Happening} (h : Uses cfg t₁ q)
    (ht : ∀ e ∈ t₂, Happening.creates e = false) : Uses cfg (t₁ ++ t₂) q := by
  rcases h with hnone | ⟨u₁, u₂, u₃, o, rfl, hends, hu₁, hu₃, hclosed⟩
  · exact Or.inl fun e he ↦ (List.mem_append.mp he).elim (hnone e) (ht e)
  · refine Or.inr ⟨u₁, u₂, u₃ ++ t₂, o, by simp, hends, hu₁, fun e he ↦ ?_, hclosed⟩
    exact (List.mem_append.mp he).elim (hu₃ e) (ht e)

theorem uses_of_aenter {t₂ t₃ : List Happening} {o : Except Exn CamoufoxReader}
    (hends : Ends (CamoufoxReader.aenter cfg) t₂ o) (ht : ∀ e ∈ t₃, Happening.creates e = false)
    (hclosed : ∀ reader, o = .ok reader → q.Closed reader) : Uses cfg (t₂ ++ t₃) q :=
  Or.inr ⟨[], t₂, t₃, o, rfl, hends, by simp, ht, hclosed⟩

/-- Some quiet steps first. -/
theorem phase_quiet_bind {α β : Type} {c : Prog α} {f : α → Prog β}
    {R : Except Exn β → Phase → Prop} (hc : Only (Request.Quiet q) c)
    (hf : ∀ x, Sat (phases cfg.lockPath) (f x) q fun t o q' ↦ Uses cfg t q' ∧ R o q')
    (herr : ∀ e, R (.error e) q) :
    Sat (phases cfg.lockPath) (c >>= f) q fun t o q' ↦ Uses cfg t q' ∧ R o q' := by
  refine sat_bind (sat_quiet hc) ?_ ?_
  · rintro t x _ ⟨rfl, ht⟩
    exact (hf x).mono fun t' o q' h ↦ ⟨h.1.append (not_creates_of_quiet ht), h.2⟩
  · rintro t e _ ⟨rfl, ht⟩
    exact ⟨Or.inl (not_creates_of_quiet ht), herr e⟩

theorem phase_execute :
    Sat (phases cfg.lockPath) (SyncAgreementQueue.execute (camoufoxPortalReaderFactory cfg)) .free
      fun t _ q ↦ Uses cfg t q ∧ True := by
  have hdone : ∀ {o : Except Exn SyncResult} {q : Phase}, Sat (phases cfg.lockPath)
      (.done o : Prog SyncResult) q fun t _ q ↦ Uses cfg t q ∧ True :=
    ⟨Or.inl (by simp), trivial⟩
  refine phase_quiet_bind (only_perform rfl) (fun inflight ↦ ?_) fun _ ↦ trivial
  cases inflight with
  | some result => exact hdone
  | none =>
  refine phase_quiet_bind quiet_now (fun now ↦ ?_) fun _ ↦ trivial
  refine phase_quiet_bind SyncAgreementQueue.quiet_enabledAccount (fun account ↦ ?_) fun _ ↦ trivial
  cases account with
  | none => exact hdone
  | some account =>
  refine phase_quiet_bind (c := (camoufoxPortalReaderFactory cfg).hasSavedSession)
    (only_perform trivial) (fun saved ↦ ?_) fun _ ↦ trivial
  cases saved with
  | false => exact hdone
  | true =>
  -- the reader is opened, which does nothing yet, and entered
  refine sat_attempt_bind (c := CamoufoxReader.aenter cfg) phase_aenter.ends ?_
  rintro t₂ o q ⟨hreader, hends⟩
  have hskip : (∀ reader, o ≠ .ok reader) → ∀ {o' : Except Exn SyncResult},
      Sat (phases cfg.lockPath) (.done o' : Prog SyncResult) q fun t _ q ↦
        Uses cfg (t₂ ++ t) q ∧ True := fun hno _ ↦
    ⟨uses_of_aenter hends (by simp) fun reader ho ↦ (hno reader ho).elim, trivial⟩
  split
  · exact hskip (by simp)
  · split
    · refine (sat_quiet SyncAgreementQueue.quiet_recordFailedPoll).mono ?_
      rintro t₃ _ _ ⟨rfl, ht₃⟩
      exact ⟨uses_of_aenter hends (not_creates_of_quiet ht₃) (by simp), trivial⟩
    · exact hskip (by simp)
  · rename_i reader
    obtain ⟨rfl, hpath⟩ := hreader reader rfl
    refine (phase_pollWith hpath).path.mono fun t₃ o' q' ⟨hclosed, hpath'⟩ ↦ ⟨?_, trivial⟩
    refine uses_of_aenter hends (not_creates_of_path hpath' rfl) ?_
    rintro _ ⟨⟩
    exact hclosed

/-! ## The check of a session -/

/-- The session is found ready only when the close has been confirmed. -/
def ReadyIfConfirmed (o : Except Exn (SessionStatus × Option String)) (q : Phase) : Prop :=
  ∀ x, o = .ok x → x.1 = .ready → q.confirmed = true

theorem phase_checkFailure {message : String} {e : Exn} :
    Sat (phases cfg.lockPath) (SyncAgreementQueue.checkFailure message e) q fun t o q' ↦
      t = [] ∧ q' = q ∧ ReadyIfConfirmed o q' := by
  have herror : ∀ {m : Option String} {q' : Phase}, ReadyIfConfirmed (.ok (.error, m)) q' := by
    rintro m q' _ ⟨⟩ hready
    cases hready
  unfold SyncAgreementQueue.checkFailure
  split
  · exact ⟨rfl, rfl, herror⟩
  · exact ⟨rfl, rfl, herror⟩
  · split
    · exact ⟨rfl, rfl, herror⟩
    · exact ⟨rfl, rfl, by simp [ReadyIfConfirmed]⟩

theorem phase_checkSession {timeout : ℕ} :
    Sat (phases cfg.lockPath)
      (SyncAgreementQueue.checkSession (camoufoxPortalReaderFactory cfg) timeout) .free
      fun t o q ↦ Uses cfg t q ∧ ReadyIfConfirmed o q := by
  refine sat_attempt_bind (c := waitFor (CamoufoxReader.aenter cfg)) (R := fun t o' q ↦
    ∃ o, Ends (CamoufoxReader.aenter cfg) t o ∧ (∀ reader, o' = .ok reader ↔ o = .ok reader) ∧
      ∀ reader, o = .ok reader →
        q = .browsing reader.lock reader.manager ∧ reader.lock.path = cfg.lockPath) ?_ ?_
  · refine sat_next phase_aenter.ends ?_
    rintro t o q ⟨hreader, hends⟩
    rw [← List.append_nil t] at hends
    split
    · exact ⟨_, hends, by simp, hreader⟩
    · exact ⟨_, hends, fun _ ↦ Iff.rfl, hreader⟩
  rintro t₂ o' q ⟨o, hends, hsame, hreader⟩
  have hfailed : (∀ reader, o' ≠ .ok reader) → ∀ {t₃ : List Happening} {q' : Phase}, t₃ = [] →
      Uses cfg (t₂ ++ t₃) q' := by
    rintro hno t₃ q' rfl
    exact uses_of_aenter hends (by simp) fun reader ho ↦ (hno reader ((hsame reader).mpr ho)).elim
  split
  · exact ⟨hfailed (by simp) rfl, by rintro _ ⟨⟩ hready; cases hready⟩
  · refine phase_checkFailure.mono ?_
    rintro t₃ _ _ ⟨ht₃, -, hready⟩
    exact ⟨hfailed (by simp) ht₃, hready⟩
  · rename_i reader
    have ho : o = .ok reader := (hsame reader).mp rfl
    obtain ⟨rfl, hpath⟩ := hreader reader ho
    refine (Sat.path (Q := fun _ o q ↦ q.Closed reader ∧ ReadyIfConfirmed o q) ?_).mono ?_
    · refine sat_bind (R := fun _ o q ↦ (∀ x, o = .ok x → q.Ended reader (x.2 = true)) ∧
        q.Closed reader) (sat_tryFinally
          (sat_quiet (SyncAgreementQueue.quiet_checkAuthenticated rfl)) ?_) ?_ fun _ _ _ h ↦
            ⟨h.2, by simp [ReadyIfConfirmed]⟩
      · rintro _ o _ ⟨rfl, -⟩
        refine (phase_closeReader hpath).mono ?_
        intro _ o' q hq
        cases o' with
        | ok b =>
          refine ⟨fun x hx ↦ ?_, _, hq⟩
          cases o with
          | ok report =>
            cases hx
            simpa using hq
          | error e => cases hx
        | error e => exact ⟨by simp, _, hq⟩
      · rintro _ ⟨checked, cleanupOk⟩ q ⟨hq, hclosed⟩
        refine sat_pure ⟨hclosed, ?_⟩
        rintro x hx hready
        rcases hq _ rfl with ⟨-, rfl⟩ | ⟨hno, -⟩
        · rfl
        · simp only [Bool.not_eq_true] at hno
          rw [hno] at hx
          cases hx
          cases hready
    · rintro t₃ _ q' ⟨⟨hclosed, hready⟩, hpath'⟩
      refine ⟨?_, hready⟩
      refine uses_of_aenter hends (not_creates_of_path hpath' rfl) fun reader' ho' ↦ ?_
      rw [ho] at ho'
      cases ho'
      exact hclosed

theorem phase_verifySession {timeout : ℕ} :
    Sat (phases cfg.lockPath)
      (SyncAgreementQueue.verifySession (camoufoxPortalReaderFactory cfg) timeout) .free
      fun t o q ↦ Uses cfg t q ∧ (o = .ok true → q.confirmed = true) := by
  refine phase_quiet_bind (R := fun o q ↦ o = .ok true → q.confirmed = true) quiet_now
    (fun now ↦ ?_) (by simp)
  refine phase_quiet_bind (R := fun o q ↦ o = .ok true → q.confirmed = true)
    (quiet_withUow (quiet_repo rfl)) (fun account ↦ ?_) (by simp)
  cases account with
  | none => exact ⟨Or.inl (by simp), by simp⟩
  | some account =>
  refine sat_bind (c := SyncAgreementQueue.checkSession (camoufoxPortalReaderFactory cfg) timeout)
    phase_checkSession ?_ fun _ _ _ h ↦ ⟨h.1, by simp⟩
  rintro t₁ ⟨status, error⟩ q ⟨huses, hready⟩
  have hconfirmed : status = .ready → q.confirmed = true := hready _ rfl
  refine sat_bind (sat_quiet (SyncAgreementQueue.quiet_markSessionChecked hconfirmed)) ?_ ?_
  · rintro t₂ u _ ⟨rfl, ht₂⟩
    refine sat_pure ⟨?_, fun ho ↦ hconfirmed (by simpa using Except.ok.inj ho)⟩
    rw [List.append_nil]
    exact huses.append_right (not_creates_of_quiet ht₂)
  · rintro t₂ e _ ⟨rfl, ht₂⟩
    exact ⟨huses.append_right (not_creates_of_quiet ht₂), by simp⟩

end Reader

section Login

variable {settings : Settings} {q : Phase} {l : FileLock} {m : ManagerId}

/-! ## A login -/

theorem quiet_loginInWindow (hq : q.canWait = true) :
    Only (Request.Quiet q) (loginInWindow settings m) :=
  only_loginInWindow.mono fun r hr ↦ by
    cases r with
    | portal r => cases r <;> first | exact hq | exact hr.elim | trivial
    | now => trivial
    | _ => exact hr.elim

/-- The task may let go of its lock. -/
def Phase.CanRelease (l : FileLock) (q : Phase) : Prop :=
  (∃ o, q.carries = some (l, o)) ∨ ∃ m e, q = .marked l m e

theorem phase_closeWindow {reason : String} {seconds : ℕ} {body : Except Exn Unit}
    (hpath : l.path = settings.lockPath) :
    Sat (phases settings.lockPath)
      (closeWindow seconds m (markProfileTeardownUnconfirmed l reason) body)
      (.browsing l m) fun _ _ q ↦ q.CanRelease l := by
  have hwait : Sat (phases settings.lockPath) (waitFor (portal (.managerExit m))) (.browsing l m)
      fun _ o q ↦
        (∃ c, q = .ended l m c) ∧ ∀ e, o = .error e → ∃ e', q = .ended l m (.error e') := by
    refine sat_next (R := fun _ o q ↦ q = .ended l m o)
      (phase_portal ⟨_, _, .close _ _ (.ok ())⟩ ?_) ?_
    · rintro a q' hstep
      cases hstep with
      | quiet _ _ _ hquiet => exact hquiet.elim
      | close => rfl
    · rintro _ o _ rfl
      split
      · exact ⟨⟨_, rfl⟩, fun _ _ ↦ ⟨_, rfl⟩⟩
      · refine ⟨⟨_, rfl⟩, ?_⟩
        rintro e rfl
        exact ⟨e, rfl⟩
  refine sat_attempt_bind hwait ?_
  rintro _ o q ⟨⟨c, hc⟩, herror⟩
  have hcarries : q.CanRelease l := Or.inl ⟨some (m, c), by rw [hc]; rfl⟩
  split
  · exact hcarries
  · rename_i e
    split
    · obtain ⟨e', rfl⟩ := herror e rfl
      refine sat_bind (phase_markProfileTeardownUnconfirmed hpath) ?_ (by simp)
      rintro _ _ _ ⟨-, rfl⟩
      cases body <;> exact sat_throw (Or.inr ⟨m, e', rfl⟩)
    · exact hcarries

theorem phase_launchVisibleBrowserAndWait {reason : String} (hpath : l.path = settings.lockPath) :
    Sat (phases settings.lockPath)
      (launchVisibleBrowserAndWait settings (markProfileTeardownUnconfirmed l reason)) (.held l)
      fun _ _ q ↦ q.CanRelease l := by
  refine sat_bind (phase_quiet trivial) ?_ ?_
  swap
  · rintro _ e _ rfl
    exact Or.inl ⟨none, rfl⟩
  rintro _ u _ rfl
  refine sat_bind phase_managerEnter ?_ ?_
  · rintro _ m _ (⟨_, ho, rfl⟩ | ⟨⟨e, ho⟩, -⟩)
    · cases ho
      refine sat_attempt_bind (sat_quiet (quiet_loginInWindow rfl)) ?_
      rintro _ body _ ⟨rfl, -⟩
      exact phase_closeWindow hpath
    · cases ho
  · rintro _ e _ (⟨_, ho, -⟩ | ⟨-, rfl⟩)
    · cases ho
    · exact Or.inl ⟨none, rfl⟩

theorem phase_runLogin :
    Sat (phases settings.lockPath) (runLogin settings) .free fun _ _ _ ↦ True := by
  have hdone : ∀ {o : Except Exn Bool} {q : Phase}, Sat (phases settings.lockPath)
      (.done o : Prog Bool) q fun _ _ _ ↦ True := trivial
  refine sat_attempt_bind (R := fun _ _ _ ↦ True) ?_ fun _ o _ _ ↦ by
    cases o with
    | ok verify => exact hdone
    | error e =>
      dsimp only
      split <;> exact hdone
  refine sat_bind phase_acquireProfileLock ?_ (by simp)
  rintro _ lock _ hlock
  obtain ⟨rfl, hpath⟩ := hlock lock rfl
  refine sat_attempt_bind (R := fun _ _ q ↦ q.CanRelease lock) ?_ ?_
  · refine sat_attempt_bind (phase_launchVisibleBrowserAndWait hpath) ?_
    intro _ o q hq
    split
    · exact sat_pure hq
    · refine sat_bind (sat_quiet SyncAgreementQueue.quiet_markLoginTeardownFailed) ?_ ?_
      · rintro _ u _ ⟨rfl, -⟩
        exact sat_pure hq
      · rintro _ e _ ⟨rfl, -⟩
        exact hq
    · exact sat_throw hq
  · rintro _ o q (⟨o', hq⟩ | ⟨m, e, rfl⟩)
    · exact sat_bind (phase_release_carried hpath hq) (fun _ _ _ _ ↦ hdone) (by simp)
    · exact sat_bind (phase_release_marked hpath) (fun _ _ _ _ ↦ hdone) (by simp)

end Login

end RmaPortal
