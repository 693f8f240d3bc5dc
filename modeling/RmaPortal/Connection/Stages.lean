import RmaPortal.Infrastructure.Portal.SessionConnector

/-!
# The stages of a connection

Where a program of the connector is: `Stage` has one constructor for each point of `start` and of
the three tasks that matters for the others, and `Stage.Step` says which request takes a program
from which stage to which.  A task of a connection is *busy* with a login or a verification from
its beginning until it has handed over to the next task or is done.

What a program has done so far can be told from its stage (`begun_iff`, `created_iff`,
`milestones_sublist`, `operations_le_one`).

## What is here

* `ConnectorRequest.operation`, `operations` — the request by which a task does what it is there
  for: to open the login window, to verify the session, to synchronize.
* `Stage`, with what it says: the task that the program runs (`Stage.self`), the one it has
  created (`Stage.child`), the login or verification that is going on (`Stage.busy`), whether a
  synchronization may still follow (`Stage.ahead`), and, for a call of `shutdown`, which jobs it
  has dealt with and which task it holds.
* `Quiet` requests, which take a program nowhere, and `Next`, the order in which `shutdown` deals
  with the jobs.
* `Stage.Step` — the way of a program through its stages, with one constructor for each way to
  answer a request that matters; `stages` is the typestate that this makes.
* `begun_iff`, `created_iff` — which task is run and which one has been created is known from the
  history.
* `milestones_step`, `milestones_sublist` — what has happened, and in which order: a verification
  is created after its login has succeeded, and so on.
* `due_step`, `operations_le_one` — a task asks for its operation once at most, and for no other.

How the stages of different programs hang together is in `Connection.Invariant`.
-/

set_option autoImplicit false

open Coroutine

namespace RmaPortal

/-- The job whose task makes the request in order to do what it is there for. -/
def ConnectorRequest.operation : ConnectorRequest → Option ConnectorJob
  | .openAndWait => some .login
  | .verifySession _ => some .verify
  | .runSync => some .sync
  | _ => none

namespace SessionConnector

/-- How often the operation of the job has been asked for. -/
def operations (job : ConnectorJob) (h : List ConnectorEvent) : ℕ :=
  h.countP fun e ↦ e.1.operation = some job

/-- Where a program of the connector is. -/
inductive Stage
  /-- It has not done anything. -/
  | idle
  /-- `start` has been called. -/
  | calling
  /-- `start` has found the task `t` where it looked for one for the job. -/
  | looked (job : ConnectorJob) (t : TaskId)
  /-- `start` has found that no login is going on. -/
  | inactive
  /-- `start` has found that no verification is going on either. -/
  | clear
  /-- `start` has found that something is going on. -/
  | refused
  /-- `start` has created the login `l`. -/
  | accepted (l : TaskId)
  /-- The login `l` has begun. -/
  | loginBegun (l : TaskId)
  /-- The login `l` has got the lock of the profile. -/
  | holding (l : TaskId)
  /-- Its window has been closed normally. -/
  | closed (l : TaskId)
  /-- … and the lock has been released. -/
  | released (l : TaskId)
  /-- … and the verification `v` has been created. -/
  | handedOver (l v : TaskId)
  /-- The login `l` has failed somewhere. -/
  | loginFailed (l : TaskId)
  /-- The login `l` is done; it has created the verification `v` or none. -/
  | loginOver (l : TaskId) (v : Option TaskId)
  /-- The verification `v` has begun. -/
  | verifying (v : TaskId)
  /-- The session has been verified. -/
  | verified (v : TaskId)
  /-- … and the synchronization `s` has been created. -/
  | syncCreated (v s : TaskId)
  /-- The session has not been verified. -/
  | verifyFailed (v : TaskId)
  /-- The verification `v` is done; it has created the synchronization `s` or none. -/
  | verifyOver (v : TaskId) (s : Option TaskId)
  /-- The synchronization `s` has begun. -/
  | syncing (s : TaskId)
  /-- … and ended. -/
  | synced (s : TaskId)
  /-- The `n`-th call of `shutdown` has dealt with the tasks for the jobs in `walked`. -/
  | stopping (n : ℕ) (walked : List ConnectorJob)
  /-- … and has found `o` where it looked for a task for the next job. -/
  | found (n : ℕ) (walked : List ConnectorJob) (job : ConnectorJob) (o : Option TaskId)
  /-- … and has cleared the reference to the task `t`. -/
  | removed (n : ℕ) (walked : List ConnectorJob) (job : ConnectorJob) (t : TaskId)
  /-- A call of `shutdown` has ended, having dealt with the tasks for the jobs in `walked`. -/
  | stopped (walked : List ConnectorJob)

namespace Stage

/-- The task that is run. -/
def self : Stage → Option (ConnectorJob × TaskId)
  | loginBegun l | holding l | closed l | released l | handedOver l _ | loginFailed l
  | loginOver l _ => some (.login, l)
  | verifying v | verified v | syncCreated v _ | verifyFailed v | verifyOver v _ =>
    some (.verify, v)
  | syncing s | synced s => some (.sync, s)
  | _ => none

/-- The task that has been created. -/
def child : Stage → Option (ConnectorJob × TaskId)
  | accepted l => some (.login, l)
  | handedOver _ v | loginOver _ (some v) => some (.verify, v)
  | syncCreated _ s | verifyOver _ (some s) => some (.sync, s)
  | _ => none

/-- The login or verification that is going on. -/
def busy : Stage → Option TaskId
  | loginBegun l | holding l | closed l | released l | loginFailed l => some l
  | verifying v | verified v | syncCreated v _ | verifyFailed v => some v
  | _ => none

/-- The login or verification may still lead to a synchronization. -/
def ahead : Stage → Bool
  | loginBegun _ | holding _ | closed _ | released _ | verifying _ | verified _ => true
  | _ => false

/-- The call of `shutdown`. -/
def call : Stage → Option ℕ
  | stopping n _ | found n _ _ _ | removed n _ _ _ => some n
  | _ => none

/-- The jobs whose tasks a call of `shutdown` has dealt with. -/
def walked : Stage → List ConnectorJob
  | stopping _ w | found _ w _ _ | removed _ w _ _ => w
  | _ => []

/-- The task that is referred to by a call of `shutdown` only. -/
def held : Stage → Option (ConnectorJob × TaskId)
  | removed _ _ job t => some (job, t)
  | _ => none

/-- The profile is locked, and its browser has not failed to close. -/
def locked : Stage → Bool
  | holding _ | closed _ => true
  | _ => false

/-- The operation of the job has not been asked for yet. -/
def due (job : ConnectorJob) : Stage → ℕ
  | idle => 1
  | loginBegun _ | holding _ => if job = .login then 1 else 0
  | verifying _ => if job = .verify then 1 else 0
  | syncing _ => if job = .sync then 1 else 0
  | _ => 0

/-- What must have happened, in this order. -/
def milestones (verifyTimeoutSeconds : ℕ) : Stage → List ConnectorEvent
  | accepted l => [⟨.createTask .login, .ok l⟩]
  | loginBegun l | holding l => [⟨.begin .login l, .ok ()⟩]
  | closed l => [⟨.begin .login l, .ok ()⟩, ⟨.openAndWait, .ok ()⟩]
  | released l =>
    [⟨.begin .login l, .ok ()⟩, ⟨.openAndWait, .ok ()⟩, ⟨.releaseProfileLock, .ok true⟩]
  | handedOver l v | loginOver l (some v) =>
    [⟨.begin .login l, .ok ()⟩, ⟨.openAndWait, .ok ()⟩, ⟨.releaseProfileLock, .ok true⟩,
      ⟨.createTask .verify, .ok v⟩]
  | verifying v => [⟨.begin .verify v, .ok ()⟩]
  | verified v => [⟨.begin .verify v, .ok ()⟩, ⟨.verifySession verifyTimeoutSeconds, .ok true⟩]
  | syncCreated v s | verifyOver v (some s) =>
    [⟨.begin .verify v, .ok ()⟩, ⟨.verifySession verifyTimeoutSeconds, .ok true⟩,
      ⟨.createTask .sync, .ok s⟩]
  | _ => []

/-- The request does not take a program anywhere, and may be made in the stage. -/
def Quiet : Stage → ConnectorRequest → Prop
  | _, .setLastStartBlockedBySync _ | _, .isSyncRunning => True
  | loginFailed _, .releaseProfileLock | loginFailed _, .markProfileTeardownUnconfirmed
  | loginFailed _, .cleanupUnconfirmed | loginFailed _, .markLoginTeardownFailed _ => True
  | _, _ => False

/-- In which order `shutdown` deals with the jobs. -/
def Next : List ConnectorJob → ConnectorJob → Prop
  | [], job => job = .login
  | [.login], job => job = .verify
  | [.verify, .login], job => job = .sync
  | _, _ => False

/-- **The way of a program through its stages.** -/
inductive Step (verifyTimeoutSeconds : ℕ) :
    Stage → (q : ConnectorRequest) → Except Exn q.Val → Stage → Prop
  | quiet (x : Stage) (q : ConnectorRequest) (a : Except Exn q.Val) (h : x.Quiet q) :
      Step verifyTimeoutSeconds x q a x
  | call : Step verifyTimeoutSeconds idle .startCalled (.ok ()) calling
  | noLogin : Step verifyTimeoutSeconds calling (.getTask .login) (.ok none) inactive
  | someLogin (t : TaskId) :
      Step verifyTimeoutSeconds calling (.getTask .login) (.ok (some t)) (looked .login t)
  | loginDone (t : TaskId) :
      Step verifyTimeoutSeconds (looked .login t) (.taskDone t) (.ok true) inactive
  | active (t : TaskId) :
      Step verifyTimeoutSeconds (looked .login t) (.taskDone t) (.ok false) refused
  | noVerify : Step verifyTimeoutSeconds inactive (.getTask .verify) (.ok none) clear
  | someVerify (t : TaskId) :
      Step verifyTimeoutSeconds inactive (.getTask .verify) (.ok (some t)) (looked .verify t)
  | verifyDone (t : TaskId) :
      Step verifyTimeoutSeconds (looked .verify t) (.taskDone t) (.ok true) clear
  | verifyGoesOn (t : TaskId) :
      Step verifyTimeoutSeconds (looked .verify t) (.taskDone t) (.ok false) refused
  | accept (l : TaskId) :
      Step verifyTimeoutSeconds clear (.createTask .login) (.ok l) (accepted l)
  | beginLogin (l : TaskId) :
      Step verifyTimeoutSeconds idle (.begin .login l) (.ok ()) (loginBegun l)
  | cancelLogin (l : TaskId) (e : Exn) :
      Step verifyTimeoutSeconds idle (.begin .login l) (.error e) (loginFailed l)
  | lock (l : TaskId) :
      Step verifyTimeoutSeconds (loginBegun l) .acquireProfileLock (.ok ()) (holding l)
  | lockFails (l : TaskId) (e : Exn) :
      Step verifyTimeoutSeconds (loginBegun l) .acquireProfileLock (.error e) (loginFailed l)
  | close (l : TaskId) : Step verifyTimeoutSeconds (holding l) .openAndWait (.ok ()) (closed l)
  | openFails (l : TaskId) (e : Exn) :
      Step verifyTimeoutSeconds (holding l) .openAndWait (.error e) (loginFailed l)
  | release (l : TaskId) :
      Step verifyTimeoutSeconds (closed l) .releaseProfileLock (.ok true) (released l)
  | releaseFails (l : TaskId) (e : Exn) :
      Step verifyTimeoutSeconds (closed l) .releaseProfileLock (.error e) (loginFailed l)
  | handOver (l v : TaskId) :
      Step verifyTimeoutSeconds (released l) (.createTask .verify) (.ok v) (handedOver l v)
  | finishFailed (l : TaskId) :
      Step verifyTimeoutSeconds (loginFailed l) (.finish l) (.ok ()) (loginOver l none)
  | finishHandedOver (l v : TaskId) :
      Step verifyTimeoutSeconds (handedOver l v) (.finish l) (.ok ()) (loginOver l (some v))
  | beginVerify (v : TaskId) :
      Step verifyTimeoutSeconds idle (.begin .verify v) (.ok ()) (verifying v)
  | cancelVerify (v : TaskId) (e : Exn) :
      Step verifyTimeoutSeconds idle (.begin .verify v) (.error e) (verifyFailed v)
  | verify (v : TaskId) :
      Step verifyTimeoutSeconds (verifying v) (.verifySession verifyTimeoutSeconds) (.ok true)
        (verified v)
  | reject (v : TaskId) :
      Step verifyTimeoutSeconds (verifying v) (.verifySession verifyTimeoutSeconds) (.ok false)
        (verifyFailed v)
  | verifyFails (v : TaskId) (e : Exn) :
      Step verifyTimeoutSeconds (verifying v) (.verifySession verifyTimeoutSeconds) (.error e)
        (verifyFailed v)
  | createSync (v s : TaskId) :
      Step verifyTimeoutSeconds (verified v) (.createTask .sync) (.ok s) (syncCreated v s)
  | finishUnverified (v : TaskId) :
      Step verifyTimeoutSeconds (verifyFailed v) (.finish v) (.ok ()) (verifyOver v none)
  | finishVerified (v s : TaskId) :
      Step verifyTimeoutSeconds (syncCreated v s) (.finish v) (.ok ()) (verifyOver v (some s))
  | beginSync (s : TaskId) :
      Step verifyTimeoutSeconds idle (.begin .sync s) (.ok ()) (syncing s)
  | cancelSync (s : TaskId) (e : Exn) :
      Step verifyTimeoutSeconds idle (.begin .sync s) (.error e) (synced s)
  | sync (s : TaskId) (a : Except Exn Unit) :
      Step verifyTimeoutSeconds (syncing s) .runSync a (synced s)
  | finishSync (s : TaskId) :
      Step verifyTimeoutSeconds (synced s) (.finish s) (.ok ()) (synced s)
  | stop (n : ℕ) : Step verifyTimeoutSeconds idle .shutdownCalled (.ok n) (stopping n [])
  | find (n : ℕ) (w : List ConnectorJob) (job : ConnectorJob) (o : Option TaskId)
      (hnext : Next w job) :
      Step verifyTimeoutSeconds (stopping n w) (.getTask job) (.ok o) (found n w job o)
  | clearNone (n : ℕ) (w : List ConnectorJob) (job : ConnectorJob) :
      Step verifyTimeoutSeconds (found n w job none) (.clearTask job) (.ok ())
        (stopping n (job :: w))
  | clearSome (n : ℕ) (w : List ConnectorJob) (job : ConnectorJob) (t : TaskId) :
      Step verifyTimeoutSeconds (found n w job (some t)) (.clearTask job) (.ok ())
        (removed n w job t)
  | notDone (n : ℕ) (w : List ConnectorJob) (job : ConnectorJob) (t : TaskId) :
      Step verifyTimeoutSeconds (removed n w job t) (.taskDone t) (.ok false) (removed n w job t)
  | isDone (n : ℕ) (w : List ConnectorJob) (job : ConnectorJob) (t : TaskId) :
      Step verifyTimeoutSeconds (removed n w job t) (.taskDone t) (.ok true)
        (stopping n (job :: w))
  | cancel (n : ℕ) (w : List ConnectorJob) (job : ConnectorJob) (t : TaskId) :
      Step verifyTimeoutSeconds (removed n w job t) (.cancel t) (.ok ()) (removed n w job t)
  | await (n : ℕ) (w : List ConnectorJob) (job : ConnectorJob) (t : TaskId) (a : Except Exn Unit) :
      Step verifyTimeoutSeconds (removed n w job t) (.awaitTask t) a (stopping n (job :: w))
  | finishStop (n : ℕ) (w : List ConnectorJob) :
      Step verifyTimeoutSeconds (stopping n w) (.shutdownEnded n) (.ok ()) (stopped w)

end Stage

/-- The stages as a typestate: a request is allowed if some answer is foreseen. -/
def stages (verifyTimeoutSeconds : ℕ) : Spec ConnectorRequest.Val Exn Stage where
  pre x q := ∃ a y, Stage.Step verifyTimeoutSeconds x q a y
  step := Stage.Step verifyTimeoutSeconds

/-! ## What the stage says about the history -/

section

variable {verifyTimeoutSeconds : ℕ} {x y : Stage} {h : List ConnectorEvent} {job : ConnectorJob}
  {t : TaskId}

/-- What is quiet is neither the beginning of a task nor the creation of one, nor an operation. -/
theorem Stage.Quiet.notable {q : ConnectorRequest} (hq : x.Quiet q) :
    (∀ job t, q ≠ .begin job t) ∧ (∀ job, q ≠ .createTask job) ∧ q.operation = none := by
  cases q with
  | begin | createTask | openAndWait | verifySession | runSync => cases x <;> exact hq.elim
  | _ => exact ⟨by simp, by simp, rfl⟩

/-- Which task is run is known from its beginning on. -/
theorem begun_iff (hpath : (stages verifyTimeoutSeconds).Path .idle h x) :
    x.self = some (job, t) ↔ ∃ a, ⟨.begin job t, a⟩ ∈ h := by
  have hmem := hpath.iff_exists (P := fun x ↦ x.self = some (job, t))
    (E := fun e ↦ e.1 = .begin job t) (by simp [Stage.self]) ?_
  · rw [hmem]
    constructor
    · rintro ⟨⟨q, a⟩, he, rfl⟩
      exact ⟨a, he⟩
    · rintro ⟨a, ha⟩
      exact ⟨_, ha, rfl⟩
  intro x q a y hstep
  cases hstep with
  | quiet x q a hq => simp [hq.notable.1 job t]
  | _ => simp [Stage.self]

/-- Which task has been created is known from its creation on. -/
theorem created_iff (hpath : (stages verifyTimeoutSeconds).Path .idle h x) :
    x.child = some (job, t) ↔ ⟨.createTask job, .ok t⟩ ∈ h := by
  have hmem := hpath.iff_exists (P := fun x ↦ x.child = some (job, t))
    (E := fun e ↦ e = ⟨.createTask job, .ok t⟩) (by simp [Stage.child]) ?_
  · rw [hmem]
    simp
  intro x q a y hstep
  cases hstep with
  | quiet x q a hq =>
    have hne : (⟨q, a⟩ : ConnectorEvent) ≠ ⟨.createTask job, .ok t⟩ := by
      rintro ⟨⟩
      exact hq.notable.2.1 job rfl
    simp [hne]
  | _ => simp [Stage.child]

/-- One more request adds one milestone at most. -/
theorem milestones_step {q : ConnectorRequest} {a : Except Exn q.Val}
    (hstep : Stage.Step verifyTimeoutSeconds x q a y) :
    (y.milestones verifyTimeoutSeconds).Sublist
      (x.milestones verifyTimeoutSeconds ++ [⟨q, a⟩]) := by
  cases hstep <;> exact List.sublist_append_left _ _

/-- **What has happened, in which order**, can be told from the stage. -/
theorem milestones_sublist (hpath : (stages verifyTimeoutSeconds).Path .idle h x) :
    (x.milestones verifyTimeoutSeconds).Sublist h :=
  hpath.invariant (I := fun h x ↦ (x.milestones verifyTimeoutSeconds).Sublist h)
    (List.nil_sublist _) fun _ _ _ _ _ ih hstep ↦
      (milestones_step hstep).trans (ih.append (List.Sublist.refl _))

/-- An operation that is asked for was due, and is not due any more. -/
theorem due_step {q : ConnectorRequest} {a : Except Exn q.Val}
    (hstep : Stage.Step verifyTimeoutSeconds x q a y) :
    (if q.operation = some job then 1 else 0) + y.due job ≤ x.due job := by
  cases hstep with
  | quiet x q a hq => simp [hq.notable.2.2]
  | _ => cases job <;> simp [Stage.due, ConnectorRequest.operation]

/-- Only a task of the job asks for its operation. -/
theorem self_step {q : ConnectorRequest} {a : Except Exn q.Val}
    (hstep : Stage.Step verifyTimeoutSeconds x q a y)
    (h : (∃ t, x.self = some (job, t)) ∨ q.operation = some job) :
    ∃ t, y.self = some (job, t) := by
  cases hstep with
  | quiet x q a hq => simpa [hq.notable.2.2] using h
  | _ => simp_all [Stage.self, ConnectorRequest.operation]

/-- **A task asks for its operation once at most**, and for no other. -/
theorem operations_le_one (hpath : (stages verifyTimeoutSeconds).Path .idle h x) :
    operations job h + x.due job ≤ 1 ∧ (0 < operations job h → ∃ t, x.self = some (job, t)) := by
  refine hpath.invariant (I := fun h x ↦ operations job h + x.due job ≤ 1 ∧
    (0 < operations job h → ∃ t, x.self = some (job, t))) (by simp [operations, Stage.due]) ?_
  intro h x q a y ⟨hle, hself⟩ hstep
  have hdue : (if q.operation = some job then 1 else 0) + y.due job ≤ x.due job := due_step hstep
  have hcount : operations job (h ++ [⟨q, a⟩]) =
      operations job h + if q.operation = some job then 1 else 0 := by
    simp only [operations, List.countP_append, List.countP_singleton, decide_eq_true_eq]
  rw [hcount]
  refine ⟨by omega, fun hpos ↦ self_step hstep ?_⟩
  by_cases hq : q.operation = some job
  · exact .inr hq
  · rw [if_neg hq] at hpos
    exact .inl (hself hpos)

end

end SessionConnector

end RmaPortal
