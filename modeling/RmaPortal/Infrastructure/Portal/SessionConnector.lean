import RmaPortal.Application.SharedQueue
import RmaPortal.Infrastructure.Portal.SessionSetup

/-!
# Connecting a session

`SessionConnector` of `infrastructure/portal/session_connector.py`.  The login window, the check
of the session that follows it and the synchronization that follows the check are three tasks:
`start` creates the first one, each of the others is created by the one before it, and `shutdown`
cancels those that run.

## What is here

* `ConnectorRequest` — what these programs ask of the event loop, of the profile lock and of the
  operations the connector was given.  Some requests do nothing but leave a note in the trace, so
  that it can be said of a run when a method was called and when the call ended.
* `SessionConnector` and `SessionConnector.serve` — what they share, and how requests are
  answered.  An answer comes as a suggestion.  A cancellation is an error suggested to a request
  that waits, so that `Task.cancel()` itself changes nothing; a task cancelled before it has begun
  is told so when it begins.  Whoever awaits a task is answered when that task is done: until then
  a cancellation is passed on to it.
* `rulesWhere`, `StartsApart`, `CallsApart` — the rules of the event loop, and what may be taken
  for granted of the calls: that `start`, or neither method, is called while a call of `shutdown`
  is in progress.
* `start`, `shutdown`, `runLogin`, `runVerify`, `runSyncTask` — the methods of the source, in its
  order, with the parts that several of them use in front.
* `startCall`, `shutdownCall`, `taskCall`, `IsConnectorProgram` — what runs on the event loop.  A
  task begins with the answer to whether it has been cancelled before its first turn.

Who else uses the profile is not modelled here: it makes `acquireProfileLock` fail.  The two
halves of `acquire_profile_lock` are in `Infrastructure/Portal/ProfileLock.lean`, and what the
operations do is for whoever gives them to the connector.  Log lines and correlation identifiers
are left out.
-/

set_option autoImplicit false

open Coroutine

namespace RmaPortal

/-- What a task of the connector is for. -/
inductive ConnectorJob
  | login
  | verify
  | sync
  deriving DecidableEq

/-- A task of the event loop. -/
abbrev TaskId : Type := ℕ

/-- What the programs of the connector ask for. -/
inductive ConnectorRequest
  /-- A note: `start` is called. -/
  | startCalled
  /-- A note: `shutdown` is called, for the `n`-th time … -/
  | shutdownCalled
  /-- … and that call ends. -/
  | shutdownEnded (n : ℕ)
  /-- `self.last_start_blocked_by_sync = blocked` -/
  | setLastStartBlockedBySync (blocked : Bool)
  /-- `self._login_task`, `self._verify_task` or `self._sync_task` -/
  | getTask (job : ConnectorJob)
  /-- `setattr(self, attr, None)` -/
  | clearTask (job : ConnectorJob)
  /-- `self._login_task = asyncio.create_task(self._run_login())`, or the same of another task -/
  | createTask (job : ConnectorJob)
  /-- `task.done()` -/
  | taskDone (t : TaskId)
  /-- `task.cancel()` -/
  | cancel (t : TaskId)
  /-- `await task` -/
  | awaitTask (t : TaskId)
  /-- The event loop begins to run a task … -/
  | begin (job : ConnectorJob) (t : TaskId)
  /-- … and the task ends. -/
  | finish (t : TaskId)
  /-- `self._is_sync_running()` -/
  | isSyncRunning
  /-- `acquire_profile_lock`, up to its `yield` -/
  | acquireProfileLock
  /-- The `finally` of `acquire_profile_lock`; whether it has released the lock. -/
  | releaseProfileLock
  /-- `mark_profile_teardown_unconfirmed` -/
  | markProfileTeardownUnconfirmed
  /-- `self._open_and_wait(…)`, up to the end of its cleanup … -/
  | openAndWait
  /-- … and, where it is about to raise, whether its cleanup could not be confirmed. -/
  | cleanupUnconfirmed
  /-- `self._mark_login_teardown_failed(message)` -/
  | markLoginTeardownFailed (message : String)
  /-- `self._verify_session(timeout_seconds)` -/
  | verifySession (timeoutSeconds : ℕ)
  /-- `self._run_sync()` -/
  | runSync

abbrev ConnectorRequest.Val : ConnectorRequest → Type
  | shutdownCalled => ℕ
  | getTask _ => Option TaskId
  | createTask _ => TaskId
  | taskDone _ => Bool
  | isSyncRunning => Bool
  | releaseProfileLock => Bool
  | cleanupUnconfirmed => Bool
  | verifySession _ => Bool
  | _ => Unit

/-- Programs of the connector. -/
abbrev ConnectorCall (α : Type) : Type := Coro ConnectorRequest.Val Exn α

/-- What happened at a request of the connector. -/
abbrev ConnectorEvent : Type := Event ConnectorRequest.Val Exn

/-- The connector, its tasks and the registry of profiles. -/
structure SessionConnector where
  /-- `self._login_task`, `self._verify_task` and `self._sync_task` -/
  task : ConnectorJob → Option TaskId
  /-- `self.last_start_blocked_by_sync` -/
  lastStartBlockedBySync : Bool
  /-- What the tasks are for that have been created. -/
  job : TaskId → Option ConnectorJob
  /-- The tasks the event loop has begun to run. -/
  begun : TaskId → Bool
  /-- The tasks that are done. -/
  finished : TaskId → Bool
  /-- The tasks from here on have not been created yet. -/
  nextTask : TaskId
  /-- The profile is in the registry. -/
  unconfirmed : Bool
  /-- The calls of `shutdown` that are in progress. -/
  stopping : List ℕ
  /-- How often `shutdown` has been called. -/
  shutdowns : ℕ

namespace SessionConnector

/-- `SessionConnector.__init__` -/
def new : SessionConnector :=
  ⟨fun _ ↦ none, false, fun _ ↦ none, fun _ ↦ false, fun _ ↦ false, 0, false, [], 0⟩

/-- A task for the job has been created, and the connector refers to it. -/
def withNewTask (s : SessionConnector) (job : ConnectorJob) : SessionConnector :=
  { s with
    task := Function.update s.task job (some s.nextTask)
    job := Function.update s.job s.nextTask (some job)
    nextTask := s.nextTask + 1 }

/-- How a request is answered; `none` if there is nothing to answer it with yet. -/
def serve : (q : ConnectorRequest) → Except Exn q.Val → SessionConnector →
    Option (Except Exn q.Val × SessionConnector)
  | .startCalled, _, s => some (.ok (), s)
  | .shutdownCalled, _, s =>
    some (.ok s.shutdowns,
      { s with stopping := s.shutdowns :: s.stopping, shutdowns := s.shutdowns + 1 })
  | .shutdownEnded n, _, s => some (.ok (), { s with stopping := s.stopping.filter (· ≠ n) })
  | .setLastStartBlockedBySync blocked, _, s =>
    some (.ok (), { s with lastStartBlockedBySync := blocked })
  | .getTask job, _, s => some (.ok (s.task job), s)
  | .clearTask job, _, s => some (.ok (), { s with task := Function.update s.task job none })
  | .createTask job, _, s => some (.ok s.nextTask, s.withNewTask job)
  | .taskDone t, _, s => some (.ok (s.finished t), s)
  | .cancel _, _, s => some (.ok (), s)
  | .awaitTask t, a, s => if s.finished t then some (a, s) else none
  | .begin job t, a, s =>
    if s.job t = some job ∧ s.begun t = false then
      some (a.mapError fun _ ↦ taskCancelled, { s with begun := Function.update s.begun t true })
    else none
  | .finish t, _, s => some (.ok (), { s with finished := Function.update s.finished t true })
  | .acquireProfileLock, .error e, s => some (.error e, s)
  | .acquireProfileLock, .ok _, s => if s.unconfirmed then none else some (.ok (), s)
  | .releaseProfileLock, .error e, s => some (.error e, s)
  | .releaseProfileLock, .ok _, s => some (.ok !s.unconfirmed, s)
  | .markProfileTeardownUnconfirmed, _, s => some (.ok (), { s with unconfirmed := true })
  | .isSyncRunning, a, s => some (a, s)
  | .openAndWait, a, s => some (a, s)
  | .cleanupUnconfirmed, a, s => some (a, s)
  | .markLoginTeardownFailed _, a, s => some (a, s)
  | .verifySession _, a, s => some (a, s)
  | .runSync, a, s => some (a, s)

/-- The rules of the event loop, where every request is one that is allowed. -/
abbrev rulesWhere (allowed : SessionConnector → ConnectorRequest → Prop) :
    Spec ConnectorRequest.Val Exn SessionConnector where
  pre _ _ := True
  step s q a s' := allowed s q ∧ ∃ b, serve q b s = some (a, s')

/-- `start` is not called while a call of `shutdown` is in progress. -/
def StartsApart (s : SessionConnector) (q : ConnectorRequest) : Prop :=
  q = .startCalled → s.stopping = []

/-- Neither `start` nor `shutdown` is called while a call of `shutdown` is in progress. -/
def CallsApart (s : SessionConnector) (q : ConnectorRequest) : Prop :=
  q = .startCalled ∨ q = .shutdownCalled → s.stopping = []

/-- Whether a request is an `await`. -/
def suspends : ConnectorRequest → Bool
  | .awaitTask _ => true
  | .openAndWait => true
  | .markLoginTeardownFailed _ => true
  | .verifySession _ => true
  | .runSync => true
  | _ => false

/-! ## The programs -/

/-- Make a request. -/
def request (q : ConnectorRequest) : ConnectorCall q.Val := Coro.perform q

/-- Whether there is a task for the job that is not done. -/
def isUnfinished (job : ConnectorJob) : ConnectorCall Bool := do
  match ← request (.getTask job) with
  | none => pure false
  | some t => return !(← request (.taskDone t))

def isActive : ConnectorCall Bool := isUnfinished .login

def isVerifying : ConnectorCall Bool := isUnfinished .verify

def start : ConnectorCall Bool := do
  request (.setLastStartBlockedBySync false)
  if ← isActive then pure false
  else if ← isVerifying then pure false
  else if ← request .isSyncRunning then
    request (.setLastStartBlockedBySync true)
    pure false
  else
    let _ ← request (.createTask .login)
    pure true

/-- One round of the loop of `shutdown`. -/
def stopTask (attr : ConnectorJob) : ConnectorCall Unit := do
  let task ← request (.getTask attr)
  request (.clearTask attr)
  match task with
  | none => pure ()
  | some t =>
    if !(← request (.taskDone t)) then
      request (.cancel t)
      match ← (request (.awaitTask t)).attempt with
      | .ok () => pure ()
      | .error (.cancelledError _) => pure ()
      | .error e => throw e

def shutdown : ConnectorCall Unit := do
  stopTask .login
  stopTask .verify
  stopTask .sync

/-- `with acquire_profile_lock(…): body` -/
def withProfileLock {α : Type} (body : ConnectorCall α) : ConnectorCall α := do
  request .acquireProfileLock
  let o ← body.attempt
  let _ ← request .releaseProfileLock
  .done o

/-- `launch_visible_browser_and_wait`: before it raises it calls back if its cleanup could not be
confirmed. -/
def openAndWait (onTeardownUnconfirmed : ConnectorCall Unit) : ConnectorCall Unit := do
  match ← (request .openAndWait).attempt with
  | .ok () => pure ()
  | .error e =>
    if ← request .cleanupUnconfirmed then onTeardownUnconfirmed
    throw e

/-- The `try` statement of `_run_login`; whether the login is to be followed by a verification. -/
def login : ConnectorCall Bool := do
  match ← (openAndWait (request .markProfileTeardownUnconfirmed)).attempt with
  | .ok () => pure true
  | .error (.browserTeardownError _) =>
    request (.markLoginTeardownFailed loginTeardownFailedMessage)
    pure false
  | .error e => throw e

/-- `_run_login` -/
def runLogin : ConnectorCall Unit := do
  match ← (withProfileLock login).attempt with
  | .ok true =>
    let _ ← request (.createTask .verify)
  | .ok false => pure ()
  | .error e => if e.isException then pure () else throw e

/-- `_run_verify` -/
def runVerify (verifyTimeoutSeconds : ℕ) : ConnectorCall Unit := do
  match ← (request (.verifySession verifyTimeoutSeconds)).attempt with
  | .ok true =>
    let _ ← request (.createTask .sync)
  | .ok false => pure ()
  | .error e => if e.isException then pure () else throw e

/-- `_run_sync_task` -/
def runSyncTask : ConnectorCall Unit := do
  match ← (request .runSync).attempt with
  | .ok () => pure ()
  | .error e => if e.isException then pure () else throw e

/-! ## What runs on the event loop

A call of `start` returns whether it has created a task; the others return nothing. -/

def startCall : ConnectorCall (Option Bool) := do
  request .startCalled
  let started ← start
  pure (some started)

def shutdownCall : ConnectorCall (Option Bool) := do
  let n ← request .shutdownCalled
  let o ← shutdown.attempt
  request (.shutdownEnded n)
  match o with
  | .ok () => pure none
  | .error e => throw e

/-- What a task runs. -/
def jobBody (verifyTimeoutSeconds : ℕ) : ConnectorJob → ConnectorCall Unit
  | .login => runLogin
  | .verify => runVerify verifyTimeoutSeconds
  | .sync => runSyncTask

/-- The task `t`, from its beginning to its end. -/
def taskCall (verifyTimeoutSeconds : ℕ) (job : ConnectorJob) (t : TaskId) :
    ConnectorCall (Option Bool) := do
  let run : ConnectorCall Unit := do
    request (.begin job t)
    jobBody verifyTimeoutSeconds job
  let o ← run.attempt
  request (.finish t)
  match o with
  | .ok () => pure none
  | .error e => throw e

/-- The programs of the connector. -/
inductive IsConnectorProgram (verifyTimeoutSeconds : ℕ) : ConnectorCall (Option Bool) → Prop
  | start : IsConnectorProgram verifyTimeoutSeconds startCall
  | shutdown : IsConnectorProgram verifyTimeoutSeconds shutdownCall
  | task (job : ConnectorJob) (t : TaskId) :
      IsConnectorProgram verifyTimeoutSeconds (taskCall verifyTimeoutSeconds job t)

end SessionConnector

end RmaPortal
