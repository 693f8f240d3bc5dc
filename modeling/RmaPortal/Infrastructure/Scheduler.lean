import RmaPortal.Application.SharedQueue

/-!
# Who polls

The programs that call the shared `SyncAgreementQueue.execute`: the loop of `PollScheduler` in
`infrastructure/scheduler/poller.py`, the synchronization after a login in
`infrastructure/portal/session_connector.py`, and the request for a manual refresh in
`web/routes/dashboard.py`.  Log lines are left out.

## What is here

* `pollOnce` — the `try` statement of the loop: an exception is logged, and anything else that is
  raised is handed on.
* `loop` — `_loop`, what it does in its first rounds.  Between two polls it sleeps.
* `runSyncTask`, `manualRefresh` — the two others.  A manual refresh is a request of somebody who
  waits for the page; what the page shows is in `Web/Routes.lean`.
* `CallsExecute` — these programs.

`PollScheduler.start` creates the task of the loop, and only the scheduler holds that task.  So a
cancellation of it is one by `PollScheduler.stop`.
-/

set_option autoImplicit false

open Coroutine

namespace RmaPortal

open SharedQueue (request execute)

variable (executeOnce : Prog SyncResult)

namespace PollScheduler

/-- The `try` statement of the loop. -/
def pollOnce : Call Unit := do
  match ← (execute executeOnce).attempt with
  | .ok _ => pure ()
  | .error (.cancelledError byTimeout) => throw (.cancelledError byTimeout)
  | .error e => if e.isException then pure () else throw e

/-- `_loop`: what it does in its first `n` rounds. -/
def loop (intervalSeconds : ℕ) : ℕ → Call Unit
  | 0 => pure ()
  | n + 1 => do
    pollOnce executeOnce
    request (.sleep intervalSeconds)
    loop intervalSeconds n

end PollScheduler

/-- `SessionConnector._run_sync_task` -/
def runSyncTask : Call Unit := do
  match ← (execute executeOnce).attempt with
  | .ok _ => pure ()
  | .error (.cancelledError byTimeout) => throw (.cancelledError byTimeout)
  | .error e => if e.isException then pure () else throw e

/-- `manual_refresh`, up to the rendering of the page. -/
def manualRefresh : Call Unit := do
  match ← (execute executeOnce).attempt with
  | .ok _ => pure ()
  | .error e => if e.isException then pure () else throw e

/-- The programs that share a `SyncAgreementQueue`. -/
inductive CallsExecute : Call Unit → Prop
  | loop (intervalSeconds n : ℕ) : CallsExecute (PollScheduler.loop executeOnce intervalSeconds n)
  | runSyncTask : CallsExecute (runSyncTask executeOnce)
  | manualRefresh : CallsExecute (manualRefresh executeOnce)

end RmaPortal
