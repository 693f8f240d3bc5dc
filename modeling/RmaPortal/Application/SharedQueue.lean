import RmaPortal.Requests

/-!
# Sharing a poll

`SyncAgreementQueue.execute` of `application/sync_service.py`, and what calls of it share.  A call
that finds nobody polling makes a future and polls; a call that finds a poll in flight waits for
that poll's future, which it shields so that its own cancellation does not reach the poll.  The
poll itself, `_execute_once`, is a parameter here: any program will do, and whatever it asks for
may be answered in any way.

## What is here

* `CallRequest` — what a call asks of the event loop.  Two requests do nothing, they leave a note
  in the trace: `executeOnceCalled` and `executeOnceEnded`.
* `SharedQueue` — the lock `self._lock`, the future `self._inflight`, and the futures that have
  been made.
* `SharedQueue.serve` — how the loop answers.  As always an answer comes as a suggestion; an error
  suggested to a call that waits is a cancellation of its task, delivered at that `await`, and a
  call that waits for something which has not happened yet is not answered.
* `rules`, `suspends` — this as rules of a pool, and which requests are an `await` that waits.
* `shield`, `acquire`, `withLock`, `callExecuteOnce`, `publish`, `lead`, `execute` — the program,
  in the parts of the source.  `publish` is its `try` statement: whatever the poll ends with, the
  future is told.

The correlation identifiers of log lines are left out.  That the calls are a single flight is
shown in `SingleFlight.Execute` and `SingleFlight.Turns`.
-/

set_option autoImplicit false

open Coroutine

namespace RmaPortal

/-- A future of the event loop. -/
abbrev FutureId : Type := ℕ

/-- What a call of `execute` asks for. -/
inductive CallRequest
  /-- What the poll asks for. -/
  | inner (r : Request)
  /-- `self._lock.locked()` -/
  | locked
  /-- `self._inflight` -/
  | inflight
  /-- `self._inflight = f` -/
  | setInflight (f : Option FutureId)
  /-- `loop.create_future()` -/
  | createFuture
  /-- `Lock.acquire()` where it need not wait; whether it got the lock. -/
  | acquireFree
  /-- `Lock.acquire()` where it has to wait until the lock is free. -/
  | awaitLock
  /-- `Lock.release()` -/
  | release
  /-- `f.done()` -/
  | futureDone (f : FutureId)
  /-- `f.set_result(result)` -/
  | setResult (f : FutureId) (result : SyncResult)
  /-- `f.set_exception(exc)` -/
  | setException (f : FutureId) (exc : Exn)
  /-- `f.exception()` -/
  | futureException (f : FutureId)
  /-- Wait until `f` is done. -/
  | awaitFuture (f : FutureId)
  /-- `f.result()` -/
  | futureResult (f : FutureId)
  /-- `asyncio.sleep(seconds)` -/
  | sleep (seconds : ℕ)
  /-- A note: `_execute_once` is called … -/
  | executeOnceCalled
  /-- … and has ended. -/
  | executeOnceEnded (o : Except Exn SyncResult)

abbrev CallRequest.Val : CallRequest → Type
  | inner r => r.Val
  | locked => Bool
  | inflight => Option FutureId
  | createFuture => FutureId
  | acquireFree => Bool
  | futureDone _ => Bool
  | futureException _ => Option Exn
  | futureResult _ => SyncResult
  | _ => Unit

/-- Programs that call `execute`. -/
abbrev Call (α : Type) : Type := Coro CallRequest.Val Exn α

/-- What happened at a request of a call. -/
abbrev CallEvent : Type := Event CallRequest.Val Exn

/-- What the calls share. -/
structure SharedQueue where
  /-- `self._lock` -/
  locked : Bool
  /-- How many tasks wait for the lock. -/
  waiters : ℕ
  /-- `self._inflight` -/
  inflight : Option FutureId
  /-- How the futures that are done have ended. -/
  outcome : FutureId → Option (Except Exn SyncResult)
  /-- The futures from here on have not been made yet. -/
  nextFuture : FutureId

/-- What `task.cancel()` makes a task raise. -/
def taskCancelled : Exn := .cancelledError false

def invalidState : Exn := .exception "InvalidStateError" "invalid state"

def lockNotAcquired : Exn := .exception "RuntimeError" "Lock is not acquired."

namespace SharedQueue

/-- `SyncAgreementQueue.__init__` -/
def start : SharedQueue := ⟨false, 0, none, fun _ ↦ none, 0⟩

/-- `Future.set_result`, `Future.set_exception` -/
def settle (s : SharedQueue) (f : FutureId) (o : Except Exn SyncResult) :
    Except Exn Unit × SharedQueue :=
  match s.outcome f with
  | some _ => (.error invalidState, s)
  | none => (.ok (), { s with outcome := Function.update s.outcome f (some o) })

/-- How a call is answered; `none` if there is nothing to answer it with yet. -/
def serve : (q : CallRequest) → Except Exn q.Val → SharedQueue →
    Option (Except Exn q.Val × SharedQueue)
  | .inner r, a, s => some (if suspends r then a else a.mapError Exn.fault, s)
  | .locked, _, s => some (.ok s.locked, s)
  | .inflight, _, s => some (.ok s.inflight, s)
  | .setInflight f, _, s => some (.ok (), { s with inflight := f })
  | .createFuture, _, s => some (.ok s.nextFuture, { s with nextFuture := s.nextFuture + 1 })
  | .acquireFree, _, s =>
    if s.locked || s.waiters ≠ 0 then some (.ok false, { s with waiters := s.waiters + 1 })
    else some (.ok true, { s with locked := true })
  | .awaitLock, .error _, s => some (.error taskCancelled, { s with waiters := s.waiters - 1 })
  | .awaitLock, .ok _, s =>
    if s.locked then none
    else some (.ok (), { s with locked := true, waiters := s.waiters - 1 })
  | .release, _, s =>
    some (if s.locked then (.ok (), { s with locked := false }) else (.error lockNotAcquired, s))
  | .futureDone f, _, s => some (.ok (s.outcome f).isSome, s)
  | .setResult f result, _, s => some (s.settle f (.ok result))
  | .setException f exc, _, s => some (s.settle f (.error exc))
  | .futureException f, _, s =>
    match s.outcome f with
    | some (.ok _) => some (.ok none, s)
    | some (.error exc) => some (.ok (some exc), s)
    | none => some (.error invalidState, s)
  | .awaitFuture _, .error _, s => some (.error taskCancelled, s)
  | .awaitFuture f, .ok _, s => (s.outcome f).map fun _ ↦ (.ok (), s)
  | .futureResult f, _, s => some ((s.outcome f).getD (.error invalidState), s)
  | .sleep _, .error _, s => some (.error taskCancelled, s)
  | .sleep _, .ok _, s => some (.ok (), s)
  | .executeOnceCalled, _, s => some (.ok (), s)
  | .executeOnceEnded _, _, s => some (.ok (), s)

/-- The rules of the event loop. -/
abbrev rules : Spec CallRequest.Val Exn SharedQueue where
  pre _ _ := True
  step s q a s' := ∃ b, serve q b s = some (a, s')

/-- Whether a request is an `await` that waits. -/
def suspends : CallRequest → Bool
  | .inner r => RmaPortal.suspends r
  | .awaitLock => true
  | .awaitFuture _ => true
  | .sleep _ => true
  | _ => false

/-! ## The program -/

/-- Make a request. -/
def request (q : CallRequest) : Call q.Val := Coro.perform q

/-- A poll, as a part of a call. -/
def inner {α : Type} : Prog α → Call α
  | .done o => .done o
  | .ask r k => .ask (.inner r) fun a ↦ inner (k a)

/-- `await asyncio.shield(f)` -/
def shield (f : FutureId) : Call SyncResult := do
  if !(← request (.futureDone f)) then request (.awaitFuture f)
  request (.futureResult f)

/-- `await self._lock.acquire()` -/
def acquire : Call Unit := do
  if !(← request .acquireFree) then request .awaitLock

/-- `async with self._lock: body` -/
def withLock {α : Type} (body : Call α) : Call α := do
  acquire
  let (x, _) ← body.tryFinally (request .release)
  pure x

/-- `await self._execute_once()` -/
def callExecuteOnce (executeOnce : Prog SyncResult) : Call SyncResult := do
  request .executeOnceCalled
  let o ← (inner executeOnce).attempt
  request (.executeOnceEnded o)
  .done o

/-- What the `try` statement does with the outcome of the poll. -/
def publish (inflight : FutureId) : Except Exn SyncResult → Call SyncResult
  | .error exc => do
    if !(← request (.futureDone inflight)) then request (.setException inflight exc)
    -- marks the exception as retrieved
    let _ ← request (.futureException inflight)
    request (.setInflight none)
    throw exc
  | .ok result => do
    if !(← request (.futureDone inflight)) then request (.setResult inflight result)
    request (.setInflight none)
    pure result

/-- A call that does not find a poll in flight. -/
def lead (executeOnce : Prog SyncResult) : Call SyncResult := do
  let inflight ← request .createFuture
  request (.setInflight (some inflight))
  withLock do
    let o ← (callExecuteOnce executeOnce).attempt
    publish inflight o

def execute (executeOnce : Prog SyncResult) : Call SyncResult := do
  if ← request .locked then
    match ← request .inflight with
    | some inflight => shield inflight
    | none => lead executeOnce
  else lead executeOnce

end SharedQueue

end RmaPortal
