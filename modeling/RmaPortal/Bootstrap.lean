import RmaPortal.Coroutine.Handlers
import RmaPortal.Infrastructure.Portal.SessionConnector
import RmaPortal.Infrastructure.Scheduler

/-!
# The wiring of the application

`build_application` of `bootstrap.py`, as far as the `SessionConnector` and the shared
`SyncAgreementQueue` are concerned: the connector is given `sync_service.execute` for its
`run_sync` and `sync_service.is_running` for its `is_sync_running`.

## What is here

* `Application`, `ApplicationRequest`, `Application.rules` — the connector and what calls of
  `execute` share, side by side, and how the two of them answer.
* `isRunning`, `execute`, `operation` — the operations `SessionConnector` is constructed with.
  All but these two do not touch what calls of `execute` share, and any answer to them is
  possible.
* `Application.wired` — a program of the connector that has been given these operations: its
  requests for them are replaced by the programs, by `Coro.handle`.
* `Application.IsProgram` — the programs that have to do with connections or polls: those of the
  connector, the loop of the scheduler, and manual refreshes.
* `ApplicationPool`, `ApplicationStep`, `ApplicationSteps` — any number of them, taking turns.

What is known of the connector alone, and of the queue alone, is brought together in
`Connection.Sharing`.
-/

set_option autoImplicit false

open Coroutine

namespace RmaPortal

/-- The `SessionConnector` and what calls of `SyncAgreementQueue.execute` share. -/
abbrev Application : Type := SessionConnector × SharedQueue

/-- What the programs of the application ask for. -/
abbrev ApplicationRequest : Type := ConnectorRequest ⊕ CallRequest

abbrev ApplicationRequest.Val : ApplicationRequest → Type :=
  BesideVal ConnectorRequest.Val CallRequest.Val

/-- Programs of the application. -/
abbrev ApplicationCall (α : Type) : Type := Coro ApplicationRequest.Val Exn α

/-- What happened at a request of the application. -/
abbrev ApplicationEvent : Type := Event ApplicationRequest.Val Exn

namespace Application

/-- The connector and the queue as they have been built. -/
def built : Application := (SessionConnector.new, SharedQueue.start)

/-- The rules of the event loop. -/
abbrev rules : Spec ApplicationRequest.Val Exn Application :=
  (SessionConnector.rulesWhere fun _ _ ↦ True).beside SharedQueue.rules

/-- Whether a request is an `await` that waits. -/
abbrev suspends : ApplicationRequest → Bool :=
  Sum.elim SessionConnector.suspends SharedQueue.suspends

variable (executeOnce : Prog SyncResult) (verifyTimeoutSeconds : ℕ)

/-- Make a request. -/
def request (q : ApplicationRequest) : ApplicationCall q.Val := Coro.perform q

/-- `sync_service.is_running` -/
def isRunning : ApplicationCall Bool := request (.inr .locked)

/-- `sync_service.execute` -/
def execute : ApplicationCall SyncResult := (SharedQueue.execute executeOnce).right

/-- The operations `SessionConnector` is constructed with. -/
def operation : (q : ConnectorRequest) → ApplicationCall q.Val
  | .isSyncRunning => isRunning
  | .runSync => do let _ ← execute executeOnce
  | q => request (.inl q)

/-- A program of the connector that `build_application` has built. -/
def wired {α : Type} (c : ConnectorCall α) : ApplicationCall α := c.handle (operation executeOnce)

/-- A program that returns nothing. -/
def returning {α : Type} (c : ApplicationCall Unit) : ApplicationCall (Option α) := do
  c
  pure none

/-- The programs of the application that have to do with connections or polls. -/
inductive IsProgram : ApplicationCall (Option Bool) → Prop
  | connector {c : ConnectorCall (Option Bool)}
      (h : SessionConnector.IsConnectorProgram verifyTimeoutSeconds c) :
      IsProgram (wired executeOnce c)
  | loop (intervalSeconds n : ℕ) :
      IsProgram (returning (PollScheduler.loop executeOnce intervalSeconds n).right)
  | manualRefresh : IsProgram (returning (manualRefresh executeOnce).right)

/-- Tasks that run programs of the application. -/
abbrev ApplicationPool : Type := Pool ApplicationRequest.Val Exn (Option Bool) Application

/-- One turn of one of the tasks. -/
abbrev ApplicationStep : ApplicationPool → ℕ × List ApplicationEvent → ApplicationPool → Prop :=
  Pool.Step rules suspends (IsProgram executeOnce verifyTimeoutSeconds)

/-- Any number of turns. -/
abbrev ApplicationSteps :
    ApplicationPool → List (ℕ × List ApplicationEvent) → ApplicationPool → Prop :=
  Pool.Steps rules suspends (IsProgram executeOnce verifyTimeoutSeconds)

end Application

end RmaPortal
