import RmaPortal.Application.SharedQueue
import RmaPortal.Coroutine.Handlers
import RmaPortal.Infrastructure.Portal.PageReader

/-!
# Waiting for a login

`_wait_for_login_or_close` and `_wait_until_closed` of `infrastructure/portal/session_setup.py`.
One task polls the page for the authenticated view, another one waits until the window is closed,
and the first that is done ends the wait.

`LoginWindow` is the browser together with what the tasks share.  What happens in the browser is a
request like the others, made by programs of their own: pages are opened and closed, the context
emits `close`, the view is shown or hidden, the context can be inspected or not.  An event reaches
its listener if such a program delivers it, at any time after it has been emitted, and is lost if
none does; `onPageClosed`, `markClosed` and `watchPage` are what the listeners do.

The loops have no bound; `taskCall n` is a task in the first `n` rounds of its loop, and takes no
further turns after them.  An answer comes as a suggestion.  Calls of Playwright may raise any
`Exception`; a task is cancelled at an `await`, and only after `Task.cancel()`.

## What is here

* `WindowRequest`, `LoginWindow`, `serve` — what happens in the window and what is asked of it.  A
  request to a future or a task that is not done has no answer yet, so the program that makes it
  stays where it is.
* `rulesWhere` — the rules, for the runs in which the window is always as a condition says.  What
  is claimed of a window that stays open is claimed of the runs in which it does.
* `markClosed`, `onPageClosed`, `watchPage`, `openPages`, `pollClosed`, `waitUntilClosed` — the
  nested functions of `_wait_until_closed`, and `pollLogin`, `pollForLogin` those of the other
  task.
* `cleanUp`, `waitForLoginOrClose` — the wait itself, with its `finally` block.
* `waitCall`, `taskCall`, `andNothing`, `IsWindowProgram` — the programs as the event loop runs
  them, and the pools of them.

The two intervals are kept as the source has them, but how long anything takes is not modelled: a
pause is over when it is answered.
-/

set_option autoImplicit false

open Coroutine

namespace RmaPortal

/-- The two tasks of `_wait_for_login_or_close`. -/
inductive WindowJob
  | login
  | close
  deriving DecidableEq

/-- A page of the browser context. -/
abbrev PageId : Type := ℕ

/-- What happens in the login window, and what is asked for. -/
inductive WindowRequest
  /-- A page is opened. -/
  | openPage
  /-- A page is closed. -/
  | closePage (page : PageId)
  /-- The context emits `close`. -/
  | emitClose
  /-- The authenticated view is shown or hidden. -/
  | showView (visible : Bool)
  /-- From now on `context.pages` can be read, or raises. -/
  | setInspectable (inspectable : Bool)
  /-- The event `page` of the context is delivered, … -/
  | deliverPage (page : PageId)
  /-- … the event `close` of a page … -/
  | deliverPageClose (page : PageId)
  /-- … or the event `close` of the context. -/
  | deliverClose
  /-- `context.pages` -/
  | pages
  /-- `context.on("close", _mark_closed)` -/
  | onClose
  /-- `context.on("page", …)` -/
  | onPage
  /-- `page.on("close", _on_page_closed)` -/
  | onPageClose (page : PageId)
  /-- `closed = loop.create_future()` -/
  | createFuture
  /-- `closed.done()` -/
  | futureDone
  /-- `closed.set_result(None)` -/
  | setResult
  /-- `asyncio.wait_for(asyncio.shield(closed), timeout=…)` -/
  | awaitFuture (milliseconds : ℕ)
  /-- A call of Playwright. -/
  | page (q : PageRequest)
  /-- `asyncio.sleep(…)` -/
  | sleep (milliseconds : ℕ)
  /-- A note: `_wait_for_login_or_close` is called. -/
  | called
  /-- `asyncio.create_task(…)` -/
  | createTask (job : WindowJob)
  /-- The event loop begins to run a task … -/
  | begin (job : WindowJob)
  /-- … and the task is done. -/
  | finish (job : WindowJob)
  /-- `asyncio.wait({login_task, close_task}, return_when=asyncio.FIRST_COMPLETED)`; whether
  `login_task` is among the tasks that are done. -/
  | waitFirst
  /-- `task.done()` -/
  | taskDone (job : WindowJob)
  /-- `task.cancel()` -/
  | cancel (job : WindowJob)
  /-- `await task` -/
  | awaitTask (job : WindowJob)

abbrev WindowRequest.Val : WindowRequest → Type
  | openPage => PageId
  | pages => List PageId
  | futureDone => Bool
  | page q => q.Val
  | waitFirst => Bool
  | taskDone _ => Bool
  | _ => Unit

/-- Programs that run while the login window is open. -/
abbrev WindowCall (α : Type) : Type := Coro WindowRequest.Val Exn α

/-- What happened in the login window. -/
abbrev WindowEvent : Type := Event WindowRequest.Val Exn

/-- The login window, and what the tasks that wait for it share. -/
structure LoginWindow where
  /-- `context.pages` -/
  pages : List PageId
  /-- The pages from here on have not been opened yet. -/
  nextPage : PageId
  /-- The context has emitted `close`. -/
  emitted : Bool
  /-- `context.pages` can be read. -/
  inspectable : Bool
  /-- The authenticated view is visible. -/
  visible : Bool
  /-- There is a listener for `close` of the context, … -/
  listensClose : Bool
  /-- … for its `page` … -/
  listensPage : Bool
  /-- … and for `close` of these pages. -/
  watched : PageId → Bool
  /-- The future `closed` is done. -/
  closed : Bool
  /-- `_wait_for_login_or_close` has been called. -/
  called : Bool
  /-- The tasks that have been created. -/
  created : WindowJob → Bool
  /-- The tasks the event loop has begun to run. -/
  begun : WindowJob → Bool
  /-- The tasks that are done. -/
  finished : WindowJob → Bool
  /-- The tasks that have been cancelled. -/
  cancelled : WindowJob → Bool

namespace LoginWindow

/-- A window with some pages, nobody waiting for it. -/
def opened (pages : ℕ) (emitted inspectable visible : Bool) : LoginWindow where
  pages := List.range pages
  nextPage := pages
  emitted := emitted
  inspectable := inspectable
  visible := visible
  listensClose := false
  listensPage := false
  watched _ := false
  closed := false
  called := false
  created _ := false
  begun _ := false
  finished _ := false
  cancelled _ := false

/-- How a request is answered; `none` if there is nothing to answer it with yet. -/
def serve : (q : WindowRequest) → Except Exn q.Val → LoginWindow →
    Option (Except Exn q.Val × LoginWindow)
  | .openPage, _, s =>
    some (.ok s.nextPage, { s with pages := s.pages ++ [s.nextPage], nextPage := s.nextPage + 1 })
  | .closePage page, _, s =>
    if page ∈ s.pages then some (.ok (), { s with pages := s.pages.erase page }) else none
  | .emitClose, _, s => some (.ok (), { s with emitted := true })
  | .showView visible, _, s => some (.ok (), { s with visible := visible })
  | .setInspectable inspectable, _, s => some (.ok (), { s with inspectable := inspectable })
  | .deliverPage page, _, s =>
    if s.listensPage ∧ page < s.nextPage then some (.ok (), s) else none
  | .deliverPageClose page, _, s =>
    if s.watched page ∧ page < s.nextPage ∧ page ∉ s.pages then some (.ok (), s) else none
  | .deliverClose, _, s => if s.listensClose ∧ s.emitted then some (.ok (), s) else none
  | .pages, .ok _, s => if s.inspectable then some (.ok s.pages, s) else none
  | .pages, .error e, s => if s.inspectable then none else some (.error e.fault, s)
  | .onClose, .ok _, s => some (.ok (), { s with listensClose := true })
  | .onClose, .error e, s => some (.error e.fault, s)
  | .onPage, .ok _, s => some (.ok (), { s with listensPage := true })
  | .onPage, .error e, s => some (.error e.fault, s)
  | .onPageClose page, .ok _, s =>
    some (.ok (), { s with watched := Function.update s.watched page true })
  | .onPageClose _, .error e, s => some (.error e.fault, s)
  | .createFuture, _, s => some (.ok (), { s with closed := false })
  | .futureDone, _, s => some (.ok s.closed, s)
  | .setResult, _, s =>
    some (if s.closed then (.error invalidState, s) else (.ok (), { s with closed := true }))
  | .awaitFuture _, .ok _, s => if s.closed then some (.ok (), s) else none
  | .awaitFuture _, .error _, s =>
    some (.error (if s.cancelled .close then taskCancelled else .timeoutError ""), s)
  | .page (.isVisible _), .ok _, s => some (.ok s.visible, s)
  | .page _, .ok x, s => some (.ok x, s)
  | .page _, .error e, s => some (.error (if s.cancelled .login then taskCancelled else e.fault), s)
  | .sleep _, .ok _, s => some (.ok (), s)
  | .sleep _, .error _, s => if s.cancelled .login then some (.error taskCancelled, s) else none
  | .called, _, s => if s.called then none else some (.ok (), { s with called := true })
  | .createTask job, _, s => some (.ok (), { s with created := Function.update s.created job true })
  | .begin job, _, s =>
    if s.created job ∧ s.begun job = false then
      some (if s.cancelled job then .error taskCancelled else .ok (),
        { s with begun := Function.update s.begun job true })
    else none
  | .finish job, _, s => some (.ok (), { s with finished := Function.update s.finished job true })
  | .waitFirst, .ok _, s =>
    if s.finished .login ∨ s.finished .close then some (.ok (s.finished .login), s) else none
  | .waitFirst, .error _, s => some (.error taskCancelled, s)
  | .taskDone job, _, s => some (.ok (s.finished job), s)
  | .cancel job, _, s => some (.ok (), { s with cancelled := Function.update s.cancelled job true })
  | .awaitTask job, .ok _, s => if s.finished job then some (.ok (), s) else none
  | .awaitTask _, .error e, s => some (.error e, s)

/-- The rules of the event loop, for the runs in which the window is always as `A` says. -/
abbrev rulesWhere (A : LoginWindow → Prop) : Spec WindowRequest.Val Exn LoginWindow where
  pre _ _ := True
  step s q a s' := (A s ∧ A s') ∧ ∃ b, serve q b s = some (a, s')

/-- Whether a request is an `await`. -/
def suspends : WindowRequest → Bool
  | .awaitFuture _ => true
  | .page _ => true
  | .sleep _ => true
  | .waitFirst => true
  | .awaitTask _ => true
  | _ => false

/-! ## The programs -/

/-- Make a request. -/
def request (q : WindowRequest) : WindowCall q.Val := Coro.perform q

/-- `with contextlib.suppress(Exception): …` -/
def suppressed (body : WindowCall Unit) : WindowCall Unit := do
  match ← body.attempt with
  | .ok () => pure ()
  | .error e => if e.isException then pure () else throw e

/-! ### Until the window is closed -/

def closePollIntervalMs : ℕ := 1000

def isContextClosed : WindowCall Bool := do
  match ← (request .pages).attempt with
  | .ok pages => pure pages.isEmpty
  | .error e => if e.isException then pure true else throw e

def markClosed : WindowCall Unit := do
  if !(← request .futureDone) then request .setResult

def onPageClosed : WindowCall Unit := do
  if ← isContextClosed then markClosed

def watchPage (page : PageId) : WindowCall Unit := suppressed (request (.onPageClose page))

/-- `list(getattr(context, "pages", ()))` -/
def openPages : WindowCall (List PageId) := do
  match ← (request .pages).attempt with
  | .ok pages => pure pages
  | .error (.exception "AttributeError" _) => pure []
  | .error e => throw e

/-- The end of a round: wait for `closed`, but not longer than the interval. -/
def pause : WindowCall (Option Unit) := do
  match ← (request (.awaitFuture closePollIntervalMs)).attempt with
  | .ok () => pure none
  | .error (.timeoutError _) => pure none
  | .error e => throw e

/-- A round of the loop of `_wait_until_closed`. -/
def pollClosed : WindowCall (Option Unit) := do
  if ← request .futureDone then pure (some ())
  else if ← isContextClosed then
    markClosed
    pure (some ())
  else pause

/-- `_wait_until_closed`, in the first `n` rounds of its loop. -/
def waitUntilClosed (n : ℕ) : WindowCall (Option Unit) := do
  if ← isContextClosed then pure (some ())
  else
    request .createFuture
    suppressed (request .onClose)
    suppressed (request .onPage)
    let pages ← openPages
    pages.forM watchPage
    rounds pollClosed n

/-! ### Until somebody has logged in -/

def loginPollIntervalMs : ℕ := 500

/-- `is_authenticated_view_present(page)` -/
def isAuthenticatedViewPresent : WindowCall Bool :=
  PageReader.isAuthenticatedViewPresent.handle fun q ↦ request (.page q)

/-- A round of the loop of `_poll_for_login`. -/
def pollLogin : WindowCall (Option Unit) := do
  let present ← (do
    match ← isAuthenticatedViewPresent.attempt with
    | .ok present => pure present
    | .error e => if e.isException then pure false else throw e : WindowCall Bool)
  if present then pure (some ())
  else
    request (.sleep loginPollIntervalMs)
    pure none

/-- `_poll_for_login`, in the first `n` rounds of its loop. -/
def pollForLogin (n : ℕ) : WindowCall (Option Unit) := rounds pollLogin n

/-! ### Whichever comes first -/

/-- `if not task.done(): task.cancel()` -/
def cancelTask (job : WindowJob) : WindowCall Unit := do
  if !(← request (.taskDone job)) then request (.cancel job)

/-- `with contextlib.suppress(asyncio.CancelledError, Exception): await task` -/
def awaitTask (job : WindowJob) : WindowCall Unit := do
  match ← (request (.awaitTask job)).attempt with
  | .ok () => pure ()
  | .error (.cancelledError _) => pure ()
  | .error e => if e.isException then pure () else throw e

/-- The `finally` block of `_wait_for_login_or_close`. -/
def cleanUp : WindowCall Unit := do
  cancelTask .login
  cancelTask .close
  awaitTask .login
  awaitTask .close

def waitForLoginOrClose : WindowCall Bool := do
  request (.createTask .login)
  request (.createTask .close)
  let (loggedIn, _) ← (request .waitFirst).tryFinally cleanUp
  pure loggedIn

/-! ## What runs on the event loop

The call of `_wait_for_login_or_close` returns what it returns; the others return nothing. -/

def waitCall : WindowCall (Option Bool) := do
  request .called
  let loggedIn ← waitForLoginOrClose
  pure (some loggedIn)

/-- What is left of a task: it is done when its loop has ended. -/
def untilDone (job : WindowJob) (run : WindowCall (Option Unit)) : WindowCall (Option Bool) := do
  match ← run.attempt with
  | .ok none => pure none
  | .ok (some ()) =>
    request (.finish job)
    pure none
  | .error e =>
    request (.finish job)
    throw e

/-- What a task runs. -/
def jobBody (n : ℕ) : WindowJob → WindowCall (Option Unit)
  | .login => pollForLogin n
  | .close => waitUntilClosed n

/-- A task, in the first `n` rounds of its loop. -/
def taskCall (n : ℕ) (job : WindowJob) : WindowCall (Option Bool) :=
  untilDone job do
    request (.begin job)
    jobBody n job

/-- What can happen in the browser. -/
inductive HappensInBrowser : WindowRequest → Prop
  | openPage : HappensInBrowser .openPage
  | closePage (page : PageId) : HappensInBrowser (.closePage page)
  | emitClose : HappensInBrowser .emitClose
  | showView (visible : Bool) : HappensInBrowser (.showView visible)
  | setInspectable (inspectable : Bool) : HappensInBrowser (.setInspectable inspectable)

/-- What a program does that returns nothing. -/
def andNothing {α : Type} (c : WindowCall α) : WindowCall (Option Bool) := do
  let _ ← c
  pure none

/-- The programs that run while the login window is open. -/
inductive IsWindowProgram (n : ℕ) : WindowCall (Option Bool) → Prop
  | wait : IsWindowProgram n waitCall
  | task (job : WindowJob) : IsWindowProgram n (taskCall n job)
  | browser {q : WindowRequest} (h : HappensInBrowser q) :
      IsWindowProgram n (andNothing (request q))
  | pageDelivered (page : PageId) :
      IsWindowProgram n (andNothing (do
        request (.deliverPage page)
        watchPage page))
  | pageCloseDelivered (page : PageId) :
      IsWindowProgram n (andNothing (do
        request (.deliverPageClose page)
        onPageClosed))
  | closeDelivered :
      IsWindowProgram n (andNothing (do
        request .deliverClose
        markClosed))

/-- Tasks that run while the login window is open. -/
abbrev WindowPool : Type := Pool WindowRequest.Val Exn (Option Bool) LoginWindow

/-- Any number of turns, with the window always as `A` says. -/
abbrev WindowSteps (A : LoginWindow → Prop) (n : ℕ) :
    WindowPool → List (ℕ × List WindowEvent) → WindowPool → Prop :=
  Pool.Steps (rulesWhere A) suspends (IsWindowProgram n)

end LoginWindow

end RmaPortal
