import RmaPortal.Coroutine.Basic
import RmaPortal.Infrastructure.Portal.Json
import RmaPortal.Infrastructure.UnitOfWork

/-!
# What the program asks of its surroundings

Every step of the program that is not pure computation is a `Request`: to the database, to the
portal reader, to the browser, to the lock of the browser profile, to the clock.  `Prog` is the
type of programs that make such requests, and `serve` is how the surroundings answer them.

The answers come from outside as *suggestions*.  Where the outside world decides (what a page
shows, what a file contains, whether a step fails or is cancelled) a suggestion is taken as it is.
Where the state decides (the rows of a table, whether the lock is free) the answer is computed,
and the suggestion can only make the request fail.

`suspends` says which requests are `await`s.  The others run to their end on the event loop.

## What is here

* `FileLock`, `UnconfirmedTeardown`, `PortalState`, `PortalRequest.serve` — the browser profile:
  the lock, which objects of the process still refer to it, and the registry of profiles whose
  last browser did not confirm its end.  `collect` is what `filelock` does when a lock object is
  not referred to any more.
* `StateFile` — the contents of the saved session-state file, as far as reading it tells them
  apart.
* `Request`, `Prog`, `Happening` — all requests of the program, programs that make them, and what
  happened at a request.
* `World`, `serve`, `world` — the state of everything, and the rules.  The database is reached
  through units of work (`withUow`), of which one is open at most in a program.
* `transaction`, `repo`, `commit`, `iterate`, `forEach`, `waitFor`, `outcome` — the constructs of
  the source that the translated functions are written with.  A set is iterated over in an order
  that is asked for, because for strings it changes from process to process.
* `routine`, `World.start` — a process in which nothing goes wrong, for concrete runs.
* `sat_uow`, `sat_now`, `sat_reader`, `sat_ask_portal`, `sat_ask_only` — the rules of the program
  logic for single requests.

Other parts of the program have requests of their own: the pages of the portal in
`Infrastructure.Portal.PageReader`, the login window, the connector, the site.
-/

set_option autoImplicit false

namespace RmaPortal

open Coroutine

/-! ## The browser profile -/

/-- A `FileLock` object. -/
structure FileLock where
  id : ℕ
  path : String
  deriving DecidableEq

/-- An entry of the registry of profiles whose last browser did not confirm its end. -/
structure UnconfirmedTeardown where
  lockPath : String
  lock : FileLock
  reason : String
  since : Datetime

/-- The contents of the saved session-state file. -/
inductive StateFile
  /-- There is no such file. -/
  | absent
  /-- Opening or reading it raises `OSError`. -/
  | unreadable
  /-- It is not valid UTF-8. -/
  | undecodable
  /-- It is not valid JSON. -/
  | malformed
  | json (state : Json)

/-- A started `AsyncCamoufox` manager. -/
abbrev ManagerId : Type := ℕ

/-- What is asked of the browser, of its profile and of the profile's lock. -/
inductive PortalRequest
  /-- `_unconfirmed.get(str(lock_path))` -/
  | unconfirmedGet (lockPath : String)
  /-- `_unconfirmed[str(lock_path)] = …` -/
  | unconfirmedSet (entry : UnconfirmedTeardown)
  | mkdir (path : String)
  /-- `FileLock(str(lock_path), timeout=0)` -/
  | newFileLock (lockPath : String)
  | acquire (lock : FileLock)
  | release (lock : FileLock)
  /-- The last frame or reader that refers to the lock lets go of it. -/
  | forget (lock : FileLock)
  | stateFileExists (path : String)
  | readStateFile (path : String)
  | saveStateFile (path : String) (state : Json)
  /-- `AsyncCamoufox(…).__aenter__()` -/
  | managerEnter (profileDir : String)
  /-- `manager.__aexit__(…)` -/
  | managerExit (m : ManagerId)
  | route (m : ManagerId)
  | addCookies (m : ManagerId) (cookies : Json)
  | addInitScript (m : ManagerId) (origin : String) (localItems sessionItems : Json)
  /-- Whether `context.pages` has an element. -/
  | contextPages (m : ManagerId)
  | newPage (m : ManagerId)
  | goto (m : ManagerId) (url : String)
  /-- `_wait_for_login_or_close` -/
  | waitForLoginOrClose (m : ManagerId)
  | storageState (m : ManagerId)
  /-- `page.evaluate(_READ_SESSION_STORAGE_JS)` -/
  | readSessionStorage (m : ManagerId)

abbrev PortalRequest.Val : PortalRequest → Type
  | unconfirmedGet _ => Option UnconfirmedTeardown
  | newFileLock _ => FileLock
  | stateFileExists _ => Bool
  | readStateFile _ => StateFile
  | managerEnter _ => ManagerId
  | contextPages _ => Bool
  | waitForLoginOrClose _ => Bool
  | storageState _ => Json
  | readSessionStorage _ => Json
  | _ => Unit

/-- The state of the browser profiles, as far as this process goes. -/
structure PortalState where
  /-- The locks that are held. -/
  held : List FileLock
  /-- The locks that a running frame or an open reader refers to. -/
  live : List FileLock
  /-- `_unconfirmed` -/
  unconfirmed : Table UnconfirmedTeardown.lockPath
  /-- The managers whose browser may be running, each with its profile directory. -/
  running : List (ManagerId × String)
  nextLock : ℕ
  nextManager : ManagerId

namespace PortalState

/-- A process that has just started. -/
def start : PortalState := ⟨[], [], .empty, [], 0, 0⟩

/-- `BaseFileLock.__del__`: a lock that nobody refers to any more is released. -/
def collect (s : PortalState) : PortalState :=
  { s with
    held := s.held.filter fun l ↦
      decide (l ∈ s.live) || s.unconfirmed.rows.any fun entry ↦ decide (entry.lock = l) }

end PortalState

/-- What filelock raises when the lock is taken. -/
def lockTaken : Exn := .filelockTimeout "The file lock could not be acquired."

/-- How the browser, the profile and its lock answer. -/
def PortalRequest.serve :
    (q : PortalRequest) → Except Exn q.Val → PortalState → Except Exn q.Val × PortalState
  | unconfirmedGet p, _, s => (.ok (s.unconfirmed.find? p), s)
  | unconfirmedSet entry, _, s =>
    (.ok (), { s with unconfirmed := s.unconfirmed.upsert entry }.collect)
  | newFileLock p, _, s =>
    (.ok ⟨s.nextLock, p⟩,
      { s with live := ⟨s.nextLock, p⟩ :: s.live, nextLock := s.nextLock + 1 })
  | acquire _, .error e, s => (.error e.fault, s)
  | acquire lock, .ok _, s =>
    if s.held.any fun l ↦ l.path == lock.path then (.error lockTaken, s)
    else (.ok (), { s with held := lock :: s.held })
  | release lock, _, s => (.ok (), { s with held := s.held.filter fun l ↦ decide (l ≠ lock) })
  | forget lock, _, s =>
    (.ok (), { s with live := s.live.filter fun l ↦ decide (l ≠ lock) }.collect)
  | managerEnter _, .error e, s => (.error e, s)
  | managerEnter dir, .ok _, s =>
    (.ok s.nextManager,
      { s with running := (s.nextManager, dir) :: s.running, nextManager := s.nextManager + 1 })
  | managerExit _, .error e, s => (.error e, s)
  | managerExit m, .ok _, s =>
    (.ok (), { s with running := s.running.filter fun r ↦ decide (r.1 ≠ m) })
  | mkdir _, a, s => (a.mapError Exn.fault, s)
  | stateFileExists _, a, s => (a.mapError Exn.fault, s)
  | readStateFile _, a, s => (a.mapError Exn.fault, s)
  | saveStateFile _ _, a, s => (a.mapError Exn.fault, s)
  | contextPages _, a, s => (a.mapError Exn.fault, s)
  | route _, a, s => (a, s)
  | addCookies _ _, a, s => (a, s)
  | addInitScript _ _ _ _, a, s => (a, s)
  | newPage _, a, s => (a, s)
  | goto _ _, a, s => (a, s)
  | waitForLoginOrClose _, a, s => (a, s)
  | storageState _, a, s => (a, s)
  | readSessionStorage _, a, s => (a, s)

/-! ## All requests -/

/-- What is asked of an open portal reader. -/
inductive ReaderRequest
  | readAgreementQueue
  | readDossierDetails (ref : PortalDossierRef)
  | verifyAuthenticated

abbrev ReaderRequest.Val : ReaderRequest → Type
  | readAgreementQueue => QueueSnapshot
  | readDossierDetails _ => DossierDetails
  | verifyAuthenticated => Unit

/-- A request to the surroundings of the program. -/
inductive Request
  | uow (q : UowRequest)
  | reader (q : ReaderRequest)
  | portal (q : PortalRequest)
  /-- `datetime.now(UTC)` -/
  | now
  /-- The order in which a set is iterated over: for strings it changes from process to process. -/
  | iterate (s : FrozenSet String)
  /-- The order in which a `SELECT` without `ORDER BY` returns its rows. -/
  | selectOrder (rows : List Dossier)
  /-- The poll that is in flight, if there is one, and how it ends. -/
  | inflight

abbrev Request.Val : Request → Type
  | uow q => q.Val
  | reader q => q.Val
  | portal q => q.Val
  | now => Datetime
  | iterate s => { l : List String // l.Perm s.rows }
  | selectOrder rows => { l : List Dossier // l.Perm rows }
  | inflight => Option (Except Exn SyncResult)

/-- Programs of the portal. -/
abbrev Prog (α : Type) : Type := Coro Request.Val Exn α

/-- What happened at a request. -/
abbrev Happening : Type := Event Request.Val Exn

/-- The state of everything a program can ask. -/
structure World where
  db : DbState
  portal : PortalState

/-- How the surroundings answer. -/
def serve : Server Request.Val Exn World
  | .uow q, a, w => ((q.serve a w.db).1, { w with db := (q.serve a w.db).2 })
  | .portal q, a, w => ((q.serve a w.portal).1, { w with portal := (q.serve a w.portal).2 })
  | .reader _, a, w => (a, w)
  | .now, a, w => (.ok (a.toOption.getD default), w)
  | .iterate s, a, w => (.ok (a.toOption.getD ⟨s.rows, .refl _⟩), w)
  | .selectOrder rows, a, w => (.ok (a.toOption.getD ⟨rows, .refl _⟩), w)
  | .inflight, a, w => (.ok (a.toOption.getD none), w)

/-- The rules the surroundings follow. -/
abbrev world : Spec Request.Val Exn World := .ofServer serve

/-- Whether a request is an `await`. -/
def suspends : Request → Bool
  | .reader _ => true
  | .inflight => true
  | .portal (.managerEnter _) => true
  | .portal (.managerExit _) => true
  | .portal (.route _) => true
  | .portal (.addCookies _ _) => true
  | .portal (.addInitScript _ _ _ _) => true
  | .portal (.newPage _) => true
  | .portal (.goto _ _) => true
  | .portal (.waitForLoginOrClose _) => true
  | .portal (.storageState _) => true
  | .portal (.readSessionStorage _) => true
  | _ => false

/-! ## Requests as programs -/

/-- Make a request. -/
def ask (r : Request) : Prog r.Val := Coro.perform r

/-- `with self._uow_factory() as uow: body` -/
def withUow {α : Type} (tx : Transaction) (body : Prog α) : Prog α := do
  ask (.uow (.enter tx))
  let (x, _) ← body.tryFinally (ask (.uow (.exit tx)))
  pure x

/-- Call a repository method. -/
def repo (tx : Transaction) (op : Repo) : Prog op.Val := ask (.uow (.repo tx op))

/-- `uow.commit()` -/
def commit (tx : Transaction) : Prog Unit := ask (.uow (.commit tx))

/-- `with self._uow_factory() as uow: body; uow.commit()` -/
def transaction {α : Type} (tx : Transaction) (body : Prog α) : Prog α :=
  withUow tx do
    let x ← body
    commit tx
    pure x

/-- A `with` block makes the requests of its body, and opens and closes its session. -/
theorem only_withUow {α : Type} {P : Request → Prop} {tx : Transaction} {body : Prog α}
    (henter : P (.uow (.enter tx))) (hexit : P (.uow (.exit tx))) (hbody : Only P body) :
    Only P (withUow tx body) :=
  only_bind (only_perform henter) fun _ ↦
    only_bind (only_tryFinally hbody (only_perform hexit)) fun _ ↦ only_pure _

theorem only_transaction {α : Type} {P : Request → Prop} {tx : Transaction} {body : Prog α}
    (henter : P (.uow (.enter tx))) (hcommit : P (.uow (.commit tx))) (hexit : P (.uow (.exit tx)))
    (hbody : Only P body) : Only P (transaction tx body) :=
  only_withUow henter hexit
    (only_bind hbody fun _ ↦ only_bind (only_perform hcommit) fun _ ↦ only_pure _)

/-- `datetime.now(UTC)` -/
def datetimeNow : Prog Datetime := ask .now

/-- The elements of a set, in the order in which a loop goes through them. -/
def iterate (s : FrozenSet String) : Prog (List String) := do
  let l ← ask (.iterate s)
  pure l.val

/-- `for r in s: …`, with an accumulator. -/
def forEach {β : Type} (s : FrozenSet String) (body : β → String → Prog β) (b : β) : Prog β := do
  let l ← iterate s
  l.foldlM body b

/-- Ask the browser, its profile or the profile's lock. -/
def portal (q : PortalRequest) : Prog q.Val := ask (.portal q)

/-- `await asyncio.wait_for(c, timeout=…)`: a cancellation by its own timeout becomes a
`TimeoutError`, any other outcome is that of `c`. -/
def waitFor {α : Type} (c : Prog α) : Prog α :=
  c.next fun
    | .error (.cancelledError true) => .done (.error (.timeoutError ""))
    | o => .done o

/-- `raise` or return again what an `attempt` ended with. -/
def outcome {α : Type} (o : Except Exn α) : Prog α := .done o

/-! ## When nothing goes wrong -/

/-- An answer of a repository method.  What a method answers is computed; as a suggestion this one
only says that nothing goes wrong. -/
def Repo.anyVal : (op : Repo) → op.Val
  | .getDefault => none
  | .startPollRun _ _ => default
  | .existingStateByAccount _ => .empty
  | .dossiersNeedingDetailRetry _ => []
  | .createFromRow _ _ _ => default
  | .touch _ _ _ => default
  | .reactivate _ _ _ => default
  | .createNotification _ _ _ => default
  | .markPollStarted _ _ => ()
  | .markPollFinished _ _ _ _ => ()
  | .markBaselineCompleted _ _ => ()
  | .markSessionChecked _ _ _ _ => ()
  | .finishPollRun _ _ => ()
  | .applyAbsenceIncrement _ _ _ => ()
  | .deactivate _ _ => ()
  | .saveDetails _ _ => ()

/-- The suggestion to a browser that nothing goes wrong: there is a saved session but nothing in it,
and an employee logs in. -/
def PortalRequest.anyVal : (q : PortalRequest) → q.Val
  | .unconfirmedGet _ => none
  | .newFileLock path => ⟨0, path⟩
  | .stateFileExists _ => true
  | .readStateFile _ => .absent
  | .managerEnter _ => (0 : ℕ)
  | .contextPages _ => true
  | .waitForLoginOrClose _ => true
  | .storageState _ => .null
  | .readSessionStorage _ => .null
  | .unconfirmedSet _ => ()
  | .mkdir _ => ()
  | .acquire _ => ()
  | .release _ => ()
  | .forget _ => ()
  | .saveStateFile _ _ => ()
  | .managerExit _ => ()
  | .route _ => ()
  | .addCookies _ _ => ()
  | .addInitScript _ _ _ _ => ()
  | .newPage _ => ()
  | .goto _ _ => ()

/-- The surroundings' suggestions when nothing goes wrong, and the portal shows nothing. -/
def routine : (r : Request) → Except Exn r.Val
  | .uow (.repo _ op) => .ok op.anyVal
  | .uow (.enter _) => .ok ()
  | .uow (.commit _) => .ok ()
  | .uow (.exit _) => .ok ()
  | .reader .readAgreementQueue => .ok {}
  | .reader (.readDossierDetails _) => .error (.detailReadError "")
  | .reader .verifyAuthenticated => .ok ()
  | .portal q => .ok q.anyVal
  | .now => .ok default
  | .iterate s => .ok ⟨s.rows, .refl _⟩
  | .selectOrder rows => .ok ⟨rows, .refl _⟩
  | .inflight => .ok none

/-- A new process, with an account that has never been polled. -/
def World.start : World := ⟨.idle (.ofAccount (.unpolled 1)), .start⟩

/-! ## Rules for single requests -/

/-- The database is asked. -/
theorem sat_uow {q : UowRequest} {w : World}
    {Q : List Happening → Except Exn q.Val → World → Prop}
    (h : ∀ b a s, q.serve b w.db = (a, s) → Q [⟨.uow q, a⟩] a { w with db := s }) :
    Sat world (ask (.uow q)) w Q := by
  refine sat_perform trivial fun a w' ⟨b, hb⟩ ↦ ?_
  simp only [serve, Prod.mk.injEq] at hb
  obtain ⟨rfl, rfl⟩ := hb
  exact h b _ _ rfl

/-- The clock is read. -/
theorem sat_now {w : World} {Q : List Happening → Except Exn Datetime → World → Prop}
    (h : ∀ d, Q [⟨.now, .ok d⟩] (.ok d) w) : Sat world datetimeNow w Q := by
  refine sat_perform trivial fun a w' ⟨b, hb⟩ ↦ ?_
  simp only [serve, Prod.mk.injEq] at hb
  obtain ⟨rfl, rfl⟩ := hb
  exact h _

/-- The portal reader is asked. -/
theorem sat_reader {q : ReaderRequest} {w : World}
    {Q : List Happening → Except Exn q.Val → World → Prop}
    (h : ∀ a, Q [⟨.reader q, a⟩] a w) : Sat world (ask (.reader q)) w Q := by
  refine sat_perform trivial fun a w' ⟨b, hb⟩ ↦ ?_
  simp only [serve, Prod.mk.injEq] at hb
  obtain ⟨rfl, rfl⟩ := hb
  exact h _

section Portal

variable {w : World} {q : PortalRequest}

/-- The browser or its profile is asked. -/
theorem sat_ask_portal {Q : List Happening → Except Exn q.Val → World → Prop}
    (h : ∀ b a s, q.serve b w.portal = (a, s) → Q [⟨.portal q, a⟩] a { w with portal := s }) :
    Sat world (portal q) w Q := by
  refine sat_perform trivial fun a w' ⟨b, hb⟩ ↦ ?_
  simp only [serve, Prod.mk.injEq] at hb
  obtain ⟨rfl, rfl⟩ := hb
  exact h b _ _ rfl

/-- A request that changes nothing. -/
theorem sat_ask_only (hq : ∀ b s, (q.serve b s).2 = s)
    {Q : List Happening → Except Exn q.Val → World → Prop} (h : ∀ a, Q [⟨.portal q, a⟩] a w) :
    Sat world (portal q) w Q := by
  refine sat_ask_portal fun b a s hs ↦ ?_
  have hsame : s = w.portal := by rw [← hq b w.portal, hs]
  subst hsame
  exact h a

/-- A request that changes nothing and raises only exceptions. -/
theorem sat_ask_fault (hq : ∀ b s, q.serve b s = (b.mapError Exn.fault, s))
    {Q : List Happening → Except Exn q.Val → World → Prop}
    (h : ∀ a, (∀ e, a = .error e → e.isException = true) → Q [⟨.portal q, a⟩] a w) :
    Sat world (portal q) w Q := by
  refine sat_ask_portal fun b a s hs ↦ ?_
  rw [hq] at hs
  cases hs
  refine h _ fun e he ↦ ?_
  cases b with
  | ok x => cases he
  | error e' =>
    cases he
    exact Exn.isException_fault e'

end Portal

end RmaPortal
