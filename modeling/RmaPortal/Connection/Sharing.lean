import RmaPortal.Bootstrap
import RmaPortal.SingleFlight.Turns

/-!
# Connections and polls share a queue

The synchronization after a login, the scheduler and manual refreshes all use the queue in one
way: they call `execute`.  `Uses` says so of a program, `Point` finds the call it is in the middle
of when it waits, and `Sharing` ties the calls of all programs to what they share: they are a
single flight, as calls that stand alone are.

A synchronization of the connector that has begun and is not done (`Running`) is in the middle of
such a call.  What the other tasks of the connector do makes no synchronization run (`Onward`).

## What is here

* `Fresh`, `Running`, `Onward` — of the tasks of the connector, only what a grant depends on:
  which synchronizations have begun and are not done.
* `onward_of_serve` and the lemmas `only_…` — a request that begins no synchronization makes none
  run, and of all programs of the connector only the task of a synchronization makes one that
  does.
* `Aside`, `Uses` — a program that uses the queue by calls of `execute` only; in between it may do
  anything that leaves alone what those calls share.  `uses_loop` and `uses_manualRefresh` are the
  scheduler and a refresh, `wired_sync` is the task of a synchronization.
* `Shared`, `Shared.call`, `Shared.resume` — the calls that have been made so far are a single
  flight; a new one and one that goes on keep it so.  This is `Follows.step` of
  `SingleFlight.Execute`, for calls that are parts of longer programs.
* `settle_call`, `settle_resume` — one turn of such a program: it waits within the call, or the
  call ends and what follows goes on.  A program may make several calls in one turn.
* `caught`, `afterSync` — what the task of a synchronization does once its call has ended.

The programs of a process run on one event loop, and this module says nothing about how often they
get a turn; what follows for `start` is in `Connection.Places` and `Connection.Grants`.
-/

set_option autoImplicit false

open Coroutine

namespace RmaPortal

open SingleFlight (Stage Calls Sound Step Steps)

/-! ## The tasks of the connector -/

namespace SessionConnector

/-- What has not been created has no job and has not begun. -/
def Fresh (s : SessionConnector) : Prop :=
  ∀ t, s.nextTask ≤ t → s.job t = none ∧ s.begun t = false

/-- The task is a synchronization that has begun and is not done. -/
def Running (s : SessionConnector) (t : TaskId) : Prop :=
  s.job t = some .sync ∧ s.begun t = true ∧ s.finished t = false

/-- The request is not the beginning of a synchronization. -/
abbrev BeginsNoSync (q : ConnectorRequest) : Prop := ∀ t, q ≠ .begin .sync t

/-- From one state to the other no synchronization has begun. -/
def Onward (s s' : SessionConnector) : Prop :=
  s.Fresh → s'.Fresh ∧ ∀ t, s'.Running t → s.Running t

section

variable {s s' s'' : SessionConnector}

theorem Onward.refl (s : SessionConnector) : s.Onward s := fun h ↦ ⟨h, fun _ ↦ id⟩

theorem Onward.trans (h : s.Onward s') (h' : s'.Onward s'') : s.Onward s'' := by
  intro hfresh
  obtain ⟨hfresh', hrunning⟩ := h hfresh
  obtain ⟨hfresh'', hrunning'⟩ := h' hfresh'
  exact ⟨hfresh'', fun t ht ↦ hrunning t (hrunning' t ht)⟩

/-- Nothing happens to the tasks. -/
theorem Onward.of_eq (hjob : s'.job = s.job) (hbegun : s'.begun = s.begun)
    (hfinished : s'.finished = s.finished) (hnext : s'.nextTask = s.nextTask) : s.Onward s' := by
  refine fun h ↦ ⟨?_, fun t ht ↦ ?_⟩
  · simpa only [Fresh, hjob, hbegun, hnext] using h
  · simpa only [Running, hjob, hbegun, hfinished] using ht

theorem onward_withNewTask (s : SessionConnector) (job : ConnectorJob) :
    s.Onward (s.withNewTask job) := by
  intro h
  refine ⟨fun t ht ↦ ?_, fun t ⟨hjob, hbegun, hfinished⟩ ↦ ?_⟩
  · have hlt : s.nextTask < t := ht
    refine ⟨?_, (h t hlt.le).2⟩
    exact (Function.update_of_ne hlt.ne' ..).trans (h t hlt.le).1
  · by_cases ht : t = s.nextTask
    · subst ht
      cases hbegun.symm.trans (h s.nextTask le_rfl).2
    · exact ⟨(Function.update_of_ne ht ..).symm.trans hjob, hbegun, hfinished⟩

/-- A task begins. -/
theorem Fresh.begin {job : ConnectorJob} {t : TaskId} (h : s.Fresh) (hjob : s.job t = some job) :
    Fresh { s with begun := Function.update s.begun t true } := by
  refine fun t' ht' ↦ ⟨(h t' ht').1, ?_⟩
  have hne : t' ≠ t := by
    rintro rfl
    cases hjob.symm.trans (h t' ht').1
  exact (Function.update_of_ne hne ..).trans (h t' ht').2

/-- No other task begins. -/
theorem Running.of_begin {t t' : TaskId}
    (h : Running { s with begun := Function.update s.begun t true } t') :
    s.Running t' ∨ t' = t := by
  obtain ⟨hjob, hbegun, hfinished⟩ := h
  by_cases hne : t' = t
  · exact .inr hne
  · exact .inl ⟨hjob, (Function.update_of_ne hne ..).symm.trans hbegun, hfinished⟩

theorem onward_begin {job : ConnectorJob} {t : TaskId} (hsync : job ≠ .sync)
    (hjob : s.job t = some job) :
    s.Onward { s with begun := Function.update s.begun t true } := by
  refine fun h ↦ ⟨h.begin hjob, fun t' ht' ↦ ?_⟩
  rcases ht'.of_begin with h' | rfl
  · exact h'
  · cases hjob.symm.trans ht'.1
    exact (hsync rfl).elim

theorem onward_finish (s : SessionConnector) (t : TaskId) :
    s.Onward { s with finished := Function.update s.finished t true } := by
  intro h
  refine ⟨h, fun t' ⟨hjob, hbegun, hfinished⟩ ↦ ⟨hjob, hbegun, ?_⟩⟩
  have hne : t' ≠ t := by
    rintro rfl
    cases (Function.update_self ..).symm.trans hfinished
  exact (Function.update_of_ne hne ..).symm.trans hfinished

/-- **A request that begins no synchronization** makes none run. -/
theorem onward_of_serve {q : ConnectorRequest} {a b : Except Exn q.Val}
    (hq : BeginsNoSync q) (h : serve q b s = some (a, s')) : s.Onward s' := by
  cases q with
  | createTask job =>
    cases h
    exact onward_withNewTask s job
  | begin job t =>
    rw [serve] at h
    split at h
    · rename_i hjob
      cases h
      exact onward_begin (fun hsync ↦ hq t (by rw [hsync])) hjob.1
    · cases h
  | finish t =>
    cases h
    exact onward_finish s t
  | acquireProfileLock | releaseProfileLock =>
    cases b with
    | error e =>
      cases h
      exact .refl s
    | ok _ =>
      simp only [serve] at h
      first
      | split at h
        · cases h
        · cases h
          exact .refl s
      | cases h
        exact .refl s
  | awaitTask t =>
    rw [serve] at h
    split at h
    · cases h
      exact .refl s
    · cases h
  | _ =>
    cases h
    exact .of_eq rfl rfl rfl rfl

end

/-! ### Programs that begin no synchronization -/

section

theorem only_request {q : ConnectorRequest} (hq : BeginsNoSync q) :
    Only BeginsNoSync (request q) := only_perform hq

theorem only_isUnfinished (job : ConnectorJob) : Only BeginsNoSync (isUnfinished job) := by
  refine only_bind (only_request nofun) fun o ↦ ?_
  cases o with
  | none => exact only_pure false
  | some t => exact only_bind (only_request nofun) fun _ ↦ only_pure _

theorem only_startCall : Only BeginsNoSync startCall := by
  refine only_bind (only_request nofun) fun _ ↦ only_bind ?_ fun _ ↦ only_pure _
  refine only_bind (only_request nofun) fun _ ↦
    only_bind (only_isUnfinished .login) fun active ↦ ?_
  split
  · exact only_pure false
  refine only_bind (only_isUnfinished .verify) fun verifying ↦ ?_
  split
  · exact only_pure false
  refine only_bind (only_request nofun) fun running ↦ ?_
  split
  · exact only_bind (only_request nofun) fun _ ↦ only_pure false
  · exact only_bind (only_request nofun) fun _ ↦ only_pure true

theorem only_stopTask (attr : ConnectorJob) : Only BeginsNoSync (stopTask attr) := by
  refine only_bind (only_request nofun) fun o ↦ only_bind (only_request nofun) fun _ ↦ ?_
  cases o with
  | none => exact only_pure ()
  | some t =>
    refine only_bind (only_request nofun) fun done ↦ ?_
    split
    · refine only_bind (only_request nofun) fun _ ↦
        only_bind (only_attempt (only_request nofun)) fun o ↦ ?_
      split
      · exact only_pure ()
      · exact only_pure ()
      · exact only_throw _
    · exact only_pure ()

theorem only_shutdownCall : Only BeginsNoSync shutdownCall := by
  refine only_bind (only_request nofun) fun n ↦ only_bind (only_attempt ?_) fun o ↦
    only_bind (only_request nofun) fun _ ↦ ?_
  · exact only_bind (only_stopTask .login) fun _ ↦ only_bind (only_stopTask .verify) fun _ ↦
      only_stopTask .sync
  · cases o with
    | ok _ => exact only_pure none
    | error e => exact only_throw e

theorem only_login : Only BeginsNoSync login := by
  refine only_bind (only_attempt ?_) fun o ↦ ?_
  · refine only_bind (only_attempt (only_request nofun)) fun o ↦ ?_
    cases o with
    | ok _ => exact only_pure ()
    | error e =>
      refine only_bind (only_request nofun) fun unconfirmed ↦ ?_
      dsimp only
      split
      · exact only_bind (only_request nofun) fun _ ↦ only_throw e
      · exact only_throw e
  · split
    · exact only_pure true
    · exact only_bind (only_request nofun) fun _ ↦ only_pure false
    · exact only_throw _

theorem only_runLogin : Only BeginsNoSync runLogin := by
  refine only_bind (only_attempt ?_) fun o ↦ ?_
  · exact only_bind (only_request nofun) fun _ ↦ only_bind (only_attempt only_login) fun _ ↦
      only_bind (only_request nofun) fun _ ↦ trivial
  · split
    · exact only_bind (only_request nofun) fun _ ↦ only_pure ()
    · exact only_pure ()
    · split
      · exact only_pure ()
      · exact only_throw _

theorem only_runVerify (verifyTimeoutSeconds : ℕ) :
    Only BeginsNoSync (runVerify verifyTimeoutSeconds) := by
  refine only_bind (only_attempt (only_request nofun)) fun o ↦ ?_
  split
  · exact only_bind (only_request nofun) fun _ ↦ only_pure ()
  · exact only_pure ()
  · split
    · exact only_pure ()
    · exact only_throw _

/-- The task for a login or a verification begins no synchronization. -/
theorem only_taskCall {verifyTimeoutSeconds : ℕ} {job : ConnectorJob} (hsync : job ≠ .sync)
    (t : TaskId) : Only BeginsNoSync (taskCall verifyTimeoutSeconds job t) := by
  refine only_bind (only_attempt ?_) fun o ↦ only_bind (only_request nofun) fun _ ↦ ?_
  · refine only_bind (only_request (by simp [BeginsNoSync, hsync])) fun _ ↦ ?_
    cases job with
    | login => exact only_runLogin
    | verify => exact only_runVerify verifyTimeoutSeconds
    | sync => exact (hsync rfl).elim
  · cases o with
    | ok _ => exact only_pure none
    | error e => exact only_throw e

end

end SessionConnector

namespace Application

open SharedQueue (Shape Move Reflects)

/-! ## Programs that use the queue -/

/-- The request leaves what calls of `execute` share as it is, and begins no synchronization. -/
def Aside : ApplicationRequest → Prop
  | .inl q => SessionConnector.BeginsNoSync q
  | .inr .locked => True
  | .inr (.sleep _) => True
  | .inr _ => False

/-- The program uses the queue by calls of `execute` only. -/
inductive Uses (executeOnce : Prog SyncResult) {α : Type} : ApplicationCall α → Prop
  /-- The program is over. -/
  | done (o : Except Exn α) : Uses executeOnce (.done o)
  /-- It does something else. -/
  | ask {r : ApplicationRequest} {k : Except Exn r.Val → ApplicationCall α} (hr : Aside r)
      (hk : ∀ a, Uses executeOnce (k a)) : Uses executeOnce (.ask r k)
  /-- It calls `execute`. -/
  | call {f : Except Exn SyncResult → ApplicationCall α} (hf : ∀ o, Uses executeOnce (f o)) :
      Uses executeOnce ((execute executeOnce).next f)

section Uses

variable {executeOnce : Prog SyncResult} {α β : Type}

theorem Uses.next {c : ApplicationCall α} {f : Except Exn α → ApplicationCall β}
    (hc : Uses executeOnce c) (hf : ∀ o, Uses executeOnce (f o)) : Uses executeOnce (c.next f) := by
  induction hc with
  | done o => exact hf o
  | ask hr hk ih => exact .ask hr ih
  | call hg ih =>
    rw [Coro.next_next]
    exact .call ih

theorem uses_operation {q : ConnectorRequest} (hq : SessionConnector.BeginsNoSync q) :
    Uses executeOnce (operation executeOnce q) := by
  cases q with
  | isSyncRunning => exact .ask trivial fun a ↦ .done a
  | runSync =>
    refine .call fun o ↦ ?_
    cases o with
    | ok _ => exact .done _
    | error _ => exact .done _
  | _ => exact .ask hq fun a ↦ .done a

/-- A program of the connector uses the queue by calls of `execute` only. -/
theorem uses_wired {c : ConnectorCall α} (hc : Only SessionConnector.BeginsNoSync c) :
    Uses executeOnce (wired executeOnce c) := by
  induction c with
  | done o => exact .done o
  | ask q k ih => exact (uses_operation hc.1).next fun a ↦ ih a (hc.2 a)

theorem uses_returning {c : ApplicationCall Unit} (hc : Uses executeOnce c) :
    Uses executeOnce (returning (α := α) c) := by
  refine hc.next fun o ↦ ?_
  cases o with
  | ok _ => exact .done _
  | error _ => exact .done _

theorem uses_right_bind {c : Call α} {f : α → Call β} (hc : Uses executeOnce c.right)
    (hf : ∀ x, Uses executeOnce (f x).right) : Uses executeOnce (c >>= f).right := by
  rw [Coro.bind_eq, Coro.bind, right_next]
  refine hc.next fun o ↦ ?_
  cases o with
  | ok x => exact hf x
  | error e => exact .done _

/-- A call of `execute` whose outcome is looked at. -/
theorem uses_right_guard {f : Except Exn SyncResult → Call α}
    (hf : ∀ o, Uses executeOnce (f o).right) :
    Uses executeOnce ((SharedQueue.execute executeOnce).attempt >>= f).right := by
  rw [Coro.bind_eq, Coro.bind, Coro.attempt, Coro.next_next, right_next]
  exact .call hf

theorem uses_loop (intervalSeconds n : ℕ) :
    Uses executeOnce (PollScheduler.loop executeOnce intervalSeconds n).right := by
  induction n with
  | zero => exact .done _
  | succ n ih =>
    refine uses_right_bind (uses_right_guard fun o ↦ ?_) fun _ ↦ ?_
    · split
      · exact .done _
      · exact .done _
      · split <;> exact .done _
    · exact .ask trivial fun a ↦ by
        cases a with
        | ok _ => exact ih
        | error _ => exact .done _

theorem uses_manualRefresh : Uses executeOnce (manualRefresh executeOnce).right := by
  refine uses_right_guard fun o ↦ ?_
  split
  · exact .done _
  · split <;> exact .done _

end Uses

/-! ## Calls of several programs -/

/-- The calls made so far have numbers below `n`, and they are a single flight. -/
structure Shared (s : SharedQueue) (calls : Calls (Except Exn SyncResult)) (n : ℕ) : Prop where
  /-- The calls are those of a single flight. -/
  sound : Sound calls
  /-- What is shared keeps up with them. -/
  reflects : Reflects s calls
  /-- The others have not been made. -/
  unused : ∀ j, n ≤ j → calls j = none

section Shared

variable {s s' : SharedQueue} {calls : Calls (Except Exn SyncResult)} {n j : ℕ}
  {x y : Stage (Except Exn SyncResult)} {es : List CallEvent}

theorem shared_start : Shared .start (fun _ ↦ none) 0 :=
  ⟨.start, SharedQueue.reflects_start, fun _ _ ↦ rfl⟩

/-- A call is made. -/
theorem Shared.call (h : Shared s calls n) (hmove : Move s none es s' x) :
    Shared s' (Function.update calls n (some x)) (n + 1) := by
  rw [← h.unused n le_rfl] at hmove
  obtain ⟨hsteps, hreflects⟩ := hmove.steps h.reflects h.sound
  refine ⟨h.sound.steps hsteps, hreflects, fun j hj ↦ ?_⟩
  rw [Function.update_of_ne (by omega)]
  exact h.unused j (by omega)

/-- A call goes on. -/
theorem Shared.resume (h : Shared s calls n) (hj : calls j = some x)
    (hmove : Move s (some x) es s' y) : Shared s' (Function.update calls j (some y)) n := by
  rw [← hj] at hmove
  obtain ⟨hsteps, hreflects⟩ := hmove.steps h.reflects h.sound
  refine ⟨h.sound.steps hsteps, hreflects, fun j' hj' ↦ ?_⟩
  have hne : j' ≠ j := by
    rintro rfl
    cases hj.symm.trans (h.unused j' hj')
  rw [Function.update_of_ne hne]
  exact h.unused j' hj'

end Shared

section Turns

variable {executeOnce : Prog SyncResult} {α : Type} {s s₁ s' : Application}
  {calls : Calls (Except Exn SyncResult)} {n j : ℕ} {es : List ApplicationEvent}
  {f : Except Exn SyncResult → ApplicationCall α} {d : ApplicationCall α}

theorem step_aside {r : ApplicationRequest} {a : Except Exn r.Val} (hr : Aside r)
    (h : rules.step s r a s') : s'.2 = s.2 ∧ s.1.Onward s'.1 := by
  cases r with
  | inl q =>
    obtain ⟨⟨-, b, hb⟩, hsame⟩ := h
    exact ⟨hsame, SessionConnector.onward_of_serve hr hb⟩
  | inr q =>
    obtain ⟨⟨b, hb⟩, hsame⟩ := h
    refine ⟨?_, hsame ▸ .refl _⟩
    cases q with
    | locked => exact (congrArg Prod.snd (Option.some.inj hb)).symm
    | sleep seconds => cases b <;> exact (congrArg Prod.snd (Option.some.inj hb)).symm
    | _ => exact hr.elim

/-- **A call of `execute` and what follows it**: the program waits within the call, or the call ends
and what follows goes on. -/
theorem settle_call (h : Shared s.2 calls n)
    (hrun : Settle rules suspends ((execute executeOnce).next f) s es d s') :
    (∃ x t q k, d = (Coro.ask q k).right.next f ∧ Shape executeOnce x t (.ask q k) ∧
      Shared s'.2 (Function.update calls n (some x)) (n + 1) ∧ s'.1 = s.1) ∨
    ∃ o x es' s₁, Shared s₁.2 (Function.update calls n (some x)) (n + 1) ∧ s₁.1 = s.1 ∧
      Settle rules suspends (f o) s₁ es' d s' := by
  rcases hrun.next with ⟨r, k, rfl, hc⟩ | ⟨o, _, es', s₁, hc, hf⟩
  · obtain ⟨_, c', hc', hcall, hsame⟩ := Settle.right (c := SharedQueue.execute executeOnce) hc
    obtain ⟨x, hmove, hshape⟩ :=
      SharedQueue.turn_execute h.reflects h.sound executeOnce _ _ _ hcall
    cases c' with
    | done o => cases hc'
    | ask q k' =>
      cases hc'
      exact .inl ⟨x, _, q, k', rfl, hshape, h.call hmove, hsame⟩
  · obtain ⟨_, c', hc', hcall, hsame⟩ := Settle.right (c := SharedQueue.execute executeOnce) hc
    obtain ⟨x, hmove, -⟩ := SharedQueue.turn_execute h.reflects h.sound executeOnce _ _ _ hcall
    exact .inr ⟨o, x, es', s₁, h.call hmove, hsame, hf⟩

/-- **A call of `execute` that is resumed**, and what follows it. -/
theorem settle_resume {x : Stage (Except Exn SyncResult)} {t : List CallEvent} {q : CallRequest}
    {k : Except Exn q.Val → Call SyncResult} {a : Except Exn q.Val} (h : Shared s.2 calls n)
    (hj : calls j = some x) (hshape : Shape executeOnce x t (.ask q k))
    (hstep : rules.step s (.inr q) a s₁)
    (hrun : Settle rules suspends ((k a).right.next f) s₁ es d s') :
    (∃ y t q k, d = (Coro.ask q k).right.next f ∧ Shape executeOnce y t (.ask q k) ∧
      Shared s'.2 (Function.update calls j (some y)) n ∧ s'.1 = s.1) ∨
    ∃ o y es' s₂, Shared s₂.2 (Function.update calls j (some y)) n ∧ s₂.1 = s.1 ∧
      Settle rules suspends (f o) s₂ es' d s' := by
  have hresume := hshape.resume hj h.reflects h.sound hstep.1
  rcases hrun.next with ⟨r, k, rfl, hc⟩ | ⟨o, _, es', s₂, hc, hf⟩
  · obtain ⟨_, c', hc', hcall, hsame⟩ := hc.right
    obtain ⟨y, hmove, hshape'⟩ := hresume _ _ _ hcall
    cases c' with
    | done o => cases hc'
    | ask q k' =>
      cases hc'
      exact .inl ⟨y, _, q, k', rfl, hshape', h.resume hj hmove, hsame.trans hstep.2⟩
  · obtain ⟨_, c', hc', hcall, hsame⟩ := hc.right
    obtain ⟨y, hmove, -⟩ := hresume _ _ _ hcall
    exact .inr ⟨o, y, es', s₂, h.resume hj hmove, hsame.trans hstep.2, hf⟩

end Turns

/-! ## The synchronization after a login -/

section AfterSync

variable (executeOnce : Prog SyncResult) (verifyTimeoutSeconds : ℕ)

/-- The task `t` ends with `o`. -/
def ending (t : TaskId) (o : Except Exn (Option Bool)) : ApplicationCall (Option Bool) :=
  .ask (.inl (.finish t)) fun a ↦ .done (a.bind fun _ ↦ o)

/-- How the task of a synchronization ends once its call of `execute` has ended. -/
def caught : Except Exn SyncResult → Except Exn (Option Bool)
  | .ok _ => .ok none
  | .error e => if e.isException then .ok none else .error e

/-- What the task `t` does once its call of `execute` has ended with `o`. -/
def afterSync (t : TaskId) (o : Except Exn SyncResult) : ApplicationCall (Option Bool) :=
  ending t (caught o)

/-- The task of a synchronization calls `execute`, if it is not cancelled before it begins. -/
theorem wired_sync (t : TaskId) :
    ∃ k, wired executeOnce (SessionConnector.taskCall verifyTimeoutSeconds .sync t) =
        .ask (.inl (.begin .sync t)) k ∧
      k (.ok ()) = (execute executeOnce).next (afterSync t) ∧
      ∀ e, k (.error e) = ending t (.error e) := by
  refine ⟨_, rfl, ?_, fun e ↦ congrArg (Coro.ask _) (funext fun a ↦ by cases a <;> rfl)⟩
  change ((execute executeOnce).next _).next _ = _
  rw [Coro.next_next]
  refine congrArg _ (funext fun o ↦ ?_)
  cases o with
  | ok _ => exact congrArg (Coro.ask _) (funext fun a ↦ by cases a <;> rfl)
  | error e =>
    -- which exceptions are caught is known from their constructors
    cases e <;> exact congrArg (Coro.ask _) (funext fun a ↦ by cases a <;> rfl)

variable {executeOnce} {s : Application}

theorem uses_ending (t : TaskId) (o : Except Exn (Option Bool)) : Uses executeOnce (ending t o) :=
  .ask nofun fun _ ↦ .done _

/-- Then the task is done. -/
theorem turn_ending (t : TaskId) (o : Except Exn (Option Bool)) :
    Turn rules suspends (ending t o) s fun _ _ s' ↦ s'.1.finished t = true := by
  refine turn_goes rfl fun a s₁ hstep ↦ turn_done ?_
  obtain ⟨⟨-, b, hb⟩, -⟩ := hstep
  obtain ⟨-, hs₁⟩ := Prod.mk.inj (Option.some.inj hb)
  rw [← hs₁]
  exact Function.update_self ..

end AfterSync

end Application

end RmaPortal
