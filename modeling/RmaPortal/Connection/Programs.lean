import RmaPortal.Connection.Handover

/-!
# The programs of the connector meet the protocol

Each program of the connector goes its way through the stages; `leads_start`, `leads_runLogin`,
`leads_runVerify`, `leads_runSyncTask` and `leads_shutdown` follow its text.

A stage says what a program has found out and what it has created, and the rules of `Leads` are
those of any typestate: a request has to be allowed in the stage the program is in, and then the
program goes on in the stage where the answer takes it, whatever the answer is.  So a proof about
a program is a walk through its text, with a case wherever the code looks at an answer.

## What is here

* `Ended` — how a program that has come to its end has ended: a call of `start` has returned
  `True` if and only if it has created a login, and a call of `shutdown` that has returned has
  dealt with all jobs.
* `leads_ask`, `leads_bind`, `leads_attempt_bind` — the rules.
* `leads_quiet` — what is quiet leaves a program where it is: the clock, the log, the status of
  the account.
* `leads_start` — the looks of `start` at the two tasks and at the lock, and the creation of a
  login.  It is not suspended in between.
* `leads_openAndWait`, `leads_login`, `leads_withProfileLock`, `leads_runLogin` — the task for a
  login, which ends with a verification or without one.
* `leads_runVerify`, `leads_runSyncTask` — what follows it.
* `leads_awaitTask`, `leads_stopTask`, `leads_shutdown` — the loop of `shutdown` over the three
  attributes; it cancels a task that is not done and waits for it, and the wait may itself be
  cancelled.
* `leads_taskCall`, `leads_program` — the tasks as the event loop runs them: a task may be
  cancelled before it has begun, and is recorded as finished at its end.
* `connectorProtocol`, `ConnectorPool`, `ConnectorSteps` — pools of such programs, and
  `exists_atStages`: in every run `ConnectorInv` holds and every program is at some stage.

The protocol takes for granted that calls of `start` do not overlap where one waits; `StartsApart`
says so, and it is how the routes call it.
-/

set_option autoImplicit false

open Coroutine

namespace RmaPortal

namespace SessionConnector

/-- How a program that has come to its end has ended. -/
structure Ended (o : Except Exn (Option Bool)) (x : Stage) : Prop where
  /-- A call of `start` that has created a login has returned `True`. -/
  accepted : ∀ l, x = .accepted l → o = .ok (some true)
  /-- A call of `shutdown` that has returned has dealt with all jobs. -/
  stopped : ∀ w, x = .stopped w → o = .ok none → w = [.sync, .verify, .login]
  /-- It is no call of `shutdown` that is in progress. -/
  call : x.call = none

section

variable {verifyTimeoutSeconds : ℕ} {α β : Type} {x : Stage} {l v t : TaskId} {n : ℕ}

/-! ## Rules -/

/-- From the stage `x` the program makes only requests that are allowed, and ends as `R` says. -/
abbrev Leads (verifyTimeoutSeconds : ℕ) (c : ConnectorCall α) (x : Stage)
    (R : Except Exn α → Stage → Prop) : Prop :=
  Sat (stages verifyTimeoutSeconds) c x fun _ o y ↦ R o y

theorem leads_pure {a : α} {R : Except Exn α → Stage → Prop} (h : R (.ok a) x) :
    Leads verifyTimeoutSeconds (pure a) x R := h

theorem leads_throw {e : Exn} {R : Except Exn α → Stage → Prop} (h : R (.error e) x) :
    Leads verifyTimeoutSeconds (throw e) x R := h

theorem leads_request {q : ConnectorRequest} {R : Except Exn q.Val → Stage → Prop}
    (hpre : (stages verifyTimeoutSeconds).pre x q)
    (h : ∀ a y, Stage.Step verifyTimeoutSeconds x q a y → R a y) :
    Leads verifyTimeoutSeconds (request q) x R := sat_perform hpre h

theorem leads_bind {c : ConnectorCall α} {f : α → ConnectorCall β}
    {R : Except Exn α → Stage → Prop} {R' : Except Exn β → Stage → Prop}
    (hc : Leads verifyTimeoutSeconds c x R)
    (hok : ∀ a y, R (.ok a) y → Leads verifyTimeoutSeconds (f a) y R')
    (herr : ∀ e y, R (.error e) y → R' (.error e) y) :
    Leads verifyTimeoutSeconds (c >>= f) x R' :=
  sat_bind hc (fun _ ↦ hok) fun _ ↦ herr

theorem leads_attempt_bind {c : ConnectorCall α} {f : Except Exn α → ConnectorCall β}
    {R : Except Exn α → Stage → Prop} {R' : Except Exn β → Stage → Prop}
    (hc : Leads verifyTimeoutSeconds c x R)
    (hf : ∀ o y, R o y → Leads verifyTimeoutSeconds (f o) y R') :
    Leads verifyTimeoutSeconds (c.attempt >>= f) x R' :=
  sat_attempt_bind hc fun _ ↦ hf

/-- Make a request and go on. -/
theorem leads_ask {q : ConnectorRequest} {f : q.Val → ConnectorCall β}
    {R : Except Exn β → Stage → Prop} (hpre : (stages verifyTimeoutSeconds).pre x q)
    (hok : ∀ a y, Stage.Step verifyTimeoutSeconds x q (.ok a) y →
      Leads verifyTimeoutSeconds (f a) y R)
    (herr : ∀ e y, Stage.Step verifyTimeoutSeconds x q (.error e) y → R (.error e) y) :
    Leads verifyTimeoutSeconds (request q >>= f) x R :=
  leads_bind (leads_request hpre fun _ _ h ↦ h) hok herr

/-! ## `start` -/

theorem leads_isActive : Leads verifyTimeoutSeconds isActive .calling fun o y ↦
    (o = .ok true ∧ y = .refused) ∨ (o = .ok false ∧ y = .inactive) := by
  refine leads_ask ⟨_, _, .noLogin⟩ (fun o y hstep ↦ ?_) fun e y hstep ↦ ?_
  · cases hstep with
    | quiet _ _ _ hquiet => exact hquiet.elim
    | noLogin => exact leads_pure (.inr ⟨rfl, rfl⟩)
    | someLogin t =>
      refine leads_ask ⟨_, _, .active t⟩ (fun d y hstep ↦ ?_) fun e y hstep ↦ ?_
      · cases hstep with
        | quiet _ _ _ hquiet => exact hquiet.elim
        | loginDone => exact leads_pure (.inr ⟨rfl, rfl⟩)
        | active => exact leads_pure (.inl ⟨rfl, rfl⟩)
      · cases hstep with
        | quiet _ _ _ hquiet => exact hquiet.elim
  · cases hstep with
    | quiet _ _ _ hquiet => exact hquiet.elim

theorem leads_isVerifying : Leads verifyTimeoutSeconds isVerifying .inactive fun o y ↦
    (o = .ok true ∧ y = .refused) ∨ (o = .ok false ∧ y = .clear) := by
  refine leads_ask ⟨_, _, .noVerify⟩ (fun o y hstep ↦ ?_) fun e y hstep ↦ ?_
  · cases hstep with
    | quiet _ _ _ hquiet => exact hquiet.elim
    | noVerify => exact leads_pure (.inr ⟨rfl, rfl⟩)
    | someVerify t =>
      refine leads_ask ⟨_, _, .verifyGoesOn t⟩ (fun d y hstep ↦ ?_) fun e y hstep ↦ ?_
      · cases hstep with
        | quiet _ _ _ hquiet => exact hquiet.elim
        | verifyDone => exact leads_pure (.inr ⟨rfl, rfl⟩)
        | verifyGoesOn => exact leads_pure (.inl ⟨rfl, rfl⟩)
      · cases hstep with
        | quiet _ _ _ hquiet => exact hquiet.elim
  · cases hstep with
    | quiet _ _ _ hquiet => exact hquiet.elim

/-- What is quiet leaves the program where it is. -/
theorem leads_quiet {q : ConnectorRequest} {R : Except Exn q.Val → Stage → Prop}
    (hquiet : x.Quiet q) (hstay : ∀ a y, Stage.Step verifyTimeoutSeconds x q a y → y = x)
    (h : ∀ a, R a x) : Leads verifyTimeoutSeconds (request q) x R := by
  refine leads_request ⟨.error taskCancelled, _, .quiet _ _ _ hquiet⟩ fun a y hstep ↦ ?_
  rw [hstay a y hstep]
  exact h a

theorem leads_setLastStartBlockedBySync {b : Bool} {R : Except Exn Unit → Stage → Prop}
    (h : ∀ a, R a x) :
    Leads verifyTimeoutSeconds (request (.setLastStartBlockedBySync b)) x R := by
  refine leads_quiet (by cases x <;> trivial) (fun a y hstep ↦ ?_) h
  cases hstep
  rfl

theorem leads_start : Leads verifyTimeoutSeconds start .calling fun o y ↦
    (∀ l, y = .accepted l → o = .ok true) ∧ (∀ w, y ≠ .stopped w) ∧ y.call = none := by
  refine leads_bind (R := fun _ y ↦ y = .calling)
    (leads_setLastStartBlockedBySync fun _ ↦ rfl) ?_ (by rintro e _ rfl; simp [Stage.call])
  rintro - _ rfl
  refine leads_bind leads_isActive ?_ (by rintro e y (⟨⟨⟩, -⟩ | ⟨⟨⟩, -⟩))
  rintro active y (⟨⟨⟩, rfl⟩ | ⟨⟨⟩, rfl⟩)
  · exact leads_pure (by simp [Stage.call])
  refine leads_bind leads_isVerifying ?_ (by rintro e y (⟨⟨⟩, -⟩ | ⟨⟨⟩, -⟩))
  rintro verifying y (⟨⟨⟩, rfl⟩ | ⟨⟨⟩, rfl⟩)
  · exact leads_pure (by simp [Stage.call])
  refine leads_bind (R := fun _ y ↦ y = .clear)
    (leads_quiet trivial (fun a y hstep ↦ ?_) fun _ ↦ rfl) ?_ (by rintro e _ rfl; simp [Stage.call])
  · cases hstep
    rfl
  rintro running _ rfl
  cases running
  · refine leads_ask ⟨_, _, .accept 0⟩ (fun l y hstep ↦ ?_) fun e y hstep ↦ ?_
    · cases hstep with
      | quiet _ _ _ hquiet => exact hquiet.elim
      | accept => exact leads_pure (by simp [Stage.call])
    · cases hstep with
      | quiet _ _ _ hquiet => exact hquiet.elim
  · refine leads_bind (R := fun _ y ↦ y = .clear)
      (leads_setLastStartBlockedBySync fun _ ↦ rfl) ?_ (by rintro e _ rfl; simp [Stage.call])
    rintro - _ rfl
    exact leads_pure (by simp [Stage.call])

/-! ## The tasks -/

/-- A login that has failed goes on without getting anywhere. -/
theorem leads_failed {q : ConnectorRequest} {R : Except Exn q.Val → Stage → Prop}
    (hquiet : (Stage.loginFailed l).Quiet q) (h : ∀ a, R a (.loginFailed l)) :
    Leads verifyTimeoutSeconds (request q) (.loginFailed l) R := by
  refine leads_quiet hquiet (fun a y hstep ↦ ?_) h
  cases hstep with
  | quiet => rfl
  | finishFailed => exact hquiet.elim

theorem leads_openAndWait :
    Leads verifyTimeoutSeconds (openAndWait (request .markProfileTeardownUnconfirmed)) (.holding l)
      fun o y ↦ (o = .ok () ∧ y = .closed l) ∨ ((∃ e, o = .error e) ∧ y = .loginFailed l) := by
  refine leads_attempt_bind (R := fun o y ↦
    (o = .ok () ∧ y = .closed l) ∨ ((∃ e, o = .error e) ∧ y = .loginFailed l))
    (leads_request ⟨_, _, .close l⟩ fun a y hstep ↦ ?_) ?_
  · cases hstep with
    | quiet _ _ _ hquiet => exact hquiet.elim
    | close => exact .inl ⟨rfl, rfl⟩
    | openFails _ e => exact .inr ⟨⟨e, rfl⟩, rfl⟩
  rintro o y (⟨rfl, rfl⟩ | ⟨⟨e, rfl⟩, rfl⟩)
  · exact leads_pure (.inl ⟨rfl, rfl⟩)
  refine leads_bind (R := fun _ y ↦ y = .loginFailed l) (leads_failed trivial fun _ ↦ rfl) ?_
    fun e' y hy ↦ .inr ⟨⟨e', rfl⟩, hy⟩
  rintro unconfirmed _ rfl
  cases unconfirmed
  · exact leads_throw (.inr ⟨⟨e, rfl⟩, rfl⟩)
  · refine leads_bind (R := fun _ y ↦ y = .loginFailed l) (leads_failed trivial fun _ ↦ rfl) ?_
      fun e' y hy ↦ .inr ⟨⟨e', rfl⟩, hy⟩
    rintro - _ rfl
    exact leads_throw (.inr ⟨⟨e, rfl⟩, rfl⟩)

theorem leads_login : Leads verifyTimeoutSeconds login (.holding l) fun o y ↦
    (o = .ok true ∧ y = .closed l) ∨ (o ≠ .ok true ∧ y = .loginFailed l) := by
  refine leads_attempt_bind leads_openAndWait ?_
  rintro o y (⟨rfl, rfl⟩ | ⟨⟨e, rfl⟩, rfl⟩)
  · exact leads_pure (.inl ⟨rfl, rfl⟩)
  · split
    · rename_i heq
      cases heq
    · refine leads_bind (R := fun _ y ↦ y = .loginFailed l) (leads_failed trivial fun _ ↦ rfl) ?_
        fun e' y hy ↦ .inr ⟨by simp, hy⟩
      rintro - _ rfl
      exact leads_pure (.inr ⟨by simp, rfl⟩)
    · exact leads_throw (.inr ⟨by simp, rfl⟩)

theorem leads_withProfileLock :
    Leads verifyTimeoutSeconds (withProfileLock login) (.loginBegun l) fun o y ↦
      (o = .ok true ∧ y = .released l) ∨ (o ≠ .ok true ∧ y = .loginFailed l) := by
  refine leads_ask ⟨_, _, .lock l⟩ (fun _ y hstep ↦ ?_) fun e y hstep ↦ ?_
  · cases hstep with
    | quiet _ _ _ hquiet => exact hquiet.elim
    | lock =>
      refine leads_attempt_bind leads_login ?_
      rintro o y (⟨rfl, rfl⟩ | ⟨ho, rfl⟩)
      · refine leads_ask ⟨_, _, .release l⟩ (fun _ y hstep ↦ ?_) fun e y hstep ↦ ?_
        · cases hstep with
          | quiet _ _ _ hquiet => exact hquiet.elim
          | release => exact .inl ⟨rfl, rfl⟩
        · cases hstep with
          | quiet _ _ _ hquiet => exact hquiet.elim
          | releaseFails => exact .inr ⟨by simp, rfl⟩
      · refine leads_bind (R := fun _ y ↦ y = .loginFailed l) (leads_failed trivial fun _ ↦ rfl) ?_
          fun e' y hy ↦ .inr ⟨by simp, hy⟩
        rintro - _ rfl
        exact .inr ⟨ho, rfl⟩
  · cases hstep with
    | quiet _ _ _ hquiet => exact hquiet.elim
    | lockFails => exact .inr ⟨by simp, rfl⟩

theorem leads_runLogin : Leads verifyTimeoutSeconds runLogin (.loginBegun l) fun _ y ↦
    y = .loginFailed l ∨ ∃ v, y = .handedOver l v := by
  refine leads_attempt_bind leads_withProfileLock ?_
  rintro o y (⟨rfl, rfl⟩ | ⟨ho, rfl⟩)
  · refine leads_ask ⟨_, _, .handOver l 0⟩ (fun v y hstep ↦ ?_) fun e y hstep ↦ ?_
    · cases hstep with
      | quiet _ _ _ hquiet => exact hquiet.elim
      | handOver => exact leads_pure (.inr ⟨v, rfl⟩)
    · cases hstep with
      | quiet _ _ _ hquiet => exact hquiet.elim
  · split
    · exact (ho rfl).elim
    · exact leads_pure (.inl rfl)
    · split
      · exact leads_pure (.inl rfl)
      · exact leads_throw (.inl rfl)

theorem leads_runVerify :
    Leads verifyTimeoutSeconds (runVerify verifyTimeoutSeconds) (.verifying v) fun _ y ↦
      y = .verifyFailed v ∨ ∃ s, y = .syncCreated v s := by
  refine leads_attempt_bind (R := fun o y ↦
    (o = .ok true ∧ y = .verified v) ∨ (o ≠ .ok true ∧ y = .verifyFailed v))
    (leads_request ⟨_, _, .verify v⟩ fun a y hstep ↦ ?_) ?_
  · cases hstep with
    | quiet _ _ _ hquiet => exact hquiet.elim
    | verify => exact .inl ⟨rfl, rfl⟩
    | reject => exact .inr ⟨by simp, rfl⟩
    | verifyFails => exact .inr ⟨by simp, rfl⟩
  rintro o y (⟨rfl, rfl⟩ | ⟨ho, rfl⟩)
  · refine leads_ask ⟨_, _, .createSync v 0⟩ (fun s y hstep ↦ ?_) fun e y hstep ↦ ?_
    · cases hstep with
      | quiet _ _ _ hquiet => exact hquiet.elim
      | createSync => exact leads_pure (.inr ⟨s, rfl⟩)
    · cases hstep with
      | quiet _ _ _ hquiet => exact hquiet.elim
  · split
    · exact (ho rfl).elim
    · exact leads_pure (.inl rfl)
    · split
      · exact leads_pure (.inl rfl)
      · exact leads_throw (.inl rfl)

theorem leads_runSyncTask : Leads verifyTimeoutSeconds runSyncTask (.syncing t) fun _ y ↦
    y = .synced t := by
  refine leads_attempt_bind (R := fun _ y ↦ y = .synced t)
    (leads_request ⟨_, _, .sync t (.ok ())⟩ fun a y hstep ↦ ?_) ?_
  · cases hstep with
    | quiet _ _ _ hquiet => exact hquiet.elim
    | sync => rfl
  rintro o _ rfl
  split
  · exact leads_pure rfl
  · split
    · exact leads_pure rfl
    · exact leads_throw rfl

/-! ## `shutdown` -/

/-- `shutdown` waits for a task. -/
theorem leads_awaitTask {w : List ConnectorJob} {job : ConnectorJob}
    {f : Except Exn Unit → ConnectorCall Unit}
    (hf : ∀ o y, Leads verifyTimeoutSeconds (f o) y fun _ z ↦ z = y) :
    Leads verifyTimeoutSeconds
      (request (.cancel t) >>= fun _ ↦ (request (.awaitTask t)).attempt >>= f)
      (.removed n w job t) fun _ y ↦ y = .stopping n (job :: w) := by
  refine leads_ask ⟨_, _, .cancel n w job t⟩ (fun _ y hstep ↦ ?_) fun e y hstep ↦ ?_
  · cases hstep with
    | quiet _ _ _ hquiet => exact hquiet.elim
    | cancel =>
      refine leads_attempt_bind (R := fun _ y ↦ y = .stopping n (job :: w))
        (leads_request ⟨_, _, .await n w job t (.ok ())⟩ fun a y hstep ↦ ?_) ?_
      · cases hstep with
        | quiet _ _ _ hquiet => exact hquiet.elim
        | await => rfl
      · rintro o _ rfl
        exact hf o _
  · cases hstep with
    | quiet _ _ _ hquiet => exact hquiet.elim

theorem leads_stopTask {w : List ConnectorJob} {job : ConnectorJob} (hnext : Stage.Next w job) :
    Leads verifyTimeoutSeconds (stopTask job) (.stopping n w) fun _ y ↦
      y = .stopping n (job :: w) := by
  refine leads_ask ⟨_, _, .find n w job none hnext⟩ (fun o y hstep ↦ ?_) fun e y hstep ↦ ?_
  swap
  · cases hstep with
    | quiet _ _ _ hquiet => exact hquiet.elim
  cases hstep with
  | quiet _ _ _ hquiet => exact hquiet.elim
  | find =>
    cases o with
    | none =>
      refine leads_ask ⟨_, _, .clearNone n w job⟩ (fun _ y hstep ↦ ?_) fun e y hstep ↦ ?_
      · cases hstep with
        | quiet _ _ _ hquiet => exact hquiet.elim
        | clearNone => exact leads_pure rfl
      · cases hstep with
        | quiet _ _ _ hquiet => exact hquiet.elim
    | some t =>
      refine leads_ask ⟨_, _, .clearSome n w job t⟩ (fun _ y hstep ↦ ?_) fun e y hstep ↦ ?_
      swap
      · cases hstep with
        | quiet _ _ _ hquiet => exact hquiet.elim
      cases hstep with
      | quiet _ _ _ hquiet => exact hquiet.elim
      | clearSome =>
        refine leads_ask ⟨_, _, .isDone n w job t⟩ (fun d y hstep ↦ ?_) fun e y hstep ↦ ?_
        · cases hstep with
          | quiet _ _ _ hquiet => exact hquiet.elim
          | isDone => exact leads_pure rfl
          | notDone =>
            refine leads_awaitTask fun o y ↦ ?_
            split
            · exact leads_pure rfl
            · exact leads_pure rfl
            · exact leads_throw rfl
        · cases hstep with
          | quiet _ _ _ hquiet => exact hquiet.elim

/-- `shutdown` deals with all jobs, unless it raises. -/
theorem leads_shutdown : Leads verifyTimeoutSeconds shutdown (.stopping n []) fun o y ↦
    ∃ w, y = .stopping n w ∧ (o = .ok () → w = [.sync, .verify, .login]) := by
  have herr : ∀ {e : Exn} {w : List ConnectorJob} {y : Stage}, y = .stopping n w →
      ∃ w, y = .stopping n w ∧ ((.error e : Except Exn Unit) = .ok () →
        w = [.sync, .verify, .login]) := by
    rintro e w _ rfl
    exact ⟨w, rfl, by rintro ⟨⟩⟩
  refine leads_bind (leads_stopTask (w := []) rfl) ?_ fun _ _ hy ↦ herr hy
  rintro - _ rfl
  refine leads_bind (leads_stopTask (w := [.login]) rfl) ?_ fun _ _ hy ↦ herr hy
  rintro - _ rfl
  refine (leads_stopTask (w := [.verify, .login]) rfl).mono ?_
  rintro - o _ rfl
  exact ⟨_, rfl, fun _ ↦ rfl⟩

/-! ## What runs on the event loop -/

theorem leads_startCall : Leads verifyTimeoutSeconds startCall .idle Ended := by
  refine leads_ask ⟨_, _, .call⟩ (fun _ y hstep ↦ ?_) fun e y hstep ↦ ?_
  · cases hstep with
    | quiet _ _ _ hquiet => exact hquiet.elim
    | call =>
      refine leads_bind leads_start (fun started y h ↦ ?_) fun e y h ↦ ?_
      · refine leads_pure ⟨fun l hl ↦ ?_, fun w hw ↦ (h.2.1 w hw).elim, h.2.2⟩
        cases h.1 l hl
        rfl
      · exact ⟨fun l hl ↦ (by cases h.1 l hl), fun w hw ↦ (h.2.1 w hw).elim, h.2.2⟩
  · cases hstep with
    | quiet _ _ _ hquiet => exact hquiet.elim

theorem leads_shutdownCall : Leads verifyTimeoutSeconds shutdownCall .idle Ended := by
  refine leads_ask ⟨_, _, .stop 0⟩ (fun n y hstep ↦ ?_) fun e y hstep ↦ ?_
  swap
  · cases hstep with
    | quiet _ _ _ hquiet => exact hquiet.elim
  cases hstep with
  | quiet _ _ _ hquiet => exact hquiet.elim
  | stop =>
    refine leads_attempt_bind leads_shutdown ?_
    rintro o _ ⟨w, rfl, hw⟩
    refine leads_ask ⟨_, _, .finishStop n w⟩ (fun _ y hstep ↦ ?_) fun e y hstep ↦ ?_
    · cases hstep with
      | quiet _ _ _ hquiet => exact hquiet.elim
      | finishStop =>
        split
        · refine leads_pure ⟨by rintro l ⟨⟩, ?_, rfl⟩
          rintro _ ⟨⟩ -
          exact hw rfl
        · refine leads_throw ⟨by rintro l ⟨⟩, ?_, rfl⟩
          rintro w' - ⟨⟩
    · cases hstep with
      | quiet _ _ _ hquiet => exact hquiet.elim

/-- Where a task is when its program has ended. -/
def Stage.AtEnd (t : TaskId) (x : Stage) : Prop :=
  x = .loginFailed t ∨ (∃ v, x = .handedOver t v) ∨ x = .verifyFailed t ∨
    (∃ s, x = .syncCreated t s) ∨ x = .synced t

theorem leads_run (job : ConnectorJob) (t : TaskId) :
    Leads verifyTimeoutSeconds (request (.begin job t) >>= fun _ ↦ jobBody verifyTimeoutSeconds job)
      .idle fun _ y ↦ y.AtEnd t := by
  cases job with
  | login =>
    refine leads_ask ⟨_, _, .beginLogin t⟩ (fun _ y hstep ↦ ?_) fun e y hstep ↦ ?_
    · cases hstep with
      | quiet _ _ _ hquiet => exact hquiet.elim
      | beginLogin => exact leads_runLogin.mono fun _ _ _ h ↦ h.imp_right .inl
    · cases hstep with
      | quiet _ _ _ hquiet => exact hquiet.elim
      | cancelLogin => exact .inl rfl
  | verify =>
    refine leads_ask ⟨_, _, .beginVerify t⟩ (fun _ y hstep ↦ ?_) fun e y hstep ↦ ?_
    · cases hstep with
      | quiet _ _ _ hquiet => exact hquiet.elim
      | beginVerify => exact leads_runVerify.mono fun _ _ _ h ↦ .inr (.inr (h.imp_right .inl))
    · cases hstep with
      | quiet _ _ _ hquiet => exact hquiet.elim
      | cancelVerify => exact .inr (.inr (.inl rfl))
  | sync =>
    refine leads_ask ⟨_, _, .beginSync t⟩ (fun _ y hstep ↦ ?_) fun e y hstep ↦ ?_
    · cases hstep with
      | quiet _ _ _ hquiet => exact hquiet.elim
      | beginSync => exact leads_runSyncTask.mono fun _ _ _ h ↦ .inr (.inr (.inr (.inr h)))
    · cases hstep with
      | quiet _ _ _ hquiet => exact hquiet.elim
      | cancelSync => exact .inr (.inr (.inr (.inr rfl)))

theorem pre_finish (h : x.AtEnd t) : (stages verifyTimeoutSeconds).pre x (.finish t) := by
  rcases h with rfl | ⟨v, rfl⟩ | rfl | ⟨s, rfl⟩ | rfl
  · exact ⟨_, _, .finishFailed t⟩
  · exact ⟨_, _, .finishHandedOver t v⟩
  · exact ⟨_, _, .finishUnverified t⟩
  · exact ⟨_, _, .finishVerified t s⟩
  · exact ⟨_, _, .finishSync t⟩

theorem ended_of_finish {a : Except Exn Unit} {y : Stage} {o : Except Exn (Option Bool)}
    (hstep : Stage.Step verifyTimeoutSeconds x (.finish t) a y) : Ended o y := by
  cases hstep with
  | quiet _ _ _ hquiet => cases x <;> exact hquiet.elim
  | _ => exact ⟨by simp, by simp, rfl⟩

theorem leads_taskCall (job : ConnectorJob) (t : TaskId) :
    Leads verifyTimeoutSeconds (taskCall verifyTimeoutSeconds job t) .idle Ended := by
  refine leads_attempt_bind (leads_run job t) fun o y hy ↦ ?_
  refine leads_ask (pre_finish hy) (fun _ z hstep ↦ ?_) fun e z hstep ↦ ended_of_finish hstep
  split
  · exact leads_pure (ended_of_finish hstep)
  · exact leads_throw (ended_of_finish hstep)

theorem leads_program {c : ConnectorCall (Option Bool)}
    (hc : IsConnectorProgram verifyTimeoutSeconds c) :
    Leads verifyTimeoutSeconds c .idle Ended := by
  cases hc with
  | start => exact leads_startCall
  | shutdown => exact leads_shutdownCall
  | task job t => exact leads_taskCall job t

end

/-! ## Pools -/

/-- The protocol of the connector. -/
def connectorProtocol (verifyTimeoutSeconds : ℕ) :
    Protocol (rulesWhere StartsApart) suspends Stage where
  typestate := stages verifyTimeoutSeconds
  start := .idle
  inv := ConnectorInv
  turn s x := x.Relies s
  turn_start _ := trivial
  turn_resume s x q hq hpre := by
    obtain ⟨a, y, hstep⟩ := hpre
    cases hstep with
    | quiet _ _ _ hquiet => cases q <;> cases hq <;> cases x <;> trivial
    | _ => trivial
  keep s θ i q a s' hinv hturn hpre hstep := hinv.keep rfl hturn hpre hstep

/-- Tasks of the connector. -/
abbrev ConnectorPool : Type := Pool ConnectorRequest.Val Exn (Option Bool) SessionConnector

/-- One turn of one of the programs. -/
abbrev ConnectorStep (allowed : SessionConnector → ConnectorRequest → Prop)
    (verifyTimeoutSeconds : ℕ) :
    ConnectorPool → ℕ × List ConnectorEvent → ConnectorPool → Prop :=
  Pool.Step (rulesWhere allowed) suspends (IsConnectorProgram verifyTimeoutSeconds)

/-- Any number of turns. -/
abbrev ConnectorSteps (allowed : SessionConnector → ConnectorRequest → Prop)
    (verifyTimeoutSeconds : ℕ) :
    ConnectorPool → List (ℕ × List ConnectorEvent) → ConnectorPool → Prop :=
  Pool.Steps (rulesWhere allowed) suspends (IsConnectorProgram verifyTimeoutSeconds)

/-- Every program is where its stage says. -/
abbrev AtStages (verifyTimeoutSeconds : ℕ) (p : ConnectorPool) (θ : ℕ → Stage) : Prop :=
  (connectorProtocol verifyTimeoutSeconds).Meets (fun _ _ o x ↦ Ended o x) p θ

variable {verifyTimeoutSeconds : ℕ} {p : ConnectorPool} {ls : List (ℕ × List ConnectorEvent)}

theorem atStages_empty : AtStages verifyTimeoutSeconds (Pool.empty new) fun _ ↦ .idle :=
  .empty connectorInv_new

/-- **In every run** the invariant holds, and every program is at some stage. -/
theorem exists_atStages
    (h : ConnectorSteps StartsApart verifyTimeoutSeconds (Pool.empty new) ls p) :
    ∃ θ, AtStages verifyTimeoutSeconds p θ :=
  Protocol.sound (fun _ hc ↦ leads_program hc) atStages_empty h

end SessionConnector

end RmaPortal
