import RmaPortal.Waiting.Stages

/-!
# The programs meet the protocol

Each program that runs while the login window is open goes its way through the stages;
`leads_waitForLoginOrClose`, `leads_pollForLogin` and `leads_waitUntilClosed` follow its text.
The loops are followed round by round.

## What is here

* Until the window is closed: `isContextClosed`, `markClosed`, the listeners and the loop.  Who
  registers a listener raises nothing but exceptions (`leads_register`), and where those are
  suppressed nothing is raised at all (`leads_suppressed`); so the loop goes on, whatever
  Playwright does, until the window is found closed.
* `Part` — a part of the task has ended: the task goes on, or is to be done because the part has
  failed.
* `leads_rounds` — round by round, by induction on the number of rounds that are left.
* Until somebody has logged in: a call of Playwright may fail or be cancelled (`Fails`), and then
  the login is done without having seen the view.  `isAuthenticatedViewPresent_eq` writes the
  shared function of the page reader in terms of the requests that are made here.
* Whichever comes first: `leads_createTask`, `leads_waitFirst`, and `leads_cleanUp` for the
  `finally` block, which cancels whichever of the two tasks is not done and waits for it.  What
  `_wait_for_login_or_close` answers is decided before that.
* `leads_waitCall`, `leads_jobBody`, `leads_andNothing` — what runs on the event loop, and
  `leads_isWindowProgram`: every program meets the protocol.

No property of a run is stated here; `Waiting.Outcome` reads them off the protocol.
-/

set_option autoImplicit false

open Coroutine

namespace RmaPortal

namespace LoginWindow

section

variable {x : Stage}

/-! ## Until the window is closed -/

theorem leads_isContextClosed (hx : x.Looks) : Leads stages isContextClosed x fun o y ↦
    (o = .ok false ∧ y = x) ∨ (o = .ok true ∧ y = .noticed) := by
  refine leads_attempt_bind (R := fun o y ↦ (∃ pages, o = .ok pages ∧ pages ≠ [] ∧ y = x) ∨
    (o = .ok [] ∧ y = .noticed) ∨ ∃ e : Exn, o = .error e ∧ e.isException = true ∧ y = .noticed)
    (sat_perform ⟨_, _, .noPages x hx⟩ fun a y hstep ↦ ?_) ?_
  · cases hstep with
    | pages _ pages _ hpages => exact .inl ⟨pages, rfl, hpages, rfl⟩
    | noPages => exact .inr (.inl ⟨rfl, rfl⟩)
    | pagesFail _ e _ he => exact .inr (.inr ⟨e, rfl, he, rfl⟩)
    | browser _ _ h | cleanUp _ _ _ _ h | register _ _ _ _ h => cases h
  rintro o y (⟨pages, rfl, hpages, rfl⟩ | ⟨rfl, rfl⟩ | ⟨e, rfl, he, rfl⟩)
  · refine sat_pure (.inl ⟨congrArg _ ?_, rfl⟩)
    simpa using hpages
  · exact sat_pure (.inr ⟨rfl, rfl⟩)
  · dsimp only
    rw [if_pos he]
    exact sat_pure (.inr ⟨rfl, rfl⟩)

theorem leads_markClosed : Leads stages markClosed .noticed fun _ y ↦ y = .noticed := by
  refine leads_ask ⟨_, _, .done .noticed trivial⟩ (fun isDone y hstep ↦ ?_) fun e y hstep ↦ ?_
  · obtain rfl : y = .noticed := by
      cases hstep with
      | done | notDone => rfl
      | cleanUp _ _ _ _ h | register _ _ _ _ h => cases h
    cases isDone with
    | true => exact sat_pure rfl
    | false =>
      refine sat_perform ⟨_, _, .setResult (.ok ())⟩ fun a y hstep ↦ ?_
      cases hstep with
      | setResult => rfl
      | cleanUp _ _ _ _ h | register _ _ _ _ h => cases h
  · cases hstep with
    | cleanUp _ _ _ _ h | register _ _ _ _ h => cases h

theorem leads_onPageClosed (hx : x.Looks) : Leads stages onPageClosed x fun _ y ↦ y.Looks := by
  refine leads_bind (leads_isContextClosed hx) ?_ (by rintro e y (⟨⟨⟩, -⟩ | ⟨⟨⟩, -⟩))
  rintro closed y (⟨⟨⟩, rfl⟩ | ⟨⟨⟩, rfl⟩)
  · exact sat_pure hx
  · exact leads_markClosed.mono fun _ _ y hy ↦ hy ▸ trivial

/-- Who registers a listener raises nothing but exceptions. -/
theorem leads_register {q : WindowRequest} (hq : Registers q) (hx : x.Looks) :
    Leads stages (request q) x fun o y ↦ (∀ e, o = .error e → e.isException = true) ∧ y = x := by
  refine sat_perform ⟨.error invalidState, _, .register x q _ hx hq ?_⟩ fun a y hstep ↦ ?_
  · rintro e ⟨⟩
    rfl
  · cases hstep with
    | register _ _ _ _ _ ha => exact ⟨ha, rfl⟩
    | browser => exact hx.elim
    | cleanUp _ _ _ hpast => exact (hx.not_isCall hpast.isCall).elim
    | _ => cases hq

/-- … and with those suppressed nothing. -/
theorem leads_suppressed {body : WindowCall Unit}
    (h : Leads stages body x fun o y ↦ (∀ e, o = .error e → e.isException = true) ∧ y = x) :
    Leads stages (suppressed body) x fun o y ↦ o = .ok () ∧ y = x := by
  refine leads_attempt_bind h ?_
  rintro (e | ⟨⟩) y ⟨he, rfl⟩
  · dsimp only
    rw [if_pos (he e rfl)]
    exact sat_pure ⟨rfl, rfl⟩
  · exact sat_pure ⟨rfl, rfl⟩

theorem leads_watchPage (page : PageId) (hx : x.Looks) :
    Leads stages (watchPage page) x fun o y ↦ o = .ok () ∧ y = x :=
  leads_suppressed (leads_register (.onPageClose page) hx)

theorem leads_watchPages (pages : List PageId) (hx : x.Looks) :
    Leads stages (pages.forM watchPage) x fun o y ↦ o = .ok () ∧ y = x := by
  induction pages with
  | nil => exact sat_pure ⟨rfl, rfl⟩
  | cons page pages ih =>
    refine leads_bind (f := fun _ ↦ pages.forM watchPage) (leads_watchPage page hx) ?_
      (by rintro e y ⟨⟨⟩, -⟩)
    rintro - y ⟨-, rfl⟩
    exact ih

theorem leads_openPages (hx : x.Looks) : Leads stages openPages x fun o y ↦
    y.Looks ∧ ∀ e, o = .error e → y = .noticed := by
  refine leads_attempt_bind (R := fun o y ↦ y.Looks ∧ ∀ e, o = .error e → y = .noticed)
    (sat_perform ⟨_, _, .noPages x hx⟩ fun a y hstep ↦ ?_) ?_
  · cases hstep with
    | pages => exact ⟨hx, nofun⟩
    | noPages => exact ⟨trivial, nofun⟩
    | pagesFail => exact ⟨trivial, fun _ _ ↦ rfl⟩
    | browser _ _ h | cleanUp _ _ _ _ h | register _ _ _ _ h => cases h
  rintro o y ⟨hy, he⟩
  split
  · exact sat_pure ⟨hy, nofun⟩
  · exact sat_pure ⟨hy, nofun⟩
  · rename_i e _
    exact sat_throw ⟨hy, fun _ _ ↦ he e rfl⟩

/-- A part of the task for the job has ended: the task goes on as `R` says, or is to be done. -/
def Part (job : WindowJob) (R : Stage → Prop) (o : Except Exn (Option Unit)) (y : Stage) : Prop :=
  (o = .ok none ∧ R y) ∨ (o ≠ .ok none ∧ stages.pre y (.finish job))

theorem leads_pause (hx : x.Looks) : Leads stages pause x (Part .close Stage.Looks) := by
  refine leads_attempt_bind (R := fun o y ↦ (o = .ok () ∧ y = x) ∨
    (∃ message, o = .error (.timeoutError message) ∧ y = x) ∨
    (o = .error taskCancelled ∧ y = .told .close))
    (sat_perform ⟨_, _, .woken x closePollIntervalMs hx⟩ fun a y hstep ↦ ?_) ?_
  · cases hstep with
    | woken => exact .inl ⟨rfl, rfl⟩
    | timedOut _ _ message => exact .inr (.inl ⟨message, rfl, rfl⟩)
    | pauseTold => exact .inr (.inr ⟨rfl, rfl⟩)
    | browser _ _ h | cleanUp _ _ _ _ h | register _ _ _ _ h => cases h
  rintro o y (⟨rfl, rfl⟩ | ⟨message, rfl, rfl⟩ | ⟨rfl, rfl⟩)
  · exact sat_pure (.inl ⟨rfl, hx⟩)
  · exact sat_pure (.inl ⟨rfl, hx⟩)
  · exact sat_throw (.inr ⟨nofun, _, _, .finishTold .close⟩)

theorem leads_pollClosed (hx : x.Looks) : Leads stages pollClosed x (Part .close Stage.Looks) := by
  refine leads_ask ⟨_, _, .done x hx⟩ (fun isDone y hstep ↦ ?_) fun e y hstep ↦ ?_
  · cases hstep with
    | done => exact sat_pure (.inr ⟨nofun, _, _, .finishNoticed⟩)
    | notDone =>
      refine leads_bind (leads_isContextClosed hx) ?_ (by rintro e y (⟨⟨⟩, -⟩ | ⟨⟨⟩, -⟩))
      rintro closed y (⟨⟨⟩, rfl⟩ | ⟨⟨⟩, rfl⟩)
      · exact leads_pause hx
      · refine leads_bind leads_markClosed (fun _ y hy ↦ ?_) fun e y hy ↦ ?_
        · subst hy
          exact sat_pure (.inr ⟨nofun, _, _, .finishNoticed⟩)
        · subst hy
          exact .inr ⟨nofun, _, _, .finishNoticed⟩
    | browser _ _ h | cleanUp _ _ _ _ h | register _ _ _ _ h => cases h
  · cases hstep with
    | browser _ _ h | cleanUp _ _ _ _ h | register _ _ _ _ h => cases h

/-- **Round by round.** -/
theorem leads_rounds {job : WindowJob} {R : Stage → Prop} {body : WindowCall (Option Unit)}
    (hbody : ∀ x, R x → Leads stages body x (Part job R)) (n : ℕ) {x : Stage} (hx : R x) :
    Leads stages (rounds body n) x (Part job R) := by
  induction n generalizing x with
  | zero => exact sat_pure (.inl ⟨rfl, hx⟩)
  | succ n ih =>
    refine leads_bind (hbody x hx) (fun o y hy ↦ ?_) fun e y hy ↦ ?_
    · cases o with
      | none => exact ih (hy.resolve_right fun h ↦ h.1 rfl).2
      | some b => exact sat_pure (.inr ⟨nofun, (hy.resolve_left nofun).2⟩)
    · exact .inr ⟨nofun, (hy.resolve_left nofun).2⟩

theorem leads_waitUntilClosed (n : ℕ) :
    Leads stages (waitUntilClosed n) .watching (Part .close Stage.Looks) := by
  refine leads_bind (leads_isContextClosed trivial) ?_ (by rintro e y (⟨⟨⟩, -⟩ | ⟨⟨⟩, -⟩))
  rintro closed y (⟨⟨⟩, rfl⟩ | ⟨⟨⟩, rfl⟩)
  · refine leads_ask ⟨_, _, .createFuture .watching trivial⟩ (fun _ y hstep ↦ ?_) fun e y hstep ↦ ?_
    · obtain rfl : y = .watching := by
        cases hstep with
        | createFuture => rfl
        | cleanUp _ _ _ _ h | register _ _ _ _ h => cases h
      refine leads_bind (leads_suppressed (leads_register .onClose trivial)) ?_
        (by rintro e y ⟨⟨⟩, -⟩)
      rintro - y ⟨-, rfl⟩
      refine leads_bind (leads_suppressed (leads_register .onPage trivial)) ?_
        (by rintro e y ⟨⟨⟩, -⟩)
      rintro - y ⟨-, rfl⟩
      refine leads_bind (leads_openPages trivial) (fun pages y hy ↦ ?_) fun e y hy ↦ ?_
      · refine leads_bind (leads_watchPages pages hy.1) ?_ (by rintro e y ⟨⟨⟩, -⟩)
        rintro - y' ⟨-, rfl⟩
        exact leads_rounds (fun _ ↦ leads_pollClosed) n hy.1
      · rw [hy.2 e rfl]
        exact .inr ⟨nofun, _, _, .finishNoticed⟩
    · cases hstep with
      | cleanUp _ _ _ _ h | register _ _ _ _ h => cases h
  · exact sat_pure (.inr ⟨nofun, _, _, .finishNoticed⟩)

/-! ## Until somebody has logged in -/

/-- What an exception of Playwright or a cancellation leads to. -/
def Fails (o : Except Exn Bool) (y : Stage) : Prop :=
  ∃ e : Exn, o = .error e ∧
    ((e.isException = true ∧ y = .polling) ∨ (e.isException = false ∧ y = .told .login))

theorem isAuthenticatedViewPresent_eq : isAuthenticatedViewPresent = (do
    if 0 < (← request (.page (.count PageReader.authenticatedViewSelector))) then
      request (.page (.isVisible PageReader.authenticatedViewSelector))
    else pure false) := by
  refine congrArg (Coro.ask _) (funext fun a ↦ ?_)
  cases a with
  | error e => rfl
  | ok n => exact apply_ite (Coro.handle fun q ↦ request (.page q)) (0 < n) _ _

/-- A call of Playwright may fail. -/
theorem fails_of_step {q : PageRequest} {e : Exn} {y : Stage}
    (h : Stage.Step .polling (.page q) (.error e) y) : Fails (.error e) y := by
  cases h with
  | pageFails _ _ _ he => exact ⟨e, rfl, .inl ⟨he, rfl⟩⟩
  | pageTold _ _ _ he => exact ⟨e, rfl, .inr ⟨he, rfl⟩⟩
  | cleanUp _ _ _ _ h | register _ _ _ _ h => cases h

theorem leads_isAuthenticatedViewPresent :
    Leads stages isAuthenticatedViewPresent .polling fun o y ↦
      (o = .ok true ∧ y = .seen) ∨ (o = .ok false ∧ y = .polling) ∨ Fails o y := by
  rw [isAuthenticatedViewPresent_eq]
  refine leads_ask ⟨_, _, .count _ 0⟩ (fun n y hstep ↦ ?_) fun e y hstep ↦
    .inr (.inr (fails_of_step hstep))
  obtain rfl : y = .polling := by
    cases hstep with
    | count => rfl
    | cleanUp _ _ _ _ h | register _ _ _ _ h => cases h
  split
  · refine sat_perform ⟨_, _, .visible⟩ fun a y hstep ↦ ?_
    cases a with
    | error e => exact .inr (.inr (fails_of_step hstep))
    | ok visible =>
      cases hstep with
      | visible => exact .inl ⟨rfl, rfl⟩
      | hidden => exact .inr (.inl ⟨rfl, rfl⟩)
      | cleanUp _ _ _ _ h | register _ _ _ _ h => cases h
  · exact sat_pure (.inr (.inl ⟨rfl, rfl⟩))

theorem leads_pollLogin : Leads stages pollLogin .polling (Part .login (· = .polling)) := by
  refine leads_bind (R := fun o y ↦ (o = .ok true ∧ y = .seen) ∨ (o = .ok false ∧ y = .polling) ∨
    ((∃ e, o = .error e) ∧ y = .told .login))
    (leads_attempt_bind leads_isAuthenticatedViewPresent ?_) ?_ ?_
  · rintro o y (⟨rfl, rfl⟩ | ⟨rfl, rfl⟩ | ⟨e, rfl, ⟨he, rfl⟩ | ⟨he, rfl⟩⟩)
    · exact sat_pure (.inl ⟨rfl, rfl⟩)
    · exact sat_pure (.inr (.inl ⟨rfl, rfl⟩))
    · dsimp only
      rw [if_pos he]
      exact sat_pure (.inr (.inl ⟨rfl, rfl⟩))
    · dsimp only
      rw [he]
      exact sat_throw (.inr (.inr ⟨⟨e, rfl⟩, rfl⟩))
  · rintro present y (⟨⟨⟩, rfl⟩ | ⟨⟨⟩, rfl⟩ | ⟨⟨e, ⟨⟩⟩, -⟩)
    · exact sat_pure (.inr ⟨nofun, _, _, .finishSeen⟩)
    · refine leads_ask ⟨_, _, .sleep loginPollIntervalMs⟩ (fun _ y hstep ↦ ?_) fun e y hstep ↦ ?_
      · cases hstep with
        | sleep => exact sat_pure (.inl ⟨rfl, rfl⟩)
        | cleanUp _ _ _ _ h | register _ _ _ _ h => cases h
      · cases hstep with
        | sleepTold => exact .inr ⟨nofun, _, _, .finishTold .login⟩
        | cleanUp _ _ _ _ h | register _ _ _ _ h => cases h
  · rintro e y (⟨⟨⟩, -⟩ | ⟨⟨⟩, -⟩ | ⟨-, rfl⟩)
    exact .inr ⟨nofun, _, _, .finishTold .login⟩

theorem leads_pollForLogin (n : ℕ) :
    Leads stages (pollForLogin n) .polling (Part .login (· = .polling)) :=
  leads_rounds (fun _ hx ↦ hx ▸ leads_pollLogin) n rfl

/-! ## Whichever comes first -/

theorem cleansUp_cancelTask (job : WindowJob) : Only CleansUp (cancelTask job) :=
  only_bind (only_perform (.taskDone job)) fun isDone ↦ by
    cases isDone with
    | true => exact only_pure ()
    | false => exact only_perform (.cancel job)

theorem cleansUp_awaitTask (job : WindowJob) : Only CleansUp (awaitTask job) := by
  refine only_bind (only_attempt (only_perform (.awaitTask job))) fun o ↦ ?_
  split
  · exact only_pure ()
  · exact only_pure ()
  · split
    · exact only_pure ()
    · exact only_throw _

theorem cleansUp_cleanUp : Only CleansUp cleanUp :=
  only_bind (cleansUp_cancelTask .login) fun _ ↦ only_bind (cleansUp_cancelTask .close) fun _ ↦
    only_bind (cleansUp_awaitTask .login) fun _ ↦ cleansUp_awaitTask .close

theorem leads_cleanUp (hx : x.IsPast) : Leads stages cleanUp x fun _ y ↦ y = x := by
  refine (cleansUp_cleanUp.sat (I := (· = x)) ?_ ?_ rfl).mono fun _ _ _ h ↦ h.1
  · rintro _ q hq rfl
    exact ⟨.error taskCancelled, _, .cleanUp _ q _ hx hq⟩
  · rintro _ q a y hq rfl hstep
    cases hq <;> cases hstep with
    | cleanUp => rfl
    | browser _ _ h | register _ _ _ _ h => cases h

theorem leads_createTask (job : WindowJob) :
    Leads stages (request (.createTask job)) .calling fun o y ↦ o = .ok () ∧ y = .calling := by
  refine sat_perform ⟨_, _, .createTask job⟩ fun a y hstep ↦ ?_
  cases hstep with
  | createTask => exact ⟨rfl, rfl⟩
  | cleanUp _ _ _ _ h | register _ _ _ _ h => cases h

theorem leads_waitFirst : Leads stages (request .waitFirst) .calling fun o y ↦
    y.IsPast ∧ ∀ loggedIn, o = .ok loggedIn → y = .answered loggedIn := by
  refine sat_perform ⟨_, _, .answer true⟩ fun a y hstep ↦ ?_
  cases hstep with
  | answer loggedIn => exact ⟨trivial, fun _ h ↦ congrArg _ (Except.ok.inj h)⟩
  | abandon e => exact ⟨trivial, nofun⟩
  | cleanUp _ _ _ _ h | register _ _ _ _ h => cases h

theorem leads_waitForLoginOrClose : Leads stages waitForLoginOrClose .calling fun o y ↦
    ∀ loggedIn, o = .ok loggedIn → y = .answered loggedIn := by
  refine leads_bind (leads_createTask .login) ?_ (by rintro e y ⟨⟨⟩, -⟩)
  rintro - y ⟨-, rfl⟩
  refine leads_bind (leads_createTask .close) ?_ (by rintro e y ⟨⟨⟩, -⟩)
  rintro - y ⟨-, rfl⟩
  refine leads_bind (R := fun o y ↦ ∀ p, o = .ok p → y = .answered p.1)
    (sat_tryFinally leads_waitFirst fun _ o y ⟨hy, ho⟩ ↦ ?_) (fun p y hy ↦ ?_) nofun
  · refine (leads_cleanUp hy).mono ?_
    rintro _ o' _ rfl
    cases o' with
    | error e => exact nofun
    | ok v =>
      intro p hp
      cases o with
      | error e => cases hp
      | ok loggedIn =>
        cases hp
        exact ho loggedIn rfl
  · exact sat_pure fun loggedIn h ↦ Except.ok.inj h ▸ hy p rfl

/-! ## All programs -/

/-- What a program returns has been answered. -/
def Returns (o : Except Exn (Option Bool)) (y : Stage) : Prop :=
  ∀ loggedIn, o = .ok (some loggedIn) → y = .answered loggedIn

theorem returns_error (e : Exn) (y : Stage) : Returns (.error e) y := by rintro loggedIn ⟨⟩

theorem returns_none (y : Stage) : Returns (.ok none) y := by rintro loggedIn ⟨⟩

theorem leads_waitCall : Leads stages waitCall .idle Returns := by
  refine leads_ask ⟨_, _, .call⟩ (fun _ y hstep ↦ ?_) fun e y _ ↦ returns_error e y
  cases hstep with
  | call =>
    refine leads_bind leads_waitForLoginOrClose (fun loggedIn y hy ↦ ?_)
      fun e y _ ↦ returns_error e y
    exact sat_pure fun _ h ↦ Option.some.inj (Except.ok.inj h) ▸ hy loggedIn rfl
  | browser _ _ h | cleanUp _ _ _ _ h | register _ _ _ _ h => cases h

theorem leads_finish {job : WindowJob} (hpre : stages.pre x (.finish job))
    {c : WindowCall (Option Bool)} (hc : ∀ y, Leads stages c y Returns) :
    Leads stages (request (.finish job) >>= fun _ ↦ c) x Returns :=
  leads_ask hpre (fun _ y _ ↦ hc y) fun e y _ ↦ returns_error e y

/-- What a task does leads it to where it may be done. -/
theorem leads_untilDone {job : WindowJob} {R : Stage → Prop} {run : WindowCall (Option Unit)}
    (h : Leads stages run x (Part job R)) : Leads stages (untilDone job run) x Returns := by
  refine leads_attempt_bind h fun o y hy ↦ ?_
  obtain e | (- | ⟨⟩) := o
  · exact leads_finish (hy.resolve_left nofun).2 fun y ↦ sat_throw (returns_error e y)
  · exact sat_pure (returns_none y)
  · exact leads_finish (hy.resolve_left nofun).2 fun y ↦ sat_pure (returns_none y)

theorem leads_jobBody (n : ℕ) (job : WindowJob) :
    Leads stages (request (.begin job) >>= fun _ ↦ jobBody n job) .idle
      (Part job fun _ ↦ True) := by
  refine leads_ask ⟨_, _, .beginTold job taskCancelled⟩ (fun _ y hstep ↦ ?_) fun e y hstep ↦ ?_
  · cases hstep with
    | beginLogin =>
      exact (leads_pollForLogin n).mono fun _ _ _ h ↦ h.imp_left (.imp_right fun _ ↦ trivial)
    | beginClose =>
      exact (leads_waitUntilClosed n).mono fun _ _ _ h ↦ h.imp_left (.imp_right fun _ ↦ trivial)
    | browser _ _ h | cleanUp _ _ _ _ h | register _ _ _ _ h => cases h
  · cases hstep with
    | beginTold => exact .inr ⟨nofun, _, _, .finishTold job⟩
    | browser _ _ h | cleanUp _ _ _ _ h | register _ _ _ _ h => cases h

theorem leads_andNothing {α : Type} {c : WindowCall α} {R : Except Exn α → Stage → Prop}
    (h : Leads stages c x R) : Leads stages (andNothing c) x Returns :=
  leads_bind h (fun _ y _ ↦ sat_pure (returns_none y)) fun e y _ ↦ returns_error e y

/-- **Every program meets the protocol.** -/
theorem leads_isWindowProgram {n : ℕ} {c : WindowCall (Option Bool)} (h : IsWindowProgram n c) :
    Leads stages c .idle Returns := by
  cases h with
  | wait => exact leads_waitCall
  | task job => exact leads_untilDone (leads_jobBody n job)
  | browser h =>
    exact leads_andNothing (R := fun _ _ ↦ True)
      (sat_perform ⟨.error taskCancelled, _, .browser _ _ h⟩ fun _ _ _ ↦ trivial)
  | pageDelivered page =>
    refine leads_andNothing (R := fun _ _ ↦ True)
      (leads_ask ⟨_, _, .deliverPage page⟩ (fun _ y hstep ↦ ?_) fun _ _ _ ↦ trivial)
    cases hstep with
    | deliverPage =>
      exact (leads_watchPage (x := .handling) page trivial).mono fun _ _ _ _ ↦ trivial
    | browser _ _ h | cleanUp _ _ _ _ h | register _ _ _ _ h => cases h
  | pageCloseDelivered page =>
    refine leads_andNothing (R := fun _ _ ↦ True)
      (leads_ask ⟨_, _, .deliverPageClose page⟩ (fun _ y hstep ↦ ?_) fun _ _ _ ↦ trivial)
    cases hstep with
    | deliverPageClose =>
      exact (leads_onPageClosed (x := .handling) trivial).mono fun _ _ _ _ ↦ trivial
    | browser _ _ h | cleanUp _ _ _ _ h | register _ _ _ _ h => cases h
  | closeDelivered =>
    refine leads_andNothing (R := fun _ _ ↦ True)
      (leads_ask ⟨_, _, .deliverClose⟩ (fun _ y hstep ↦ ?_) fun _ _ _ ↦ trivial)
    cases hstep with
    | deliverClose => exact leads_markClosed.mono fun _ _ _ _ ↦ trivial
    | browser _ _ h | cleanUp _ _ _ _ h | register _ _ _ _ h => cases h

end

end LoginWindow

end RmaPortal
