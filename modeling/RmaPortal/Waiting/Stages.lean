import RmaPortal.Infrastructure.Portal.WindowWait

/-!
# The stages of a wait

Where the programs are that run while the login window is open.  `Stage.Step` says which request
takes a program from which stage to which, and `WindowInv` how the stages hang together with what
the programs share: a task is cancelled only by a call that has been answered, a login is done
only if it has seen the view or was cancelled, and nobody finds the window closed
(`Stage.noticed`) as long as it is alive.

What runs is the call of `_wait_for_login_or_close`, the task that polls for the login, the task
that waits until the window is closed, and the callbacks of the browser, whenever a page is
closed, a page is opened or the context emits `close`.  They share very little: the future
`closed`, and which of the two tasks are done or cancelled.  All the rest is the browser, which
answers as it likes and closes whenever it likes.

## What is here

* `Alive` — a page is open, the context has not emitted `close`, and it can be inspected.
* `Stage`, `Stage.Step`, `stages` — the typestate: where a program is, and a request is allowed in
  a stage if some answer to it is foreseen there.
* `WindowInv` — the invariant.  Its parameter says how the window always is; for the claim about a
  window that stays open it is `Alive`, and for the other ones it says nothing.
* `Same`, `Marks`, `SetsUp` — most requests leave alone what the invariant is about; these are the
  few that do not.
* `WindowInv.stage`, `WindowInv.shared`, `WindowInv.works`, `WindowInv.call`, `WindowInv.answer` —
  the ways in which something can change, and `WindowInv.step`, the step lemma, which has one case
  for each way through a stage.
* `exists_step` — a request that is allowed gets an answer that is foreseen, whatever the browser
  says.
* `protocol` — all of this as a `Protocol`, so that a run of the pool needs no induction of its
  own.
* `viewSeen_mem_of_path` — a login gets to the stage `seen` only by seeing the authenticated view.
-/

set_option autoImplicit false

open Coroutine

namespace RmaPortal

namespace LoginWindow

/-- A page is open, the context has not emitted `close`, and it can be inspected. -/
def Alive (s : LoginWindow) : Prop :=
  s.pages ≠ [] ∧ s.emitted = false ∧ s.inspectable = true

/-- Where a program is. -/
inductive Stage
  /-- It has not done anything, or nothing but what happens in the browser. -/
  | idle
  /-- `_wait_for_login_or_close` has been called, and waits. -/
  | calling
  /-- The wait is over; whether the login was done. -/
  | answered (loggedIn : Bool)
  /-- The call was cancelled. -/
  | abandoned
  /-- A login has begun. -/
  | polling
  /-- It has seen the authenticated view. -/
  | seen
  /-- The task that waits for the window to be closed has begun. -/
  | watching
  /-- A listener has been told of a page. -/
  | handling
  /-- The program has found out that the window is closed. -/
  | noticed
  /-- The task for the job was told that it is cancelled. -/
  | told (job : WindowJob)

namespace Stage

/-- It is the call of `_wait_for_login_or_close`. -/
def IsCall : Stage → Prop
  | calling | answered _ | abandoned => True
  | _ => False

/-- … and does not wait any more. -/
def IsPast : Stage → Prop
  | answered _ | abandoned => True
  | _ => False

/-- It looks after the window. -/
def Looks : Stage → Prop
  | watching | handling | noticed => True
  | _ => False

theorem IsPast.isCall {x : Stage} (h : x.IsPast) : x.IsCall := by
  cases x <;> first | exact h.elim | trivial

theorem Looks.not_isCall {x : Stage} (h : x.Looks) : ¬x.IsCall := by
  cases x <;> first | exact h.elim | exact id

theorem Looks.ne_seen {x : Stage} (h : x.Looks) : x ≠ seen := by
  rintro rfl
  exact h

end Stage

/-- What the `finally` block asks for. -/
inductive CleansUp : WindowRequest → Prop
  | taskDone (job : WindowJob) : CleansUp (.taskDone job)
  | cancel (job : WindowJob) : CleansUp (.cancel job)
  | awaitTask (job : WindowJob) : CleansUp (.awaitTask job)

/-- What a login asks the page for. -/
inductive Probes : PageRequest → Prop
  | count (selector : String) : Probes (.count selector)
  | isVisible : Probes (.isVisible PageReader.authenticatedViewSelector)

/-- What is done in order to hear of events. -/
inductive Registers : WindowRequest → Prop
  | onClose : Registers .onClose
  | onPage : Registers .onPage
  | onPageClose (page : PageId) : Registers (.onPageClose page)

/-- **The way of a program through its stages.** -/
inductive Stage.Step : Stage → (q : WindowRequest) → Except Exn q.Val → Stage → Prop
  | browser (q : WindowRequest) (a : Except Exn q.Val) (h : HappensInBrowser q) : Step idle q a idle
  | call : Step idle .called (.ok ()) calling
  | beginLogin : Step idle (.begin .login) (.ok ()) polling
  | beginClose : Step idle (.begin .close) (.ok ()) watching
  | beginTold (job : WindowJob) (e : Exn) : Step idle (.begin job) (.error e) (told job)
  | deliverPage (page : PageId) : Step idle (.deliverPage page) (.ok ()) handling
  | deliverPageClose (page : PageId) : Step idle (.deliverPageClose page) (.ok ()) handling
  | deliverClose : Step idle .deliverClose (.ok ()) noticed
  | createTask (job : WindowJob) : Step calling (.createTask job) (.ok ()) calling
  | answer (loggedIn : Bool) : Step calling .waitFirst (.ok loggedIn) (answered loggedIn)
  | abandon (e : Exn) : Step calling .waitFirst (.error e) abandoned
  | cleanUp (x : Stage) (q : WindowRequest) (a : Except Exn q.Val) (hx : x.IsPast)
      (hq : CleansUp q) : Step x q a x
  | count (selector : String) (k : ℕ) : Step polling (.page (.count selector)) (.ok k) polling
  | visible :
      Step polling (.page (.isVisible PageReader.authenticatedViewSelector)) (.ok true) seen
  | hidden :
      Step polling (.page (.isVisible PageReader.authenticatedViewSelector)) (.ok false) polling
  | pageFails (q : PageRequest) (e : Exn) (hq : Probes q) (he : e.isException = true) :
      Step polling (.page q) (.error e) polling
  | pageTold (q : PageRequest) (e : Exn) (hq : Probes q) (he : e.isException = false) :
      Step polling (.page q) (.error e) (told .login)
  | sleep (milliseconds : ℕ) : Step polling (.sleep milliseconds) (.ok ()) polling
  | sleepTold (milliseconds : ℕ) (e : Exn) :
      Step polling (.sleep milliseconds) (.error e) (told .login)
  | createFuture (x : Stage) (hx : x.Looks) : Step x .createFuture (.ok ()) x
  | register (x : Stage) (q : WindowRequest) (a : Except Exn q.Val) (hx : x.Looks)
      (hq : Registers q) (ha : ∀ e, a = .error e → e.isException = true) : Step x q a x
  | pages (x : Stage) (pages : List PageId) (hx : x.Looks) (hpages : pages ≠ []) :
      Step x .pages (.ok pages) x
  | noPages (x : Stage) (hx : x.Looks) : Step x .pages (.ok []) noticed
  | pagesFail (x : Stage) (e : Exn) (hx : x.Looks) (he : e.isException = true) :
      Step x .pages (.error e) noticed
  | notDone (x : Stage) (hx : x.Looks) : Step x .futureDone (.ok false) x
  | done (x : Stage) (hx : x.Looks) : Step x .futureDone (.ok true) noticed
  | woken (x : Stage) (milliseconds : ℕ) (hx : x.Looks) :
      Step x (.awaitFuture milliseconds) (.ok ()) x
  | timedOut (x : Stage) (milliseconds : ℕ) (message : String) (hx : x.Looks) :
      Step x (.awaitFuture milliseconds) (.error (.timeoutError message)) x
  | pauseTold (x : Stage) (milliseconds : ℕ) (hx : x.Looks) :
      Step x (.awaitFuture milliseconds) (.error taskCancelled) (told .close)
  | setResult (a : Except Exn Unit) : Step noticed .setResult a noticed
  | finishSeen : Step seen (.finish .login) (.ok ()) seen
  | finishNoticed : Step noticed (.finish .close) (.ok ()) noticed
  | finishTold (job : WindowJob) : Step (told job) (.finish job) (.ok ()) (told job)

/-- The stages as a typestate: a request is allowed if some answer is foreseen. -/
def stages : Spec WindowRequest.Val Exn Stage where
  pre x q := ∃ a y, Stage.Step x q a y
  step := Stage.Step

/-! ## The invariant -/

/-- Something has been set up in order to wait. -/
def SetUp (s : LoginWindow) : Prop :=
  (∃ job, s.created job = true) ∨ s.listensClose = true ∨ s.listensPage = true ∨
    ∃ page, s.watched page = true

/-- Where the window is always as `A` says, it is alive from the call of `_wait_for_login_or_close`
on. -/
def KeepsAlive (A : LoginWindow → Prop) : Prop := ∀ s, A s → s.called = true → s.Alive

/-- **How the stages hang together with what the programs share**, where the window is always as `A`
says. -/
structure WindowInv (A : LoginWindow → Prop) (s : LoginWindow) (θ : ℕ → Stage) : Prop where
  /-- `_wait_for_login_or_close` has been called if there is a call of it, … -/
  called : ∀ i, (θ i).IsCall → s.called = true
  /-- … and there is one call at most. -/
  unique : ∀ i j, (θ i).IsCall → (θ j).IsCall → i = j
  /-- Nothing is set up … -/
  setUp : s.SetUp → s.called = true
  /-- … and nobody looks after the window before the call. -/
  looks : ∀ i, (θ i).Looks → s.called = true
  /-- Who cancels a task does not wait any more. -/
  cancelled : ∀ job, s.cancelled job = true → ∃ i, (θ i).IsPast
  /-- A task that is told so has been cancelled. -/
  told : ∀ i job, θ i = .told job → s.cancelled job = true
  /-- A login that is done has been cancelled or has seen the view. -/
  login : s.finished .login = true → s.cancelled .login = true ∨ ∃ i, θ i = .seen
  /-- Nobody finds out that a window is closed that is alive. -/
  noticed : ∀ i, θ i = .noticed → ¬KeepsAlive A
  /-- As long as it is alive `closed` is not done, and neither is the task that waits for it. -/
  close : KeepsAlive A →
    s.closed = false ∧ (s.finished .close = true → s.cancelled .close = true)
  /-- If the login was done when the wait was over, the view has been seen. -/
  loggedIn : ∀ i, θ i = .answered true → ∃ j, θ j = .seen
  /-- Otherwise the window has not been alive all the time. -/
  notLoggedIn : ∀ i, θ i = .answered false → ¬KeepsAlive A

section

variable {A : LoginWindow → Prop} {s s' : LoginWindow} {θ : ℕ → Stage} {i : ℕ} {x y : Stage}
  {q : WindowRequest} {a b : Except Exn q.Val}

theorem windowInv_opened (pages : ℕ) (emitted inspectable visible : Bool) :
    WindowInv A (opened pages emitted inspectable visible) fun _ ↦ .idle where
  called _ h := h.elim
  unique _ _ h := h.elim
  setUp h := by rcases h with ⟨job, h⟩ | h | h | ⟨page, h⟩ <;> cases h
  looks _ h := h.elim
  cancelled _ h := by cases h
  told _ _ h := by cases h
  login h := by cases h
  noticed _ h := by cases h
  close _ := ⟨rfl, fun h ↦ by cases h⟩
  loggedIn _ h := by cases h
  notLoggedIn _ h := by cases h

/-- Nobody has been cancelled while the call waits. -/
theorem WindowInv.not_cancelled (h : WindowInv A s θ) (hi : θ i = .calling) (job : WindowJob) :
    s.cancelled job = false := by
  by_contra hne
  obtain ⟨j, hj⟩ := h.cancelled job (by simpa using hne)
  have hcall : (θ i).IsCall := by rw [hi]; trivial
  rw [h.unique j i hj.isCall hcall, hi] at hj
  exact hj

/-! ### What a request leaves alone -/

/-- The states agree on who has been called, cancelled or is done, and on `closed`. -/
structure Same (s s' : LoginWindow) : Prop where
  called : s'.called = s.called
  cancelled : s'.cancelled = s.cancelled
  finished : s'.finished = s.finished
  closed : s'.closed = s.closed

/-- Requests that say that somebody has been called, cancelled or is done, or that change
`closed`. -/
inductive Marks : WindowRequest → Prop
  | called : Marks .called
  | cancel (job : WindowJob) : Marks (.cancel job)
  | finish (job : WindowJob) : Marks (.finish job)
  | createFuture : Marks .createFuture
  | setResult : Marks .setResult

/-- Requests that set something up. -/
inductive SetsUp : WindowRequest → Prop
  | createTask (job : WindowJob) : SetsUp (.createTask job)
  | onClose : SetsUp .onClose
  | onPage : SetsUp .onPage
  | onPageClose (page : PageId) : SetsUp (.onPageClose page)

theorem same_of_serve (h : serve q b s = some (a, s')) (hq : ¬Marks q) : Same s s' := by
  unfold serve at h
  split at h
  all_goals
    first
    | exact (hq (by constructor)).elim
    | (try split at h) <;> cases h <;> exact ⟨rfl, rfl, rfl, rfl⟩

theorem setUp_of_serve (h : serve q b s = some (a, s')) (hq : ¬SetsUp q) (hs : s'.SetUp) :
    s.SetUp := by
  unfold serve at h
  split at h
  all_goals
    first
    | exact (hq (by constructor)).elim
    | (try split at h) <;> cases h <;> exact hs

/-! ### What keeps the invariant -/

/-- A program gets to another stage. -/
theorem WindowInv.stage (h : WindowInv A s θ) (hcall : y.IsCall → (θ i).IsCall)
    (hpast : (θ i).IsPast → y.IsPast) (hseen : θ i = .seen → y = .seen)
    (htold : ∀ job, y = .told job → s.cancelled job = true) (hlooks : y.Looks → s.called = true)
    (hnoticed : y = .noticed → ¬KeepsAlive A) (htrue : y = .answered true → ∃ j, θ j = .seen)
    (hfalse : y = .answered false → ¬KeepsAlive A) :
    WindowInv A s (Function.update θ i y) := by
  have hall : ∀ P : ℕ → Stage → Prop, P i y → (∀ j, P j (θ j)) →
      ∀ j, P j (Function.update θ i y j) := fun P hi hj ↦
    (Function.forall_update_iff θ P).mpr ⟨hi, fun j _ ↦ hj j⟩
  have hcalls := hall (fun j x ↦ x.IsCall → (θ j).IsCall) hcall fun _ ↦ id
  have hpasts := hall (fun j x ↦ (θ j).IsPast → x.IsPast) hpast fun _ ↦ id
  have hsees : (∃ j, θ j = .seen) → ∃ j, Function.update θ i y j = .seen := fun ⟨j, hj⟩ ↦
    ⟨j, hall (fun j x ↦ θ j = .seen → x = .seen) hseen (fun _ ↦ id) j hj⟩
  constructor
  case called => exact fun j hj ↦ h.called j (hcalls j hj)
  case unique => exact fun j k hj hk ↦ h.unique j k (hcalls j hj) (hcalls k hk)
  case setUp => exact h.setUp
  case looks => exact hall (fun _ x ↦ x.Looks → s.called = true) hlooks h.looks
  case cancelled =>
    exact fun job hjob ↦ (h.cancelled job hjob).imp fun j hj ↦ hpasts j hj
  case told =>
    exact hall (fun _ x ↦ ∀ job, x = .told job → s.cancelled job = true) htold h.told
  case login => exact fun hl ↦ (h.login hl).imp_right hsees
  case noticed => exact hall (fun _ x ↦ x = .noticed → ¬KeepsAlive A) hnoticed h.noticed
  case close => exact h.close
  case loggedIn =>
    exact fun j hj ↦ hsees
      (hall (fun _ x ↦ x = .answered true → ∃ j, θ j = .seen) htrue h.loggedIn j hj)
  case notLoggedIn =>
    exact hall (fun _ x ↦ x = .answered false → ¬KeepsAlive A) hfalse h.notLoggedIn

/-- What the programs share changes. -/
theorem WindowInv.shared (h : WindowInv A s θ) (hcalled : s'.called = s.called)
    (hsetUp : s'.SetUp → s.called = true)
    (hcancelled : ∀ job, s'.cancelled job = true → s.cancelled job = true ∨ ∃ i, (θ i).IsPast)
    (hmono : ∀ job, s.cancelled job = true → s'.cancelled job = true)
    (hlogin : s'.finished .login = true →
      s.finished .login = true ∨ s'.cancelled .login = true ∨ ∃ i, θ i = .seen)
    (hclosed : KeepsAlive A → s.closed = false → s'.closed = false)
    (hclose : KeepsAlive A → s'.finished .close = true →
      s.finished .close = true ∨ s'.cancelled .close = true) : WindowInv A s' θ where
  called i hi := hcalled.trans (h.called i hi)
  unique := h.unique
  setUp hs := hcalled.trans (hsetUp hs)
  looks i hi := hcalled.trans (h.looks i hi)
  cancelled job hjob := (hcancelled job hjob).elim (h.cancelled job) id
  told i job hi := hmono job (h.told i job hi)
  login hl := (hlogin hl).elim (fun hl ↦ (h.login hl).imp_left (hmono .login)) id
  noticed := h.noticed
  close hA := ⟨hclosed hA (h.close hA).1, fun hf ↦
    (hclose hA hf).elim (fun hf ↦ hmono .close ((h.close hA).2 hf)) id⟩
  loggedIn := h.loggedIn
  notLoggedIn := h.notLoggedIn

theorem WindowInv.same (h : WindowInv A s θ) (hs : Same s s')
    (hsetUp : s'.SetUp → s.called = true) : WindowInv A s' θ :=
  h.shared hs.called hsetUp (fun _ hj ↦ .inl (hs.cancelled ▸ hj)) (fun _ hj ↦ hs.cancelled ▸ hj)
    (fun hl ↦ .inl (hs.finished ▸ hl)) (fun _ hc ↦ hs.closed ▸ hc)
    fun _ hf ↦ .inl (hs.finished ▸ hf)

/-- A request that says nothing of itself keeps what a program has got to. -/
theorem WindowInv.serve (h : WindowInv A s θ) (hserve : serve q b s = some (a, s'))
    (hq : ¬Marks q) (hset : SetsUp q → s.called = true) : WindowInv A s' θ := by
  refine h.same (same_of_serve hserve hq) fun hs ↦ ?_
  by_cases hsets : SetsUp q
  · exact hset hsets
  · exact h.setUp (setUp_of_serve hserve hsets hs)

/-- A program that is no call of `_wait_for_login_or_close` gets to another stage. -/
theorem WindowInv.works (h : WindowInv A s θ) (hserve : LoginWindow.serve q b s = some (a, s'))
    (hq : ¬Marks q) (hset : ¬SetsUp q) (hi : θ i = x) (hx : ¬x.IsCall) (hseen : x ≠ .seen)
    (hy : ¬y.IsCall) (htold : ∀ job, y = .told job → s.cancelled job = true)
    (hlooks : y.Looks → s.called = true) (hnoticed : y = .noticed → ¬KeepsAlive A) :
    WindowInv A s' (Function.update θ i y) := by
  subst hi
  refine WindowInv.serve ?_ hserve hq fun hs ↦ (hset hs).elim
  exact h.stage (fun hc ↦ (hy hc).elim) (fun hp ↦ (hx hp.isCall).elim) (fun hs ↦ (hseen hs).elim)
    htold hlooks hnoticed (fun ha ↦ (hy (ha ▸ trivial)).elim) fun ha ↦ (hy (ha ▸ trivial)).elim

/-- Who sees that the window is not alive has found it out. -/
theorem not_keepsAlive (hA : A s) (hcalled : s.called = true) (hs : ¬s.Alive) : ¬KeepsAlive A :=
  fun h ↦ hs (h s hA hcalled)

/-- `_wait_for_login_or_close` is called. -/
theorem WindowInv.call (h : WindowInv A s θ) (hi : θ i = .idle) (hs : s.called = false) :
    WindowInv A { s with called := true } (Function.update θ i .calling) := by
  -- nobody has called it so far
  have hnone : ∀ j, ¬(θ j).IsCall := fun j hj ↦ by
    cases hs.symm.trans (h.called j hj)
  have hcalls : ∀ j, (Function.update θ i .calling j).IsCall → j = i := fun j hj ↦ by
    by_contra hji
    rw [Function.update_of_ne hji] at hj
    exact hnone j hj
  have hrest : ∀ j x, Function.update θ i .calling j = x → x ≠ .calling → θ j = x := by
    intro j x hj hx
    by_cases hji : j = i
    · rw [hji, Function.update_self] at hj
      exact (hx hj.symm).elim
    · rwa [Function.update_of_ne hji] at hj
  constructor
  case called => exact fun _ _ ↦ rfl
  case unique => exact fun j k hj hk ↦ (hcalls j hj).trans (hcalls k hk).symm
  case setUp => exact fun _ ↦ rfl
  case looks => exact fun _ _ ↦ rfl
  case cancelled =>
    exact fun job hjob ↦ (h.cancelled job hjob).elim fun j hj ↦ (hnone j hj.isCall).elim
  case told => exact fun j job hj ↦ h.told j job (hrest j _ hj nofun)
  case login =>
    refine fun hl ↦ (h.login hl).imp_right fun ⟨j, hj⟩ ↦ ⟨j, ?_⟩
    rwa [Function.update_of_ne]
    rintro rfl
    cases hi.symm.trans hj
  case noticed => exact fun j hj ↦ h.noticed j (hrest j _ hj nofun)
  case close => exact h.close
  case loggedIn => exact fun j hj ↦ (hnone j (hrest j _ hj nofun ▸ trivial)).elim
  case notLoggedIn => exact fun j hj ↦ h.notLoggedIn j (hrest j _ hj nofun)

/-- The wait is over. -/
theorem WindowInv.answer (h : WindowInv A s θ) (hi : θ i = .calling)
    (hs : s.finished .login = true ∨ s.finished .close = true) :
    WindowInv A s (Function.update θ i (.answered (s.finished .login))) := by
  have hnobody := h.not_cancelled hi
  refine h.stage (fun _ ↦ hi ▸ trivial) (fun _ ↦ trivial) (fun hseen ↦ ?_) nofun nofun nofun ?_ ?_
  · cases hi.symm.trans hseen
  · intro ha
    obtain hc | hseen := h.login (Stage.answered.inj ha)
    · cases hc.symm.trans (hnobody .login)
    · exact hseen
  · intro ha hA
    rw [Stage.answered.inj ha] at hs
    cases ((h.close hA).2 (hs.resolve_left nofun)).symm.trans (hnobody .close)

/-- **A request keeps the invariant.** -/
theorem WindowInv.step (h : WindowInv A s θ) (hi : θ i = x) (hstep : Stage.Step x q a y)
    (hA : A s) (hserve : LoginWindow.serve q b s = some (a, s')) :
    WindowInv A s' (Function.update θ i y) := by
  -- a program that stays where it is
  have hstill : WindowInv A s' θ → WindowInv A s' (Function.update θ i x) := fun h' ↦ by
    rwa [← hi, Function.update_eq_self]
  have hlooks : x.Looks → s.called = true := fun hx ↦ h.looks i (hi ▸ hx)
  cases hstep with
  | browser q a hq =>
    exact hstill (h.serve hserve (by rintro ⟨⟩ <;> cases hq) (by rintro ⟨⟩ <;> cases hq))
  | call =>
    obtain ⟨hcalled, hs'⟩ := Option.ite_none_left_eq_some.mp hserve
    cases hs'
    exact h.call hi (by simpa using hcalled)
  | beginLogin => exact h.works hserve nofun nofun hi id nofun id nofun nofun nofun
  | beginClose =>
    obtain ⟨⟨hcreated, -⟩, -⟩ := Option.ite_none_right_eq_some.mp hserve
    exact h.works hserve nofun nofun hi id nofun id nofun (fun _ ↦ h.setUp (.inl ⟨_, hcreated⟩))
      nofun
  | beginTold job e =>
    obtain ⟨-, he⟩ := Option.ite_none_right_eq_some.mp hserve
    refine h.works hserve nofun nofun hi id nofun id (fun job' hjob ↦ ?_) nofun nofun
    cases hjob
    by_contra hnot
    rw [if_neg hnot] at he
    cases he
  | deliverPage page =>
    obtain ⟨⟨hlistens, -⟩, -⟩ := Option.ite_none_right_eq_some.mp hserve
    exact h.works hserve nofun nofun hi id nofun id nofun
      (fun _ ↦ h.setUp (.inr (.inr (.inl hlistens)))) nofun
  | deliverPageClose page =>
    obtain ⟨⟨hwatched, -⟩, -⟩ := Option.ite_none_right_eq_some.mp hserve
    exact h.works hserve nofun nofun hi id nofun id nofun
      (fun _ ↦ h.setUp (.inr (.inr (.inr ⟨page, hwatched⟩)))) nofun
  | deliverClose =>
    obtain ⟨⟨hlistens, hemitted⟩, -⟩ := Option.ite_none_right_eq_some.mp hserve
    have hcalled := h.setUp (.inr (.inl hlistens))
    refine h.works hserve nofun nofun hi id nofun id nofun (fun _ ↦ hcalled) fun _ ↦
      not_keepsAlive hA hcalled ?_
    exact fun halive ↦ Bool.false_ne_true (halive.2.1.symm.trans hemitted)
  | createTask job => exact hstill (h.serve hserve nofun fun _ ↦ h.called i (hi ▸ trivial))
  | answer loggedIn =>
    cases b with
    | ok v =>
      obtain ⟨hfinished, hs'⟩ := Option.ite_none_right_eq_some.mp hserve
      cases hs'
      exact h.answer hi hfinished
    | error e => cases hserve
  | abandon e =>
    refine WindowInv.serve (h.stage (fun _ ↦ hi ▸ trivial) (fun _ ↦ trivial) (fun hseen ↦ ?_)
      nofun nofun nofun nofun nofun) hserve nofun nofun
    cases hi.symm.trans hseen
  | cleanUp x q a hx hq =>
    refine hstill ?_
    cases hq with
    | taskDone job => exact h.serve hserve nofun nofun
    | awaitTask job => exact h.serve hserve nofun nofun
    | cancel job =>
      cases hserve
      refine h.shared rfl h.setUp (fun job' _ ↦ .inr ⟨i, hi ▸ hx⟩) (fun job' hjob' ↦ ?_) .inl
        (fun _ ↦ id) fun _ ↦ .inl
      by_cases hjob : job' = job
      · rw [hjob]
        exact Function.update_self ..
      · exact (Function.update_of_ne hjob ..).trans hjob'
  | count selector k => exact hstill (h.serve hserve nofun nofun)
  | visible => exact h.works hserve nofun nofun hi id nofun id nofun nofun nofun
  | hidden => exact hstill (h.serve hserve nofun nofun)
  | pageFails q e hq he => exact hstill (h.serve hserve nofun nofun)
  | pageTold q e hq he =>
    refine h.works hserve nofun nofun hi id nofun id (fun job hjob ↦ ?_) nofun nofun
    cases hjob
    cases b with
    | ok v => cases hq <;> cases hserve
    | error e' =>
      have he' : (if s.cancelled .login then taskCancelled else e'.fault) = e := by
        cases hq <;> exact Except.error.inj (Prod.mk.inj (Option.some.inj hserve)).1
      -- Playwright raises nothing but exceptions
      by_contra hnot
      rw [if_neg hnot] at he'
      rw [← he', Exn.isException_fault] at he
      cases he
  | sleep milliseconds => exact hstill (h.serve hserve nofun nofun)
  | sleepTold milliseconds e =>
    refine h.works hserve nofun nofun hi id nofun id (fun job hjob ↦ ?_) nofun nofun
    cases hjob
    cases b with
    | ok v => cases hserve
    | error e' => exact (Option.ite_none_right_eq_some.mp hserve).1
  | createFuture x hx =>
    cases hserve
    exact hstill (h.shared rfl h.setUp (fun _ ↦ .inl) (fun _ ↦ id) .inl (fun _ _ ↦ rfl)
      fun _ ↦ .inl)
  | register x q a hx hq ha =>
    refine hstill ?_
    cases hq with
    | onClose => exact h.serve hserve nofun fun _ ↦ hlooks hx
    | onPage => exact h.serve hserve nofun fun _ ↦ hlooks hx
    | onPageClose page => exact h.serve hserve nofun fun _ ↦ hlooks hx
  | pages x pages hx hpages => exact hstill (h.serve hserve nofun nofun)
  | noPages x hx =>
    refine h.works hserve nofun nofun hi hx.not_isCall hx.ne_seen id nofun
      (fun _ ↦ hlooks hx) fun _ ↦ not_keepsAlive hA (hlooks hx) ?_
    cases b with
    | ok v =>
      obtain ⟨-, hs'⟩ := Option.ite_none_right_eq_some.mp hserve
      exact fun halive ↦ halive.1 (Except.ok.inj (Prod.mk.inj (Option.some.inj hs')).1)
    | error e' => cases (Option.ite_none_left_eq_some.mp hserve).2
  | pagesFail x e hx he =>
    refine h.works hserve nofun nofun hi hx.not_isCall hx.ne_seen id nofun
      (fun _ ↦ hlooks hx) fun _ ↦ not_keepsAlive hA (hlooks hx) ?_
    cases b with
    | ok v => cases (Option.ite_none_right_eq_some.mp hserve).2
    | error e' => exact fun halive ↦ (Option.ite_none_left_eq_some.mp hserve).1 halive.2.2
  | notDone x hx => exact hstill (h.serve hserve nofun nofun)
  | done x hx =>
    refine h.works hserve nofun nofun hi hx.not_isCall hx.ne_seen id nofun
      (fun _ ↦ hlooks hx) fun _ hA' ↦ ?_
    have hdone : s.closed = true := Except.ok.inj (Prod.mk.inj (Option.some.inj hserve)).1
    cases hdone.symm.trans (h.close hA').1
  | woken x milliseconds hx => exact hstill (h.serve hserve nofun nofun)
  | timedOut x milliseconds message hx => exact hstill (h.serve hserve nofun nofun)
  | pauseTold x milliseconds hx =>
    refine h.works hserve nofun nofun hi hx.not_isCall hx.ne_seen id (fun job hjob ↦ ?_) nofun nofun
    cases hjob
    cases b with
    | ok v => cases (Option.ite_none_right_eq_some.mp hserve).2
    | error e' =>
      have he := Except.error.inj (Prod.mk.inj (Option.some.inj hserve)).1
      by_contra hnot
      rw [if_neg hnot] at he
      cases he
  | setResult a =>
    refine hstill ?_
    simp only [LoginWindow.serve, Option.some.injEq] at hserve
    split at hserve
    · cases hserve
      exact h
    · cases hserve
      exact h.shared rfl h.setUp (fun _ ↦ .inl) (fun _ ↦ id) .inl
        (fun hA' ↦ (h.noticed i hi hA').elim) fun _ ↦ .inl
  | finishSeen =>
    cases hserve
    exact hstill (h.shared rfl h.setUp (fun _ ↦ .inl) (fun _ ↦ id) (fun _ ↦ .inr (.inr ⟨i, hi⟩))
      (fun _ ↦ id) fun _ ↦ .inl)
  | finishNoticed =>
    cases hserve
    exact hstill (h.shared rfl h.setUp (fun _ ↦ .inl) (fun _ ↦ id) .inl (fun _ ↦ id)
      fun hA' ↦ (h.noticed i hi hA').elim)
  | finishTold job =>
    cases hserve
    have htold := h.told i job hi
    refine hstill (h.shared rfl h.setUp (fun _ ↦ .inl) (fun _ ↦ id) ?_ (fun _ ↦ id) fun _ ↦ ?_)
    · cases job with
      | login => exact fun _ ↦ .inr (.inl htold)
      | close => exact .inl
    · cases job with
      | login => exact .inl
      | close => exact fun _ ↦ .inr htold

/-! ### What is foreseen -/

theorem Stage.exists_page {q : PageRequest} (hq : Probes q) (a : Except Exn q.Val) :
    ∃ y, Stage.Step polling (.page q) a y := by
  cases a with
  | ok v =>
    cases hq with
    | count selector => exact ⟨_, .count selector v⟩
    | isVisible =>
      cases v with
      | true => exact ⟨_, .visible⟩
      | false => exact ⟨_, .hidden⟩
  | error e =>
    cases he : e.isException with
    | true => exact ⟨_, .pageFails q e hq he⟩
    | false => exact ⟨_, .pageTold q e hq he⟩

theorem Stage.exists_pages (hx : x.Looks) {a b : Except Exn (List PageId)}
    (hserve : LoginWindow.serve .pages b s = some (a, s')) :
    ∃ y, Stage.Step x .pages a y := by
  cases b with
  | ok v =>
    cases (Option.ite_none_right_eq_some.mp hserve).2
    cases hpages : s.pages with
    | nil => exact ⟨_, .noPages x hx⟩
    | cons page pages => exact ⟨_, .pages x _ hx (List.cons_ne_nil page pages)⟩
  | error e =>
    cases (Option.ite_none_left_eq_some.mp hserve).2
    exact ⟨_, .pagesFail x _ hx e.isException_fault⟩

theorem Stage.exists_futureDone (hx : x.Looks) {a b : Except Exn Bool}
    (hserve : LoginWindow.serve .futureDone b s = some (a, s')) :
    ∃ y, Stage.Step x .futureDone a y := by
  cases hserve
  cases s.closed with
  | true => exact ⟨_, .done x hx⟩
  | false => exact ⟨_, .notDone x hx⟩

theorem Stage.exists_awaitFuture (hx : x.Looks) {milliseconds : ℕ} {a b : Except Exn Unit}
    (hserve : LoginWindow.serve (.awaitFuture milliseconds) b s = some (a, s')) :
    ∃ y, Stage.Step x (.awaitFuture milliseconds) a y := by
  cases b with
  | ok v =>
    cases (Option.ite_none_right_eq_some.mp hserve).2
    exact ⟨_, .woken x milliseconds hx⟩
  | error e =>
    cases hserve
    split
    · exact ⟨_, .pauseTold x milliseconds hx⟩
    · exact ⟨_, .timedOut x milliseconds _ hx⟩

theorem Registers.isException (hq : Registers q) (hserve : LoginWindow.serve q b s = some (a, s'))
    (e : Exn) (ha : a = .error e) : e.isException = true := by
  subst ha
  cases hq
  all_goals
    cases b with
    | ok v => cases hserve
    | error e' =>
      cases hserve
      exact e'.isException_fault

/-- **A request that is allowed gets an answer that is foreseen.** -/
theorem exists_step (hpre : stages.pre x q) (hserve : LoginWindow.serve q b s = some (a, s')) :
    ∃ y, Stage.Step x q a y := by
  obtain ⟨a₀, y₀, hstep⟩ := hpre
  cases hstep with
  | browser q a₀ hq => exact ⟨_, .browser q a hq⟩
  | call =>
    cases (Option.ite_none_left_eq_some.mp hserve).2
    exact ⟨_, .call⟩
  | beginLogin =>
    cases a with
    | ok v => exact ⟨_, .beginLogin⟩
    | error e => exact ⟨_, .beginTold _ e⟩
  | beginClose =>
    cases a with
    | ok v => exact ⟨_, .beginClose⟩
    | error e => exact ⟨_, .beginTold _ e⟩
  | beginTold job e₀ =>
    cases a with
    | ok v =>
      cases job with
      | login => exact ⟨_, .beginLogin⟩
      | close => exact ⟨_, .beginClose⟩
    | error e => exact ⟨_, .beginTold _ e⟩
  | deliverPage page =>
    cases (Option.ite_none_right_eq_some.mp hserve).2
    exact ⟨_, .deliverPage page⟩
  | deliverPageClose page =>
    cases (Option.ite_none_right_eq_some.mp hserve).2
    exact ⟨_, .deliverPageClose page⟩
  | deliverClose =>
    cases (Option.ite_none_right_eq_some.mp hserve).2
    exact ⟨_, .deliverClose⟩
  | createTask job =>
    cases hserve
    exact ⟨_, .createTask job⟩
  | answer | abandon =>
    cases a with
    | ok v => exact ⟨_, .answer v⟩
    | error e => exact ⟨_, .abandon e⟩
  | cleanUp x q a₀ hx hq => exact ⟨_, .cleanUp x q a hx hq⟩
  | count selector k => exact Stage.exists_page (.count selector) a
  | visible | hidden => exact Stage.exists_page .isVisible a
  | pageFails q e hq he | pageTold q e hq he => exact Stage.exists_page hq a
  | sleep milliseconds | sleepTold milliseconds =>
    cases a with
    | ok v => exact ⟨_, .sleep milliseconds⟩
    | error e => exact ⟨_, .sleepTold milliseconds e⟩
  | createFuture x hx =>
    cases hserve
    exact ⟨_, .createFuture x hx⟩
  | register x q a₀ hx hq ha => exact ⟨_, .register x q a hx hq (hq.isException hserve)⟩
  | pages x pages hx hpages => exact Stage.exists_pages hx hserve
  | noPages x hx => exact Stage.exists_pages hx hserve
  | pagesFail x e hx he => exact Stage.exists_pages hx hserve
  | notDone x hx | done x hx => exact Stage.exists_futureDone hx hserve
  | woken x milliseconds hx => exact Stage.exists_awaitFuture hx hserve
  | timedOut x milliseconds message hx => exact Stage.exists_awaitFuture hx hserve
  | pauseTold x milliseconds hx => exact Stage.exists_awaitFuture hx hserve
  | setResult a₀ => exact ⟨_, .setResult a⟩
  | finishSeen =>
    cases hserve
    exact ⟨_, .finishSeen⟩
  | finishNoticed =>
    cases hserve
    exact ⟨_, .finishNoticed⟩
  | finishTold job =>
    cases hserve
    exact ⟨_, .finishTold job⟩

/-! ## The protocol -/

/-- **The protocol of the tasks that wait for a login**, where the window is always as `A` says. -/
def protocol (A : LoginWindow → Prop) : Protocol (rulesWhere A) suspends Stage where
  typestate := stages
  start := .idle
  inv := WindowInv A
  turn _ _ := True
  turn_start _ := trivial
  turn_resume _ _ _ _ _ := trivial
  keep s θ i q a s' h _ hpre hstep := by
    obtain ⟨⟨hA, -⟩, b, hserve⟩ := hstep
    obtain ⟨y, hy⟩ := exists_step hpre hserve
    exact ⟨y, hy, h.step rfl hy hA hserve, trivial⟩

/-! ### Who has seen the view -/

/-- The authenticated view is visible. -/
def viewSeen : WindowEvent := ⟨.page (.isVisible PageReader.authenticatedViewSelector), .ok true⟩

/-- A login gets to the stage `seen` by seeing the view. -/
theorem viewSeen_mem_of_path {t : List WindowEvent} (h : stages.Path .idle t .seen) :
    viewSeen ∈ t := by
  refine h.invariant (I := fun t x ↦ x = .seen → viewSeen ∈ t) nofun ?_ rfl
  intro t x q a y ih hstep hy
  cases hstep with
  | visible => exact List.mem_append_right t (List.mem_singleton_self _)
  | finishSeen => exact List.mem_append_left _ (ih rfl)
  | cleanUp x q a hx hq | createFuture x hx | register x q a hx hq ha
  | pages x pages hx hpages | notDone x hx | woken x milliseconds hx
  | timedOut x milliseconds message hx =>
    subst hy
    exact hx.elim
  | _ => cases hy

end

end LoginWindow

end RmaPortal
