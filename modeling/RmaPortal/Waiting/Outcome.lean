import RmaPortal.Waiting.Polls
import RmaPortal.Waiting.Programs

/-!
# Why the wait ends

`_wait_for_login_or_close` returns `True` only if the authenticated view has been seen, and
`False` only if at some moment since it was called the window was not alive: no page was open, the
context had emitted `close`, or it could not be inspected.  Whether events are delivered, or
which, makes no difference.

It is the past that counts.  What has been found out is not looked at again, so that the wait may
end while a page is open: one that was opened after the last one had been closed.

## What is here

* `AliveOnceCalled` — the window is alive from the call of `_wait_for_login_or_close` on.
* `exists_meets` — in every run the programs are at stages that hang together, as `Waiting.Stages`
  has it.
* `viewSeen_mem_of_stage`, `viewSeen_of_returns` — a login that has seen the view saw it during
  the run, and so did a wait that returns `True`.
* `not_returns_false` — the wait does not return `False` as long as the window is alive.
* `waitForLoginOrClose_spec` — the two, and when `_wait_until_closed` returns.
* `routine`, `routinely`, `steps_of_played` — a way to answer requests in which nothing fails, and
  runs that are played with it.
* `returns_while_alive`, `waitForLoginOrClose_spec_loggingIn` — the wait ends while a page is
  open; and somebody logs in, and the view has been seen.

That the wait comes to an end at all depends on the browser, and is not said here.
-/

set_option autoImplicit false

open Coroutine

namespace RmaPortal

namespace LoginWindow

/-- The window is alive from the call of `_wait_for_login_or_close` on. -/
def AliveOnceCalled (s : LoginWindow) : Prop := s.called = true → s.Alive

section

variable {A : LoginWindow → Prop} {n pages : ℕ} {emitted inspectable visible : Bool}
  {p : WindowPool} {ls : List (ℕ × List WindowEvent)}

/-- **In every run** the programs are at stages that hang together. -/
theorem exists_meets
    (h : WindowSteps A n (Pool.empty (opened pages emitted inspectable visible)) ls p) :
    ∃ θ, (protocol A).Meets (fun _ _ ↦ Returns) p θ :=
  Protocol.sound (fun _ hc ↦ leads_isWindowProgram hc)
    (Protocol.Meets.empty (windowInv_opened pages emitted inspectable visible)) h

/-- A login that has seen the view saw it during the run. -/
theorem viewSeen_mem_of_stage {θ : ℕ → Stage} {i : ℕ}
    (h : WindowSteps A n (Pool.empty (opened pages emitted inspectable visible)) ls p)
    (hmeets : (protocol A).Meets (fun _ _ ↦ Returns) p θ) (hi : θ i = .seen) :
    viewSeen ∈ ls.flatMap Prod.snd := by
  obtain ⟨task, htask⟩ := Option.ne_none_iff_exists'.mp fun hnone ↦ by
    cases hi.symm.trans (hmeets.unused i hnone)
  have hpath := (hmeets.task i task htask).path
  rw [hi, ((h.history i).2 task htask).1] at hpath
  exact exists_mem_eventsOf.mpr ⟨i, viewSeen_mem_of_path hpath⟩

variable {i : ℕ} {task : Task WindowRequest.Val Exn (Option Bool)}

/-- **The wait returns `True` only if the view has been seen.** -/
theorem viewSeen_of_returns
    (h : WindowSteps A n (Pool.empty (opened pages emitted inspectable visible)) ls p)
    (htask : p.tasks i = some task) (hrest : task.rest = .done (.ok (some true))) :
    viewSeen ∈ ls.flatMap Prod.snd := by
  obtain ⟨θ, hmeets⟩ := exists_meets h
  obtain ⟨j, hj⟩ := hmeets.inv.loggedIn i (((hmeets.task i task htask).over hrest) true rfl)
  exact viewSeen_mem_of_stage h hmeets hj

/-- **The wait does not return `False` as long as the window is alive.** -/
theorem not_returns_false
    (h : WindowSteps AliveOnceCalled n (Pool.empty (opened pages emitted inspectable visible)) ls p)
    (htask : p.tasks i = some task) : task.rest ≠ .done (.ok (some false)) := by
  intro hrest
  obtain ⟨θ, hmeets⟩ := exists_meets h
  exact hmeets.inv.notLoggedIn i (((hmeets.task i task htask).over hrest) false rfl) fun _ hs ↦ hs

/-- **Why `_wait_for_login_or_close` returns**, and when `_wait_until_closed` does. -/
theorem waitForLoginOrClose_spec
    (h : WindowSteps (fun _ ↦ True) n (Pool.empty (opened pages emitted inspectable visible)) ls p)
    (htask : p.tasks i = some task) :
    (task.rest = .done (.ok (some true)) → viewSeen ∈ ls.flatMap Prod.snd) ∧
      (WindowSteps AliveOnceCalled n (Pool.empty (opened pages emitted inspectable visible)) ls p →
        task.rest ≠ .done (.ok (some false)) ∧
          (viewSeen ∉ ls.flatMap Prod.snd → ∀ loggedIn, task.rest ≠ .done (.ok (some loggedIn)))) ∧
      (task.program = taskCall n .close → Rests n task.rest task.history p.state ∧
        ∀ m, task.rest = betweenPolls m →
          (∃ t p', Pool.Step (rulesWhere fun _ ↦ True) suspends (IsWindowProgram n) p (i, t) p') ∧
            (m ≠ 0 → p.state.Gone → ∀ t p',
              Pool.Step (rulesWhere fun _ ↦ True) suspends (IsWindowProgram n) p (i, t) p' →
                ∃ task', p'.tasks i = some task' ∧ Done task'.rest p'.state)) := by
  refine ⟨viewSeen_of_returns h htask, fun halive ↦ ⟨not_returns_false halive htask, ?_⟩, ?_⟩
  · rintro hview (- | -) hrest
    · exact not_returns_false halive htask hrest
    · exact hview (viewSeen_of_returns h htask hrest)
  · exact fun hprogram ↦ ⟨rests_closeTask h htask hprogram, fun m hm ↦ exists_lastPoll htask hm⟩

end

/-! ## Two runs -/

/-- A way to answer requests: nothing fails, but what has been cancelled is told so. -/
def routine : (q : WindowRequest) → LoginWindow → Except Exn q.Val
  | .pages, _ => .ok []
  | .onClose, _ | .onPage, _ | .onPageClose _, _ | .sleep _, _ | .awaitTask _, _ => .ok ()
  | .awaitFuture _, s => if s.closed then .ok () else .error invalidState
  | .page (.count _), s => if s.cancelled .login then .error taskCancelled else .ok 1
  | .page (.isVisible _), _ => .ok true
  | .waitFirst, _ => .ok true
  | _, _ => .error invalidState

def routinely : Coroutine.Script WindowRequest.Val Exn LoginWindow := fun q s ↦
  serve q (routine q s) s

theorem routinely_step (q : WindowRequest) (s : LoginWindow) (a : Except Exn q.Val)
    (s' : LoginWindow) (h : routinely q s = some (a, s')) :
    (rulesWhere fun _ ↦ True).step s q a s' := ⟨⟨trivial, trivial⟩, _, h⟩

/-- The call and its two tasks begin. -/
def beginnings : List (Play WindowRequest.Val Exn (Option Bool)) :=
  [.spawn 0 waitCall, .spawn 1 (taskCall 2 .login), .spawn 2 (taskCall 2 .close)]

/-- The only page is closed, and the event is delivered; then another one is opened. -/
def reopening : List (Play WindowRequest.Val Exn (Option Bool)) :=
  beginnings ++ [.spawn 3 (andNothing (request (.closePage 0))),
    .spawn 4 (andNothing (do
      request (.deliverPageClose 0)
      onPageClosed)),
    .spawn 5 (andNothing (request .openPage)), .turn 2, .turn 0, .turn 1, .turn 0]

/-- Somebody logs in. -/
def loggingIn : List (Play WindowRequest.Val Exn (Option Bool)) :=
  beginnings ++ [.turn 1, .turn 1, .turn 0, .turn 0, .turn 2, .turn 0]

theorem beginnings_startable {i : ℕ} {c : WindowCall (Option Bool)}
    (h : .spawn i c ∈ beginnings) : IsWindowProgram 2 c := by
  simp only [beginnings, List.mem_cons, Play.spawn.injEq, List.not_mem_nil, or_false] at h
  rcases h with ⟨-, rfl⟩ | ⟨-, rfl⟩ | ⟨-, rfl⟩
  · exact .wait
  · exact .task .login
  · exact .task .close

theorem reopening_startable {i : ℕ} {c : WindowCall (Option Bool)} (h : .spawn i c ∈ reopening) :
    IsWindowProgram 2 c := by
  rcases List.mem_append.mp h with h | h
  · exact beginnings_startable h
  simp only [List.mem_cons, Play.spawn.injEq, List.not_mem_nil, or_false, reduceCtorEq] at h
  rcases h with ⟨-, rfl⟩ | ⟨-, rfl⟩ | ⟨-, rfl⟩
  · exact .browser (.closePage 0)
  · exact .pageCloseDelivered 0
  · exact .browser .openPage

theorem loggingIn_startable {i : ℕ} {c : WindowCall (Option Bool)} (h : .spawn i c ∈ loggingIn) :
    IsWindowProgram 2 c := by
  rcases List.mem_append.mp h with h | h
  · exact beginnings_startable h
  · simp at h

/-- What is played, and then the next turn of the call, is a run. -/
theorem steps_of_played {ms : List (Play WindowRequest.Val Exn (Option Bool))}
    (hms : ∀ i c, .spawn i c ∈ ms → IsWindowProgram 2 c) {s : LoginWindow}
    {x : List (ℕ × List WindowEvent) × WindowPool}
    (hplay : (Pool.empty s).play routinely suspends ms = some x) {t : List WindowEvent}
    {p' : WindowPool} (hmove : x.2.move routinely suspends (.turn 0) = some ((0, t), p')) :
    WindowSteps (fun _ ↦ True) 2 (Pool.empty s) x.1 x.2 ∧
      Pool.Step (rulesWhere fun _ ↦ True) suspends (IsWindowProgram 2) x.2 (0, t) p' :=
  ⟨Pool.steps_of_play routinely_step hms hplay,
    Pool.step_of_move routinely_step (fun _ _ h ↦ by cases h) hmove⟩

/-- The page is asked whether something is visible. -/
def asksVisible : WindowRequest → Bool
  | .page (.isVisible _) => true
  | _ => false

theorem viewSeen_notMem {t : List WindowEvent} (h : t.all (fun e ↦ !asksVisible e.1) = true) :
    viewSeen ∉ t := fun hview ↦ by
  cases List.all_eq_true.mp h _ hview

/-- **The wait may end while a page is open**: the last page has been closed in the meantime, and
another one has been opened since. -/
theorem returns_while_alive : ∃ ls p t p' task,
    WindowSteps (fun _ ↦ True) 2 (Pool.empty (opened 1 false true false)) ls p ∧
      Pool.Step (rulesWhere fun _ ↦ True) suspends (IsWindowProgram 2) p (0, t) p' ∧
      p.state.Alive ∧ p'.state.Alive ∧ viewSeen ∉ (ls ++ [(0, t)]).flatMap Prod.snd ∧
      p'.tasks 0 = some task ∧ task.program = waitCall ∧ task.rest = .done (.ok (some false)) := by
  have hplay : (Pool.empty (opened 1 false true false)).play routinely suspends reopening =
    some (_, _) := rfl
  obtain ⟨hsteps, hstep⟩ := steps_of_played (fun _ _ ↦ reopening_startable) hplay rfl
  refine ⟨_, _, _, _, _, hsteps, hstep, ⟨List.cons_ne_nil _ _, rfl, rfl⟩,
    ⟨List.cons_ne_nil _ _, rfl, rfl⟩, viewSeen_notMem rfl, rfl, rfl, rfl⟩

/-- Somebody logs in, and the view has been seen. -/
theorem waitForLoginOrClose_spec_loggingIn : ∃ ls p task,
    WindowSteps (fun _ ↦ True) 2 (Pool.empty (opened 1 false true true)) ls p ∧
      p.tasks 0 = some task ∧ task.rest = .done (.ok (some true)) ∧
      viewSeen ∈ ls.flatMap Prod.snd := by
  have hplay : (Pool.empty (opened 1 false true true)).play routinely suspends loggingIn =
    some (_, _) := rfl
  have hsteps := Pool.steps_of_play routinely_step (fun _ _ ↦ loggingIn_startable) hplay
  refine ⟨_, _, _, hsteps, rfl, rfl, ?_⟩
  exact (waitForLoginOrClose_spec (i := 0) hsteps rfl).1 rfl

end LoginWindow

end RmaPortal
