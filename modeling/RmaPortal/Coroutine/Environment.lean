import RmaPortal.Coroutine.Turns

/-!
# Tasks in an environment

Something else may change the state that the tasks of a pool share: another program, that is not
one of them.  Of this environment nothing is known but the steps it can take, `E`.

## What is here

* `Pool.StepsAmid` — any number of steps, between which the environment takes steps of its own.
* `Pool.Steps.amid`, `Pool.StepsAmid.single`, `Pool.StepsAmid.trans` — the environment need not
  take any step, and runs can be put together.
* `Pool.forget`, `Spec.loose`, `Pool.StepsAmid.forget` — what is known of tasks whatever they are
  answered does not depend on the state, and carries over as it is: a run in an environment is one
  without any state, under rules that let a request be answered as it can be in some state.
* `Pool.StepsAmid.split` — a run can be cut at a label; the environment may have taken steps right
  before and after it.
* `Pool.StepsAmid.finished`, `Pool.StepsAmid.program`, `Pool.StepsAmid.history`,
  `Pool.StepsAmid.events` — what a pool without an environment has, too: a task that is over stays
  as it is, what is left of a task is what is left of its program after its history, and every
  event was answered by the rules.
* `Pool.StepsAmid.eq_singleton`, `Pool.StepsAmid.started`, `Pool.StepsAmid.turnsWith` — where
  every request suspends, every step is at most one request.
-/

set_option autoImplicit false

namespace Coroutine

variable {Req : Type} {Val : Req → Type} {ε α σ : Type}

open Coro

/-- Any number of steps, between which the environment takes steps of its own. -/
inductive Pool.StepsAmid (S : Spec Val ε σ) (suspends : Req → Bool)
    (Startable : Coro Val ε α → Prop) (E : σ → σ → Prop) :
    Pool Val ε α σ → List (ℕ × List (Event Val ε)) → Pool Val ε α σ → Prop
  | refl (p : Pool Val ε α σ) : Pool.StepsAmid S suspends Startable E p [] p
  /-- The environment takes a step. -/
  | env {p q : Pool Val ε α σ} {ls : List (ℕ × List (Event Val ε))} {s : σ}
      (h : Pool.StepsAmid S suspends Startable E p ls q) (hE : E q.state s) :
      Pool.StepsAmid S suspends Startable E p ls ⟨s, q.tasks⟩
  | tail {p q r : Pool Val ε α σ} {ls : List (ℕ × List (Event Val ε))}
      {l : ℕ × List (Event Val ε)} (h : Pool.StepsAmid S suspends Startable E p ls q)
      (hstep : Pool.Step S suspends Startable q l r) :
      Pool.StepsAmid S suspends Startable E p (ls ++ [l]) r

/-- The tasks without the state that they share. -/
def Pool.forget (p : Pool Val ε α σ) : Pool Val ε α Unit := ⟨(), p.tasks⟩

/-- Rules that let a request be answered as it can be in some state. -/
def Spec.loose (S : Spec Val ε σ) : Spec Val ε Unit where
  pre _ _ := True
  step _ r a _ := ∃ s s', S.step s r a s'

variable {S : Spec Val ε σ} {suspends : Req → Bool} {Startable : Coro Val ε α → Prop}
  {E : σ → σ → Prop}
  {p q r : Pool Val ε α σ} {ls ms : List (ℕ × List (Event Val ε))} {l : ℕ × List (Event Val ε)}

theorem Settle.forget {c c' : Coro Val ε α} {s s' : σ} {t : List (Event Val ε)}
    (h : Settle S suspends c s t c' s') : Settle S.loose suspends c () t c' () := by
  induction h with
  | finished o s => exact .finished o ()
  | waits r k s hr => exact .waits r k () hr
  | goes hr hstep hrest ih => exact .goes hr ⟨_, _, hstep⟩ ih

theorem Pool.Step.forget (h : Pool.Step S suspends Startable p l q) :
    Pool.Step S.loose suspends Startable p.forget l q.forget := by
  cases h with
  | spawn hfree hc hrun => exact .spawn hfree hc hrun.forget
  | turn htask hwait hstep hrun => exact .turn htask hwait ⟨_, _, hstep⟩ hrun.forget

/-- The environment need not take any step. -/
theorem Pool.Steps.amid (h : Pool.Steps S suspends Startable p ls q) :
    Pool.StepsAmid S suspends Startable E p ls q := by
  induction h with
  | refl => exact .refl _
  | tail _ hstep ih => exact .tail ih hstep

namespace Pool.StepsAmid

/-- **Tasks do what they do whatever the environment does.** -/
theorem forget (h : Pool.StepsAmid S suspends Startable E p ls q) :
    Pool.Steps S.loose suspends Startable p.forget ls q.forget := by
  induction h with
  | refl => exact .refl _
  | env _ _ ih => exact ih
  | tail _ hstep ih => exact .tail ih hstep.forget

theorem single (hstep : Pool.Step S suspends Startable p l q) :
    Pool.StepsAmid S suspends Startable E p [l] q := .tail (.refl p) hstep

theorem trans (h : Pool.StepsAmid S suspends Startable E p ls q)
    (h' : Pool.StepsAmid S suspends Startable E q ms r) :
    Pool.StepsAmid S suspends Startable E p (ls ++ ms) r := by
  induction h' with
  | refl => simpa using h
  | env _ hE ih => exact .env ih hE
  | tail _ hstep ih =>
    rw [← List.append_assoc]
    exact .tail ih hstep

/-- A run can be cut at a label: the environment may have taken steps right before and after it. -/
theorem split (h : Pool.StepsAmid S suspends Startable E p (ls ++ l :: ms) q) :
    ∃ p₁ p₂, Pool.StepsAmid S suspends Startable E p ls p₁ ∧
      Pool.Step S suspends Startable p₁ l p₂ ∧
      Pool.StepsAmid S suspends Startable E p₂ ms q := by
  generalize hks : ls ++ l :: ms = ks at h
  induction h generalizing ms with
  | refl => simp at hks
  | env _ hE ih =>
    obtain ⟨p₁, p₂, h₁, hstep, h₂⟩ := ih hks
    exact ⟨p₁, p₂, h₁, hstep, .env h₂ hE⟩
  | @tail q' r ks k h hstep ih =>
    cases ms using List.reverseRecOn with
    | nil =>
      obtain ⟨rfl, hk⟩ := List.append_inj' hks rfl
      cases hk
      exact ⟨q', r, h, hstep, .refl r⟩
    | append_singleton ms k' =>
      rw [← List.cons_append, ← List.append_assoc] at hks
      obtain ⟨hinit, hk⟩ := List.append_inj' hks rfl
      cases hk
      obtain ⟨p₁, p₂, h₁, hstep₁, h₂⟩ := ih hinit
      exact ⟨p₁, p₂, h₁, hstep₁, .tail h₂ hstep⟩

/-- A task that is over stays as it is. -/
theorem finished (h : Pool.StepsAmid S suspends Startable E p ls q) {i : ℕ} {task : Task Val ε α}
    {o : Except ε α} (htask : p.tasks i = some task) (hover : task.rest = done o) :
    q.tasks i = some task := h.forget.over htask hover

/-- A task keeps the program it was started with. -/
theorem program (h : Pool.StepsAmid S suspends Startable E p ls q) {i : ℕ} {task : Task Val ε α}
    (htask : p.tasks i = some task) :
    ∃ task', q.tasks i = some task' ∧ task'.program = task.program := h.forget.program htask

/-- **What a task has done**, in an environment. -/
theorem history {s : σ} (h : Pool.StepsAmid S suspends Startable E (Pool.empty s) ls q) (i : ℕ) :
    (q.tasks i = none → eventsOf ls i = []) ∧ ∀ task, q.tasks i = some task →
      task.history = eventsOf ls i ∧ After task.program task.history task.rest :=
  h.forget.history i

/-- Every event of a run was answered by the rules. -/
theorem events (h : Pool.StepsAmid S suspends Startable E p ls q) :
    ∀ l ∈ ls, ∀ e ∈ l.2, ∃ s₁ s₂, S.step s₁ e.1 e.2 s₂ := by
  intro l hl e he
  obtain ⟨_, _, hstep⟩ := h.forget.events l hl e he
  exact hstep

/-- Where every request suspends, every step of a run is at most one request. -/
theorem eq_singleton (hsuspends : ∀ r, suspends r = true)
    (h : Pool.StepsAmid S suspends Startable E p ls q) {i : ℕ} {es : List (Event Val ε)}
    (hl : (i, es) ∈ ls) {e : Event Val ε} (he : e ∈ es) : es = [e] :=
  h.forget.eq_singleton hsuspends hl he

/-- Where every request suspends, a task begins with a step in which nothing is asked. -/
theorem started {s : σ} (hsuspends : ∀ r, suspends r = true)
    (h : Pool.StepsAmid S suspends Startable E (Pool.empty s) ls q) {i : ℕ}
    (htask : q.tasks i ≠ none) : ∃ before after, ls = before ++ (i, []) :: after := by
  generalize hp : Pool.empty s = p at h
  induction h with
  | refl =>
    subst hp
    exact absurd rfl htask
  | env _ _ ih => exact ih htask
  | @tail q r ls l _ hstep ih =>
    by_cases hi : q.tasks i = none
    · refine ⟨ls, [], ?_⟩
      cases hstep with
      | @spawn j c _ _ _ hfree hc hrun =>
        obtain rfl : i = j := by
          by_contra hne
          exact htask ((Function.update_of_ne hne ..).trans hi)
        cases hrun with
        | finished => rfl
        | waits => rfl
        | goes hr => rw [hsuspends] at hr; cases hr
      | turn htask' hwait hanswer hrun =>
        refine absurd ?_ htask
        refine (Function.update_of_ne ?_ ..).trans hi
        rintro rfl
        rw [hi] at htask'
        cases htask'
    · obtain ⟨before, after, rfl⟩ := ih hi
      exact ⟨before, after ++ [l], by simp⟩

/-- Turns that are taken in a given order are steps. -/
theorem turnsWith {serve : Server Val ε σ} {script : (r : Req) → Except ε (Val r)} (is : List ℕ)
    (h : Pool.StepsAmid (Spec.ofServer serve) suspends Startable E p ls q) :
    Pool.StepsAmid (Spec.ofServer serve) suspends Startable E p
      (ls ++ q.turnsEvents serve script suspends is) (q.turnsWith serve script suspends is) := by
  have hturns : Pool.Steps (Spec.ofServer serve) suspends Startable q
      (q.turnsEvents serve script suspends is) (q.turnsWith serve script suspends is) := by
    simpa using Pool.Steps.turnsWith is (.refl q)
  exact h.trans hturns.amid

end Pool.StepsAmid

end Coroutine
