import RmaPortal.Coroutine.Basic
import Mathlib.Data.List.Induction
import Mathlib.Logic.Function.Basic

/-!
# Many programs on one event loop

Several coroutines run against one shared state.  A request either *suspends* the program that
makes it — it is an `await`, and any other task may run before the answer arrives — or it is
answered on the spot.  So a task runs in *turns*: it is resumed with the answer to the request it
was waiting for and then goes on, undisturbed, up to the next suspending request or to its end.
`Pool.Step` is one turn of one task, or the start of a new one, and `Pool.Steps` is any number of
them in any order.  Which requests suspend is a parameter: where every request does, as it is for
threads that share a database, a turn is a single request.

Programs are verified one at a time, against a *protocol*.  A `Protocol` gives every task a
typestate, a summary of what the task has done so far, and an invariant that ties the shared state
to the typestates of all tasks.  Its main obligation is `Protocol.keep`: an allowed request of any
task keeps the invariant.  What a task has found out during its turn stays true until the turn
ends, and `Protocol.turn` is where a protocol says so.  `Protocol.sound` then says that whatever
programs meet the protocol, the invariant holds in every state of every interleaving, and that
each task still meets its own postcondition; `Protocol.steps_stable` does the same for what, once
true, stays true.

## What is here

* `Settle` — one turn: a relation between a program and what is left of it, with the events of the
  turn.
* `Task`, `Pool`, `Pool.Step`, `Pool.Steps` — the pool.  A label of a step is the slot that moved
  and what it did, so the labels of a run are all that has happened in it, in order.
* `Pool.spawnWith`, `Pool.turnWith`, `Pool.turnsWith` — runs that follow a script, for concrete
  runs; every scripted turn is a step (`Pool.step_spawnWith`, `Pool.step_turnWith`).
* `eventsOf` and `Pool.Steps.history` — what the labels say of one task is its history, and what
  is left of it is what is left of its program after that.  A statement about the labels of a run
  is thereby a statement about programs, and the other way round.
* `Pool.Steps.split`, `Pool.Steps.first`, `Pool.Steps.program`, `Pool.Steps.over` — runs can be
  cut; a task keeps its program, and one that is over stays as it is.
* `Protocol`, `TaskMeets`, `Meets` — what it means that a pool meets a protocol; `Meets.step` is
  the step lemma, one case for a start and one for a turn, and `Protocol.sound` the run.

The rule of a turn is `Protocol.settle`: the typestate of the task that moved is the only one that
changes.  It goes by induction on the turn, and is the one place where the invariant, the turn
condition and the specification of the program meet; no later proof looks into a turn again.
-/

set_option autoImplicit false

namespace Coroutine

variable {Req : Type} {Val : Req → Type} {ε : Type} {α σ Θ : Type}

open Coro

/-! ## Turns -/

section Turns

variable (S : Spec Val ε σ) (suspends : Req → Bool)

/-- Run a program up to its next suspending request or to its end, without suspending it. -/
inductive Settle : Coro Val ε α → σ → List (Event Val ε) → Coro Val ε α → σ → Prop
  /-- The program is over. -/
  | finished (o : Except ε α) (s : σ) : Settle (done o) s [] (done o) s
  /-- The program waits. -/
  | waits (r : Req) (k : Except ε (Val r) → Coro Val ε α) (s : σ) (h : suspends r = true) :
      Settle (ask r k) s [] (ask r k) s
  /-- The program is answered on the spot and goes on. -/
  | goes {r : Req} {k : Except ε (Val r) → Coro Val ε α} {s s₁ s' : σ} {a : Except ε (Val r)}
      {t : List (Event Val ε)} {c' : Coro Val ε α} (h : suspends r = false)
      (hstep : S.step s r a s₁) (hrest : Settle (k a) s₁ t c' s') :
      Settle (ask r k) s (⟨r, a⟩ :: t) c' s'

/-- A task: the program it was started with, what is left of it, and what it has done. -/
structure Task {Req : Type} (Val : Req → Type) (ε α : Type) where
  /-- The program the task was started with. -/
  program : Coro Val ε α
  /-- What is left to run. -/
  rest : Coro Val ε α
  /-- The requests made so far, with their answers. -/
  history : List (Event Val ε)

/-- Some tasks over a shared state.  A slot that holds `none` has not been used yet. -/
structure Pool {Req : Type} (Val : Req → Type) (ε α σ : Type) where
  /-- The shared state. -/
  state : σ
  /-- The tasks started so far. -/
  tasks : ℕ → Option (Task Val ε α)

/-- The pool in which nothing has been started. -/
def Pool.empty (s : σ) : Pool Val ε α σ := ⟨s, fun _ ↦ none⟩

/-- One step of a pool: a new task is started, or a waiting one takes a turn.  The label says
which slot moved and what it did. -/
inductive Pool.Step (Startable : Coro Val ε α → Prop) :
    Pool Val ε α σ → ℕ × List (Event Val ε) → Pool Val ε α σ → Prop
  /-- An unused slot is filled with a program, which runs up to its first `await`. -/
  | spawn {p : Pool Val ε α σ} {i : ℕ} {c c' : Coro Val ε α} {t : List (Event Val ε)} {s' : σ}
      (hfree : p.tasks i = none) (hc : Startable c) (hrun : Settle S suspends c p.state t c' s') :
      Pool.Step Startable p (i, t) ⟨s', Function.update p.tasks i (some ⟨c, c', t⟩)⟩
  /-- A waiting task gets its answer and runs up to its next `await`. -/
  | turn {p : Pool Val ε α σ} {i : ℕ} {task : Task Val ε α} {r : Req}
      {k : Except ε (Val r) → Coro Val ε α} {a : Except ε (Val r)} {c' : Coro Val ε α}
      {t : List (Event Val ε)} {s₁ s' : σ} (htask : p.tasks i = some task)
      (hwait : task.rest = ask r k) (hstep : S.step p.state r a s₁)
      (hrun : Settle S suspends (k a) s₁ t c' s') :
      Pool.Step Startable p (i, ⟨r, a⟩ :: t)
        ⟨s', Function.update p.tasks i (some ⟨task.program, c', task.history ++ ⟨r, a⟩ :: t⟩)⟩

/-- Any number of steps, with their labels in order. -/
inductive Pool.Steps (Startable : Coro Val ε α → Prop) :
    Pool Val ε α σ → List (ℕ × List (Event Val ε)) → Pool Val ε α σ → Prop
  | refl (p : Pool Val ε α σ) : Pool.Steps Startable p [] p
  | tail {p q r : Pool Val ε α σ} {ls : List (ℕ × List (Event Val ε))}
      {l : ℕ × List (Event Val ε)} (h : Pool.Steps Startable p ls q)
      (hstep : Pool.Step S suspends Startable q l r) : Pool.Steps Startable p (ls ++ [l]) r

end Turns

variable {S : Spec Val ε σ} {suspends : Req → Bool} {Startable : Coro Val ε α → Prop}

theorem Pool.Steps.single {p q : Pool Val ε α σ} {l : ℕ × List (Event Val ε)}
    (h : Pool.Step S suspends Startable p l q) : Pool.Steps S suspends Startable p [l] q :=
  .tail (.refl p) h

theorem Pool.Steps.trans {p q r : Pool Val ε α σ} {ls ms : List (ℕ × List (Event Val ε))}
    (h₁ : Pool.Steps S suspends Startable p ls q) (h₂ : Pool.Steps S suspends Startable q ms r) :
    Pool.Steps S suspends Startable p (ls ++ ms) r := by
  induction h₂ with
  | refl => simpa using h₁
  | tail _ hstep ih => rw [← List.append_assoc]; exact .tail ih hstep

/-! ## Scripted runs -/

section Scripted

variable (serve : Server Val ε σ) (script : (r : Req) → Except ε (Val r))

/-- Run a program against a server up to its next suspending request or to its end. -/
def settleWith (suspends : Req → Bool) : Coro Val ε α → σ → List (Event Val ε) × Coro Val ε α × σ
  | done o, s => ([], done o, s)
  | ask r k, s =>
    if suspends r then ([], ask r k, s)
    else
      let p := serve r (script r) s
      let q := settleWith suspends (k p.1) p.2
      (⟨r, p.1⟩ :: q.1, q.2)

theorem settle_settleWith (c : Coro Val ε α) (s : σ) :
    Settle (Spec.ofServer serve) suspends c s (settleWith serve script suspends c s).1
      (settleWith serve script suspends c s).2.1 (settleWith serve script suspends c s).2.2 := by
  induction c generalizing s with
  | done o => exact .finished o s
  | ask r k ih =>
    rw [settleWith]
    split
    · rename_i hr
      exact .waits r k s hr
    · rename_i hr
      exact .goes (by simpa using hr) ⟨script r, rfl⟩ (ih _ _)

/-- Where every request suspends, a program asks nothing before its first turn. -/
theorem settleWith_nil {suspends : Req → Bool} (hsuspends : ∀ r, suspends r = true)
    (c : Coro Val ε α) (s : σ) : (settleWith serve script suspends c s).1 = [] := by
  cases c with
  | done o => rfl
  | ask r k => rw [settleWith, if_pos (hsuspends r)]

/-- Start a task in slot `i`. -/
def Pool.spawnWith (suspends : Req → Bool) (i : ℕ) (c : Coro Val ε α) (p : Pool Val ε α σ) :
    Pool Val ε α σ :=
  let q := settleWith serve script suspends c p.state
  ⟨q.2.2, Function.update p.tasks i (some ⟨c, q.2.1, q.1⟩)⟩

/-- Let the task in slot `i` take a turn, if it waits. -/
def Pool.turnWith (suspends : Req → Bool) (i : ℕ) (p : Pool Val ε α σ) : Pool Val ε α σ :=
  match p.tasks i with
  | some ⟨c, ask r k, t⟩ =>
    let a := serve r (script r) p.state
    let q := settleWith serve script suspends (k a.1) a.2
    ⟨q.2.2, Function.update p.tasks i (some ⟨c, q.2.1, t ++ ⟨r, a.1⟩ :: q.1⟩)⟩
  | _ => p

/-- Let tasks take turns in a given order. -/
def Pool.turnsWith (suspends : Req → Bool) (is : List ℕ) (p : Pool Val ε α σ) : Pool Val ε α σ :=
  is.foldl (fun p i ↦ p.turnWith serve script suspends i) p

/-- What the task in slot `i` does in its next turn. -/
def Pool.turnEvents (suspends : Req → Bool) (i : ℕ) (p : Pool Val ε α σ) : List (Event Val ε) :=
  match p.tasks i with
  | some ⟨_, ask r k, _⟩ =>
    let a := serve r (script r) p.state
    ⟨r, a.1⟩ :: (settleWith serve script suspends (k a.1) a.2).1
  | _ => []

/-- What the tasks do in these turns. -/
def Pool.turnsEvents (suspends : Req → Bool) :
    List ℕ → Pool Val ε α σ → List (ℕ × List (Event Val ε))
  | [], _ => []
  | i :: is, p =>
    (match p.turnEvents serve script suspends i with
      | [] => []
      | e :: t => [(i, e :: t)]) ++
    Pool.turnsEvents suspends is (p.turnWith serve script suspends i)

variable {serve script}

/-- In every turn that is taken something happens. -/
theorem Pool.ne_nil_of_mem_turnsEvents {is : List ℕ} {p : Pool Val ε α σ}
    {l : ℕ × List (Event Val ε)} (h : l ∈ p.turnsEvents serve script suspends is) : l.2 ≠ [] := by
  induction is generalizing p with
  | nil => cases h
  | cons i is ih =>
    rcases List.mem_append.mp h with h | h
    · split at h
      · cases h
      · rw [List.mem_singleton.mp h]
        exact List.cons_ne_nil _ _
    · exact ih h

theorem Pool.turnWith_tasks_of_ne {p : Pool Val ε α σ} {i j : ℕ} (h : i ≠ j) :
    (p.turnWith serve script suspends j).tasks i = p.tasks i := by
  rw [Pool.turnWith]
  split
  · exact Function.update_of_ne h ..
  · rfl

/-- **Starting a task by a script is a step.** -/
theorem Pool.step_spawnWith {p : Pool Val ε α σ} {i : ℕ} {c : Coro Val ε α}
    (hfree : p.tasks i = none) (hc : Startable c) :
    Pool.Step (Spec.ofServer serve) suspends Startable p
      (i, (settleWith serve script suspends c p.state).1) (p.spawnWith serve script suspends i c) :=
  .spawn hfree hc (settle_settleWith serve script c p.state)

/-- **A turn by a script is a step** of a task that waits. -/
theorem Pool.step_turnWith {p : Pool Val ε α σ} {i : ℕ}
    (hwait : p.turnEvents serve script suspends i ≠ []) :
    Pool.Step (Spec.ofServer serve) suspends Startable p
      (i, p.turnEvents serve script suspends i) (p.turnWith serve script suspends i) := by
  rw [Pool.turnEvents] at hwait ⊢
  rw [Pool.turnWith]
  split
  · rename_i c r k t htask
    exact .turn htask rfl ⟨script r, rfl⟩ (settle_settleWith serve script _ _)
  · rename_i h
    split at hwait
    · rename_i c r k t htask
      exact absurd htask (h c r k t)
    · exact absurd rfl hwait

theorem Pool.exists_spawnWith {p : Pool Val ε α σ} {i : ℕ} {c : Coro Val ε α}
    (hfree : p.tasks i = none) (hc : Startable c) :
    ∃ ls, Pool.Steps (Spec.ofServer serve) suspends Startable p ls
      (p.spawnWith serve script suspends i c) :=
  ⟨_, .single (Pool.step_spawnWith hfree hc)⟩

/-- Whether the task waits or not, letting it take a turn leads on. -/
theorem Pool.Steps.exists_turnWith {p q : Pool Val ε α σ} (i : ℕ)
    (h : ∃ ls, Pool.Steps (Spec.ofServer serve) suspends Startable p ls q) :
    ∃ ls, Pool.Steps (Spec.ofServer serve) suspends Startable p ls
      (q.turnWith serve script suspends i) := by
  obtain ⟨ls, h⟩ := h
  by_cases hwait : q.turnEvents serve script suspends i = []
  · refine ⟨ls, ?_⟩
    rw [Pool.turnEvents] at hwait
    rw [Pool.turnWith]
    split at hwait
    · cases hwait
    · exact h
  · exact ⟨_, .tail h (Pool.step_turnWith hwait)⟩

/-- Turns that are taken in a given order lead on. -/
theorem Pool.Steps.exists_turnsWith {p q : Pool Val ε α σ} (is : List ℕ)
    (h : ∃ ls, Pool.Steps (Spec.ofServer serve) suspends Startable p ls q) :
    ∃ ls, Pool.Steps (Spec.ofServer serve) suspends Startable p ls
      (q.turnsWith serve script suspends is) := by
  induction is generalizing q with
  | nil => exact h
  | cons i is ih => exact ih (Pool.Steps.exists_turnWith i h)

/-- A task that has no turn stays as it is. -/
theorem Pool.turnsWith_tasks_of_notMem {p : Pool Val ε α σ} {is : List ℕ} {i : ℕ} (h : i ∉ is) :
    (p.turnsWith serve script suspends is).tasks i = p.tasks i := by
  induction is generalizing p with
  | nil => rfl
  | cons j is ih =>
    rw [List.mem_cons, not_or] at h
    exact (ih h.2).trans (Pool.turnWith_tasks_of_ne h.1)

/-- A task that takes turns is still the one with its program. -/
theorem Pool.program_of_turnWith {p : Pool Val ε α σ} {i j : ℕ} {task : Task Val ε α}
    (h : (p.turnWith serve script suspends j).tasks i = some task) :
    ∃ task', p.tasks i = some task' ∧ task.program = task'.program := by
  rw [Pool.turnWith] at h
  split at h
  · rename_i c r k t hj
    dsimp only at h
    by_cases hij : i = j
    · subst hij
      rw [Function.update_self] at h
      cases h
      exact ⟨_, hj, rfl⟩
    · rw [Function.update_of_ne hij] at h
      exact ⟨task, h, rfl⟩
  · exact ⟨task, h, rfl⟩

theorem Pool.program_of_turnsWith {p : Pool Val ε α σ} {is : List ℕ} {i : ℕ} {task : Task Val ε α}
    (h : (p.turnsWith serve script suspends is).tasks i = some task) :
    ∃ task', p.tasks i = some task' ∧ task.program = task'.program := by
  induction is generalizing p with
  | nil => exact ⟨task, h, rfl⟩
  | cons j is ih =>
    obtain ⟨task₁, htask₁, hprogram⟩ := ih h
    obtain ⟨task₂, htask₂, hprogram'⟩ := Pool.program_of_turnWith htask₁
    exact ⟨task₂, htask₂, hprogram.trans hprogram'⟩

/-- A started task has its program; the others are as they were. -/
theorem Pool.program_of_spawnWith {p : Pool Val ε α σ} {i j : ℕ} {c : Coro Val ε α}
    {task : Task Val ε α} (h : (p.spawnWith serve script suspends j c).tasks i = some task) :
    (i = j ∧ task.program = c) ∨ p.tasks i = some task := by
  rw [Pool.spawnWith] at h
  dsimp only at h
  by_cases hij : i = j
  · subst hij
    rw [Function.update_self] at h
    cases h
    exact .inl ⟨rfl, rfl⟩
  · rw [Function.update_of_ne hij] at h
    exact .inr h

end Scripted

/-- A task that is over stays as it is. -/
theorem Pool.Steps.over {p q : Pool Val ε α σ} {ls : List (ℕ × List (Event Val ε))}
    (h : Pool.Steps S suspends Startable p ls q) {i : ℕ} {task : Task Val ε α} {o : Except ε α}
    (htask : p.tasks i = some task) (hover : task.rest = done o) : q.tasks i = some task := by
  induction h with
  | refl => exact htask
  | tail _ hstep ih =>
    cases hstep with
    | @spawn j c c' t s' hfree hc hrun =>
      have hne : i ≠ j := fun hij ↦ by
        rw [← hij, ih] at hfree
        cases hfree
      exact (Function.update_of_ne hne ..).trans ih
    | @turn j task' r k a c' t s₁ s' htask' hwait hstep hrun =>
      have hne : i ≠ j := fun hij ↦ by
        rw [← hij, ih] at htask'
        cases htask'
        rw [hover] at hwait
        cases hwait
      exact (Function.update_of_ne hne ..).trans ih

/-- A task keeps the program it was started with. -/
theorem Pool.Steps.program {p q : Pool Val ε α σ} {ls : List (ℕ × List (Event Val ε))}
    (h : Pool.Steps S suspends Startable p ls q) {i : ℕ} {task : Task Val ε α}
    (htask : p.tasks i = some task) :
    ∃ task', q.tasks i = some task' ∧ task'.program = task.program := by
  induction h with
  | refl => exact ⟨task, htask, rfl⟩
  | tail _ hstep ih =>
    obtain ⟨task₁, htask₁, hprogram⟩ := ih
    cases hstep with
    | @spawn j c c' t s' hfree hc hrun =>
      have hne : i ≠ j := fun hij ↦ by
        rw [← hij, htask₁] at hfree
        cases hfree
      exact ⟨task₁, (Function.update_of_ne hne ..).trans htask₁, hprogram⟩
    | @turn j task₂ r k a c' t s₁ s' htask₂ hwait hstep hrun =>
      by_cases hij : i = j
      · subst hij
        obtain rfl := Option.some.inj (htask₁.symm.trans htask₂)
        exact ⟨_, Function.update_self .., hprogram⟩
      · exact ⟨task₁, (Function.update_of_ne hij ..).trans htask₁, hprogram⟩

/-- Where every request suspends, a step of a pool is at most one request. -/
theorem Pool.Step.single {p q : Pool Val ε α σ} {l : ℕ × List (Event Val ε)}
    (hsuspends : ∀ r, suspends r = true) (h : Pool.Step S suspends Startable p l q) :
    (l.2 = [] ∧ q.state = p.state) ∨
      ∃ task r k a, p.tasks l.1 = some task ∧ task.rest = ask r k ∧ l.2 = [⟨r, a⟩] ∧
        S.step p.state r a q.state := by
  have hsettle : ∀ {c c' : Coro Val ε α} {s s' : σ} {t : List (Event Val ε)},
      Settle S suspends c s t c' s' → t = [] ∧ s' = s := by
    rintro c c' s s' t h
    cases h with
    | finished o s => exact ⟨rfl, rfl⟩
    | waits r k s h => exact ⟨rfl, rfl⟩
    | goes h hstep hrest => simp [hsuspends] at h
  cases h with
  | spawn hfree hc hrun => exact .inl (hsettle hrun)
  | @turn i task r k a c' t s₁ s' htask hwait hstep hrun =>
    obtain ⟨rfl, rfl⟩ := hsettle hrun
    exact .inr ⟨task, r, k, a, htask, hwait, rfl, hstep⟩

theorem Settle.after {c c' : Coro Val ε α} {s s' : σ} {t : List (Event Val ε)}
    (h : Settle S suspends c s t c' s') : After c t c' := by
  induction h with
  | finished o s => exact .nil _
  | waits r k s h => exact .nil _
  | goes h hstep hrest ih => exact .cons ih

/-- Every event of a turn was answered by the rules. -/
theorem Settle.events {c c' : Coro Val ε α} {s s' : σ} {t : List (Event Val ε)}
    (h : Settle S suspends c s t c' s') : ∀ e ∈ t, ∃ s₁ s₂, S.step s₁ e.1 e.2 s₂ := by
  induction h with
  | finished o s => simp
  | waits r k s h => simp
  | goes h hstep hrest ih =>
    intro e he
    rcases List.mem_cons.mp he with rfl | he
    · exact ⟨_, _, hstep⟩
    · exact ih e he

/-- The events of a task, in their order. -/
def eventsOf (ls : List (ℕ × List (Event Val ε))) (i : ℕ) : List (Event Val ε) :=
  (ls.filter fun l ↦ l.1 = i).flatMap Prod.snd

theorem mem_eventsOf {ls : List (ℕ × List (Event Val ε))} {i : ℕ} {e : Event Val ε} :
    e ∈ eventsOf ls i ↔ ∃ es, (i, es) ∈ ls ∧ e ∈ es := by
  simp only [eventsOf, List.mem_flatMap, List.mem_filter, decide_eq_true_eq]
  constructor
  · rintro ⟨⟨j, es⟩, ⟨hl, rfl⟩, he⟩
    exact ⟨es, hl, he⟩
  · rintro ⟨es, hl, he⟩
    exact ⟨(i, es), ⟨hl, rfl⟩, he⟩

theorem eventsOf_append (ls ms : List (ℕ × List (Event Val ε))) (i : ℕ) :
    eventsOf (ls ++ ms) i = eventsOf ls i ++ eventsOf ms i := by
  simp only [eventsOf, List.filter_append, List.flatMap_append]

/-- **What a task has done**: its history is what the labels say of it, and what is left of it is
what is left of its program after that. -/
theorem Pool.Steps.history {s : σ} {p : Pool Val ε α σ} {ls : List (ℕ × List (Event Val ε))}
    (h : Pool.Steps S suspends Startable (Pool.empty s) ls p) (i : ℕ) :
    (p.tasks i = none → eventsOf ls i = []) ∧ ∀ task, p.tasks i = some task →
      task.history = eventsOf ls i ∧ After task.program task.history task.rest := by
  generalize hp₀ : Pool.empty s = p₀ at h
  induction h with
  | refl =>
    subst hp₀
    exact ⟨fun _ ↦ rfl, fun task htask ↦ by cases htask⟩
  | @tail q r ls l _ hstep ih =>
    obtain ⟨hnone, hsome⟩ := ih
    have hevents : eventsOf (ls ++ [l]) i = eventsOf ls i ++ if l.1 = i then l.2 else [] := by
      simp only [eventsOf, List.filter_append, List.flatMap_append]
      congr 1
      by_cases hi : l.1 = i <;> simp [hi]
    rw [hevents]
    cases hstep with
    | @spawn j c c' t s' hfree hc hrun =>
      dsimp only
      by_cases hij : i = j
      · subst hij
        rw [Function.update_self, if_pos rfl, hnone hfree]
        refine ⟨by simp, ?_⟩
        rintro _ ⟨⟩
        exact ⟨rfl, hrun.after⟩
      · rw [Function.update_of_ne hij, if_neg (Ne.symm hij), List.append_nil]
        exact ⟨hnone, hsome⟩
    | @turn j task r k a c' t s₁ s' htask hwait hstep hrun =>
      dsimp only
      by_cases hij : i = j
      · subst hij
        obtain ⟨hhistory, hafter⟩ := hsome task htask
        rw [Function.update_self, if_pos rfl, ← hhistory]
        refine ⟨by simp, ?_⟩
        rintro _ ⟨⟩
        refine ⟨rfl, hafter.append ?_⟩
        rw [hwait]
        exact .cons hrun.after
      · rw [Function.update_of_ne hij, if_neg (Ne.symm hij), List.append_nil]
        exact ⟨hnone, hsome⟩

/-- Every event of a run was answered by the rules. -/
theorem Pool.Steps.events {p q : Pool Val ε α σ} {ls : List (ℕ × List (Event Val ε))}
    (h : Pool.Steps S suspends Startable p ls q) :
    ∀ l ∈ ls, ∀ e ∈ l.2, ∃ s₁ s₂, S.step s₁ e.1 e.2 s₂ := by
  induction h with
  | refl => simp
  | tail _ hstep ih =>
    intro l hl e he
    rcases List.mem_append.mp hl with hl | hl
    · exact ih l hl e he
    · rw [List.mem_singleton] at hl
      subst hl
      cases hstep with
      | spawn hfree hc hrun => exact hrun.events e he
      | turn htask hwait hstep hrun =>
        rcases List.mem_cons.mp he with rfl | he
        · exact ⟨_, _, hstep⟩
        · exact hrun.events e he

/-- Where every request suspends, every step of a run is at most one request. -/
theorem Pool.Steps.eq_singleton {p q : Pool Val ε α σ} {ls : List (ℕ × List (Event Val ε))}
    (hsuspends : ∀ r, suspends r = true) (h : Pool.Steps S suspends Startable p ls q) {i : ℕ}
    {es : List (Event Val ε)} (hl : (i, es) ∈ ls) {e : Event Val ε} (he : e ∈ es) : es = [e] := by
  induction h with
  | refl => simp at hl
  | tail _ hstep ih =>
    rcases List.mem_append.mp hl with hl | hl
    · exact ih hl
    · obtain rfl := List.mem_singleton.mp hl
      obtain ⟨hnil, -⟩ | ⟨task, r, k, a, -, -, hes, -⟩ := hstep.single hsuspends
      · dsimp only at hnil
        simp [hnil] at he
      · dsimp only at hes
        subst hes
        rw [List.mem_singleton.mp he]

/-- A run can be cut where its labels are cut. -/
theorem Pool.Steps.split {p r : Pool Val ε α σ} {ls ms : List (ℕ × List (Event Val ε))}
    (h : Pool.Steps S suspends Startable p (ls ++ ms) r) :
    ∃ q, Pool.Steps S suspends Startable p ls q ∧ Pool.Steps S suspends Startable q ms r := by
  induction ms using List.reverseRecOn generalizing r with
  | nil =>
    rw [List.append_nil] at h
    exact ⟨r, h, .refl r⟩
  | append_singleton ms l ih =>
    rw [← List.append_assoc] at h
    generalize hls : (ls ++ ms) ++ [l] = ns at h
    cases h with
    | refl => simp at hls
    | @tail r' _ ns' l' h hstep =>
      obtain ⟨rfl, hl⟩ := List.append_inj' hls rfl
      obtain rfl := List.singleton_inj.mp hl
      obtain ⟨q, hq, hq'⟩ := ih h
      exact ⟨q, hq, .tail hq' hstep⟩

/-- A run with labels takes a first step. -/
theorem Pool.Steps.first {p r : Pool Val ε α σ} {l : ℕ × List (Event Val ε)}
    {ls : List (ℕ × List (Event Val ε))} (h : Pool.Steps S suspends Startable p (l :: ls) r) :
    ∃ q, Pool.Step S suspends Startable p l q ∧ Pool.Steps S suspends Startable q ls r := by
  obtain ⟨q, hq, hrest⟩ := Pool.Steps.split (show Pool.Steps _ _ _ _ ([l] ++ ls) r from h)
  generalize hl : [l] = ms at hq
  cases hq with
  | refl => simp at hl
  | @tail q' _ ms' l' h hstep =>
    obtain ⟨hms, hl⟩ := List.append_inj' (show [] ++ [l] = ms' ++ [l'] from hl) rfl
    obtain rfl := List.singleton_inj.mp hl
    subst hms
    generalize hnil : ([] : List (ℕ × List (Event Val ε))) = ns at h
    cases h with
    | refl => exact ⟨q, hstep, hrest⟩
    | tail => simp at hnil

/-- A task is between two turns: it is over, or waits for the answer to a suspending request. -/
def AtRest (suspends : Req → Bool) : Coro Val ε α → Prop
  | done _ => True
  | ask r _ => suspends r = true

theorem Settle.atRest {c c' : Coro Val ε α} {s s' : σ} {t : List (Event Val ε)}
    (h : Settle S suspends c s t c' s') : AtRest suspends c' := by
  induction h with
  | finished o s => trivial
  | waits r k s h => exact h
  | goes h hstep hrest ih => exact ih

/-! ## Protocols -/

/-- A protocol for tasks that share a state.  `Θ` is the type of typestates. -/
structure Protocol {Req : Type} {Val : Req → Type} {ε σ : Type} (S : Spec Val ε σ)
    (suspends : Req → Bool) (Θ : Type) where
  /-- Which requests a task may make in a typestate, and where the answer takes it. -/
  typestate : Spec Val ε Θ
  /-- The typestate of a task that has not done anything. -/
  start : Θ
  /-- How the shared state and the typestates of all tasks hang together. -/
  inv : σ → (ℕ → Θ) → Prop
  /-- What else a task in this typestate may rely on, as long as its turn lasts. -/
  turn : σ → Θ → Prop
  /-- Nothing is relied on by a task that starts. -/
  turn_start : ∀ s, turn s start
  /-- Nothing is relied on by a task that was suspended. -/
  turn_resume : ∀ s q r, suspends r = true → typestate.pre q r → turn s q
  /-- An allowed request of any task keeps the invariant. -/
  keep : ∀ s θ i r a s', inv s θ → turn s (θ i) → typestate.pre (θ i) r → S.step s r a s' →
    ∃ q, typestate.step (θ i) r a q ∧ inv s' (Function.update θ i q) ∧ turn s' q

namespace Protocol

variable (P : Protocol S suspends Θ)

/-- Something stays true once it is, and while it is, only events satisfying `E` happen. -/
structure Stable (M : σ → Prop) (E : Event Val ε → Prop) : Prop where
  /-- `M` stays true. -/
  stays : ∀ s θ i r a s', P.inv s θ → P.turn s (θ i) → P.typestate.pre (θ i) r →
    S.step s r a s' → M s → M s'
  /-- Only events satisfying `E` happen. -/
  events : ∀ s θ i r a s', P.inv s θ → P.turn s (θ i) → P.typestate.pre (θ i) r →
    S.step s r a s' → M s → E ⟨r, a⟩

/-- Nothing in particular stays true. -/
theorem stable_true : P.Stable (fun _ ↦ True) fun _ ↦ True := ⟨by simp, by simp⟩

variable {P}

/-- **What one turn does**: the typestate of the task that moved is the only one to change, the
invariant is kept, what is left of the task still meets its specification, and what the task relied
on holds until the turn ends. -/
theorem settle {c c' : Coro Val ε α} {s s' : σ} {t : List (Event Val ε)} {θ : ℕ → Θ} {i : ℕ}
    {Q : List (Event Val ε) → Except ε α → Θ → Prop} {M : σ → Prop} {E : Event Val ε → Prop}
    (hM : P.Stable M E) (hrun : Settle S suspends c s t c' s') (hinv : P.inv s θ)
    (hturn : P.turn s (θ i)) (hc : Sat P.typestate c (θ i) Q) :
    ∃ q, (P.inv s' (Function.update θ i q) ∧ P.turn s' q) ∧ P.typestate.Path (θ i) t q ∧
      Sat P.typestate c' q (fun t' o q' ↦ Q (t ++ t') o q') ∧ (M s → M s' ∧ ∀ e ∈ t, E e) := by
  induction hrun generalizing θ Q with
  | finished o s =>
    refine ⟨θ i, ⟨?_, hturn⟩, rfl, by simpa using hc, fun h ↦ ⟨h, by simp⟩⟩
    rwa [Function.update_eq_self]
  | waits r k s h =>
    refine ⟨θ i, ⟨?_, hturn⟩, rfl, by simpa using hc, fun h ↦ ⟨h, by simp⟩⟩
    rwa [Function.update_eq_self]
  | @goes r k s s₁ s' a t c' h hstep hrest ih =>
    obtain ⟨q₁, hq₁, hinv₁, hturn₁⟩ := P.keep s θ i r a s₁ hinv hturn hc.1 hstep
    have hc₁ := hc.2 a q₁ hq₁
    obtain ⟨q, hinv', hpath, hc', hM'⟩ := ih (θ := Function.update θ i q₁) hinv₁
      (by rwa [Function.update_self]) (by rwa [Function.update_self])
    rw [Function.update_idem] at hinv'
    rw [Function.update_self] at hpath
    refine ⟨q, hinv', ⟨q₁, hq₁, hpath⟩, hc', fun hMs ↦ ?_⟩
    obtain ⟨hMs', hE⟩ := hM' (hM.stays s θ i r a s₁ hinv hturn hc.1 hstep hMs)
    refine ⟨hMs', ?_⟩
    intro e he
    rcases List.mem_cons.mp he with rfl | he
    · exact hM.events s θ i r a s₁ hinv hturn hc.1 hstep hMs
    · exact hE e he

/-- A task meets the protocol: the typestate `q` is where its history has taken it, it is at rest,
and it will meet the postcondition of its program. -/
structure TaskMeets (P : Protocol S suspends Θ)
    (Post : Coro Val ε α → List (Event Val ε) → Except ε α → Θ → Prop) (task : Task Val ε α)
    (q : Θ) : Prop where
  /-- The typestate is where the history has taken the task. -/
  path : P.typestate.Path P.start task.history q
  /-- The task is over, or waits. -/
  rest : AtRest suspends task.rest
  /-- The task will meet its specification. -/
  sat : Sat P.typestate task.rest q fun t o q' ↦ Post task.program (task.history ++ t) o q'

/-- A pool in which every task meets the protocol; the unused slots are in the start state. -/
structure Meets (P : Protocol S suspends Θ)
    (Post : Coro Val ε α → List (Event Val ε) → Except ε α → Θ → Prop) (p : Pool Val ε α σ)
    (θ : ℕ → Θ) : Prop where
  /-- The invariant holds. -/
  inv : P.inv p.state θ
  /-- Unused slots have done nothing. -/
  unused : ∀ i, p.tasks i = none → θ i = P.start
  /-- Each task meets its specification. -/
  task : ∀ i task, p.tasks i = some task → P.TaskMeets Post task (θ i)

variable {Post : Coro Val ε α → List (Event Val ε) → Except ε α → Θ → Prop}

theorem Meets.empty {s : σ} (h : P.inv s fun _ ↦ P.start) :
    P.Meets Post (Pool.empty s) fun _ ↦ P.start :=
  ⟨h, fun _ _ ↦ rfl, by simp [Pool.empty]⟩

/-- Moving one slot of a pool keeps the others as they were. -/
theorem Meets.update {p : Pool Val ε α σ} {θ : ℕ → Θ} (h : P.Meets Post p θ) {i : ℕ} {s' : σ}
    {q : Θ} {task : Task Val ε α} (hinv : P.inv s' (Function.update θ i q))
    (htask : P.TaskMeets Post task q) :
    P.Meets Post ⟨s', Function.update p.tasks i (some task)⟩ (Function.update θ i q) := by
  refine ⟨hinv, fun j hj ↦ ?_, fun j task' hj ↦ ?_⟩ <;> dsimp only at hj
  · by_cases hij : j = i
    · subst hij; simp at hj
    · rw [Function.update_of_ne hij] at hj ⊢
      exact h.unused j hj
  · by_cases hij : j = i
    · subst hij
      simp only [Function.update_self, Option.some.injEq] at hj ⊢
      subst hj
      exact htask
    · rw [Function.update_of_ne hij] at hj ⊢
      exact h.task j task' hj

/-- **One step of a pool.**  The task that has moved may still rely on what it relied on. -/
theorem Meets.step (hstart : ∀ c, Startable c → Sat P.typestate c P.start (Post c))
    {M : σ → Prop} {E : Event Val ε → Prop} (hM : P.Stable M E)
    {p p' : Pool Val ε α σ} {l : ℕ × List (Event Val ε)} {θ : ℕ → Θ} (h : P.Meets Post p θ)
    (hstep : Pool.Step S suspends Startable p l p') :
    (∃ q, P.Meets Post p' (Function.update θ l.1 q) ∧ P.turn p'.state q) ∧
      (M p.state → M p'.state ∧ ∀ e ∈ l.2, E e) := by
  cases hstep with
  | @spawn i c c' t s' hfree hc hrun =>
    have hsat := hstart c hc
    have hi := h.unused i hfree
    obtain ⟨q, ⟨hinv, hturn⟩, hpath, hc', hMs⟩ := settle (i := i) hM hrun h.inv
      (hi ▸ P.turn_start p.state) (by rwa [hi])
    rw [hi] at hpath
    exact ⟨⟨q, h.update hinv ⟨hpath, hrun.atRest, hc'⟩, hturn⟩, hMs⟩
  | @turn i task r k a c' t s₁ s' htask hwait hstep hrun =>
    obtain ⟨hpath, hrest, hsat⟩ := h.task i task htask
    rw [hwait] at hsat hrest
    have hturn := P.turn_resume p.state (θ i) r hrest hsat.1
    obtain ⟨q₁, hq₁, hinv₁, hturn₁⟩ := P.keep _ θ i r a s₁ h.inv hturn hsat.1 hstep
    have hc₁ := hsat.2 a q₁ hq₁
    obtain ⟨q, ⟨hinv, hturn'⟩, hpath', hc', hMs⟩ :=
      settle (θ := Function.update θ i q₁) (i := i) hM hrun
      hinv₁ (by rwa [Function.update_self]) (by rwa [Function.update_self])
    rw [Function.update_idem] at hinv
    rw [Function.update_self] at hpath'
    refine ⟨⟨q, h.update hinv ⟨hpath.append ⟨q₁, hq₁, hpath'⟩, hrun.atRest, ?_⟩, hturn'⟩,
      fun hM₀ ↦ ?_⟩
    · simpa only [List.append_assoc, List.cons_append] using hc'
    · obtain ⟨hM', hE⟩ := hMs (hM.stays _ θ i r a s₁ h.inv hturn hsat.1 hstep hM₀)
      refine ⟨hM', ?_⟩
      intro e he
      rcases List.mem_cons.mp he with rfl | he
      · exact hM.events _ θ i r a s₁ h.inv hturn hsat.1 hstep hM₀
      · exact hE e he

/-- **Soundness of protocols**: if every program that may be started meets the protocol, then the
invariant holds after any steps of any tasks, and every task still meets its postcondition. -/
theorem sound (hstart : ∀ c, Startable c → Sat P.typestate c P.start (Post c))
    {p p' : Pool Val ε α σ} {ls : List (ℕ × List (Event Val ε))} {θ : ℕ → Θ}
    (h : P.Meets Post p θ) (hsteps : Pool.Steps S suspends Startable p ls p') :
    ∃ θ', P.Meets Post p' θ' := by
  induction hsteps with
  | refl => exact ⟨θ, h⟩
  | tail _ hstep ih =>
    obtain ⟨θ', h'⟩ := ih
    obtain ⟨⟨q, hq, -⟩, -⟩ := h'.step hstart P.stable_true hstep
    exact ⟨_, hq⟩

/-- **What stays true**: from a state where `M` holds it holds forever, and only events satisfying
`E` happen from then on, whichever task they belong to. -/
theorem steps_stable (hstart : ∀ c, Startable c → Sat P.typestate c P.start (Post c))
    {M : σ → Prop} {E : Event Val ε → Prop} (hM : P.Stable M E) {p p' : Pool Val ε α σ}
    {ls : List (ℕ × List (Event Val ε))} {θ : ℕ → Θ} (h : P.Meets Post p θ)
    (hsteps : Pool.Steps S suspends Startable p ls p') (hMp : M p.state) :
    M p'.state ∧ ∀ l ∈ ls, ∀ e ∈ l.2, E e := by
  induction hsteps with
  | refl => exact ⟨hMp, by simp⟩
  | tail hsteps hstep ih =>
    obtain ⟨hMq, hE⟩ := ih
    obtain ⟨θ', h'⟩ := sound hstart h hsteps
    obtain ⟨hMr, hE'⟩ := (h'.step hstart hM hstep).2 hMq
    refine ⟨hMr, fun l hl ↦ ?_⟩
    rcases List.mem_append.mp hl with hl | hl
    · exact hE l hl
    · rw [List.mem_singleton] at hl
      exact hl ▸ hE'

/-- A task that is over has met the postcondition of its program. -/
theorem TaskMeets.over {task : Task Val ε α} {q : Θ} (h : P.TaskMeets Post task q)
    {o : Except ε α} (hover : task.rest = done o) : Post task.program task.history o q := by
  have hsat := h.sat
  rw [hover] at hsat
  simpa [Sat] using hsat

end Protocol

end Coroutine
