import Mathlib.Data.Nat.Find
import RmaPortal.Coroutine.Basic

/-!
# Loops without a bound

A program is finite, `while True: body` is not.  `rounds body n` is what the loop does in its
first `n` rounds: the body says whether to leave the loop, and with what, and `none` is the
outcome of a loop that is still going on.

## What is here

* `replay` — surroundings that answer by a function of their state leave a program no choice.
* `rounds`, `LoopEnds`, `LoopsForever` — the loop *ends* with an outcome if some number of rounds
  do, and it *goes on for ever* if no number of rounds is enough.
* `replay_rounds_add` — more rounds than enough make no difference.  So a loop has at most one
  outcome (`LoopEnds.unique`), and one that has none goes on for ever (`not_loopEnds_iff`).
* `exists_first_or_none` — either some round decides first, or none ever does.
* `loopEnds_iff` and `loopsForever_iff` — if each round either decides the loop or leads to the
  next of a sequence of states, the first round that decides is all that matters.

In this way a statement about a loop that reads a sequence of observations becomes a statement
about that sequence, in which no loop occurs any more.
-/

set_option autoImplicit false

namespace Coroutine

variable {Req : Type} {Val : Req → Type} {ε : Type} {α β σ : Type}

open Coro

/-! ## Surroundings without a choice -/

/-- Run a program whose requests are answered by a function of the state. -/
def replay (answer : (r : Req) → σ → Except ε (Val r) × σ) :
    Coro Val ε α → σ → Except ε α × σ
  | done o, s => (o, s)
  | ask r k, s => replay answer (k (answer r s).1) (answer r s).2

variable (answer : (r : Req) → σ → Except ε (Val r) × σ)

theorem replay_next (c : Coro Val ε α) (f : Except ε α → Coro Val ε β) (s : σ) :
    replay answer (c.next f) s = replay answer (f (replay answer c s).1) (replay answer c s).2 := by
  induction c generalizing s with
  | done o => rfl
  | ask r k ih => exact ih (answer r s).1 (answer r s).2

theorem replay_bind_of_ok {c : Coro Val ε α} {s s' : σ} {a : α} (f : α → Coro Val ε β)
    (h : replay answer c s = (.ok a, s')) : replay answer (c >>= f) s = replay answer (f a) s' := by
  rw [bind_eq, Coro.bind, replay_next, h]

theorem replay_bind_of_error {c : Coro Val ε α} {s s' : σ} {e : ε} (f : α → Coro Val ε β)
    (h : replay answer c s = (.error e, s')) : replay answer (c >>= f) s = (.error e, s') := by
  rw [bind_eq, Coro.bind, replay_next, h]
  rfl

/-! ## Loops -/

/-- The first `n` rounds of `while True: body`. -/
def rounds (body : Coro Val ε (Option β)) : ℕ → Coro Val ε (Option β)
  | 0 => pure none
  | n + 1 => do
    match ← body with
    | some b => pure (some b)
    | none => rounds body n

theorem only_rounds {P : Req → Prop} {body : Coro Val ε (Option β)} (h : Only P body) (n : ℕ) :
    Only P (rounds body n) := by
  induction n with
  | zero => exact only_pure none
  | succ n ih =>
    refine only_bind h fun o ↦ ?_
    cases o with
    | none => exact ih
    | some b => exact only_pure (some b)

/-- From the state `s`, the loop ends with the outcome `o`. -/
def LoopEnds (body : Coro Val ε (Option β)) (s : σ) (o : Except ε β) : Prop :=
  ∃ n, (replay answer (rounds body n) s).1 = o.map some

/-- From the state `s`, the loop never ends. -/
def LoopsForever (body : Coro Val ε (Option β)) (s : σ) : Prop :=
  ∀ n, (replay answer (rounds body n) s).1 = .ok none

variable {answer} {body : Coro Val ε (Option β)} {s : σ}

theorem replay_rounds_succ_of_none {s' : σ} (h : replay answer body s = (.ok none, s')) (n : ℕ) :
    replay answer (rounds body (n + 1)) s = replay answer (rounds body n) s' :=
  replay_bind_of_ok answer _ h

theorem replay_rounds_succ_of_map_some {o : Except ε β}
    (h : (replay answer body s).1 = o.map some) (n : ℕ) :
    (replay answer (rounds body (n + 1)) s).1 = o.map some := by
  have heq : replay answer body s = (o.map some, (replay answer body s).2) := by rw [← h]
  cases o with
  | ok b => exact congrArg Prod.fst (replay_bind_of_ok answer _ heq)
  | error e => exact congrArg Prod.fst (replay_bind_of_error answer _ heq)

/-- Either the loop is still going on after a round, or the round was its last. -/
theorem eq_none_or_map_some (o : Except ε (Option β)) :
    o = .ok none ∨ ∃ o' : Except ε β, o = o'.map some := by
  rcases o with e | b | b
  · exact Or.inr ⟨.error e, rfl⟩
  · exact Or.inl rfl
  · exact Or.inr ⟨.ok b, rfl⟩

theorem map_some_ne_ok_none {o : Except ε β} : o.map some ≠ .ok none := by
  cases o with
  | ok b => exact fun h ↦ nomatch h
  | error e => exact fun h ↦ nomatch h

theorem map_some_injective {o o' : Except ε β} (h : o.map some = o'.map some) : o = o' := by
  cases o <;> cases o' <;> cases h <;> rfl

/-- More rounds than enough make no difference. -/
theorem replay_rounds_add {n : ℕ} {o : Except ε β}
    (h : (replay answer (rounds body n) s).1 = o.map some) (m : ℕ) :
    (replay answer (rounds body (n + m)) s).1 = o.map some := by
  induction n generalizing s with
  | zero => exact absurd h.symm map_some_ne_ok_none
  | succ n ih =>
    rw [Nat.add_right_comm]
    rcases eq_none_or_map_some (replay answer body s).1 with hnone | ⟨o', ho'⟩
    · have heq : replay answer body s = (.ok none, (replay answer body s).2) := by rw [← hnone]
      rw [replay_rounds_succ_of_none heq] at h ⊢
      exact ih h
    · rw [replay_rounds_succ_of_map_some ho'] at h ⊢
      exact h

/-- **A loop has at most one outcome.** -/
theorem LoopEnds.unique {o o' : Except ε β} (h : LoopEnds answer body s o)
    (h' : LoopEnds answer body s o') : o = o' := by
  obtain ⟨n, hn⟩ := h
  obtain ⟨m, hm⟩ := h'
  have hnm := replay_rounds_add hn m
  rw [Nat.add_comm, replay_rounds_add hm n] at hnm
  exact map_some_injective hnm.symm

/-- A loop that never ends is one that has no outcome. -/
theorem not_loopEnds_iff : (∀ o, ¬ LoopEnds answer body s o) ↔ LoopsForever answer body s := by
  constructor
  · intro h n
    rcases eq_none_or_map_some (replay answer (rounds body n) s).1 with hnone | ⟨o, ho⟩
    · exact hnone
    · exact absurd ⟨n, ho⟩ (h o)
  · rintro h o ⟨n, hn⟩
    exact map_some_ne_ok_none (hn.symm.trans (h n))

/-! ## The first round that decides -/

section Verdict

variable {st : ℕ → σ} {verdict : ℕ → Option (Except ε β)}
  (hnone : ∀ i, verdict i = none → replay answer body (st i) = (.ok none, st (i + 1)))
  (hsome : ∀ i o, verdict i = some o → (replay answer body (st i)).1 = o.map some)

include hnone in
theorem replay_rounds_of_none {i m : ℕ} (h : ∀ j < m, verdict (i + j) = none) (n : ℕ) :
    replay answer (rounds body (n + m)) (st i) = replay answer (rounds body n) (st (i + m)) := by
  induction m generalizing i with
  | zero => rfl
  | succ m ih =>
    rw [← Nat.add_assoc, replay_rounds_succ_of_none (hnone i (h 0 (Nat.succ_pos m))), 
      ih fun j hj ↦ ?_, Nat.add_assoc, Nat.add_comm 1 m]
    rw [Nat.add_assoc, Nat.add_comm 1 j]
    exact h (j + 1) (Nat.succ_lt_succ hj)

include hnone in
theorem loopsForever_of_none (h : ∀ i, verdict i = none) : LoopsForever answer body (st 0) := by
  intro n
  have := replay_rounds_of_none hnone (i := 0) (m := n) (fun j _ ↦ h _) 0
  rw [Nat.zero_add] at this
  rw [this]
  rfl

include hnone hsome in
theorem loopEnds_of_first {i : ℕ} {o : Except ε β} (hi : verdict i = some o)
    (hfirst : ∀ j < i, verdict j = none) : LoopEnds answer body (st 0) o := by
  refine ⟨1 + i, ?_⟩
  rw [replay_rounds_of_none hnone fun j hj ↦ by rw [Nat.zero_add]; exact hfirst j hj, Nat.zero_add]
  exact replay_rounds_succ_of_map_some (hsome i o hi) 0

/-- Either some round decides first, or none ever does. -/
theorem exists_first_or_none (verdict : ℕ → Option (Except ε β)) :
    (∃ i o, verdict i = some o ∧ ∀ j < i, verdict j = none) ∨ ∀ i, verdict i = none := by
  classical
  by_cases h : ∃ i, verdict i ≠ none
  · obtain ⟨o, ho⟩ := Option.ne_none_iff_exists'.mp (Nat.find_spec h)
    exact Or.inl ⟨Nat.find h, o, ho, fun j hj ↦ by simpa using Nat.find_min h hj⟩
  · exact Or.inr fun i ↦ by simpa using not_exists.mp h i

variable (st)

include hnone hsome in
/-- **The first round that decides says how the loop ends.** -/
theorem loopEnds_iff {o : Except ε β} :
    LoopEnds answer body (st 0) o ↔ ∃ i, verdict i = some o ∧ ∀ j < i, verdict j = none := by
  constructor
  · intro h
    rcases exists_first_or_none verdict with ⟨i, o', hi, hfirst⟩ | hnever
    · rw [h.unique (loopEnds_of_first hnone hsome hi hfirst)]
      exact ⟨i, hi, hfirst⟩
    · exact absurd h (not_loopEnds_iff.mpr (loopsForever_of_none hnone hnever) o)
  · rintro ⟨i, hi, hfirst⟩
    exact loopEnds_of_first hnone hsome hi hfirst

include hnone hsome in
/-- **A loop goes on for ever if no round decides.** -/
theorem loopsForever_iff : LoopsForever answer body (st 0) ↔ ∀ i, verdict i = none := by
  constructor
  · intro h
    rcases exists_first_or_none verdict with ⟨i, o, hi, hfirst⟩ | hnever
    · exact absurd (loopEnds_of_first hnone hsome hi hfirst) (not_loopEnds_iff.mpr h o)
    · exact hnever
  · exact loopsForever_of_none hnone

end Verdict

end Coroutine
