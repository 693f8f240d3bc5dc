import RmaPortal.Coroutine.Calls
import RmaPortal.Coroutine.Turns

/-!
# Programs side by side

Two systems that know nothing of each other can be put side by side: a request belongs to one of
them, and leaves the state of the other one alone.  What connects them are handlers: an operation
that one system was *given* is a program of the other one.

## What is here

* `Coro.handle` — replace every request of a program by a program of its own.
* `BesideVal`, `Spec.beside` — two systems side by side, and what their requests are answered
  with.
* `Coro.right` — a program of the second of two systems.
* `Settle.next` — a turn of a program that runs another one first and then goes on: it waits
  within that other one, or that one ends and what follows begins.
* `Settle.right` — a turn of a program of the second system is a turn in that system.

With these two lemmas an invariant of each system is an invariant of both: whatever moves in one
of them is a step of it, and stands still in the other one.
-/

set_option autoImplicit false

namespace Coroutine

variable {Req Req' : Type} {Val : Req → Type} {Val' : Req' → Type} {ε : Type} {α β σ σ' : Type}

open Coro

/-! ## Handlers -/

/-- Do what `h` says instead of making requests. -/
def Coro.handle (h : (r : Req) → Coro Val' ε (Val r)) : Coro Val ε α → Coro Val' ε α
  | done o => done o
  | ask r k => (h r).next fun a ↦ (k a).handle h

/-! ## Two systems -/

/-- Requests of two systems, and what they are answered with. -/
abbrev BesideVal {Req Req' : Type} (Val : Req → Type) (Val' : Req' → Type) : Req ⊕ Req' → Type :=
  Sum.elim Val Val'

/-- Two systems side by side. -/
def Spec.beside (S : Spec Val ε σ) (S' : Spec Val' ε σ') :
    Spec (BesideVal Val Val') ε (σ × σ') where
  pre s := Sum.elim (S.pre s.1) (S'.pre s.2)
  step s
    | .inl r, a, s₁ => S.step s.1 r a s₁.1 ∧ s₁.2 = s.2
    | .inr r, a, s₁ => S'.step s.2 r a s₁.2 ∧ s₁.1 = s.1

/-- A program of the second of two systems. -/
def Coro.right : Coro Val' ε α → Coro (BesideVal Val Val') ε α
  | done o => done o
  | ask r k => ask (.inr r) fun a ↦ (k a).right

theorem right_next (c : Coro Val' ε α) (f : Except ε α → Coro Val' ε β) :
    ((c.next f).right : Coro (BesideVal Val Val') ε β) = c.right.next fun o ↦ (f o).right := by
  induction c with
  | done o => rfl
  | ask r k ih => exact congrArg (ask _) (funext ih)

/-! ## Turns -/

section Turns

variable {S : Spec Val ε σ} {suspends : Req → Bool}

/-- **A turn of a program and what follows it**: it waits within the program, or the program ends
and what follows goes on. -/
theorem Settle.next {c : Coro Val ε α} {f : Except ε α → Coro Val ε β} {s s' : σ}
    {t : List (Event Val ε)} {d : Coro Val ε β} (h : Settle S suspends (c.next f) s t d s') :
    (∃ r k, d = (ask r k).next f ∧ Settle S suspends c s t (ask r k) s') ∨
      ∃ o t₁ t₂ s₁, Settle S suspends c s t₁ (done o) s₁ ∧ Settle S suspends (f o) s₁ t₂ d s' := by
  induction c generalizing s t with
  | done o => exact .inr ⟨o, [], t, s, .finished o s, h⟩
  | ask r k ih =>
    cases h with
    | waits _ _ _ hr => exact .inl ⟨r, k, rfl, .waits r k _ hr⟩
    | goes hr hstep hrest =>
      rcases ih _ hrest with ⟨r', k', rfl, hc⟩ | ⟨o, t₁, t₂, s₁, hc, hf⟩
      · exact .inl ⟨r', k', rfl, .goes hr hstep hc⟩
      · exact .inr ⟨o, _, t₂, s₁, .goes hr hstep hc, hf⟩

variable {S' : Spec Val' ε σ'} {suspends' : Req' → Bool}

/-- **A turn of a program of the second system.** -/
theorem Settle.right {c : Coro Val' ε α} {s s₁ : σ × σ'}
    {t : List (Event (BesideVal Val Val') ε)} {d : Coro (BesideVal Val Val') ε α}
    (h : Settle (S.beside S') (Sum.elim suspends suspends') c.right s t d s₁) :
    ∃ t' c', d = c'.right ∧ Settle S' suspends' c s.2 t' c' s₁.2 ∧ s₁.1 = s.1 := by
  induction c generalizing s t with
  | done o =>
    cases h
    exact ⟨[], done o, rfl, .finished o _, rfl⟩
  | ask r k ih =>
    cases h with
    | waits _ _ _ hr => exact ⟨[], ask r k, rfl, .waits r k _ hr, rfl⟩
    | goes hr hstep hrest =>
      obtain ⟨t', c', rfl, hc, hsame⟩ := ih _ hrest
      exact ⟨_, c', rfl, .goes hr hstep.1 hc, hsame.trans hstep.2⟩

end Turns

end Coroutine
