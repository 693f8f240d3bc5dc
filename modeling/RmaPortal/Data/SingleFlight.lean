import Mathlib.Data.Nat.Notation
import Mathlib.Logic.Function.Basic
import Mathlib.Logic.Relation

/-!
# Sharing one run among many calls

A *single flight* is a way to share work.  A call that finds nobody at work *leads* a run of its
own; a call that finds a run going on *joins* it and waits for its result; a call that waits may
*leave* without the result.  Calls and runs are numbered.

## What is here

* `Stage` and `Calls` — where a call has got to, and where all of them have.  Calls and results
  are of any type.
* `Step` and `Steps` — the whole protocol: a call leads or joins, a leader comes to an end, and a
  call that waits is given the result or leaves.
* `Becomes` and `Steps.becomes` — what can become of a call in many steps: it stays with its run,
  and in its part.
* `Sound` — what holds in every state that can be reached.  There is at most one run; a run has at
  most one leader; what its leader got is what everybody gets who is given something; and a call
  waits only for a run that somebody leads or has led.
* `Sound.update`, `Sound.step`, `Sound.steps` — the invariant, by a lemma on one call that moves.
* `Sound.result_of_joins` — a call is given what the run it has joined comes to.

Nothing is said about what a run does or how the callers find each other; a program that shares
its work is shown to be a single flight by finding the stages of its calls in it.
-/

set_option autoImplicit false

namespace SingleFlight

variable {ρ : Type}

/-- Where a call has got to. -/
inductive Stage (ρ : Type) : Type
  /-- It is in the middle of a run of its own. -/
  | leads (run : ℕ)
  /-- Its run has ended, with this result. -/
  | led (run : ℕ) (result : ρ)
  /-- It waits for the run of another call. -/
  | joins (run : ℕ)
  /-- It was given the result of the run it has waited for. -/
  | joined (run : ℕ) (result : ρ)
  /-- It has stopped waiting. -/
  | left (run : ℕ)

namespace Stage

/-- The run a call is about. -/
def run : Stage ρ → ℕ
  | leads f => f
  | led f _ => f
  | joins f => f
  | joined f _ => f
  | left f => f

/-- The run is the call's own. -/
def IsLeader : Stage ρ → Prop
  | leads _ => True
  | led _ _ => True
  | _ => False

/-- What can become of a call. -/
inductive Becomes : Stage ρ → Stage ρ → Prop
  | refl (x : Stage ρ) : Becomes x x
  | finish (f : ℕ) (o : ρ) : Becomes (leads f) (led f o)
  | deliver (f : ℕ) (o : ρ) : Becomes (joins f) (joined f o)
  | leave (f : ℕ) : Becomes (joins f) (left f)

theorem Becomes.trans {x y z : Stage ρ} (h : Becomes x y) (h' : Becomes y z) : Becomes x z := by
  cases h with
  | refl => exact h'
  | finish f o => cases h'; exact .finish f o
  | deliver f o => cases h'; exact .deliver f o
  | leave f => cases h'; exact .leave f

/-- A call stays with its run, and in its part. -/
theorem Becomes.same {x y : Stage ρ} (h : Becomes x y) :
    y.run = x.run ∧ (y.IsLeader ↔ x.IsLeader) := by
  cases h <;> exact ⟨rfl, Iff.rfl⟩

end Stage

/-- Where all calls have got to; `none` is a call that has not been made. -/
abbrev Calls (ρ : Type) : Type := ℕ → Option (Stage ρ)

/-- What the calls can do. -/
inductive Step : Calls ρ → Calls ρ → Prop
  /-- A call that finds nobody at work starts a new run. -/
  | lead {calls : Calls ρ} {i f : ℕ} (hfree : calls i = none)
      (hidle : ∀ j g, calls j ≠ some (.leads g)) (hfresh : ∀ j x, calls j = some x → x.run ≠ f) :
      Step calls (Function.update calls i (some (.leads f)))
  /-- A call that finds a run going on waits for it. -/
  | join {calls : Calls ρ} {i j f : ℕ} (hfree : calls i = none)
      (hleads : calls j = some (.leads f)) :
      Step calls (Function.update calls i (some (.joins f)))
  /-- A run ends. -/
  | finish {calls : Calls ρ} {i f : ℕ} (hleads : calls i = some (.leads f)) (o : ρ) :
      Step calls (Function.update calls i (some (.led f o)))
  /-- A call is given the result it has waited for. -/
  | deliver {calls : Calls ρ} {i j f : ℕ} {o : ρ} (hjoins : calls i = some (.joins f))
      (hled : calls j = some (.led f o)) :
      Step calls (Function.update calls i (some (.joined f o)))
  /-- A call stops waiting. -/
  | leave {calls : Calls ρ} {i f : ℕ} (hjoins : calls i = some (.joins f)) :
      Step calls (Function.update calls i (some (.left f)))

/-- Any number of steps. -/
abbrev Steps : Calls ρ → Calls ρ → Prop := Relation.ReflTransGen Step

/-- What holds in every state that can be reached. -/
structure Sound (calls : Calls ρ) : Prop where
  /-- There is at most one run. -/
  leads_unique : ∀ {i j f g}, calls i = some (.leads f) → calls j = some (.leads g) → i = j
  /-- A run has at most one leader … -/
  leader_unique : ∀ {i j x y}, calls i = some x → calls j = some y → x.IsLeader → y.IsLeader →
    x.run = y.run → i = j
  /-- … and a run that somebody has joined has one. -/
  exists_leader : ∀ {i x}, calls i = some x → ∃ j y, calls j = some y ∧ y.IsLeader ∧ y.run = x.run
  /-- What a call is given is what the leader of the run got. -/
  joined : ∀ {i f o}, calls i = some (.joined f o) → ∃ j, calls j = some (.led f o)

theorem Sound.start : Sound (fun _ ↦ none : Calls ρ) where
  leads_unique := by simp
  leader_unique := by simp
  exists_leader := by simp
  joined := by simp

/-- A step moves a single call, and on. -/
theorem Step.moves {calls calls' : Calls ρ} (h : Step calls calls') :
    ∃ i x, calls' = Function.update calls i (some x) ∧ ∀ y, calls i = some y → y.Becomes x := by
  cases h with
  | @lead i f hfree => exact ⟨i, _, rfl, by simp [hfree]⟩
  | @join i j f hfree => exact ⟨i, _, rfl, by simp [hfree]⟩
  | @finish i f hleads o =>
    exact ⟨i, _, rfl, fun y hy ↦ by cases hleads.symm.trans hy; exact .finish f o⟩
  | @deliver i j f o hjoins =>
    exact ⟨i, _, rfl, fun y hy ↦ by cases hjoins.symm.trans hy; exact .deliver f o⟩
  | @leave i f hjoins =>
    exact ⟨i, _, rfl, fun y hy ↦ by cases hjoins.symm.trans hy; exact .leave f⟩

theorem Step.becomes {calls calls' : Calls ρ} (h : Step calls calls') {i : ℕ} {x : Stage ρ}
    (hx : calls i = some x) : ∃ y, calls' i = some y ∧ x.Becomes y := by
  obtain ⟨k, z, rfl, hz⟩ := h.moves
  by_cases hik : i = k
  · subst hik
    exact ⟨z, Function.update_self .., hz x hx⟩
  · exact ⟨x, by rwa [Function.update_of_ne hik], .refl x⟩

/-- **What can become of a call in many steps.** -/
theorem Steps.becomes {calls calls' : Calls ρ} (h : Steps calls calls') {i : ℕ} {x : Stage ρ}
    (hx : calls i = some x) : ∃ y, calls' i = some y ∧ x.Becomes y := by
  induction h with
  | refl => exact ⟨x, hx, .refl x⟩
  | tail _ hstep ih =>
    obtain ⟨y, hy, hxy⟩ := ih
    obtain ⟨z, hz, hyz⟩ := hstep.becomes hy
    exact ⟨z, hz, hxy.trans hyz⟩

theorem update_eq_some {calls : Calls ρ} {i j : ℕ} {x y : Stage ρ} :
    Function.update calls i (some x) j = some y ↔ (j = i ∧ x = y) ∨ (j ≠ i ∧ calls j = some y) := by
  by_cases hji : j = i
  · subst hji
    simp
  · simp [hji]

/-- **One call moves on, or is made**: what has to be looked at. -/
theorem Sound.update {calls : Calls ρ} (h : Sound calls) {i : ℕ} {x : Stage ρ}
    (hmoves : ∀ w, calls i = some w → w.Becomes x ∧ ∀ f o, w ≠ .led f o)
    (hleads : ∀ f, x = .leads f → ∀ j g, j ≠ i → calls j ≠ some (.leads g))
    (hunique : x.IsLeader → ∀ j y, j ≠ i → calls j = some y → y.IsLeader → y.run ≠ x.run)
    (hleader : x.IsLeader ∨ ∃ j y, j ≠ i ∧ calls j = some y ∧ y.IsLeader ∧ y.run = x.run)
    (hjoined : ∀ f o, x = .joined f o → ∃ j, calls j = some (.led f o)) :
    Sound (Function.update calls i (some x)) where
  leads_unique := by
    intro j k f g hj hk
    rcases update_eq_some.mp hj with ⟨hji, hx⟩ | ⟨hne, hj⟩ <;>
      rcases update_eq_some.mp hk with ⟨hki, hx'⟩ | ⟨hne', hk⟩
    · exact hji.trans hki.symm
    · exact (hleads f hx k g hne' hk).elim
    · exact (hleads g hx' j f hne hj).elim
    · exact h.leads_unique hj hk
  leader_unique := by
    intro j k y z hj hk hy hz hrun
    rcases update_eq_some.mp hj with ⟨hji, rfl⟩ | ⟨hne, hj⟩ <;>
      rcases update_eq_some.mp hk with ⟨hki, hx⟩ | ⟨hne', hk⟩
    · exact hji.trans hki.symm
    · exact (hunique hy k z hne' hk hz hrun.symm).elim
    · subst hx
      exact (hunique hz j y hne hj hy hrun).elim
    · exact h.leader_unique hj hk hy hz hrun
  exists_leader := by
    -- whoever leads a run before still leads it
    have hkept : ∀ j y, calls j = some y → y.IsLeader →
        ∃ k z, Function.update calls i (some x) k = some z ∧ z.IsLeader ∧ z.run = y.run := by
      intro j y hj hy
      by_cases hji : j = i
      · subst hji
        obtain ⟨hrun, hiff⟩ := (hmoves y hj).1.same
        exact ⟨j, x, Function.update_self .., hiff.mpr hy, hrun⟩
      · exact ⟨j, y, by rwa [Function.update_of_ne hji], hy, rfl⟩
    intro j y hj
    rcases update_eq_some.mp hj with ⟨rfl, rfl⟩ | ⟨hne, hj⟩
    · rcases hleader with hx | ⟨k, z, hne, hk, hz, hrun⟩
      · exact ⟨j, x, hj, hx, rfl⟩
      · exact ⟨k, z, by rwa [Function.update_of_ne hne], hz, hrun⟩
    · obtain ⟨k, z, hk, hz, hrun⟩ := h.exists_leader hj
      obtain ⟨k', z', hk', hz', hrun'⟩ := hkept k z hk hz
      exact ⟨k', z', hk', hz', hrun'.trans hrun⟩
  joined := by
    intro j f o hj
    have hled : ∃ k, calls k = some (.led f o) := by
      rcases update_eq_some.mp hj with ⟨-, hx⟩ | ⟨-, hj⟩
      · exact hjoined f o hx
      · exact h.joined hj
    obtain ⟨k, hk⟩ := hled
    have hki : k ≠ i := fun hki ↦ (hmoves _ (hki ▸ hk)).2 f o rfl
    exact ⟨k, by rwa [Function.update_of_ne hki]⟩

/-- **One step of a single flight.** -/
theorem Sound.step {calls calls' : Calls ρ} (h : Sound calls) (hstep : Step calls calls') :
    Sound calls' := by
  cases hstep with
  | @lead i f hfree hidle hfresh =>
    refine h.update (by simp [hfree]) (fun _ _ j g _ ↦ hidle j g) ?_ (.inl trivial) (by simp)
    intro _ j y _ hj _
    exact hfresh j y hj
  | @join i j f hfree hleads =>
    refine h.update (by simp [hfree]) (by simp) (fun hx ↦ hx.elim) (.inr ?_) (by simp)
    exact ⟨j, _, fun hji ↦ by simp [hji, hfree] at hleads, hleads, trivial, rfl⟩
  | @finish i f hleads o =>
    refine h.update ?_ (by simp) ?_ (.inl trivial) (by simp)
    · intro w hw
      cases hleads.symm.trans hw
      exact ⟨.finish f o, by simp⟩
    · intro _ j y hne hj hy hrun
      exact hne (h.leader_unique hj hleads hy trivial hrun)
  | @deliver i j f o hjoins hled =>
    refine h.update ?_ (by simp) (fun hx ↦ hx.elim) (.inr ⟨j, _, ?_, hled, trivial, rfl⟩) ?_
    · intro w hw
      cases hjoins.symm.trans hw
      exact ⟨.deliver f o, by simp⟩
    · intro hji
      cases (hji ▸ hjoins).symm.trans hled
    · rintro _ _ ⟨⟩
      exact ⟨j, hled⟩
  | @leave i f hjoins =>
    refine h.update ?_ (by simp) (fun hx ↦ hx.elim) (.inr ?_) (by simp)
    · intro w hw
      cases hjoins.symm.trans hw
      exact ⟨.leave f, by simp⟩
    · obtain ⟨j, y, hj, hy, hrun⟩ := h.exists_leader hjoins
      refine ⟨j, y, fun hji ↦ ?_, hj, hy, hrun⟩
      cases (hji ▸ hjoins).symm.trans hj
      exact hy

theorem Sound.steps {calls calls' : Calls ρ} (h : Sound calls) (hsteps : Steps calls calls') :
    Sound calls' := by
  induction hsteps with
  | refl => exact h
  | tail _ hstep ih => exact ih.step hstep

/-- **A call is given what the run it has joined comes to.**  If `i` waits for the run that `j` is
in the middle of and is given a result later on, then `j` has got that result. -/
theorem Sound.result_of_joins {calls calls' : Calls ρ} (h : Sound calls)
    (hsteps : Steps calls calls') {i j f g : ℕ} {o : ρ} (hi : calls i = some (.joins f))
    (hj : calls j = some (.leads f)) (hi' : calls' i = some (.joined g o)) :
    calls' j = some (.led f o) := by
  have h' := h.steps hsteps
  obtain ⟨y, hy, hbecomes⟩ := hsteps.becomes hi
  obtain rfl : g = f := by cases hi'.symm.trans hy; exact hbecomes.same.1
  obtain ⟨k, hk⟩ := h'.joined hi'
  obtain ⟨z, hz, hbecomes⟩ := hsteps.becomes hj
  obtain ⟨hrun, hiff⟩ := hbecomes.same
  obtain rfl := h'.leader_unique hz hk (hiff.mpr trivial) trivial hrun
  exact hk

end SingleFlight
