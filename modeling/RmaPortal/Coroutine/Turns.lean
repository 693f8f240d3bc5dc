import RmaPortal.Coroutine.Pool

/-!
# What a turn comes to

`Turn S suspends c s Q` says of a program `c`, resumed in the state `s`, what a turn of it comes
to: however the turn goes, `Q` holds of what has happened, of what is left of the program, and of
the state.  There is one rule for each way in which a program can go on (`turn_done`,
`turn_waits`, `turn_goes`), so that a turn is followed by going through the text of the program.

Rules that give fewer answers take fewer turns (`Pool.Steps.mono`).

## What is here

* `Turn` and its rules, `turn_next` for a part of a program that is not suspended, and
  `exists_settle`: a turn can be taken to its end if whatever is asked on the way has an answer.
* `Pool.Steps.path` — a run takes the shared state along its events, whichever tasks they belong
  to; so an invariant of the state alone needs no protocol, only `Spec.Path.invariant`.
* `trail`, `Sat.allowed` — rules that keep a record of what has happened.  A request that was made
  was allowed by what had happened before, in the middle of a run too.
* `Pool.StepsWhere` — any number of steps that satisfy a condition on the state and the label.
* `Pool.Steps.turnsWith`, `Pool.StepsWhere.turnsWith` — turns that are taken in a given order,
  with the events that happen in them.
* `Script`, `Play`, `Pool.move`, `Pool.play` — runs that are played: a list says which slot is
  started with which program and which slot takes a turn, and the answers come from a script.
  What is played is a run (`Pool.steps_of_play`), and since playing is computation, a concrete run
  is found by `rfl`.

Nothing here is about a particular program or a particular kind of request.
-/

set_option autoImplicit false

namespace Coroutine

variable {Req : Type} {Val : Req → Type} {ε : Type} {α σ : Type}

open Coro

section Turn

variable (S : Spec Val ε σ) (suspends : Req → Bool)

/-- However a turn of `c` goes that starts in the state `s`, `Q` holds at its end. -/
def Turn (c : Coro Val ε α) (s : σ) (Q : List (Event Val ε) → Coro Val ε α → σ → Prop) : Prop :=
  ∀ t c' s', Settle S suspends c s t c' s' → Q t c' s'

end Turn

variable {S : Spec Val ε σ} {suspends : Req → Bool} {s : σ}
  {Q : List (Event Val ε) → Coro Val ε α → σ → Prop}

theorem turn_done {o : Except ε α} (h : Q [] (done o) s) : Turn S suspends (done o) s Q := by
  rintro t c' s' ⟨⟩
  exact h

/-- A program that is to wait ends its turn. -/
theorem turn_waits {r : Req} {k : Except ε (Val r) → Coro Val ε α} (hr : suspends r = true)
    (h : Q [] (ask r k) s) : Turn S suspends (ask r k) s Q := by
  intro t c' s' hrun
  cases hrun with
  | waits => exact h
  | goes hgoes => simp [hr] at hgoes

/-- A program that is answered on the spot goes on. -/
theorem turn_goes {r : Req} {k : Except ε (Val r) → Coro Val ε α} (hr : suspends r = false)
    (h : ∀ a s₁, S.step s r a s₁ →
      Turn S suspends (k a) s₁ fun t c' s' ↦ Q (⟨r, a⟩ :: t) c' s') :
    Turn S suspends (ask r k) s Q := by
  intro t c' s' hrun
  cases hrun with
  | waits _ _ _ hwaits => simp [hr] at hwaits
  | goes hgoes hstep hrest => exact h _ _ hstep _ _ _ hrest

/-- A part of a program that is not suspended goes as it leads. -/
theorem turn_next {β : Type} {c : Coro Val ε α} {f : Except ε α → Coro Val ε β}
    {R : Except ε α → σ → Prop} {Q : Coro Val ε β → σ → Prop}
    (honly : Only (fun r ↦ suspends r = false) c) (hc : Leads S c s R)
    (hf : ∀ o s₁, R o s₁ → Turn S suspends (f o) s₁ fun _ ↦ Q) :
    Turn S suspends (c.next f) s fun _ ↦ Q := by
  induction c generalizing s with
  | done o => exact hf o s hc
  | ask r k ih =>
    exact turn_goes honly.1 fun a s₁ hstep ↦ ih a (honly.2 a) (hc.2 a s₁ hstep)

/-- What is answered on the spot does not suspend. -/
theorem Settle.not_suspends {c c' : Coro Val ε α} {s s' : σ} {t : List (Event Val ε)}
    (h : Settle S suspends c s t c' s') : ∀ e ∈ t, suspends e.1 = false := by
  induction h with
  | finished o s => simp
  | waits r k s h => simp
  | goes h hstep hrest ih => exact List.forall_mem_cons.mpr ⟨h, ih⟩

/-- **A turn can be taken to its end** if whatever is asked on the way has an answer. -/
theorem exists_settle {P : Req → Prop} {c : Coro Val ε α} (hc : Only P c)
    (hP : ∀ s r, P r → suspends r = false → ∃ a s', S.step s r a s') (s : σ) :
    ∃ t c' s', Settle S suspends c s t c' s' := by
  induction c generalizing s with
  | done o => exact ⟨[], _, s, .finished o s⟩
  | ask r k ih =>
    cases hr : suspends r with
    | true => exact ⟨[], _, s, .waits r k s hr⟩
    | false =>
      obtain ⟨a, s₁, hstep⟩ := hP s r hc.1 hr
      obtain ⟨t, c', s', h⟩ := ih a (hc.2 a) s₁
      exact ⟨_, c', s', .goes hr hstep h⟩

/-! ## The way of the shared state -/

section Path

variable {Startable : Coro Val ε α → Prop}

theorem Settle.path {c c' : Coro Val ε α} {s s' : σ} {t : List (Event Val ε)}
    (h : Settle S suspends c s t c' s') : S.Path s t s' := by
  induction h with
  | finished o s => rfl
  | waits r k s h => rfl
  | goes h hstep hrest ih => exact ⟨_, hstep, ih⟩

/-- **A run takes the shared state along its events**, whichever tasks they belong to. -/
theorem Pool.Steps.path {p p' : Pool Val ε α σ} {ls : List (ℕ × List (Event Val ε))}
    (h : Pool.Steps S suspends Startable p ls p') :
    S.Path p.state (ls.flatMap Prod.snd) p'.state := by
  induction h with
  | refl => rfl
  | @tail q r ls l _ hstep ih =>
    rw [List.flatMap_append, List.flatMap_singleton]
    refine ih.append ?_
    cases hstep with
    | spawn hfree hc hrun => exact hrun.path
    | turn htask hwait hstep hrun => exact ⟨_, hstep, hrun.path⟩

/-- Every task runs a program that may be started. -/
theorem Pool.Steps.startable {p p' : Pool Val ε α σ} {ls : List (ℕ × List (Event Val ε))}
    (h : Pool.Steps S suspends Startable p ls p')
    (hp : ∀ i task, p.tasks i = some task → Startable task.program) {i : ℕ}
    {task : Task Val ε α} (htask : p'.tasks i = some task) : Startable task.program := by
  induction h generalizing task with
  | refl => exact hp i task htask
  | tail _ hstep ih =>
    cases hstep with
    | @spawn j c c' t s' hfree hc hrun =>
      by_cases hij : i = j
      · subst hij
        cases (Function.update_self ..).symm.trans htask
        exact hc
      · exact ih ((Function.update_of_ne hij ..).symm.trans htask)
    | @turn j task' r k a c' t s₁ s' htask' hwait hstep hrun =>
      by_cases hij : i = j
      · subst hij
        cases (Function.update_self ..).symm.trans htask
        have hprogram := ih htask'
        exact hprogram
      · exact ih ((Function.update_of_ne hij ..).symm.trans htask)

/-- An event was answered in some state on the way. -/
theorem Spec.Path.of_mem {s s' : σ} {t : List (Event Val ε)} {e : Event Val ε}
    (h : S.Path s t s') (he : e ∈ t) :
    ∃ t₁ t₂ s₁ s₂, t = t₁ ++ e :: t₂ ∧ S.Path s t₁ s₁ ∧ S.step s₁ e.1 e.2 s₂ := by
  induction t generalizing s with
  | nil => cases he
  | cons e' t ih =>
    obtain ⟨s₁, hstep, h⟩ := h
    rcases List.mem_cons.mp he with rfl | he
    · exact ⟨[], t, s, s₁, rfl, rfl, hstep⟩
    · obtain ⟨t₁, t₂, s₂, s₃, rfl, hpath, hstep'⟩ := ih h he
      exact ⟨e' :: t₁, t₂, s₂, s₃, rfl, ⟨s₁, hstep, hpath⟩, hstep'⟩

/-- Whatever happened, happened to some task. -/
theorem exists_mem_eventsOf {ls : List (ℕ × List (Event Val ε))} {e : Event Val ε} :
    e ∈ ls.flatMap Prod.snd ↔ ∃ i, e ∈ eventsOf ls i := by
  simp only [List.mem_flatMap, mem_eventsOf]
  constructor
  · rintro ⟨⟨i, es⟩, hl, he⟩
    exact ⟨i, es, hl, he⟩
  · rintro ⟨i, es, hl, he⟩
    exact ⟨(i, es), hl, he⟩

end Path

/-! ## What a program has done before -/

section Trail

/-- Rules that keep a record of what has happened: answers satisfying `A` are given, and after the
events `h` the request `r` may be made if `G h r`. -/
def trail (A : Event Val ε → Prop) (G : List (Event Val ε) → Req → Prop) :
    Spec Val ε (List (Event Val ε)) where
  pre := G
  step h r a h' := A ⟨r, a⟩ ∧ h' = h ++ [⟨r, a⟩]

variable {A : Event Val ε → Prop} {G : List (Event Val ε) → Req → Prop}

theorem path_trail {h h' t : List (Event Val ε)} (hpath : (trail A G).Path h t h') :
    h' = h ++ t ∧ ∀ e ∈ t, A e := by
  induction t generalizing h with
  | nil => exact ⟨by simpa using (show h' = h from hpath), by simp⟩
  | cons e t ih =>
    obtain ⟨_, ⟨hA, rfl⟩, hpath⟩ := hpath
    obtain ⟨rfl, ht⟩ := ih hpath
    exact ⟨by simp, List.forall_mem_cons.mpr ⟨hA, ht⟩⟩

/-- A program that makes only requests that are always allowed. -/
theorem Only.trail {P : Req → Prop} {c : Coro Val ε α} (hc : Only P c)
    (hP : ∀ h r, P r → G h r) (h : List (Event Val ε)) :
    Sat (Coroutine.trail A G) c h fun t o h' ↦
      h' = h ++ t ∧ Ends c t o ∧ (∀ e ∈ t, A e) ∧ ∀ e ∈ t, P e.1 := by
  refine ((hc.sat (S := Coroutine.trail A G) (I := fun _ ↦ True) (fun h r hr _ ↦ hP h r hr)
    (fun _ _ _ _ _ _ _ ↦ trivial) (s := h) trivial).ends.path).mono ?_
  rintro t o h' ⟨⟨⟨-, hP⟩, hends⟩, hpath⟩
  obtain ⟨rfl, hA⟩ := path_trail hpath
  exact ⟨rfl, hends, hA, hP⟩

/-- **A request that was made was allowed** by what had happened before. -/
theorem Sat.allowed {c c' : Coro Val ε α} {h t : List (Event Val ε)}
    {Q : List (Event Val ε) → Except ε α → List (Event Val ε) → Prop}
    (hc : Sat (trail A G) c h Q) (hafter : After c t c') (hA : ∀ e ∈ t, A e)
    {t₁ t₂ : List (Event Val ε)} {e : Event Val ε} (ht : t = t₁ ++ e :: t₂) :
    G (h ++ t₁) e.1 := by
  induction hafter generalizing h t₁ Q with
  | nil c => simp at ht
  | @cons r k a t c' hafter ih =>
    have hrest := hc.2 a _ ⟨hA ⟨r, a⟩ (by simp), rfl⟩
    cases t₁ with
    | nil =>
      cases ht
      rw [List.append_nil]
      exact hc.1
    | cons e' t₁ =>
      cases ht
      have := ih hrest (fun e he ↦ hA e (List.mem_cons_of_mem _ he)) rfl
      rwa [List.append_assoc] at this

end Trail

/-! ## Other rules -/

section Mono

variable {S' : Spec Val ε σ} {Startable : Coro Val ε α → Prop}

/-- Rules that allow more answers allow more turns … -/
theorem Settle.mono (hS : ∀ s r a s', S.step s r a s' → S'.step s r a s') {c c' : Coro Val ε α}
    {s s' : σ} {t : List (Event Val ε)} (h : Settle S suspends c s t c' s') :
    Settle S' suspends c s t c' s' := by
  induction h with
  | finished o s => exact .finished o s
  | waits r k s h => exact .waits r k s h
  | goes h hstep hrest ih => exact .goes h (hS _ _ _ _ hstep) ih

/-- … and more steps of a pool … -/
theorem Pool.Step.mono (hS : ∀ s r a s', S.step s r a s' → S'.step s r a s')
    {p p' : Pool Val ε α σ} {l : ℕ × List (Event Val ε)}
    (h : Pool.Step S suspends Startable p l p') : Pool.Step S' suspends Startable p l p' := by
  cases h with
  | spawn hfree hc hrun => exact .spawn hfree hc (hrun.mono hS)
  | turn htask hwait hstep hrun => exact .turn htask hwait (hS _ _ _ _ hstep) (hrun.mono hS)

/-- … and more runs. -/
theorem Pool.Steps.mono (hS : ∀ s r a s', S.step s r a s' → S'.step s r a s')
    {p p' : Pool Val ε α σ} {ls : List (ℕ × List (Event Val ε))}
    (h : Pool.Steps S suspends Startable p ls p') :
    Pool.Steps S' suspends Startable p ls p' := by
  induction h with
  | refl => exact .refl _
  | tail _ hstep ih => exact .tail ih (hstep.mono hS)

end Mono

/-! ## Runs whose steps meet a condition -/

section Where

variable {Startable : Coro Val ε α → Prop}

/-- Any number of steps that satisfy `C`. -/
inductive Pool.StepsWhere (S : Spec Val ε σ) (suspends : Req → Bool)
    (Startable : Coro Val ε α → Prop)
    (C : Pool Val ε α σ → ℕ × List (Event Val ε) → Pool Val ε α σ → Prop) :
    Pool Val ε α σ → List (ℕ × List (Event Val ε)) → Pool Val ε α σ → Prop
  | refl (p : Pool Val ε α σ) : Pool.StepsWhere S suspends Startable C p [] p
  | tail {p q r : Pool Val ε α σ} {ls : List (ℕ × List (Event Val ε))}
      {l : ℕ × List (Event Val ε)} (h : Pool.StepsWhere S suspends Startable C p ls q)
      (hstep : Pool.Step S suspends Startable q l r) (hC : C q l r) :
      Pool.StepsWhere S suspends Startable C p (ls ++ [l]) r

variable {C C' : Pool Val ε α σ → ℕ × List (Event Val ε) → Pool Val ε α σ → Prop}
  {p q : Pool Val ε α σ} {ls : List (ℕ × List (Event Val ε))}

theorem Pool.StepsWhere.steps (h : Pool.StepsWhere S suspends Startable C p ls q) :
    Pool.Steps S suspends Startable p ls q := by
  induction h with
  | refl => exact .refl _
  | tail _ hstep _ ih => exact .tail ih hstep

/-- A run can be cut at a label. -/
theorem Pool.StepsWhere.split {l : ℕ × List (Event Val ε)} {ms : List (ℕ × List (Event Val ε))}
    (h : Pool.StepsWhere S suspends Startable C p (ls ++ l :: ms) q) :
    ∃ p₁ p₂, Pool.StepsWhere S suspends Startable C p ls p₁ ∧
      Pool.Step S suspends Startable p₁ l p₂ ∧ C p₁ l p₂ ∧
      Pool.StepsWhere S suspends Startable C p₂ ms q := by
  generalize hks : ls ++ l :: ms = ks at h
  induction h generalizing ms with
  | refl => simp at hks
  | @tail q' r ks k h hstep hC ih =>
    cases ms using List.reverseRecOn with
    | nil =>
      obtain ⟨rfl, hk⟩ := List.append_inj' hks rfl
      cases hk
      exact ⟨q', r, h, hstep, hC, .refl r⟩
    | append_singleton ms k' =>
      rw [← List.cons_append, ← List.append_assoc] at hks
      obtain ⟨hinit, hk⟩ := List.append_inj' hks rfl
      cases hk
      obtain ⟨p₁, p₂, h₁, hstep₁, hC₁, h₂⟩ := ih hinit
      exact ⟨p₁, p₂, h₁, hstep₁, hC₁, .tail h₂ hstep hC⟩

/-- One condition follows from the other where the run gets. -/
theorem Pool.StepsWhere.mono (h : Pool.StepsWhere S suspends Startable C p ls q)
    (hC : ∀ ks p' l p'', Pool.Steps S suspends Startable p ks p' →
      Pool.Step S suspends Startable p' l p'' → C p' l p'' → C' p' l p'') :
    Pool.StepsWhere S suspends Startable C' p ls q := by
  induction h with
  | refl => exact .refl _
  | tail h hstep hl ih => exact .tail ih hstep (hC _ _ _ _ h.steps hstep hl)

/-- Turns that are taken in a given order are steps of tasks that have been started. -/
theorem Pool.StepsWhere.turnsWith {serve : Server Val ε σ} {script : (r : Req) → Except ε (Val r)}
    (hC : ∀ p' l p'', p'.tasks l.1 ≠ none → C p' l p'') (is : List ℕ)
    (h : Pool.StepsWhere (Spec.ofServer serve) suspends Startable C p ls q) :
    Pool.StepsWhere (Spec.ofServer serve) suspends Startable C p
      (ls ++ q.turnsEvents serve script suspends is) (q.turnsWith serve script suspends is) := by
  induction is generalizing q ls with
  | nil => simpa [Pool.turnsEvents, Pool.turnsWith] using h
  | cons i is ih =>
    rw [Pool.turnsEvents]
    split
    · rename_i hnone
      have hsame : q.turnWith serve script suspends i = q := by
        rw [Pool.turnEvents] at hnone
        rw [Pool.turnWith]
        split at hnone
        · cases hnone
        · rfl
      rw [hsame, List.nil_append, Pool.turnsWith, List.foldl_cons, hsame]
      exact ih h
    · rename_i e t hevents
      rw [← List.append_assoc, ← hevents]
      refine ih (h.tail (Pool.step_turnWith (by simp [hevents])) (hC _ _ _ fun hnone ↦ ?_))
      simp [Pool.turnEvents, hnone] at hevents

end Where

/-- Turns that are taken in a given order are steps, and this is what happens in them. -/
theorem Pool.Steps.turnsWith {S : Server Val ε σ} {script : (r : Req) → Except ε (Val r)}
    {suspends : Req → Bool} {Startable : Coro Val ε α → Prop} {p q : Pool Val ε α σ}
    {ls : List (ℕ × List (Event Val ε))} (is : List ℕ)
    (h : Pool.Steps (Spec.ofServer S) suspends Startable p ls q) :
    Pool.Steps (Spec.ofServer S) suspends Startable p
      (ls ++ q.turnsEvents S script suspends is) (q.turnsWith S script suspends is) := by
  have hturns : Pool.StepsWhere (Spec.ofServer S) suspends Startable (fun _ _ _ ↦ True) q
      ([] ++ q.turnsEvents S script suspends is) (q.turnsWith S script suspends is) :=
    .turnsWith (fun _ _ _ _ ↦ trivial) is (.refl q)
  exact h.trans hturns.steps

/-! ## Runs that are played -/

section Play

/-- A way to answer requests, where there is one. -/
abbrev Script {Req : Type} (Val : Req → Type) (ε σ : Type) : Type :=
  (r : Req) → σ → Option (Except ε (Val r) × σ)

/-- What is to be done next: start a program in a slot, or let a slot take a turn. -/
inductive Play {Req : Type} (Val : Req → Type) (ε α : Type) : Type
  | spawn (i : ℕ) (c : Coro Val ε α)
  | turn (i : ℕ)

variable (f : Script Val ε σ) (suspends : Req → Bool)

/-- Run a program up to its next suspending request or to its end. -/
def settleBy : Coro Val ε α → σ → Option (List (Event Val ε) × Coro Val ε α × σ)
  | done o, s => some ([], done o, s)
  | ask r k, s =>
    if suspends r then some ([], ask r k, s)
    else (f r s).bind fun p ↦ (settleBy (k p.1) p.2).map fun q ↦ (⟨r, p.1⟩ :: q.1, q.2)

/-- Make a move. -/
def Pool.move (p : Pool Val ε α σ) :
    Play Val ε α → Option ((ℕ × List (Event Val ε)) × Pool Val ε α σ)
  | .spawn i c =>
    match p.tasks i with
    | some _ => none
    | none => (settleBy f suspends c p.state).map fun q ↦
      ((i, q.1), ⟨q.2.2, Function.update p.tasks i (some ⟨c, q.2.1, q.1⟩)⟩)
  | .turn i =>
    match p.tasks i with
    | some ⟨c, ask r k, t⟩ =>
      (f r p.state).bind fun a ↦ (settleBy f suspends (k a.1) a.2).map fun q ↦
        ((i, ⟨r, a.1⟩ :: q.1),
          ⟨q.2.2, Function.update p.tasks i (some ⟨c, q.2.1, t ++ ⟨r, a.1⟩ :: q.1⟩)⟩)
    | _ => none

/-- Make some moves, one after the other. -/
def Pool.play : List (Play Val ε α) → Pool Val ε α σ →
    Option (List (ℕ × List (Event Val ε)) × Pool Val ε α σ)
  | [], p => some ([], p)
  | m :: ms, p => (p.move f suspends m).bind fun q ↦
    (Pool.play ms q.2).map fun r ↦ (q.1 :: r.1, r.2)

variable {f suspends} {Startable : Coro Val ε α → Prop}

theorem settle_of_settleBy (hf : ∀ r s a s', f r s = some (a, s') → S.step s r a s')
    {c c' : Coro Val ε α} {s s' : σ} {t : List (Event Val ε)}
    (h : settleBy f suspends c s = some (t, c', s')) : Settle S suspends c s t c' s' := by
  induction c generalizing s t with
  | done o =>
    cases h
    exact .finished o _
  | ask r k ih =>
    rw [settleBy] at h
    split at h
    · rename_i hr
      cases h
      exact .waits r k _ hr
    · rename_i hr
      obtain ⟨⟨a, s₁⟩, ha, h⟩ := Option.bind_eq_some_iff.mp h
      obtain ⟨⟨t', c'', s''⟩, ht, h⟩ := Option.map_eq_some_iff.mp h
      cases h
      exact .goes (by simpa using hr) (hf r s a s₁ ha) (ih a ht)

/-- **A move is a step.** -/
theorem Pool.step_of_move (hf : ∀ r s a s', f r s = some (a, s') → S.step s r a s')
    {p p' : Pool Val ε α σ} {m : Play Val ε α} {l : ℕ × List (Event Val ε)}
    (hm : ∀ i c, m = .spawn i c → Startable c) (h : p.move f suspends m = some (l, p')) :
    Pool.Step S suspends Startable p l p' := by
  cases m with
  | spawn i c =>
    rw [Pool.move] at h
    split at h
    · cases h
    · rename_i hfree
      obtain ⟨⟨t, c', s'⟩, ht, h⟩ := Option.map_eq_some_iff.mp h
      cases h
      exact .spawn hfree (hm i c rfl) (settle_of_settleBy hf ht)
  | turn i =>
    rw [Pool.move] at h
    split at h
    · rename_i c r k t htask
      obtain ⟨⟨a, s₁⟩, ha, h⟩ := Option.bind_eq_some_iff.mp h
      obtain ⟨⟨t', c', s'⟩, ht, h⟩ := Option.map_eq_some_iff.mp h
      cases h
      exact .turn htask rfl (hf r p.state a s₁ ha) (settle_of_settleBy hf ht)
    · cases h

/-- **What is played is a run.** -/
theorem Pool.steps_of_play (hf : ∀ r s a s', f r s = some (a, s') → S.step s r a s')
    {ms : List (Play Val ε α)} {p p' : Pool Val ε α σ} {ls : List (ℕ × List (Event Val ε))}
    (hms : ∀ i c, .spawn i c ∈ ms → Startable c) (h : p.play f suspends ms = some (ls, p')) :
    Pool.Steps S suspends Startable p ls p' := by
  induction ms generalizing p ls with
  | nil =>
    cases h
    exact .refl _
  | cons m ms ih =>
    obtain ⟨⟨l, q⟩, hq, h⟩ := Option.bind_eq_some_iff.mp h
    obtain ⟨⟨ls', p''⟩, hls, h⟩ := Option.map_eq_some_iff.mp h
    cases h
    have hstep : Pool.Step S suspends Startable p l q :=
      Pool.step_of_move hf (fun i c hm ↦ hms i c (hm ▸ List.mem_cons_self)) hq
    exact (Pool.Steps.single hstep).trans
      (ih (fun i c hm ↦ hms i c (List.mem_cons_of_mem _ hm)) hls)

end Play

end Coroutine
