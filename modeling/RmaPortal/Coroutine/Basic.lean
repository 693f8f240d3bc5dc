import Mathlib.Data.List.Basic

/-!
# Programs that ask

A *coroutine* is a program that computes by itself and, now and then, asks its surroundings for
something: a row of a database, a page of a browser, the next unit of time.  `Coroutine.Coro` is
the type of such programs.  A program is either `done`, with the value it returned or the exception
it raised, or it asks a request `r` and goes on from whatever answer it gets; an answer is itself
either a value of type `Val r` or an exception, so *every* request is a place where something can
go wrong.  Nothing is said about who answers, and that is the point: the same program text is read

* as a sequential program over a state, when a `Spec` says how each request is answered and what it
  does to the state (`Exec`, and the rules of `Sat` below);
* as a typestate check, when the state is only a record of what the program has done so far and
  `Spec.pre` says which requests are allowed in it;
* as one task among many, when the answers to its requests are interleaved with those of others
  (`Coroutine.Pool`).

Everything about control flow goes through one combinator, `Coro.next`, which runs a program and
continues from its *outcome*, normal or exceptional.  Sequencing, `try … except` and
`try … finally` are instances of it, so the rule `sat_next` is the only one proved by induction.
-/

set_option autoImplicit false

namespace Coroutine

variable {Req : Type} {Val : Req → Type} {ε : Type} {α β γ σ : Type}

/-- A program over the requests `Req`: finished with an outcome, or waiting for an answer. -/
inductive Coro {Req : Type} (Val : Req → Type) (ε α : Type) : Type
  /-- The program returned a value or raised an exception. -/
  | done (o : Except ε α) : Coro Val ε α
  /-- The program asks `r` and continues from the answer. -/
  | ask (r : Req) (k : Except ε (Val r) → Coro Val ε α) : Coro Val ε α

/-- A request together with the answer it got. -/
abbrev Event {Req : Type} (Val : Req → Type) (ε : Type) : Type := (r : Req) × Except ε (Val r)

namespace Coro

/-- Run a program and continue from its outcome, whichever it is. -/
def next : Coro Val ε α → (Except ε α → Coro Val ε β) → Coro Val ε β
  | done o, f => f o
  | ask r k, f => ask r fun a ↦ (k a).next f

/-- Ask a single request. -/
def perform (r : Req) : Coro Val ε (Val r) := ask r done

/-- Sequencing: an exception skips the rest. -/
def bind (c : Coro Val ε α) (f : α → Coro Val ε β) : Coro Val ε β :=
  c.next fun
    | .ok a => f a
    | .error e => done (.error e)

/-- Run a program and hand its outcome back as a value: the way into a `try` statement. -/
def attempt (c : Coro Val ε α) : Coro Val ε (Except ε α) := c.next fun o ↦ done (.ok o)

/-- `try: body finally: cleanup`.  An exception of the cleanup replaces the outcome of the body. -/
def tryFinally (body : Coro Val ε α) (cleanup : Coro Val ε β) : Coro Val ε (α × β) :=
  body.next fun o ↦ cleanup.bind fun b ↦ done (o.map (·, b))

instance : Monad (Coro Val ε) where
  pure a := done (.ok a)
  bind := bind

instance : MonadExcept ε (Coro Val ε) where
  throw e := done (.error e)
  tryCatch c h := c.next fun
    | .ok a => done (.ok a)
    | .error e => h e

theorem bind_eq (c : Coro Val ε α) (f : α → Coro Val ε β) : c >>= f = c.bind f := rfl

end Coro

open Coro

/-! ## Executions -/

/-- How the surroundings answer.  `pre s r` says that asking `r` is allowed in the state `s`;
`step s r a s'` that `r` may be answered by `a`, leaving the state `s'`. -/
structure Spec {Req : Type} (Val : Req → Type) (ε σ : Type) where
  /-- Which requests are allowed. -/
  pre : σ → Req → Prop
  /-- How a request is answered. -/
  step : σ → (r : Req) → Except ε (Val r) → σ → Prop

variable (S : Spec Val ε σ)

/-- `Exec S c s t o s'`: from the state `s` the program can run to its end with the outcome `o`,
in the state `s'`; `t` lists the requests it made and their answers. -/
def Exec : Coro Val ε α → σ → List (Event Val ε) → Except ε α → σ → Prop
  | done o, s, t, o', s' => t = [] ∧ o' = o ∧ s' = s
  | ask r k, s, t, o', s' =>
    ∃ a s₁ t₁, S.step s r a s₁ ∧ t = ⟨r, a⟩ :: t₁ ∧ Exec (k a) s₁ t₁ o' s'

section

variable {S} {c : Coro Val ε α} {s s₁ s' : σ} {t t' : List (Event Val ε)} {o : Except ε α}

/-- An execution goes on. -/
theorem Exec.next {f : Except ε α → Coro Val ε β} {o' : Except ε β} (h : Exec S c s t o s₁)
    (h' : Exec S (f o) s₁ t' o' s') : Exec S (c.next f) s (t ++ t') o' s' := by
  induction c generalizing s t with
  | done o₀ =>
    obtain ⟨rfl, rfl, rfl⟩ := h
    exact h'
  | ask r k ih =>
    obtain ⟨a, s₂, t₂, hstep, rfl, hrest⟩ := h
    exact ⟨a, s₂, t₂ ++ t', hstep, rfl, ih a hrest⟩

theorem Exec.bind {a : α} {f : α → Coro Val ε β} {o' : Except ε β} (h : Exec S c s t (.ok a) s₁)
    (h' : Exec S (f a) s₁ t' o' s') : Exec S (c >>= f) s (t ++ t') o' s' := h.next h'

theorem Exec.attempt_bind {f : Except ε α → Coro Val ε β} {o' : Except ε β}
    (h : Exec S c s t o s₁) (h' : Exec S (f o) s₁ t' o' s') :
    Exec S (c.attempt >>= f) s (t ++ t') o' s' := by
  have hattempt : Exec S c.attempt s (t ++ []) (.ok o) s₁ := h.next ⟨rfl, rfl, rfl⟩
  rw [List.append_nil] at hattempt
  exact hattempt.bind h'

end

/-- Surroundings that answer by a function: `serve r a s` takes a suggested answer `a` and gives
the actual one and the new state.  The suggestion is how the outside world gets a word in. -/
abbrev Server {Req : Type} (Val : Req → Type) (ε σ : Type) : Type :=
  (r : Req) → Except ε (Val r) → σ → Except ε (Val r) × σ

/-- The specification a server meets: any suggestion may be made. -/
def Spec.ofServer (serve : Server Val ε σ) : Spec Val ε σ where
  pre _ _ := True
  step s r a s' := ∃ b, serve r b s = (a, s')

/-- Run a program against a server, with the suggestions read off a script.  The `n`-th request of
the run gets the `n`-th suggestion. -/
def run (serve : Server Val ε σ) (script : ℕ → (r : Req) → Except ε (Val r)) :
    Coro Val ε α → ℕ → σ → List (Event Val ε) × Except ε α × σ
  | done o, _, s => ([], o, s)
  | ask r k, n, s =>
    let p := serve r (script n r) s
    let q := run serve script (k p.1) (n + 1) p.2
    (⟨r, p.1⟩ :: q.1, q.2)

/-- **A scripted run is an execution.** -/
theorem exec_run (serve : Server Val ε σ) (script : ℕ → (r : Req) → Except ε (Val r))
    (c : Coro Val ε α) (n : ℕ) (s : σ) :
    Exec (Spec.ofServer serve) c s (run serve script c n s).1 (run serve script c n s).2.1
      (run serve script c n s).2.2 := by
  induction c generalizing n s with
  | done o => exact ⟨rfl, rfl, rfl⟩
  | ask r k ih => exact ⟨_, _, _, ⟨script n r, rfl⟩, rfl, ih _ (n + 1) _⟩

/-- The state can go from `s` to `s'` while the events of `t` happen, whoever made them. -/
def Spec.Path : σ → List (Event Val ε) → σ → Prop
  | s, [], s' => s' = s
  | s, ⟨r, a⟩ :: t, s' => ∃ s₁, S.step s r a s₁ ∧ Spec.Path s₁ t s'

variable {S} in
theorem Spec.Path.append {s s₁ s' : σ} {t t' : List (Event Val ε)} (h : S.Path s t s₁)
    (h' : S.Path s₁ t' s') : S.Path s (t ++ t') s' := by
  induction t generalizing s with
  | nil => exact h ▸ h'
  | cons e t ih =>
    obtain ⟨s₂, hstep, h⟩ := h
    exact ⟨s₂, hstep, ih h⟩

variable {S} in
/-- **Induction along a path**: what holds at its start and is kept by every step holds at its
end. -/
theorem Spec.Path.invariant {I : List (Event Val ε) → σ → Prop} {s s' : σ}
    {t : List (Event Val ε)} (h : S.Path s t s') (hstart : I [] s)
    (hstep : ∀ t s r a s', I t s → S.step s r a s' → I (t ++ [⟨r, a⟩]) s') : I t s' := by
  suffices ∀ t' t s, I t s → S.Path s t' s' → I (t ++ t') s' from this t [] s hstart h
  intro t'
  induction t' with
  | nil =>
    rintro t s hI rfl
    rwa [List.append_nil]
  | cons e t' ih =>
    rintro t s hI ⟨s₁, hs₁, h⟩
    have := ih (t ++ [e]) s₁ (hstep t s e.1 e.2 s₁ hI hs₁) h
    rwa [List.append_assoc, List.singleton_append] at this

variable {S} in
/-- **What a path remembers**: if a step makes `P` true exactly by the events satisfying `E`, and
nothing makes it false, then `P` says whether there was such an event. -/
theorem Spec.Path.iff_exists {P : σ → Prop} {E : Event Val ε → Prop} {s s' : σ}
    {t : List (Event Val ε)} (h : S.Path s t s') (hstart : ¬P s)
    (hstep : ∀ s r a s', S.step s r a s' → (P s' ↔ P s ∨ E ⟨r, a⟩)) : P s' ↔ ∃ e ∈ t, E e := by
  refine h.invariant (I := fun t s' ↦ P s' ↔ ∃ e ∈ t, E e) (by simpa using hstart) ?_
  intro t s r a s' ih hs
  simp only [hstep s r a s' hs, ih, List.mem_append, List.mem_singleton, or_and_right, exists_or,
    exists_eq_left]

/-- The program can make the requests of `t`, with these answers, and end with the outcome `o`. -/
def Ends (c : Coro Val ε α) (t : List (Event Val ε)) (o : Except ε α) : Prop :=
  Exec (⟨fun _ _ ↦ True, fun _ _ _ _ ↦ True⟩ : Spec Val ε Unit) c () t o ()

/-- **Programs are deterministic**: what they were answered says how they end, and when. -/
theorem Ends.unique {c : Coro Val ε α} {t₁ t₂ l₁ l₂ : List (Event Val ε)} {o₁ o₂ : Except ε α}
    (h₁ : Ends c t₁ o₁) (h₂ : Ends c t₂ o₂) (h : t₁ ++ l₁ = t₂ ++ l₂) : t₁ = t₂ ∧ o₁ = o₂ := by
  induction c generalizing t₁ t₂ with
  | done o =>
    obtain ⟨rfl, rfl, -⟩ := h₁
    obtain ⟨rfl, rfl, -⟩ := h₂
    exact ⟨rfl, rfl⟩
  | ask r k ih =>
    obtain ⟨a₁, _, t₁, -, rfl, h₁⟩ := h₁
    obtain ⟨a₂, _, t₂, -, rfl, h₂⟩ := h₂
    obtain ⟨ha, hrest⟩ := List.cons.inj h
    cases ha
    obtain ⟨rfl, rfl⟩ := ih a₁ h₁ h₂ hrest
    exact ⟨rfl, rfl⟩

variable {S} in
/-- Every execution is a way to end. -/
theorem Exec.ends {c : Coro Val ε α} {s s' : σ} {t : List (Event Val ε)} {o : Except ε α}
    (h : Exec S c s t o s') : Ends c t o := by
  induction c generalizing s t with
  | done o => exact ⟨h.1, h.2.1, rfl⟩
  | ask r k ih =>
    obtain ⟨a, s₁, t₁, -, rfl, h⟩ := h
    exact ⟨a, (), t₁, trivial, rfl, ih a h⟩

variable {S} in
/-- **Induction along an execution**: what every step keeps holds at its end. -/
theorem Exec.invariant {I : σ → Prop} {c : Coro Val ε α} {s s' : σ} {t : List (Event Val ε)}
    {o : Except ε α} (h : Exec S c s t o s') (hstart : I s)
    (hstep : ∀ s r a s', I s → S.step s r a s' → I s') : I s' := by
  induction c generalizing s t with
  | done o =>
    obtain ⟨-, -, rfl⟩ := h
    exact hstart
  | ask r k ih =>
    obtain ⟨a, s₁, t₁, hs₁, -, h⟩ := h
    exact ih a h (hstep s r a s₁ hstart hs₁)

/-- `After c t c'`: once it has been answered as `t` says, `c'` is what is left of the program `c`.
-/
inductive After : Coro Val ε α → List (Event Val ε) → Coro Val ε α → Prop
  | nil (c : Coro Val ε α) : After c [] c
  | cons {r : Req} {k : Except ε (Val r) → Coro Val ε α} {a : Except ε (Val r)}
      {t : List (Event Val ε)} {c' : Coro Val ε α} (h : After (k a) t c') :
      After (ask r k) (⟨r, a⟩ :: t) c'

theorem After.append {c c' c'' : Coro Val ε α} {t t' : List (Event Val ε)} (h : After c t c')
    (h' : After c' t' c'') : After c (t ++ t') c'' := by
  induction h with
  | nil c => exact h'
  | cons h ih => exact .cons (ih h')

variable {S} in
/-- What is left can be executed. -/
theorem After.exec {c c' : Coro Val ε α} {s s₁ s' : σ} {t t' : List (Event Val ε)}
    {o : Except ε α} (h : After c t c') (hpath : S.Path s t s₁) (h' : Exec S c' s₁ t' o s') :
    Exec S c s (t ++ t') o s' := by
  induction h generalizing s with
  | nil c =>
    obtain rfl := hpath
    exact h'
  | cons h ih =>
    obtain ⟨s₂, hs₂, hpath⟩ := hpath
    exact ⟨_, s₂, _, hs₂, rfl, ih hpath h'⟩

/-- What is left can be run to its end. -/
theorem After.ends {c c' : Coro Val ε α} {t t' : List (Event Val ε)} {o : Except ε α}
    (h : After c t c') (h' : Ends c' t' o) : Ends c (t ++ t') o := by
  induction h with
  | nil c => exact h'
  | cons h ih => exact ⟨_, (), _, trivial, rfl, ih h'⟩

/-- Every program can be run to its end: raise an exception at every request. -/
theorem exists_ends [Inhabited ε] (c : Coro Val ε α) : ∃ t o, Ends c t o := by
  induction c with
  | done o => exact ⟨[], o, rfl, rfl, rfl⟩
  | ask r k ih =>
    obtain ⟨t, o, h⟩ := ih (.error default)
    exact ⟨⟨r, .error default⟩ :: t, o, _, (), t, trivial, rfl, h⟩

/-! ## The program logic -/

/-- `Sat S c s Q`: started in `s`, the program only makes allowed requests, and whenever it ends
with the outcome `o` in the state `s'` after the trace `t`, `Q t o s'` holds. -/
def Sat : Coro Val ε α → σ → (List (Event Val ε) → Except ε α → σ → Prop) → Prop
  | done o, s, Q => Q [] o s
  | ask r k, s, Q =>
    S.pre s r ∧ ∀ a s₁, S.step s r a s₁ → Sat (k a) s₁ fun t o s' ↦ Q (⟨r, a⟩ :: t) o s'

variable {S}

/-- **Adequacy**: what `Sat` promises holds of every execution. -/
theorem Sat.exec {c : Coro Val ε α} {s s' : σ} {t : List (Event Val ε)} {o : Except ε α}
    {Q : List (Event Val ε) → Except ε α → σ → Prop} (h : Sat S c s Q) (he : Exec S c s t o s') :
    Q t o s' := by
  induction c generalizing s t Q with
  | done o₀ =>
    obtain ⟨rfl, rfl, rfl⟩ := he
    exact h
  | ask r k ih =>
    obtain ⟨a, s₁, t₁, hstep, rfl, he⟩ := he
    exact ih a (Q := fun t o s' ↦ Q (⟨r, a⟩ :: t) o s') (h.2 a s₁ hstep) he

theorem Sat.mono {c : Coro Val ε α} {s : σ} {Q R : List (Event Val ε) → Except ε α → σ → Prop}
    (h : Sat S c s Q) (hQR : ∀ t o s', Q t o s' → R t o s') : Sat S c s R := by
  induction c generalizing s Q R with
  | done o => exact hQR _ _ _ h
  | ask r k ih => exact ⟨h.1, fun a s₁ hstep ↦ ih a (h.2 a s₁ hstep) fun t o s' ↦ hQR _ o s'⟩

theorem Sat.and {c : Coro Val ε α} {s : σ} {Q R : List (Event Val ε) → Except ε α → σ → Prop}
    (hQ : Sat S c s Q) (hR : Sat S c s R) : Sat S c s fun t o s' ↦ Q t o s' ∧ R t o s' := by
  induction c generalizing s Q R with
  | done o => exact ⟨hQ, hR⟩
  | ask r k ih => exact ⟨hQ.1, fun a s₁ hstep ↦ ih a (hQ.2 a s₁ hstep) (hR.2 a s₁ hstep)⟩

/-- A program that meets many specifications meets all of them at once. -/
theorem Sat.forall {ι : Type} [Nonempty ι] {c : Coro Val ε α} {s : σ}
    {Q : ι → List (Event Val ε) → Except ε α → σ → Prop} (h : ∀ x, Sat S c s (Q x)) :
    Sat S c s fun t o s' ↦ ∀ x, Q x t o s' := by
  induction c generalizing s Q with
  | done o => exact h
  | ask r k ih =>
    exact ⟨(h (Classical.arbitrary ι)).1, fun a s₁ hstep ↦ ih a fun x ↦ (h x).2 a s₁ hstep⟩

/-- How a program ends, it ends. -/
theorem Sat.ends {c : Coro Val ε α} {s : σ} {Q : List (Event Val ε) → Except ε α → σ → Prop}
    (h : Sat S c s Q) : Sat S c s fun t o s' ↦ Q t o s' ∧ Ends c t o := by
  induction c generalizing s Q with
  | done o => exact ⟨h, rfl, rfl, rfl⟩
  | ask r k ih =>
    exact ⟨h.1, fun a s₁ hstep ↦ (ih a (h.2 a s₁ hstep)).mono fun t o s' ⟨hQ, hends⟩ ↦
      ⟨hQ, a, (), t, trivial, rfl, hends⟩⟩

/-- A program takes the state along a path. -/
theorem Sat.path {c : Coro Val ε α} {s : σ} {Q : List (Event Val ε) → Except ε α → σ → Prop}
    (h : Sat S c s Q) : Sat S c s fun t o s' ↦ Q t o s' ∧ S.Path s t s' := by
  induction c generalizing s Q with
  | done o => exact ⟨h, rfl⟩
  | ask r k ih =>
    exact ⟨h.1, fun a s₁ hstep ↦ (ih a (h.2 a s₁ hstep)).mono fun t o s' ⟨hQ, hpath⟩ ↦
      ⟨hQ, s₁, hstep, hpath⟩⟩

/-- **What is left of a program** meets what is left of its specification, provided that the
specification has an answer for whatever the program was answered. -/
theorem Sat.after {c c' : Coro Val ε α} {s : σ} {t : List (Event Val ε)}
    {Q : List (Event Val ε) → Except ε α → σ → Prop} (h : Sat S c s Q) (hafter : After c t c')
    (htotal : ∀ e ∈ t, ∀ s, S.pre s e.1 → ∃ s', S.step s e.1 e.2 s') :
    ∃ s', S.Path s t s' ∧ Sat S c' s' fun t' o s'' ↦ Q (t ++ t') o s'' := by
  induction hafter generalizing s Q with
  | nil c => exact ⟨s, rfl, h⟩
  | @cons r k a t c' _ ih =>
    obtain ⟨s₁, hstep⟩ := htotal ⟨r, a⟩ (by simp) s h.1
    obtain ⟨s', hpath, hc'⟩ := ih (h.2 a s₁ hstep) fun e he ↦ htotal e (List.mem_cons_of_mem _ he)
    exact ⟨s', ⟨s₁, hstep, hpath⟩, hc'⟩

/-- **The rule of `next`**, from which all the others follow: verify the first program, then the
continuation from each outcome it can have. -/
theorem sat_next {c : Coro Val ε α} {f : Except ε α → Coro Val ε β} {s : σ}
    {R : List (Event Val ε) → Except ε α → σ → Prop}
    {Q : List (Event Val ε) → Except ε β → σ → Prop} (hc : Sat S c s R)
    (hf : ∀ t o s₁, R t o s₁ → Sat S (f o) s₁ fun t' o' s' ↦ Q (t ++ t') o' s') :
    Sat S (c.next f) s Q := by
  induction c generalizing s R Q with
  | done o => exact hf [] o s hc
  | ask r k ih =>
    exact ⟨hc.1, fun a s₁ hstep ↦ ih a (hc.2 a s₁ hstep) fun t o s₂ hR ↦ hf _ o s₂ hR⟩

theorem sat_pure {a : α} {s : σ} {Q : List (Event Val ε) → Except ε α → σ → Prop}
    (h : Q [] (.ok a) s) : Sat S (pure a) s Q := h

theorem sat_throw {e : ε} {s : σ} {Q : List (Event Val ε) → Except ε α → σ → Prop}
    (h : Q [] (.error e) s) : Sat S (throw e : Coro Val ε α) s Q := h

theorem sat_perform {r : Req} {s : σ} {Q : List (Event Val ε) → Except ε (Val r) → σ → Prop}
    (hpre : S.pre s r) (h : ∀ a s₁, S.step s r a s₁ → Q [⟨r, a⟩] a s₁) :
    Sat S (perform r) s Q := ⟨hpre, h⟩

theorem sat_bind {c : Coro Val ε α} {f : α → Coro Val ε β} {s : σ}
    {R : List (Event Val ε) → Except ε α → σ → Prop}
    {Q : List (Event Val ε) → Except ε β → σ → Prop} (hc : Sat S c s R)
    (hok : ∀ t a s₁, R t (.ok a) s₁ → Sat S (f a) s₁ fun t' o' s' ↦ Q (t ++ t') o' s')
    (herr : ∀ t e s₁, R t (.error e) s₁ → Q t (.error e) s₁) : Sat S (c >>= f) s Q := by
  refine sat_next hc fun t o s₁ hR ↦ ?_
  cases o with
  | ok a => exact hok t a s₁ hR
  | error e =>
    have h := herr t e s₁ hR
    rw [← List.append_nil t] at h
    exact h

theorem sat_attempt {c : Coro Val ε α} {s : σ}
    {Q : List (Event Val ε) → Except ε (Except ε α) → σ → Prop}
    (hc : Sat S c s fun t o s' ↦ Q t (.ok o) s') : Sat S c.attempt s Q :=
  sat_next hc fun t o s₁ hR ↦ by
    rw [← List.append_nil t] at hR
    exact hR

/-- The rule of a `try` statement: `attempt` followed by a look at the outcome. -/
theorem sat_attempt_bind {c : Coro Val ε α} {f : Except ε α → Coro Val ε β} {s : σ}
    {R : List (Event Val ε) → Except ε α → σ → Prop}
    {Q : List (Event Val ε) → Except ε β → σ → Prop} (hc : Sat S c s R)
    (hf : ∀ t o s₁, R t o s₁ → Sat S (f o) s₁ fun t' o' s' ↦ Q (t ++ t') o' s') :
    Sat S (c.attempt >>= f) s Q := by
  refine sat_bind (R := fun t o s' ↦ ∃ o', o = .ok o' ∧ R t o' s')
    (sat_attempt (hc.mono fun t o s' h ↦ ⟨o, rfl, h⟩)) ?_ ?_
  · rintro t a s₁ ⟨o', ho, hR⟩
    cases ho
    exact hf t a s₁ hR
  · rintro t e s₁ ⟨o', ho, -⟩
    cases ho

theorem sat_tryFinally {body : Coro Val ε α} {cleanup : Coro Val ε β} {s : σ}
    {R : List (Event Val ε) → Except ε α → σ → Prop}
    {Q : List (Event Val ε) → Except ε (α × β) → σ → Prop} (hbody : Sat S body s R)
    (hcleanup : ∀ t o s₁, R t o s₁ → Sat S cleanup s₁ fun t' o' s' ↦
      match o' with
      | .ok b => Q (t ++ t') (o.map (·, b)) s'
      | .error e => Q (t ++ t') (.error e) s') : Sat S (body.tryFinally cleanup) s Q := by
  refine sat_next hbody fun t o s₁ hR ↦ ?_
  refine sat_next (hcleanup t o s₁ hR) fun t' o' s₂ h ↦ ?_
  cases o' with
  | ok b =>
    rw [← List.append_nil t'] at h
    exact h
  | error e =>
    rw [← List.append_nil t'] at h
    exact h

/-! ### Where a program leads -/

variable (S) in
/-- Started in `s`, the program only makes allowed requests, and it ends as `R` says, whatever has
happened in between. -/
abbrev Leads (c : Coro Val ε α) (s : σ) (R : Except ε α → σ → Prop) : Prop :=
  Sat S c s fun _ o s' ↦ R o s'

theorem leads_bind {c : Coro Val ε α} {f : α → Coro Val ε β} {s : σ}
    {R : Except ε α → σ → Prop} {R' : Except ε β → σ → Prop} (hc : Leads S c s R)
    (hok : ∀ a s₁, R (.ok a) s₁ → Leads S (f a) s₁ R')
    (herr : ∀ e s₁, R (.error e) s₁ → R' (.error e) s₁) : Leads S (c >>= f) s R' :=
  sat_bind hc (fun _ ↦ hok) fun _ ↦ herr

theorem leads_attempt_bind {c : Coro Val ε α} {f : Except ε α → Coro Val ε β} {s : σ}
    {R : Except ε α → σ → Prop} {R' : Except ε β → σ → Prop} (hc : Leads S c s R)
    (hf : ∀ o s₁, R o s₁ → Leads S (f o) s₁ R') : Leads S (c.attempt >>= f) s R' :=
  sat_attempt_bind hc fun _ ↦ hf

/-- Make a request and go on. -/
theorem leads_ask {r : Req} {f : Val r → Coro Val ε β} {s : σ} {R : Except ε β → σ → Prop}
    (hpre : S.pre s r) (hok : ∀ a s₁, S.step s r (.ok a) s₁ → Leads S (f a) s₁ R)
    (herr : ∀ e s₁, S.step s r (.error e) s₁ → R (.error e) s₁) :
    Leads S (perform r >>= f) s R :=
  leads_bind (sat_perform hpre fun _ _ h ↦ h) hok herr

/-! ## Programs that make only some requests -/

/-- Every request the program can ever make satisfies `P`, whatever it is answered. -/
def Only (P : Req → Prop) : Coro Val ε α → Prop
  | done _ => True
  | ask r k => P r ∧ ∀ a, Only P (k a)

theorem Only.mono {P P' : Req → Prop} {c : Coro Val ε α} (h : Only P c) (hP : ∀ r, P r → P' r) :
    Only P' c := by
  induction c with
  | done o => trivial
  | ask r k ih => exact ⟨hP r h.1, fun a ↦ ih a (h.2 a)⟩

theorem only_next {P : Req → Prop} {c : Coro Val ε α} {f : Except ε α → Coro Val ε β}
    (hc : Only P c) (hf : ∀ o, Only P (f o)) : Only P (c.next f) := by
  induction c with
  | done o => exact hf o
  | ask r k ih => exact ⟨hc.1, fun a ↦ ih a (hc.2 a)⟩

theorem only_pure {P : Req → Prop} (a : α) : Only P (pure a : Coro Val ε α) := trivial

theorem only_throw {P : Req → Prop} (e : ε) : Only P (throw e : Coro Val ε α) := trivial

theorem only_perform {P : Req → Prop} {r : Req} (h : P r) :
    Only P (perform r : Coro Val ε (Val r)) := ⟨h, fun _ ↦ trivial⟩

theorem only_bind {P : Req → Prop} {c : Coro Val ε α} {f : α → Coro Val ε β} (hc : Only P c)
    (hf : ∀ a, Only P (f a)) : Only P (c >>= f) :=
  only_next hc fun
    | .ok a => hf a
    | .error _ => trivial

theorem only_attempt {P : Req → Prop} {c : Coro Val ε α} (hc : Only P c) : Only P c.attempt :=
  only_next hc fun _ ↦ trivial

theorem only_tryFinally {P : Req → Prop} {body : Coro Val ε α} {cleanup : Coro Val ε β}
    (hbody : Only P body) (hcleanup : Only P cleanup) : Only P (body.tryFinally cleanup) :=
  only_next hbody fun _ ↦ only_bind (f := fun _ ↦ done _) hcleanup fun _ ↦ trivial

theorem only_foldlM {P : Req → Prop} {f : β → γ → Coro Val ε β} (hf : ∀ b x, Only P (f b x)) :
    ∀ (l : List γ) (b : β), Only P (l.foldlM f b)
  | [], _ => trivial
  | x :: l, b => by
    rw [List.foldlM_cons]
    exact only_bind (hf b x) fun b' ↦ only_foldlM hf l b'

/-- **What harmless requests keep.**  If every request satisfying `P` is allowed where `I` holds
and keeps it, then a program that makes only such requests keeps it too. -/
theorem Only.sat {P : Req → Prop} {I : σ → Prop}
    (hpre : ∀ s r, P r → I s → S.pre s r)
    (hstep : ∀ s r a s', P r → I s → S.step s r a s' → I s') {c : Coro Val ε α} (h : Only P c)
    {s : σ} (hI : I s) : Sat S c s fun t _ s' ↦ I s' ∧ ∀ e ∈ t, P e.1 := by
  induction c generalizing s with
  | done o => exact ⟨hI, by simp⟩
  | ask r k ih =>
    refine ⟨hpre s r h.1 hI, fun a s₁ ha ↦ ?_⟩
    refine (ih a (h.2 a) (hstep s r a s₁ h.1 hI ha)).mono fun t o s' ⟨h₁, h₂⟩ ↦ ⟨h₁, ?_⟩
    intro e he
    rcases List.mem_cons.mp he with rfl | he
    · exact h.1
    · exact h₂ e he

end Coroutine
