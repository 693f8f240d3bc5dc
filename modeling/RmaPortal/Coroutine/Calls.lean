import RmaPortal.Coroutine.Basic

/-!
# Calls

A program calls another one when, at some point of a run, what is left of it is to run the other
program and to go on with its outcome.  `Calls c t d o` says that the run `t` of the program `c`
calls `d` and that the call ends with the outcome `o`.  It is a property of the run, whoever
answers the requests, and it is what a hypothesis about a subprogram is about whose text is not
known.

A call is found where the program was composed: in the part that ran first (`Calls.next_left`), or
in the part that ran afterwards (`Calls.next_right`).

## What is here

* `Ends.of_next`, `ends_bind_iff`, `ends_attempt_bind_iff`, `exists_ends_of` — how a composed
  program ends, and that every program can be run to its end with given answers.
* `PassesOn` — the program raises nothing by itself: an exception it ends with is one that a
  request was answered with.
* `Echoes` — the same for exceptions of some kind, and up to some that are excused.  It is closed
  under everything that a program is made of, and for `try` there is `echoes_next`: a handler may
  raise again what it has caught.
* `Surfaces` — the program swallows no failure of a request: if it returns, there was none.
* `EveryRun`, `Composes` — properties that runs have one after the other if they have them one by
  one.
* `Calls` — its rules, for each way in which programs are composed.

`PassesOn`, `Echoes` and `Surfaces` are about programs, not about states: nothing is said of who
answers.  They are the way in which an exception at the end of a long program is traced to a
request, and in which the absence of one is passed on to all its requests.
-/

set_option autoImplicit false

namespace Coroutine

variable {Req : Type} {Val : Req → Type} {ε : Type} {α β γ δ : Type}

open Coro

theorem Coro.next_next (c : Coro Val ε α) (f : Except ε α → Coro Val ε β)
    (g : Except ε β → Coro Val ε γ) : (c.next f).next g = c.next fun o ↦ (f o).next g := by
  induction c with
  | done o => rfl
  | ask r k ih => exact congrArg (ask r) (funext ih)

theorem Coro.next_done (c : Coro Val ε α) : c.next done = c := by
  induction c with
  | done o => rfl
  | ask r k ih => exact congrArg (ask r) (funext ih)

/-- What is left of a composed program, as long as its first part runs. -/
theorem After.next {c c' : Coro Val ε α} {t : List (Event Val ε)} (h : After c t c')
    (f : Except ε α → Coro Val ε β) : After (c.next f) t (c'.next f) := by
  induction h with
  | nil c => exact .nil _
  | cons h ih => exact .cons ih

/-- … and when its first part has ended. -/
theorem Ends.after_next {c : Coro Val ε α} {t : List (Event Val ε)} {o : Except ε α}
    (h : Ends c t o) (f : Except ε α → Coro Val ε β) : After (c.next f) t (f o) := by
  induction c generalizing t with
  | done o' =>
    obtain ⟨rfl, rfl, -⟩ := h
    exact .nil _
  | ask r k ih =>
    obtain ⟨a, _, t, -, rfl, h⟩ := h
    exact .cons (ih a h)

/-- How a composed program ends: its first part first. -/
theorem Ends.of_next {c : Coro Val ε α} {f : Except ε α → Coro Val ε β} {t : List (Event Val ε)}
    {o : Except ε β} (h : Ends (c.next f) t o) :
    ∃ t₁ o₁ t₂, t = t₁ ++ t₂ ∧ Ends c t₁ o₁ ∧ Ends (f o₁) t₂ o := by
  induction c generalizing t with
  | done o' => exact ⟨[], o', t, rfl, ⟨rfl, rfl, rfl⟩, h⟩
  | ask r k ih =>
    obtain ⟨a, _, t, -, rfl, h⟩ := h
    obtain ⟨t₁, o₁, t₂, rfl, h₁, h₂⟩ := ih a h
    exact ⟨⟨r, a⟩ :: t₁, o₁, t₂, rfl, ⟨a, (), t₁, trivial, rfl, h₁⟩, h₂⟩

/-- How a `try` statement ends. -/
theorem Ends.of_attempt_bind {c : Coro Val ε α} {f : Except ε α → Coro Val ε β}
    {t : List (Event Val ε)} {o : Except ε β} (h : Ends (c.attempt >>= f) t o) :
    ∃ t₁ o₁ t₂, t = t₁ ++ t₂ ∧ Ends c t₁ o₁ ∧ Ends (f o₁) t₂ o := by
  rw [bind_eq, Coro.bind, attempt, next_next] at h
  exact Ends.of_next h

theorem ends_done_iff {o o' : Except ε α} {t : List (Event Val ε)} :
    Ends (done o : Coro Val ε α) t o' ↔ t = [] ∧ o' = o := by
  rw [Ends, Exec]
  exact ⟨fun h ↦ ⟨h.1, h.2.1⟩, fun h ↦ ⟨h.1, h.2, rfl⟩⟩

/-- Every program can be run to its end with given answers. -/
theorem exists_ends_of (answer : (r : Req) → Except ε (Val r)) (c : Coro Val ε α) :
    ∃ t o, Ends c t o ∧ ∀ e ∈ t, e.2 = answer e.1 := by
  induction c with
  | done o => exact ⟨[], o, ⟨rfl, rfl, rfl⟩, by simp⟩
  | ask r k ih =>
    obtain ⟨t, o, h, ht⟩ := ih (answer r)
    refine ⟨⟨r, answer r⟩ :: t, o, ⟨answer r, (), t, trivial, rfl, h⟩, fun e he ↦ ?_⟩
    rcases List.mem_cons.mp he with rfl | he
    · rfl
    · exact ht e he

theorem Ends.outcome_eq {c : Coro Val ε α} {t : List (Event Val ε)} {o o' : Except ε α}
    (h : Ends c t o) (h' : Ends c t o') : o = o' := (h.unique h' (rfl : t ++ [] = t ++ [])).2

theorem ends_perform_iff {r : Req} {t : List (Event Val ε)} {o : Except ε (Val r)} :
    Ends (perform r : Coro Val ε (Val r)) t o ↔ t = [⟨r, o⟩] := by
  constructor
  · rintro ⟨a, _, t, -, rfl, rfl, rfl, -⟩
    rfl
  · rintro rfl
    exact ⟨o, (), [], trivial, rfl, rfl, rfl, rfl⟩

/-- What is left after a program that has ended can be run to its end. -/
theorem Ends.next {c : Coro Val ε α} {f : Except ε α → Coro Val ε β} {t t' : List (Event Val ε)}
    {o : Except ε α} {o' : Except ε β} (h : Ends c t o) (h' : Ends (f o) t' o') :
    Ends (c.next f) (t ++ t') o' := (h.after_next f).ends h'

/-- How a composed program ends: its first part raises, or returns and the second part ends. -/
theorem ends_bind_iff {c : Coro Val ε α} {f : α → Coro Val ε β} {t : List (Event Val ε)}
    {o : Except ε β} : Ends (c >>= f) t o ↔ (∃ e, Ends c t (.error e) ∧ o = .error e) ∨
      ∃ t₁ a t₂, t = t₁ ++ t₂ ∧ Ends c t₁ (.ok a) ∧ Ends (f a) t₂ o := by
  constructor
  · intro h
    obtain ⟨t₁, o₁, t₂, rfl, h₁, h₂⟩ := Ends.of_next h
    cases o₁ with
    | ok a => exact .inr ⟨t₁, a, t₂, rfl, h₁, h₂⟩
    | error e =>
      obtain ⟨rfl, rfl⟩ := ends_done_iff.mp h₂
      rw [List.append_nil]
      exact .inl ⟨e, h₁, rfl⟩
  · rintro (⟨e, h, rfl⟩ | ⟨t₁, a, t₂, rfl, h₁, h₂⟩)
    · rw [← List.append_nil t]
      exact h.next (ends_done_iff.mpr ⟨rfl, rfl⟩)
    · exact h₁.next h₂

theorem ends_attempt_bind_iff {c : Coro Val ε α} {f : Except ε α → Coro Val ε β}
    {t : List (Event Val ε)} {o : Except ε β} : Ends (c.attempt >>= f) t o ↔
      ∃ t₁ o₁ t₂, t = t₁ ++ t₂ ∧ Ends c t₁ o₁ ∧ Ends (f o₁) t₂ o := by
  refine ⟨Ends.of_attempt_bind, ?_⟩
  rintro ⟨t₁, o₁, t₂, rfl, h₁, h₂⟩
  rw [bind_eq, Coro.bind, attempt, next_next]
  exact h₁.next h₂

/-! ## Where exceptions come from -/

/-- The program raises nothing by itself: an exception it ends with is one that a request satisfying
`P` was answered with. -/
def PassesOn (P : Req → Prop) (c : Coro Val ε α) : Prop :=
  ∀ t e, Ends c t (.error e) → ∃ r, P r ∧ (⟨r, .error e⟩ : Event Val ε) ∈ t

section PassesOn

variable {P : Req → Prop}

theorem passesOn_pure (a : α) : PassesOn P (pure a : Coro Val ε α) := by
  rintro t e ⟨-, ho, -⟩
  cases ho

theorem passesOn_perform {r : Req} (h : P r) : PassesOn P (perform r : Coro Val ε (Val r)) := by
  rintro t e ⟨a, _, t, -, rfl, -, rfl, -⟩
  exact ⟨r, h, by simp⟩

theorem passesOn_bind {c : Coro Val ε α} {f : α → Coro Val ε β} (hc : PassesOn P c)
    (hf : ∀ a, PassesOn P (f a)) : PassesOn P (c >>= f) := by
  intro t e h
  obtain ⟨t₁, o₁, t₂, rfl, h₁, h₂⟩ := Ends.of_next h
  cases o₁ with
  | ok a =>
    obtain ⟨r, hr, hmem⟩ := hf a t₂ e h₂
    exact ⟨r, hr, List.mem_append_right _ hmem⟩
  | error e' =>
    obtain ⟨-, ho, -⟩ := h₂
    cases ho
    obtain ⟨r, hr, hmem⟩ := hc t₁ e h₁
    exact ⟨r, hr, List.mem_append_left _ hmem⟩

theorem passesOn_tryFinally {c : Coro Val ε α} {cleanup : Coro Val ε β} (hc : PassesOn P c)
    (hcleanup : PassesOn P cleanup) : PassesOn P (c.tryFinally cleanup) := by
  intro t e h
  obtain ⟨t₁, o₁, t₂, rfl, h₁, h₂⟩ := Ends.of_next h
  obtain ⟨t₃, o₃, t₄, rfl, h₃, h₄⟩ := Ends.of_next h₂
  cases o₃ with
  | ok b =>
    obtain ⟨-, ho, -⟩ := h₄
    cases o₁ with
    | ok a => cases ho
    | error e' =>
      cases ho
      obtain ⟨r, hr, hmem⟩ := hc t₁ e h₁
      exact ⟨r, hr, List.mem_append_left _ hmem⟩
  | error e' =>
    obtain ⟨-, ho, -⟩ := h₄
    cases ho
    obtain ⟨r, hr, hmem⟩ := hcleanup t₃ e h₃
    exact ⟨r, hr, List.mem_append_right _ (List.mem_append_left _ hmem)⟩

end PassesOn

/-- Of the exceptions satisfying `E` the program raises none by itself, except for those satisfying
`X`: any other one that it ends with is one that a request was answered with, and `Q` says by which
request with which exception that can be. -/
def Echoes (E : ε → Prop) (Q : Req → ε → Prop) (X : ε → Prop) (c : Coro Val ε α) : Prop :=
  ∀ t e, Ends c t (.error e) → E e → X e ∨ ∃ r, Q r e ∧ (⟨r, .error e⟩ : Event Val ε) ∈ t

section Echoes

variable {E X : ε → Prop} {Q : Req → ε → Prop}

theorem echoes_done {o : Except ε α} (h : ∀ e, o = .error e → E e → X e) :
    Echoes E Q X (done o : Coro Val ε α) := by
  rintro t e ⟨-, ho, -⟩ hE
  exact .inl (h e ho.symm hE)

theorem echoes_pure (a : α) : Echoes E Q X (pure a : Coro Val ε α) :=
  echoes_done fun e h ↦ by cases h

theorem echoes_throw {e : ε} (h : E e → X e) : Echoes E Q X (throw e : Coro Val ε α) :=
  echoes_done fun e' h' ↦ by cases h'; exact h

theorem echoes_perform {r : Req} (h : ∀ e, E e → X e ∨ Q r e) :
    Echoes E Q X (perform r : Coro Val ε (Val r)) := by
  rintro t e ⟨a, _, t, -, rfl, -, rfl, -⟩ hE
  exact (h e hE).imp_right fun hQ ↦ ⟨r, hQ, by simp⟩

theorem echoes_bind {c : Coro Val ε α} {f : α → Coro Val ε β} (hc : Echoes E Q X c)
    (hf : ∀ a, Echoes E Q X (f a)) : Echoes E Q X (c >>= f) := by
  intro t e h hE
  obtain ⟨t₁, o₁, t₂, rfl, h₁, h₂⟩ := Ends.of_next h
  cases o₁ with
  | ok a =>
    exact (hf a t₂ e h₂ hE).imp_right fun ⟨r, hQ, hr⟩ ↦ ⟨r, hQ, List.mem_append_right _ hr⟩
  | error e' =>
    obtain ⟨-, ho, -⟩ := h₂
    cases ho
    exact (hc t₁ e h₁ hE).imp_right fun ⟨r, hQ, hr⟩ ↦ ⟨r, hQ, List.mem_append_left _ hr⟩

/-- A `try` statement may raise again what it has caught. -/
theorem echoes_next {c : Coro Val ε α} {f : Except ε α → Coro Val ε β} (hc : Echoes E Q X c)
    (hok : ∀ a, Echoes E Q X (f (.ok a)))
    (herr : ∀ e, Echoes E Q (fun e' ↦ X e' ∨ e' = e) (f (.error e))) :
    Echoes E Q X (c.next f) := by
  intro t e h hE
  obtain ⟨t₁, o₁, t₂, rfl, h₁, h₂⟩ := Ends.of_next h
  cases o₁ with
  | ok a =>
    exact (hok a t₂ e h₂ hE).imp_right fun ⟨r, hQ, hr⟩ ↦ ⟨r, hQ, List.mem_append_right _ hr⟩
  | error e' =>
    rcases herr e' t₂ e h₂ hE with (hX | rfl) | ⟨r, hQ, hr⟩
    · exact .inl hX
    · exact (hc t₁ e h₁ hE).imp_right fun ⟨r, hQ, hr⟩ ↦ ⟨r, hQ, List.mem_append_left _ hr⟩
    · exact .inr ⟨r, hQ, List.mem_append_right _ hr⟩

theorem echoes_attempt_bind {c : Coro Val ε α} {f : Except ε α → Coro Val ε β}
    (hc : Echoes E Q X c) (hok : ∀ a, Echoes E Q X (f (.ok a)))
    (herr : ∀ e, Echoes E Q (fun e' ↦ X e' ∨ e' = e) (f (.error e))) :
    Echoes E Q X (c.attempt >>= f) := by
  rw [bind_eq, Coro.bind, attempt, next_next]
  exact echoes_next hc hok herr

theorem echoes_tryFinally {c : Coro Val ε α} {cleanup : Coro Val ε β} (hc : Echoes E Q X c)
    (hcleanup : ∀ {Y : ε → Prop}, (∀ e, X e → Y e) → Echoes E Q Y cleanup) :
    Echoes E Q X (c.tryFinally cleanup) := by
  refine echoes_next hc (fun a ↦ echoes_bind (hcleanup fun _ h ↦ h) fun b ↦ ?_) fun e ↦
    echoes_bind (hcleanup fun _ ↦ .inl) fun b ↦ ?_
  · exact echoes_done fun e h ↦ by cases h
  · exact echoes_done fun e' h _ ↦ by cases h; exact .inr rfl

theorem echoes_foldlM {f : β → γ → Coro Val ε β} (hf : ∀ b x, Echoes E Q X (f b x)) :
    ∀ (l : List γ) (b : β), Echoes E Q X (l.foldlM f b)
  | [], b => echoes_pure b
  | x :: l, b => by
    rw [List.foldlM_cons]
    exact echoes_bind (hf b x) fun b' ↦ echoes_foldlM hf l b'

end Echoes

/-- A program that makes only some requests has made only such ones. -/
theorem Only.of_ends {P : Req → Prop} {c : Coro Val ε α} (h : Only P c) {t : List (Event Val ε)}
    {o : Except ε α} (hends : Ends c t o) : ∀ e ∈ t, P e.1 := by
  induction c generalizing t with
  | done o' =>
    obtain ⟨rfl, -⟩ := hends
    simp
  | ask r k ih =>
    obtain ⟨a, _, t, -, rfl, hends⟩ := hends
    intro e he
    rcases List.mem_cons.mp he with rfl | he
    · exact h.1
    · exact ih a (h.2 a) hends e he

/-- The program swallows no failure of a request satisfying `P`: if it returns, there was none. -/
def Surfaces (P : Req → Prop) (c : Coro Val ε α) : Prop :=
  ∀ t a, Ends c t (.ok a) → ∀ r e, P r → (⟨r, .error e⟩ : Event Val ε) ∉ t

section Surfaces

variable {P : Req → Prop}

theorem surfaces_of_only {c : Coro Val ε α} (h : Only (fun r ↦ ¬P r) c) : Surfaces P c :=
  fun _ _ hends _ _ hr hmem ↦ h.of_ends hends _ hmem hr

theorem surfaces_perform (r : Req) : Surfaces P (perform r : Coro Val ε (Val r)) := by
  rintro t a ⟨b, _, t, -, rfl, rfl, rfl, -⟩ r' e - hmem
  cases List.mem_singleton.mp hmem

theorem surfaces_bind {c : Coro Val ε α} {f : α → Coro Val ε β} (hc : Surfaces P c)
    (hf : ∀ a, Surfaces P (f a)) : Surfaces P (c >>= f) := by
  intro t b h r e hr hmem
  obtain ⟨t₁, o₁, t₂, rfl, h₁, h₂⟩ := Ends.of_next h
  cases o₁ with
  | ok a =>
    rcases List.mem_append.mp hmem with hmem | hmem
    · exact hc t₁ a h₁ r e hr hmem
    · exact hf a t₂ b h₂ r e hr hmem
  | error e' => cases h₂.2.1

theorem surfaces_tryFinally {c : Coro Val ε α} {cleanup : Coro Val ε β} (hc : Surfaces P c)
    (hcleanup : Surfaces P cleanup) : Surfaces P (c.tryFinally cleanup) := by
  intro t x h r e hr hmem
  obtain ⟨t₁, o₁, t₂, rfl, h₁, h₂⟩ := Ends.of_next h
  obtain ⟨t₃, o₃, t₄, rfl, h₃, h₄⟩ := Ends.of_next h₂
  cases o₃ with
  | error e' => cases h₄.2.1
  | ok b =>
    obtain ⟨rfl, ho, -⟩ := h₄
    cases o₁ with
    | error e' => cases ho
    | ok a =>
      rw [List.append_nil] at hmem
      rcases List.mem_append.mp hmem with hmem | hmem
      · exact hc t₁ a h₁ r e hr hmem
      · exact hcleanup t₃ b h₃ r e hr hmem

end Surfaces

/-! ## Properties of every run -/

/-- Every run of the program, from its beginning to its end, satisfies `P`. -/
def EveryRun (P : List (Event Val ε) → Prop) (c : Coro Val ε α) : Prop := ∀ t o, Ends c t o → P t

/-- A property that runs have one after the other if they have it one by one. -/
structure Composes (P : List (Event Val ε) → Prop) : Prop where
  nil : P []
  append : ∀ {t t' : List (Event Val ε)}, P t → P t' → P (t ++ t')

section EveryRun

variable {P : List (Event Val ε) → Prop}

theorem everyRun_done (hP : Composes P) (o : Except ε α) : EveryRun P (done o : Coro Val ε α) := by
  rintro t o' ⟨rfl, -⟩
  exact hP.nil

theorem everyRun_next (hP : Composes P) {c : Coro Val ε α} {f : Except ε α → Coro Val ε β}
    (hc : EveryRun P c) (hf : ∀ o, EveryRun P (f o)) : EveryRun P (c.next f) := by
  intro t o h
  obtain ⟨t₁, o₁, t₂, rfl, h₁, h₂⟩ := Ends.of_next h
  exact hP.append (hc t₁ o₁ h₁) (hf o₁ t₂ o h₂)

theorem everyRun_bind (hP : Composes P) {c : Coro Val ε α} {f : α → Coro Val ε β}
    (hc : EveryRun P c) (hf : ∀ a, EveryRun P (f a)) : EveryRun P (c >>= f) := by
  refine everyRun_next hP hc fun o ↦ ?_
  cases o with
  | ok a => exact hf a
  | error e => exact everyRun_done hP _

theorem everyRun_attempt (hP : Composes P) {c : Coro Val ε α} (hc : EveryRun P c) :
    EveryRun P c.attempt :=
  everyRun_next hP hc fun _ ↦ everyRun_done hP _

theorem everyRun_tryFinally (hP : Composes P) {c : Coro Val ε α} {cleanup : Coro Val ε β}
    (hc : EveryRun P c) (hcleanup : EveryRun P cleanup) : EveryRun P (c.tryFinally cleanup) :=
  everyRun_next hP hc fun _ ↦ everyRun_bind hP hcleanup fun _ ↦ everyRun_done hP _

theorem everyRun_foldlM (hP : Composes P) {f : β → γ → Coro Val ε β}
    (hf : ∀ b x, EveryRun P (f b x)) : ∀ (l : List γ) (b : β), EveryRun P (l.foldlM f b)
  | [], _ => everyRun_done hP _
  | x :: l, b => by
    rw [List.foldlM_cons]
    exact everyRun_bind hP (hf b x) fun b' ↦ everyRun_foldlM hP hf l b'

/-- A program that makes only some requests. -/
theorem everyRun_of_only {Q : Req → Prop} {c : Coro Val ε α} (hc : Only Q c)
    (hP : ∀ t : List (Event Val ε), (∀ e ∈ t, Q e.1) → P t) : EveryRun P c :=
  fun t _ h ↦ hP t (hc.of_ends h)

end EveryRun

/-! ## Calls of a program -/

/-- What is left once the first part has returned. -/
theorem After.bind {P : Coro Val ε β} {c : Coro Val ε α} {f : α → Coro Val ε β} {a : α}
    {t t' : List (Event Val ε)} (h : After P t (c >>= f)) (h' : Ends c t' (.ok a)) :
    After P (t ++ t') (f a) := h.append (h'.after_next _)

/-- What is left after the body of a `try` statement, however it ended. -/
theorem After.attempt_bind {P : Coro Val ε β} {c : Coro Val ε α}
    {f : Except ε α → Coro Val ε β} {o : Except ε α} {t t' : List (Event Val ε)}
    (h : After P t (c.attempt >>= f)) (h' : Ends c t' o) : After P (t ++ t') (f o) := by
  refine h.bind ?_
  have := (h'.after_next (fun o ↦ (done (.ok o) : Coro Val ε (Except ε α)))).ends
    (o := .ok o) ⟨rfl, rfl, rfl⟩
  rwa [List.append_nil] at this

/-- … where more follows the `try` statement. -/
theorem After.attempt_bind_bind {P : Coro Val ε γ} {c : Coro Val ε α}
    {f : Except ε α → Coro Val ε β} {g : β → Coro Val ε γ} {o : Except ε α}
    {t t' : List (Event Val ε)} (h : After P t (c.attempt >>= f >>= g)) (h' : Ends c t' o) :
    After P (t ++ t') (f o >>= g) := by
  rw [bind_eq _ g, Coro.bind, bind_eq _ f, Coro.bind, Coro.attempt, next_next, next_next] at h
  exact h.append (h'.after_next _)

/-- The run `t` of `c` calls the program `d`, and the call ends with the outcome `o`. -/
def Calls (c : Coro Val ε α) (t : List (Event Val ε)) (d : Coro Val ε δ) (o : Except ε δ) : Prop :=
  ∃ t₁ t₂ t₃ k, t = t₁ ++ (t₂ ++ t₃) ∧ After c t₁ (d.next k) ∧ Ends d t₂ o

variable {c : Coro Val ε α} {t t' : List (Event Val ε)} {d : Coro Val ε δ} {o : Except ε δ}

theorem Calls.self (h : Ends d t o) : Calls d t d o :=
  ⟨[], t, [], done, by simp, by rw [next_done]; exact .nil d, h⟩

/-- A call in what is left of a program. -/
theorem Calls.after {P : Coro Val ε α} (h' : After P t' c) (h : Calls c t d o) :
    Calls P (t' ++ t) d o := by
  obtain ⟨t₁, t₂, t₃, k, rfl, hafter, hends⟩ := h
  exact ⟨t' ++ t₁, t₂, t₃, k, by simp, h'.append hafter, hends⟩

/-- A call is one of every longer run. -/
theorem Calls.append (h : Calls c t d o) (t' : List (Event Val ε)) : Calls c (t ++ t') d o := by
  obtain ⟨t₁, t₂, t₃, k, rfl, hafter, hends⟩ := h
  exact ⟨t₁, t₂, t₃ ++ t', k, by simp, hafter, hends⟩

theorem Calls.next_left (h : Calls c t d o) (f : Except ε α → Coro Val ε β)
    (t' : List (Event Val ε)) : Calls (c.next f) (t ++ t') d o := by
  obtain ⟨t₁, t₂, t₃, k, rfl, hafter, hends⟩ := h
  refine ⟨t₁, t₂, t₃ ++ t', fun o ↦ (k o).next f, by simp, ?_, hends⟩
  rw [← next_next]
  exact hafter.next f

theorem Calls.next_right {o' : Except ε α} (h' : Ends c t o') {f : Except ε α → Coro Val ε β}
    (h : Calls (f o') t' d o) : Calls (c.next f) (t ++ t') d o := by
  obtain ⟨t₁, t₂, t₃, k, rfl, hafter, hends⟩ := h
  exact ⟨t ++ t₁, t₂, t₃, k, by simp, (h'.after_next f).append hafter, hends⟩

/-- A call in the part that ran first. -/
theorem Calls.bind_left (h : Calls c t d o) (f : α → Coro Val ε β) (t' : List (Event Val ε)) :
    Calls (c >>= f) (t ++ t') d o := h.next_left _ t'

/-- A call in the body of a `try` statement. -/
theorem Calls.attempt (h : Calls c t d o) : Calls c.attempt t d o := by
  have := h.next_left (fun o ↦ (done (.ok o) : Coro Val ε (Except ε α))) []
  rwa [List.append_nil] at this

/-- A call in the `finally` clause. -/
theorem Calls.tryFinally_right {o' : Except ε α} (h' : Ends c t o') {cleanup : Coro Val ε β}
    (h : Calls cleanup t' d o) : Calls (c.tryFinally cleanup) (t ++ t') d o := by
  refine Calls.next_right h' ?_
  rw [← List.append_nil t']
  exact h.next_left _ []

end Coroutine
