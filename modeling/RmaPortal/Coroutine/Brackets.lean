import RmaPortal.Coroutine.Basic

/-!
# Brackets

Some requests open something, others close it, and in between only some requests may be made: a
transaction, a lock, a file.

## What is here

* `BracketRole` — what a request has to do with a bracket: it opens or closes it, may be made only
  inside or only outside, or has nothing to do with it.
* `brackets` — the discipline, as a typestate with two states.
* `Closes`, `Balanced` — a program keeps the discipline and has closed everything in the end,
  however it ends: with a value or with an exception.
* `Closes.allowed`, `Closes.step` — what this says of a program that is on its way: its next
  request is allowed, and what is left of it after that is such a program again.  So it can be
  said of one task among others.
* `balanced_bind`, `balanced_attempt`, `balanced_tryFinally`, `balanced_foldlM` — what is put
  together from balanced programs is balanced.
* `balanced_of_only` — a program that has nothing to do with brackets.
* `balanced_block` — a block that opens, runs a body and closes in the end is balanced if its body
  makes only requests of the inside.

Brackets are not nested: within an open one, nothing can be opened.
-/

set_option autoImplicit false

namespace Coroutine

/-- What a request has to do with a bracket. -/
inductive BracketRole
  | opens
  | closes
  /-- Only while it is open. -/
  | inner
  /-- Only while it is not. -/
  | outer
  /-- At any time. -/
  | neutral

variable {Req : Type} {Val : Req → Type} {ε α β γ : Type} (role : Req → BracketRole)

/-- The discipline of brackets.  The state is whether there is one open; it does not open if opening
fails. -/
def brackets : Spec Val ε Bool where
  pre isOpen r := match role r with
    | .opens | .outer => isOpen = false
    | .closes | .inner => isOpen = true
    | .neutral => True
  step isOpen r a isOpen' := match role r, a with
    | .opens, .ok _ => isOpen' = true
    | .closes, _ => isOpen' = false
    | _, _ => isOpen' = isOpen

/-- The program keeps the discipline, and has closed everything in the end. -/
def Closes (c : Coro Val ε α) (isOpen : Bool) : Prop :=
  Leads (brackets role) c isOpen fun _ isOpen' ↦ isOpen' = false

/-- What the program opens it closes. -/
abbrev Balanced (c : Coro Val ε α) : Prop := Closes role c false

variable {role}

theorem Closes.of_done {o : Except ε α} {isOpen : Bool}
    (h : Closes role (Coro.done o : Coro Val ε α) isOpen) : isOpen = false := h

/-- A request of such a program is allowed … -/
theorem Closes.allowed {r : Req} {k : Except ε (Val r) → Coro Val ε α} {isOpen : Bool}
    (h : Closes role (Coro.ask r k) isOpen) : (brackets role : Spec Val ε Bool).pre isOpen r := h.1

/-- … and what is left after it is such a program. -/
theorem Closes.step {r : Req} {k : Except ε (Val r) → Coro Val ε α} {isOpen isOpen' : Bool}
    {a : Except ε (Val r)} (h : Closes role (Coro.ask r k) isOpen)
    (hstep : (brackets role).step isOpen r a isOpen') : Closes role (k a) isOpen' :=
  h.2 a isOpen' hstep

/-! ## Balanced programs -/

theorem balanced_done (o : Except ε α) : Balanced role (Coro.done o : Coro Val ε α) := rfl

theorem balanced_pure (a : α) : Balanced role (pure a : Coro Val ε α) := rfl

theorem balanced_throw (e : ε) : Balanced role (throw e : Coro Val ε α) := rfl

theorem balanced_next {c : Coro Val ε α} {f : Except ε α → Coro Val ε β} (hc : Balanced role c)
    (hf : ∀ o, Balanced role (f o)) : Balanced role (c.next f) :=
  sat_next hc fun _ o _ h ↦ by
    subst h
    exact hf o

theorem balanced_bind {c : Coro Val ε α} {f : α → Coro Val ε β} (hc : Balanced role c)
    (hf : ∀ a, Balanced role (f a)) : Balanced role (c >>= f) :=
  leads_bind hc (fun a _ h ↦ by
    subst h
    exact hf a) fun _ _ h ↦ h

theorem balanced_attempt {c : Coro Val ε α} (hc : Balanced role c) : Balanced role c.attempt :=
  balanced_next hc fun _ ↦ balanced_pure _

theorem balanced_tryFinally {body : Coro Val ε α} {cleanup : Coro Val ε β}
    (hbody : Balanced role body) (hcleanup : Balanced role cleanup) :
    Balanced role (body.tryFinally cleanup) :=
  balanced_next hbody fun _ ↦ balanced_bind (f := fun _ ↦ .done _) hcleanup fun _ ↦ balanced_done _

theorem balanced_foldlM {f : β → γ → Coro Val ε β} (hf : ∀ b x, Balanced role (f b x)) :
    ∀ (l : List γ) (b : β), Balanced role (l.foldlM f b)
  | [], b => balanced_pure b
  | x :: l, b => by
    rw [List.foldlM_cons]
    exact balanced_bind (hf b x) fun b' ↦ balanced_foldlM hf l b'

/-- A program that has nothing to do with brackets. -/
theorem balanced_of_only {c : Coro Val ε α}
    (h : Only (fun r ↦ role r = .outer ∨ role r = .neutral) c) : Balanced role c := by
  refine (h.sat (I := fun isOpen ↦ isOpen = false) ?_ ?_ rfl).mono fun _ _ _ h ↦ h.1
  · rintro _ r hr rfl
    rcases hr with hr | hr <;> simp [brackets, hr]
  · rintro _ r a _ hr rfl hstep
    rcases hr with hr | hr <;> simpa [brackets, hr] using hstep

/-- **A block is balanced**: what its body asks for may be asked inside, and it is closed however
the body ends. -/
theorem balanced_block {opener closer : Req} {body : Coro Val ε α}
    {f : α × Val closer → Coro Val ε β}
    (hopens : role opener = .opens) (hcloses : role closer = .closes)
    (hbody : Only (fun r ↦ role r = .inner ∨ role r = .neutral) body)
    (hf : ∀ x, Balanced role (f x)) :
    Balanced role (Coro.perform opener >>= fun _ ↦
      (body.tryFinally (Coro.perform closer) >>= f : Coro Val ε β)) := by
  refine leads_ask (by simp [brackets, hopens]) ?_ ?_
  swap
  · intro e isOpen hstep
    simpa [brackets, hopens] using hstep
  intro _ isOpen hstep
  obtain rfl : isOpen = true := by simpa [brackets, hopens] using hstep
  refine leads_bind (R := fun _ isOpen ↦ isOpen = false) ?_ ?_ fun _ _ h ↦ h
  swap
  · rintro x _ rfl
    exact hf x
  refine sat_tryFinally (R := fun _ _ isOpen ↦ isOpen = true)
    ((hbody.sat (I := fun isOpen ↦ isOpen = true) ?_ ?_ rfl).mono fun _ _ _ h ↦ h.1) ?_
  · rintro _ r hr rfl
    rcases hr with hr | hr <;> simp [brackets, hr]
  · rintro _ r a _ hr rfl hstep
    rcases hr with hr | hr <;> simpa [brackets, hr] using hstep
  · rintro _ o _ rfl
    refine sat_perform (by simp [brackets, hcloses]) fun a isOpen hstep ↦ ?_
    have hclosed : isOpen = false := by simpa [brackets, hcloses] using hstep
    cases a <;> exact hclosed

end Coroutine
