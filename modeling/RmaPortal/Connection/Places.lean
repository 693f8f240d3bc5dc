import RmaPortal.Connection.Sharing

/-!
# The calls that programs are in the middle of

Between two turns a program is in the middle of a call of `execute` or of none (`Point`); a turn
takes it from one such place to the next (`Goes`).  `Sharing` says of all programs of the
application where they are, and `exists_sharing` that they are somewhere in every state that can
be reached.

The calls are numbered, in the order in which they are made.  A program that makes many of them,
as the loop of the scheduler does, gets a new number for each, so that the theory of a single
flight, in which a call is made once, can be used as it is.

## What is here

* `Point` — where a program is between two turns: it is over, it waits for something else, it
  waits within the call with a certain number, on behalf of a synchronization or not, or it is a
  task that has not begun.
* `Goes` — what a turn comes to: calls are made and not taken back, they are still a single
  flight, what is shared keeps up with them, and the program is at another place.
* `Uses.goes`, `Point.goes` — a turn of any program.  The induction is on the turn; it ends where
  the program is suspended, which may be after several calls.
* `Sharing` — all programs are at their places, no two of them in the middle of the same call, and
  a synchronization that has begun and is not done is in the middle of one.
* `Sharing.update`, `Sharing.goes` — one program has moved, and the others are where they were.
* `Sharing.spawn_sync`, `Sharing.step` — the step lemma, with a case of its own for the first turn
  of a synchronization, because it is there that one begins.
* `exists_sharing` — the run.

What this is good for is the next module: whether the queue is locked, which is all that `start`
can see, is whether some call leads.
-/

set_option autoImplicit false

open Coroutine

namespace RmaPortal

open SingleFlight (Stage Calls Sound Step Steps)

namespace Application

open SharedQueue (Shape)

/-! ## Where the programs are -/

/-- **Where a program is between two turns**: in the middle of the call with this number, on behalf
of this synchronization if any, or in the middle of none. -/
inductive Point (executeOnce : Prog SyncResult) (calls : Calls (Except Exn SyncResult)) :
    Option (ℕ × Option TaskId) → ApplicationCall (Option Bool) → Prop
  /-- The program is over. -/
  | ended (o : Except Exn (Option Bool)) : Point executeOnce calls none (.done o)
  /-- It waits for something else. -/
  | aside {r : ApplicationRequest} {k : Except Exn r.Val → ApplicationCall (Option Bool)}
      (hr : Aside r) (hk : ∀ a, Uses executeOnce (k a)) : Point executeOnce calls none (.ask r k)
  /-- It waits within a call of `execute`. -/
  | inside {j : ℕ} {sync : Option TaskId} {x : Stage (Except Exn SyncResult)} {t : List CallEvent}
      {q : CallRequest} {k : Except Exn q.Val → Call SyncResult}
      {f : Except Exn SyncResult → ApplicationCall (Option Bool)} (hj : calls j = some x)
      (hshape : Shape executeOnce x t (.ask q k)) (hf : ∀ o, Uses executeOnce (f o))
      (hsync : ∀ t, sync = some t → f = afterSync t) :
      Point executeOnce calls (some (j, sync)) ((Coro.ask q k).right.next f)

/-- **What a turn comes to** that leads from the state `s`, the calls `calls` and the place `place`
of a program to `s'`, `calls'` and `place'`; the calls made so far have numbers below `n`, and `n'`
after it. -/
structure Goes (executeOnce : Prog SyncResult) (s : Application)
    (calls : Calls (Except Exn SyncResult)) (n : ℕ) (place : Option (ℕ × Option TaskId))
    (c : ApplicationCall (Option Bool)) (s' : Application) (calls' : Calls (Except Exn SyncResult))
    (n' : ℕ) (place' : Option (ℕ × Option TaskId)) : Prop where
  /-- Calls are made and not taken back. -/
  le : n ≤ n'
  /-- They are still a single flight. -/
  shared : Shared s'.2 calls' n'
  /-- The calls of others stay where they were. -/
  others : ∀ j < n, (∀ sync, place ≠ some (j, sync)) → calls' j = calls j
  /-- No synchronization has begun. -/
  onward : s.1.Onward s'.1
  /-- The program is at its new place. -/
  point : Point executeOnce calls' place' c
  /-- The call it is in the middle of is a new one, or the one it was in the middle of before. -/
  number : ∀ j sync, place' = some (j, sync) → j < n' ∧ (n ≤ j ∨ ∃ sync', place = some (j, sync'))
  /-- A synchronization that is not done is still in the middle of its call. -/
  running : ∀ t, s'.1.Running t → ∀ j, place = some (j, some t) → ∃ j', place' = some (j', some t)
  /-- What is not a synchronization does not become one. -/
  sync : ∀ j t, place' = some (j, some t) → ∃ j', place = some (j', some t)

section Goes

variable {executeOnce : Prog SyncResult} {s s₁ s' : Application}
  {calls calls' : Calls (Except Exn SyncResult)} {n n' j : ℕ} {es : List ApplicationEvent}
  {place : Option (ℕ × Option TaskId)} {c d : ApplicationCall (Option Bool)}

/-- What comes before the rest of a turn: some calls have been made, or one has ended. -/
theorem Goes.after {m : ℕ} (h : Goes executeOnce s₁ calls n none d s' calls' n' place)
    (hm : m ≤ n) {calls₀ : Calls (Except Exn SyncResult)} {place₀ : Option (ℕ × Option TaskId)}
    (hothers : ∀ j < m, (∀ sync, place₀ ≠ some (j, sync)) → calls j = calls₀ j)
    (honward : s.1.Onward s₁.1)
    (hrunning : ∀ t, s'.1.Running t → ∀ j, place₀ ≠ some (j, some t)) :
    Goes executeOnce s calls₀ m place₀ d s' calls' n' place where
  le := hm.trans h.le
  shared := h.shared
  others j hj hplace := (h.others j (by omega) (by simp)).trans (hothers j hj hplace)
  onward := honward.trans h.onward
  point := h.point
  number j sync hj := by
    obtain ⟨hlt, hle | ⟨_, hnone⟩⟩ := h.number j sync hj
    · exact ⟨hlt, .inl (hm.trans hle)⟩
    · cases hnone
  running t ht j hj := (hrunning t ht j hj).elim
  sync j t hj := by
    obtain ⟨_, hnone⟩ := h.sync j t hj
    cases hnone

/-- A turn that ends where the program is in the middle of no call. -/
theorem goes_none (h : Shared s.2 calls n) (hpoint : Point executeOnce calls none d) :
    Goes executeOnce s calls n none d s calls n none where
  le := le_rfl
  shared := h
  others _ _ _ := rfl
  onward := .refl _
  point := hpoint
  number _ _ h := by cases h
  running _ _ _ h := by cases h
  sync _ _ h := by cases h

/-- **A turn of a program** that is not in the middle of a call. -/
theorem Uses.goes (hc : Uses executeOnce c) (h : Shared s.2 calls n)
    (hrun : Settle rules suspends c s es d s') :
    ∃ calls' n' place', Goes executeOnce s calls n none d s' calls' n' place' := by
  induction hc generalizing s es calls n with
  | done o =>
    cases hrun
    exact ⟨calls, n, none, goes_none h (.ended o)⟩
  | @ask r k hr hk ih =>
    cases hrun with
    | waits => exact ⟨calls, n, none, goes_none h (.aside hr hk)⟩
    | goes _ hstep hrest =>
      obtain ⟨hqueue, honward⟩ := step_aside hr hstep
      obtain ⟨calls', n', place', hgoes⟩ := ih _ (by rwa [hqueue]) hrest
      exact ⟨calls', n', place', hgoes.after le_rfl (fun _ _ _ ↦ rfl) honward (by simp)⟩
  | @call f hf ih =>
    rcases settle_call h hrun with
      ⟨x, t, q, k, rfl, hshape, hshared, hsame⟩ | ⟨o, x, es', s₁, hshared, hsame, hrest⟩
    · refine ⟨_, n + 1, some (n, none), n.le_succ, hshared, fun j hj _ ↦ ?_, hsame ▸ .refl _,
        .inside (Function.update_self ..) hshape hf nofun, ?_, nofun, nofun⟩
      · exact Function.update_of_ne hj.ne ..
      · rintro j sync ⟨⟩
        exact ⟨n.lt_succ_self, .inl le_rfl⟩
    · obtain ⟨calls', n', place', hgoes⟩ := ih o hshared hrest
      refine ⟨calls', n', place',
        hgoes.after n.le_succ (fun j hj _ ↦ ?_) (hsame ▸ .refl _) (by simp)⟩
      exact Function.update_of_ne hj.ne ..

/-- **A turn of any program.** -/
theorem Point.goes {r : ApplicationRequest} {k : Except Exn r.Val → ApplicationCall (Option Bool)}
    {a : Except Exn r.Val} (hpoint : Point executeOnce calls place (.ask r k))
    (h : Shared s.2 calls n) (hstep : rules.step s r a s₁)
    (hrun : Settle rules suspends (k a) s₁ es d s') :
    ∃ calls' n' place', Goes executeOnce s calls n place d s' calls' n' place' := by
  generalize hc : Coro.ask r k = c at hpoint
  cases hpoint with
  | ended o => cases hc
  | aside hr hk =>
    cases hc
    obtain ⟨hqueue, honward⟩ := step_aside hr hstep
    obtain ⟨calls', n', place', hgoes⟩ := (hk a).goes (by rwa [hqueue]) hrun
    exact ⟨calls', n', place', hgoes.after le_rfl (fun _ _ _ ↦ rfl) honward (by simp)⟩
  | @inside j sync x t q k' f hj hshape hf hsync =>
    cases hc
    have hlt : j < n := by
      by_contra hle
      cases hj.symm.trans (h.unused j (by omega))
    rcases settle_resume h hj hshape hstep hrun with
      ⟨y, t, q, k, rfl, hshape, hshared, hsame⟩ | ⟨o, y, es', s₂, hshared, hsame, hrest⟩
    · refine ⟨_, n, some (j, sync), le_rfl, hshared, fun j' _ hplace ↦ ?_, hsame ▸ .refl _,
        .inside (Function.update_self ..) hshape hf hsync, ?_, ?_, ?_⟩
      · have hne : j' ≠ j := fun hj' ↦ hplace sync (by rw [hj'])
        exact Function.update_of_ne hne ..
      · rintro j' sync' ⟨⟩
        exact ⟨hlt, .inr ⟨sync, rfl⟩⟩
      · rintro t _ _ ⟨⟩
        exact ⟨j, rfl⟩
      · rintro _ t ⟨⟩
        exact ⟨j, rfl⟩
    · obtain ⟨calls', n', place', hgoes⟩ := (hf o).goes hshared hrest
      refine ⟨calls', n', place', hgoes.after le_rfl (fun j' _ hplace ↦ ?_) (hsame ▸ .refl _) ?_⟩
      · have hne : j' ≠ j := fun hj' ↦ hplace sync (by rw [hj'])
        exact Function.update_of_ne hne ..
      · -- a synchronization whose call has ended is done
        rintro t ⟨-, -, hunfinished⟩ _ ⟨⟩
        rw [hsync t rfl] at hrest
        cases (turn_ending t (caught o) _ _ _ hrest).symm.trans hunfinished

end Goes

/-! ## Runs -/

/-- What holds between two turns: each program is at its place, and what the programs share keeps up
with their calls. -/
structure Sharing (executeOnce : Prog SyncResult) (verifyTimeoutSeconds : ℕ) (p : ApplicationPool)
    (calls : Calls (Except Exn SyncResult)) (n : ℕ) (place : ℕ → Option (ℕ × Option TaskId)) :
    Prop where
  /-- The calls are a single flight. -/
  shared : Shared p.state.2 calls n
  /-- What has not been created has not begun. -/
  fresh : p.state.1.Fresh
  /-- What has not been started is in the middle of no call. -/
  unused : ∀ i, p.tasks i = none → place i = none
  /-- Each program is at its place. -/
  point : ∀ i task, p.tasks i = some task → Point executeOnce calls (place i) task.rest
  /-- The calls that programs are in the middle of have been made … -/
  number : ∀ i j sync, place i = some (j, sync) → j < n
  /-- … each by one program. -/
  unique : ∀ i i' j sync sync', place i = some (j, sync) → place i' = some (j, sync') → i = i'
  /-- A call on behalf of a synchronization is made by its task. -/
  program : ∀ i task j t, p.tasks i = some task → place i = some (j, some t) →
    task.program = wired executeOnce (SessionConnector.taskCall verifyTimeoutSeconds .sync t)
  /-- A synchronization that has begun and is not done is in the middle of a call. -/
  running : ∀ t, p.state.1.Running t → ∃ i j, place i = some (j, some t)

section Sharing

variable {executeOnce : Prog SyncResult} {verifyTimeoutSeconds : ℕ} {p p' : ApplicationPool}
  {calls : Calls (Except Exn SyncResult)} {n : ℕ} {place : ℕ → Option (ℕ × Option TaskId)}

theorem sharing_built : Sharing executeOnce verifyTimeoutSeconds (Pool.empty built) (fun _ ↦ none) 0
    fun _ ↦ none where
  shared := shared_start
  fresh _ _ := ⟨rfl, rfl⟩
  unused _ _ := rfl
  point _ _ h := by cases h
  number _ _ _ h := by cases h
  unique _ _ _ _ _ h := by cases h
  program _ _ _ _ h := by cases h
  running _ h := by cases h.1

/-- A program that is in the middle of a call stays there, if the call does. -/
theorem Point.mono {calls' : Calls (Except Exn SyncResult)} {x : Option (ℕ × Option TaskId)}
    {c : ApplicationCall (Option Bool)} (h : Point executeOnce calls x c)
    (hcalls : ∀ j sync, x = some (j, sync) → calls' j = calls j) :
    Point executeOnce calls' x c := by
  cases h with
  | ended o => exact .ended o
  | aside hr hk => exact .aside hr hk
  | inside hj hshape hf hsync => exact .inside ((hcalls _ _ rfl).trans hj) hshape hf hsync

/-- **One program has moved**, and the others are where they were. -/
theorem Sharing.update (h : Sharing executeOnce verifyTimeoutSeconds p calls n place) {i : ℕ}
    {s' : Application} {calls' : Calls (Except Exn SyncResult)} {n' : ℕ}
    {place' : Option (ℕ × Option TaskId)}
    {task : Task ApplicationRequest.Val Exn (Option Bool)} (hle : n ≤ n')
    (hshared : Shared s'.2 calls' n') (hfresh : s'.1.Fresh)
    (hothers : ∀ j < n, (∀ sync, place i ≠ some (j, sync)) → calls' j = calls j)
    (hpoint : Point executeOnce calls' place' task.rest)
    (hnumber : ∀ j sync, place' = some (j, sync) →
      j < n' ∧ (n ≤ j ∨ ∃ sync', place i = some (j, sync')))
    (hprogram : ∀ j t, place' = some (j, some t) → task.program =
      wired executeOnce (SessionConnector.taskCall verifyTimeoutSeconds .sync t))
    (hrunning : ∀ t, s'.1.Running t → (∃ j, place' = some (j, some t)) ∨
      ∃ i' j, i' ≠ i ∧ place i' = some (j, some t)) :
    Sharing executeOnce verifyTimeoutSeconds ⟨s', Function.update p.tasks i (some task)⟩ calls' n'
      (Function.update place i place') where
  shared := hshared
  fresh := hfresh
  unused i' hi' := by
    by_cases hii : i' = i
    · simp [hii] at hi'
    · dsimp only at hi'
      rw [Function.update_of_ne hii] at hi' ⊢
      exact h.unused i' hi'
  point i' task' htask' := by
    by_cases hii : i' = i
    · subst hii
      cases (Function.update_self ..).symm.trans htask'
      rwa [Function.update_self]
    · dsimp only at htask'
      rw [Function.update_of_ne hii] at htask' ⊢
      refine (h.point i' task' htask').mono fun j sync hj ↦ ?_
      exact hothers j (h.number i' j sync hj) fun sync' hsync' ↦ hii (h.unique _ _ _ _ _ hj hsync')
  number i' j sync hj := by
    by_cases hii : i' = i
    · subst hii
      rw [Function.update_self] at hj
      exact (hnumber j sync hj).1
    · rw [Function.update_of_ne hii] at hj
      exact (h.number i' j sync hj).trans_le hle
  unique := by
    -- the call of the program that has moved is not the one of another program
    have hne : ∀ i' j sync sync', i' ≠ i → place' = some (j, sync) →
        place i' ≠ some (j, sync') := by
      intro i' j sync sync' hii hj hj'
      rcases (hnumber j sync hj).2 with hle' | ⟨sync'', hj''⟩
      · exact absurd (h.number i' j sync' hj') (by omega)
      · exact hii (h.unique _ _ _ _ _ hj' hj'')
    intro i₁ i₂ j sync sync' h₁ h₂
    by_cases hi₁ : i₁ = i <;> by_cases hi₂ : i₂ = i
    · rw [hi₁, hi₂]
    · rw [hi₁, Function.update_self] at h₁
      rw [Function.update_of_ne hi₂] at h₂
      exact (hne i₂ j sync sync' hi₂ h₁ h₂).elim
    · rw [hi₂, Function.update_self] at h₂
      rw [Function.update_of_ne hi₁] at h₁
      exact (hne i₁ j sync' sync hi₁ h₂ h₁).elim
    · rw [Function.update_of_ne hi₁] at h₁
      rw [Function.update_of_ne hi₂] at h₂
      exact h.unique i₁ i₂ j sync sync' h₁ h₂
  program i' task' j t htask' hj := by
    by_cases hii : i' = i
    · subst hii
      cases (Function.update_self ..).symm.trans htask'
      rw [Function.update_self] at hj
      exact hprogram j t hj
    · dsimp only at htask'
      rw [Function.update_of_ne hii] at htask' hj
      exact h.program i' task' j t htask' hj
  running t ht := by
    rcases hrunning t ht with ⟨j, hj⟩ | ⟨i', j, hii, hj⟩
    · exact ⟨i, j, by rwa [Function.update_self]⟩
    · exact ⟨i', j, by rwa [Function.update_of_ne hii]⟩

/-- A turn that goes on as `Goes` says. -/
theorem Sharing.goes (h : Sharing executeOnce verifyTimeoutSeconds p calls n place) {i : ℕ}
    {s' : Application} {calls' : Calls (Except Exn SyncResult)} {n' : ℕ}
    {place' : Option (ℕ × Option TaskId)}
    {task : Task ApplicationRequest.Val Exn (Option Bool)}
    (hgoes : Goes executeOnce p.state calls n (place i) task.rest s' calls' n' place')
    (hprogram : ∀ j t, place i = some (j, some t) → task.program =
      wired executeOnce (SessionConnector.taskCall verifyTimeoutSeconds .sync t)) :
    Sharing executeOnce verifyTimeoutSeconds ⟨s', Function.update p.tasks i (some task)⟩ calls' n'
      (Function.update place i place') := by
  obtain ⟨hfresh, hrunning⟩ := hgoes.onward h.fresh
  refine h.update hgoes.le hgoes.shared hfresh hgoes.others hgoes.point hgoes.number ?_ ?_
  · intro j t hj
    obtain ⟨j', hj'⟩ := hgoes.sync j t hj
    exact hprogram j' t hj'
  · intro t ht
    obtain ⟨i', j, hj⟩ := h.running t (hrunning t ht)
    by_cases hii : i' = i
    · exact .inl (hgoes.running t ht j (hii ▸ hj))
    · exact .inr ⟨i', j, hii, hj⟩

/-- A program either uses the queue as `Uses` says, or is the task of a synchronization. -/
theorem IsProgram.uses {c : ApplicationCall (Option Bool)}
    (h : IsProgram executeOnce verifyTimeoutSeconds c) : Uses executeOnce c ∨
      ∃ t, c = wired executeOnce (SessionConnector.taskCall verifyTimeoutSeconds .sync t) := by
  cases h with
  | connector h =>
    cases h with
    | start => exact .inl (uses_wired SessionConnector.only_startCall)
    | shutdown => exact .inl (uses_wired SessionConnector.only_shutdownCall)
    | task job t =>
      by_cases hsync : job = .sync
      · exact .inr ⟨t, by rw [hsync]⟩
      · exact .inl (uses_wired (SessionConnector.only_taskCall hsync t))
  | loop intervalSeconds n => exact .inl (uses_returning (uses_loop intervalSeconds n))
  | manualRefresh => exact .inl (uses_returning uses_manualRefresh)

/-- **The first turn of a synchronization.** -/
theorem Sharing.spawn_sync (h : Sharing executeOnce verifyTimeoutSeconds p calls n place) {i : ℕ}
    {t : TaskId} {d : ApplicationCall (Option Bool)} {es : List ApplicationEvent}
    {s' : Application} (hplace : place i = none)
    (hrun : Settle rules suspends
      (wired executeOnce (SessionConnector.taskCall verifyTimeoutSeconds .sync t)) p.state es
        d s') :
    ∃ calls' n' place', Sharing executeOnce verifyTimeoutSeconds
      ⟨s', Function.update p.tasks i (some
        ⟨wired executeOnce (SessionConnector.taskCall verifyTimeoutSeconds .sync t), d, es⟩)⟩
      calls' n' place' := by
  obtain ⟨k, hk, hok, herror⟩ := wired_sync executeOnce verifyTimeoutSeconds t
  rw [hk] at hrun
  cases hrun with
  | waits _ _ _ hwaits => cases hwaits
  | @goes _ _ _ s₁ _ a es _ _ hstep hrest =>
    obtain ⟨⟨-, b, hb⟩, hqueue⟩ := hstep
    -- the task has begun
    have hbegun : s₁.1.Fresh ∧ ∀ t', s₁.1.Running t' → p.state.1.Running t' ∨ t' = t := by
      rw [SessionConnector.serve] at hb
      split at hb
      · rename_i hjob
        obtain ⟨-, hs₁⟩ := Prod.mk.inj (Option.some.inj hb)
        rw [← hs₁]
        exact ⟨h.fresh.begin hjob.1, fun t' ht' ↦ ht'.of_begin⟩
      · cases hb
    have hshared : Shared s₁.2 calls n := hqueue ▸ h.shared
    -- what follows ends the task
    have hends : ∀ {s₂ calls₂ n₂ o es'}, Shared s₂.2 calls₂ n₂ → s₂.1 = s₁.1 → n ≤ n₂ →
        (∀ j < n, calls₂ j = calls j) → Settle rules suspends (ending t o) s₂ es' d s' →
        ∃ calls' n' place', Sharing executeOnce verifyTimeoutSeconds
          ⟨s', Function.update p.tasks i (some
            ⟨wired executeOnce (SessionConnector.taskCall verifyTimeoutSeconds .sync t), d,
              ⟨_, a⟩ :: es⟩)⟩ calls' n' place' := by
      intro s₂ calls₂ n₂ o es' hshared₂ hsame hle hcalls hrest
      have hfinished : s'.1.finished t = true := turn_ending t o _ _ _ hrest
      obtain ⟨calls', n', place', hgoes⟩ := (uses_ending t o).goes hshared₂ hrest
      obtain ⟨hfresh, hrunning⟩ := hgoes.onward (hsame ▸ hbegun.1)
      refine ⟨calls', n', _, h.update (hle.trans hgoes.le) hgoes.shared hfresh (fun j hj _ ↦ ?_)
        hgoes.point (fun j sync hj ↦ ?_) (fun j t' hj ↦ ?_) fun t' ht' ↦ .inr ?_⟩
      · exact (hgoes.others j (by omega) (by simp)).trans (hcalls j hj)
      · obtain ⟨hlt, hle' | ⟨_, hnone⟩⟩ := hgoes.number j sync hj
        · exact ⟨hlt, .inl (hle.trans hle')⟩
        · cases hnone
      · obtain ⟨_, hnone⟩ := hgoes.sync j t' hj
        cases hnone
      · rcases hbegun.2 t' (hsame ▸ hrunning t' ht') with hold | rfl
        · obtain ⟨i', j, hj⟩ := h.running t' hold
          exact ⟨i', j, fun hii ↦ (by simp [hii, hplace] at hj), hj⟩
        · cases ht'.2.2.symm.trans hfinished
    cases a with
    | error e =>
      rw [herror] at hrest
      exact hends hshared rfl le_rfl (fun _ _ ↦ rfl) hrest
    | ok x =>
      rw [show k (.ok x) = _ from hok] at hrest
      rcases settle_call hshared hrest with
        ⟨x, es', q, k, rfl, hshape, hshared', hsame⟩ | ⟨o, x, es', s₂, hshared', hsame, hrest⟩
      · have hpoint : Point executeOnce (Function.update calls n (some x)) (some (n, some t))
            ((Coro.ask q k).right.next (afterSync t)) := by
          refine .inside (Function.update_self ..) hshape (fun o ↦ uses_ending t _) ?_
          rintro _ ⟨⟩
          rfl
        refine ⟨_, n + 1, _, h.update n.le_succ hshared' (hsame ▸ hbegun.1) (fun j hj _ ↦ ?_)
          hpoint ?_ ?_ ?_⟩
        · exact Function.update_of_ne hj.ne ..
        · rintro j sync ⟨⟩
          exact ⟨n.lt_succ_self, .inl le_rfl⟩
        · rintro _ _ ⟨⟩
          rfl
        · intro t' ht'
          rcases hbegun.2 t' (hsame ▸ ht') with hold | rfl
          · obtain ⟨i', j, hj⟩ := h.running t' hold
            exact .inr ⟨i', j, fun hii ↦ (by simp [hii, hplace] at hj), hj⟩
          · exact .inl ⟨n, rfl⟩
      · exact hends hshared' hsame n.le_succ (fun j hj ↦ Function.update_of_ne hj.ne ..) hrest

/-- **One turn of one task.** -/
theorem Sharing.step (h : Sharing executeOnce verifyTimeoutSeconds p calls n place)
    {l : ℕ × List ApplicationEvent}
    (hstep : ApplicationStep executeOnce verifyTimeoutSeconds p l p') :
    ∃ calls' n' place', Sharing executeOnce verifyTimeoutSeconds p' calls' n' place' := by
  cases hstep with
  | @spawn i c c' es s' hfree hc hrun =>
    have hplace := h.unused i hfree
    rcases hc.uses with huses | ⟨t, rfl⟩
    · obtain ⟨calls', n', place', hgoes⟩ := huses.goes h.shared hrun
      exact ⟨calls', n', _, h.goes (hplace ▸ hgoes) (by simp [hplace])⟩
    · exact h.spawn_sync hplace hrun
  | @turn i task r k a c' es s₁ s' htask hwait hstep hrun =>
    have hpoint := h.point i task htask
    rw [hwait] at hpoint
    obtain ⟨calls', n', place', hgoes⟩ := hpoint.goes h.shared hstep hrun
    exact ⟨calls', n', _, h.goes hgoes fun j t hj ↦ h.program i task j t htask hj⟩

/-- **A whole run.** -/
theorem exists_sharing {ls : List (ℕ × List ApplicationEvent)}
    (h : ApplicationSteps executeOnce verifyTimeoutSeconds (Pool.empty built) ls p) :
    ∃ calls n place, Sharing executeOnce verifyTimeoutSeconds p calls n place := by
  generalize hp₀ : (Pool.empty built : ApplicationPool) = p₀ at h
  induction h with
  | refl =>
    subst hp₀
    exact ⟨_, _, _, sharing_built⟩
  | tail _ hstep ih =>
    obtain ⟨calls, n, place, hsharing⟩ := ih
    exact hsharing.step hstep

end Sharing

end Application

end RmaPortal
