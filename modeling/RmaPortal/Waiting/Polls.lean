import RmaPortal.Waiting.Stages

/-!
# The fallback

If no event is delivered, the task that waits until the window is closed has only its polls.  What
is left of it between two of them is `betweenPolls`, and nothing but the end of its pause is
needed for it to go on.  A poll that finds no page is its last one: `exists_lastPoll`.

The loop of the source has no bound.  Here it is run for some number of rounds, which is
arbitrary, and a task that has used them up is a case of its own; so what is said of a poll is
said of every poll, as long as there is one.

## What is here

* `Gone` — no page is open any more, or it can not be told.
* `afterRound`, `betweenPolls`, `untilDone_next` — what is left of the task in the middle of a
  round, and when it waits for the next poll.
* `awaits` — how often a program has waited; a task that is between two polls has waited for
  nothing else.
* `Polled`, `turn_rounds`, `turn_betweenPolls` — one poll, as a turn: it finds the window gone,
  marks it closed and is done, or it pauses again.  A part of the poll that raises an `Exception`
  is suppressed, and this is as good as an answer.
* `leads_isContextClosed_gone` — it is found out whether the window is gone.
* `Rests`, `rests_closeTask` — where the task is whenever it does not run: it is done, has used up
  its rounds, or waits for its next poll.
* `Polls.exists_step`, `exists_lastPoll` — the task can always go on, and a poll that finds the
  window gone is its last one.

That the browser is polled at all is only the fallback; the events, and the order in which they
may come, are the subject of `Waiting.Stages`.
-/

set_option autoImplicit false

open Coroutine

namespace RmaPortal

namespace LoginWindow

/-- No page is open any more, or it cannot be told. -/
def Gone (s : LoginWindow) : Prop := s.pages = [] ∨ s.inspectable = false

/-- What is left of the task when it is in a round of its loop, with `m` rounds to come. -/
def afterRound (m : ℕ) (c : WindowCall (Option Unit)) : WindowCall (Option Bool) :=
  untilDone .close do
    match ← c with
    | some b => pure (some b)
    | none => rounds pollClosed m

/-- What is left of the task when it waits for the next poll. -/
def betweenPolls (m : ℕ) : WindowCall (Option Bool) := afterRound m pause

/-- How often a program has waited. -/
def awaits (t : List WindowEvent) : ℕ := t.countP fun e ↦ suspends e.1

section

variable {A : LoginWindow → Prop} {s s' : LoginWindow} {n m : ℕ} {α β : Type}

theorem untilDone_next (job : WindowJob) (c : WindowCall α)
    (f : Except Exn α → WindowCall (Option Unit)) :
    untilDone job (c.next f) = c.next fun o ↦ untilDone job (f o) := by
  rw [untilDone, Coro.attempt, Coro.next_next]
  exact Coro.next_next ..

theorem afterRound_next (c : WindowCall α) (f : Except Exn α → WindowCall (Option Unit)) :
    afterRound m (c.next f) = c.next fun o ↦ afterRound m (f o) := by
  rw [afterRound, Coro.bind_eq, Coro.bind, Coro.next_next, untilDone_next]
  rfl

theorem untilDone_rounds_succ (m : ℕ) :
    untilDone .close (rounds pollClosed (m + 1)) = afterRound m pollClosed := by
  rw [rounds, afterRound]
  refine congrArg (fun f ↦ untilDone .close (pollClosed.next f)) (funext fun o ↦ ?_)
  cases o with
  | error e => rfl
  | ok b => cases b <;> rfl

/-! ## What the parts ask for -/

section

variable {P : WindowRequest → Prop}

theorem only_isContextClosed (h : P .pages) : Only P isContextClosed := by
  refine only_bind (only_attempt (only_perform h)) fun o ↦ ?_
  split
  · exact only_pure _
  · split
    · exact only_pure _
    · exact only_throw _

theorem only_markClosed (h : P .futureDone) (h' : P .setResult) : Only P markClosed :=
  only_bind (only_perform h) fun isDone ↦ by
    cases isDone with
    | true => exact only_pure ()
    | false => exact only_perform h'

theorem only_suppressed {body : WindowCall Unit} (h : Only P body) : Only P (suppressed body) := by
  refine only_bind (only_attempt h) fun o ↦ ?_
  split
  · exact only_pure ()
  · split
    · exact only_pure ()
    · exact only_throw _

theorem only_openPages (h : P .pages) : Only P openPages := by
  refine only_bind (only_attempt (only_perform h)) fun o ↦ ?_
  split
  · exact only_pure _
  · exact only_pure _
  · exact only_throw _

theorem only_watchPages (h : ∀ page, P (.onPageClose page)) (pages : List PageId) :
    Only P (pages.forM watchPage) := by
  induction pages with
  | nil => exact only_pure ()
  | cons page pages ih =>
    exact only_bind (f := fun _ ↦ pages.forM watchPage) (only_suppressed (only_perform (h page)))
      fun _ ↦ ih

theorem only_pollClosed (hpages : P .pages) (hdone : P .futureDone) (hset : P .setResult)
    (hpause : Only P pause) : Only P pollClosed := by
  refine only_bind (only_perform hdone) fun isDone ↦ ?_
  cases isDone with
  | true => exact only_pure _
  | false =>
    refine only_bind (only_isContextClosed hpages) fun closed ↦ ?_
    cases closed with
    | true => exact only_bind (only_markClosed hdone hset) fun _ ↦ only_pure _
    | false => exact hpause

end

/-! ## A turn of the task -/

/-- The task is done. -/
def Done (c : WindowCall (Option Bool)) (s : LoginWindow) : Prop :=
  (∃ o, c = .done o) ∧ s.finished .close = true

/-- What a poll in the state `s` comes to, with `m` rounds to come. -/
def Polled (m : ℕ) (s : LoginWindow) (c : WindowCall (Option Bool)) (s' : LoginWindow) : Prop :=
  Done c s' ∨ (m = 0 ∧ c = .done (.ok none)) ∨ ∃ m', m = m' + 1 ∧ c = betweenPolls m' ∧ ¬s.Gone

/-- When it has run, the task is done. -/
theorem turn_untilDone {o : Except Exn (Option Unit)} (ho : o ≠ .ok none) :
    Turn (rulesWhere A) suspends (untilDone .close (.done o)) s fun _ ↦ Done := by
  have hfinish : ∀ {o' : Except Exn Unit} {s'},
      (rulesWhere A).step s (.finish .close) o' s' → o' = .ok () ∧ s'.finished .close = true := by
    rintro o' s' ⟨-, b, hb⟩
    cases hb
    exact ⟨rfl, by simp⟩
  obtain e | (- | ⟨⟩) := o
  · refine turn_goes (r := WindowRequest.finish .close) rfl fun o' s' hstep ↦ ?_
    obtain ⟨rfl, hs'⟩ := hfinish hstep
    exact turn_done ⟨⟨_, rfl⟩, hs'⟩
  · exact (ho rfl).elim
  · refine turn_goes (r := WindowRequest.finish .close) rfl fun o' s' hstep ↦ ?_
    obtain ⟨rfl, hs'⟩ := hfinish hstep
    exact turn_done ⟨⟨_, rfl⟩, hs'⟩

/-- Nothing is said of where a program leads. -/
theorem leads_anywhere (c : WindowCall α) (s : LoginWindow) :
    Leads (rulesWhere A) c s fun _ _ ↦ True := by
  induction c generalizing s with
  | done o => trivial
  | ask q k ih => exact ⟨trivial, fun a s₁ _ ↦ ih a s₁⟩

/-- A part that is not suspended, in a task that is done if the part fails. -/
theorem turn_part {K : WindowCall (Option Unit) → WindowCall (Option Bool)} {c : WindowCall α}
    {f : α → WindowCall (Option Unit)} {R : α → LoginWindow → Prop}
    {Q : WindowCall (Option Bool) → LoginWindow → Prop}
    (hK : ∀ g, K (c.next g) = c.next fun o ↦ K (g o))
    (hKe : ∀ e, K (.done (.error e)) = untilDone .close (.done (.error e)))
    (hQ : ∀ c s', Done c s' → Q c s') (honly : Only (fun q ↦ suspends q = false) c)
    (hc : Leads (rulesWhere A) c s fun o s' ↦ ∀ a, o = .ok a → R a s')
    (hf : ∀ a s₁, R a s₁ → Turn (rulesWhere A) suspends (K (f a)) s₁ fun _ ↦ Q) :
    Turn (rulesWhere A) suspends (K (c >>= f)) s fun _ ↦ Q := by
  have herr : ∀ e s₁, Turn (rulesWhere A) suspends (K (.done (.error e))) s₁ fun _ ↦ Q := by
    intro e s₁ t c' s' h
    rw [hKe] at h
    exact hQ c' s' (turn_untilDone (o := .error e) nofun t c' s' h)
  rw [show K (c >>= f) = c.next fun o ↦ K (Coro.bind (.done o) f) from hK _]
  refine turn_next honly hc fun o s₁ ho ↦ ?_
  cases o with
  | ok a => exact hf a s₁ (ho a rfl)
  | error e => exact herr e s₁

/-- A part of which nothing needs to be known. -/
theorem turn_anyPart {K : WindowCall (Option Unit) → WindowCall (Option Bool)} {c : WindowCall α}
    {f : α → WindowCall (Option Unit)} {Q : WindowCall (Option Bool) → LoginWindow → Prop}
    (hK : ∀ g, K (c.next g) = c.next fun o ↦ K (g o))
    (hKe : ∀ e, K (.done (.error e)) = untilDone .close (.done (.error e)))
    (hQ : ∀ c s', Done c s' → Q c s') (honly : Only (fun q ↦ suspends q = false) c)
    (hf : ∀ a s₁, Turn (rulesWhere A) suspends (K (f a)) s₁ fun _ ↦ Q) :
    Turn (rulesWhere A) suspends (K (c >>= f)) s fun _ ↦ Q :=
  turn_part (R := fun _ _ ↦ True) hK hKe hQ honly
    ((leads_anywhere c s).mono fun _ _ _ _ _ _ ↦ trivial) fun a s₁ _ ↦ hf a s₁

/-- It is found out whether the window is gone. -/
theorem leads_isContextClosed_gone : Leads (rulesWhere A) isContextClosed s fun o _ ↦
    ∀ closed, o = .ok closed → (closed = true ↔ s.Gone) := by
  refine leads_attempt_bind (R := fun o s' ↦
    (o = .ok s.pages ∧ s.inspectable = true) ∨
      ∃ e : Exn, o = .error e ∧ e.isException = true ∧ s.inspectable = false)
    (sat_perform trivial fun a s' hstep ↦ ?_) ?_
  · obtain ⟨-, b, hb⟩ := hstep
    cases b with
    | ok pages =>
      obtain ⟨hs, hb⟩ := Option.ite_none_right_eq_some.mp hb
      cases hb
      exact .inl ⟨rfl, hs⟩
    | error e =>
      obtain ⟨hs, hb⟩ := Option.ite_none_left_eq_some.mp hb
      cases hb
      exact .inr ⟨_, rfl, e.isException_fault, by simpa using hs⟩
  · rintro o s' (⟨rfl, hs⟩ | ⟨e, rfl, he, hs⟩)
    · refine sat_pure fun closed h ↦ ?_
      rw [← Except.ok.inj h, List.isEmpty_iff, Gone, or_iff_left (by simp [hs])]
    · dsimp only
      rw [if_pos he]
      exact sat_pure fun closed h ↦ by simp [← Except.ok.inj h, Gone, hs]

/-- **A poll that finds the window gone is the last one.** -/
theorem turn_rounds (m : ℕ) (s : LoginWindow) :
    Turn (rulesWhere A) suspends (untilDone .close (rounds pollClosed m)) s fun _ ↦ Polled m s := by
  cases m with
  | zero => exact turn_done (.inr (.inl ⟨rfl, rfl⟩))
  | succ m =>
    have hQ : ∀ c s', Done c s' → Polled (m + 1) s c s' := fun _ _ ↦ .inl
    have hdone : ∀ s₁, Turn (rulesWhere A) suspends (afterRound m (pure (some ()))) s₁
        fun _ ↦ Polled (m + 1) s := fun s₁ t c s' h ↦
      hQ c s' (turn_untilDone (o := .ok (some ())) nofun t c s' h)
    rw [untilDone_rounds_succ]
    refine turn_part (K := afterRound m) (R := fun _ s₁ ↦ s₁ = s) (afterRound_next _) (fun _ ↦ rfl)
      hQ (only_perform rfl) (sat_perform trivial ?_) ?_
    · rintro a s₁ ⟨-, b, hb⟩ _ -
      cases hb
      rfl
    rintro isDone _ rfl
    cases isDone with
    | true => exact hdone _
    | false =>
      refine turn_part (K := afterRound m) (afterRound_next _) (fun _ ↦ rfl) hQ
        (only_isContextClosed rfl) leads_isContextClosed_gone fun closed s₁ hclosed ↦ ?_
      cases closed with
      | true =>
        exact turn_anyPart (K := afterRound m) (afterRound_next _) (fun _ ↦ rfl) hQ
          (only_markClosed rfl rfl) fun _ s₂ ↦ hdone s₂
      | false =>
        exact turn_waits rfl (.inr (.inr ⟨m, rfl, rfl, fun h ↦ Bool.false_ne_true (hclosed.mpr h)⟩))

/-- The end of a pause is followed by a poll, unless the task has been cancelled. -/
theorem turn_betweenPolls {m : ℕ} {q : WindowRequest}
    {k : Except Exn q.Val → WindowCall (Option Bool)} (hk : betweenPolls m = .ask q k)
    {a : Except Exn q.Val} {s s₁ : LoginWindow}
    (hstep : (rulesWhere A).step s q a s₁) :
    Turn (rulesWhere A) suspends (k a) s₁ fun _ ↦ Polled m s := by
  obtain ⟨rfl, hk⟩ := Coro.ask.inj
    (show Coro.ask (.awaitFuture closePollIntervalMs) _ = Coro.ask q k from hk)
  cases hk
  obtain ⟨-, b, hb⟩ := hstep
  cases b with
  | ok v =>
    cases (Option.ite_none_right_eq_some.mp hb).2
    exact turn_rounds m s
  | error e =>
    cases hb
    split
    · exact fun t c' s' h ↦ .inl (turn_untilDone (o := .error taskCancelled) nofun t c' s' h)
    · exact turn_rounds m s

/-- The task begins. -/
theorem turn_taskCall (n : ℕ) (s : LoginWindow) :
    Turn (rulesWhere A) suspends (taskCall n .close) s fun _ c s' ↦ ∃ s₁, Polled n s₁ c s' := by
  have hQ : ∀ c s', Done c s' → ∃ s₁, Polled n s₁ c s' := fun _ _ h ↦ ⟨s, .inl h⟩
  have hpart : ∀ {α : Type} {c : WindowCall α} {f : α → WindowCall (Option Unit)}
      {s₁ : LoginWindow}, Only (fun q ↦ suspends q = false) c →
      (∀ a s₂, Turn (rulesWhere A) suspends (untilDone .close (f a)) s₂
        fun _ c s' ↦ ∃ s₁, Polled n s₁ c s') →
      Turn (rulesWhere A) suspends (untilDone .close (c >>= f)) s₁
        fun _ c s' ↦ ∃ s₁, Polled n s₁ c s' := fun honly hf ↦
    turn_anyPart (untilDone_next .close _) (fun _ ↦ rfl) hQ honly hf
  refine hpart (c := request (.begin .close)) (only_perform rfl) fun _ _ ↦ ?_
  refine hpart (only_isContextClosed rfl) fun closed s₁ ↦ ?_
  cases closed with
  | true => exact fun t c s' h ↦ hQ c s' (turn_untilDone (o := .ok (some ())) nofun t c s' h)
  | false =>
    refine hpart (only_perform rfl) fun _ _ ↦ ?_
    refine hpart (only_suppressed (only_perform rfl)) fun _ _ ↦ ?_
    refine hpart (only_suppressed (only_perform rfl)) fun _ _ ↦ ?_
    refine hpart (only_openPages rfl) fun pages _ ↦ ?_
    refine hpart (only_watchPages (fun _ ↦ rfl) pages) fun _ s₂ ↦ ?_
    exact fun t c s' h ↦ ⟨s₂, turn_rounds n s₂ t c s' h⟩

/-! ## The task in a run -/

/-- Who is done stays so. -/
theorem finished_of_serve {q : WindowRequest} {a b : Except Exn q.Val} {job : WindowJob}
    (h : serve q b s = some (a, s')) (hs : s.finished job = true) : s'.finished job = true := by
  by_cases hq : Marks q
  · cases hq with
    | called =>
      cases (Option.ite_none_left_eq_some.mp h).2
      exact hs
    | cancel | createFuture =>
      cases h
      exact hs
    | finish job' =>
      cases h
      by_cases hjob : job = job'
      · simp [hjob]
      · simpa [hjob] using hs
    | setResult =>
      simp only [serve, Option.some.injEq] at h
      split at h <;> cases h <;> exact hs
  · rwa [(same_of_serve h hq).finished]

theorem Done.path {c : WindowCall (Option Bool)} {t : List WindowEvent} (h : Done c s)
    (hpath : (rulesWhere A).Path s t s') : Done c s' :=
  ⟨h.1, hpath.invariant (I := fun _ s ↦ s.finished .close = true) h.2
    fun _ _ _ _ _ hs ⟨_, _, hb⟩ ↦ finished_of_serve hb hs⟩

/-- Where the task is: it is done, has used up its `n` rounds, or waits for its next poll. -/
def Rests (n : ℕ) (c : WindowCall (Option Bool)) (t : List WindowEvent) (s : LoginWindow) : Prop :=
  Done c s ∨ (awaits t = n ∧ c = .done (.ok none)) ∨
    ∃ m, m + awaits t + 1 = n ∧ c = betweenPolls m

theorem Rests.path {c : WindowCall (Option Bool)} {h t : List WindowEvent} (hrests : Rests n c h s)
    (hpath : (rulesWhere A).Path s t s') : Rests n c h s' :=
  hrests.imp_left fun hdone ↦ hdone.path hpath

/-- What a poll has come to. -/
theorem Polled.rests {c : WindowCall (Option Bool)} {t : List WindowEvent} (h : Polled m s c s')
    (hn : m + awaits t = n) : Rests n c t s' := by
  rcases h with h | ⟨rfl, hc⟩ | ⟨m', rfl, hc, -⟩
  · exact .inl h
  · exact .inr (.inl ⟨by omega, hc⟩)
  · exact .inr (.inr ⟨m', by omega, hc⟩)

theorem awaits_eq_zero {t : List WindowEvent} (h : ∀ e ∈ t, suspends e.1 = false) :
    awaits t = 0 := by
  rw [awaits, List.countP_eq_zero]
  exact fun e he ↦ by simp [h e he]

/-- **Where the task is whenever it does not run.** -/
theorem rests_closeTask {s₀ : LoginWindow} {p : WindowPool} {ls : List (ℕ × List WindowEvent)}
    (h : WindowSteps A n (Pool.empty s₀) ls p) {i : ℕ}
    {task : Task WindowRequest.Val Exn (Option Bool)} (htask : p.tasks i = some task)
    (hprogram : task.program = taskCall n .close) : Rests n task.rest task.history p.state := by
  generalize hp₀ : Pool.empty s₀ = p₀ at h
  induction h generalizing task with
  | refl =>
    subst hp₀
    cases htask
  | @tail q r ls l _ hstep ih =>
    cases hstep with
    | @spawn j c c' t s' hfree hc hrun =>
      dsimp only at htask ⊢
      by_cases hij : i = j
      · subst hij
        rw [Function.update_self] at htask
        cases htask
        dsimp only at hprogram
        subst hprogram
        obtain ⟨s₁, hpolled⟩ := turn_taskCall n _ _ _ _ hrun
        exact hpolled.rests (by rw [awaits_eq_zero hrun.not_suspends, Nat.add_zero])
      · rw [Function.update_of_ne hij] at htask
        exact (ih htask hprogram).path hrun.path
    | @turn j task' q k a c' t s₁ s' htask' hwait hstep hrun =>
      dsimp only at htask ⊢
      by_cases hij : i = j
      · subst hij
        rw [Function.update_self] at htask
        cases htask
        rcases ih htask' hprogram with ⟨⟨o, ho⟩, -⟩ | ⟨-, ho⟩ | ⟨m, hm, hrest⟩
        · cases ho.symm.trans hwait
        · cases ho.symm.trans hwait
        · have hk := hrest.symm.trans hwait
          have hpolled := turn_betweenPolls hk hstep _ _ _ hrun
          refine hpolled.rests ?_
          obtain ⟨rfl, -⟩ := Coro.ask.inj
            (show Coro.ask (.awaitFuture closePollIntervalMs) _ = Coro.ask q k from hk)
          have hzero := awaits_eq_zero hrun.not_suspends
          rw [awaits, List.countP_append, List.countP_cons_of_pos (by rfl)]
          rw [awaits] at hm hzero
          omega
      · rw [Function.update_of_ne hij] at htask
        exact (ih htask hprogram).path (t := ⟨q, a⟩ :: t) ⟨_, hstep, hrun.path⟩

/-! ## The last poll -/

/-- What is asked for between two polls. -/
inductive Polls : WindowRequest → Prop
  | awaitFuture (milliseconds : ℕ) : Polls (.awaitFuture milliseconds)
  | futureDone : Polls .futureDone
  | pages : Polls .pages
  | setResult : Polls .setResult
  | finish : Polls (.finish .close)

theorem only_pause : Only Polls pause := by
  refine only_bind (only_attempt (only_perform (.awaitFuture _))) fun o ↦ ?_
  split
  · exact only_pure _
  · exact only_pure _
  · exact only_throw _

theorem only_untilDone {run : WindowCall (Option Unit)} (h : Only Polls run) :
    Only Polls (untilDone .close run) := by
  refine only_bind (only_attempt h) fun o ↦ ?_
  split
  · exact only_pure _
  · exact only_bind (only_perform .finish) fun _ ↦ only_pure _
  · exact only_bind (only_perform .finish) fun _ ↦ only_throw _

theorem only_betweenPolls (m : ℕ) : Only Polls (betweenPolls m) := by
  refine only_untilDone (only_bind only_pause fun o ↦ ?_)
  cases o with
  | none => exact only_rounds (only_pollClosed .pages .futureDone .setResult only_pause) m
  | some b => exact only_pure _

/-- Whatever is asked on the spot has an answer. -/
theorem Polls.exists_step {q : WindowRequest} (h : Polls q) (hq : suspends q = false)
    (s : LoginWindow) : ∃ a s', (rulesWhere fun _ ↦ True).step s q a s' := by
  cases h with
  | awaitFuture => cases hq
  | futureDone => exact ⟨_, _, ⟨trivial, trivial⟩, .ok s.closed, rfl⟩
  | pages =>
    cases hs : s.inspectable with
    | true => exact ⟨.ok s.pages, s, ⟨trivial, trivial⟩, .ok [], if_pos hs⟩
    | false => exact ⟨_, s, ⟨trivial, trivial⟩, .error invalidState, if_neg (by simp [hs])⟩
  | setResult => exact ⟨_, _, ⟨trivial, trivial⟩, .ok (), rfl⟩
  | finish => exact ⟨_, _, ⟨trivial, trivial⟩, .ok (), rfl⟩

/-- **The task can always go on, and a poll that finds the window gone is its last one.** -/
theorem exists_lastPoll {p : WindowPool} {i : ℕ} {task : Task WindowRequest.Val Exn (Option Bool)}
    (htask : p.tasks i = some task) (hrest : task.rest = betweenPolls m) :
    (∃ t p', Pool.Step (rulesWhere fun _ ↦ True) suspends (IsWindowProgram n) p (i, t) p') ∧
      (m ≠ 0 → p.state.Gone → ∀ t p',
        Pool.Step (rulesWhere fun _ ↦ True) suspends (IsWindowProgram n) p (i, t) p' →
        ∃ task', p'.tasks i = some task' ∧ Done task'.rest p'.state) := by
  obtain ⟨k, hk⟩ : ∃ k, betweenPolls m = .ask (.awaitFuture closePollIntervalMs) k := ⟨_, rfl⟩
  constructor
  · -- the pause can always end because its time is over
    have honly := hk ▸ only_betweenPolls m
    obtain ⟨a, s₁, hstep⟩ : ∃ a s₁, (rulesWhere fun _ ↦ True).step p.state
        (.awaitFuture closePollIntervalMs) a s₁ :=
      ⟨_, _, ⟨trivial, trivial⟩, .error invalidState, rfl⟩
    obtain ⟨t, c', s', hrun⟩ : ∃ t c' s',
        Settle (rulesWhere fun _ ↦ True) suspends (k a) s₁ t c' s' :=
      exists_settle (honly.2 a) (fun s q hq hs ↦ hq.exists_step hs s) s₁
    exact ⟨_, _, .turn htask (hrest.trans hk) hstep hrun⟩
  · intro hm hgone t p' hstep
    cases hstep with
    | spawn hfree => cases hfree.symm.trans htask
    | turn htask' hwait hstep hrun =>
      obtain rfl := Option.some.inj (htask.symm.trans htask')
      rcases turn_betweenPolls (hrest.symm.trans hwait) hstep _ _ _ hrun with
        hdone | ⟨hzero, -⟩ | ⟨-, -, -, hnot⟩
      · exact ⟨_, Function.update_self .., hdone⟩
      · exact (hm hzero).elim
      · exact (hnot hgone).elim

end

end LoginWindow

end RmaPortal
