import RmaPortal.Connection.Order

/-!
# What `shutdown` leaves behind

`shutdown` goes through the three tasks in the order in which they create each other, so whatever a
task creates while it is being cancelled is found by the next look.  `shutdown_leaves_nothing` says
that a call of `shutdown` leaves no task of the connection unfinished, provided that neither `start`
nor `shutdown` is called while it is in progress.

This is how the program calls it.  There is one caller, the `finally` of the lifespan of the
application, which is left once in the life of a process and when requests are no longer served.
The assumption is needed all the same: a second call of `shutdown` would not find what the first one
waits for, and would return at once (`not_shutdown_leaves_nothing`).

## What is here

* `InChain` — the tasks of a connection, from the login to the last of those that one of them
  creates.
* `WalkInv` — what the only call of `shutdown` keeps: it deals with the jobs in their order, and the
  tasks for the jobs that it has dealt with are over, so they create nothing any more.
* `WalkInv.keep` — the step lemma, one case for every kind of step that a program can make.
* `shutdown_leaves_nothing` — the run, by `CallsApart` from the invariant of the pool.
-/

set_option autoImplicit false

open Coroutine

namespace RmaPortal

/-- Only such a request concerns the tasks that are referred to, and the calls of `shutdown`. -/
def ConnectorRequest.Concerns : ConnectorRequest → Prop
  | .createTask _ | .clearTask _ | .shutdownCalled | .shutdownEnded _ => True
  | _ => False

namespace SessionConnector

/-- The last login that has been created. -/
def IsLastLogin (s : SessionConnector) (l : TaskId) : Prop :=
  s.job l = some .login ∧ ∀ l', s.job l' = some .login → l' ≤ l

/-- The tasks of a connection: the login, and what is created by one of them. -/
inductive InChain (p : ConnectorPool) (l : TaskId) : TaskId → Prop
  | login : InChain p l l
  | next {t t' : TaskId} {job job' : ConnectorJob} {i : ℕ} {task : ConnectorTask}
      (h : InChain p l t)
      (htask : p.tasks i = some task) (hruns : Runs task job t)
      (hcreated : ⟨.createTask job', .ok t'⟩ ∈ task.history) : InChain p l t'

/-- The call of `shutdown` in the slot `i` has returned. -/
def HasReturned (p : ConnectorPool) (i : ℕ) : Prop :=
  ∃ task n, p.tasks i = some task ∧ task.rest = .done (.ok none) ∧
    ⟨.shutdownCalled, .ok n⟩ ∈ task.history

/-- `start` has not been called since the program in the slot `i` was started. -/
def NoStartSince (ls : List (ℕ × List ConnectorEvent)) (i : ℕ) : Prop :=
  ∀ l ∈ ls.dropWhile fun l ↦ l.1 ≠ i, ⟨.startCalled, .ok ()⟩ ∉ l.2

/-- **If a call of `shutdown` returns with the step** that leads to `p'`, then all tasks of the
connection are done that goes on. -/
def LeavesNothing (ls : List (ℕ × List ConnectorEvent)) (i : ℕ) (p' : ConnectorPool) : Prop :=
  HasReturned p' i → NoStartSince ls i → ∀ l t, p'.state.IsLastLogin l → InChain p' l t →
    p'.state.finished t = true

/-! ## The walk -/

/-- `shutdown` deals with the jobs in their order. -/
def Stage.InOrder : Stage → Prop
  | stopping _ w => w = [] ∨ w = [.login] ∨ w = [.verify, .login] ∨ w = [.sync, .verify, .login]
  | found _ w job _ | removed _ w job _ => Next w job
  | _ => True

/-- **What a call of `shutdown` keeps true** while it is the only one. -/
structure WalkInv (s : SessionConnector) (θ : ℕ → Stage) : Prop where
  /-- It is the only one. -/
  single : ∀ n ∈ s.stopping, ∀ m ∈ s.stopping, n = m
  /-- It deals with the jobs in their order. -/
  inOrder : ∀ i, (θ i).InOrder
  /-- The tasks for the jobs it has dealt with are done. -/
  walked : ∀ i, ∀ job ∈ (θ i).walked, ∀ t, s.Matters job t → s.finished t = true
  /-- The task it holds is not referred to any more, and neither is a later one. -/
  cleared : ∀ i z, (θ i).held = some z → s.task z.1 = none

/-- What a call of `shutdown` that has come to its end may rely on. -/
def Stage.HasWalked (s : SessionConnector) : Stage → Prop
  | stopped w => ∀ job ∈ w, ∀ t, s.Matters job t → s.finished t = true
  | _ => True

section

variable {verifyTimeoutSeconds : ℕ} {s s' : SessionConnector} {θ : ℕ → Stage} {i j : ℕ}
  {x y : Stage} {job : ConnectorJob} {t : TaskId} {q : ConnectorRequest} {a : Except Exn q.Val}

theorem Stage.Next.inOrder {n : ℕ} {w : List ConnectorJob} (h : Stage.Next w job) :
    (Stage.stopping n (job :: w)).InOrder := by
  match w, h with
  | [], h => exact .inr (.inl (by rw [show job = .login from h]))
  | [.login], h => exact .inr (.inr (.inl (by rw [show job = .verify from h])))
  | [.verify, .login], h => exact .inr (.inr (.inr (by rw [show job = .sync from h])))

theorem inOrder_step (hstep : Stage.Step verifyTimeoutSeconds x q a y) (hx : x.InOrder) :
    y.InOrder := by
  cases hstep with
  | quiet => exact hx
  | stop => exact .inl rfl
  | find n w job o hnext => exact hnext
  | clearNone n w job => exact Stage.Next.inOrder hx
  | clearSome n w job t => exact hx
  | notDone | cancel => exact hx
  | isDone n w job t => exact Stage.Next.inOrder hx
  | await n w job t a => exact Stage.Next.inOrder hx
  | _ => trivial

/-- A call of `shutdown` has dealt with the job, or holds a task for it. -/
def Stage.DealsWith (x : Stage) (job : ConnectorJob) : Prop :=
  job ∈ x.walked ∨ ∃ t, x.held = some (job, t)

/-- `shutdown` deals with the login first, and with the verification before the synchronization. -/
theorem Stage.InOrder.order (h : x.InOrder) :
    (x.DealsWith .verify → .login ∈ x.walked) ∧ (x.DealsWith .sync → .verify ∈ x.walked) := by
  cases x with
  | stopping n w =>
    have hheld : ∀ {job t}, (stopping n w).held ≠ some (job, t) := by rintro job t ⟨⟩
    simp only [DealsWith, hheld, exists_false, or_false]
    rcases h with rfl | rfl | rfl | rfl <;> simp [walked]
  | found n w job o | removed n w job t =>
    match w, h with
    | [], h => cases h; simp [DealsWith, walked, held]
    | [.login], h => cases h; simp [DealsWith, walked, held]
    | [.verify, .login], h => cases h; simp [DealsWith, walked, held]
  | _ => simp [DealsWith, walked, held]

theorem Stage.DealsWith.call (h : x.DealsWith job) : ∃ n, x.call = some n := by
  cases x with
  | stopping n | found n | removed n => exact ⟨n, rfl⟩
  | _ => simp [DealsWith, walked, held] at h

/-- There is one call of `shutdown` at most. -/
theorem WalkInv.alone (hw : WalkInv s θ) (h : ConnectorInv s θ) {n m : ℕ}
    (hi : (θ i).call = some n) (hj : (θ j).call = some m) : i = j := by
  obtain rfl := hw.single n (h.calls.call_open i n hi) m (h.calls.call_open j m hj)
  exact h.calls.call_unique i j n hi hj

theorem walkInv_new : WalkInv new fun _ ↦ .idle where
  single _ h := by cases h
  inOrder _ := trivial
  walked _ _ h := by cases h
  cleared _ _ h := by cases h

/-! ## Every request -/

/-- A program goes on, and no call of `shutdown` gets any further. -/
theorem WalkInv.still (hw : WalkInv s θ) (hy : y.InOrder) (hwalked : y.walked = (θ i).walked)
    (hheld : y.held = (θ i).held) (htask : s'.task = s.task) (hjob : s'.job = s.job)
    (hfinished : ∀ t, s.finished t = true → s'.finished t = true)
    (hstopping : s'.stopping = s.stopping) : WalkInv s' (Function.update θ i y) where
  single := by simpa only [hstopping] using hw.single
  inOrder := forall_update (P := fun _ x ↦ x.InOrder) hy fun j _ ↦ hw.inOrder j
  walked j job hj t ht := by
    rw [part_update (θ := θ) Stage.walked hwalked] at hj
    simp only [Matters, Stale, hjob] at ht
    exact hfinished t (hw.walked j job hj t ht)
  cleared j z hz := by
    rw [part_update (θ := θ) Stage.held hheld] at hz
    rw [htask]
    exact hw.cleared j z hz

/-- A task is created for a job that no call of `shutdown` has dealt with. -/
theorem WalkInv.create (hw : WalkInv s θ) (hfresh : s.job s.nextTask = none)
    (hy : ¬∃ n, y.call = some n) (hinOrder : y.InOrder)
    (hnew : ∀ j, ¬(θ j).DealsWith job) : WalkInv (s.withNewTask job) (Function.update θ i y) where
  single := hw.single
  inOrder := forall_update (P := fun _ x ↦ x.InOrder) hinOrder fun j _ ↦ hw.inOrder j
  walked := by
    refine forall_update (P := fun _ x ↦ ∀ job' ∈ x.walked, ∀ t,
      (s.withNewTask job).Matters job' t → s.finished t = true) ?_ fun j _ job' hj t ht ↦ ?_
    · exact fun job' hj ↦ (hy (Stage.DealsWith.call (.inl hj))).elim
    have hne : t ≠ s.nextTask := by
      rintro rfl
      cases withNewTask_job_self.symm.trans ht.1
      exact hnew j (.inl hj)
    refine hw.walked j job' hj t
      ⟨(withNewTask_job_of_ne hne).symm.trans ht.1, fun hsync hstale ↦ ?_⟩
    exact ht.2 hsync (stale_withNewTask hfresh hstale)
  cleared := by
    refine forall_update (P := fun _ x ↦ ∀ z, x.held = some z →
      (s.withNewTask job).task z.1 = none) ?_ fun j _ z hz ↦ ?_
    · exact fun z hz ↦ (hy (Stage.call_of_held hz)).elim
    · refine (Function.update_of_ne ?_ ..).trans (hw.cleared j z hz)
      rintro rfl
      exact hnew j (.inr ⟨z.2, hz⟩)

/-- A call of `shutdown` has dealt with one more job: no task for it is referred to any more. -/
theorem WalkInv.walk (hw : WalkInv s θ) (h : ConnectorInv s θ) {n : ℕ} {w : List ConnectorJob}
    (hx : (θ i).call = some n) (hwalked : (θ i).walked = w)
    (hinOrder : (Stage.stopping n (job :: w)).InOrder) (hjob : s'.job = s.job)
    (hfinished : ∀ t, s.finished t = true → s'.finished t = true)
    (hstopping : s'.stopping = s.stopping) (htask : s'.task job = none)
    (h' : ConnectorInv s' (Function.update θ i (.stopping n (job :: w)))) :
    WalkInv s' (Function.update θ i (.stopping n (job :: w))) := by
  have hothers : ∀ j z, j ≠ i → (θ j).held ≠ some z := by
    intro j z hj hz
    obtain ⟨m, hm⟩ := Stage.call_of_held hz
    exact hj (hw.alone h hm hx)
  refine ⟨by simpa only [hstopping] using hw.single,
    forall_update (P := fun _ x ↦ x.InOrder) hinOrder fun j _ ↦ hw.inOrder j, ?_, ?_⟩
  · refine forall_update (P := fun _ x ↦ ∀ job ∈ x.walked, ∀ t, s'.Matters job t →
      s'.finished t = true) ?_ fun j _ job' hj t ht ↦ ?_
    · intro job' hj t ht
      rcases List.mem_cons.mp hj with rfl | hj
      · -- what is not done would be referred to, or held by another call
        by_contra hne
        rcases h'.current job' t ht (by simpa using hne) with ht' | ⟨j, hj⟩
        · cases htask.symm.trans ht'
        · by_cases hji : j = i
          · rw [hji, Function.update_self] at hj
            cases hj
          · rw [Function.update_of_ne hji] at hj
            exact hothers j _ hji hj
      · simp only [Matters, Stale, hjob] at ht
        exact hfinished t (hw.walked i job' (hwalked ▸ hj) t ht)
    · simp only [Matters, Stale, hjob] at ht
      exact hfinished t (hw.walked j job' hj t ht)
  · refine forall_update (P := fun _ x ↦ ∀ z, x.held = some z → s'.task z.1 = none) ?_
      fun j hj z hz ↦ (hothers j z hj hz).elim
    rintro z ⟨⟩

theorem serve_frame {b : Except Exn q.Val} (hq : ¬q.Concerns) (h : serve q b s = some (a, s')) :
    s'.task = s.task ∧ s'.job = s.job ∧ (∀ t, s.finished t = true → s'.finished t = true) ∧
      s'.stopping = s.stopping := by
  have hsame : s' = s → s'.task = s.task ∧ s'.job = s.job ∧
      (∀ t, s.finished t = true → s'.finished t = true) ∧ s'.stopping = s.stopping := by
    rintro rfl
    exact ⟨rfl, rfl, fun _ ↦ id, rfl⟩
  cases q with
  | createTask | clearTask | shutdownCalled | shutdownEnded => exact (hq trivial).elim
  | startCalled | getTask | taskDone | cancel | isSyncRunning | openAndWait | cleanupUnconfirmed
  | markLoginTeardownFailed | verifySession | runSync =>
    cases h
    exact hsame rfl
  | setLastStartBlockedBySync | markProfileTeardownUnconfirmed =>
    cases h
    exact ⟨rfl, rfl, fun _ ↦ id, rfl⟩
  | awaitTask t =>
    rw [serve] at h
    split at h <;> cases h
    exact hsame rfl
  | begin job t =>
    rw [serve] at h
    split at h <;> cases h
    exact ⟨rfl, rfl, fun _ ↦ id, rfl⟩
  | finish t =>
    cases h
    refine ⟨rfl, rfl, fun t' ht' ↦ ?_, rfl⟩
    by_cases htt : t' = t
    · rw [htt]
      exact Function.update_self ..
    · exact (Function.update_of_ne htt ..).trans ht'
  | acquireProfileLock =>
    cases b with
    | error e =>
      cases h
      exact hsame rfl
    | ok _ =>
      rw [serve] at h
      split at h <;> cases h
      exact hsame rfl
  | releaseProfileLock =>
    cases b <;> cases h <;> exact hsame rfl

/-- **An allowed request of any program** keeps what a single call of `shutdown` keeps. -/
theorem WalkInv.keep (hw : WalkInv s θ) (h : ConnectorInv s θ)
    (hstep : Stage.Step verifyTimeoutSeconds (θ i) q a y) (hrelies : (θ i).Relies s)
    (hwalked : (θ i).HasWalked s) (hrules : (rulesWhere CallsApart).step s q a s')
    (h' : ConnectorInv s' (Function.update θ i y)) :
    WalkInv s' (Function.update θ i y) ∧ y.HasWalked s' := by
  obtain ⟨hallowed, b, hserve⟩ := hrules
  have hinOrder := inOrder_step hstep (hw.inOrder i)
  generalize hx : θ i = x at hstep hrelies hwalked
  -- where the calls of `shutdown` are as far as they were
  have hstill : ∀ (_ : ¬q.Concerns), y.walked = x.walked → y.held = x.held →
      WalkInv s' (Function.update θ i y) := by
    intro hq hy hheld
    obtain ⟨htask, hjob, hfinished, hstopping⟩ := serve_frame hq hserve
    exact hw.still hinOrder (hx ▸ hy) (hx ▸ hheld) htask hjob hfinished hstopping
  have hfresh := (h.tasks.fresh _ (Nat.le_refl _)).1
  cases hstep with
  | quiet _ _ _ hquiet =>
    have hq : ¬q.Concerns := by
      cases q with
      | createTask | clearTask | shutdownCalled | shutdownEnded => cases y <;> exact hquiet.elim
      | _ => exact id
    refine ⟨hstill hq rfl rfl, ?_⟩
    obtain ⟨-, hjob, hfinished, -⟩ := serve_frame hq hserve
    cases y with
    | stopped w =>
      intro job hj t ht
      simp only [Matters, Stale, hjob] at ht
      exact hfinished t (hwalked job hj t ht)
    | _ => trivial
  | accept l =>
    cases hserve
    refine ⟨hw.create hfresh (by rintro ⟨n, ⟨⟩⟩) hinOrder fun j hj ↦ ?_, trivial⟩
    obtain ⟨n, hn⟩ := hj.call
    have hmem := h.calls.call_open j n hn
    rw [hrelies.1] at hmem
    cases hmem
  | handOver l v =>
    cases hserve
    refine ⟨hw.create hfresh (by rintro ⟨n, ⟨⟩⟩) hinOrder fun j hj ↦ ?_, trivial⟩
    have hself := h.tasks.self_begun i .login l (by rw [hx]; rfl)
    have hfinished := hw.walked j .login ((hw.inOrder j).order.1 hj) l ⟨hself.1, by rintro ⟨⟩⟩
    cases (h.tasks.busy_unfinished i l (by rw [hx]; rfl)).symm.trans hfinished
  | createSync v t =>
    cases hserve
    refine ⟨hw.create hfresh (by rintro ⟨n, ⟨⟩⟩) hinOrder fun j hj ↦ ?_, trivial⟩
    have hself := h.tasks.self_begun i .verify v (by rw [hx]; rfl)
    have hfinished := hw.walked j .verify ((hw.inOrder j).order.2 hj) v ⟨hself.1, by rintro ⟨⟩⟩
    cases (h.tasks.busy_unfinished i v (by rw [hx]; rfl)).symm.trans hfinished
  | stop n =>
    cases hserve
    have hnone := hallowed (.inr rfl)
    have hcalls : ∀ j, ¬∃ n, (θ j).call = some n := by
      rintro j ⟨n, hn⟩
      have hmem := h.calls.call_open j n hn
      rw [hnone] at hmem
      cases hmem
    refine ⟨⟨?_, forall_update (P := fun _ x ↦ x.InOrder) hinOrder fun j _ ↦ hw.inOrder j,
      ?_, ?_⟩, trivial⟩
    · simp [hnone]
    · refine forall_update (P := fun _ x ↦ ∀ job ∈ x.walked, ∀ t, s.Matters job t →
        s.finished t = true) (by simp [Stage.walked]) fun j _ ↦ hw.walked j
    · exact forall_update (P := fun _ x ↦ ∀ z, x.held = some z → s.task z.1 = none)
        (by simp [Stage.held]) fun j _ ↦ hw.cleared j
  | clearNone n w job =>
    cases hserve
    exact ⟨hw.walk h (by rw [hx]; rfl) (by rw [hx]; rfl) hinOrder rfl (fun _ ↦ id)
      rfl (Function.update_self ..) h', trivial⟩
  | clearSome n w job t =>
    cases hserve
    have hothers : ∀ j z, j ≠ i → (θ j).held ≠ some z := by
      intro j z hj hz
      obtain ⟨m, hm⟩ := Stage.call_of_held hz
      exact hj (hw.alone h hm (by rw [hx]; rfl))
    refine ⟨⟨hw.single, forall_update (P := fun _ x ↦ x.InOrder) hinOrder fun j _ ↦ hw.inOrder j,
      fun j ↦ ?_, ?_⟩, trivial⟩
    · rw [part_update (θ := θ) Stage.walked (by rw [hx]; rfl)]
      exact hw.walked j
    · refine forall_update (P := fun _ x ↦ ∀ z, x.held = some z →
        Function.update s.task job none z.1 = none) ?_ fun j hj z hz ↦ (hothers j z hj hz).elim
      rintro z ⟨⟩
      exact Function.update_self ..
  | isDone n w job t | await n w job t =>
    obtain ⟨htask, hjob, hfinished, hstopping⟩ := serve_frame id hserve
    have hcleared := hw.cleared i (job, t) (by rw [hx]; rfl)
    exact ⟨hw.walk h (by rw [hx]; rfl) (by rw [hx]; rfl) hinOrder hjob hfinished hstopping
      (htask ▸ hcleared) h', trivial⟩
  | finishStop n w =>
    cases hserve
    refine ⟨⟨?_, forall_update (P := fun _ x ↦ x.InOrder) hinOrder fun j _ ↦ hw.inOrder j,
      ?_, ?_⟩, ?_⟩
    · intro n₁ h₁ n₂ h₂
      exact hw.single n₁ (List.mem_of_mem_filter h₁) n₂ (List.mem_of_mem_filter h₂)
    · exact forall_update (P := fun _ x ↦ ∀ job ∈ x.walked, ∀ t, s.Matters job t →
        s.finished t = true) (by simp [Stage.walked]) fun j _ ↦ hw.walked j
    · exact forall_update (P := fun _ x ↦ ∀ z, x.held = some z → s.task z.1 = none)
        (by simp [Stage.held]) fun j _ ↦ hw.cleared j
    · intro job hj t ht
      exact hw.walked i job (by rw [hx]; exact hj) t ht
  | _ => exact ⟨hstill id rfl rfl, trivial⟩

end

/-! ## Every run -/

/-- The protocol of the connector, where the calls do not overlap. -/
def shutdownProtocol (verifyTimeoutSeconds : ℕ) :
    Protocol (rulesWhere CallsApart) suspends Stage where
  typestate := stages verifyTimeoutSeconds
  start := .idle
  inv s θ := ConnectorInv s θ ∧ WalkInv s θ
  turn s x := x.Relies s ∧ x.HasWalked s
  turn_start _ := ⟨trivial, trivial⟩
  turn_resume s x q hq hpre := by
    refine ⟨(connectorProtocol verifyTimeoutSeconds).turn_resume s x q hq hpre, ?_⟩
    obtain ⟨a, y, hstep⟩ := hpre
    cases hstep with
    | quiet _ _ _ hquiet => cases q <;> cases hq <;> cases x <;> trivial
    | _ => trivial
  keep s θ i q a s' hinv hturn hpre hstep := by
    have hstarts : (rulesWhere StartsApart).step s q a s' := ⟨fun hq ↦ hstep.1 (.inl hq), hstep.2⟩
    obtain ⟨y, hy, h', hrelies⟩ := hinv.1.keep rfl hturn.1 hpre hstarts
    obtain ⟨hw', hwalked⟩ := hinv.2.keep hinv.1 hy hturn.1 hturn.2 hstep h'
    exact ⟨y, hy, ⟨h', hw'⟩, hrelies, hwalked⟩

section

variable {verifyTimeoutSeconds : ℕ} {p p' : ConnectorPool} {ls : List (ℕ × List ConnectorEvent)}
  {l : ℕ × List ConnectorEvent} {θ : ℕ → Stage} {i : ℕ} {x : Stage}

/-- Who has called `shutdown` is on the way through the tasks, or has come to its end. -/
theorem call_or_stopped {h : List ConnectorEvent} {n : ℕ}
    (hpath : (stages verifyTimeoutSeconds).Path .idle h x)
    (hcalled : ⟨.shutdownCalled, .ok n⟩ ∈ h) : (∃ m, x.call = some m) ∨ ∃ w, x = .stopped w := by
  refine (hpath.iff_exists (P := fun x ↦ (∃ m, x.call = some m) ∨ ∃ w, x = .stopped w)
    (E := fun e ↦ e.1 = .shutdownCalled) (by simp [Stage.call]) ?_).mpr ⟨_, hcalled, rfl⟩
  intro x q a y hstep
  cases hstep with
  | quiet x q a hq =>
    have hne : q ≠ .shutdownCalled := by
      rintro rfl
      cases x <;> exact hq.elim
    simp [hne]
  | _ => simp [Stage.call]

/-- A task of a connection has been created, and not before the login. -/
theorem InChain.created {lg t : TaskId} (h : AtStages verifyTimeoutSeconds p θ)
    (hlogin : p.state.job lg = some .login) (ht : InChain p lg t) :
    lg ≤ t ∧ ∃ job, p.state.job t = some job := by
  induction ht with
  | login => exact ⟨Nat.le_refl _, .login, hlogin⟩
  | @next t t' job job' i task _ htask hruns hcreated ih =>
    have hself := (h.runs_iff htask).mp hruns
    have hchild := (h.created_iff htask).mpr hcreated
    have hlt := h.inv.tasks.child_after i _ _ hself hchild
    exact ⟨Nat.le_trans ih.1 (Nat.le_of_lt hlt), job', h.inv.tasks.child_created i job' t' hchild⟩

/-- All tasks of the connection that goes on matter for it. -/
theorem InChain.matters {lg t : TaskId} (h : AtStages verifyTimeoutSeconds p θ)
    (hlogin : p.state.IsLastLogin lg) (ht : InChain p lg t) :
    ∃ job, p.state.Matters job t := by
  obtain ⟨hle, job, hjob⟩ := ht.created h hlogin.1
  refine ⟨job, hjob, ?_⟩
  rintro - ⟨l, hl, hlt⟩
  exact absurd hlt (Nat.not_lt.mpr (Nat.le_trans (hlogin.2 l hl) hle))

end

/-- **`shutdown` leaves no task behind**, if neither `start` nor `shutdown` is called while a call
of `shutdown` is in progress. -/
theorem shutdown_leaves_nothing {verifyTimeoutSeconds : ℕ} {p p' : ConnectorPool}
    {ls : List (ℕ × List ConnectorEvent)} {l : ℕ × List ConnectorEvent}
    (h : ConnectorSteps CallsApart verifyTimeoutSeconds (Pool.empty new) ls p)
    (hstep : ConnectorStep CallsApart verifyTimeoutSeconds p l p') :
    LeavesNothing (ls ++ [l]) l.1 p' := by
  rintro ⟨task, n, htask, hrest, hcalled⟩ - lg t hlogin ht
  have hprograms : ∀ c, IsConnectorProgram verifyTimeoutSeconds c →
      Sat (shutdownProtocol verifyTimeoutSeconds).typestate c
        (shutdownProtocol verifyTimeoutSeconds).start fun _ o x ↦ Ended o x :=
    fun _ hc ↦ leads_program hc
  obtain ⟨θ, hθ⟩ := Protocol.sound (P := shutdownProtocol verifyTimeoutSeconds) hprograms
    (.empty ⟨connectorInv_new, walkInv_new⟩) h
  obtain ⟨⟨x, hx, -, hwalked⟩, -⟩ := hθ.step hprograms (Protocol.stable_true _) hstep
  -- the call has dealt with all jobs
  have hmeets := hx.task l.1 task htask
  rw [Function.update_self] at hmeets
  have hended : Ended _ x := hmeets.over hrest
  obtain ⟨m, hm⟩ | ⟨w, rfl⟩ := call_or_stopped hmeets.path hcalled
  · cases hended.call.symm.trans hm
  obtain rfl := hended.stopped w rfl rfl
  have hat : AtStages verifyTimeoutSeconds p' (Function.update θ l.1 _) :=
    ⟨hx.inv.1, hx.unused, fun i task hi ↦ ⟨(hx.task i task hi).path, (hx.task i task hi).rest,
      (hx.task i task hi).sat⟩⟩
  obtain ⟨job, hjob⟩ := ht.matters hat hlogin
  exact hwalked job (by cases job <;> simp) t hjob

/-! ## Two ways to shut down -/

/-- Answers where nothing goes wrong and the calls do not overlap. -/
def apartScript : Script ConnectorRequest.Val Exn SessionConnector
  | .startCalled, s => if s.stopping = [] then serve .startCalled (.ok ()) s else none
  | .shutdownCalled, s =>
    if s.stopping = [] then serve .shutdownCalled (smoothly .shutdownCalled) s else none
  | q, s => serve q (smoothly q) s

theorem apartScript_step (q : ConnectorRequest) (s : SessionConnector) (a : Except Exn q.Val)
    (s' : SessionConnector) (h : apartScript q s = some (a, s')) :
    (rulesWhere CallsApart).step s q a s' := by
  cases q with
  | startCalled | shutdownCalled =>
    rw [apartScript] at h
    split at h
    · rename_i hstopping
      exact ⟨fun _ ↦ hstopping, _, h⟩
    · cases h
  | _ => exact ⟨(by rintro (hq | hq) <;> cases hq), smoothly _, h⟩

/-- A login is to be cancelled and ends normally all the same, and so does the verification that
follows it. -/
def absorbed : List (Play ConnectorRequest.Val Exn (Option Bool)) :=
  [.spawn 0 startCall, .spawn 1 (taskCall 45 .login 0), .spawn 2 shutdownCall, .turn 1, .turn 2,
    .spawn 3 (taskCall 45 .verify 1), .turn 3, .turn 2, .spawn 4 (taskCall 45 .sync 2), .turn 4]

/-- `shutdown` waits for each of the three tasks. -/
theorem shutdown_leaves_nothing_absorbed : ∃ ls p l p',
    (Pool.empty new).play apartScript suspends absorbed = some (ls, p) ∧
    p.move apartScript suspends (.turn 2) = some (l, p') ∧
    LeavesNothing (ls ++ [l]) l.1 p' ∧
    HasReturned p' 2 ∧ p'.state.job 2 = some .sync ∧ p'.state.finished 2 = true := by
  refine ⟨_, _, _, _, rfl, rfl, @shutdown_leaves_nothing 45 _ _ _ _
    (Pool.steps_of_play apartScript_step ?_
      (show (Pool.empty new).play apartScript suspends absorbed = some (_, _) from rfl))
    (Pool.step_of_move apartScript_step (m := .turn 2) (by rintro i c ⟨⟩) rfl),
    ⟨_, 0, rfl, rfl, .head _⟩, rfl, rfl⟩
  intro i c h
  simp only [absorbed, List.mem_cons, Play.spawn.injEq, List.not_mem_nil, or_false, reduceCtorEq,
    false_or] at h
  rcases h with ⟨-, rfl⟩ | ⟨-, rfl⟩ | ⟨-, rfl⟩ | ⟨-, rfl⟩ | ⟨-, rfl⟩
  · exact .start
  · exact .task .login 0
  · exact .shutdown
  · exact .task .verify 1
  · exact .task .sync 2

/-- A second call of `shutdown` while a first one waits for the login. -/
def twice : List (Play ConnectorRequest.Val Exn (Option Bool)) :=
  [.spawn 0 startCall, .spawn 1 (taskCall 45 .login 0), .spawn 2 shutdownCall]

/-- **The second call returns although the login goes on.** -/
theorem not_shutdown_leaves_nothing :
    ¬∀ p p' ls l, ConnectorSteps (fun _ _ ↦ True) 45 (Pool.empty new) ls p →
      ConnectorStep (fun _ _ ↦ True) 45 p l p' → LeavesNothing (ls ++ [l]) l.1 p' := by
  intro h
  have hanything : ∀ q s (a : Except Exn q.Val) s', serve q (smoothly q) s = some (a, s') →
      (rulesWhere fun _ _ ↦ True).step s q a s' := fun q _ _ _ hserve ↦ ⟨trivial, _, hserve⟩
  have hleaves := h _ _ _ _
    (Pool.steps_of_play hanything ?_ (show (Pool.empty new).play (fun q ↦ serve q (smoothly q))
      suspends twice = some (_, _) from rfl))
    (Pool.step_of_move hanything (m := .spawn 3 shutdownCall) ?_ rfl)
  · refine Bool.false_ne_true (hleaves ⟨_, 1, rfl, rfl, .head _⟩ ?_ 0 0 ⟨rfl, ?_⟩ .login)
    · intro l hl hstart
      obtain rfl := List.mem_singleton.mp (show l ∈ [(3, _)] from hl)
      have hrequests : ConnectorRequest.startCalled ∈ [.shutdownCalled, .getTask .login,
          .clearTask .login, .getTask .verify, .clearTask .verify, .getTask .sync,
          .clearTask .sync, .shutdownEnded 1] :=
        List.mem_map_of_mem (f := Sigma.fst) hstart
      simp at hrequests
    · intro l hl
      by_contra hne
      cases (Function.update_of_ne (fun hzero ↦ hne (Nat.le_of_eq hzero)) ..).symm.trans hl
  · intro i c hc
    simp only [twice, List.mem_cons, Play.spawn.injEq, List.not_mem_nil, or_false] at hc
    rcases hc with ⟨-, rfl⟩ | ⟨-, rfl⟩ | ⟨-, rfl⟩
    · exact .start
    · exact .task .login 0
    · exact .shutdown
  · rintro i c ⟨⟩
    exact .shutdown

end SessionConnector

end RmaPortal
