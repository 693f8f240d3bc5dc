import RmaPortal.Connection.Invariant

/-!
# Handing over

The protocol of the connector: every request of every program keeps `ConnectorInv`, provided that
`start` is not called while a call of `shutdown` is in progress.

A login hands the token it is busy with on to the verification it creates; until then nobody else
can get one, because `start` looks at `_login_task` and `_verify_task`, and what is not done is
what they refer to.

## What is here

* `Kept` — an answer takes a program to a stage at which the invariant holds.  Every lemma below
  ends in it.
* `ConnectorInv.over`, `ConnectorInv.not_busy` — what `start` finds out by its looks.  If the
  tasks that the connector refers to are done, all logins and verifications are, unless `shutdown`
  is in progress; it is here that the assumption on calls of `start` is used, because `shutdown`
  clears a reference before the task is done.
* `ConnectorInv.accept` — `start` creates a login, and nobody else is busy.
* `ConnectorInv.handOver`, `ConnectorInv.createSync` — a login creates a verification, and a
  verification creates a synchronization; the creator is not busy any more.
* `kept_begin` — a task begins, or is told that it has been cancelled before it could.
* `kept_clearTask`, `ConnectorInv.drop`, `ConnectorInv.stop`, `ConnectorInv.stopped` — `shutdown`
  clears a reference, lets go of a task that is done, is called, and ends.
* `kept_quiet` — all other requests.
* `ConnectorInv.keep` — the step lemma of the protocol, by cases on how a program can move.

No lemma here is about the text of a program; that is in `Connection.Programs`.
-/

set_option autoImplicit false

open Coroutine

namespace RmaPortal

namespace SessionConnector

/-- The answer `a` takes the program in the slot `i` to a stage at which the invariant holds. -/
def Kept (verifyTimeoutSeconds : ℕ) (θ : ℕ → Stage) (i : ℕ) (x : Stage) (q : ConnectorRequest)
    (a : Except Exn q.Val) (s' : SessionConnector) : Prop :=
  ∃ y, Stage.Step verifyTimeoutSeconds x q a y ∧ ConnectorInv s' (Function.update θ i y) ∧
    y.Relies s'

section

variable {verifyTimeoutSeconds : ℕ} {s s' : SessionConnector} {θ : ℕ → Stage} {i : ℕ}
  {x y : Stage} {job : ConnectorJob} {t : TaskId}

/-! ## `start` -/

/-- If the task the connector refers to is done, all are, unless `shutdown` is in progress. -/
theorem ConnectorInv.over (h : ConnectorInv s θ) (hstopping : s.stopping = [])
    (hsync : job ≠ .sync) (htask : ∀ t, s.task job = some t → s.finished t = true) :
    s.Over job := by
  intro t ht
  by_contra hne
  have hunfinished : s.finished t = false := by simpa using hne
  rcases h.current job t ⟨ht, fun hs ↦ (hsync hs).elim⟩ hunfinished with hcurrent | ⟨j, hj⟩
  · exact hne (htask t hcurrent)
  · obtain ⟨n, hn⟩ := Stage.call_of_held hj
    have hmem := h.calls.call_open j n hn
    rw [hstopping] at hmem
    cases hmem

/-- Where all logins and verifications are done, nobody is busy. -/
theorem ConnectorInv.not_busy (h : ConnectorInv s θ) (hlogin : s.Over .login)
    (hverify : s.Over .verify) (t : TaskId) : ¬Busy s θ t := by
  have hover : ∀ job, job ≠ .sync → s.job t = some job → s.finished t = true := by
    intro job hsync hjob
    cases job with
    | login => exact hlogin t hjob
    | verify => exact hverify t hjob
    | sync => exact (hsync rfl).elim
  rintro (⟨job, hsync, hjob, hbegun⟩ | ⟨j, hj⟩)
  · cases (h.tasks.finished_begun t (hover job hsync hjob)).symm.trans hbegun
  · obtain ⟨job, hsync, hself⟩ := Stage.self_of_busy hj
    have hfinished := hover job hsync (h.tasks.self_begun j _ _ hself).1
    cases (h.tasks.busy_unfinished j t hj).symm.trans hfinished

/-- `start` creates a login. -/
theorem ConnectorInv.accept (h : ConnectorInv s θ) (hx : θ i = .clear)
    (hturn : Stage.Relies s .clear) :
    ConnectorInv (s.withNewTask .login) (Function.update θ i (.accepted s.nextTask)) := by
  obtain ⟨-, hlogin, hverify⟩ := hturn
  have hbusy' := part_update (θ := θ) (i := i) (y := .accepted s.nextTask) Stage.busy
    (by rw [hx]; rfl)
  refine h.create hx rfl rfl rfl (fun _ ↦ id) (fun _ ↦ by rintro ⟨⟩) rfl rfl rfl ?_ ?_ ?_
  · simp only [Busy, hbusy']
    exact fun _ ↦ h.not_busy hlogin hverify
  · -- all synchronizations were created before this login
    refine fun _ ↦ ⟨by decide, fun t ht ↦ ⟨s.nextTask, Function.update_self .., ?_⟩⟩
    refine Nat.lt_of_not_le fun hle ↦ ?_
    cases (h.tasks.fresh t hle).1.symm.trans ht
  · exact fun t ht ↦ hlogin t ht.1

/-! ## The tasks -/

/-- Who is busy is so alone. -/
theorem ConnectorInv.busy_alone (h : ConnectorInv s θ) (hi : (θ i).busy = some t)
    (hy : y.busy = none) (t' : TaskId) : ¬Busy s (Function.update θ i y) t' := by
  obtain ⟨job, -, hself⟩ := Stage.self_of_busy hi
  have hbegun := h.tasks.self_begun i _ _ hself
  rintro (⟨job', hsync, hjob, hpending⟩ | ⟨j, hj⟩)
  · obtain rfl := h.tasks.busy_unique t' t (.inl ⟨job', hsync, hjob, hpending⟩) (.inr ⟨i, hi⟩)
    cases hbegun.2.symm.trans hpending
  · by_cases hji : j = i
    · rw [hji, Function.update_self, hy] at hj
      cases hj
    · rw [Function.update_of_ne hji] at hj
      obtain rfl := h.tasks.busy_unique t' t (.inr ⟨j, hj⟩) (.inr ⟨i, hi⟩)
      obtain ⟨job', -, hself'⟩ := Stage.self_of_busy hj
      cases hbegun.1.symm.trans (h.tasks.self_begun j _ _ hself').1
      exact hji (h.tasks.self_unique j i _ hself' hself)

/-- A login creates a verification. -/
theorem ConnectorInv.handOver (h : ConnectorInv s θ) {l : TaskId} (hx : θ i = .released l) :
    ConnectorInv (s.withNewTask .verify) (Function.update θ i (.handedOver l s.nextTask)) := by
  have hbusy : (θ i).busy = some l := by rw [hx]; rfl
  have hjob : s.job l = some .login := (h.tasks.self_begun i .login l (by rw [hx]; rfl)).1
  refine h.create hx rfl rfl rfl (fun _ ↦ by rintro ⟨⟩) ?_ rfl rfl rfl
    (fun _ ↦ h.busy_alone hbusy rfl) ?_ ?_
  · rintro t ⟨⟩ ht
    cases hjob.symm.trans ht
  · refine fun _ ↦ ⟨by decide, fun t ht ↦ ?_⟩
    exact stale_withNewTask (h.tasks.fresh _ (Nat.le_refl _)).1
      (h.tasks.ahead (.inr ⟨i, by rw [hx]; rfl⟩) t ht)
  · -- another verification that is not done would be busy, too
    rintro t ⟨ht, -⟩
    by_contra hne
    have ht' : Busy s θ t := by
      cases hbegun : s.begun t with
      | false => exact .inl ⟨.verify, by decide, ht, hbegun⟩
      | true => exact .inr (h.tasks.verifying t ht hbegun (by simpa using hne))
    obtain rfl := h.tasks.busy_unique t l ht' (.inr ⟨i, hbusy⟩)
    cases hjob.symm.trans ht

/-- A verification creates a synchronization. -/
theorem ConnectorInv.createSync (h : ConnectorInv s θ) {v : TaskId} (hx : θ i = .verified v) :
    ConnectorInv (s.withNewTask .sync) (Function.update θ i (.syncCreated v s.nextTask)) := by
  have hbusy : (θ i).busy = some v := by rw [hx]; rfl
  refine h.create hx rfl rfl rfl (fun _ ↦ id) (fun _ ht _ ↦ ht) rfl rfl rfl
    (fun hsync ↦ (hsync rfl).elim) ?_ ?_
  · -- nobody else is busy
    intro ha
    have hnot := h.busy_alone (y := .synced v) hbusy rfl
    exfalso
    rcases ha with ⟨t, job, hsync, hjob, hpending⟩ | ⟨j, hj⟩
    · refine hnot t (.inl ⟨job, hsync, ?_, hpending⟩)
      refine (withNewTask_job_of_ne ?_).symm.trans hjob
      rintro rfl
      exact hsync (Option.some.inj (withNewTask_job_self.symm.trans hjob)).symm
    · by_cases hji : j = i
      · rw [hji, Function.update_self] at hj
        cases hj
      · obtain ⟨t, ht⟩ := Stage.busy_of_ahead hj
        refine hnot t (.inr ⟨j, ?_⟩)
        rwa [Function.update_of_ne hji] at ht ⊢
  · rintro t ⟨ht, hnotStale⟩
    exact (hnotStale rfl (h.tasks.ahead (.inr ⟨i, by rw [hx]; rfl⟩) t ht)).elim

/-- A task begins, or is told that it has been cancelled. -/
theorem kept_begin (h : ConnectorInv s θ) (hx : θ i = .idle) {a : Except Exn Unit}
    (hstep : ∃ b, serve (.begin job t) b s = some (a, s')) :
    Kept verifyTimeoutSeconds θ i .idle (.begin job t) a s' := by
  obtain ⟨b, hb⟩ := hstep
  rw [serve] at hb
  split at hb
  · rename_i hcreated
    obtain ⟨hjob, hbegun⟩ := hcreated
    cases hb
    cases job <;> cases b
    · exact ⟨_, .cancelLogin t _, h.begin hx hjob hbegun rfl rfl rfl rfl rfl rfl, trivial⟩
    · exact ⟨_, .beginLogin t, h.begin hx hjob hbegun rfl rfl rfl rfl rfl rfl, trivial⟩
    · exact ⟨_, .cancelVerify t _, h.begin hx hjob hbegun rfl rfl rfl rfl rfl rfl, trivial⟩
    · exact ⟨_, .beginVerify t, h.begin hx hjob hbegun rfl rfl rfl rfl rfl rfl, trivial⟩
    · exact ⟨_, .cancelSync t _, h.begin hx hjob hbegun rfl rfl rfl rfl rfl rfl, trivial⟩
    · exact ⟨_, .beginSync t, h.begin hx hjob hbegun rfl rfl rfl rfl rfl rfl, trivial⟩
  · cases hb

/-! ## `shutdown` -/

/-- `shutdown` clears a reference. -/
theorem kept_clearTask (h : ConnectorInv s θ) {n : ℕ} {w : List ConnectorJob} {o : Option TaskId}
    (hx : θ i = .found n w job o) (hturn : s.task job = o) :
    Kept verifyTimeoutSeconds θ i (.found n w job o) (.clearTask job) (.ok ())
      { s with task := Function.update s.task job none } := by
  have hother : ∀ {job' t}, job' ≠ job → s.task job' = some t →
      Function.update s.task job none job' = some t :=
    fun hne ht ↦ (Function.update_of_ne hne ..).trans ht
  cases o with
  | none =>
    refine ⟨_, .clearNone n w job, h.walk hx rfl rfl rfl rfl rfl rfl rfl rfl rfl rfl rfl rfl rfl
      (h.calls.still (by rw [hx]; rfl) rfl rfl) ?_, trivial⟩
    rintro job' t' - - (ht' | hheld)
    · have hne : job' ≠ job := by
        rintro rfl
        cases hturn.symm.trans ht'
      exact .inl (hother hne ht')
    · cases hheld
  | some t =>
    refine ⟨_, .clearSome n w job t, h.walk hx rfl rfl rfl rfl rfl rfl rfl rfl rfl rfl rfl rfl rfl
      (h.calls.still (by rw [hx]; rfl) rfl rfl) ?_, trivial⟩
    rintro job' t' - - (ht' | hheld)
    · by_cases hne : job' = job
      · subst hne
        cases hturn.symm.trans ht'
        exact .inr rfl
      · exact .inl (hother hne ht')
    · cases hheld

/-- A task that `shutdown` has held is done. -/
theorem ConnectorInv.drop (h : ConnectorInv s θ) {n : ℕ} {w w' : List ConnectorJob}
    (hx : θ i = .removed n w job t) (hfinished : s.finished t = true) :
    ConnectorInv s (Function.update θ i (.stopping n w')) := by
  refine h.walk hx rfl rfl rfl rfl rfl rfl rfl rfl rfl rfl rfl rfl rfl
    (h.calls.still (by rw [hx]; rfl) rfl rfl) ?_
  rintro job' t' - hunfinished (ht' | hheld)
  · exact .inl ht'
  · cases hheld
    cases hfinished.symm.trans hunfinished

/-- `shutdown` is called. -/
theorem ConnectorInv.stop (h : ConnectorInv s θ) (hx : θ i = .idle) :
    ConnectorInv { s with stopping := s.shutdowns :: s.stopping, shutdowns := s.shutdowns + 1 }
      (Function.update θ i (.stopping s.shutdowns [])) :=
  h.walk hx rfl rfl rfl rfl rfl rfl rfl rfl rfl rfl rfl rfl rfl (h.calls.stop rfl)
    fun _ _ _ _ ↦ Or.imp_right (by rintro ⟨⟩)

/-- A call of `shutdown` ends. -/
theorem ConnectorInv.stopped (h : ConnectorInv s θ) {n : ℕ} {w : List ConnectorJob}
    (hx : θ i = .stopping n w) :
    ConnectorInv { s with stopping := s.stopping.filter (· ≠ n) }
      (Function.update θ i (.stopped w)) :=
  h.walk hx rfl rfl rfl rfl rfl rfl rfl rfl rfl rfl rfl rfl rfl
    (h.calls.stopped (by rw [hx]; rfl) rfl) fun _ _ _ _ ↦ Or.imp_right (by rintro ⟨⟩)

/-! ## Every request -/

/-- What is quiet keeps the invariant. -/
theorem kept_quiet (h : ConnectorInv s θ) (hx : θ i = x) (hturn : x.Relies s)
    {q : ConnectorRequest} {a : Except Exn q.Val} (hquiet : x.Quiet q)
    (hstep : ∃ b, serve q b s = some (a, s')) : Kept verifyTimeoutSeconds θ i x q a s' := by
  refine ⟨x, .quiet x q a hquiet, ?_⟩
  obtain ⟨b, hb⟩ := hstep
  have hsame : ConnectorInv s (Function.update θ i x) := by
    rwa [← hx, Function.update_eq_self]
  cases q with
  | setLastStartBlockedBySync blocked =>
    cases hb
    have hlocked : x.locked = true → s.unconfirmed = false := hx ▸ h.locked i
    exact ⟨h.still hx rfl rfl rfl id rfl rfl hlocked rfl, by cases x <;> exact hturn⟩
  | isSyncRunning | cleanupUnconfirmed | markLoginTeardownFailed =>
    cases hb
    exact ⟨hsame, hturn⟩
  | releaseProfileLock => cases b <;> cases hb <;> exact ⟨hsame, hturn⟩
  | markProfileTeardownUnconfirmed =>
    cases hb
    cases x <;> first | exact hquiet.elim | skip
    rename_i l
    refine ⟨?_, trivial⟩
    rw [← hx, Function.update_eq_self]
    exact h.mark hx
  | _ => cases x <;> exact hquiet.elim

/-- **An allowed request of any program keeps the invariant.** -/
theorem ConnectorInv.keep (h : ConnectorInv s θ) (hx : θ i = x) (hturn : x.Relies s)
    {q : ConnectorRequest} {a : Except Exn q.Val} (hpre : (stages verifyTimeoutSeconds).pre x q)
    (hstep : (rulesWhere StartsApart).step s q a s') :
    Kept verifyTimeoutSeconds θ i x q a s' := by
  obtain ⟨a₀, y₀, hpre⟩ := hpre
  obtain ⟨hallowed, hserve⟩ := hstep
  have hlocked : x.locked = true → s.unconfirmed = false := hx ▸ h.locked i
  -- where nothing changes but the stage
  have hstill : ∀ {y : Stage}, y.self = x.self → y.child = x.child → y.busy = x.busy →
      (y.ahead = true → x.ahead = true) → y.call = x.call → y.held = x.held →
      (y.locked = true → s.unconfirmed = false) → ConnectorInv s (Function.update θ i y) :=
    fun h₁ h₂ h₃ h₄ h₅ h₆ h₇ ↦ h.still hx h₁ h₂ h₃ h₄ h₅ h₆ h₇ rfl
  have hgo : ∀ {y : Stage}, y.self = x.self → y.child = x.child → y.busy = x.busy →
      (y.ahead = true → x.ahead = true) → y.call = x.call → y.held = x.held →
      y.locked = false → ConnectorInv s (Function.update θ i y) :=
    fun h₁ h₂ h₃ h₄ h₅ h₆ h₇ ↦ hstill h₁ h₂ h₃ h₄ h₅ h₆ fun hy ↦ by cases h₇.symm.trans hy
  cases hpre with
  | quiet _ _ _ hquiet => exact kept_quiet h hx hturn hquiet hserve
  | call =>
    obtain ⟨b, hb⟩ := hserve
    cases hb
    exact ⟨_, .call, hgo rfl rfl rfl id rfl rfl rfl, hallowed rfl⟩
  | noLogin | someLogin =>
    obtain ⟨b, hb⟩ := hserve
    cases hb
    cases htask : s.task .login with
    | none =>
      refine ⟨_, .noLogin, hgo rfl rfl rfl id rfl rfl rfl, hturn, ?_⟩
      exact h.over hturn (by decide) fun t ht ↦ by cases htask.symm.trans ht
    | some t =>
      exact ⟨_, .someLogin t, hgo rfl rfl rfl id rfl rfl rfl, hturn, htask,
        fun hlogin ↦ by cases hlogin⟩
  | loginDone t | active t =>
    obtain ⟨b, hb⟩ := hserve
    cases hb
    obtain ⟨hstopping, htask, -⟩ := hturn
    cases hfinished : s.finished t with
    | false => exact ⟨_, .active t, hgo rfl rfl rfl id rfl rfl rfl, trivial⟩
    | true =>
      refine ⟨_, .loginDone t, hgo rfl rfl rfl id rfl rfl rfl, hstopping, ?_⟩
      refine h.over hstopping (by decide) fun t' ht' ↦ ?_
      cases htask.symm.trans ht'
      exact hfinished
  | noVerify | someVerify =>
    obtain ⟨b, hb⟩ := hserve
    cases hb
    obtain ⟨hstopping, hlogin⟩ := hturn
    cases htask : s.task .verify with
    | none =>
      refine ⟨_, .noVerify, hgo rfl rfl rfl id rfl rfl rfl, hstopping, hlogin, ?_⟩
      exact h.over hstopping (by decide) fun t ht ↦ by cases htask.symm.trans ht
    | some t =>
      exact ⟨_, .someVerify t, hgo rfl rfl rfl id rfl rfl rfl, hstopping, htask,
        fun _ ↦ hlogin⟩
  | verifyDone t | verifyGoesOn t =>
    obtain ⟨b, hb⟩ := hserve
    cases hb
    obtain ⟨hstopping, htask, hlogin⟩ := hturn
    cases hfinished : s.finished t with
    | false => exact ⟨_, .verifyGoesOn t, hgo rfl rfl rfl id rfl rfl rfl, trivial⟩
    | true =>
      refine ⟨_, .verifyDone t, hgo rfl rfl rfl id rfl rfl rfl, hstopping, hlogin rfl, ?_⟩
      refine h.over hstopping (by decide) fun t' ht' ↦ ?_
      cases htask.symm.trans ht'
      exact hfinished
  | accept =>
    obtain ⟨b, hb⟩ := hserve
    cases hb
    exact ⟨_, .accept _, h.accept hx hturn, trivial⟩
  | beginLogin | cancelLogin | beginVerify | cancelVerify | beginSync | cancelSync =>
    exact kept_begin h hx hserve
  | lock l | lockFails l =>
    obtain ⟨b, hb⟩ := hserve
    cases b with
    | error e =>
      cases hb
      exact ⟨_, .lockFails l _, hgo rfl rfl rfl (fun _ ↦ rfl) rfl rfl rfl, trivial⟩
    | ok _ =>
      cases hunconfirmed : s.unconfirmed with
      | true => simp [serve, hunconfirmed] at hb
      | false =>
        simp only [serve, hunconfirmed, Bool.false_eq_true, ↓reduceIte, Option.some.injEq,
          Prod.mk.injEq] at hb
        obtain ⟨rfl, rfl⟩ := hb
        exact ⟨_, .lock l, hstill rfl rfl rfl (fun _ ↦ rfl) rfl rfl fun _ ↦ hunconfirmed, trivial⟩
  | close l | openFails l =>
    obtain ⟨b, hb⟩ := hserve
    cases hb
    cases a with
    | ok _ => exact ⟨_, .close l, hstill rfl rfl rfl (fun _ ↦ rfl) rfl rfl hlocked, trivial⟩
    | error e =>
      exact ⟨_, .openFails l e, hgo rfl rfl rfl (fun _ ↦ rfl) rfl rfl rfl, trivial⟩
  | release l | releaseFails l =>
    obtain ⟨b, hb⟩ := hserve
    cases b with
    | error e =>
      cases hb
      exact ⟨_, .releaseFails l _, hgo rfl rfl rfl (fun _ ↦ rfl) rfl rfl rfl,
        trivial⟩
    | ok _ =>
      simp only [serve, hlocked rfl, Bool.not_false, Option.some.injEq, Prod.mk.injEq] at hb
      obtain ⟨rfl, rfl⟩ := hb
      exact ⟨_, .release l, hgo rfl rfl rfl (fun _ ↦ rfl) rfl rfl rfl, trivial⟩
  | handOver l =>
    obtain ⟨b, hb⟩ := hserve
    cases hb
    exact ⟨_, .handOver l _, h.handOver hx, trivial⟩
  | finishFailed l =>
    obtain ⟨b, hb⟩ := hserve
    cases hb
    exact ⟨_, .finishFailed l, h.finish hx rfl rfl rfl rfl rfl rfl rfl, trivial⟩
  | finishHandedOver l v =>
    obtain ⟨b, hb⟩ := hserve
    cases hb
    exact ⟨_, .finishHandedOver l v, h.finish hx rfl rfl rfl rfl rfl rfl rfl, trivial⟩
  | verify v | reject v | verifyFails v =>
    obtain ⟨b, hb⟩ := hserve
    cases hb
    rcases a with e | verified
    · exact ⟨_, .verifyFails v e, hgo rfl rfl rfl (fun _ ↦ rfl) rfl rfl rfl,
        trivial⟩
    · cases verified with
      | true =>
        exact ⟨_, .verify v, hgo rfl rfl rfl (fun _ ↦ rfl) rfl rfl rfl, trivial⟩
      | false =>
        exact ⟨_, .reject v, hgo rfl rfl rfl (fun _ ↦ rfl) rfl rfl rfl, trivial⟩
  | createSync v =>
    obtain ⟨b, hb⟩ := hserve
    cases hb
    exact ⟨_, .createSync v _, h.createSync hx, trivial⟩
  | finishUnverified v =>
    obtain ⟨b, hb⟩ := hserve
    cases hb
    exact ⟨_, .finishUnverified v, h.finish hx rfl rfl rfl rfl rfl rfl rfl, trivial⟩
  | finishVerified v =>
    obtain ⟨b, hb⟩ := hserve
    cases hb
    exact ⟨_, .finishVerified v _, h.finish hx rfl rfl rfl rfl rfl rfl rfl, trivial⟩
  | sync t =>
    obtain ⟨b, hb⟩ := hserve
    cases hb
    exact ⟨_, .sync t a, hgo rfl rfl rfl id rfl rfl rfl, trivial⟩
  | finishSync t =>
    obtain ⟨b, hb⟩ := hserve
    cases hb
    exact ⟨_, .finishSync t, h.finish hx rfl rfl rfl rfl rfl rfl rfl, trivial⟩
  | stop =>
    obtain ⟨b, hb⟩ := hserve
    cases hb
    exact ⟨_, .stop _, h.stop hx, trivial⟩
  | find n w job _ hnext =>
    obtain ⟨b, hb⟩ := hserve
    cases hb
    exact ⟨_, .find n w job _ hnext, hgo rfl rfl rfl id rfl rfl rfl, rfl⟩
  | clearNone | clearSome =>
    obtain ⟨b, hb⟩ := hserve
    cases hb
    exact kept_clearTask h hx hturn
  | notDone n w job t | isDone n w job t =>
    obtain ⟨b, hb⟩ := hserve
    cases hb
    cases hfinished : s.finished t with
    | false => exact ⟨_, .notDone n w job t, hgo rfl rfl rfl id rfl rfl rfl, trivial⟩
    | true => exact ⟨_, .isDone n w job t, h.drop hx hfinished, trivial⟩
  | cancel n w job t =>
    obtain ⟨b, hb⟩ := hserve
    cases hb
    exact ⟨_, .cancel n w job t, hgo rfl rfl rfl id rfl rfl rfl, trivial⟩
  | await n w job t =>
    obtain ⟨b, hb⟩ := hserve
    cases hfinished : s.finished t with
    | false => simp [serve, hfinished] at hb
    | true =>
      simp only [serve, hfinished, ↓reduceIte, Option.some.injEq, Prod.mk.injEq] at hb
      obtain ⟨rfl, rfl⟩ := hb
      exact ⟨_, .await n w job t _, h.drop hx hfinished, trivial⟩
  | finishStop n w =>
    obtain ⟨b, hb⟩ := hserve
    cases hb
    exact ⟨_, .finishStop n w, h.stopped hx, trivial⟩

end

end SessionConnector

end RmaPortal
