import RmaPortal.Connection.Programs
import RmaPortal.Coroutine.Turns

/-!
# One connection at a time

`connection_protocol` says what holds in every state the connector can get into, whatever the
order in which `start` and `shutdown` are called and the tasks take their turns, and however the
login, the verification and the synchronization end: one of them at most uses the profile, each
follows the one before it, and none follows twice.

All of it is read off the stages of the programs.  A stage says what a program has done, the
history of a task is a way through the stages, and so what two programs have in common can be said
of their stages alone.

## What is here

* `starts`, `UsesProfile`, `Runs` — how often a program has started an operation, whether it is in
  the middle of `open_and_wait` or `verify_session`, and which task it runs.
* `LedToVerification`, `LedToSync` — a call of `start` has returned `True` and created a login,
  whose window has been closed normally, and then the verification has been created; and the same
  for what follows it.
* `FollowsProtocol` — the claim: one program at most uses the profile; every verification that
  runs has been led to by a call of `start` and every synchronization by a verification, each by
  exactly one; and an operation is started once at most for each task.
* `AtStages.starts_le`, `AtStages.runs_iff`, `AtStages.created_iff`, `AtStages.milestones` — what
  a stage says about the history of its program, and the other way round.
* `AtStages.alone`, `AtStages.ledToVerification`, `AtStages.ledToSync`,
  `AtStages.verification_unique`, `AtStages.sync_unique` — the parts of the claim, each from
  `ConnectorInv`.
* `turn_startCall` — while a login or a verification is not done, `start` returns `False` and
  creates nothing.
* `connection_protocol`, and `connection_protocol_smooth` for a connection from the click to the
  synchronization with a second click in between.

The steps are those of `ConnectorSteps`, in which `start` is not called while a call of `shutdown`
is in progress.
-/

set_option autoImplicit false

open Coroutine

namespace RmaPortal

namespace SessionConnector

/-- A program of the connector, as far as it has got. -/
abbrev ConnectorTask : Type := Task ConnectorRequest.Val Exn (Option Bool)

/-- How often the program has started the operation of the job, whether it has ended or not. -/
def starts (job : ConnectorJob) (task : ConnectorTask) : ℕ :=
  operations job task.history +
    match task.rest with
    | .ask q _ => if q.operation = some job then 1 else 0
    | .done _ => 0

/-- The program in the slot `i` is executing `open_and_wait` or `verify_session`. -/
def UsesProfile (p : ConnectorPool) (i : ℕ) : Prop :=
  ∃ task q k, p.tasks i = some task ∧ task.rest = .ask q k ∧
    (q.operation = some .login ∨ q.operation = some .verify)

/-- The program runs the task `t`, which is there for the job. -/
def Runs (task : ConnectorTask) (job : ConnectorJob) (t : TaskId) : Prop :=
  ∃ a, ⟨.begin job t, a⟩ ∈ task.history

/-- The call of `start` in the slot `i` has returned `True` and created a login; the window of that
login has been closed normally, the lock of the profile has been released after it, and then the
verification has been created that is run in the slot `j`. -/
def LedToVerification (p : ConnectorPool) (i j : ℕ) : Prop :=
  ∃ k l v start login verification,
    p.tasks i = some start ∧ start.rest = .done (.ok (some true)) ∧
      ⟨.createTask .login, .ok l⟩ ∈ start.history ∧
    p.tasks k = some login ∧
      List.Sublist [⟨.begin .login l, .ok ()⟩, ⟨.openAndWait, .ok ()⟩,
        ⟨.releaseProfileLock, .ok true⟩, ⟨.createTask .verify, .ok v⟩] login.history ∧
    p.tasks j = some verification ∧ Runs verification .verify v

/-- The verification in the slot `i` has returned `True`, and then the synchronization has been
created that is run in the slot `j`. -/
def LedToSync (verifyTimeoutSeconds : ℕ) (p : ConnectorPool) (i j : ℕ) : Prop :=
  ∃ v s verification sync,
    p.tasks i = some verification ∧
      List.Sublist [⟨.begin .verify v, .ok ()⟩, ⟨.verifySession verifyTimeoutSeconds, .ok true⟩,
        ⟨.createTask .sync, .ok s⟩] verification.history ∧
    p.tasks j = some sync ∧ Runs sync .sync s

/-- **What the phases of a connection have in common** in the state `p`. -/
structure FollowsProtocol (verifyTimeoutSeconds : ℕ) (p : ConnectorPool) : Prop where
  /-- One program at most is executing `open_and_wait` or `verify_session`. -/
  alone : ∀ i j, UsesProfile p i → UsesProfile p j → i = j
  /-- Who has started `verify_session` has done so once, and because of a call of `start`. -/
  verification : ∀ j task, p.tasks j = some task → 0 < starts .verify task →
    starts .verify task = 1 ∧ ∃ i, LedToVerification p i j
  /-- A call of `start` leads to one verification at most. -/
  verification_unique : ∀ i j j', LedToVerification p i j → LedToVerification p i j' → j = j'
  /-- Who has started `run_sync` has done so once, and because of a verification. -/
  sync : ∀ j task, p.tasks j = some task → 0 < starts .sync task →
    starts .sync task = 1 ∧ ∃ i, LedToSync verifyTimeoutSeconds p i j
  /-- A verification leads to one synchronization at most. -/
  sync_unique : ∀ i j j', LedToSync verifyTimeoutSeconds p i j →
    LedToSync verifyTimeoutSeconds p i j' → j = j'
  /-- While a login or a verification is not done, `start` returns `False` and changes nothing but
  `last_start_blocked_by_sync`. -/
  refused : ∀ job t, job ≠ .sync → p.state.job t = some job → p.state.finished t = false →
    ∀ i es p' task, p.tasks i = none →
      ConnectorStep StartsApart verifyTimeoutSeconds p (i, es) p' → p'.tasks i = some task →
      task.program = startCall →
        task.rest = .done (.ok (some false)) ∧
        p'.state = { p.state with lastStartBlockedBySync := false } ∧
        ∀ j, j ≠ i → p'.tasks j = p.tasks j

section

variable {verifyTimeoutSeconds : ℕ} {p : ConnectorPool} {θ : ℕ → Stage} {i j : ℕ}
  {task : ConnectorTask} {x : Stage} {job : ConnectorJob} {t : TaskId} {q : ConnectorRequest}

/-! ## Where a program is -/

/-- An operation is asked for where it is due, by the task that is there for it. -/
theorem due_of_pre (hpre : (stages verifyTimeoutSeconds).pre x q)
    (hq : q.operation = some job) :
    x.due job = 1 ∧ (∃ t, x.self = some (job, t)) ∧ (job ≠ .sync → ∃ t, x.busy = some t) := by
  obtain ⟨a, y, hstep⟩ := hpre
  cases hstep with
  | quiet _ _ _ hquiet => cases hquiet.notable.2.2.symm.trans hq
  | close l | openFails l => cases hq; exact ⟨rfl, ⟨l, rfl⟩, fun _ ↦ ⟨l, rfl⟩⟩
  | verify v | reject v | verifyFails v => cases hq; exact ⟨rfl, ⟨v, rfl⟩, fun _ ↦ ⟨v, rfl⟩⟩
  | sync s => cases hq; exact ⟨rfl, ⟨s, rfl⟩, fun hsync ↦ (hsync rfl).elim⟩
  | _ => cases hq

section

variable (h : AtStages verifyTimeoutSeconds p θ) (htask : p.tasks i = some task)

include h htask

theorem AtStages.pre {k : Except Exn q.Val → ConnectorCall (Option Bool)}
    (hrest : task.rest = .ask q k) : (stages verifyTimeoutSeconds).pre (θ i) q := by
  have hsat := (h.task i task htask).sat
  rw [hrest] at hsat
  exact hsat.1

/-- An operation is started once at most, by the task that is there for it. -/
theorem AtStages.starts_le : starts job task ≤ 1 ∧
    (0 < starts job task → ∃ t, (θ i).self = some (job, t)) := by
  obtain ⟨hle, hself⟩ : operations job task.history + (θ i).due job ≤ 1 ∧
      (0 < operations job task.history → ∃ t, (θ i).self = some (job, t)) :=
    operations_le_one (h.task i task htask).path
  rw [starts]
  cases hrest : task.rest with
  | done o =>
    dsimp only
    exact ⟨by omega, hself⟩
  | ask q k =>
    dsimp only
    by_cases hq : q.operation = some job
    · obtain ⟨hdue, hself', -⟩ := due_of_pre (h.pre htask hrest) hq
      rw [if_pos hq]
      exact ⟨by omega, fun _ ↦ hself'⟩
    · rw [if_neg hq]
      exact ⟨by omega, hself⟩

theorem AtStages.runs_iff : Runs task job t ↔ (θ i).self = some (job, t) := Iff.symm <|
  SessionConnector.begun_iff (h.task i task htask).path

theorem AtStages.created_iff :
    (θ i).child = some (job, t) ↔ ⟨.createTask job, .ok t⟩ ∈ task.history :=
  SessionConnector.created_iff (h.task i task htask).path

theorem AtStages.milestones :
    ((θ i).milestones verifyTimeoutSeconds).Sublist task.history :=
  milestones_sublist (h.task i task htask).path

/-- A call of `start` that has created a login has returned `True`. -/
theorem AtStages.accepted {l : TaskId} (hi : θ i = .accepted l) :
    task.rest = .done (.ok (some true)) := by
  cases hrest : task.rest with
  | done o => rw [((h.task i task htask).over hrest).accepted l hi]
  | ask q k =>
    -- a call that is over its look at the tasks does not wait
    have hwaits := (h.task i task htask).rest
    rw [hrest] at hwaits
    obtain ⟨a, y, hstep⟩ := h.pre htask hrest
    rw [hi] at hstep
    cases hstep with
    | quiet _ _ _ hquiet => cases q <;> first | exact hquiet.elim | cases hwaits

end

/-- A program that is at a stage has been started. -/
theorem AtStages.started (h : AtStages verifyTimeoutSeconds p θ) (hi : θ i ≠ .idle) :
    ∃ task, p.tasks i = some task := by
  cases htask : p.tasks i with
  | none => exact (hi (h.unused i htask)).elim
  | some task => exact ⟨task, rfl⟩

/-! ## Who uses the profile -/

theorem AtStages.alone (h : AtStages verifyTimeoutSeconds p θ) (hi : UsesProfile p i)
    (hj : UsesProfile p j) : i = j := by
  have hbusy : ∀ {i}, UsesProfile p i → ∃ t, (θ i).busy = some t := by
    rintro i ⟨task, q, k, htask, hrest, hq | hq⟩
    · exact (due_of_pre (h.pre htask hrest) hq).2.2 (by decide)
    · exact (due_of_pre (h.pre htask hrest) hq).2.2 (by decide)
  obtain ⟨t, ht⟩ := hbusy hi
  obtain ⟨t', ht'⟩ := hbusy hj
  obtain rfl := h.inv.tasks.busy_unique t t' (.inr ⟨i, ht⟩) (.inr ⟨j, ht'⟩)
  obtain ⟨job, -, hself⟩ := Stage.self_of_busy ht
  obtain ⟨job', -, hself'⟩ := Stage.self_of_busy ht'
  cases (h.inv.tasks.self_begun i _ _ hself).1.symm.trans (h.inv.tasks.self_begun j _ _ hself').1
  exact h.inv.tasks.self_unique i j _ hself hself'

/-! ## Which phase follows which -/

/-- Every task has been created by a program that is at some stage. -/
theorem AtStages.exists_creator (h : AtStages verifyTimeoutSeconds p θ)
    (hself : (θ j).self = some (job, t)) :
    ∃ i task, p.tasks i = some task ∧ (θ i).child = some (job, t) := by
  obtain ⟨i, hi⟩ := h.inv.tasks.exists_child job t (h.inv.tasks.self_begun j job t hself).1
  obtain ⟨task, htask⟩ := h.started (i := i) fun hidle ↦ by simp [hidle, Stage.child] at hi
  exact ⟨i, task, htask, hi⟩

/-- Who runs a verification has been led to by a call of `start`. -/
theorem AtStages.ledToVerification (h : AtStages verifyTimeoutSeconds p θ)
    (htask : p.tasks j = some task) (hself : (θ j).self = some (.verify, t)) :
    ∃ i, LedToVerification p i j := by
  obtain ⟨k, login, hlogin, hchild⟩ := h.exists_creator hself
  have hmilestones := h.milestones hlogin
  -- a verification is created by a login, and that by a call of `start`
  have hhanded : ∀ l, (θ k).self = some (.login, l) →
      List.Sublist [⟨.begin .login l, .ok ()⟩, ⟨.openAndWait, .ok ()⟩,
        ⟨.releaseProfileLock, .ok true⟩, ⟨.createTask .verify, .ok t⟩] login.history →
      ∃ i, LedToVerification p i j := by
    intro l hl hsub
    obtain ⟨i, start, hstart, hl'⟩ := h.exists_creator hl
    have hi : θ i = .accepted l := by
      generalize θ i = x at hl'
      cases x with
      | loginOver _ v | verifyOver _ v => cases v <;> cases hl'
      | _ => cases hl'; try rfl
    exact ⟨i, k, l, t, start, login, task, hstart, h.accepted hstart hi,
      (h.created_iff hstart).mp hl', hlogin, hsub, htask, (h.runs_iff htask).mpr hself⟩
  cases hk : θ k with
  | handedOver l v =>
    rw [hk] at hchild hmilestones
    cases hchild
    exact hhanded l (by rw [hk]; rfl) hmilestones
  | loginOver l v =>
    rw [hk] at hchild hmilestones
    cases v <;> cases hchild
    exact hhanded l (by rw [hk]; rfl) hmilestones
  | verifyOver v s =>
    rw [hk] at hchild
    cases s <;> cases hchild
  | _ =>
    rw [hk] at hchild
    cases hchild

/-- Who runs a synchronization has been led to by a verification. -/
theorem AtStages.ledToSync (h : AtStages verifyTimeoutSeconds p θ)
    (htask : p.tasks j = some task) (hself : (θ j).self = some (.sync, t)) :
    ∃ i, LedToSync verifyTimeoutSeconds p i j := by
  obtain ⟨i, verification, hverification, hchild⟩ := h.exists_creator hself
  have hmilestones := h.milestones hverification
  cases hi : θ i with
  | syncCreated v s =>
    rw [hi] at hchild hmilestones
    cases hchild
    exact ⟨i, v, t, verification, task, hverification, hmilestones, htask,
      (h.runs_iff htask).mpr hself⟩
  | verifyOver v s =>
    rw [hi] at hchild hmilestones
    cases s <;> cases hchild
    exact ⟨i, v, t, verification, task, hverification, hmilestones, htask,
      (h.runs_iff htask).mpr hself⟩
  | loginOver l v =>
    rw [hi] at hchild
    cases v <;> cases hchild
  | _ =>
    rw [hi] at hchild
    cases hchild

/-- What a program has created, and who runs it, is determined. -/
theorem AtStages.verification_unique (h : AtStages verifyTimeoutSeconds p θ) {j' : ℕ}
    (hj : LedToVerification p i j) (hj' : LedToVerification p i j') : j = j' := by
  obtain ⟨k, l, v, start, login, task, hstart, -, hl, hlogin, hsub, htask, hv⟩ := hj
  obtain ⟨k', l', v', start', login', task', hstart', -, hl', hlogin', hsub', htask', hv'⟩ := hj'
  cases hstart.symm.trans hstart'
  have hchild := (h.created_iff hstart).mpr hl
  cases hchild.symm.trans ((h.created_iff hstart).mpr hl')
  -- both logins are the one the call has created
  have hruns := (h.runs_iff hlogin).mp ⟨_, hsub.subset (List.mem_cons_self)⟩
  have hruns' := (h.runs_iff hlogin').mp ⟨_, hsub'.subset (List.mem_cons_self)⟩
  obtain rfl := h.inv.tasks.self_unique k k' _ hruns hruns'
  cases hlogin.symm.trans hlogin'
  have hmem : ⟨.createTask .verify, .ok v⟩ ∈ login.history := hsub.subset (by simp)
  have hmem' : ⟨.createTask .verify, .ok v'⟩ ∈ login.history := hsub'.subset (by simp)
  cases ((h.created_iff hlogin).mpr hmem).symm.trans ((h.created_iff hlogin).mpr hmem')
  exact h.inv.tasks.self_unique j j' _ ((h.runs_iff htask).mp hv) ((h.runs_iff htask').mp hv')

theorem AtStages.sync_unique (h : AtStages verifyTimeoutSeconds p θ) {j' : ℕ}
    (hj : LedToSync verifyTimeoutSeconds p i j) (hj' : LedToSync verifyTimeoutSeconds p i j') :
    j = j' := by
  obtain ⟨v, s, verification, task, hverification, hsub, htask, hs⟩ := hj
  obtain ⟨v', s', verification', task', hverification', hsub', htask', hs'⟩ := hj'
  cases hverification.symm.trans hverification'
  have hmem : ⟨.createTask .sync, .ok s⟩ ∈ verification.history := hsub.subset (by simp)
  have hmem' : ⟨.createTask .sync, .ok s'⟩ ∈ verification.history := hsub'.subset (by simp)
  cases ((h.created_iff hverification).mpr hmem).symm.trans
    ((h.created_iff hverification).mpr hmem')
  exact h.inv.tasks.self_unique j j' _ ((h.runs_iff htask).mp hs) ((h.runs_iff htask').mp hs')

/-! ## A call of `start` that comes too early -/

section Refused

variable {s : SessionConnector} {allowed : SessionConnector → ConnectorRequest → Prop} {α : Type}
  {Q : List ConnectorEvent → ConnectorCall α → SessionConnector → Prop}

/-- A request that is answered on the spot, in the only way it can be. -/
theorem turn_serve {a : Except Exn q.Val} {k : Except Exn q.Val → ConnectorCall α}
    {s₁ : SessionConnector} (hq : suspends q = false) (hserve : ∀ b, serve q b s = some (a, s₁))
    (h : Turn (rulesWhere allowed) suspends (k a) s₁ fun t ↦ Q (⟨q, a⟩ :: t)) :
    Turn (rulesWhere allowed) suspends (.ask q k) s Q := by
  refine turn_goes hq fun a' s' hstep ↦ ?_
  obtain ⟨-, b, hb⟩ := hstep
  cases (hserve b).symm.trans hb
  exact h

/-- While a login or a verification is not done, `start` returns `False`. -/
theorem turn_startCall (hsync : job ≠ .sync) (htask : s.task job = some t)
    (hunfinished : s.finished t = false) :
    Turn (rulesWhere allowed) suspends startCall s fun _ c s' ↦
      c = .done (.ok (some false)) ∧ s' = { s with lastStartBlockedBySync := false } := by
  refine turn_serve rfl (fun _ ↦ rfl) (turn_serve rfl (fun _ ↦ rfl) ?_)
  -- the verification is looked at if no login is going on
  have hverify (htask : s.task .verify = some t) :
      Turn (rulesWhere allowed) suspends (do
        let started ← (do
          if ← isVerifying then pure false
          else if ← request .isSyncRunning then
            request (.setLastStartBlockedBySync true)
            pure false
          else
            let _ ← request (.createTask .login)
            pure true : ConnectorCall Bool)
        pure (some started)) { s with lastStartBlockedBySync := false } fun _ c s' ↦
          c = .done (.ok (some false)) ∧ s' = { s with lastStartBlockedBySync := false } := by
    refine turn_serve rfl (a := .ok (some t)) (fun _ ↦ by rw [serve, htask]) ?_
    refine turn_serve rfl (a := .ok false) (fun _ ↦ by rw [serve, hunfinished]) ?_
    exact turn_done ⟨rfl, rfl⟩
  cases hlogin : s.task .login with
  | none =>
    refine turn_serve rfl (a := .ok none) (fun _ ↦ by rw [serve, hlogin]) ?_
    cases job with
    | login => cases hlogin.symm.trans htask
    | verify => exact hverify htask
    | sync => exact (hsync rfl).elim
  | some l =>
    refine turn_serve rfl (a := .ok (some l)) (fun _ ↦ by rw [serve, hlogin]) ?_
    cases hl : s.finished l with
    | false =>
      refine turn_serve rfl (a := .ok false) (fun _ ↦ by rw [serve, hl]) ?_
      exact turn_done ⟨rfl, rfl⟩
    | true =>
      refine turn_serve rfl (a := .ok true) (fun _ ↦ by rw [serve, hl]) ?_
      cases job with
      | login =>
        cases hlogin.symm.trans htask
        cases hl.symm.trans hunfinished
      | verify => exact hverify htask
      | sync => exact (hsync rfl).elim

/-- `start` is not called while a call of `shutdown` is in progress. -/
theorem stopping_of_startCall {es : List ConnectorEvent} {c : ConnectorCall (Option Bool)}
    {s' : SessionConnector} (h : Settle (rulesWhere StartsApart) suspends startCall s es c s') :
    s.stopping = [] := by
  have hturn : Turn (rulesWhere StartsApart) suspends startCall s fun _ _ _ ↦ s.stopping = [] :=
    turn_goes rfl fun a s₁ hstep _ _ _ _ ↦ hstep.1 rfl
  exact hturn _ _ _ h

end Refused

end

/-- **Connection phases follow the protocol**, in every state that is reached without `start` being
called while a call of `shutdown` is in progress. -/
theorem connection_protocol {verifyTimeoutSeconds : ℕ} {p : ConnectorPool}
    {ls : List (ℕ × List ConnectorEvent)}
    (h : ConnectorSteps StartsApart verifyTimeoutSeconds (Pool.empty new) ls p) :
    FollowsProtocol verifyTimeoutSeconds p := by
  obtain ⟨θ, hθ⟩ := exists_atStages h
  refine ⟨fun i j ↦ hθ.alone, fun j task htask hpos ↦ ?_, fun i j j' ↦ hθ.verification_unique,
    fun j task htask hpos ↦ ?_, fun i j j' ↦ hθ.sync_unique, ?_⟩
  · obtain ⟨hle, hself⟩ : starts .verify task ≤ 1 ∧ _ := hθ.starts_le htask
    obtain ⟨v, hv⟩ := hself hpos
    exact ⟨by omega, hθ.ledToVerification htask hv⟩
  · obtain ⟨hle, hself⟩ : starts .sync task ≤ 1 ∧ _ := hθ.starts_le htask
    obtain ⟨s, hs⟩ := hself hpos
    exact ⟨by omega, hθ.ledToSync htask hs⟩
  · intro job t hsync hjob hunfinished i es p' task hfree hstep htask hprogram
    cases hstep with
    | turn htask' hwait hstep hrun => cases hfree.symm.trans htask'
    | @spawn _ c c' es s' _ hc hrun =>
      cases (Function.update_self ..).symm.trans htask
      cases hprogram
      have hstopping := stopping_of_startCall hrun
      have hcurrent : p.state.task job = some t := by
        rcases hθ.inv.current job t ⟨hjob, fun h ↦ (hsync h).elim⟩ hunfinished with ht | ⟨j, hj⟩
        · exact ht
        · obtain ⟨n, hn⟩ := Stage.call_of_held hj
          have hmem := hθ.inv.calls.call_open j n hn
          rw [hstopping] at hmem
          cases hmem
      obtain ⟨hrest, hstate⟩ := turn_startCall hsync hcurrent hunfinished _ _ _ hrun
      exact ⟨hrest, hstate, fun j hj ↦ Function.update_of_ne hj ..⟩

/-! ## A connection -/

/-- Answers where nothing goes wrong. -/
def smoothly : (q : ConnectorRequest) → Except Exn q.Val
  | .getTask _ => .ok none
  | .createTask _ => .ok (0 : ℕ)
  | .taskDone _ => .ok false
  | .isSyncRunning => .ok false
  | .releaseProfileLock => .ok true
  | .cleanupUnconfirmed => .ok false
  | .verifySession _ => .ok true
  | .shutdownCalled => .ok (0 : ℕ)
  | .startCalled => .ok ()
  | .shutdownEnded _ => .ok ()
  | .setLastStartBlockedBySync _ => .ok ()
  | .clearTask _ => .ok ()
  | .cancel _ => .ok ()
  | .awaitTask _ => .ok ()
  | .begin _ _ => .ok ()
  | .finish _ => .ok ()
  | .acquireProfileLock => .ok ()
  | .markProfileTeardownUnconfirmed => .ok ()
  | .openAndWait => .ok ()
  | .markLoginTeardownFailed _ => .ok ()
  | .runSync => .ok ()

/-- Answers where nothing goes wrong and `start` is not called while `shutdown` is in progress. -/
def smoothScript : Script ConnectorRequest.Val Exn SessionConnector
  | .startCalled, s => if s.stopping = [] then serve .startCalled (.ok ()) s else none
  | q, s => serve q (smoothly q) s

theorem smoothScript_step (q : ConnectorRequest) (s : SessionConnector) (a : Except Exn q.Val)
    (s' : SessionConnector) (h : smoothScript q s = some (a, s')) :
    (rulesWhere StartsApart).step s q a s' := by
  cases q with
  | startCalled =>
    rw [smoothScript] at h
    split at h
    · rename_i hstopping
      exact ⟨fun _ ↦ hstopping, .ok (), h⟩
    · cases h
  | _ => exact ⟨fun hq ↦ (by cases hq), smoothly _, h⟩

/-- A connection, from the click to the synchronization, with a second click in between. -/
def connection : List (Play ConnectorRequest.Val Exn (Option Bool)) :=
  [.spawn 0 startCall, .spawn 1 (taskCall 45 .login 0), .spawn 2 startCall, .turn 1,
    .spawn 3 (taskCall 45 .verify 1), .turn 3, .spawn 4 (taskCall 45 .sync 2), .turn 4]

theorem connection_startable {i : ℕ} {c : ConnectorCall (Option Bool)}
    (h : .spawn i c ∈ connection) : IsConnectorProgram 45 c := by
  simp only [connection, List.mem_cons, Play.spawn.injEq, List.not_mem_nil, or_false, reduceCtorEq,
    false_or] at h
  rcases h with ⟨-, rfl⟩ | ⟨-, rfl⟩ | ⟨-, rfl⟩ | ⟨-, rfl⟩ | ⟨-, rfl⟩
  · exact .start
  · exact .task .login 0
  · exact .start
  · exact .task .verify 1
  · exact .task .sync 2

/-- The first click leads to a verification and that to a synchronization, the second one does
not. -/
theorem connection_protocol_smooth : ∃ ls p,
    (Pool.empty new).play smoothScript suspends connection = some (ls, p) ∧
    FollowsProtocol 45 p ∧
    ((p.tasks 0).map Task.rest = some (.done (.ok (some true))) ∧
      (p.tasks 2).map Task.rest = some (.done (.ok (some false))) ∧
      (p.tasks 3).map (starts .verify) = some 1 ∧ (p.tasks 4).map (starts .sync) = some 1) := by
  have hplay : (Pool.empty new).play smoothScript suspends connection = some (_, _) := rfl
  exact ⟨_, _, hplay, connection_protocol (Pool.steps_of_play smoothScript_step
    (fun i c h ↦ connection_startable h) hplay), rfl, rfl, rfl, rfl⟩

end SessionConnector

end RmaPortal
