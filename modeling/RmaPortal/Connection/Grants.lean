import RmaPortal.Connection.Order
import RmaPortal.Connection.Places
import RmaPortal.SingleFlight.Execute

/-!
# What a granted connection may run into

`start` refuses a connection while a poll holds the lock of the queue, and that is meant to cover
the synchronization that the connector itself creates after a login.  It does not: between its
creation and its first turn such a synchronization holds nothing, and neither does one that waits
for a poll which has ended in the meantime.  `start` returns `True` beside a synchronization that
is `Dormant` in this way, and `grants_iff` says that there is no other way for a granted
connection to find a synchronization of the connector unfinished.

## What is here

* `turn_connector`, `turn_locked`, `turn_startCall` — a call of `start` is one turn; it returns
  `True` only if it has found the lock of the queue free, and what it has looked at does not
  change before it creates its login.
* `Grants` — the step is a call of `start` that returns `True`.
* `Quiet` — what such a call is meant to find: no synchronization that the connector has created
  is unfinished, and no poll holds the lock.
* `Dormant` — a synchronization that shows nowhere: it has been created and has not had its first
  turn, or it waits for a poll that has ended.  The condition is on the state before the call.
* `Sharing.waits` — a synchronization that has begun and is not done holds the lock itself, waits
  for a poll that does, or waits for one that has ended.
* `Sharing.quiet_iff` — a granted connection finds nothing if and only if no synchronization is
  dormant.
* `grants_iff` — this, for every run of the connector, the scheduler and manual refreshes, with
  any polls.
* `not_quiet_of_grants` — a click between the creation of a synchronization and its first turn,
  and `grants_iff_throughSync`, one after it is through.

What becomes of the two browsers that then want the same profile is not said here: one of them
finds the lock taken.
-/

set_option autoImplicit false

open Coroutine

namespace RmaPortal

open SingleFlight (Stage Calls Sound Step Steps)

namespace Application

open SharedQueue (Shape)

/-! ## A call of `start` -/

section Start

open SessionConnector (startCall isVerifying)

variable {executeOnce : Prog SyncResult} {s : Application} {α : Type}
  {Q : List ApplicationEvent → ApplicationCall α → Application → Prop}

/-- A request of the connector that is answered on the spot, in the only way it can be. -/
theorem turn_connector {q : ConnectorRequest} {a : Except Exn q.Val}
    {k : Except Exn q.Val → ApplicationCall α} {s₁ : SessionConnector}
    (hq : SessionConnector.suspends q = false)
    (hserve : ∀ b, SessionConnector.serve q b s.1 = some (a, s₁))
    (h : Turn rules suspends (k a) (s₁, s.2) fun t ↦ Q (⟨.inl q, a⟩ :: t)) :
    Turn rules suspends (.ask (.inl q) k) s Q := by
  refine turn_goes hq fun a' s' hstep ↦ ?_
  obtain ⟨⟨-, b, hb⟩, hsame⟩ := hstep
  obtain ⟨rfl, hs'⟩ := Prod.mk.inj (Option.some.inj ((hserve b).symm.trans hb))
  obtain rfl : s' = (s₁, s.2) := Prod.ext hs'.symm hsame
  exact h

/-- The lock of the queue is looked at on the spot. -/
theorem turn_locked {k : Except Exn Bool → ApplicationCall α}
    (h : Turn rules suspends (k (.ok s.2.locked)) s fun t ↦
      Q (⟨.inr .locked, .ok s.2.locked⟩ :: t)) :
    Turn rules suspends (.ask (.inr .locked) k) s Q := by
  refine turn_goes rfl fun a' s' hstep ↦ ?_
  obtain ⟨⟨b, hb⟩, hsame⟩ := hstep
  obtain ⟨rfl, hs'⟩ := Prod.mk.inj (Option.some.inj hb)
  obtain rfl : s' = s := Prod.ext hsame hs'.symm
  exact h

/-- A connection has been granted: a login has been created. -/
def granted (s : Application) : Application :=
  (SessionConnector.withNewTask { s.1 with lastStartBlockedBySync := false } .login, s.2)

/-- **`start` returns `True` only if the lock of the queue is free.** -/
theorem turn_startCall (s : Application) :
    Turn rules suspends (wired executeOnce startCall) s fun _ c s' ↦
      c = .done (.ok (some true)) → s.2.locked = false ∧ s' = granted s := by
  refine turn_connector rfl (fun _ ↦ rfl) (turn_connector rfl (fun _ ↦ rfl) ?_)
  -- the lock is looked at if neither a login nor a verification is going on
  have hlock : Turn rules suspends (wired executeOnce (do
      let started ← (do
        if ← SessionConnector.request .isSyncRunning then
          SessionConnector.request (.setLastStartBlockedBySync true)
          pure false
        else
          let _ ← SessionConnector.request (.createTask .login)
          pure true : ConnectorCall Bool)
      pure (some started))) ({ s.1 with lastStartBlockedBySync := false }, s.2) fun _ c s' ↦
        c = .done (.ok (some true)) → s.2.locked = false ∧ s' = granted s := by
    refine turn_locked ?_
    cases hlocked : s.2.locked with
    | false => exact turn_connector rfl (fun _ ↦ rfl) (turn_done fun _ ↦ ⟨rfl, rfl⟩)
    | true => exact turn_connector rfl (fun _ ↦ rfl) (turn_done nofun)
  have hverify : Turn rules suspends (wired executeOnce (do
      let started ← (do
        if ← isVerifying then pure false
        else if ← SessionConnector.request .isSyncRunning then
          SessionConnector.request (.setLastStartBlockedBySync true)
          pure false
        else
          let _ ← SessionConnector.request (.createTask .login)
          pure true : ConnectorCall Bool)
      pure (some started))) ({ s.1 with lastStartBlockedBySync := false }, s.2) fun _ c s' ↦
        c = .done (.ok (some true)) → s.2.locked = false ∧ s' = granted s := by
    refine turn_connector rfl (fun _ ↦ rfl) ?_
    cases s.1.task .verify with
    | none => exact hlock
    | some v =>
      refine turn_connector rfl (fun _ ↦ rfl) ?_
      cases s.1.finished v with
      | false => exact turn_done nofun
      | true => exact hlock
  refine turn_connector rfl (fun _ ↦ rfl) ?_
  cases s.1.task .login with
  | none => exact hverify
  | some l =>
    refine turn_connector rfl (fun _ ↦ rfl) ?_
    cases s.1.finished l with
    | false => exact turn_done nofun
    | true => exact hverify

end Start

/-! ## Granted connections -/

section Grants

variable (executeOnce : Prog SyncResult) (verifyTimeoutSeconds : ℕ)

/-- The step is a call of `start` that returns `True`. -/
def Grants (p : ApplicationPool) (l : ℕ × List ApplicationEvent) (p' : ApplicationPool) : Prop :=
  p.tasks l.1 = none ∧ ∃ task, p'.tasks l.1 = some task ∧
    task.program = wired executeOnce SessionConnector.startCall ∧
    task.rest = .done (.ok (some true))

/-- No synchronization that the connector has created is unfinished, and no poll holds the lock of
the queue. -/
def Quiet (s : Application) : Prop :=
  (∀ t, s.1.job t = some .sync → s.1.finished t = true) ∧ s.2.locked = false

/-- **The task `t` is a synchronization that shows nowhere**: it is not done, but either it has not
begun yet, or it waits for a poll that has ended already. -/
def Dormant (p : ApplicationPool) (t : TaskId) : Prop :=
  p.state.1.job t = some .sync ∧ p.state.1.finished t = false ∧
    (p.state.1.begun t = false ∨ ∃ i task f k, p.tasks i = some task ∧
      task.program = wired executeOnce (SessionConnector.taskCall verifyTimeoutSeconds .sync t) ∧
      task.rest = .ask (.inr (.awaitFuture f)) k ∧ (p.state.2.outcome f).isSome = true)

/-- The runs in which `R` holds of the state before each call of `start` that returns `True` and of
the one after it. -/
abbrev GrantsWhere (R : ApplicationPool → ApplicationPool → Prop) (p : ApplicationPool)
    (ls : List (ℕ × List ApplicationEvent)) (q : ApplicationPool) : Prop :=
  Pool.StepsWhere rules suspends (IsProgram executeOnce verifyTimeoutSeconds)
    (fun p l p' ↦ Grants executeOnce p l p' → R p p') p ls q

variable {executeOnce verifyTimeoutSeconds} {p p' : ApplicationPool}
  {calls : Calls (Except Exn SyncResult)} {n : ℕ} {place : ℕ → Option (ℕ × Option TaskId)}
  {l : ℕ × List ApplicationEvent} {t : TaskId}

/-- What a call of `start` that returns `True` has found, and what it has done. -/
theorem Grants.state (h : Grants executeOnce p l p')
    (hstep : ApplicationStep executeOnce verifyTimeoutSeconds p l p') :
    p.state.2.locked = false ∧ p'.state = granted p.state := by
  obtain ⟨hfree, task, htask, hprogram, hrest⟩ := h
  cases hstep with
  | turn htask' => cases hfree.symm.trans htask'
  | spawn _ hc hrun =>
    cases (Function.update_self ..).symm.trans htask
    dsimp only at hprogram hrest
    subst hprogram hrest
    exact turn_startCall p.state _ _ _ hrun rfl

/-- **A synchronization that has begun and is not done** holds the lock itself, waits for a poll
that does, or waits for a poll that has ended. -/
theorem Sharing.waits (h : Sharing executeOnce verifyTimeoutSeconds p calls n place)
    (ht : p.state.1.Running t) (hlocked : p.state.2.locked = false) :
    ∃ i task f k, p.tasks i = some task ∧
      task.program = wired executeOnce (SessionConnector.taskCall verifyTimeoutSeconds .sync t) ∧
      task.rest = .ask (.inr (.awaitFuture f)) k ∧ (p.state.2.outcome f).isSome = true := by
  obtain ⟨hsound, hreflects, -⟩ := h.shared
  -- nobody leads a poll, since the lock is free
  have hidle : ∀ {j f}, calls j ≠ some (.leads f) := by
    intro j f hj
    have hinflight := (hreflects.inflight f).mpr ⟨j, hj⟩
    have hlock := hreflects.locked
    rw [hinflight, hlocked] at hlock
    cases hlock
  obtain ⟨i, j, hplace⟩ := h.running t ht
  obtain ⟨task, htask⟩ := Option.ne_none_iff_exists'.mp fun hnone ↦
    Option.some_ne_none _ (hplace.symm.trans (h.unused i hnone))
  have hpoint := h.point i task htask
  refine ⟨i, task, ?_⟩
  generalize task.rest = rest at hpoint ⊢
  rw [hplace] at hpoint
  cases hpoint with
  | @inside _ _ x es q k f hj hshape hf hsync =>
    generalize hc : Coro.ask q k = c at hshape
    cases hshape with
    | leads f => exact (hidle hj).elim
    | joins f =>
      cases hc
      refine ⟨f, _, htask, h.program i task j t htask hplace, rfl, ?_⟩
      obtain ⟨j', y, hj', hleader, hrun⟩ := hsound.exists_leader hj
      cases y with
      | leads g => exact (hidle hj').elim
      | led g o =>
        obtain rfl : g = f := hrun
        rw [(hreflects.outcome g o).mpr ⟨j', hj'⟩]
        rfl
      | _ => exact hleader.elim
    | _ => cases hc

/-- **What a granted connection finds**: nothing if and only if no synchronization is dormant. -/
theorem Sharing.quiet_iff (h : Sharing executeOnce verifyTimeoutSeconds p calls n place)
    (hgrants : Grants executeOnce p l p')
    (hstep : ApplicationStep executeOnce verifyTimeoutSeconds p l p') :
    Quiet p'.state ↔ ∀ t, ¬Dormant executeOnce verifyTimeoutSeconds p t := by
  obtain ⟨hlocked, hstate⟩ := hgrants.state hstep
  rw [hstate]
  constructor
  · rintro ⟨hfinished, -⟩ t ⟨hjob, hunfinished, -⟩
    have hne : t ≠ p.state.1.nextTask := by
      rintro rfl
      cases hjob.symm.trans (h.fresh _ le_rfl).1
    cases hunfinished.symm.trans (hfinished t ((Function.update_of_ne hne ..).trans hjob))
  · refine fun hdormant ↦ ⟨fun t hjob ↦ ?_, hlocked⟩
    by_contra hunfinished
    have hne : t ≠ p.state.1.nextTask := by
      rintro rfl
      cases (Function.update_self ..).symm.trans hjob
    have hjob' : p.state.1.job t = some .sync := (Function.update_of_ne hne ..).symm.trans hjob
    have hunfinished' : p.state.1.finished t = false := Bool.eq_false_iff.mpr hunfinished
    cases hbegun : p.state.1.begun t with
    | false => exact hdormant t ⟨hjob', hunfinished', .inl hbegun⟩
    | true =>
      have hrunning : p.state.1.Running t := ⟨hjob', hbegun, hunfinished'⟩
      exact hdormant t ⟨hjob', hunfinished', .inr (h.waits hrunning hlocked)⟩

/-- **A granted connection is not doomed by the connector's own synchronization if and only if none
was dormant** when `start` was called: so it is for each such call in each run, and so it is for
runs as a whole. -/
theorem grants_iff :
    (∀ ls p l p', ApplicationSteps executeOnce verifyTimeoutSeconds (Pool.empty built) ls p →
      ApplicationStep executeOnce verifyTimeoutSeconds p l p' → Grants executeOnce p l p' →
      (Quiet p'.state ↔ ∀ t, ¬Dormant executeOnce verifyTimeoutSeconds p t)) ∧
    ∀ ls q, GrantsWhere executeOnce verifyTimeoutSeconds (fun _ p' ↦ Quiet p'.state)
        (Pool.empty built) ls q ↔
      GrantsWhere executeOnce verifyTimeoutSeconds
        (fun p _ ↦ ∀ t, ¬Dormant executeOnce verifyTimeoutSeconds p t) (Pool.empty built) ls q := by
  have hiff : ∀ ls p l p',
      ApplicationSteps executeOnce verifyTimeoutSeconds (Pool.empty built) ls p →
      ApplicationStep executeOnce verifyTimeoutSeconds p l p' → Grants executeOnce p l p' →
      (Quiet p'.state ↔ ∀ t, ¬Dormant executeOnce verifyTimeoutSeconds p t) := by
    intro ls p l p' hsteps hstep hgrants
    obtain ⟨calls, n, place, hsharing⟩ := exists_sharing hsteps
    exact hsharing.quiet_iff hgrants hstep
  refine ⟨hiff, fun ls q ↦ ⟨fun h ↦ h.mono ?_, fun h ↦ h.mono ?_⟩⟩
  · exact fun ks p l p' hsteps hstep hR hgrants ↦
      (hiff ks p l p' hsteps hstep hgrants).mp (hR hgrants)
  · exact fun ks p l p' hsteps hstep hR hgrants ↦
      (hiff ks p l p' hsteps hstep hgrants).mpr (hR hgrants)

end Grants

/-! ## A click at the wrong moment -/

section Clicks

open SessionConnector (startCall taskCall smoothly)
open SharedQueue (readOnly undisturbed)

/-- Nothing goes wrong. -/
def routinely : Script ApplicationRequest.Val Exn Application
  | .inl q, s => (SessionConnector.serve q (smoothly q) s.1).map fun x ↦ (x.1, x.2, s.2)
  | .inr q, s => (SharedQueue.serve q (undisturbed q) s.2).map fun x ↦ (x.1, s.1, x.2)

theorem routinely_step (r : ApplicationRequest) (s : Application) (a : Except Exn r.Val)
    (s' : Application) (h : routinely r s = some (a, s')) : rules.step s r a s' := by
  cases r with
  | inl q =>
    obtain ⟨⟨a', s₁⟩, hx, h⟩ := Option.map_eq_some_iff.mp h
    cases h
    exact ⟨⟨trivial, smoothly q, hx⟩, rfl⟩
  | inr q =>
    obtain ⟨⟨a', s₁⟩, hx, h⟩ := Option.map_eq_some_iff.mp h
    cases h
    exact ⟨⟨undisturbed q, hx⟩, rfl⟩

/-- A connection, until it has created its synchronization. -/
def untilSync : List (Play ApplicationRequest.Val Exn (Option Bool)) :=
  [.spawn 0 (wired readOnly startCall), .spawn 1 (wired readOnly (taskCall 45 .login 0)), .turn 1,
    .spawn 2 (wired readOnly (taskCall 45 .verify 1)), .turn 2]

/-- … and until that is done. -/
def throughSync : List (Play ApplicationRequest.Val Exn (Option Bool)) :=
  untilSync ++ [.spawn 3 (wired readOnly (taskCall 45 .sync 2)), .turn 3]

theorem throughSync_startable {i : ℕ} {c : ApplicationCall (Option Bool)}
    (h : .spawn i c ∈ throughSync) : IsProgram readOnly 45 c := by
  simp only [throughSync, untilSync, List.cons_append, List.nil_append, List.mem_cons,
    Play.spawn.injEq, List.not_mem_nil, or_false, reduceCtorEq, false_or] at h
  rcases h with ⟨-, rfl⟩ | ⟨-, rfl⟩ | ⟨-, rfl⟩ | ⟨-, rfl⟩
  · exact .connector .start
  · exact .connector (.task .login 0)
  · exact .connector (.task .verify 1)
  · exact .connector (.task .sync 2)

/-- A click that is played after a run. -/
theorem exists_click {ms : List (Play ApplicationRequest.Val Exn (Option Bool))}
    (hms : ∀ i c, .spawn i c ∈ ms → IsProgram readOnly 45 c)
    {x : List (ℕ × List ApplicationEvent) × ApplicationPool}
    (hplay : (Pool.empty built).play routinely suspends ms = some x) {i : ℕ}
    {es : List ApplicationEvent} {s' : Application} (hfree : x.2.tasks i = none)
    (hstart : settleBy routinely suspends (wired readOnly startCall) x.2.state =
      some (es, .done (.ok (some true)), s')) :
    ApplicationSteps readOnly 45 (Pool.empty built) x.1 x.2 ∧ ∃ p',
      ApplicationStep readOnly 45 x.2 (i, es) p' ∧ Grants readOnly x.2 (i, es) p' ∧
        p'.state = s' := by
  have hstep : ApplicationStep readOnly 45 x.2 (i, es) _ :=
    .spawn hfree (.connector .start) (settle_of_settleBy routinely_step hstart)
  exact ⟨Pool.steps_of_play routinely_step hms hplay, _, hstep,
    ⟨hfree, _, Function.update_self .., rfl, rfl⟩, rfl⟩

/-- **A connection is granted although a synchronization has been triggered**: the click comes after
the synchronization has been created and before its first turn. -/
theorem not_quiet_of_grants : ¬∀ ls p l p',
    ApplicationSteps readOnly 45 (Pool.empty built) ls p →
      ApplicationStep readOnly 45 p l p' → Grants readOnly p l p' → Quiet p'.state := by
  intro h
  have hplay : (Pool.empty built).play routinely suspends untilSync = some (_, _) := rfl
  obtain ⟨hsteps, p', hstep, hgrants, hstate⟩ := exists_click
    (fun i c hc ↦ throughSync_startable (List.mem_append_left _ hc)) hplay (i := 3) rfl rfl
  have hquiet := h _ _ _ _ hsteps hstep hgrants
  have hfinished := hquiet.1 2
  rw [hstate] at hfinished
  cases hfinished rfl

/-- After the synchronization nothing is in the way of the next connection. -/
theorem grants_iff_throughSync : ∃ ls p l p',
    ApplicationSteps readOnly 45 (Pool.empty built) ls p ∧ ApplicationStep readOnly 45 p l p' ∧
      Grants readOnly p l p' ∧ Quiet p'.state := by
  have hplay : (Pool.empty built).play routinely suspends throughSync = some (_, _) := rfl
  obtain ⟨hsteps, p', hstep, hgrants, hstate⟩ := exists_click
    (fun i c hc ↦ throughSync_startable hc) hplay (i := 4) rfl rfl
  refine ⟨_, _, _, _, hsteps, hstep, hgrants, ?_⟩
  refine (grants_iff.1 _ _ _ _ hsteps hstep hgrants).mpr ?_
  rintro t ⟨hjob, hunfinished, -⟩
  -- the task 2 is the only synchronization
  change Function.update (Function.update (Function.update (fun _ ↦ none) 0 (some .login)) 1
    (some .verify)) 2 (some .sync) t = some ConnectorJob.sync at hjob
  simp only [Function.update_apply] at hjob
  split at hjob
  · rename_i ht
    subst ht
    cases hunfinished
  · split at hjob
    · cases hjob
    · split at hjob <;> cases hjob

end Clicks

end Application

end RmaPortal
