import RmaPortal.SingleFlight.Turns

/-!
# Calls of `execute` share one poll

Any number of tasks call `execute`, in any order and in any interleaving, and any of them may be
cancelled whenever it waits.  `Follows` finds the stage of every call in a pool of such tasks;
`Follows.step` is one turn of one of them, and `single_flight` says what the calls have in common
in every state that can be reached.

That two polls never overlap is read off the trace: `watch` goes through the events and keeps
track of the task that is in the middle of a poll.

## What is here

* `CallPool`, `PoolStep`, `PoolSteps` — tasks that call `execute`, with any poll in it.  Nothing
  is assumed of the poll: it may raise, be cancelled, or never end.
* `Shape.called_iff`, `Shape.ended_iff` — what the history of a call says about its stage: it has
  called `_execute_once` if and only if it leads, and the poll has ended if and only if it has led
  one.
* `Follows` — the calls of a pool are those of the abstract single flight of `Data.SingleFlight`,
  and what is shared in the process, the lock, `_inflight` and the futures, reflects where they
  have got to.  `Follows.step` is the simulation: one turn of one task is a move of its call, or
  of none.
* `watch` and `exists_watch` — who is in the middle of a poll, from the events of all tasks in the
  order in which they happened; `none` if a poll begins or ends when it must not.  In no run does
  it come to that.
* `SharesOnePoll` — what the claim comes to: two polls never overlap; the lock is held exactly
  while `_inflight` is set, and that is while some call is in the middle of a poll; who comes
  meanwhile joins the poll, ends like it unless cancelled itself, and can end once the poll has; a
  cancelled joiner changes nothing for the others; and however a poll ends, the next call begins a
  new one.
* `single_flight` — all of this, after any turns of any tasks.
* `single_flight_twoCalls` — two calls share a poll, and both end with its result.

A joiner that is resumed with the exception of the future is a matter for whoever has made the
call; what this does to the loop of the scheduler is in `SingleFlight.Scheduler`.
-/

set_option autoImplicit false

open Coroutine

namespace RmaPortal

open SingleFlight (Stage Calls Sound Step Steps)

namespace SharedQueue

/-- A call of `execute`, with any poll. -/
def IsCall (c : Call SyncResult) : Prop := ∃ executeOnce, c = execute executeOnce

/-- Tasks that call `execute`. -/
abbrev CallPool : Type := Pool CallRequest.Val Exn SyncResult SharedQueue

/-- One turn of one of the tasks. -/
abbrev PoolStep : CallPool → ℕ × List CallEvent → CallPool → Prop :=
  Pool.Step rules suspends IsCall

/-- Any number of turns. -/
abbrev PoolSteps : CallPool → List (ℕ × List CallEvent) → CallPool → Prop :=
  Pool.Steps rules suspends IsCall

/-- `_execute_once` was called. -/
def calledEvent : CallEvent := ⟨.executeOnceCalled, .ok ()⟩

/-- `_execute_once` has ended with `o`. -/
def endedEvent (o : Except Exn SyncResult) : CallEvent := ⟨.executeOnceEnded o, .ok ()⟩

/-- The task `i` is in the middle of a poll. -/
def Running (p : CallPool) (i : ℕ) : Prop :=
  ∃ task, p.tasks i = some task ∧ calledEvent ∈ task.history ∧ ∀ o, endedEvent o ∉ task.history

/-- The task was cancelled while it waited for the poll of another one. -/
def CancelledWaiting (history : List CallEvent) : Prop :=
  ∃ f e, ⟨.awaitFuture f, .error e⟩ ∈ history

/-! ## What the history of a call says -/

section Histories

variable {c : Prog SyncResult} {x : Stage (Except Exn SyncResult)} {t : List CallEvent}
  {rest : Call SyncResult}

theorem endedEvent_notMem_noted (o : Except Exn SyncResult) (t : List Happening) :
    endedEvent o ∉ t.map noted := by
  simp [endedEvent, noted]

theorem calledEvent_mem_leadEvents (f : FutureId) : calledEvent ∈ leadEvents f := by
  simp [calledEvent, leadEvents]

theorem endedEvent_mem_endEvents {f : FutureId} {o o' : Except Exn SyncResult} :
    endedEvent o ∈ endEvents f o' ↔ o = o' := by
  cases o' <;> simp [endedEvent, endEvents, publishEvents]

/-- A call has called `_execute_once` if and only if it leads. -/
theorem Shape.called_iff (h : Shape c x t rest) : calledEvent ∈ t ↔ x.IsLeader := by
  cases h with
  | leads f => simp [calledEvent_mem_leadEvents, Stage.IsLeader]
  | led f => simp [calledEvent_mem_leadEvents, Stage.IsLeader]
  | joins f => simp [calledEvent, joinEvents, Stage.IsLeader]
  | joined f o => simp [calledEvent, joinEvents, Stage.IsLeader]
  | left f => simp [calledEvent, joinEvents, Stage.IsLeader]

/-- Its poll has ended if and only if it has led one. -/
theorem Shape.ended_iff (h : Shape c x t rest) (o : Except Exn SyncResult) :
    endedEvent o ∈ t ↔ ∃ f, x = .led f o := by
  cases h with
  | leads f =>
    simp only [List.mem_append, endedEvent_notMem_noted, or_false, reduceCtorEq, exists_false,
      iff_false]
    simp [endedEvent, leadEvents]
  | led f =>
    simp only [List.mem_append, endedEvent_notMem_noted, or_false, endedEvent_mem_endEvents]
    simp [endedEvent, leadEvents, eq_comm]
  | joins f => simp [endedEvent, joinEvents]
  | joined f o => simp [endedEvent, joinEvents]
  | left f => simp [endedEvent, joinEvents]

end Histories

/-! ## The stages of a pool -/

/-- The calls of a pool, and where they have got to. -/
structure Follows (p : CallPool) (calls : Calls (Except Exn SyncResult)) : Prop where
  /-- The calls are those of a single flight. -/
  sound : Sound calls
  /-- What is shared keeps up with them. -/
  reflects : Reflects p.state calls
  /-- What has not been started has not been called. -/
  unused : ∀ i, p.tasks i = none → calls i = none
  /-- Every task is at a point of a call. -/
  task : ∀ i task, p.tasks i = some task →
    ∃ c x, task.program = execute c ∧ calls i = some x ∧ Shape c x task.history task.rest

section Follows

variable {p p' : CallPool} {calls : Calls (Except Exn SyncResult)} {i : ℕ} {es : List CallEvent}

theorem follows_empty : Follows (Pool.empty start) fun _ ↦ none where
  sound := .start
  reflects := reflects_start
  unused := by simp
  task := by simp [Pool.empty]

/-- Moving one call leaves the others where they were. -/
theorem Follows.update (h : Follows p calls) {s' : SharedQueue} {c : Prog SyncResult}
    {x : Stage (Except Exn SyncResult)} {task : Task CallRequest.Val Exn SyncResult}
    (hmove : Move p.state (calls i) es s' x) (hprogram : task.program = execute c)
    (hshape : Shape c x task.history task.rest) :
    Follows ⟨s', Function.update p.tasks i (some task)⟩ (Function.update calls i (some x)) := by
  obtain ⟨hsteps, hreflects⟩ := hmove.steps h.reflects h.sound
  refine ⟨h.sound.steps hsteps, hreflects, fun j hj ↦ ?_, fun j task' hj ↦ ?_⟩ <;> dsimp only at hj
  · by_cases hji : j = i
    · simp [hji] at hj
    · rw [Function.update_of_ne hji] at hj ⊢
      exact h.unused j hj
  · by_cases hji : j = i
    · subst hji
      rw [Function.update_self] at hj ⊢
      cases hj
      exact ⟨c, x, hprogram, rfl, hshape⟩
    · rw [Function.update_of_ne hji] at hj ⊢
      exact h.task j task' hj

/-- **One turn of one task** is a move of its call. -/
theorem Follows.step (h : Follows p calls) {l : ℕ × List CallEvent} (hstep : PoolStep p l p') :
    ∃ x, Move p.state (calls l.1) l.2 p'.state x ∧
      Follows p' (Function.update calls l.1 (some x)) ∧
      ∀ j, j ≠ l.1 → p'.tasks j = p.tasks j := by
  cases hstep with
  | @spawn i c₀ c' t s' hfree hc hrun =>
    obtain ⟨c, rfl⟩ := hc
    obtain ⟨x, hmove, hshape⟩ := turn_execute h.reflects h.sound c _ _ _ hrun
    rw [← h.unused i hfree] at hmove
    exact ⟨x, hmove, h.update hmove rfl hshape, fun j hj ↦ Function.update_of_ne hj ..⟩
  | @turn i task r k a c' t s₁ s' htask hwait hstep hrun =>
    obtain ⟨c, x, hprogram, hx, hshape⟩ := h.task i task htask
    rw [hwait] at hshape
    obtain ⟨y, hmove, hshape'⟩ := hshape.resume hx h.reflects h.sound hstep _ _ _ hrun
    rw [← hx] at hmove
    exact ⟨y, hmove, h.update hmove hprogram hshape', fun j hj ↦ Function.update_of_ne hj ..⟩

theorem Follows.steps (h : Follows p calls) {ls : List (ℕ × List CallEvent)}
    (hsteps : PoolSteps p ls p') : ∃ calls', Follows p' calls' ∧ Steps calls calls' := by
  induction hsteps with
  | refl => exact ⟨calls, h, .refl⟩
  | @tail q r ls l _ hstep ih =>
    obtain ⟨calls', h', hcalls⟩ := ih
    obtain ⟨x, hmove, hfollows, -⟩ := h'.step hstep
    exact ⟨_, hfollows, hcalls.trans (hmove.steps h'.reflects h'.sound).1⟩

/-- A task is in the middle of a poll if and only if its call leads. -/
theorem Follows.running_iff (h : Follows p calls) (i : ℕ) :
    Running p i ↔ ∃ f, calls i = some (.leads f) := by
  constructor
  · rintro ⟨task, htask, hcalled, hended⟩
    obtain ⟨c, x, -, hx, hshape⟩ := h.task i task htask
    have hleader := hshape.called_iff.mp hcalled
    cases x with
    | leads f => exact ⟨f, hx⟩
    | led f o => exact (hended o ((hshape.ended_iff o).mpr ⟨f, rfl⟩)).elim
    | _ => exact hleader.elim
  · rintro ⟨f, hf⟩
    cases htask : p.tasks i with
    | none => cases (h.unused i htask).symm.trans hf
    | some task =>
      obtain ⟨c, x, -, hx, hshape⟩ := h.task i task htask
      obtain rfl := Option.some.inj (hx.symm.trans hf)
      refine ⟨task, htask, hshape.called_iff.mpr trivial, fun o ho ↦ ?_⟩
      obtain ⟨g, hg⟩ := (hshape.ended_iff o).mp ho
      cases hg

end Follows

/-! ## Polls do not overlap -/

/-- The events of all tasks, in the order in which they happened. -/
def timeline (ls : List (ℕ × List CallEvent)) : List (ℕ × CallEvent) :=
  ls.flatMap fun l ↦ l.2.map fun e ↦ (l.1, e)

/-- Who is in the middle of a poll after some events; `none` if a poll begins or ends when it
must not. -/
def watch : Option ℕ → List (ℕ × CallEvent) → Option (Option ℕ)
  | r, [] => some r
  | r, (i, ⟨.executeOnceCalled, .ok ()⟩) :: t => if r = none then watch (some i) t else none
  | r, (i, ⟨.executeOnceEnded _, .ok ()⟩) :: t => if r = some i then watch none t else none
  | r, _ :: t => watch r t

/-- `r` is the task whose call leads. -/
def AtWork (calls : Calls (Except Exn SyncResult)) (r : Option ℕ) : Prop :=
  ∀ i, r = some i ↔ ∃ f, calls i = some (.leads f)

section Watch

variable {s s' : SharedQueue} {calls : Calls (Except Exn SyncResult)} {i j : ℕ} {r : Option ℕ}
  {es : List CallEvent} {x : Stage (Except Exn SyncResult)}

theorem watch_append (r : Option ℕ) (t t' : List (ℕ × CallEvent)) :
    watch r (t ++ t') = (watch r t).bind fun r ↦ watch r t' := by
  fun_induction watch r t with
  | case1 r => rfl
  | case2 i t ih => simp [watch, ih]
  | case3 r i t h => simp [watch, h]
  | case4 i o t ih => simp [watch, ih]
  | case5 r i o t h => simp [watch, h]
  | case6 r e t h h' ih =>
    rw [List.cons_append, watch, ih]
    · exact h
    · exact h'

theorem watch_noted (r : Option ℕ) (t : List Happening) :
    watch r ((t.map noted).map fun e ↦ (i, e)) = some r := by
  induction t with
  | nil => rfl
  | cons e t ih => simpa [noted, watch] using ih

theorem watch_leadEvents (f : FutureId) :
    watch none ((leadEvents f).map fun e ↦ (i, e)) = some (some i) := rfl

theorem watch_endEvents (f : FutureId) (o : Except Exn SyncResult) :
    watch (some i) ((endEvents f o).map fun e ↦ (i, e)) = some none := by
  cases o <;> simp [endEvents, publishEvents, watch]

/-- A poll begins only after the one before it has ended. -/
theorem exists_ended_of_watch {b c : List (ℕ × CallEvent)}
    (h : watch (some i) (b ++ (j, calledEvent) :: c) = some r) : ∃ o, (i, endedEvent o) ∈ b := by
  induction b with
  | nil => simp [watch, calledEvent] at h
  | cons e b ih =>
    rw [List.cons_append] at h
    generalize ht : e :: (b ++ (j, calledEvent) :: c) = t at h
    rw [watch.eq_def] at h
    split at h
    · cases ht
    · simp at h
    · rename_i k o t'
      obtain ⟨rfl, -⟩ := List.cons.inj ht
      by_cases hk : some i = some k
      · cases hk
        exact ⟨o, by simp [endedEvent]⟩
      · rw [if_neg hk] at h
        cases h
    · obtain ⟨-, rfl⟩ := List.cons.inj ht
      obtain ⟨o, ho⟩ := ih h
      exact ⟨o, List.mem_cons_of_mem _ ho⟩

/-- A call that neither leads before its turn nor after it is not at work. -/
theorem AtWork.follow (h : AtWork calls r) (hx : ∀ f, x ≠ .leads f)
    (hi : ∀ f, calls i ≠ some (.leads f)) : AtWork (Function.update calls i (some x)) r := by
  intro j
  rw [h j]
  refine exists_congr fun f ↦ ?_
  rw [SingleFlight.update_eq_some]
  constructor
  · intro hj
    exact .inr ⟨fun hji ↦ hi f (hji ▸ hj), hj⟩
  · rintro (⟨-, hf⟩ | ⟨-, hj⟩)
    · exact (hx f hf).elim
    · exact hj

/-- Nobody is at work once the call that led has ended. -/
theorem atWork_none (h : ∀ j f, j ≠ i → calls j ≠ some (.leads f)) (hx : ∀ f, x ≠ .leads f) :
    AtWork (Function.update calls i (some x)) none := by
  intro j
  constructor
  · rintro ⟨⟩
  · rintro ⟨f, hj⟩
    rcases SingleFlight.update_eq_some.mp hj with ⟨-, hf⟩ | ⟨hne, hj⟩
    · exact (hx f hf).elim
    · exact (h j f hne hj).elim

/-- **In one turn** a poll begins only if nobody is at work. -/
theorem Move.watch (h : Move s (calls i) es s' x) (hs : Reflects s calls) (hsound : Sound calls)
    (hr : AtWork calls r) :
    ∃ r', SharedQueue.watch r (es.map fun e ↦ (i, e)) = some r' ∧
      AtWork (Function.update calls i (some x)) r' := by
  have hnobody (hidle : s.inflight = none) : r = none := by
    refine Option.eq_none_iff_forall_ne_some.mpr fun j hj ↦ ?_
    obtain ⟨f, hf⟩ := (hr j).mp hj
    exact hs.idle hidle j f hf
  generalize hi : calls i = y at h
  cases h with
  | join hinflight => exact ⟨r, rfl, hr.follow (by simp) (by simp [hi])⟩
  | lead t hidle =>
    obtain rfl := hnobody hidle
    refine ⟨some i, ?_, fun j ↦ ?_⟩
    · rw [List.map_append, watch_append, watch_leadEvents]
      exact watch_noted _ t
    · constructor
      · rintro ⟨⟩
        exact ⟨_, Function.update_self ..⟩
      · rintro ⟨f, hj⟩
        rcases SingleFlight.update_eq_some.mp hj with ⟨rfl, -⟩ | ⟨-, hj⟩
        · rfl
        · exact (hs.idle hidle j f hj).elim
  | leadAndFinish t o hidle =>
    obtain rfl := hnobody hidle
    refine ⟨none, ?_, atWork_none (fun j f _ ↦ hs.idle hidle j f) (by simp)⟩
    rw [List.map_append, List.map_append, watch_append, watch_append, watch_leadEvents,
      Option.bind_some, watch_noted]
    exact watch_endEvents _ o
  | work f t =>
    rw [← hi, Function.update_eq_self]
    exact ⟨r, watch_noted r t, hr⟩
  | finish f t o =>
    obtain rfl := (hr i).mpr ⟨f, hi⟩
    refine ⟨none, ?_, atWork_none (fun j g hne hj ↦ hne (hsound.leads_unique hj hi)) (by simp)⟩
    rw [List.map_append, watch_append, watch_noted]
    exact watch_endEvents f o
  | deliver houtcome => exact ⟨r, rfl, hr.follow (by simp) (by simp [hi])⟩
  | leave f => exact ⟨r, rfl, hr.follow (by simp) (by simp [hi])⟩

/-- **In a whole run** the events keep track of who is at work. -/
theorem exists_watch {p : CallPool} {ls : List (ℕ × List CallEvent)}
    (h : PoolSteps (Pool.empty start) ls p) :
    ∃ calls r, Follows p calls ∧ watch none (timeline ls) = some r ∧ AtWork calls r := by
  generalize hp₀ : (Pool.empty start : CallPool) = p₀ at h
  induction h with
  | refl =>
    subst hp₀
    exact ⟨_, none, follows_empty, rfl, by simp [AtWork]⟩
  | @tail q p' ls l _ hstep ih =>
    obtain ⟨calls, r, hfollows, hwatch, hr⟩ := ih
    obtain ⟨x, hmove, hfollows', -⟩ := hfollows.step hstep
    obtain ⟨r', hwatch', hr'⟩ := hmove.watch hfollows.reflects hfollows.sound hr
    refine ⟨_, r', hfollows', ?_, hr'⟩
    rw [timeline, List.flatMap_append, watch_append]
    change (watch none (timeline ls)).bind _ = _
    rw [hwatch]
    simpa using hwatch'

end Watch

/-! ## Single flight -/

/-- **Calls of `execute` share one poll**: what holds of a pool `p` of calls after the turns
`ls`. -/
structure SharesOnePoll (ls : List (ℕ × List CallEvent)) (p : CallPool) : Prop where
  /-- Of two polls the one that began first has ended before the other one begins. -/
  never_overlap : ∀ a i b j c,
    timeline ls = a ++ (i, calledEvent) :: (b ++ (j, calledEvent) :: c) →
      ∃ o, (i, endedEvent o) ∈ b
  /-- The lock is held if and only if `_inflight` is set … -/
  locked_iff : p.state.locked = true ↔ p.state.inflight.isSome = true
  /-- … and that is if and only if some call is in the middle of a poll. -/
  inflight_iff : p.state.inflight.isSome = true ↔ ∃ i, Running p i
  /-- A call `i` that is made while `j` is in the middle of a poll begins no poll of its own.  If it
  ends, it ends like that poll, unless it is cancelled itself; and once the poll has ended, it can
  end. -/
  join : ∀ i j es p', Running p j → p.tasks i = none → PoolStep p (i, es) p' →
    ∀ ms q, PoolSteps p' ms q → ∃ task leader, q.tasks i = some task ∧ q.tasks j = some leader ∧
      calledEvent ∉ task.history ∧
      (∀ o, task.rest = .done o → endedEvent o ∈ leader.history ∨
        CancelledWaiting task.history ∧ o = .error taskCancelled) ∧
      ∀ o, endedEvent o ∈ leader.history → (∃ o', task.rest = .done o') ∨
        ∃ es' q' task', PoolStep q (i, es') q' ∧ q'.tasks i = some task' ∧ task'.rest = .done o
  /-- Cancelling a call that waits for the poll of another one changes nothing else. -/
  cancel : ∀ i es p' f e, PoolStep p (i, es) p' → ⟨.awaitFuture f, .error e⟩ ∈ es →
    p'.state = p.state ∧ ∀ j, j ≠ i → p'.tasks j = p.tasks j
  /-- However a poll ends, the lock is free after it and `_inflight` is cleared … -/
  ended : ∀ i es p' o, PoolStep p (i, es) p' → endedEvent o ∈ es →
    p'.state.locked = false ∧ p'.state.inflight = none
  /-- … so that the next call begins a poll. -/
  next : ∀ i es p', (∀ j, ¬Running p j) → p.tasks i = none → PoolStep p (i, es) p' →
    calledEvent ∈ es

section

variable {p q p' : CallPool} {calls : Calls (Except Exn SyncResult)} {i j : ℕ} {f : FutureId}
  {es : List CallEvent}

/-- A call whose poll has ended can be resumed, and ends like it. -/
theorem exists_deliver {task : Task CallRequest.Val Exn SyncResult} {o : Except Exn SyncResult}
    (htask : p.tasks i = some task) (hrest : task.rest = joining f)
    (ho : p.state.outcome f = some o) :
    ∃ es p' task', PoolStep p (i, es) p' ∧ p'.tasks i = some task' ∧ task'.rest = .done o := by
  have hawait : rules.step p.state (.awaitFuture f) (.ok ()) p.state :=
    ⟨.ok (), by rw [serve, ho]; rfl⟩
  have hresult : rules.step p.state (.futureResult f) o p.state :=
    ⟨o, by rw [serve, ho]; rfl⟩
  exact ⟨_, _, _, .turn htask hrest hawait (.goes rfl hresult (.finished _ _)),
    Function.update_self .., rfl⟩

theorem Follows.inflight_iff (h : Follows p calls) :
    p.state.inflight.isSome = true ↔ ∃ i, Running p i := by
  rw [Option.isSome_iff_exists]
  constructor
  · rintro ⟨f, hf⟩
    obtain ⟨i, hi⟩ := (h.reflects.inflight f).mp hf
    exact ⟨i, (h.running_iff i).mpr ⟨f, hi⟩⟩
  · rintro ⟨i, hi⟩
    obtain ⟨f, hf⟩ := (h.running_iff i).mp hi
    exact ⟨f, (h.reflects.inflight f).mpr ⟨i, hf⟩⟩

/-- A call that is made while `j` is in the middle of a poll joins it. -/
theorem Follows.joins (h : Follows p calls) (hj : calls j = some (.leads f))
    (hfree : p.tasks i = none) (hstep : PoolStep p (i, es) p') :
    Follows p' (Function.update calls i (some (.joins f))) := by
  obtain ⟨x, hmove, hfollows, -⟩ := h.step hstep
  have hinflight := (h.reflects.inflight f).mpr ⟨j, hj⟩
  rw [h.unused i hfree] at hmove
  generalize p'.state = s' at hmove
  cases hmove with
  | join hg =>
    cases hinflight.symm.trans hg
    exact hfollows
  | lead t hidle => cases hinflight.symm.trans hidle
  | leadAndFinish t o hidle => cases hinflight.symm.trans hidle

/-- **What becomes of a call that has joined.** -/
theorem Follows.joined (h : Follows p calls) (hi : calls i = some (.joins f))
    (hj : calls j = some (.leads f)) {ms : List (ℕ × List CallEvent)} (hsteps : PoolSteps p ms q) :
    ∃ task leader, q.tasks i = some task ∧ q.tasks j = some leader ∧
      calledEvent ∉ task.history ∧
      (∀ o, task.rest = .done o → endedEvent o ∈ leader.history ∨
        CancelledWaiting task.history ∧ o = .error taskCancelled) ∧
      ∀ o, endedEvent o ∈ leader.history → (∃ o', task.rest = .done o') ∨
        ∃ es q' task', PoolStep q (i, es) q' ∧ q'.tasks i = some task' ∧ task'.rest = .done o := by
  obtain ⟨calls', h', hcalls⟩ := h.steps hsteps
  obtain ⟨x, hx, hbecomes⟩ := hcalls.becomes hi
  obtain ⟨y, hy, hbecomes'⟩ := hcalls.becomes hj
  obtain ⟨task, htask⟩ := Option.ne_none_iff_exists'.mp fun hnone ↦
    Option.some_ne_none x (hx.symm.trans (h'.unused i hnone))
  obtain ⟨leader, hleader⟩ := Option.ne_none_iff_exists'.mp fun hnone ↦
    Option.some_ne_none y (hy.symm.trans (h'.unused j hnone))
  obtain ⟨c, x', -, hx', hshape⟩ := h'.task i task htask
  obtain ⟨d, y', -, hy', hshape'⟩ := h'.task j leader hleader
  obtain rfl := Option.some.inj (hx'.symm.trans hx)
  obtain rfl := Option.some.inj (hy'.symm.trans hy)
  refine ⟨task, leader, htask, hleader, fun hcalled ↦ ?_, ?_⟩
  · exact hbecomes.same.2.mp (hshape.called_iff.mp hcalled)
  · obtain ⟨program, rest, history⟩ := task
    dsimp only at hshape ⊢
    cases hbecomes with
    | refl =>
      cases hshape
      refine ⟨fun o ho ↦ (by cases ho), fun o ho ↦ .inr ?_⟩
      obtain ⟨g, rfl⟩ := (hshape'.ended_iff o).mp ho
      cases hbecomes'
      exact exists_deliver htask rfl ((h'.reflects.outcome f o).mpr ⟨j, hy⟩)
    | deliver f o =>
      cases hshape
      refine ⟨fun o' ho ↦ .inl ?_, fun _ _ ↦ .inl ⟨o, rfl⟩⟩
      cases ho
      have hled := h.sound.result_of_joins hcalls hi hj hx
      exact (hshape'.ended_iff o).mpr ⟨f, Option.some.inj (hy.symm.trans hled)⟩
    | leave f =>
      cases hshape
      refine ⟨fun o ho ↦ .inr ?_, fun _ _ ↦ .inl ⟨_, rfl⟩⟩
      cases ho
      exact ⟨⟨f, taskCancelled, by simp⟩, rfl⟩

end

/-- **Single flight**: whichever tasks call `execute`, in whatever interleaving, and whichever of
them are cancelled, the calls share one poll. -/
theorem single_flight {ls : List (ℕ × List CallEvent)} {p : CallPool}
    (h : PoolSteps (Pool.empty start) ls p) : SharesOnePoll ls p := by
  obtain ⟨calls, r, hfollows, hwatch, hr⟩ := exists_watch h
  have hs := hfollows.reflects
  refine ⟨?_, ?_, hfollows.inflight_iff, ?_, ?_, ?_, ?_⟩
  · intro a i b j c hls
    rw [hls, watch_append] at hwatch
    cases ha : watch none a with
    | none => simp [ha] at hwatch
    | some r' =>
      rw [ha, Option.bind_some, watch.eq_def] at hwatch
      simp only [calledEvent] at hwatch
      split at hwatch
      · exact exists_ended_of_watch hwatch
      · cases hwatch
  · rw [hs.locked]
  · intro i j es p' hrunning hfree hstep ms q hsteps
    obtain ⟨f, hj⟩ := (hfollows.running_iff j).mp hrunning
    have hne : j ≠ i := by
      rintro rfl
      cases (hfollows.unused j hfree).symm.trans hj
    refine (hfollows.joins hj hfree hstep).joined (Function.update_self ..) ?_ hsteps
    rwa [Function.update_of_ne hne]
  · intro i es p' f e hstep he
    obtain ⟨x, hmove, -, hothers⟩ := hfollows.step hstep
    refine ⟨?_, hothers⟩
    generalize calls i = y at hmove
    generalize p'.state = s' at hmove ⊢
    cases hmove with
    | lead t => simp [noted] at he
    | leadAndFinish t o => cases o <;> simp [endEvents, publishEvents, noted] at he
    | finish f t o => cases o <;> simp [endEvents, publishEvents, noted] at he
    | _ => rfl
  · intro i es p' o hstep ho
    obtain ⟨x, hmove, -⟩ := hfollows.step hstep
    generalize calls i = y at hmove
    generalize p'.state = s' at hmove ⊢
    cases hmove with
    | leadAndFinish t o' => exact ⟨rfl, rfl⟩
    | finish f t o' => exact ⟨rfl, rfl⟩
    | lead t => simp [endedEvent, noted] at ho
    | _ => simp [endedEvent, noted] at ho
  · intro i es p' hidle hfree hstep
    obtain ⟨x, hmove, -⟩ := hfollows.step hstep
    rw [hfollows.unused i hfree] at hmove
    generalize p'.state = s' at hmove
    cases hmove with
    | join hinflight =>
      obtain ⟨j, hj⟩ := (hs.inflight _).mp hinflight
      exact (hidle j ((hfollows.running_iff j).mpr ⟨_, hj⟩)).elim
    | lead t => exact List.mem_append_left _ (calledEvent_mem_leadEvents _)
    | leadAndFinish t o =>
      exact List.mem_append_left _ (List.mem_append_left _ (calledEvent_mem_leadEvents _))

/-! ## Two calls -/

/-- An event loop that cancels a call which waits for something that has not happened yet. -/
def respond : Server CallRequest.Val Exn SharedQueue := fun q a s ↦
  ((serve q a s).or (serve q (.error taskCancelled) s)).getD (.error taskCancelled, s)

theorem respond_step {q : CallRequest} {a b : Except Exn q.Val} {s s' : SharedQueue}
    (h : respond q b s = (a, s')) : rules.step s q a s' := by
  cases hb : serve q b s with
  | some x =>
    refine ⟨b, ?_⟩
    rw [respond, hb] at h
    rw [hb, ← h]
    rfl
  | none =>
    rw [respond, hb, Option.none_or] at h
    refine ⟨.error taskCancelled, ?_⟩
    rw [← h]
    cases q <;> first | rfl | (simp only [serve] at hb ⊢; split <;> rfl)

/-- A poll that does nothing but read the queue. -/
def readOnly : Prog SyncResult := do
  let _ ← ask (.reader .readAgreementQueue)
  pure {}

/-- Nothing goes wrong. -/
def undisturbed : (q : CallRequest) → Except Exn q.Val
  | .inner r => routine r
  | .locked => .ok false
  | .inflight => .ok none
  | .createFuture => .ok (0 : ℕ)
  | .acquireFree => .ok true
  | .futureDone _ => .ok false
  | .futureException _ => .ok none
  | .futureResult _ => .ok {}
  | .setInflight _ => .ok ()
  | .awaitLock => .ok ()
  | .release => .ok ()
  | .setResult _ _ => .ok ()
  | .setException _ _ => .ok ()
  | .awaitFuture _ => .ok ()
  | .sleep _ => .ok ()
  | .executeOnceCalled => .ok ()
  | .executeOnceEnded _ => .ok ()

def makeCall (i : ℕ) (p : CallPool) : CallPool :=
  p.spawnWith respond undisturbed suspends i (execute readOnly)

def turnOf (i : ℕ) (p : CallPool) : CallPool := p.turnWith respond undisturbed suspends i

/-- Two calls share a poll. -/
def twoCalls : CallPool := turnOf 1 <| turnOf 0 <| makeCall 1 <| makeCall 0 <| Pool.empty start

theorem exists_twoCalls : ∃ ls, PoolSteps (Pool.empty start) ls twoCalls := by
  have hcall : Pool.Steps (Spec.ofServer respond) suspends IsCall (Pool.empty start) _
      (makeCall 1 (makeCall 0 (Pool.empty start))) :=
    .tail (.single (Pool.step_spawnWith rfl ⟨readOnly, rfl⟩))
      (Pool.step_spawnWith rfl ⟨readOnly, rfl⟩)
  have hturn : ∀ {p} (i : ℕ),
      (∃ ls, Pool.Steps (Spec.ofServer respond) suspends IsCall (Pool.empty start) ls p) →
      ∃ ls, Pool.Steps (Spec.ofServer respond) suspends IsCall (Pool.empty start) ls (turnOf i p) :=
    Pool.Steps.exists_turnWith
  obtain ⟨ls, h⟩ := hturn 1 (hturn 0 ⟨_, hcall⟩)
  refine ⟨ls, h.mono ?_⟩
  rintro s q a s' ⟨b, hb⟩
  exact respond_step hb

/-- Both calls end with the result of the one poll. -/
theorem single_flight_twoCalls : ∃ ls, SharesOnePoll ls twoCalls ∧ ∀ i < 2,
    (twoCalls.tasks i).map Task.rest = some (.done (.ok {})) := by
  obtain ⟨ls, h⟩ := exists_twoCalls
  refine ⟨ls, single_flight h, fun i hi ↦ ?_⟩
  obtain rfl | rfl : i = 0 ∨ i = 1 := by omega
  · rfl
  · rfl

end SharedQueue

end RmaPortal
