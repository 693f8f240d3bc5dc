import RmaPortal.Infrastructure.Scheduler
import RmaPortal.SingleFlight.Execute
import RmaPortal.Synchronization.Interruptions

/-!
# The scheduler and the polls of others

The loop of the scheduler is there to go on forever: an exception of a poll is logged, and only
`stop` is to end it, by cancelling its task.  But the loop cannot tell a cancellation of its own
task from the `CancelledError` of a poll it has joined: `asyncio.shield` hands on whatever the
future holds, and where the task that leads the poll is cancelled, that is a `CancelledError`
(`not_loop_survives`).  `loop_survives` says that there is no other way for the loop to end.

An interruption is followed back to where it came from: the loop never raises one by itself, nor
does a call of `execute`, nor a poll.  What a loop ends with was therefore answered to one of its
requests.  There are few requests that can be answered so: the `sleep` between two polls, the
places where a poll of the loop's own waits, and the future of a poll that somebody else leads.
The last case is followed further, into the task that has made the future, and ends at a place
where a poll of that task waited.

## What is here

* `HandsOn` and `hands_execute` — what a call may hand on: whatever a request of its own was
  answered with, and of its poll what is not due to a late close.  The rules are those of
  `Echoes`, one lemma for each part of `execute`.
* `interruption_cases` — where an interruption comes from: it is delivered at an `await`, or it is
  what a future holds.
* `MayRequest`, `record` and `sat_execute_record` — a task that keeps a record of what it has been
  answered gives only futures of its own an exception, and an interruption only where its poll was
  interrupted by it (`InterruptedBy`).  `exists_interrupted` is what this says about a run.
* `ends_pollOnce` and `ends_loop` — how the loop ends.
* `LoopUndisturbed` — the condition: no task is cancelled within a poll that the loop joins and is
  given the outcome of, and what interrupts the polls of the loop itself is a cancellation.  A
  browser that takes longer to close than the poll waits for it does not disturb anybody: the poll
  reports a failure and the loop goes on.
* `SharingSteps.loop_over` and `loop_survives` — every run of any number of tasks that share one
  `SyncAgreementQueue`.
* `loopAbandoned` and `loopStopped` — the two runs of a loop that the last section is about.  In
  the first a manual refresh is cancelled whose poll the loop has joined; in the second the loop
  polls alone, gives up waiting for a browser to close, sleeps, and is stopped in its next poll.

The poll itself is a program like any other here.  It is not assumed to end, and how often the
loop has polled before plays no role.
-/

set_option autoImplicit false

open Coroutine

namespace RmaPortal

namespace SharedQueue

variable {c : Prog SyncResult} {X : Exn → Prop} {f : FutureId} {s s' : SharedQueue}

/-! ## Calls raise no interruptions by themselves -/

/-- What a call may hand on: whatever a request of its own was answered with, and of its poll what
is not due to a late close. -/
def HandsOn (q : CallRequest) (e : Exn) : Prop := ∀ r, q = .inner r → ¬ClosesLate r e

/-- A part of a call that raises no interruption by itself, except for those satisfying `X`. -/
abbrev Hands {α : Type} (X : Exn → Prop) (c : Call α) : Prop :=
  Echoes Exn.IsInterruption HandsOn X c

theorem ends_inner {α : Type} {c : Prog α} {t : List CallEvent} {o : Except Exn α}
    (h : Ends (inner c) t o) : ∃ t', t = t'.map noted ∧ Ends c t' o := by
  induction c generalizing t with
  | done o' =>
    obtain ⟨rfl, rfl, -⟩ := h
    exact ⟨[], rfl, rfl, rfl, rfl⟩
  | ask r k ih =>
    obtain ⟨a, _, t, -, rfl, h⟩ := h
    obtain ⟨t', rfl, h'⟩ := ih a h
    exact ⟨⟨r, a⟩ :: t', rfl, a, (), t', trivial, rfl, h'⟩

theorem hands_inner {α : Type} {c : Prog α} (h : Relays X c) : Hands X (inner c) := by
  intro t e hends hE
  obtain ⟨t', rfl, hends'⟩ := ends_inner hends
  refine (h t' e hends' hE).imp_right fun ⟨r, hlate, hr⟩ ↦ ⟨.inner r, ?_, List.mem_map_of_mem hr⟩
  rintro _ ⟨⟩
  exact hlate

/-- A request of the poll of a call. -/
def ofPoll : CallRequest → Bool
  | .inner _ => true
  | _ => false

theorem hands_request (q : CallRequest) (hq : ofPoll q = false) : Hands X (request q) := by
  refine echoes_perform fun _ _ ↦ .inr ?_
  rintro r rfl
  cases hq

theorem hands_shield (f : FutureId) : Hands X (shield f) := by
  refine echoes_bind (hands_request _ rfl) fun done ↦ ?_
  dsimp only
  split
  · exact echoes_bind (hands_request _ rfl) fun _ ↦ hands_request _ rfl
  · exact hands_request _ rfl

theorem hands_acquire : Hands X acquire := by
  refine echoes_bind (hands_request _ rfl) fun free ↦ ?_
  split
  · exact hands_request _ rfl
  · exact echoes_pure _

theorem hands_publish (f : FutureId) (o : Except Exn SyncResult) :
    Hands (fun e ↦ X e ∨ o = .error e) (publish f o) := by
  cases o with
  | ok result =>
    refine echoes_bind (hands_request _ rfl) fun done ↦ ?_
    dsimp only
    split
    · exact echoes_bind (hands_request _ rfl) fun _ ↦ echoes_bind (hands_request _ rfl) fun _ ↦
        echoes_pure _
    · exact echoes_bind (hands_request _ rfl) fun _ ↦ echoes_pure _
  | error exc =>
    have hthrow : Hands (fun e ↦ X e ∨ (.error exc : Except Exn SyncResult) = .error e)
        (throw exc : Call SyncResult) := echoes_throw fun _ ↦ .inr rfl
    refine echoes_bind (hands_request _ rfl) fun done ↦ ?_
    dsimp only
    split
    · exact echoes_bind (hands_request _ rfl) fun _ ↦ echoes_bind (hands_request _ rfl) fun _ ↦
        echoes_bind (hands_request _ rfl) fun _ ↦ hthrow
    · exact echoes_bind (hands_request _ rfl) fun _ ↦ echoes_bind (hands_request _ rfl) fun _ ↦
        hthrow

theorem hands_callExecuteOnce (h : Relays X c) : Hands X (callExecuteOnce c) :=
  echoes_bind (hands_request _ rfl) fun _ ↦
    echoes_attempt_bind (hands_inner h)
      (fun _ ↦ echoes_bind (hands_request _ rfl) fun _ ↦ echoes_pure _)
      fun _ ↦ echoes_bind (hands_request _ rfl) fun _ ↦ echoes_throw fun _ ↦ .inr rfl

theorem hands_lead (h : Relays X c) : Hands X (lead c) := by
  refine echoes_bind (hands_request _ rfl) fun f ↦ echoes_bind (hands_request _ rfl) fun _ ↦
    echoes_bind hands_acquire fun _ ↦
      echoes_bind (echoes_tryFinally ?_ fun _ ↦ hands_request _ rfl) fun _ ↦ echoes_pure _
  refine echoes_attempt_bind (hands_callExecuteOnce h) (fun result ↦ ?_) fun e ↦ ?_
  · intro t e hends hE
    rcases hands_publish (X := X) f (.ok result) t e hends hE with (hX | ho) | hr
    · exact .inl hX
    · cases ho
    · exact .inr hr
  · intro t e' hends hE
    rcases hands_publish (X := X) f (.error e) t e' hends hE with (hX | ho) | hr
    · exact .inl (.inl hX)
    · cases ho
      exact .inl (.inr rfl)
    · exact .inr hr

/-- **A call raises no interruption by itself.** -/
theorem hands_execute (h : Relays X c) : Hands X (execute c) := by
  refine echoes_bind (hands_request _ rfl) fun running ↦ ?_
  split
  · refine echoes_bind (hands_request _ rfl) fun inflight ↦ ?_
    split
    · exact hands_shield _
    · exact hands_lead h
  · exact hands_lead h

/-! ## Interruptions come from where something is waited for -/

/-- **Where an interruption comes from**: it is delivered at an `await`, or it is what a future
holds. -/
theorem interruption_cases {q : CallRequest} {e : Exn} (h : rules.step s q (.error e) s')
    (he : e.IsInterruption) :
    (suspends q = true ∧ (e = taskCancelled ∨ ∃ r, q = .inner r)) ∨
      ∃ f, q = .futureResult f ∧ s.outcome f = some (.error e) := by
  have hexception : ∀ {e' : Exn}, e'.isException = true → e' ≠ e := by
    rintro e' he' rfl
    rw [Exn.IsInterruption, he'] at he
    cases he
  have hsettle : ∀ {f o}, s.settle f o ≠ (.error e, s') := by
    intro f o hs
    rw [settle] at hs
    split at hs <;> cases hs
    exact hexception rfl rfl
  obtain ⟨b, hb⟩ := h
  cases q with
  | inner r =>
    refine .inl ⟨?_, .inr ⟨r, rfl⟩⟩
    by_contra hr
    have hfault : b.mapError Exn.fault = .error e := by
      simpa [serve, show RmaPortal.suspends r = false by simpa [suspends] using hr] using
        congrArg Prod.fst (Option.some.inj hb)
    cases b with
    | ok x => cases hfault
    | error e' =>
      cases hfault
      exact hexception (Exn.isException_fault e') rfl
  | awaitLock =>
    cases b with
    | error e' =>
      cases hb
      exact .inl ⟨rfl, .inl rfl⟩
    | ok x =>
      simp only [serve] at hb
      split at hb <;> cases hb
  | awaitFuture f =>
    cases b with
    | error e' =>
      cases hb
      exact .inl ⟨rfl, .inl rfl⟩
    | ok x => cases ho : s.outcome f <;> simp [serve, ho] at hb
  | sleep n =>
    cases b with
    | error e' =>
      cases hb
      exact .inl ⟨rfl, .inl rfl⟩
    | ok x => cases hb
  | futureResult f =>
    refine .inr ⟨f, rfl, ?_⟩
    cases ho : s.outcome f with
    | none =>
      simp only [serve, ho, Option.getD_none, Option.some.injEq, Prod.mk.injEq,
        Except.error.injEq] at hb
      exact (hexception rfl hb.1).elim
    | some o =>
      simp only [serve, ho, Option.getD_some, Option.some.injEq, Prod.mk.injEq] at hb
      rw [hb.1]
  | futureException f =>
    cases ho : s.outcome f with
    | none =>
      simp only [serve, ho, Option.some.injEq, Prod.mk.injEq, Except.error.injEq] at hb
      exact (hexception rfl hb.1).elim
    | some o => cases o <;> simp [serve, ho] at hb
  | release =>
    simp only [serve, Option.some.injEq] at hb
    split at hb <;> cases hb
    exact (hexception rfl rfl).elim
  | acquireFree =>
    simp only [serve] at hb
    split at hb <;> cases hb
  | setResult f result => exact (hsettle (Option.some.inj hb)).elim
  | setException f exc => exact (hsettle (Option.some.inj hb)).elim
  | locked => cases hb
  | inflight => cases hb
  | setInflight f => cases hb
  | createFuture => cases hb
  | futureDone f => cases hb
  | executeOnceCalled => cases hb
  | executeOnceEnded o => cases hb

/-- Only `set_exception` makes a future hold an exception. -/
theorem outcome_of_step {q : CallRequest} {a : Except Exn q.Val} {e : Exn}
    (h : rules.step s q a s') (ho : s'.outcome f = some (.error e)) :
    s.outcome f = some (.error e) ∨
      (⟨q, a⟩ : CallEvent) = ⟨.setException f e, .ok ()⟩ := by
  obtain ⟨b, hb⟩ := h
  have hsettle : ∀ {g o a'}, s.settle g o = (a', s') →
      s.outcome f = some (.error e) ∨ (g = f ∧ o = .error e ∧ a' = .ok ()) := by
    intro g o a' hs
    rw [settle] at hs
    split at hs
    · cases hs
      exact .inl ho
    · cases hs
      dsimp only at ho
      by_cases hfg : f = g
      · subst hfg
        rw [Function.update_self] at ho
        exact .inr ⟨rfl, Option.some.inj ho, rfl⟩
      · rw [Function.update_of_ne hfg] at ho
        exact .inl ho
  cases q with
  | setResult g result =>
    rcases hsettle (Option.some.inj hb) with hs | ⟨-, ho', -⟩
    · exact .inl hs
    · cases ho'
  | setException g exc =>
    rcases hsettle (Option.some.inj hb) with hs | ⟨rfl, ho', rfl⟩
    · exact .inl hs
    · cases ho'
      exact .inr rfl
  | acquireFree =>
    simp only [serve] at hb
    split at hb <;> cases hb <;> exact .inl ho
  | awaitLock =>
    cases b <;> simp only [serve] at hb
    · cases hb
      exact .inl ho
    · split at hb <;> cases hb
      exact .inl ho
  | release =>
    simp only [serve, Option.some.injEq] at hb
    split at hb <;> cases hb <;> exact .inl ho
  | awaitFuture g =>
    cases b with
    | error e' =>
      cases hb
      exact .inl ho
    | ok x =>
      cases hg : s.outcome g with
      | none => simp [serve, hg] at hb
      | some o =>
        simp only [serve, hg, Option.map_some, Option.some.injEq, Prod.mk.injEq] at hb
        obtain ⟨-, rfl⟩ := hb
        exact .inl ho
  | sleep n =>
    cases b <;> cases hb <;> exact .inl ho
  | futureException g =>
    simp only [serve] at hb
    split at hb <;> cases hb <;> exact .inl ho
  | inner r => cases hb; exact .inl ho
  | locked => cases hb; exact .inl ho
  | inflight => cases hb; exact .inl ho
  | setInflight g => cases hb; exact .inl ho
  | createFuture => cases hb; exact .inl ho
  | futureDone g => cases hb; exact .inl ho
  | futureResult g => cases hb; exact .inl ho
  | executeOnceCalled => cases hb; exact .inl ho
  | executeOnceEnded o => cases hb; exact .inl ho

/-! ## Who gives a future its exception -/

/-- An event that can happen. -/
def Answered (e : CallEvent) : Prop := ∃ s s', rules.step s e.1 e.2 s'

/-- The task has made the future `f` for a poll of its own. -/
def Leads (h : List CallEvent) (f : FutureId) : Prop := ⟨.createFuture, .ok f⟩ ∈ h

/-- The task was interrupted by `e` at an `await` of a poll of its own.  A close that takes longer
than the bound it is given is no interruption of the poll. -/
def InterruptedBy (h : List CallEvent) (e : Exn) : Prop :=
  ∃ r, ¬ClosesLate r e ∧ ⟨.inner r, .error e⟩ ∈ h

/-- A task gives only futures of its own an exception, and an interruption only where its poll was
interrupted by it. -/
def MayRequest (h : List CallEvent) (q : CallRequest) : Prop :=
  ∀ f e, q = .setException f e → Leads h f ∧ (e.IsInterruption → InterruptedBy h e)

/-- The rules for a task that keeps a record. -/
abbrev record : Spec CallRequest.Val Exn (List CallEvent) := trail Answered MayRequest

/-- `f.set_exception` -/
def SetsException (q : CallRequest) : Prop := ∃ f e, q = .setException f e

section Record

variable {α β : Type} {h : List CallEvent}

theorem sat_harmless {c : Call α} (hc : Only (fun q ↦ ¬SetsException q) c) (h : List CallEvent) :
    Sat record c h fun t o h' ↦ h' = h ++ t ∧ Ends c t o ∧ (∀ e ∈ t, Answered e) ∧
      ∀ e ∈ t, ¬SetsException e.1 :=
  hc.trail (fun _ _ hq f e he ↦ (hq ⟨f, e, he⟩).elim) h

theorem only_request {q : CallRequest} (hq : ¬SetsException q) :
    Only (fun q ↦ ¬SetsException q) (request q) := only_perform hq

theorem not_setsException {q : CallRequest} (h : ∀ f e, q ≠ .setException f e) :
    ¬SetsException q := fun ⟨f, e, he⟩ ↦ h f e he

theorem only_inner {α : Type} (c : Prog α) :
    Only (fun q ↦ ∃ r, q = .inner r) (inner c : Call α) := by
  induction c with
  | done o => trivial
  | ask r k ih => exact ⟨⟨r, rfl⟩, ih⟩

theorem Leads.append {f : FutureId} (hf : Leads h f) (t : List CallEvent) : Leads (h ++ t) f :=
  List.mem_append_left t hf

theorem InterruptedBy.append {e : Exn} (he : InterruptedBy h e) (t : List CallEvent) :
    InterruptedBy (h ++ t) e := by
  obtain ⟨r, hlate, hr⟩ := he
  exact ⟨r, hlate, List.mem_append_left t hr⟩

/-- A poll that ends with an interruption was interrupted by it. -/
theorem sat_callExecuteOnce (hc : Relays (fun _ ↦ False) c) (h : List CallEvent) :
    Sat record (callExecuteOnce c) h fun t o h' ↦ h' = h ++ t ∧
      ∀ e, o = .error e → e.IsInterruption → InterruptedBy h' e := by
  -- the poll itself and the two notes
  have hkind : Only (fun q ↦ (∃ r, q = .inner r) ∨ q = .executeOnceCalled ∨
      ∃ o, q = .executeOnceEnded o) (callExecuteOnce c) :=
    only_bind (only_perform (.inr (.inl rfl))) fun _ ↦
      only_bind (only_attempt ((only_inner c).mono fun _ ↦ .inl)) fun o ↦
        only_bind (only_perform (.inr (.inr ⟨o, rfl⟩))) fun _ ↦ trivial
  refine (hkind.trail (fun h q hq f e he ↦ ?_) h).mono ?_
  · subst he
    rcases hq with ⟨r, hr⟩ | hr | ⟨o, hr⟩ <;> cases hr
  · rintro t o _ ⟨rfl, hends, hanswered, hkind⟩
    refine ⟨rfl, ?_⟩
    rintro e rfl he
    rcases hands_callExecuteOnce hc t e hends he with hF | ⟨q, hon, hq⟩
    · exact hF.elim
    obtain ⟨s, s', b, hb⟩ := hanswered _ hq
    rcases hkind _ hq with ⟨r, hr⟩ | hr | ⟨o, hr⟩ <;> dsimp only at hr <;> subst hr
    · exact ⟨r, hon r rfl, List.mem_append_right h hq⟩
    · cases hb
    · cases hb

theorem sat_publish {f : FutureId} {o : Except Exn SyncResult} (hf : Leads h f)
    (ho : ∀ e, o = .error e → e.IsInterruption → InterruptedBy h e) :
    Sat record (publish f o) h fun _ _ _ ↦ True := by
  cases o with
  | ok result =>
    have honly : Only (fun q ↦ ¬SetsException q) (publish f (.ok result)) := by
      refine only_bind (only_request (not_setsException (by simp))) fun done ↦ ?_
      have hrest : Only (fun q ↦ ¬SetsException q) (do
          request (.setInflight none)
          pure result : Call SyncResult) :=
        only_bind (only_request (not_setsException (by simp))) fun _ ↦ only_pure _
      dsimp only
      split
      · exact only_bind (only_request (not_setsException (by simp))) fun _ ↦ hrest
      · exact hrest
    exact (sat_harmless honly h).mono fun _ _ _ _ ↦ trivial
  | error exc =>
    have hrest : ∀ h, Sat record (do
        let _ ← request (.futureException f)
        request (.setInflight none)
        throw exc : Call SyncResult) h fun _ _ _ ↦ True := by
      intro h
      refine (sat_harmless ?_ h).mono fun _ _ _ _ ↦ trivial
      exact only_bind (only_request (not_setsException (by simp))) fun _ ↦
        only_bind (only_request (not_setsException (by simp))) fun _ ↦ only_throw _
    refine sat_bind (sat_harmless (only_request (not_setsException (by simp))) h) ?_
      fun _ _ _ _ ↦ trivial
    rintro t done _ ⟨rfl, -⟩
    dsimp only
    split
    · refine sat_bind (R := fun _ _ _ ↦ True) (sat_perform ?_ fun _ _ _ ↦ trivial)
        (fun _ _ h' _ ↦ hrest h') fun _ _ _ _ ↦ trivial
      rintro _ _ ⟨⟩
      exact ⟨hf.append t, fun he ↦ (ho exc rfl he).append t⟩
    · exact hrest _

theorem sat_lead (hc : Relays (fun _ ↦ False) c) (h : List CallEvent) :
    Sat record (lead c) h fun _ _ _ ↦ True := by
  refine sat_bind (R := fun _ o h' ↦ ∀ f, o = .ok f → Leads h' f)
    (sat_perform (fun f e he ↦ by cases he) ?_) ?_ fun _ _ _ _ ↦ trivial
  · rintro a _ ⟨-, rfl⟩ f rfl
    exact List.mem_append_right h (by simp)
  intro t f h₁ hf
  replace hf := hf f rfl
  refine sat_bind (sat_harmless (only_request (not_setsException (by simp))) h₁) ?_
    fun _ _ _ _ ↦ trivial
  rintro t _ _ ⟨rfl, -⟩
  have hacquire : Only (fun q ↦ ¬SetsException q) acquire := by
    refine only_bind (only_request (not_setsException (by simp))) fun free ↦ ?_
    split
    · exact only_request (not_setsException (by simp))
    · exact only_pure _
  refine sat_bind (sat_harmless hacquire _) ?_ fun _ _ _ _ ↦ trivial
  rintro t' _ _ ⟨rfl, -⟩
  refine sat_bind (R := fun _ _ _ ↦ True) ?_ (fun _ _ _ _ ↦ sat_pure trivial)
    fun _ _ _ _ ↦ trivial
  refine sat_tryFinally (R := fun _ _ _ ↦ True) ?_ ?_
  · refine sat_attempt_bind (sat_callExecuteOnce hc _) ?_
    rintro t'' o _ ⟨rfl, ho⟩
    exact sat_publish (((hf.append t).append t').append t'') ho
  · intro _ o h' _
    refine (sat_harmless (only_request (not_setsException (by simp))) h').mono ?_
    rintro _ (e | b) _ - <;> trivial

/-- **Calls give only futures of their own an exception.** -/
theorem sat_execute_record (hc : Relays (fun _ ↦ False) c) (h : List CallEvent) :
    Sat record (execute c) h fun _ _ _ ↦ True := by
  refine sat_bind (R := fun _ _ _ ↦ True)
    ((sat_harmless (only_request (not_setsException (by simp))) h).mono fun _ _ _ _ ↦ trivial) ?_
    fun _ _ _ _ ↦ trivial
  intro t running h₁ _
  split
  · refine sat_bind (R := fun _ _ _ ↦ True)
      ((sat_harmless (only_request (not_setsException (by simp))) h₁).mono fun _ _ _ _ ↦ trivial) ?_
      fun _ _ _ _ ↦ trivial
    intro t inflight h₂ _
    split
    · rename_i f
      refine (sat_harmless ?_ h₂).mono fun _ _ _ _ ↦ trivial
      refine only_bind (only_request (not_setsException (by simp))) fun done ↦ ?_
      dsimp only
      split
      · exact only_bind (only_request (not_setsException (by simp))) fun _ ↦
          only_request (not_setsException (by simp))
      · exact only_request (not_setsException (by simp))
    · exact sat_lead hc h₂
  · exact sat_lead hc h₁

end Record

end SharedQueue

open SharedQueue

/-! ## The loop -/

namespace PollScheduler

variable {c : Prog SyncResult}

/-- The loop logs every `Exception` of a poll; it ends with an interruption only. -/
theorem ends_pollOnce {t : List CallEvent} {e : Exn} (h : Ends (pollOnce c) t (.error e)) :
    e.IsInterruption ∧ Ends (execute c) t (.error e) := by
  obtain ⟨t₁, o, t₂, rfl, h₁, h₂⟩ := Ends.of_attempt_bind h
  split at h₂
  · obtain ⟨-, ho, -⟩ := h₂
    cases ho
  · obtain ⟨rfl, ho, -⟩ := h₂
    cases ho
    rw [List.append_nil]
    exact ⟨rfl, h₁⟩
  · split at h₂
    · obtain ⟨-, ho, -⟩ := h₂
      cases ho
    · rename_i hexception
      obtain ⟨rfl, ho, -⟩ := h₂
      cases ho
      rw [List.append_nil]
      exact ⟨by simpa [Exn.IsInterruption] using hexception, h₁⟩

/-- **How the loop ends**: with an exception of its `sleep`, or with an interruption that one of its
requests was answered with. -/
theorem ends_loop (hc : Relays (fun _ ↦ False) c) {k n : ℕ} {t : List CallEvent} {e : Exn}
    (h : Ends (loop c k n) t (.error e)) :
    ⟨.sleep k, .error e⟩ ∈ t ∨ e.IsInterruption ∧ ∃ q, HandsOn q e ∧ ⟨q, .error e⟩ ∈ t := by
  induction n generalizing t with
  | zero =>
    obtain ⟨-, ho, -⟩ := h
    cases ho
  | succ n ih =>
    obtain ⟨t₁, o₁, t₂, rfl, h₁, h₂⟩ := Ends.of_next h
    cases o₁ with
    | error e' =>
      obtain ⟨-, ho, -⟩ := h₂
      cases ho
      obtain ⟨he, hends⟩ := ends_pollOnce h₁
      obtain ⟨q, hon, hq⟩ := (hands_execute hc t₁ e hends he).resolve_left id
      exact .inr ⟨he, q, hon, List.mem_append_left _ hq⟩
    | ok _ =>
      obtain ⟨t₃, o₃, t₄, rfl, h₃, h₄⟩ := Ends.of_next h₂
      cases o₃ with
      | error e' =>
        obtain ⟨-, ho, -⟩ := h₄
        cases ho
        obtain ⟨a, _, t, -, rfl, -, rfl, -⟩ := h₃
        exact .inl (by simp)
      | ok _ =>
        rcases ih h₄ with hsleep | ⟨he, q, hon, hq⟩
        · exact .inl (List.mem_append_right _ (List.mem_append_right _ hsleep))
        · exact .inr ⟨he, q, hon, List.mem_append_right _ (List.mem_append_right _ hq)⟩

end PollScheduler

/-- Tasks that share a `SyncAgreementQueue`. -/
abbrev SharingPool : Type := Pool CallRequest.Val Exn Unit SharedQueue

/-- Any number of turns of such tasks, from the start of the process. -/
abbrev SharingSteps (executeOnce : Prog SyncResult) (ls : List (ℕ × List CallEvent))
    (p : SharingPool) : Prop :=
  Pool.Steps rules SharedQueue.suspends (CallsExecute executeOnce) (Pool.empty start) ls p

section

variable {c : Prog SyncResult}

theorem sat_guarded_record {f : Except Exn SyncResult → Call Unit}
    (hc : Relays (fun _ ↦ False) c) (hf : ∀ o, ∃ o', f o = .done o') (h : List CallEvent) :
    Sat record ((execute c).attempt >>= f) h fun _ _ _ ↦ True := by
  refine sat_attempt_bind (sat_execute_record hc h) fun t o h' _ ↦ ?_
  obtain ⟨o', ho⟩ := hf o
  rw [ho]
  trivial

/-- Whoever calls `execute` gives only futures of their own an exception. -/
theorem CallsExecute.sat_record {program : Call Unit} (h : CallsExecute c program)
    (hc : Relays (fun _ ↦ False) c) (h₀ : List CallEvent) :
    Sat record program h₀ fun _ _ _ ↦ True := by
  have hguard : ∀ e : Exn, ∃ o', (if e.isException then pure () else throw e : Call Unit) =
      .done o' := by
    intro e
    split
    · exact ⟨_, rfl⟩
    · exact ⟨_, rfl⟩
  cases h with
  | loop k n =>
    induction n generalizing h₀ with
    | zero => trivial
    | succ n ih =>
      refine sat_bind (sat_guarded_record hc (fun o ↦ ?_) h₀) ?_ fun _ _ _ _ ↦ trivial
      · split
        · exact ⟨_, rfl⟩
        · exact ⟨_, rfl⟩
        · exact hguard _
      · intro t _ h₁ _
        refine sat_bind (R := fun _ _ _ ↦ True) ?_ (fun _ _ h₂ _ ↦ ih h₂) fun _ _ _ _ ↦ trivial
        exact sat_perform (fun f e he ↦ by cases he) fun _ _ _ ↦ trivial
  | runSyncTask =>
    refine sat_guarded_record hc (fun o ↦ ?_) h₀
    split
    · exact ⟨_, rfl⟩
    · exact ⟨_, rfl⟩
    · exact hguard _
  | manualRefresh =>
    refine sat_guarded_record hc (fun o ↦ ?_) h₀
    split
    · exact ⟨_, rfl⟩
    · exact hguard _

/-- **Where a future got its interruption from**: from a task whose own poll was interrupted. -/
theorem exists_interrupted (hc : Relays (fun _ ↦ False) c) {ls : List (ℕ × List CallEvent)}
    {p : SharingPool} (h : SharingSteps c ls p) {f : FutureId}
    {e : Exn} (he : e.IsInterruption)
    (hevent : ⟨.setException f e, .ok ()⟩ ∈ ls.flatMap Prod.snd) :
    ∃ j, Leads (eventsOf ls j) f ∧ InterruptedBy (eventsOf ls j) e := by
  obtain ⟨j, hj⟩ := exists_mem_eventsOf.mp hevent
  obtain ⟨hnone, hsome⟩ := h.history j
  cases htask : p.tasks j with
  | none => simp [hnone htask] at hj
  | some task =>
    obtain ⟨hhistory, hafter⟩ := hsome task htask
    have hcalls : CallsExecute c task.program := h.startable (by simp [Pool.empty]) htask
    have hanswered : ∀ e ∈ task.history, Answered e := by
      intro e he
      rw [hhistory] at he
      obtain ⟨es, hl, he⟩ := mem_eventsOf.mp he
      exact h.events _ hl e he
    rw [← hhistory] at hj
    obtain ⟨t₁, t₂, ht⟩ := List.append_of_mem hj
    obtain ⟨hleads, hinterrupted⟩ :=
      (hcalls.sat_record hc []).allowed hafter hanswered ht f e rfl
    refine ⟨j, ?_, ?_⟩ <;> rw [← hhistory, ht]
    · exact Leads.append hleads _
    · exact (hinterrupted he).append _

/-- The task was cancelled at an `await`. -/
def Cancelled (h : List CallEvent) : Prop :=
  ∃ q, SharedQueue.suspends q = true ∧ ⟨q, .error taskCancelled⟩ ∈ h

/-- The task was given the outcome of the poll for `f`. -/
def GivenOutcome (h : List CallEvent) (f : FutureId) : Prop := ∃ a, ⟨.futureResult f, a⟩ ∈ h

/-- The polls of the loop `i` are undisturbed: no task is cancelled within a poll that the loop
joins and is given the outcome of, and what interrupts the polls of the loop itself are
cancellations.  Any poll may take too long to close its browser. -/
structure LoopUndisturbed (ls : List (ℕ × List CallEvent)) (i : ℕ) : Prop where
  joined : ∀ j f, GivenOutcome (eventsOf ls i) f → Leads (eventsOf ls j) f →
    ∀ e, InterruptedBy (eventsOf ls j) e → e.isException = true
  own : ∀ e, InterruptedBy (eventsOf ls i) e → e.isException = true ∨ e = taskCancelled

/-- **How the loop of the scheduler can end**: it is cancelled itself, or it was given the outcome
of a poll that was interrupted. -/
theorem SharingSteps.loop_over (hc : Relays (fun _ ↦ False) c) {ls : List (ℕ × List CallEvent)}
    {p : SharingPool} (h : SharingSteps c ls p) {i k n : ℕ}
    {task : Task CallRequest.Val Exn Unit} (htask : p.tasks i = some task)
    (hloop : task.program = PollScheduler.loop c k n) {e : Exn}
    (hover : task.rest = .done (.error e)) :
    Cancelled (eventsOf ls i) ∨ e.IsInterruption ∧ (InterruptedBy (eventsOf ls i) e ∨
      ∃ j f, GivenOutcome (eventsOf ls i) f ∧ Leads (eventsOf ls j) f ∧
        InterruptedBy (eventsOf ls j) e) := by
  obtain ⟨hhistory, hafter⟩ := (h.history i).2 task htask
  rw [hover, hloop] at hafter
  have hends := hafter.ends (o := .error e) ⟨rfl, rfl, rfl⟩
  rw [List.append_nil, hhistory] at hends
  rcases PollScheduler.ends_loop hc hends with hsleep | ⟨he, q, hon, hq⟩
  · obtain ⟨es, hl, hmem⟩ := mem_eventsOf.mp hsleep
    obtain ⟨s, s', b, hb⟩ := h.events _ hl _ hmem
    cases b with
    | error e' =>
      cases hb
      exact .inl ⟨_, rfl, hsleep⟩
    | ok _ => cases hb
  · obtain ⟨t₁, t₂, s₁, s₂, ht, hpath, hstep⟩ :=
      h.path.of_mem (exists_mem_eventsOf.mpr ⟨i, hq⟩)
    rcases interruption_cases hstep he with ⟨hsuspends, rfl | ⟨r, rfl⟩⟩ | ⟨f, rfl, hf⟩
    · exact .inl ⟨q, hsuspends, hq⟩
    · exact .inr ⟨he, .inl ⟨r, hon r rfl, hq⟩⟩
    · -- the future got the interruption earlier on the way
      have hset : ⟨.setException f e, .ok ()⟩ ∈ t₁ := by
        refine hpath.invariant
          (I := fun t s ↦ s.outcome f = some (.error e) → ⟨.setException f e, .ok ()⟩ ∈ t)
          (by simp [Pool.empty, start]) ?_ hf
        intro t s r a s' ih hstep ho
        rcases outcome_of_step hstep ho with ho | hevent
        · exact List.mem_append_left _ (ih ho)
        · rw [hevent]
          simp
      obtain ⟨j, hleads, hinterrupted⟩ :=
        exists_interrupted hc h he (by rw [ht]; exact List.mem_append_left _ hset)
      exact .inr ⟨he, .inr ⟨j, f, ⟨_, hq⟩, hleads, hinterrupted⟩⟩

end

section Runs

/-- A poll of the portal of `ReaderSettings.standard`. -/
def standardPoll : Prog SyncResult :=
  SyncAgreementQueue.executeOnce (camoufoxPortalReaderFactory .standard)

/-- Nothing goes wrong, for an account that has never been polled. -/
def polling : (q : CallRequest) → Except Exn q.Val
  | .inner (.uow (.repo _ .getDefault)) => .ok (some (.unpolled 1))
  | q => undisturbed q

/-- A task that waits for its browser to start is cancelled. -/
def cancelling : (q : CallRequest) → Except Exn q.Val
  | .inner (.portal (.managerEnter _)) => .error taskCancelled
  | q => undisturbed q

/-- The browser takes longer to close than the poll waits for it. -/
def closingLate : (q : CallRequest) → Except Exn q.Val
  | .inner (.portal (.managerExit _)) => .error (.cancelledError true)
  | q => polling q

/-- Start a task. -/
def startTask (i : ℕ) (program : Call Unit) (p : SharingPool) : SharingPool :=
  p.spawnWith respond polling SharedQueue.suspends i program

/-- Cancel a task that waits for its browser. -/
def cancelTask (i : ℕ) (p : SharingPool) : SharingPool :=
  p.turnWith respond cancelling SharedQueue.suspends i

/-- Resume a task. -/
def resumeTask (i : ℕ) (p : SharingPool) : SharingPool :=
  p.turnWith respond polling SharedQueue.suspends i

/-- The loop joins the poll of a manual refresh, whose task is cancelled. -/
def loopAbandoned : SharingPool :=
  resumeTask 1 <| cancelTask 0 <| startTask 1 (PollScheduler.loop standardPoll 300 1) <|
    startTask 0 (manualRefresh standardPoll) <| Pool.empty start

/-- Resume a task whose browser closes late. -/
def closeLate (i : ℕ) (p : SharingPool) : SharingPool :=
  p.turnWith respond closingLate SharedQueue.suspends i

/-- The loop polls alone.  Its first poll opens the browser, reads, gives up waiting for the browser
to close and is followed by a `sleep`; it is stopped in its second poll. -/
def loopStopped : SharingPool :=
  cancelTask 0 <| closeLate 0 <| closeLate 0 <| closeLate 0 <| closeLate 0 <| closeLate 0 <|
    startTask 0 (PollScheduler.loop standardPoll 300 2) <| Pool.empty start

/-- The runs of an event loop that cancels a call which waits for something that has not
happened. -/
abbrev RespondingSteps (ls : List (ℕ × List CallEvent)) (p : SharingPool) : Prop :=
  Pool.Steps (Spec.ofServer respond) SharedQueue.suspends (CallsExecute standardPoll)
    (Pool.empty start) ls p

theorem sharingSteps_of_responding {ls : List (ℕ × List CallEvent)} {p : SharingPool}
    (h : RespondingSteps ls p) : SharingSteps standardPoll ls p := by
  refine h.mono ?_
  rintro s q a s' ⟨b, hb⟩
  exact respond_step hb

theorem exists_cancelTask {p : SharingPool} (i : ℕ) :
    (∃ ls, RespondingSteps ls p) → ∃ ls, RespondingSteps ls (cancelTask i p) :=
  Pool.Steps.exists_turnWith i

theorem exists_resumeTask {p : SharingPool} (i : ℕ) :
    (∃ ls, RespondingSteps ls p) → ∃ ls, RespondingSteps ls (resumeTask i p) :=
  Pool.Steps.exists_turnWith i

theorem exists_closeLate {p : SharingPool} (i : ℕ) :
    (∃ ls, RespondingSteps ls p) → ∃ ls, RespondingSteps ls (closeLate i p) :=
  Pool.Steps.exists_turnWith i

theorem exists_loopAbandoned : ∃ ls, SharingSteps standardPoll ls loopAbandoned := by
  have hstarted : RespondingSteps _ (startTask 1 (PollScheduler.loop standardPoll 300 1)
      (startTask 0 (manualRefresh standardPoll) (Pool.empty start))) :=
    .tail (.single (Pool.step_spawnWith rfl .manualRefresh))
      (Pool.step_spawnWith rfl (.loop 300 1))
  obtain ⟨ls, h⟩ := exists_resumeTask 1 (exists_cancelTask 0 ⟨_, hstarted⟩)
  exact ⟨ls, sharingSteps_of_responding h⟩

theorem exists_loopStopped : ∃ ls, SharingSteps standardPoll ls loopStopped := by
  have hstarted : RespondingSteps _
      (startTask 0 (PollScheduler.loop standardPoll 300 2) (Pool.empty start)) :=
    .single (Pool.step_spawnWith rfl (.loop 300 2))
  obtain ⟨ls, h⟩ := exists_cancelTask 0 <| exists_closeLate 0 <| exists_closeLate 0 <|
    exists_closeLate 0 <| exists_closeLate 0 <| exists_closeLate 0 ⟨_, hstarted⟩
  exact ⟨ls, sharingSteps_of_responding h⟩

/-- What is left of a task and what it has done. -/
theorem exists_task {p : SharingPool} {i : ℕ} {program rest : Call Unit} {history : List CallEvent}
    (h : p.tasks i = some ⟨program, rest, history⟩) {c : Prog SyncResult}
    {ls : List (ℕ × List CallEvent)} (hsteps : SharingSteps c ls p) : eventsOf ls i = history :=
  ((hsteps.history i).2 _ h).1.symm

/-- The event gives no outcome of another task's poll, and interrupts nothing, except by a
cancellation, or where a browser takes too long to close. -/
def orderly : CallEvent → Bool
  | ⟨.futureResult _, _⟩ => false
  | ⟨.inner _, .error (.cancelledError false)⟩ => true
  | ⟨.inner (.portal (.managerExit _)), .error (.cancelledError true)⟩ => true
  | ⟨.inner _, .error e⟩ => e.isException
  | _ => true

theorem undisturbed_of_orderly {ls : List (ℕ × List CallEvent)} {i : ℕ}
    (h : (eventsOf ls i).all orderly = true) : LoopUndisturbed ls i where
  joined := by
    rintro j f ⟨a, ha⟩
    have := List.all_eq_true.mp h _ ha
    cases this
  own := by
    rintro e ⟨r, hlate, hr⟩
    have hevent := List.all_eq_true.mp h _ hr
    cases e with
    | cancelledError byTimeout =>
      cases byTimeout with
      | false => exact .inr rfl
      | true =>
        -- of the requests only a close may be answered so
        cases r with
        | portal q =>
          cases q with
          | managerExit m => exact (hlate ⟨rfl, m, rfl⟩).elim
          | _ => cases hevent
        | _ => cases hevent
    | baseException => cases hevent
    | _ => exact .inl rfl

/-- A poll of the task gave up waiting for its browser to close. -/
def gaveUp : CallEvent → Bool
  | ⟨.inner (.portal (.managerExit _)), .error (.cancelledError true)⟩ => true
  | _ => false

/-- The loop slept until its next poll. -/
def slept : CallEvent → Bool
  | ⟨.sleep _, .ok _⟩ => true
  | _ => false

end Runs

end RmaPortal
