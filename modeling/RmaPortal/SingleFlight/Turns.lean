import RmaPortal.Application.SharedQueue
import RmaPortal.Coroutine.Calls
import RmaPortal.Coroutine.Turns
import RmaPortal.Data.SingleFlight

/-!
# The turns of a call

A call of `execute` has few ways to go on, because it gives way only at an `await`.  `Shape` lists
the points at which a call can be between two turns, each with everything that has happened to it
until then, and `Reflects` says how the lock, the future and the outcomes hang together with the
points at which all calls are.  `turn_execute` and `Shape.resume` follow the text of the program
through one turn: the calls take steps of a single flight.

## What is here

* `conclude`, `joining` — what is left of a call once its poll has ended, and of one that waits
  for the poll of another one.  Together with what is left of a poll these are all the
  continuations a call can have.
* `noted`, `joinEvents`, `leadEvents`, `publishEvents`, `endEvents` — the events of each part of a
  call, in their order.  A history is a list of these, so what a call has done can be read off it.
* `Shape` — where a call can be between two turns: it leads and waits within its poll, it has
  joined and waits for a future, or it is over.
* `Reflects` — nobody waits for the lock; it is held while there is a future; `_inflight` is the
  future of the call that leads; and a future holds the outcome of the poll that was led for it,
  once that has ended.  `Reflects.follow`, `Reflects.lead` and `Reflects.finish` are the ways in
  which it is kept.
* `turn_inner` — a turn of the poll itself: it waits again, or it ends and the call goes on.
* `turn_lead`, `turn_conclude` — a call that leads gets its lock at once, because nobody holds it
  who is not leading; and after its poll it gives the future its outcome, clears `_inflight`, lets
  go of the lock and ends, all within one turn.
* `Move` — what a call can do in one turn, as a relation between stages; each move is a step of
  `Data.SingleFlight` (`Move.steps`).
* `turn_execute`, `Shape.resume` — the first turn of a call, and the other ones.

That a call which has found no future does not have to wait for the lock is not an assumption:
between its look and the lock it is not suspended.
-/

set_option autoImplicit false

open Coroutine

namespace RmaPortal

open SingleFlight (Stage Calls Sound Step Steps)

namespace SharedQueue

variable {c : Prog SyncResult} {f : FutureId} {o : Except Exn SyncResult} {s s₁ : SharedQueue}
  {i : ℕ}

/-! ## Points of a call -/

/-- What is left of a call once its poll has ended with `o`. -/
def conclude (f : FutureId) (o : Except Exn SyncResult) : Call SyncResult := do
  let ended : Call SyncResult := do
    request (.executeOnceEnded o)
    .done o
  let (x, _) ← (ended.attempt >>= publish f).tryFinally (request .release)
  pure x

/-- What is left of a call that waits for the poll of another one. -/
def joining (f : FutureId) : Call SyncResult := do
  request (.awaitFuture f)
  request (.futureResult f)

/-- Something that happened to the poll itself. -/
def noted (e : Happening) : CallEvent := ⟨.inner e.1, e.2⟩

/-- What happens to a call before it waits for another one. -/
def joinEvents (f : FutureId) : List CallEvent :=
  [⟨.locked, .ok true⟩, ⟨.inflight, .ok (some f)⟩, ⟨.futureDone f, .ok false⟩]

/-- What happens to a call before its poll. -/
def leadEvents (f : FutureId) : List CallEvent :=
  [⟨.locked, .ok false⟩, ⟨.createFuture, .ok f⟩, ⟨.setInflight (some f), .ok ()⟩,
    ⟨.acquireFree, .ok true⟩, ⟨.executeOnceCalled, .ok ()⟩]

/-- How the outcome of a poll gets into its future. -/
def publishEvents (f : FutureId) : Except Exn SyncResult → List CallEvent
  | .ok result => [⟨.setResult f result, .ok ()⟩]
  | .error exc => [⟨.setException f exc, .ok ()⟩, ⟨.futureException f, .ok (some exc)⟩]

/-- What happens to a call after its poll. -/
def endEvents (f : FutureId) (o : Except Exn SyncResult) : List CallEvent :=
  [⟨.executeOnceEnded o, .ok ()⟩, ⟨.futureDone f, .ok false⟩] ++ publishEvents f o ++
    [⟨.setInflight none, .ok ()⟩, ⟨.release, .ok ()⟩]

/-- **Where a call can be between two turns**: its stage, everything that has happened to it, and
what is left of it. -/
inductive Shape (c : Prog SyncResult) :
    Stage (Except Exn SyncResult) → List CallEvent → Call SyncResult → Prop
  /-- It waits within its poll. -/
  | leads (f : FutureId) {t : List Happening} {c' : Prog SyncResult} (hafter : After c t c')
      (hwaits : ∀ o, c' ≠ .done o) :
      Shape c (.leads f) (leadEvents f ++ t.map noted) ((inner c').next (conclude f))
  /-- Its poll has ended, and so has the call. -/
  | led (f : FutureId) {t : List Happening} {o : Except Exn SyncResult} (hends : Ends c t o) :
      Shape c (.led f o) (leadEvents f ++ t.map noted ++ endEvents f o) (.done o)
  /-- It waits for the poll of another call. -/
  | joins (f : FutureId) : Shape c (.joins f) (joinEvents f) (joining f)
  /-- It has ended like the poll it has waited for. -/
  | joined (f : FutureId) (o : Except Exn SyncResult) :
      Shape c (.joined f o) (joinEvents f ++ [⟨.awaitFuture f, .ok ()⟩, ⟨.futureResult f, o⟩])
        (.done o)
  /-- It was cancelled while it waited. -/
  | left (f : FutureId) :
      Shape c (.left f) (joinEvents f ++ [⟨.awaitFuture f, .error taskCancelled⟩])
        (.done (.error taskCancelled))

/-- What is shared says where the calls are. -/
structure Reflects (s : SharedQueue) (calls : Calls (Except Exn SyncResult)) : Prop where
  /-- Nobody waits for the lock. -/
  waiters : s.waiters = 0
  /-- The lock is held while there is a future. -/
  locked : s.locked = s.inflight.isSome
  /-- The future is that of the call that leads. -/
  inflight : ∀ f, s.inflight = some f ↔ ∃ i, calls i = some (.leads f)
  /-- The futures that are done are those of the polls that have ended. -/
  outcome : ∀ f o, s.outcome f = some o ↔ ∃ i, calls i = some (.led f o)
  /-- All futures have been made. -/
  fresh : ∀ {i x}, calls i = some x → x.run < s.nextFuture

/-! ## What is shared keeps up with the calls -/

section Reflects

variable {calls : Calls (Except Exn SyncResult)}

theorem reflects_start : Reflects start fun _ ↦ none where
  waiters := rfl
  locked := rfl
  inflight := by simp [start]
  outcome := by simp [start]
  fresh := by simp

/-- Where there is a poll, its future is not done. -/
theorem Reflects.outcome_of_leads (h : Reflects s calls) (hsound : Sound calls)
    (hi : calls i = some (.leads f)) : s.outcome f = none := by
  refine Option.eq_none_iff_forall_ne_some.mpr fun o ho ↦ ?_
  obtain ⟨j, hj⟩ := (h.outcome f o).mp ho
  obtain rfl := hsound.leader_unique hi hj trivial trivial rfl
  cases hi.symm.trans hj

/-- A call that does not lead may do what it likes. -/
theorem Reflects.follow (h : Reflects s calls) {x : Stage (Except Exn SyncResult)}
    (hx : ¬x.IsLeader) (hrun : x.run < s.nextFuture)
    (hi : ∀ y, calls i = some y → ¬y.IsLeader) :
    Reflects s (Function.update calls i (some x)) := by
  have hsame : ∀ y : Stage (Except Exn SyncResult), y.IsLeader →
      ((∃ j, Function.update calls i (some x) j = some y) ↔ ∃ j, calls j = some y) := by
    intro y hy
    refine exists_congr fun j ↦ ?_
    rw [SingleFlight.update_eq_some]
    constructor
    · rintro (⟨-, rfl⟩ | ⟨-, hj⟩)
      · exact (hx hy).elim
      · exact hj
    · intro hj
      exact .inr ⟨fun hji ↦ hi y (hji ▸ hj) hy, hj⟩
  refine ⟨h.waiters, h.locked, fun f ↦ ?_, fun f o ↦ ?_, fun {j y} hj ↦ ?_⟩
  · exact (h.inflight f).trans (hsame (.leads f) trivial).symm
  · exact (h.outcome f o).trans (hsame (.led f o) trivial).symm
  · rcases SingleFlight.update_eq_some.mp hj with ⟨-, rfl⟩ | ⟨-, hj⟩
    · exact hrun
    · exact h.fresh hj

/-- What is shared when a call has begun to lead. -/
def leading (s : SharedQueue) : SharedQueue :=
  { s with locked := true, inflight := some s.nextFuture, nextFuture := s.nextFuture + 1 }

/-- What is shared when the poll for the future `f` has ended with `o`. -/
def concluded (f : FutureId) (o : Except Exn SyncResult) (s : SharedQueue) : SharedQueue :=
  { s with locked := false, inflight := none, outcome := Function.update s.outcome f (some o) }

theorem Reflects.lead (h : Reflects s calls) (hi : calls i = none)
    (hidle : ∀ j g, calls j ≠ some (.leads g)) :
    Reflects (leading s) (Function.update calls i (some (.leads s.nextFuture))) where
  waiters := h.waiters
  locked := rfl
  inflight f := by
    constructor
    · rintro ⟨⟩
      exact ⟨i, Function.update_self ..⟩
    · rintro ⟨j, hj⟩
      rcases SingleFlight.update_eq_some.mp hj with ⟨-, hf⟩ | ⟨-, hj⟩
      · cases hf
        rfl
      · exact (hidle j f hj).elim
  outcome f o := by
    refine (h.outcome f o).trans (exists_congr fun j ↦ ?_)
    rw [SingleFlight.update_eq_some]
    constructor
    · intro hj
      exact .inr ⟨fun hji ↦ by simp [hji, hi] at hj, hj⟩
    · rintro (⟨-, hx⟩ | ⟨-, hj⟩)
      · cases hx
      · exact hj
  fresh := by
    intro j x hj
    rcases SingleFlight.update_eq_some.mp hj with ⟨-, rfl⟩ | ⟨-, hj⟩
    · exact Nat.lt_succ_self s.nextFuture
    · exact Nat.lt_succ_of_lt (h.fresh hj)

theorem Reflects.finish (h : Reflects s calls) (hsound : Sound calls)
    (hi : calls i = some (.leads f)) (o : Except Exn SyncResult) :
    Reflects (concluded f o s) (Function.update calls i (some (.led f o))) where
  waiters := h.waiters
  locked := rfl
  inflight g := by
    constructor
    · rintro ⟨⟩
    · rintro ⟨j, hj⟩
      rcases SingleFlight.update_eq_some.mp hj with ⟨-, hx⟩ | ⟨hne, hj⟩
      · cases hx
      · exact (hne (hsound.leads_unique hj hi)).elim
  outcome g o' := by
    change Function.update s.outcome f (some o) g = some o' ↔ _
    by_cases hg : g = f
    · subst hg
      rw [Function.update_self]
      constructor
      · rintro ⟨⟩
        exact ⟨i, Function.update_self ..⟩
      · rintro ⟨j, hj⟩
        rcases SingleFlight.update_eq_some.mp hj with ⟨-, hx⟩ | ⟨hne, hj⟩
        · cases hx
          rfl
        · exact (hne (hsound.leader_unique hj hi trivial trivial rfl)).elim
    · rw [Function.update_of_ne hg, h.outcome]
      refine exists_congr fun j ↦ ?_
      rw [SingleFlight.update_eq_some]
      constructor
      · intro hj
        exact .inr ⟨fun hji ↦ by simp [hji, hi] at hj, hj⟩
      · rintro (⟨-, hx⟩ | ⟨-, hj⟩)
        · cases hx
          exact (hg rfl).elim
        · exact hj
  fresh := by
    intro j x hj
    rcases SingleFlight.update_eq_some.mp hj with ⟨-, rfl⟩ | ⟨-, hj⟩
    · exact h.fresh (x := .leads f) hi
    · exact h.fresh hj

end Reflects

/-! ## Turns -/

section Turns

variable {α : Type} {Q : List CallEvent → Call α → SharedQueue → Prop}

/-- A request that is answered on the spot, in the only way it can be. -/
theorem turn_serve {q : CallRequest} {a : Except Exn q.Val} {k : Except Exn q.Val → Call α}
    (hq : suspends q = false) (hserve : ∀ b, serve q b s = some (a, s₁))
    (h : Turn rules suspends (k a) s₁ fun t ↦ Q (⟨q, a⟩ :: t)) :
    Turn rules suspends (.ask q k) s Q := by
  refine turn_goes hq fun a' s' hstep ↦ ?_
  obtain ⟨b, hb⟩ := hstep
  cases (hserve b).symm.trans hb
  exact h

/-- A turn of a poll: it waits again, or it ends and the call goes on. -/
theorem turn_inner {g : Except Exn SyncResult → Call α}
    (hwaits : ∀ t c', After c t c' → (∀ o, c' ≠ .done o) → Q (t.map noted) ((inner c').next g) s)
    (hends : ∀ t o, Ends c t o →
      Turn rules suspends (g o) s fun t' ↦ Q (t.map noted ++ t')) :
    Turn rules suspends ((inner c).next g) s Q := by
  induction c generalizing Q with
  | done o => exact hends [] o ⟨rfl, rfl, rfl⟩
  | ask r k ih =>
    cases hr : suspends (.inner r) with
    | true => exact turn_waits hr (hwaits [] _ (.nil _) fun o ho ↦ by cases ho)
    | false =>
      refine turn_goes hr fun a s₁ hstep ↦ ?_
      obtain ⟨b, hb⟩ := hstep
      cases hb
      refine ih _ (fun t c' hafter hc' ↦ ?_) fun t o hends' ↦ ?_
      · exact hwaits (⟨r, _⟩ :: t) c' (.cons hafter) hc'
      · exact hends (⟨r, _⟩ :: t) o ⟨_, (), t, trivial, rfl, hends'⟩

end Turns

section

variable {Q : List CallEvent → Call SyncResult → SharedQueue → Prop}

/-- After its poll a call gives its future the outcome, clears `_inflight`, lets go of the lock and
ends. -/
theorem turn_conclude (hlocked : s.locked = true) (hf : s.outcome f = none)
    (h : Q (endEvents f o) (.done o) (concluded f o s)) :
    Turn rules suspends (conclude f o) s Q := by
  refine turn_serve rfl (fun _ ↦ rfl) ?_
  cases o with
  | ok result =>
    refine turn_serve rfl (a := .ok false) (fun _ ↦ by rw [serve, hf]; rfl) ?_
    refine turn_serve rfl (a := .ok ()) (fun _ ↦ by rw [serve, settle, hf]) ?_
    refine turn_serve rfl (fun _ ↦ rfl) ?_
    refine turn_serve rfl (a := .ok ()) (fun _ ↦ by rw [serve, hlocked, if_pos rfl]) ?_
    exact turn_done h
  | error exc =>
    refine turn_serve rfl (a := .ok false) (fun _ ↦ by rw [serve, hf]; rfl) ?_
    refine turn_serve rfl (a := .ok ()) (fun _ ↦ by rw [serve, settle, hf]) ?_
    refine turn_serve rfl (a := .ok (some exc))
      (fun _ ↦ by simp only [serve, Function.update_self]; rfl) ?_
    refine turn_serve rfl (fun _ ↦ rfl) ?_
    refine turn_serve rfl (a := .ok ()) (fun _ ↦ by rw [serve, hlocked, if_pos rfl]) ?_
    exact turn_done h

theorem inner_next_conclude (c : Prog SyncResult) (f : FutureId) :
    (do
      let ended : Call SyncResult := do
        let o ← (inner c).attempt
        request (.executeOnceEnded o)
        .done o
      let (x, _) ← (ended.attempt >>= publish f).tryFinally (request .release)
      pure x) = (inner c).next (conclude f) := by
  simp only [Coro.bind_eq, Coro.bind, Coro.attempt, Coro.tryFinally, Coro.next_next]
  refine congrArg _ (funext fun o ↦ ?_)
  simp only [conclude, Coro.bind_eq, Coro.bind, Coro.attempt, Coro.tryFinally, Coro.next_next]
  rfl

/-- A call that leads gets its lock at once and goes on to its poll. -/
theorem turn_lead (hlocked : s.locked = false) (hwaiters : s.waiters = 0)
    (h : Turn rules suspends ((inner c).next (conclude s.nextFuture)) (leading s) fun t ↦
      Q ((leadEvents s.nextFuture).tail ++ t)) :
    Turn rules suspends (lead c) s Q := by
  refine turn_serve rfl (fun _ ↦ rfl) ?_
  refine turn_serve rfl (fun _ ↦ rfl) ?_
  refine turn_serve rfl (fun _ ↦ if_neg (by simp [hlocked, hwaiters])) ?_
  refine turn_serve rfl (fun _ ↦ rfl) ?_
  rw [← inner_next_conclude] at h
  exact h

end

/-! ## What a turn can come to -/

/-- **What a call can do in one turn**: from one stage (`none` if the turn is its first) to another,
with the events of the turn and what it does to what is shared. -/
inductive Move (s : SharedQueue) : Option (Stage (Except Exn SyncResult)) → List CallEvent →
    SharedQueue → Stage (Except Exn SyncResult) → Prop
  /-- There is a poll, and the call waits for it. -/
  | join {f : FutureId} (hinflight : s.inflight = some f) :
      Move s none (joinEvents f) s (.joins f)
  /-- There is no poll, and the call begins one. -/
  | lead (t : List Happening) (hidle : s.inflight = none) :
      Move s none (leadEvents s.nextFuture ++ t.map noted) (leading s) (.leads s.nextFuture)
  /-- … and comes to its end without giving way. -/
  | leadAndFinish (t : List Happening) (o : Except Exn SyncResult) (hidle : s.inflight = none) :
      Move s none (leadEvents s.nextFuture ++ t.map noted ++ endEvents s.nextFuture o)
        (concluded s.nextFuture o (leading s)) (.led s.nextFuture o)
  /-- The poll goes on. -/
  | work (f : FutureId) (t : List Happening) : Move s (some (.leads f)) (t.map noted) s (.leads f)
  /-- The poll ends. -/
  | finish (f : FutureId) (t : List Happening) (o : Except Exn SyncResult) :
      Move s (some (.leads f)) (t.map noted ++ endEvents f o) (concluded f o s) (.led f o)
  /-- The call is given the outcome of the poll it has waited for. -/
  | deliver {f : FutureId} {o : Except Exn SyncResult} (houtcome : s.outcome f = some o) :
      Move s (some (.joins f)) [⟨.awaitFuture f, .ok ()⟩, ⟨.futureResult f, o⟩] s (.joined f o)
  /-- The call is cancelled while it waits. -/
  | leave (f : FutureId) :
      Move s (some (.joins f)) [⟨.awaitFuture f, .error taskCancelled⟩] s (.left f)

section

variable {calls : Calls (Except Exn SyncResult)} {s' : SharedQueue} {es : List CallEvent}
  {x : Stage (Except Exn SyncResult)}

theorem Reflects.idle (h : Reflects s calls) (hidle : s.inflight = none) (j : ℕ) (g : FutureId) :
    calls j ≠ some (.leads g) := by
  intro hj
  have hg := (h.inflight g).mpr ⟨j, hj⟩
  rw [hidle] at hg
  cases hg

/-- **The calls are a single flight**: what a call does in one turn are steps of one, and what is
shared keeps up with them. -/
theorem Move.steps (h : Move s (calls i) es s' x) (hs : Reflects s calls) (hsound : Sound calls) :
    Steps calls (Function.update calls i (some x)) ∧
      Reflects s' (Function.update calls i (some x)) := by
  generalize hx : calls i = y at h
  have hlead (hidle : s.inflight = none) (hfree : calls i = none) :
      Step calls (Function.update calls i (some (.leads s.nextFuture))) :=
    .lead hfree (hs.idle hidle) fun j y hj ↦ Nat.ne_of_lt (hs.fresh hj)
  cases h with
  | @join f hinflight =>
    obtain ⟨j, hj⟩ := (hs.inflight f).mp hinflight
    refine ⟨.single (.join hx hj), hs.follow id (hs.fresh (x := .leads f) hj) ?_⟩
    simp [hx]
  | lead t hidle => exact ⟨.single (hlead hidle hx), hs.lead hx (hs.idle hidle)⟩
  | leadAndFinish t o hidle =>
    have hi : Function.update calls i (some (.leads s.nextFuture)) i =
        some (.leads s.nextFuture) := Function.update_self ..
    have hstep := Step.finish hi o
    have hreflects := (hs.lead hx (hs.idle hidle)).finish (hsound.step (hlead hidle hx)) hi o
    rw [Function.update_idem] at hstep hreflects
    exact ⟨.tail (.single (hlead hidle hx)) hstep, hreflects⟩
  | work f t =>
    rw [← hx, Function.update_eq_self]
    exact ⟨.refl, hs⟩
  | finish f t o => exact ⟨.single (.finish hx o), hs.finish hsound hx o⟩
  | @deliver f o houtcome =>
    obtain ⟨j, hj⟩ := (hs.outcome f o).mp houtcome
    refine ⟨.single (.deliver hx hj), hs.follow id (hs.fresh (x := .joins f) hx) ?_⟩
    simp [hx, Stage.IsLeader]
  | leave f =>
    refine ⟨.single (.leave hx), hs.follow id (hs.fresh (x := .joins f) hx) ?_⟩
    simp [hx, Stage.IsLeader]

/-- **The first turn of a call.** -/
theorem turn_execute (hs : Reflects s calls) (hsound : Sound calls) (c : Prog SyncResult) :
    Turn rules suspends (execute c) s fun t c' s' ↦
      ∃ x, Move s none t s' x ∧ Shape c x t c' := by
  have hlock := hs.locked
  cases hinflight : s.inflight with
  | some f =>
    rw [hinflight] at hlock
    obtain ⟨j, hj⟩ := (hs.inflight f).mp hinflight
    have hf := hs.outcome_of_leads hsound hj
    refine turn_serve rfl (a := .ok true) (fun _ ↦ by rw [serve, hlock]; rfl) ?_
    refine turn_serve rfl (a := .ok (some f)) (fun _ ↦ by rw [serve, hinflight]) ?_
    refine turn_serve rfl (a := .ok false) (fun _ ↦ by rw [serve, hf]; rfl) ?_
    exact turn_waits rfl ⟨_, .join hinflight, .joins f⟩
  | none =>
    rw [hinflight] at hlock
    -- the future that is about to be made is not done
    have hfresh : s.outcome s.nextFuture = none := by
      refine Option.eq_none_iff_forall_ne_some.mpr fun o ho ↦ ?_
      obtain ⟨j, hj⟩ := (hs.outcome _ o).mp ho
      exact Nat.lt_irrefl _ (hs.fresh hj)
    refine turn_serve rfl (a := .ok false) (fun _ ↦ by rw [serve, hlock]; rfl) ?_
    refine turn_lead hlock hs.waiters ?_
    refine turn_inner (fun t c' hafter hwaits ↦ ?_) fun t o hends ↦ ?_
    · exact ⟨_, .lead t hinflight, .leads _ hafter hwaits⟩
    · refine turn_conclude rfl hfresh ?_
      have hmove := Move.leadAndFinish t o hinflight
      have hshape := Shape.led s.nextFuture hends
      rw [List.append_assoc] at hmove hshape
      exact ⟨_, hmove, hshape⟩

/-- **The other turns.** -/
theorem Shape.resume {t : List CallEvent} {q : CallRequest}
    {k : Except Exn q.Val → Call SyncResult} {a : Except Exn q.Val}
    (h : Shape c x t (.ask q k)) (hi : calls i = some x) (hs : Reflects s calls)
    (hsound : Sound calls) (hstep : rules.step s q a s₁) :
    Turn rules suspends (k a) s₁ fun t' c' s' ↦
      ∃ y, Move s (some x) (⟨q, a⟩ :: t') s' y ∧ Shape c y (t ++ ⟨q, a⟩ :: t') c' := by
  generalize hc : Coro.ask q k = rest at h
  cases h with
  | @leads f t c' hafter hwaits =>
    cases c' with
    | done o => exact (hwaits o rfl).elim
    | ask r k' =>
      cases hc
      obtain ⟨b, hb⟩ := hstep
      cases hb
      refine turn_inner (fun t' c' hafter' hwaits' ↦ ?_) fun t' o hends ↦ ?_
      · refine ⟨_, .work f (⟨r, _⟩ :: t'), ?_⟩
        have hshape := Shape.leads f (hafter.append (.cons hafter')) hwaits'
        rw [List.map_append, ← List.append_assoc] at hshape
        exact hshape
      · refine turn_conclude (hs.locked.trans ?_) (hs.outcome_of_leads hsound hi) ?_
        · rw [(hs.inflight f).mpr ⟨i, hi⟩]
          rfl
        · refine ⟨_, .finish f (⟨r, _⟩ :: t') o, ?_⟩
          have hshape := Shape.led f (hafter.ends (o := o) ⟨_, (), _, trivial, rfl, hends⟩)
          rw [List.map_append, List.append_assoc, List.append_assoc] at hshape
          rw [List.append_assoc]
          exact hshape
  | joins f =>
    cases hc
    obtain ⟨b, hb⟩ := hstep
    cases b with
    | error e =>
      cases hb
      exact turn_done ⟨_, .leave f, .left f⟩
    | ok _ =>
      cases ho : s.outcome f with
      | none => simp [serve, ho] at hb
      | some o =>
        simp only [serve, ho, Option.map_some, Option.some.injEq, Prod.mk.injEq] at hb
        obtain ⟨rfl, rfl⟩ := hb
        refine turn_serve (q := .futureResult f) (a := o) rfl (fun _ ↦ by rw [serve, ho]; rfl) ?_
        exact turn_done ⟨_, .deliver ho, .joined f o⟩
  | _ => cases hc

end

end SharedQueue

end RmaPortal
