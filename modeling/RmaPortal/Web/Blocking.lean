import RmaPortal.Accounts.DashboardHistory
import RmaPortal.Synchronization.OpenTransactions

/-!
# Who waits for the database

While a poll has a transaction open nobody else can write.  A poll may take many minutes, most of
them waiting for the portal to answer; but then no transaction is open, and the site is answered as
if there were no poll (`unblocked_of_awaits`).  And a transaction of a poll comes to its end without
waiting for anything but the database, so nobody waits for ever.

A page that is refreshed waits for a poll, too, but not for the database: nothing of the site is
open while it waits, and other requests are served.

## What is here

* `PollState.awaits` — what is left of the poll that is running begins with a request that suspends.
* `Portal.Disciplined` — the poll that is running closes what it has open, by the brackets of its
  requests; each step of a poll keeps this, and the site does not touch it.
* `Unblocked` — whatever is asked, the answer is the one of a site without polls.
* `exists_pending_eq_none` — by induction on what is left of the poll: however it goes on, a
  transaction that is open is closed.
-/

set_option autoImplicit false

open Coroutine

namespace RmaPortal

open SyncAgreementQueue

/-- There is no poll, or it waits for something else than the database. -/
def PollState.awaits (s : PollState) : Bool :=
  match s.running with
  | none => true
  | some (_, .ask r _) => suspends r
  | some (_, .done _) => true

/-- The poll that is running closes the transaction that it has open. -/
structure Portal.Disciplined (s : Portal) : Prop where
  idle : s.running = none → s.state.db.pending = none
  running : ∀ t c, s.running = some (t, c) → Closes unitRole c s.state.db.pending.isSome

/-- What is awaited has nothing to do with the database. -/
theorem unitRole_of_suspends {r : Request} (h : suspends r = true) : unitRole r = .outer := by
  cases r with
  | reader | portal | inflight => rfl
  | uow | now | iterate | selectOrder => cases h

/-- A transaction is open as the requests say that are answered. -/
theorem brackets_serve (r : Request) (b : Except Exn r.Val) (w : World)
    (hpre : (brackets unitRole : Spec Request.Val Exn Bool).pre w.db.pending.isSome r) :
    (brackets unitRole).step w.db.pending.isSome r (serve r b w).1
      (serve r b w).2.db.pending.isSome := by
  cases r with
  | reader | portal | now | iterate | selectOrder | inflight => rfl
  | uow q =>
    cases q with
    | exit tx => rfl
    | enter tx => cases b <;> rfl
    | commit tx =>
      cases b with
      | error e => rfl
      | ok u =>
        simp only [serve, UowRequest.serve]
        split
        · rfl
        · rename_i hsome
          simp [brackets, unitRole, hsome]
    | repo tx op =>
      cases b with
      | error e => rfl
      | ok v =>
        simp only [serve, UowRequest.serve]
        split
        · rfl
        · rename_i hsome
          split <;> simp [brackets, unitRole, hsome]

namespace Portal

variable {H : Type} {F : PortalReaderFactory H} {s s' : Portal}

/-- **A step of a poll** keeps the discipline. -/
theorem Disciplined.step (h : Disciplined s) (hstep : Step F .poll s s') : Disciplined s' := by
  cases hstep with
  | @begins w finished =>
    have hidle : w.db.pending = none := h.idle rfl
    refine ⟨(fun hnone ↦ by cases hnone), ?_⟩
    rintro _ _ ⟨⟩
    change Closes unitRole (execute F) w.db.pending.isSome
    rw [hidle]
    exact balanced_execute F
  | asks b =>
    have hcloses := h.running _ _ rfl
    refine ⟨(fun hnone ↦ by cases hnone), ?_⟩
    rintro _ _ ⟨⟩
    exact hcloses.step (brackets_serve _ b _ hcloses.allowed)
  | ends =>
    have hclosed := (h.running _ _ rfl).of_done
    exact ⟨fun _ ↦ Option.not_isSome_iff_eq_none.mp (Bool.eq_false_iff.mp hclosed),
      fun _ _ hsome ↦ by cases hsome⟩

/-- A poll that waits has no transaction open. -/
theorem Disciplined.pending_of_asks (h : Disciplined s) {t : List Happening} {r : Request}
    {k : Except Exn r.Val → Prog SyncResult} (hrunning : s.running = some (t, .ask r k))
    (hsuspends : suspends r = true) : s.state.db.pending = none := by
  have hallowed := (h.running _ _ hrunning).allowed
  simpa [brackets, unitRole_of_suspends hsuspends] using hallowed

end Portal

namespace Site

/-- The site is answered as if there were no poll. -/
def Unblocked (site : SiteSettings) (w : Workplace) : Prop :=
  ∀ (q : SiteRequest) (v : q.Val), (Workplace.serve site q (.ok v) w).1 =
      (SiteRequest.answer site w.db q v).1 ∧
    (Workplace.serve site q (.ok v) w).2.db = (SiteRequest.answer site w.db q v).2

theorem unblocked_of_pending {site : SiteSettings} {w : Workplace} (h : w.poll.pending = none) :
    Unblocked site w := by
  intro q v
  rw [Workplace.serve_ok]
  simp only [Workplace.grant]
  split
  · exact ⟨rfl, rfl⟩
  · rename_i hsome
    rw [h] at hsome
    cases hsome

section

variable {H : Type} {F : PortalReaderFactory H} {site : SiteSettings} {requests : ℕ → HttpRequest}
  {db : EmployeeDatabase} {profile : PortalState} {ls : SiteLabels} {p : SitePool}
  {w w' : Workplace}

/-- The site does not touch the transactions of a poll. -/
theorem disciplined_of_run (h : IsSiteRun site F requests (.opened db profile) ls p) :
    p.state.portal.Disciplined := by
  induction h using IsSiteRun.induct with
  | opened => exact ⟨fun _ ↦ rfl, fun _ _ hsome ↦ by cases hsome⟩
  | polled ls q w _ hpoll ih => exact ih.step hpoll.step
  | served ls l q p _ _ hstep _ ih =>
    have hpoll : p.state.poll = q.state.poll := by
      obtain ⟨-, hstate⟩ | ⟨task, r, k, a, -, -, -, -, hpoll⟩ := answer_of_step hstep
      · rw [hstate]
      · exact hpoll
    refine ⟨fun hnone ↦ ?_, fun t c hsome ↦ ?_⟩
    · change p.state.poll.pending = none
      rw [hpoll]
      exact ih.idle (show q.state.poll.running = none from hpoll ▸ hnone)
    · change Closes unitRole c p.state.poll.pending.isSome
      rw [hpoll]
      exact ih.running t c (show q.state.poll.running = _ from hpoll ▸ hsome)

/-- However a poll goes on that has a transaction open, it closes it. -/
theorem exists_pending_eq_none (f : ℕ → Workplace) (hsteps : ∀ n, PollStep F (f n) (f (n + 1)))
    (c : Prog SyncResult) {n : ℕ} {t : List Happening} (h : (f n).portal.Disciplined)
    (hrunning : (f n).poll.running = some (t, c)) : ∃ m, (f m).poll.pending = none := by
  induction c generalizing n t with
  | done o =>
    have hclosed := (h.running _ _ hrunning).of_done
    exact ⟨n, Option.not_isSome_iff_eq_none.mp (Bool.eq_false_iff.mp hclosed)⟩
  | ask r k ih =>
    have hstep := (hsteps n).step
    have hnext := h.step hstep
    have hrunning : (f n).portal.running = some (t, .ask r k) := hrunning
    generalize (f n).portal = s at hstep hrunning
    generalize hs' : (f (n + 1)).portal = s' at hstep hnext
    cases hstep with
    | begins => cases hrunning
    | ends => cases hrunning
    | asks b =>
      cases hrunning
      exact ih _ (n := n + 1) (hs' ▸ hnext) (congrArg Portal.running hs')

/-- **The site is not blocked by a poll that waits** for the portal, or for anything else but the
database; and no poll blocks it for ever. -/
theorem unblocked_of_awaits (h : IsSiteRun site F requests (.opened db profile) ls p) :
    (p.state.poll.awaits = true → Unblocked site p.state) ∧
      ∀ f : ℕ → Workplace, f 0 = p.state → (∀ n, PollStep F (f n) (f (n + 1))) →
        ∃ n, Unblocked site (f n) := by
  have hdisciplined := disciplined_of_run h
  constructor
  · intro hawaits
    refine unblocked_of_pending ?_
    unfold PollState.awaits at hawaits
    split at hawaits
    · rename_i hnone
      exact hdisciplined.idle hnone
    · rename_i hrunning
      exact hdisciplined.pending_of_asks hrunning hawaits
    · rename_i hrunning
      have hclosed := (hdisciplined.running _ _ hrunning).of_done
      exact Option.not_isSome_iff_eq_none.mp (Bool.eq_false_iff.mp hclosed)
  · intro f hf hsteps
    rw [← hf] at hdisciplined
    cases hrunning : (f 0).poll.running with
    | none => exact ⟨0, unblocked_of_pending (hdisciplined.idle hrunning)⟩
    | some x =>
      obtain ⟨n, hpending⟩ := exists_pending_eq_none f hsteps x.2 hdisciplined hrunning
      exact ⟨n, unblocked_of_pending hpending⟩

end

/-- The poll makes a request, and is answered as suggested. -/
def askPoll (suggest : (r : Request) → Except Exn r.Val) (s : Portal) : Portal :=
  match s.running with
  | some (t, .ask r k) =>
    let (a, w) := serve r (suggest r) s.state
    ⟨w, s.finished, some (t ++ [⟨r, a⟩], k a)⟩
  | _ => s

theorem steps_askPoll {H : Type} {F : PortalReaderFactory H}
    (suggest : (r : Request) → Except Exn r.Val) (s : Portal) :
    Relation.ReflTransGen (Portal.Step F .poll) s (askPoll suggest s) := by
  obtain ⟨w, finished, _ | ⟨t, _ | ⟨r, k⟩⟩⟩ := s
  · exact .refl
  · exact .refl
  · exact .single (.asks (suggest r))

/-- A poll that has just begun. -/
def pollBegun : Portal :=
  { (newProcess staffed).portal with
    running := some ([], execute (camoufoxPortalReaderFactory .standard)) }

/-- A poll that waits for the queue of the portal. -/
def readingQueue : Portal :=
  (askPoll (Script.shows []).suggest)^[20] pollBegun

def readsQueue (s : Portal) : Bool :=
  match s.running with
  | some (_, .ask (.reader .readAgreementQueue) _) => true
  | _ => false

theorem steps_readingQueue : Relation.ReflTransGen
    (Portal.Step (camoufoxPortalReaderFactory .standard) .poll) (newProcess staffed).portal
      readingQueue := by
  have hsteps : ∀ (n : ℕ) (s : Portal), Relation.ReflTransGen
      (Portal.Step (camoufoxPortalReaderFactory .standard) .poll) s
        ((askPoll (Script.shows []).suggest)^[n] s) := by
    intro n
    induction n with
    | zero => exact fun _ ↦ .refl
    | succ n ih => exact fun s ↦ (steps_askPoll _ s).trans (ih _)
  exact .head .begins (hsteps 20 pollBegun)

/-- The site is answered while the queue is read. -/
theorem unblocked_of_awaits_readingQueue : ∃ w,
    IsPlainRun sessionRequests (newProcess staffed) [] (Pool.empty w) ∧
      w.portal = readingQueue ∧ readsQueue readingQueue = true ∧ w.poll.awaits = true ∧
      Unblocked plainSite w := by
  obtain ⟨w, hrun, hportal, -⟩ :=
    (isPlainRun_empty sessionRequests (newProcess staffed)).exists_polled steps_readingQueue
  have hreads : readsQueue readingQueue = true := by decide +kernel
  have hawaits : w.poll.awaits = true := by
    rw [← hportal] at hreads
    simp only [readsQueue] at hreads
    split at hreads
    · rename_i hrunning
      replace hrunning : w.poll.running = _ := hrunning
      simp only [PollState.awaits, hrunning, suspends]
    · cases hreads
  exact ⟨w, hrun, hportal, hreads, hawaits, (unblocked_of_awaits hrun).1 hawaits⟩

end Site
end RmaPortal
