import RmaPortal.Infrastructure.Portal.PageReader

/-!
# What a reader concludes from a page that it polls

`verifyAuthenticated` and `pollForQueueView` look at the page again and again: is there a login or
revalidation marker in its markup, and is the queue view visible?  Nothing is known about the page
but what each poll finds, an infinite sequence of observations, and `observed` is a page that
shows just that.

A poll *succeeds* if it finds the view and no poll so far has found a marker, and it *refuses* if
it finds a marker and no poll before has succeeded.  The first poll that does either decides
(`verdict`), and only a deadline ends the polling without one: `authentication_needs_evidence`.
`readAgreementQueue` calls `waitForQueueView`, whose number of polls is limited; if the deadline
passes within that number, it is the same (`waitForQueueView_eq`).

## What is here

* `Observation`, `HasMarker`, `ShowsView`, `observed` — what a poll finds: the markup, how many
  elements are the queue view, whether the first of them is visible, and whether the deadline has
  passed.
* `replay_poll` — a round of either loop, up to the point where they differ;
  `replay_pollAuthenticated` and `replay_pollQueueView` are the rounds themselves.
* `verdict`, `queueVerdict` — how a single poll decides, if it does.  The second one also knows
  the deadline.
* `Verifies`, `FindsQueueView` — how the loops end, by `LoopEnds`: for some number of rounds.
  Neither loop is cut off by a number that the code does not have.
* `Succeeds`, `Refuses` and `exists_first` — among the polls up to one with a marker or a view
  there is a first one, and it decides.
* `verifies_ok_iff`, `verifies_error_iff`, `neverVerifies_iff` — `verify_authenticated` returns
  exactly if some poll succeeds, raises exactly if one refuses, and goes on for ever if there is
  neither.
* `findsQueueView_iff_of_decided`, `findsQueueView_iff_of_expired`,
  `findsQueueView_iff_of_never_expired` — the same with a deadline: up to the poll that finds it
  expired everything is as without one.
* `authentication_needs_evidence` — the two together.

An exception that the page raises is not among the observations; it ends either loop at once, and
what is concluded from it is part of how a queue is read (`Reading.Queue`).
-/

set_option autoImplicit false

open Coroutine

namespace RmaPortal
namespace PageReader

/-- What a poll finds: the markup, how many elements are the queue view, whether the first of them
is visible, and whether the deadline has passed. -/
structure Observation where
  markup : Markup
  count : ℕ
  isVisible : Bool
  expired : Bool

namespace Observation

variable (o : Observation)

/-- There is a login or revalidation marker in the markup. -/
def HasMarker : Prop := Parser.detectAuthRequired o.markup.html = true

/-- The queue view is visible. -/
def ShowsView : Prop := 0 < o.count ∧ o.isVisible = true

instance : Decidable o.HasMarker := inferInstanceAs (Decidable (_ = true))

instance : Decidable o.ShowsView := inferInstanceAs (Decidable (_ ∧ _))

end Observation

variable (obs : ℕ → Observation)

/-- A page that shows what the polls find; the state is how often has been waited. -/
def observed : (q : PageRequest) → ℕ → Except Exn q.Val × ℕ
  | .goto _ _, i => (.ok (), i)
  | .content, i => (.ok (obs i).markup, i)
  | .count _, i => (.ok (obs i).count, i)
  | .isVisible _, i => (.ok (obs i).isVisible, i)
  | .deadlinePassed, i => (.ok (obs i).expired, i)
  | .waitForTimeout _, i => (.ok (), i + 1)
  | _, i => (.error (.exception "Error" "not a poll"), i)

def authRequired : Exn := .portalAuthRequiredError authRequiredMessage

/-! ## A round -/

section Round

variable {obs} {i : ℕ}

theorem replay_content :
    replay (observed obs) (page .content) i = (.ok (obs i).markup, i) := rfl

theorem replay_assertAuthenticated_of_marker (h : (obs i).HasMarker) :
    replay (observed obs) assertAuthenticated i = (.error authRequired, i) := by
  rw [assertAuthenticated, replay_bind_of_ok (observed obs) _ replay_content]
  rw [if_pos (show Parser.detectAuthRequired (obs i).markup.html = true from h)]
  rfl

theorem replay_assertAuthenticated_of_not_marker (h : ¬ (obs i).HasMarker) :
    replay (observed obs) assertAuthenticated i = (.ok (), i) := by
  rw [assertAuthenticated, replay_bind_of_ok (observed obs) _ replay_content]
  rw [if_neg (show ¬ Parser.detectAuthRequired (obs i).markup.html = true from h)]
  rfl

theorem replay_isAuthenticatedViewPresent :
    replay (observed obs) isAuthenticatedViewPresent i = (.ok (decide (obs i).ShowsView), i) := by
  have hcount : replay (observed obs) (page (.count authenticatedViewSelector)) i =
      (.ok (obs i).count, i) := rfl
  rw [isAuthenticatedViewPresent, replay_bind_of_ok (observed obs) _ hcount]
  by_cases hpos : 0 < (obs i).count
  · rw [if_pos hpos]
    show (Except.ok (obs i).isVisible, i) = _
    simp [Observation.ShowsView, hpos]
  · rw [if_neg hpos]
    show (Except.ok false, i) = _
    simp [Observation.ShowsView, hpos]

/-- A round of either loop, up to the point where they differ. -/
theorem replay_poll {β : Type} (found rest : PageCall β) :
    replay (observed obs) (do
      assertAuthenticated
      if ← isAuthenticatedViewPresent then found else rest) i =
    if (obs i).HasMarker then (.error authRequired, i)
    else if (obs i).ShowsView then replay (observed obs) found i
    else replay (observed obs) rest i := by
  by_cases hmarker : (obs i).HasMarker
  · rw [if_pos hmarker]
    exact replay_bind_of_error _ _ (replay_assertAuthenticated_of_marker hmarker)
  · rw [if_neg hmarker, replay_bind_of_ok _ _ (replay_assertAuthenticated_of_not_marker hmarker),
      replay_bind_of_ok _ _ replay_isAuthenticatedViewPresent]
    by_cases hview : (obs i).ShowsView
    · rw [if_pos (decide_eq_true hview), if_pos hview]
    · rw [if_neg (by simpa using hview), if_neg hview]

end Round

/-! ## Which poll decides -/

/-- How a poll of `verify_authenticated` decides, if it does. -/
def verdict (o : Observation) : Option (Except Exn Unit) :=
  if o.HasMarker then some (.error authRequired)
  else if o.ShowsView then some (.ok ()) else none

/-- How a poll of `_wait_for_queue_view` decides, if it does. -/
def queueVerdict (o : Observation) : Option (Except Exn Unit) :=
  (verdict o).or (if o.expired then some (.error queueViewTimedOut) else none)

/-- `verify_authenticated` ends with the outcome `o`. -/
def Verifies {Tag : Type} (r : PageReader Tag) (o : Except Exn Unit) : Prop :=
  ∃ n, (replay (observed obs) (verifyAuthenticated r n) 0).1 = o.map some

/-- `_wait_for_queue_view` ends with the outcome `o`. -/
def FindsQueueView (o : Except Exn Unit) : Prop :=
  ∃ n, (replay (observed obs) (pollForQueueView n) 0).1 = o.map some

theorem replay_deadlinePassed (i : ℕ) :
    replay (observed obs) (page .deadlinePassed) i = (.ok (obs i).expired, i) := rfl

/-- What a round of `verify_authenticated` does. -/
theorem replay_pollAuthenticated (i : ℕ) :
    replay (observed obs) pollAuthenticated i =
      match verdict (obs i) with
      | some o => (o.map some, i)
      | none => (.ok none, i + 1) := by
  rw [pollAuthenticated, replay_poll, verdict]
  by_cases hmarker : (obs i).HasMarker
  · rw [if_pos hmarker, if_pos hmarker]
    rfl
  · rw [if_neg hmarker, if_neg hmarker]
    by_cases hview : (obs i).ShowsView
    · rw [if_pos hview, if_pos hview]
      rfl
    · rw [if_neg hview, if_neg hview]
      rfl

/-- What a round of `_wait_for_queue_view` does. -/
theorem replay_pollQueueView (i : ℕ) :
    replay (observed obs) pollQueueView i =
      match queueVerdict (obs i) with
      | some o => (o.map some, i)
      | none => (.ok none, i + 1) := by
  rw [pollQueueView, replay_poll, queueVerdict, verdict]
  by_cases hmarker : (obs i).HasMarker
  · rw [if_pos hmarker, if_pos hmarker]
    rfl
  · rw [if_neg hmarker, if_neg hmarker]
    by_cases hview : (obs i).ShowsView
    · rw [if_pos hview, if_pos hview]
      rfl
    · rw [if_neg hview, if_neg hview, replay_bind_of_ok _ _ (replay_deadlinePassed obs i)]
      cases (obs i).expired with
      | true => rfl
      | false => rfl

theorem verifies_iff {Tag : Type} {r : PageReader Tag} {o : Except Exn Unit} :
    Verifies obs r o ↔ ∃ i, verdict (obs i) = some o ∧ ∀ j < i, verdict (obs j) = none :=
  loopEnds_iff (fun i ↦ i)
    (fun i h ↦ by rw [replay_pollAuthenticated, h])
    (fun i o h ↦ by rw [replay_pollAuthenticated, h])

theorem findsQueueView_iff {o : Except Exn Unit} :
    FindsQueueView obs o ↔
      ∃ i, queueVerdict (obs i) = some o ∧ ∀ j < i, queueVerdict (obs j) = none :=
  loopEnds_iff (fun i ↦ i)
    (fun i h ↦ by rw [replay_pollQueueView, h])
    (fun i o h ↦ by rw [replay_pollQueueView, h])

theorem loops_verifying_iff {Tag : Type} {r : PageReader Tag} :
    (∀ n, (replay (observed obs) (verifyAuthenticated r n) 0).1 = .ok none) ↔
      ∀ i, verdict (obs i) = none :=
  loopsForever_iff (fun i ↦ i)
    (fun i h ↦ by rw [replay_pollAuthenticated, h])
    (fun i o h ↦ by rw [replay_pollAuthenticated, h])

theorem Verifies.unique {Tag : Type} {r : PageReader Tag} {o o' : Except Exn Unit}
    (h : Verifies obs r o) (h' : Verifies obs r o') : o = o' := by
  have hloop : LoopEnds (observed obs) pollAuthenticated 0 o := h
  exact hloop.unique h'

theorem FindsQueueView.unique {o o' : Except Exn Unit} (h : FindsQueueView obs o)
    (h' : FindsQueueView obs o') : o = o' := by
  have hloop : LoopEnds (observed obs) pollQueueView 0 o := h
  exact hloop.unique h'

/-! ## Evidence -/

/-- The poll finds the view, and no poll so far has found a marker. -/
def Succeeds (i : ℕ) : Prop := (obs i).ShowsView ∧ ∀ j ≤ i, ¬ (obs j).HasMarker

/-- The poll finds a marker, and no poll before has succeeded. -/
def Refuses (i : ℕ) : Prop := (obs i).HasMarker ∧ ∀ j < i, ¬ Succeeds obs j

section Evidence

variable {obs} {i : ℕ}

theorem verdict_eq_none {o : Observation} :
    verdict o = none ↔ ¬ o.HasMarker ∧ ¬ o.ShowsView := by
  rw [verdict]
  by_cases hmarker : o.HasMarker <;> by_cases hview : o.ShowsView <;> simp [hmarker, hview]

/-- The first poll that decides succeeds or refuses. -/
theorem succeeds_or_refuses_of_first {o : Except Exn Unit} (h : verdict (obs i) = some o)
    (hfirst : ∀ j < i, verdict (obs j) = none) :
    (o = .ok () ∧ Succeeds obs i) ∨ (o = .error authRequired ∧ Refuses obs i) := by
  rw [verdict] at h
  by_cases hmarker : (obs i).HasMarker
  · rw [if_pos hmarker] at h
    cases h
    exact Or.inr ⟨rfl, hmarker, fun j hj hsucc ↦ (verdict_eq_none.mp (hfirst j hj)).2 hsucc.1⟩
  · rw [if_neg hmarker] at h
    by_cases hview : (obs i).ShowsView
    · rw [if_pos hview] at h
      cases h
      refine Or.inl ⟨rfl, hview, fun j hj ↦ ?_⟩
      rcases Nat.lt_or_eq_of_le hj with hj | rfl
      · exact (verdict_eq_none.mp (hfirst j hj)).1
      · exact hmarker
    · rw [if_neg hview] at h
      cases h

/-- Among the polls up to one with a marker or a view, there is a first. -/
theorem exists_first (h : verdict (obs i) ≠ none) :
    ∃ k ≤ i, ∃ o, verdict (obs k) = some o ∧ ∀ j < k, verdict (obs j) = none := by
  have hex : ∃ k, verdict (obs k) ≠ none := ⟨i, h⟩
  obtain ⟨o, ho⟩ := Option.ne_none_iff_exists'.mp (Nat.find_spec hex)
  exact ⟨Nat.find hex, Nat.find_min' hex h, o, ho, fun j hj ↦ by simpa using Nat.find_min hex hj⟩

/-- A poll that succeeds is not before one that decides otherwise. -/
theorem Succeeds.first (h : Succeeds obs i) :
    ∃ k ≤ i, verdict (obs k) = some (.ok ()) ∧ ∀ j < k, verdict (obs j) = none := by
  obtain ⟨k, hk, o, ho, hfirst⟩ := exists_first fun hnone ↦ (verdict_eq_none.mp hnone).2 h.1
  rcases succeeds_or_refuses_of_first ho hfirst with ⟨rfl, -⟩ | ⟨rfl, hrefuses⟩
  · exact ⟨k, hk, ho, hfirst⟩
  · exact absurd hrefuses.1 (h.2 k hk)

theorem Refuses.first (h : Refuses obs i) :
    ∃ k ≤ i, verdict (obs k) = some (.error authRequired) ∧ ∀ j < k, verdict (obs j) = none := by
  obtain ⟨k, hk, o, ho, hfirst⟩ := exists_first fun hnone ↦ (verdict_eq_none.mp hnone).1 h.1
  rcases succeeds_or_refuses_of_first ho hfirst with ⟨rfl, hsucc⟩ | ⟨rfl, -⟩
  · rcases Nat.lt_or_eq_of_le hk with hk | rfl
    · exact absurd hsucc (h.2 k hk)
    · exact absurd h.1 (hsucc.2 k (Nat.le_refl k))
  · exact ⟨k, hk, ho, hfirst⟩

/-- No poll decides as long as none succeeds or refuses. -/
theorem verdict_eq_none_of_neither {e : ℕ} (h : ∀ i ≤ e, ¬ Succeeds obs i ∧ ¬ Refuses obs i)
    (hi : i ≤ e) : verdict (obs i) = none := by
  by_contra hne
  obtain ⟨k, hk, o, ho, hfirst⟩ := exists_first hne
  rcases succeeds_or_refuses_of_first ho hfirst with ⟨-, hsucc⟩ | ⟨-, hrefuses⟩
  · exact (h k (Nat.le_trans hk hi)).1 hsucc
  · exact (h k (Nat.le_trans hk hi)).2 hrefuses

end Evidence

/-! ## The polls and their outcome -/

section Outcome

variable {obs} {Tag : Type} (r : PageReader Tag)

theorem verifies_ok_iff : Verifies obs r (.ok ()) ↔ ∃ i, Succeeds obs i := by
  rw [verifies_iff]
  constructor
  · rintro ⟨i, hi, hfirst⟩
    rcases succeeds_or_refuses_of_first hi hfirst with ⟨-, h⟩ | ⟨h, -⟩
    · exact ⟨i, h⟩
    · cases h
  · rintro ⟨i, h⟩
    obtain ⟨k, -, hk⟩ := h.first
    exact ⟨k, hk⟩

theorem verifies_error_iff {e : Exn} :
    Verifies obs r (.error e) ↔ e = authRequired ∧ ∃ i, Refuses obs i := by
  rw [verifies_iff]
  constructor
  · rintro ⟨i, hi, hfirst⟩
    rcases succeeds_or_refuses_of_first hi hfirst with ⟨h, -⟩ | ⟨h, hrefuses⟩
    · cases h
    · cases h
      exact ⟨rfl, i, hrefuses⟩
  · rintro ⟨rfl, i, h⟩
    obtain ⟨k, -, hk⟩ := h.first
    exact ⟨k, hk⟩

theorem neverVerifies_iff :
    (∀ n, (replay (observed obs) (verifyAuthenticated r n) 0).1 = .ok none) ↔
      ∀ i, ¬ Succeeds obs i ∧ ¬ Refuses obs i := by
  rw [loops_verifying_iff]
  constructor
  · intro h i
    exact ⟨fun hsucc ↦ (verdict_eq_none.mp (h i)).2 hsucc.1,
      fun hrefuses ↦ (verdict_eq_none.mp (h i)).1 hrefuses.1⟩
  · exact fun h i ↦ verdict_eq_none_of_neither (fun j _ ↦ h j) (Nat.le_refl i)

/-- Before the deadline, a poll decides as without one. -/
theorem queueVerdict_eq_verdict {o : Observation} (h : o.expired = false) :
    queueVerdict o = verdict o := by
  rw [queueVerdict, if_neg (by rw [h]; exact Bool.false_ne_true), Option.or_none]

/-- A poll that finds the deadline expired decides. -/
theorem exists_queueVerdict {o : Observation} (h : o.expired = true) :
    ∃ o', queueVerdict o = some o' := by
  rw [queueVerdict, if_pos h]
  cases verdict o with
  | none => exact ⟨_, rfl⟩
  | some o' => exact ⟨o', rfl⟩

/-- A poll up to the one that finds the deadline expired decides as without a deadline. -/
theorem findsQueueView_iff_of_decided {e : ℕ} (hbefore : ∀ j < e, (obs j).expired = false)
    (hdecided : ∃ i ≤ e, Succeeds obs i ∨ Refuses obs i) (o : Except Exn Unit) :
    FindsQueueView obs o ↔ Verifies obs r o := by
  obtain ⟨k, hk, o', ho', hfirst⟩ : ∃ k ≤ e, ∃ o, verdict (obs k) = some o ∧
      ∀ j < k, verdict (obs j) = none := by
    obtain ⟨i, hi, hsucc | hrefuses⟩ := hdecided
    · obtain ⟨k, hk, hfirst⟩ := hsucc.first
      exact ⟨k, Nat.le_trans hk hi, _, hfirst⟩
    · obtain ⟨k, hk, hfirst⟩ := hrefuses.first
      exact ⟨k, Nat.le_trans hk hi, _, hfirst⟩
  have hverifies : Verifies obs r o' := (verifies_iff obs).mpr ⟨k, ho', hfirst⟩
  have hfinds : FindsQueueView obs o' := by
    refine (findsQueueView_iff obs).mpr ⟨k, ?_, fun j hj ↦ ?_⟩
    · rw [queueVerdict, ho', Option.some_or]
    · rw [queueVerdict_eq_verdict (hbefore j (Nat.lt_of_lt_of_le hj hk)), hfirst j hj]
  constructor
  · exact fun h ↦ hfinds.unique obs h ▸ hverifies
  · exact fun h ↦ hverifies.unique obs h ▸ hfinds

/-- Where nothing has been decided when the deadline is found expired, that is the outcome. -/
theorem findsQueueView_iff_of_expired {e : ℕ} (hexpired : (obs e).expired = true)
    (hbefore : ∀ j < e, (obs j).expired = false)
    (hneither : ∀ i ≤ e, ¬ Succeeds obs i ∧ ¬ Refuses obs i) (o : Except Exn Unit) :
    FindsQueueView obs o ↔ o = .error queueViewTimedOut := by
  have hfinds : FindsQueueView obs (.error queueViewTimedOut) := by
    refine (findsQueueView_iff obs).mpr ⟨e, ?_, fun j hj ↦ ?_⟩
    · rw [queueVerdict, verdict_eq_none_of_neither hneither (Nat.le_refl e), Option.none_or,
        if_pos hexpired]
    · rw [queueVerdict_eq_verdict (hbefore j hj),
        verdict_eq_none_of_neither hneither (Nat.le_of_lt hj)]
  exact ⟨fun h ↦ h.unique obs hfinds, fun h ↦ h ▸ hfinds⟩

theorem findsQueueView_iff_of_never_expired (hnever : ∀ j, (obs j).expired = false)
    (o : Except Exn Unit) : FindsQueueView obs o ↔ Verifies obs r o := by
  rw [findsQueueView_iff, verifies_iff]
  simp only [queueVerdict_eq_verdict (hnever _)]

end Outcome

/-- **Authentication is only ever concluded from positive evidence.**  Whatever the polls find,
`verify_authenticated` returns exactly if some poll succeeds, raises exactly if some poll refuses
(and then `PortalAuthRequiredError`), and otherwise never ends.  `_wait_for_queue_view` has the same
outcome if that is decided by the poll that first finds the deadline expired, and raises a
`PortalReadError` there otherwise; if no poll finds the deadline expired, there is no difference. -/
theorem authentication_needs_evidence {Tag : Type} (r : PageReader Tag) :
    (Verifies obs r (.ok ()) ↔ ∃ i, Succeeds obs i) ∧
    (∀ e, Verifies obs r (.error e) ↔
      e = .portalAuthRequiredError authRequiredMessage ∧ ∃ i, Refuses obs i) ∧
    ((∀ n, (replay (observed obs) (verifyAuthenticated r n) 0).1 = .ok none) ↔
      ∀ i, ¬ Succeeds obs i ∧ ¬ Refuses obs i) ∧
    (∀ e, (obs e).expired = true → (∀ j < e, (obs j).expired = false) →
      ((∃ i ≤ e, Succeeds obs i ∨ Refuses obs i) →
        ∀ o, FindsQueueView obs o ↔ Verifies obs r o) ∧
      ((∀ i ≤ e, ¬ Succeeds obs i ∧ ¬ Refuses obs i) →
        ∀ o, FindsQueueView obs o ↔ o = .error queueViewTimedOut)) ∧
    ((∀ j, (obs j).expired = false) → ∀ o, FindsQueueView obs o ↔ Verifies obs r o) :=
  ⟨verifies_ok_iff r, fun _ ↦ verifies_error_iff r, neverVerifies_iff r,
    fun _ hexpired hbefore ↦ ⟨findsQueueView_iff_of_decided r hbefore,
      findsQueueView_iff_of_expired hexpired hbefore⟩,
    findsQueueView_iff_of_never_expired r⟩

/-! ## A limited number of polls -/

/-- Where the loop goes on, `waitForQueueView` does too; where a poll decides, so it does for both.
-/
theorem replay_waitForQueueView_succ (polls i : ℕ) :
    replay (observed obs) (waitForQueueView (polls + 1)) i =
      match queueVerdict (obs i) with
      | some o => (o, i)
      | none => replay (observed obs) (waitForQueueView polls) (i + 1) := by
  rw [waitForQueueView, replay_poll, queueVerdict, verdict]
  by_cases hmarker : (obs i).HasMarker
  · rw [if_pos hmarker, if_pos hmarker]
    rfl
  · rw [if_neg hmarker, if_neg hmarker]
    by_cases hview : (obs i).ShowsView
    · rw [if_pos hview, if_pos hview]
      rfl
    · rw [if_neg hview, if_neg hview, replay_bind_of_ok _ _ (replay_deadlinePassed obs i)]
      cases (obs i).expired with
      | true => rfl
      | false => rfl

/-- The last poll decides as if it found the deadline expired. -/
theorem replay_waitForQueueView_zero {i : ℕ} {o : Except Exn Unit}
    (h : queueVerdict { obs i with expired := true } = some o) :
    replay (observed obs) (waitForQueueView 0) i = (o, i) := by
  rw [waitForQueueView, replay_poll]
  rw [queueVerdict, verdict] at h
  by_cases hmarker : (obs i).HasMarker
  · rw [if_pos hmarker]
    rw [if_pos (show Observation.HasMarker { obs i with expired := true } from hmarker)] at h
    cases h
    rfl
  · rw [if_neg hmarker]
    rw [if_neg (show ¬ Observation.HasMarker { obs i with expired := true } from hmarker)] at h
    by_cases hview : (obs i).ShowsView
    · rw [if_pos hview]
      rw [if_pos (show Observation.ShowsView { obs i with expired := true } from hview)] at h
      cases h
      rfl
    · rw [if_neg hview]
      rw [if_neg (show ¬ Observation.ShowsView { obs i with expired := true } from hview)] at h
      cases h
      rfl

/-- **The bounded loop is the loop**, if the deadline passes within the bound. -/
theorem waitForQueueView_eq {polls : ℕ} (h : ∃ e ≤ polls, (obs e).expired = true) :
    FindsQueueView obs (replay (observed obs) (waitForQueueView polls) 0).1 := by
  suffices ∀ i, (∃ j ≤ polls, (obs (i + j)).expired = true) →
      (replay (observed obs) (rounds pollQueueView (polls + 1)) i).1 =
        (replay (observed obs) (waitForQueueView polls) i).1.map some by
    exact ⟨polls + 1, this 0 (by simpa only [Nat.zero_add] using h)⟩
  clear h
  induction polls with
  | zero =>
    rintro i ⟨j, hj, hexpired⟩
    obtain rfl := Nat.le_zero.mp hj
    rw [Nat.add_zero] at hexpired
    have hsame : ({ obs i with expired := true } : Observation) = obs i := by rw [← hexpired]
    obtain ⟨o, ho⟩ := exists_queueVerdict hexpired
    rw [replay_waitForQueueView_zero obs (hsame.symm ▸ ho)]
    exact replay_rounds_succ_of_map_some (by rw [replay_pollQueueView, ho]) 0
  | succ polls ih =>
    rintro i ⟨j, hj, hexpired⟩
    rw [replay_waitForQueueView_succ]
    cases hverdict : queueVerdict (obs i) with
    | some o => exact replay_rounds_succ_of_map_some (by rw [replay_pollQueueView, hverdict]) _
    | none =>
      rw [replay_rounds_succ_of_none (by rw [replay_pollQueueView, hverdict])]
      refine ih (i + 1) ⟨j - 1, by omega, ?_⟩
      have hpos : j ≠ 0 := by
        rintro rfl
        obtain ⟨o, ho⟩ := exists_queueVerdict hexpired
        exact nomatch hverdict.symm.trans ho
      rwa [show i + 1 + (j - 1) = i + j by omega]

end PageReader
end RmaPortal
