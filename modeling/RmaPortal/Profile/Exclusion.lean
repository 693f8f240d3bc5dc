import RmaPortal.Coroutine.Pool
import RmaPortal.Profile.Locking
import RmaPortal.Profile.Phases
import RmaPortal.Synchronization.Transactions

/-!
# One holder at a time

The protocol of the profile.  `ProfileInv` ties the state of the lock and of the registry to the
phases of all tasks: a task that holds the lock holds the only lock there is, a lock the registry
refers to is held, and nobody holds a lock that no task has created.  `profileProtocol` says that
every step of every task keeps it.

Between a look into the registry and what a task does because of it the registry must not change.
It does not, because a task is not suspended there; `Phase.Relies` says so.

## What is here

* `Phase.Fits` — what the phase of one task says about the state of the profiles.  A task that
  carries a lock holds it and the registry has no entry; one that has entered the profile into the
  registry does not hold its lock any more, the registry does.
* `ProfileInv` — every phase fits, no two tasks have the same lock, every lock that is held is
  referred to, and new locks are new.
* `ProfileInv.move`, `ProfileInv.stay` — one task moves and keeps its lock; these two are used for
  almost every step.
* `ProfileInv.create`, `ProfileInv.acquire`, `ProfileInv.mark`, `ProfileInv.release`,
  `ProfileInv.forget` — the requests that change the locks, one lemma each.  Letting go of a lock
  object is such a request, because `filelock` releases a lock when its object is collected: a
  lock that nobody refers to is not held any more, unless the registry refers to it
  (`mem_collect_of_live`).
* `portal_of_quiet`, `look_of_step` — all other requests: they do not touch the profile, or only
  look.
* `ProfileInv.keep` and `profileProtocol` — the step lemma, and the protocol.  `canWait_of_pre` is
  where it matters which requests suspend a task.
* `Shut`, `registered_of_step`, `registered_stable` — nothing is ever taken out of the registry.
  Once the profile is in it, every look finds the entry, no lock is acquired or released, and no
  session is reported ready.

Other processes are not modelled: of the lock file it is assumed that one process has it.
-/

set_option autoImplicit false

open Coroutine

namespace RmaPortal

/-- What the phase of a task says about the state of the profiles. -/
def Phase.Fits (p : String) (s : PortalState) : Phase → Prop
  | free | checked => True
  | created l => l ∈ s.live ∧ l ∉ s.held
  | refused l | released l _ | gone l _ => l ∉ s.held
  | held l | browsing l _ | ended l _ _ | releasing l _ =>
    l ∈ s.live ∧ l ∈ s.held ∧ s.unconfirmed.find? p = none
  | marked l _ _ | dropping l _ _ | kept l _ _ =>
    l ∈ s.held ∧ ∃ entry, s.unconfirmed.find? p = some entry ∧ entry.lock = l

/-- What a task relies on as long as it is not suspended: the registry has no entry. -/
def Phase.Relies (p : String) (s : PortalState) : Phase → Prop
  | checked | created _ | released _ _ | gone _ _ => s.unconfirmed.find? p = none
  | _ => True

/-- **The invariant of the profile** whose lock is at the path `p`. -/
structure ProfileInv (p : String) (s : PortalState) (θ : ℕ → Phase) : Prop where
  /-- Every phase fits the state. -/
  fits : ∀ i, (θ i).Fits p s
  /-- The locks of the tasks are locks of the profile, and not new. -/
  lock : ∀ i l, (θ i).lock? = some l → l.path = p ∧ l.id < s.nextLock
  /-- No two tasks have the same lock. -/
  owner : ∀ i j l, (θ i).lock? = some l → (θ j).lock? = some l → i = j
  /-- At most one lock is held. -/
  single : ∀ l ∈ s.held, ∀ l' ∈ s.held, l = l'
  /-- A lock that is held was created by a task. -/
  owned : ∀ l ∈ s.held, ∃ i, (θ i).lock? = some l

section

variable {p : String} {s s' : PortalState} {θ : ℕ → Phase} {i : ℕ} {q q' : Phase} {l : FileLock}

/-! ## Phases that fit -/

/-- Nothing that concerns the task has changed. -/
theorem Phase.Fits.of_same (h : q.Fits p s)
    (hheld : ∀ l, q.lock? = some l → (l ∈ s'.held ↔ l ∈ s.held))
    (hlive : ∀ l, q.lock? = some l → l ∈ s.live → l ∈ s'.live)
    (hunconfirmed : s'.unconfirmed.find? p = s.unconfirmed.find? p) : q.Fits p s' := by
  cases q with
  | free | checked => trivial
  | created l => exact ⟨hlive l rfl h.1, fun hl ↦ h.2 ((hheld l rfl).mp hl)⟩
  | refused l | released l _ | gone l _ => exact fun hl ↦ h ((hheld l rfl).mp hl)
  | held l | browsing l _ | ended l _ _ | releasing l _ =>
    exact ⟨hlive l rfl h.1, (hheld l rfl).mpr h.2.1, hunconfirmed ▸ h.2.2⟩
  | marked l _ _ | dropping l _ _ | kept l _ _ =>
    exact ⟨(hheld l rfl).mpr h.1, hunconfirmed ▸ h.2⟩

/-- A task that does not hold its lock does not mind what happens to the registry. -/
theorem Phase.Fits.of_not_held (h : q.Fits p s) (hq : ∀ l, q.lock? = some l → l ∉ s.held)
    (hheld : ∀ l, q.lock? = some l → l ∉ s'.held) (hlive : s'.live = s.live) : q.Fits p s' := by
  cases q with
  | free | checked => trivial
  | created l => exact ⟨hlive ▸ h.1, hheld l rfl⟩
  | refused l | released l _ | gone l _ => exact hheld l rfl
  | held l | browsing l _ | ended l _ _ | releasing l _ => exact (hq l rfl h.2.1).elim
  | marked l _ _ | dropping l _ _ | kept l _ _ => exact (hq l rfl h.1).elim

/-- A lock that is held is referred to: by the task, or by the registry. -/
theorem Phase.Fits.referred (h : q.Fits p s) (hlock : q.lock? = some l) (hl : l ∈ s.held) :
    l ∈ s.live ∨ ∃ entry, s.unconfirmed.find? p = some entry ∧ entry.lock = l := by
  cases q with
  | free | checked => cases hlock
  | created l' | refused l' | released l' _ | gone l' _ =>
    cases hlock
    first | exact (h.2 hl).elim | exact (h hl).elim
  | held l' | browsing l' _ | ended l' _ _ | releasing l' _ =>
    cases hlock
    exact Or.inl h.1
  | marked l' _ _ | dropping l' _ _ | kept l' _ _ =>
    cases hlock
    exact Or.inr h.2

/-- A task that holds its lock does hold it. -/
theorem Phase.Fits.held (h : q.Fits p s) (hlock : q.lock? = some l) (hq : q.holds = true) :
    l ∈ s.held := by
  cases q with
  | held l' | browsing l' _ | ended l' _ _ | releasing l' _ =>
    cases hlock
    exact h.2.1
  | marked l' _ _ | dropping l' _ _ =>
    cases hlock
    exact h.1
  | _ => cases hq

/-- A task that carries a lock holds it, and the registry has no entry. -/
theorem Phase.Fits.carries {o : Option Closing} (h : q.Fits p s) (hq : q.carries = some (l, o)) :
    q.lock? = some l ∧ l ∈ s.live ∧ l ∈ s.held ∧ s.unconfirmed.find? p = none := by
  cases q <;> cases hq <;> exact ⟨rfl, h⟩

/-- Whoever has seen its close confirmed relies on the registry having no entry. -/
theorem Phase.Relies.of_confirmed (h : q.Relies p s) (hq : q.confirmed = true) :
    s.unconfirmed.find? p = none := by
  cases q <;> first | exact h | cases hq

/-! ## Moving one task -/

theorem ProfileInv.start : ProfileInv p .start fun _ ↦ .free where
  fits _ := trivial
  lock _ _ h := by cases h
  owner _ _ _ h := by cases h
  single _ h := by cases h
  owned _ h := by cases h

/-- One task moves, and the state changes. -/
theorem ProfileInv.update (h : ProfileInv p s θ) (hfits : q'.Fits p s')
    (hothers : ∀ j, j ≠ i → (θ j).Fits p s') (hnext : s.nextLock ≤ s'.nextLock)
    (hlock : ∀ l, q'.lock? = some l →
      l.path = p ∧ l.id < s'.nextLock ∧ ∀ j, j ≠ i → (θ j).lock? ≠ some l)
    (hsingle : ∀ l ∈ s'.held, ∀ l' ∈ s'.held, l = l')
    (howned : ∀ l ∈ s'.held, q'.lock? = some l ∨ ∃ j, j ≠ i ∧ (θ j).lock? = some l) :
    ProfileInv p s' (Function.update θ i q') := by
  have hself : Function.update θ i q' i = q' := Function.update_self ..
  have hother : ∀ {j}, j ≠ i → Function.update θ i q' j = θ j :=
    fun hj ↦ Function.update_of_ne hj ..
  constructor
  case fits =>
    intro j
    by_cases hj : j = i
    · rwa [hj, hself]
    · rw [hother hj]
      exact hothers j hj
  case lock =>
    intro j l hl
    by_cases hj : j = i
    · rw [hj, hself] at hl
      exact ⟨(hlock l hl).1, (hlock l hl).2.1⟩
    · rw [hother hj] at hl
      exact (h.lock j l hl).imp_right fun hid ↦ hid.trans_le hnext
  case owner =>
    intro j k l hj hk
    by_cases hji : j = i <;> by_cases hki : k = i
    · rw [hji, hki]
    · rw [hji, hself] at hj
      rw [hother hki] at hk
      exact ((hlock l hj).2.2 k hki hk).elim
    · rw [hki, hself] at hk
      rw [hother hji] at hj
      exact ((hlock l hk).2.2 j hji hj).elim
    · rw [hother hji] at hj
      rw [hother hki] at hk
      exact h.owner j k l hj hk
  case single => exact hsingle
  case owned =>
    intro l hl
    rcases howned l hl with hl | ⟨j, hj, hl⟩
    · exact ⟨i, by rwa [hself]⟩
    · exact ⟨j, by rwa [hother hj]⟩

/-- One task moves and keeps its lock, and nobody gets a lock. -/
theorem ProfileInv.move (h : ProfileInv p s θ) (hlock : q'.lock? = (θ i).lock?)
    (hfits : q'.Fits p s') (hothers : ∀ j, j ≠ i → (θ j).Fits p s')
    (hnext : s'.nextLock = s.nextLock) (hheld : ∀ l ∈ s'.held, l ∈ s.held) :
    ProfileInv p s' (Function.update θ i q') := by
  refine h.update hfits hothers hnext.ge (fun l hl ↦ ?_)
    (fun l hl l' hl' ↦ h.single l (hheld l hl) l' (hheld l' hl')) fun l hl ↦ ?_
  · rw [hlock] at hl
    refine ⟨(h.lock i l hl).1, hnext ▸ (h.lock i l hl).2, fun j hj hl' ↦ hj (h.owner j i l hl' hl)⟩
  · obtain ⟨j, hj⟩ := h.owned l (hheld l hl)
    by_cases hji : j = i
    · exact Or.inl (by rw [hlock, ← hji, hj])
    · exact Or.inr ⟨j, hji, hj⟩

/-- One task moves and keeps its lock, and the state of the locks stays as it is. -/
theorem ProfileInv.stay (h : ProfileInv p s θ) (hlock : q'.lock? = (θ i).lock?)
    (hfits : q'.Fits p s') (hheld : s'.held = s.held) (hlive : s'.live = s.live)
    (hunconfirmed : s'.unconfirmed = s.unconfirmed) (hnext : s'.nextLock = s.nextLock) :
    ProfileInv p s' (Function.update θ i q') :=
  h.move hlock hfits (fun j _ ↦ (h.fits j).of_same (fun _ _ ↦ hheld ▸ Iff.rfl)
    (fun _ _ hl ↦ hlive ▸ hl) (by rw [hunconfirmed])) hnext fun _ hl ↦ hheld ▸ hl

/-! ## The requests that change the locks -/

/-- A lock that was held and is referred to is still held after a collection. -/
theorem mem_collect_of_live (h : l ∈ s.held) (hlive : l ∈ s.live) : l ∈ s.collect.held :=
  List.mem_filter.mpr ⟨h, by simp [hlive]⟩

theorem ProfileInv.create (h : ProfileInv p s θ) (hi : θ i = .checked) :
    ProfileInv p { s with live := ⟨s.nextLock, p⟩ :: s.live, nextLock := s.nextLock + 1 }
      (Function.update θ i (.created ⟨s.nextLock, p⟩)) := by
  have hnew : ∀ j l, (θ j).lock? = some l → l ≠ ⟨s.nextLock, p⟩ := by
    rintro j _ hl rfl
    exact Nat.lt_irrefl _ (h.lock j _ hl).2
  have hnotheld : (⟨s.nextLock, p⟩ : FileLock) ∉ s.held := fun hl ↦
    (h.owned _ hl).elim fun j hj ↦ hnew j _ hj rfl
  refine h.update ⟨List.mem_cons_self, hnotheld⟩ (fun j _ ↦ (h.fits j).of_same (fun _ _ ↦ Iff.rfl)
    (fun _ _ hl ↦ List.mem_cons_of_mem _ hl) rfl) (Nat.le_succ _) ?_ h.single fun l hl ↦ ?_
  · rintro l hl
    cases hl
    exact ⟨rfl, Nat.lt_succ_self _, fun j _ hj ↦ hnew j _ hj rfl⟩
  · obtain ⟨j, hj⟩ := h.owned l hl
    refine Or.inr ⟨j, ?_, hj⟩
    rintro rfl
    rw [hi] at hj
    cases hj

theorem ProfileInv.acquire (h : ProfileInv p s θ) (hi : θ i = .created l)
    (hrelies : s.unconfirmed.find? p = none)
    (hfree : (s.held.any fun l' ↦ l'.path == l.path) = false) :
    ProfileInv p { s with held := l :: s.held } (Function.update θ i (.held l)) := by
  have hlock : (θ i).lock? = some l := by rw [hi]; rfl
  have hlive : l ∈ s.live := by
    have hfits := h.fits i
    rw [hi] at hfits
    exact hfits.1
  -- any lock that is held would be one of the same profile
  have hnone : ∀ l', l' ∉ s.held := fun l' hl' ↦ by
    obtain ⟨j, hj⟩ := h.owned l' hl'
    have hpath : l'.path = l.path := (h.lock j l' hj).1.trans (h.lock i l hlock).1.symm
    have hany := List.any_eq_false.mp hfree l' hl'
    simp [hpath] at hany
  have honly : ∀ {l'}, l' ∈ l :: s.held → l' = l := fun hl' ↦
    (List.mem_cons.mp hl').resolve_right (hnone _)
  refine h.update ⟨hlive, List.mem_cons_self, hrelies⟩ (fun j hj ↦ ?_) le_rfl (fun l' hl' ↦ ?_)
    (fun l₁ h₁ l₂ h₂ ↦ (honly h₁).trans (honly h₂).symm) fun l' hl' ↦ Or.inl (honly hl' ▸ rfl)
  · refine (h.fits j).of_not_held (fun l' _ ↦ hnone l') (fun l' hl' hmem ↦ hj ?_) rfl
    exact h.owner j i l (honly hmem ▸ hl') hlock
  · cases hl'
    exact ⟨(h.lock i l hlock).1, (h.lock i l hlock).2, fun j hj hl' ↦ hj (h.owner j i l hl' hlock)⟩

theorem ProfileInv.mark (h : ProfileInv p s θ) {m : ManagerId} {e : Exn}
    (hi : θ i = .ended l m (.error e)) {entry : UnconfirmedTeardown} (hpath : entry.lockPath = p)
    (hentry : entry.lock = l) :
    ProfileInv p { s with unconfirmed := s.unconfirmed.upsert entry }.collect
      (Function.update θ i (.marked l m e)) := by
  have hlock : (θ i).lock? = some l := by rw [hi]; rfl
  obtain ⟨hlive, hheld, -⟩ : l ∈ s.live ∧ l ∈ s.held ∧ s.unconfirmed.find? p = none := by
    have hfits := h.fits i
    rwa [hi] at hfits
  have hfind : (s.unconfirmed.upsert entry).find? p = some entry := by
    rw [Table.find?_upsert, if_pos hpath.symm]
  have hother : ∀ j, j ≠ i → ∀ l', (θ j).lock? = some l' → l' ∉ s.held := fun j hj l' hl' hmem ↦
    hj (h.owner j i l (h.single l' hmem l hheld ▸ hl') hlock)
  refine h.move hlock.symm ⟨mem_collect_of_live hheld hlive, entry, hfind, hentry⟩
    (fun j hj ↦ ?_) rfl fun l' hl' ↦ (List.mem_filter.mp hl').1
  exact (h.fits j).of_not_held (hother j hj) (fun l' hl' hmem ↦ hother j hj l' hl'
    (List.mem_filter.mp hmem).1) rfl

theorem ProfileInv.release (h : ProfileInv p s θ) {o : Option Closing}
    (hi : θ i = .releasing l o) :
    ProfileInv p { s with held := s.held.filter fun l' ↦ decide (l' ≠ l) }
      (Function.update θ i (.released l o)) := by
  have hlock : (θ i).lock? = some l := by rw [hi]; rfl
  refine h.move hlock.symm (fun hl ↦ ?_) (fun j hj ↦ ?_) rfl fun l' hl' ↦ (List.mem_filter.mp hl').1
  · simpa using (List.mem_filter.mp hl).2
  · refine (h.fits j).of_same (fun l' hl' ↦ ?_) (fun _ _ hl ↦ hl) rfl
    have hne : l' ≠ l := fun heq ↦ hj (h.owner j i l (heq ▸ hl') hlock)
    simp [hne]

/-- A task lets go of its lock: a lock that is held stays so if the registry refers to it. -/
theorem ProfileInv.forget (h : ProfileInv p s θ) (hi : (θ i).lock? = some l)
    (hlock : q'.lock? = some l)
    (hfits : q'.Fits p { s with live := s.live.filter fun l' ↦ decide (l' ≠ l) }.collect) :
    ProfileInv p { s with live := s.live.filter fun l' ↦ decide (l' ≠ l) }.collect
      (Function.update θ i q') := by
  refine h.move (hlock.trans hi.symm) hfits (fun j hj ↦ ?_) rfl fun l' hl' ↦
    (List.mem_filter.mp hl').1
  have hne : ∀ {l'}, (θ j).lock? = some l' → l' ≠ l := fun hl' heq ↦
    hj (h.owner j i l (heq ▸ hl') hi)
  have hlive : ∀ {l'}, (θ j).lock? = some l' → l' ∈ s.live →
      l' ∈ s.live.filter fun l' ↦ decide (l' ≠ l) := fun hl' hmem ↦
    List.mem_filter.mpr ⟨hmem, by simp [hne hl']⟩
  refine (h.fits j).of_same (fun l' hl' ↦ ⟨fun hmem ↦ (List.mem_filter.mp hmem).1, fun hmem ↦ ?_⟩)
    (fun l' hl' hmem ↦ hlive hl' hmem) rfl
  rcases (h.fits j).referred hl' hmem with hmem' | ⟨entry, hfind, hentry⟩
  · exact mem_collect_of_live hmem (hlive hl' hmem')
  · refine mem_collect hmem ⟨entry, ?_, hentry⟩
    rwa [(h.lock j l' hl').1]

/-! ## Every step keeps the invariant -/

variable {w w' : World} {r : Request} {a : Except Exn r.Val}

theorem mayAnswer_of_step (h : world.step w r a w') : r.MayAnswer a := by
  obtain ⟨b, hb⟩ := h
  have ha : (serve r b w).1 = a := by rw [hb]
  cases r with
  | now => subst ha; trivial
  | uow op =>
    cases a with
    | ok x => trivial
    | error e =>
      show e.isException = true
      cases op with
      | exit tx => cases ha
      | enter tx =>
        cases b <;> cases ha
        exact Exn.isException_fault _
      | commit tx =>
        cases b with
        | error e' => cases ha; exact Exn.isException_fault _
        | ok x =>
          simp only [serve, UowRequest.serve] at ha
          split at ha <;> cases ha
          rfl
      | repo tx op =>
        cases b with
        | error e' => cases ha; exact Exn.isException_fault _
        | ok x =>
          simp only [serve, UowRequest.serve] at ha
          split at ha
          · cases ha
            rfl
          · split at ha <;> cases ha
            exact Repo.isException_of_run ‹_›
  | _ => trivial

/-- A quiet request does not touch the profile. -/
theorem portal_of_quiet (h : r.Quiet q) (hstep : world.step w r a w') : w'.portal = w.portal := by
  obtain ⟨b, hb⟩ := hstep
  have hw : (serve r b w).2 = w' := by rw [hb]
  cases r with
  | portal r => cases r <;> first | (subst hw; rfl) | exact h.elim
  | _ => subst hw; rfl

/-- A look into the registry. -/
theorem look_of_step {a : Except Exn (Option UnconfirmedTeardown)}
    (h : world.step w (.portal (.unconfirmedGet p)) a w') :
    a = .ok (w.portal.unconfirmed.find? p) ∧ w = w' := by
  obtain ⟨b, hb⟩ := h
  cases hb
  exact ⟨rfl, rfl⟩

theorem ProfileInv.keep (h : ProfileInv p w.portal θ) (hrelies : (θ i).Relies p w.portal)
    (hpre : (phases p).pre (θ i) r) (hstep : world.step w r a w') :
    ∃ q', Phase.Step p (θ i) r a q' ∧ ProfileInv p w'.portal (Function.update θ i q') ∧
      q'.Relies p w'.portal := by
  obtain ⟨a₀, q₀, hpre⟩ := hpre
  have hfits := h.fits i
  generalize hq : θ i = q at hpre hrelies hfits
  have hlock := congrArg Phase.lock? hq
  cases hpre with
  | quiet _ _ a₀ hquiet ha₀ =>
    refine ⟨_, .quiet _ r a hquiet (mayAnswer_of_step hstep), ?_, ?_⟩
    · rw [portal_of_quiet hquiet hstep, ← hq, Function.update_eq_self]
      exact h
    · rw [portal_of_quiet hquiet hstep]
      exact hrelies
  | look | warned =>
    obtain ⟨rfl, rfl⟩ := look_of_step hstep
    cases hfind : w.portal.unconfirmed.find? p with
    | none => exact ⟨.checked, .look, h.stay hlock.symm trivial rfl rfl rfl rfl, hfind⟩
    | some entry => exact ⟨.free, .warned entry, h.stay hlock.symm trivial rfl rfl rfl rfl, trivial⟩
  | create =>
    obtain ⟨b, hb⟩ := hstep
    cases hb
    exact ⟨_, .create ⟨w.portal.nextLock, p⟩ rfl, h.create hq, hrelies⟩
  | acquire l | refuse l =>
    obtain ⟨b, hb⟩ := hstep
    have hrefuse : ∀ e, ∃ q', Phase.Step p (.created l) (.portal (.acquire l)) (.error e) q' ∧
        ProfileInv p w.portal (Function.update θ i q') ∧ q'.Relies p w.portal := fun e ↦
      ⟨_, .refuse l e, h.stay hlock.symm hfits.2 rfl rfl rfl rfl, trivial⟩
    cases b with
    | error e =>
      cases hb
      exact hrefuse _
    | ok u =>
      simp only [serve, PortalRequest.serve] at hb
      split at hb <;> cases hb
      · exact hrefuse _
      · rename_i hfree
        exact ⟨_, .acquire l, h.acquire hq hrelies (by simpa using hfree), trivial⟩
  | forgetRefused l =>
    obtain ⟨b, hb⟩ := hstep
    cases hb
    exact ⟨_, .forgetRefused l, h.forget hlock rfl fun hl ↦
      hfits (List.mem_filter.mp hl).1, trivial⟩
  | start l m dir | startFails l e dir =>
    obtain ⟨b, hb⟩ := hstep
    cases b with
    | error e =>
      cases hb
      exact ⟨_, .startFails l e dir, h.stay hlock.symm hfits rfl rfl rfl rfl, trivial⟩
    | ok m =>
      cases hb
      exact ⟨_, .start l _ dir, h.stay hlock.symm hfits rfl rfl rfl rfl, trivial⟩
  | close l m c =>
    obtain ⟨b, hb⟩ := hstep
    cases b <;> cases hb <;>
      exact ⟨_, .close l m _, h.stay hlock.symm hfits rfl rfl rfl rfl, trivial⟩
  | mark l m e entry hpath hentry =>
    obtain ⟨b, hb⟩ := hstep
    cases hb
    exact ⟨_, .mark l m e entry hpath hentry, h.mark hq hpath hentry, trivial⟩
  | lookCarrying _ l o hcarries =>
    obtain ⟨rfl, rfl⟩ := look_of_step hstep
    obtain ⟨hlock', hlive, hheld, hfind⟩ := hfits.carries hcarries
    rw [hfind]
    exact ⟨_, .lookCarrying _ l o hcarries,
      h.stay (hlock.trans hlock').symm ⟨hlive, hheld, hfind⟩ rfl rfl rfl rfl, trivial⟩
  | lookMarked l m e =>
    obtain ⟨rfl, rfl⟩ := look_of_step hstep
    obtain ⟨hheld, entry, hfind, hentry⟩ := hfits
    rw [hfind]
    exact ⟨_, .lookMarked l m e entry,
      h.stay hlock.symm ⟨hheld, entry, hfind, hentry⟩ rfl rfl rfl rfl, trivial⟩
  | release l o =>
    obtain ⟨b, hb⟩ := hstep
    cases hb
    exact ⟨_, .release l o, h.release hq, hfits.2.2⟩
  | forgetReleased l o =>
    obtain ⟨b, hb⟩ := hstep
    cases hb
    exact ⟨_, .forgetReleased l o, h.forget hlock rfl fun hl ↦
      hfits (List.mem_filter.mp hl).1, hrelies⟩
  | forgetMarked l m e =>
    obtain ⟨b, hb⟩ := hstep
    cases hb
    obtain ⟨hheld, entry, hfind, hentry⟩ := hfits
    refine ⟨_, .forgetMarked l m e, h.forget hlock rfl
      ⟨mem_collect hheld ⟨entry, ?_, hentry⟩, entry, hfind, hentry⟩, trivial⟩
    rwa [(h.lock i l hlock).1]

end

/-- A task is suspended only in a phase in which it may wait. -/
theorem canWait_of_pre {p : String} {q : Phase} {r : Request} (hr : suspends r = true)
    (hpre : (phases p).pre q r) : q.canWait = true := by
  obtain ⟨a, q', hstep⟩ := hpre
  cases hstep with
  | quiet _ _ _ hquiet =>
    cases r with
    | portal r => cases r <;> first | exact hquiet | exact hquiet.elim | cases hr
    | reader | inflight => exact hquiet
    | _ => cases hr
  | start | startFails | close => rfl
  | _ => cases hr

/-- **The protocol of the profile** whose lock is at the path `p`. -/
def profileProtocol (p : String) : Protocol world suspends Phase where
  typestate := phases p
  start := .free
  inv w θ := ProfileInv p w.portal θ
  turn w q := q.Relies p w.portal
  turn_start _ := trivial
  turn_resume w q r hr hpre := by
    have hwait := canWait_of_pre hr hpre
    cases q <;> trivial
  keep _ _ _ _ _ _ h hrelies hpre hstep := h.keep hrelies hpre hstep

/-! ## Once the profile is in the registry -/

/-- What may still happen once the profile is in the registry: every look finds the entry, no lock
is acquired or released, and nobody reports the session ready. -/
def Shut (p : String) : Happening → Prop
  | ⟨.portal (.unconfirmedGet path), a⟩ => path = p ∧ ∃ entry, a = .ok (some entry)
  | ⟨.portal (.acquire _), .ok _⟩ => False
  | ⟨.portal (.release _), _⟩ => False
  | ⟨.uow (.repo _ op), _⟩ => op.reportsReady = false
  | _ => True

/-- Nothing is ever taken out of the registry. -/
theorem registered_of_step {p : String} {w w' : World} {r : Request} {a : Except Exn r.Val}
    (hstep : world.step w r a w') (h : w.portal.unconfirmed.find? p ≠ none) :
    w'.portal.unconfirmed.find? p ≠ none := by
  obtain ⟨b, hb⟩ := hstep
  have hw : (serve r b w).2 = w' := by rw [hb]
  subst hw
  cases r with
  | portal r =>
    cases r with
    | unconfirmedSet entry =>
      show (w.portal.unconfirmed.upsert entry).find? p ≠ none
      rw [Table.find?_upsert]
      split
      · exact Option.some_ne_none _
      · exact h
    | acquire l =>
      cases b with
      | error e => exact h
      | ok u =>
        simp only [serve, PortalRequest.serve]
        split <;> exact h
    | managerEnter dir | managerExit m => cases b <;> exact h
    | _ => exact h
  | _ => exact h

/-- **An entry in the registry is final.** -/
theorem registered_stable (p : String) :
    (profileProtocol p).Stable (fun w ↦ w.portal.unconfirmed.find? p ≠ none) (Shut p) where
  stays _ _ _ _ _ _ _ _ _ hstep h := registered_of_step hstep h
  events w θ i r a w' hinv hrelies hpre hstep h := by
    have hfits := hinv.fits i
    obtain ⟨a₀, q₀, hpre⟩ := hpre
    change (θ i).Relies p w.portal at hrelies
    generalize θ i = q at hpre hrelies hfits
    have hlook : ∀ {a : Except Exn (Option UnconfirmedTeardown)},
        world.step w (.portal (.unconfirmedGet p)) a w' →
          Shut p ⟨.portal (.unconfirmedGet p), a⟩ := by
      intro a hstep
      rw [(look_of_step hstep).1]
      exact ⟨rfl, (Option.ne_none_iff_exists'.mp h).imp fun entry hentry ↦ by rw [hentry]⟩
    cases hpre with
    | quiet _ _ a₀ hquiet ha₀ =>
      cases r with
      | uow op =>
        cases op with
        | repo tx op =>
          show op.reportsReady = false
          by_contra hready
          exact h (hrelies.of_confirmed (hquiet (by simpa using hready)))
        | _ => trivial
      | portal r => cases r <;> first | exact hquiet.elim | trivial
      | _ => trivial
    | look | warned | lookMarked => exact hlook hstep
    | lookCarrying => exact hlook hstep
    | acquire l | refuse l => exact (h hrelies).elim
    | release l o => exact (h hfits.2.2).elim
    | _ => trivial

end RmaPortal
