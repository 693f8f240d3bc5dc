import RmaPortal.Infrastructure.Portal.SessionSetup

/-!
# Rules for the browser profile

What the requests to the browser and to the lock of its profile do to the state of the profiles,
and with that what acquiring and releasing the lock do.  Programs ask for the parts of this one at
a time: the lock of a path is looked up or made, tried, and held; and on the way back the registry
of unconfirmed profiles is looked at before the lock is let go of.

## What is here

* `Request.IsLocking` — the requests that acquiring and releasing a lock make.
* `AcquireEnds`, `sat_acquireProfileLock` — how an attempt to acquire the lock of a profile ends:
  it is held, or an exception says that somebody else has it or that the profile is lost.
* `mem_collect` — a lock that the registry refers to is not collected.  Locks are kept in a
  dictionary of weak references, so that what nobody holds is gone; for a lock of the registry
  that must not happen.
* `ReleaseEnds`, `sat_releaseProfileLock` — how releasing a lock ends: it is free, unless the
  registry has an entry for its path, and then it stays held.
* `sat_markProfileTeardownUnconfirmed` — marking a profile keeps its lock held and enters it into
  the registry.

These are lemmas about one task that is alone with the profiles.  What holds between tasks is in
`Profile.Exclusion`.
-/

set_option autoImplicit false

open Coroutine

namespace RmaPortal

/-! ## Acquiring the lock -/

/-- The requests that acquiring and releasing a lock make. -/
def Request.IsLocking : Request → Prop
  | .portal (.unconfirmedGet _) => True
  | .portal (.mkdir _) => True
  | .portal (.newFileLock _) => True
  | .portal (.acquire _) => True
  | .portal (.release _) => True
  | .portal (.forget _) => True
  | _ => False

/-- How an attempt to acquire the lock of a profile ends. -/
def AcquireEnds (paths : ProfilePaths) (w : World) (t : List Happening) (o : Except Exn FileLock)
    (w' : World) : Prop :=
  (∀ e ∈ t, e.1.IsLocking) ∧ w'.db = w.db ∧ w'.portal.running = w.portal.running ∧
    w'.portal.unconfirmed = w.portal.unconfirmed ∧
    match o with
    | .ok lock =>
      lock.path = paths.lockPath ∧ lock ∈ w'.portal.held ∧
        w.portal.unconfirmed.find? paths.lockPath = none ∧
        ∀ l a, ⟨.portal (.acquire l), .ok a⟩ ∈ t ↔ l = lock
    | .error e => e.isException = true ∧ ∀ l a, ⟨.portal (.acquire l), .ok a⟩ ∉ t

theorem sat_acquireProfileLock {paths : ProfilePaths} {w : World} :
    Sat world (acquireProfileLock paths) w fun t o w' ↦ AcquireEnds paths w t o w' := by
  refine sat_bind (R := fun t o w' ↦ w = w' ∧
    o = .ok (w.portal.unconfirmed.find? paths.lockPath) ∧
      t = [⟨.portal (.unconfirmedGet paths.lockPath), o⟩])
    (sat_ask_portal fun b a s hs ↦ by cases hs; exact ⟨rfl, rfl, rfl⟩) ?_ ?_
  swap
  · rintro t e w₁ ⟨-, ho, -⟩
    cases ho
  rintro t entry _ ⟨rfl, ho, rfl⟩
  cases entry with
  | some entry => exact sat_throw ⟨by simp [Request.IsLocking], rfl, rfl, rfl, rfl, by simp⟩
  | none =>
    have hfree := (Except.ok.inj ho).symm
    refine sat_bind (R := fun t o w' ↦ w = w' ∧ (∀ e, o = .error e → e.isException = true) ∧
      t = [⟨.portal (.mkdir paths.lockDir), o⟩])
      (sat_ask_fault (fun _ _ ↦ rfl) fun a ha ↦ ⟨rfl, ha, rfl⟩) ?_ ?_
    swap
    · rintro t e _ ⟨rfl, he, rfl⟩
      exact ⟨by simp [Request.IsLocking], rfl, rfl, rfl, he e rfl, by simp⟩
    rintro t u _ ⟨rfl, -, rfl⟩
    refine sat_bind (R := fun t o w' ↦ ∃ lock : FileLock, o = .ok lock ∧
      lock.path = paths.lockPath ∧ t = [⟨.portal (.newFileLock paths.lockPath), .ok lock⟩] ∧
      w'.db = w.db ∧ w'.portal.running = w.portal.running ∧
      w'.portal.unconfirmed = w.portal.unconfirmed)
      (sat_ask_portal fun b a s hs ↦ by cases hs; exact ⟨_, rfl, rfl, rfl, rfl, rfl, rfl⟩) ?_ ?_
    swap
    · rintro t e w₁ ⟨lock, ho, -⟩
      cases ho
    rintro t lock w₁ ⟨_, ho, hpath, rfl, hdb, hrunning, hunconfirmed⟩
    cases ho
    refine sat_attempt_bind (R := fun t o w' ↦ t = [⟨.portal (.acquire lock), o⟩] ∧
      w'.db = w.db ∧ w'.portal.running = w.portal.running ∧
      w'.portal.unconfirmed = w.portal.unconfirmed ∧
      match o with
      | .ok _ => lock ∈ w'.portal.held
      | .error e => e.isException = true)
      (sat_ask_portal fun b a s hs ↦ ?_) ?_
    · cases b with
      | error e =>
        cases hs
        exact ⟨rfl, hdb, hrunning, hunconfirmed, Exn.isException_fault e⟩
      | ok u =>
        simp only [PortalRequest.serve] at hs
        split at hs <;> cases hs
        · exact ⟨rfl, hdb, hrunning, hunconfirmed, rfl⟩
        · exact ⟨rfl, hdb, hrunning, hunconfirmed, List.mem_cons_self⟩
    rintro t o w₂ ⟨rfl, hdb, hrunning, hunconfirmed, ho⟩
    cases o with
    | ok u =>
      refine sat_pure ⟨by simp [Request.IsLocking], hdb, hrunning, hunconfirmed, hpath, ho, hfree,
        fun l a ↦ ?_⟩
      simp
    | error e =>
      refine sat_bind (R := fun t o w' ↦ o = .ok () ∧ t = [⟨.portal (.forget lock), .ok ()⟩] ∧
        w'.db = w.db ∧ w'.portal.running = w.portal.running ∧
        w'.portal.unconfirmed = w.portal.unconfirmed)
        (sat_ask_portal fun b a s hs ↦ by
          cases hs
          exact ⟨rfl, rfl, hdb, hrunning, hunconfirmed⟩) ?_ ?_
      · rintro t u w₃ ⟨-, rfl, hdb, hrunning, hunconfirmed⟩
        have hthrow : ∀ e' : Exn, e'.isException = true → Sat world (throw e' : Prog FileLock) w₃
            fun t o w' ↦ AcquireEnds paths w
              (⟨.portal (.unconfirmedGet paths.lockPath), .ok none⟩ ::
                ⟨.portal (.mkdir paths.lockDir), .ok ()⟩ ::
                ⟨.portal (.newFileLock paths.lockPath), .ok lock⟩ ::
                ⟨.portal (.acquire lock), .error e⟩ :: ⟨.portal (.forget lock), .ok ()⟩ :: t)
              o w' := fun e' he' ↦
          sat_throw ⟨by simp [Request.IsLocking], hdb, hrunning, hunconfirmed, he', by simp⟩
        cases e <;> first | exact hthrow _ rfl | exact hthrow _ ho
      · rintro t e w₃ ⟨ho, -⟩
        cases ho

/-! ## Releasing the lock -/

/-- A lock that the registry refers to is not collected. -/
theorem mem_collect {s : PortalState} {lock : FileLock} (h : lock ∈ s.held)
    (hentry : ∃ entry, s.unconfirmed.find? lock.path = some entry ∧ entry.lock = lock) :
    lock ∈ s.collect.held := by
  obtain ⟨entry, hfind, hlock⟩ := hentry
  refine List.mem_filter.mpr ⟨h, ?_⟩
  simp only [Bool.or_eq_true, List.any_eq_true, decide_eq_true_eq]
  exact Or.inr ⟨entry, Table.mem_of_find? hfind, hlock⟩

/-- How releasing a lock ends: it is free, unless the registry has an entry for its path. -/
def ReleaseEnds (lock : FileLock) (w : World) (t : List Happening) (o : Except Exn Unit)
    (w' : World) : Prop :=
  (∀ e ∈ t, e.1.IsLocking) ∧ (∀ l a, ⟨.portal (.acquire l), a⟩ ∉ t) ∧ w'.db = w.db ∧
    w'.portal.running = w.portal.running ∧ w'.portal.unconfirmed = w.portal.unconfirmed ∧
    o = .ok () ∧
    match w.portal.unconfirmed.find? lock.path with
    | none => lock ∉ w'.portal.held
    | some entry => (∀ l a, ⟨.portal (.release l), a⟩ ∉ t) ∧
      (entry.lock = lock → lock ∈ w.portal.held → lock ∈ w'.portal.held)

theorem sat_releaseProfileLock {lock : FileLock} {w : World} :
    Sat world (releaseProfileLock lock) w fun t o w' ↦ ReleaseEnds lock w t o w' := by
  refine sat_bind (R := fun t o w' ↦ w = w' ∧ o = .ok (w.portal.unconfirmed.find? lock.path) ∧
      t = [⟨.portal (.unconfirmedGet lock.path), o⟩])
    (sat_ask_portal fun b a s hs ↦ by cases hs; exact ⟨rfl, rfl, rfl⟩) ?_ ?_
  swap
  · rintro t e w₁ ⟨-, ho, -⟩
    cases ho
  rintro t entry _ ⟨rfl, ho, rfl⟩
  cases entry with
  | some entry =>
    refine sat_ask_portal fun b a s hs ↦ ?_
    cases hs
    refine ⟨by simp [Request.IsLocking], by simp, rfl, rfl, rfl, rfl, ?_⟩
    rw [← Except.ok.inj ho]
    refine ⟨by simp, fun hlock hheld ↦ mem_collect hheld ⟨entry, (Except.ok.inj ho).symm, hlock⟩⟩
  | none =>
    refine sat_bind (R := fun t o w' ↦ o = .ok () ∧ t = [⟨.portal (.release lock), .ok ()⟩] ∧
      w'.db = w.db ∧ w'.portal.running = w.portal.running ∧
      w'.portal.unconfirmed = w.portal.unconfirmed ∧ lock ∉ w'.portal.held)
      (sat_ask_portal fun b a s hs ↦ by cases hs; exact ⟨rfl, rfl, rfl, rfl, rfl, by simp⟩) ?_ ?_
    swap
    · rintro t e w₁ ⟨ho, -⟩
      cases ho
    rintro t u w₁ ⟨-, rfl, hdb, hrunning, hunconfirmed, hheld⟩
    refine sat_ask_portal fun b a s hs ↦ ?_
    cases hs
    refine ⟨by simp [Request.IsLocking], by simp, hdb, hrunning, hunconfirmed, rfl, ?_⟩
    rw [← Except.ok.inj ho]
    exact fun hmem ↦ hheld (List.mem_filter.mp hmem).1

/-- Marking a profile keeps its lock held and enters it into the registry. -/
theorem sat_markProfileTeardownUnconfirmed {lock : FileLock} {reason : String} {w : World} :
    Sat world (markProfileTeardownUnconfirmed lock reason) w fun t o w' ↦
      o = .ok () ∧ w'.db = w.db ∧ w'.portal.running = w.portal.running ∧
      (∃ since, w'.portal.unconfirmed.find? lock.path = some ⟨lock.path, lock, reason, since⟩ ∧
        t = [⟨.now, .ok since⟩,
          ⟨.portal (.unconfirmedSet ⟨lock.path, lock, reason, since⟩), .ok ()⟩]) ∧
      (lock ∈ w.portal.held → lock ∈ w'.portal.held) := by
  refine sat_bind (R := fun t o w' ↦ w = w' ∧ ∃ d, o = .ok d ∧ t = [⟨.now, .ok d⟩])
    (sat_now fun d ↦ ⟨rfl, d, rfl, rfl⟩) ?_ ?_
  · rintro t since _ ⟨rfl, d, ho, rfl⟩
    cases ho
    refine sat_ask_portal fun b a s hs ↦ ?_
    cases hs
    have hfind : (w.portal.unconfirmed.upsert ⟨lock.path, lock, reason, since⟩).find? lock.path =
        some ⟨lock.path, lock, reason, since⟩ := by
      rw [Table.find?_upsert, if_pos rfl]
    exact ⟨rfl, rfl, rfl, ⟨since, hfind, rfl⟩, fun hheld ↦ mem_collect hheld ⟨_, hfind, rfl⟩⟩
  · rintro t e w₁ ⟨-, d, ho, -⟩
    cases ho

end RmaPortal
