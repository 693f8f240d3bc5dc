import RmaPortal.Infrastructure.Portal.SessionSetup

/-!
# The phases of a task that uses the profile

A task that opens a browser on the profile looks into the registry, creates a lock and acquires
it, starts the browser, closes it, and lets go of the lock; when the close is not confirmed it
enters the profile into the registry instead.  `Phase` is where a task is on this way, and
`Phase.Step` is the way itself: which request takes a task from which phase to which, and what may
be answered there. Everything else a task asks for is `Quiet` and changes nothing.

Two things a task may do in some phases only.  It may be suspended only as long as it has not
heard about the close of its browser; from then on it goes through to its end in one turn.  And it
may report that the session is ready only when the close has been confirmed and the lock is gone.

## What is here

* `Closing` — how a browser was closed: the answer to the request, which may be an exception of
  any kind.
* `Phase` and what it says: the lock of the task, how its browser was closed, whether it may wait,
  whether it holds its lock, and which lock it has released.
* `Request.Quiet`, `Request.MayAnswer` — which requests change nothing, and what they may be
  answered: the clock never fails, and the database raises only exceptions.
* `Phase.Step`, `phases` — the way, with one constructor for each request and each kind of answer,
  and the typestate that it makes: a request is allowed in a phase if some answer to it is
  foreseen there.
* `closingOf`, `closings`, `closings_of_path` — how browsers were closed in a run, and that the
  phase knows it.
* `canWait_of_closing`, `confirmed_of_path`, `holds_of_path`, `creates_of_path`,
  `released_of_path` — what else the phase knows about the history of its task, each by induction
  along the path.

A phase is about one task.  `Profile.Exclusion` ties the phases of all tasks to the state of the
lock and of the registry, and `Profile.Tasks` shows that the programs go this way.
-/

set_option autoImplicit false

open Coroutine

namespace RmaPortal

/-- How a browser was closed. -/
abbrev Closing : Type := ManagerId × Except Exn Unit

/-- Where a task is in its use of the profile. -/
inductive Phase
  /-- It has not used the profile yet. -/
  | free
  /-- It has found no entry in the registry. -/
  | checked
  /-- It has created a lock. -/
  | created (l : FileLock)
  /-- It has not got the lock. -/
  | refused (l : FileLock)
  /-- It has got the lock. -/
  | held (l : FileLock)
  /-- It has started a browser. -/
  | browsing (l : FileLock) (m : ManagerId)
  /-- The close of the browser has ended. -/
  | ended (l : FileLock) (m : ManagerId) (c : Except Exn Unit)
  /-- The close has failed, and the profile is in the registry. -/
  | marked (l : FileLock) (m : ManagerId) (e : Exn)
  /-- It is about to release the lock, since the registry has no entry. -/
  | releasing (l : FileLock) (o : Option Closing)
  /-- It has released the lock. -/
  | released (l : FileLock) (o : Option Closing)
  /-- It has let go of a lock that is free. -/
  | gone (l : FileLock) (o : Option Closing)
  /-- It is about to let go of the lock without releasing it. -/
  | dropping (l : FileLock) (m : ManagerId) (e : Exn)
  /-- It has let go of the lock, which the registry keeps. -/
  | kept (l : FileLock) (m : ManagerId) (e : Exn)

namespace Phase

/-- The lock the task has created. -/
def lock? : Phase → Option FileLock
  | free | checked => none
  | created l | refused l | held l | browsing l _ | ended l _ _ | marked l _ _ | releasing l _
  | released l _ | gone l _ | dropping l _ _ | kept l _ _ => some l

/-- How the browsers of the task were closed. -/
def closings : Phase → List Closing
  | ended _ m c => [(m, c)]
  | marked _ m e | dropping _ m e | kept _ m e => [(m, .error e)]
  | releasing _ o | released _ o | gone _ o => o.toList
  | _ => []

/-- The task may wait. -/
def canWait : Phase → Bool
  | free | held _ | browsing _ _ => true
  | _ => false

/-- The close was confirmed, and the lock is free. -/
def confirmed : Phase → Bool
  | gone _ (some (_, .ok ())) => true
  | _ => false

/-- The lock a task holds that has not entered the profile into the registry, and how its browser
was closed. -/
def carries : Phase → Option (FileLock × Option Closing)
  | held l | browsing l _ => some (l, none)
  | ended l m c => some (l, some (m, c))
  | _ => none

/-- The lock the task has released. -/
def released? : Phase → Option FileLock
  | released l _ | gone l _ => some l
  | _ => none

/-- The task holds its lock. -/
def holds : Phase → Bool
  | held _ | browsing _ _ | ended _ _ _ | marked _ _ _ | releasing _ _ | dropping _ _ _ => true
  | _ => false

end Phase

/-- The call says that the session is ready. -/
def Repo.reportsReady : Repo → Bool
  | markSessionChecked _ status _ _ => status = .ready
  | markPollFinished _ status _ _ => PortalAccountRepository.sessionStatusOf status = .ready
  | finishPollRun _ outcome => PortalAccountRepository.sessionStatusOf outcome.status = .ready
  | _ => false

/-- The request changes nothing about the use of the profile, and may be made in the phase. -/
def Request.Quiet (q : Phase) : Request → Prop
  | .uow (.repo _ op) => op.reportsReady = true → q.confirmed = true
  | .uow _ | .now | .iterate _ | .selectOrder _ => True
  | .reader _ | .inflight => q.canWait = true
  | .portal (.mkdir _) | .portal (.stateFileExists _) | .portal (.readStateFile _)
  | .portal (.saveStateFile _ _) | .portal (.contextPages _) => True
  | .portal (.route _) | .portal (.addCookies _ _) | .portal (.addInitScript _ _ _ _)
  | .portal (.newPage _) | .portal (.goto _ _) | .portal (.waitForLoginOrClose _)
  | .portal (.storageState _) | .portal (.readSessionStorage _) => q.canWait = true
  | .portal _ => False

/-- What may be answered: the clock never fails, and the database raises only exceptions. -/
def Request.MayAnswer : (r : Request) → Except Exn r.Val → Prop
  | .uow _, .error e => e.isException = true
  | .now, .error _ => False
  | _, _ => True

theorem Request.exists_mayAnswer (r : Request) : ∃ a, r.MayAnswer a := by
  cases r with
  | now => exact ⟨.ok default, trivial⟩
  | _ => exact ⟨.error (.exception "" ""), by first | rfl | trivial⟩

/-- **The way of a task through its phases**, for the profile whose lock is at the path `p`. -/
inductive Phase.Step (p : String) : Phase → (r : Request) → Except Exn r.Val → Phase → Prop
  | quiet (q : Phase) (r : Request) (a : Except Exn r.Val) (h : r.Quiet q) (ha : r.MayAnswer a) :
      Step p q r a q
  | look : Step p .free (.portal (.unconfirmedGet p)) (.ok none) .checked
  | warned (entry : UnconfirmedTeardown) :
      Step p .free (.portal (.unconfirmedGet p)) (.ok (some entry)) .free
  | create (l : FileLock) (h : l.path = p) :
      Step p .checked (.portal (.newFileLock p)) (.ok l) (.created l)
  | acquire (l : FileLock) : Step p (.created l) (.portal (.acquire l)) (.ok ()) (.held l)
  | refuse (l : FileLock) (e : Exn) :
      Step p (.created l) (.portal (.acquire l)) (.error e) (.refused l)
  | forgetRefused (l : FileLock) : Step p (.refused l) (.portal (.forget l)) (.ok ()) (.refused l)
  | start (l : FileLock) (m : ManagerId) (dir : String) :
      Step p (.held l) (.portal (.managerEnter dir)) (.ok m) (.browsing l m)
  | startFails (l : FileLock) (e : Exn) (dir : String) :
      Step p (.held l) (.portal (.managerEnter dir)) (.error e) (.held l)
  | close (l : FileLock) (m : ManagerId) (c : Except Exn Unit) :
      Step p (.browsing l m) (.portal (.managerExit m)) c (.ended l m c)
  | mark (l : FileLock) (m : ManagerId) (e : Exn) (entry : UnconfirmedTeardown)
      (hpath : entry.lockPath = p) (hlock : entry.lock = l) :
      Step p (.ended l m (.error e)) (.portal (.unconfirmedSet entry)) (.ok ()) (.marked l m e)
  | lookCarrying (q : Phase) (l : FileLock) (o : Option Closing) (h : q.carries = some (l, o)) :
      Step p q (.portal (.unconfirmedGet p)) (.ok none) (.releasing l o)
  | lookMarked (l : FileLock) (m : ManagerId) (e : Exn) (entry : UnconfirmedTeardown) :
      Step p (.marked l m e) (.portal (.unconfirmedGet p)) (.ok (some entry)) (.dropping l m e)
  | release (l : FileLock) (o : Option Closing) :
      Step p (.releasing l o) (.portal (.release l)) (.ok ()) (.released l o)
  | forgetReleased (l : FileLock) (o : Option Closing) :
      Step p (.released l o) (.portal (.forget l)) (.ok ()) (.gone l o)
  | forgetMarked (l : FileLock) (m : ManagerId) (e : Exn) :
      Step p (.dropping l m e) (.portal (.forget l)) (.ok ()) (.kept l m e)

/-- The phases as a typestate: a request is allowed if some answer is foreseen. -/
def phases (p : String) : Spec Request.Val Exn Phase where
  pre q r := ∃ a q', Phase.Step p q r a q'
  step := Phase.Step p

/-! ## What the phase says about the history -/

/-- The close of a browser. -/
def closingOf : Happening → Option Closing
  | ⟨.portal (.managerExit m), c⟩ => some (m, c)
  | _ => none

/-- How browsers were closed in a run. -/
def closings (t : List Happening) : List Closing := t.filterMap closingOf

/-- A lock is created. -/
def Happening.creates : Happening → Bool
  | ⟨.portal (.newFileLock _), _⟩ => true
  | _ => false

/-- It is reported that the session is ready. -/
def Happening.reportsReady : Happening → Bool
  | ⟨.uow (.repo _ op), _⟩ => op.reportsReady
  | _ => false

section

variable {p : String} {q q' : Phase} {t : List Happening}

theorem closings_append (t t' : List Happening) : closings (t ++ t') = closings t ++ closings t' :=
  List.filterMap_append

theorem mem_closings {m : ManagerId} {c : Except Exn Unit} :
    (m, c) ∈ closings t ↔ ⟨.portal (.managerExit m), c⟩ ∈ t := by
  rw [closings, List.mem_filterMap]
  constructor
  · rintro ⟨e, he, hc⟩
    unfold closingOf at hc
    split at hc
    · cases hc
      exact he
    · cases hc
  · exact fun h ↦ ⟨_, h, rfl⟩

/-- What is quiet is neither a close nor the creation of a lock. -/
theorem quiet_event {r : Request} {a : Except Exn r.Val} (h : r.Quiet q) :
    closingOf ⟨r, a⟩ = none ∧ Happening.creates ⟨r, a⟩ = false := by
  cases r with
  | portal r => cases r <;> first | exact ⟨rfl, rfl⟩ | exact h.elim
  | _ => exact ⟨rfl, rfl⟩

theorem closings_of_path (h : (phases p).Path .free t q) : closings t = q.closings := by
  refine h.invariant (I := fun t q ↦ closings t = q.closings) rfl ?_
  intro t q r a q' hI hstep
  rw [closings_append, hI]
  cases hstep with
  | quiet q r a hquiet ha =>
    rw [closings, List.filterMap_cons, (quiet_event hquiet).1]
    exact List.append_nil _
  | lookCarrying q l o h => cases q <;> cases h <;> rfl
  | release | forgetReleased => exact List.append_nil _
  | _ => rfl

/-- A task whose browser has been asked to close does not wait any more. -/
theorem canWait_of_closing {m : ManagerId} {c : Except Exn Unit} (h : (phases p).Path .free t q)
    (hc : ⟨.portal (.managerExit m), c⟩ ∈ t) : q.canWait = false := by
  have hmem := mem_closings.mpr hc
  rw [closings_of_path h] at hmem
  cases q <;> first | rfl | cases hmem

/-- The session is reported ready only by a task whose close has been confirmed. -/
theorem confirmed_of_path (h : (phases p).Path .free t q) :
    ∀ e ∈ t, Happening.reportsReady e = true → q.confirmed = true := by
  refine h.invariant (I := fun t q ↦ ∀ e ∈ t, Happening.reportsReady e = true →
    q.confirmed = true) (by simp) ?_
  intro t q r a q' hI hstep e he hready
  cases hstep with
  | quiet q r a hquiet ha =>
    rcases List.mem_append.mp he with he | he
    · exact hI e he hready
    · rw [List.mem_singleton] at he
      subst he
      cases r with
      | uow op => cases op <;> first | exact hquiet hready | cases hready
      | _ => cases hready
  | lookCarrying q l o h =>
    rcases List.mem_append.mp he with he | he
    · have hconfirmed := hI e he hready
      cases q <;> first | cases hconfirmed | cases h
    · rw [List.mem_singleton] at he
      subst he
      cases hready
  | _ =>
    rcases List.mem_append.mp he with he | he
    · cases hI e he hready
    · rw [List.mem_singleton] at he
      subst he
      cases hready

/-- Which locks were acquired and are still held can be told from the phase. -/
theorem holds_of_path {l : FileLock} (h : (phases p).Path .free t q)
    (hacquired : ⟨.portal (.acquire l), .ok ()⟩ ∈ t) :
    q.lock? = some l ∧ (q.holds = true ∨ ⟨.portal (.release l), .ok ()⟩ ∈ t ∨
      ⟨.portal (.forget l), .ok ()⟩ ∈ t) := by
  refine h.invariant (I := fun t q ↦ ⟨.portal (.acquire l), .ok ()⟩ ∈ t →
    q.lock? = some l ∧ (q.holds = true ∨ ⟨.portal (.release l), .ok ()⟩ ∈ t ∨
      ⟨.portal (.forget l), .ok ()⟩ ∈ t)) (by simp) ?_ hacquired
  intro t q r a q' hI hstep hacquired
  simp only [List.mem_append, List.mem_singleton] at hacquired ⊢
  cases hstep with
  | quiet q r a hquiet ha =>
    obtain ⟨hlock, hholds⟩ := hI <| hacquired.resolve_right fun heq ↦ by
      cases heq
      exact hquiet
    exact ⟨hlock, hholds.imp_right (Or.imp Or.inl Or.inl)⟩
  | acquire l' =>
    have hl : l' = l := by
      rcases hacquired with hacquired | heq
      · exact Option.some.inj (hI hacquired).1
      · cases heq
        rfl
    exact ⟨congrArg some hl, Or.inl rfl⟩
  | lookCarrying q l' o h =>
    obtain ⟨hlock, -⟩ := hI (hacquired.resolve_right fun heq ↦ by cases heq)
    cases q <;> cases h <;> exact ⟨hlock, Or.inl rfl⟩
  | _ => simp_all [Phase.lock?, Phase.holds]

/-- A task creates one lock at most. -/
theorem creates_of_path (h : (phases p).Path q t q') :
    t.countP Happening.creates + q.lock?.toList.length = q'.lock?.toList.length := by
  refine h.invariant (I := fun t q' ↦
    t.countP Happening.creates + q.lock?.toList.length = q'.lock?.toList.length) (by simp) ?_
  intro t q₁ r a q₂ hI hstep
  rw [List.countP_append, Nat.add_right_comm, hI]
  cases hstep with
  | quiet q r a hquiet ha => simp [(quiet_event hquiet).2]
  | lookCarrying _ l o hcarries => cases q₁ <;> cases hcarries <;> rfl
  | _ => rfl

/-- A task that has created its lock creates no other. -/
theorem not_creates_of_path (h : (phases p).Path q t q') (hlock : q.lock?.isSome = true) :
    ∀ e ∈ t, Happening.creates e = false := by
  have hcount := creates_of_path h
  obtain ⟨l, hl⟩ := Option.isSome_iff_exists.mp hlock
  have hle : q'.lock?.toList.length ≤ 1 := Option.length_toList_le
  rw [hl] at hcount
  have hzero : t.countP Happening.creates = 0 := by
    simp only [Option.toList_some, List.length_singleton] at hcount
    omega
  simpa using List.countP_eq_zero.mp hzero

/-- Which lock was released can be told from the phase. -/
theorem released_of_path {l : FileLock} {a : Except Exn Unit} (h : (phases p).Path .free t q) :
    ⟨.portal (.release l), a⟩ ∈ t ↔ q.released? = some l ∧ a = .ok () := by
  refine h.invariant (I := fun t q ↦ ⟨.portal (.release l), a⟩ ∈ t ↔
    q.released? = some l ∧ a = .ok ()) (by simp [Phase.released?]) ?_
  intro t q r a₁ q' hI hstep
  rw [List.mem_append, hI, List.mem_singleton]
  cases hstep with
  | quiet q r a₁ hquiet ha =>
    refine or_iff_left fun heq ↦ ?_
    cases heq
    exact hquiet
  | lookCarrying q l o h => cases q <;> cases h <;> simp [Phase.released?]
  | _ => simp [Phase.released?, eq_comm]

end

end RmaPortal
