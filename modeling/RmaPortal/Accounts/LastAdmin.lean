import RmaPortal.Application.Administration
import RmaPortal.Coroutine.Pool

/-!
# The last administrator

No administrator can deactivate themself, so the one who deactivates somebody else remains: this
is meant to keep one active administrator at all times.  But whether the sender of a request is an
active administrator is looked up in one transaction, and the employee is deactivated in another.
In between the sender may have been deactivated by somebody else's request.

If then the employee is the only active administrator that is left, there is none afterwards.
`hasActiveAdmin_iff` says that this is the only way to lose the last one.

## What is here

* `AdminPool` — administration requests that run at once, each in a thread; threads are
  interrupted at any transaction.
* `IsActiveAdmin`, `HasActiveAdmin` — what is to hold at all times.
* `toggling` and `sat_toggleActive` — one request for itself: nobody but a user who has sent it
  gets past the dependencies of the route, and it never deactivates its own sender.
* `IsAdminRun` — the runs; `IsAdminRun.acting_ne` says that a request that deactivates an employee
  has been sent by somebody else, who was an active administrator when they were looked up.
* `state_of_step` — a step changes nothing, or decides of one employee whether they are active.
* `DeactivatesLastAdmin` — the step deactivates the only active administrator there is, for a
  sender who is none any more.  The condition is on the state before the step and on the request.
* `IsAdminRun.hasActiveAdmin_step` and `IsAdminRun.hasActiveAdmin` — the step lemma, and the run.
* `hasActiveAdmin_iff` — there is always an active administrator if and only if no step of the run
  is of this kind.
* `not_hasActiveAdmin` — two administrators who deactivate each other.

New administrators may be created in a run, too; this never does any harm.
-/

set_option autoImplicit false

open Coroutine

namespace RmaPortal

/-- An administration request to the database together with its answer. -/
abbrev AdminHappening : Type := Event AdminRequest.Val Exn

/-- Administration requests that run at once. -/
abbrev AdminPool : Type := Pool AdminRequest.Val Exn AdminResponse EmployeeDatabase

/-- Threads are interrupted at any transaction. -/
def atTransactions (_ : AdminRequest) : Bool := true

/-! ## Active administrators -/

/-- The user is an active administrator. -/
def IsActiveAdmin (db : EmployeeDatabase) (id : ℕ) : Prop :=
  ∃ u, db.users.find? id = some u ∧ u.active = true ∧ u.role = .admin

/-- Somebody is an active administrator. -/
def HasActiveAdmin (db : EmployeeDatabase) : Prop := ∃ id, IsActiveAdmin db id

/-- A change of whether one user is active changes nobody else. -/
theorem isActiveAdmin_setActive {db : EmployeeDatabase} {userId id : ℕ} {active : Bool} :
    IsActiveAdmin (UserRepository.setActive userId active db) id ↔
      if id = userId then active = true ∧ ∃ u, db.users.find? id = some u ∧ u.role = .admin
      else IsActiveAdmin db id := by
  rw [IsActiveAdmin, UserRepository.find?_setActive]
  split
  · constructor
    · rintro ⟨u, hu, hactive, hrole⟩
      obtain ⟨row, hrow, rfl⟩ := Option.map_eq_some_iff.mp hu
      exact ⟨hactive, row, hrow, hrole⟩
    · rintro ⟨hactive, u, hu, hrole⟩
      exact ⟨{ u with active := active }, by rw [hu]; rfl, hactive, hrole⟩
  · rfl

/-! ## One request -/

/-- What a request does for itself: it never deactivates its own sender. -/
def toggling (r : ToggleRequest) : Spec AdminRequest.Val Exn Unit where
  pre _ request :=
    match request with
    | .setActive id false => ∃ acting, r.sessionUser = some acting ∧ acting ≠ id
    | _ => True
  step _ request answer _ :=
    match request, answer with
    | .getUser id, .ok (some user) => user.id = id
    | _, _ => True

/-- Whoever is found to be the current user has sent the request. -/
theorem sat_getCurrentUser (r : ToggleRequest) :
    Sat (toggling r) (getCurrentUser r) () fun _ o _ ↦
      ∀ user, o = .ok (some user) → r.sessionUser = some user.id := by
  rw [getCurrentUser]
  split
  · exact sat_pure (by simp)
  · rename_i userId hsession
    refine sat_bind (R := fun _ o _ ↦ ∀ user, o = .ok (some user) → user.id = userId)
      (sat_perform trivial fun a _ hstep ↦ ?_) ?_ ?_
    · rintro user rfl
      exact hstep
    · rintro _ (_ | user) _ hfound
      · exact sat_pure (by simp)
      · refine sat_pure fun user' huser ↦ ?_
        have hid := hfound user rfl
        split at huser <;> cases huser
        rw [hsession, hid]
    · rintro _ e _ -
      simp

/-- Nobody but a user who has sent the request gets past the dependencies. -/
theorem sat_requireAdmin (r : ToggleRequest) :
    Sat (toggling r) (requireAdmin r) () fun _ o _ ↦
      ∀ user, o = .ok user → r.sessionUser = some user.id := by
  refine sat_bind (R := fun _ o _ ↦ ∀ user, o = .ok user → r.sessionUser = some user.id)
    (sat_bind (sat_getCurrentUser r) ?_ ?_) ?_ ?_
  · rintro _ (_ | user) _ hcurrent
    · exact sat_throw (by simp)
    · refine sat_pure ?_
      rintro _ ⟨⟩
      exact hcurrent user rfl
  · rintro _ e _ -
    simp
  · rintro _ user _ hsender
    split
    · exact sat_throw (by simp)
    · exact sat_pure hsender
  · rintro _ e _ -
    simp

theorem sat_toggleActive (r : ToggleRequest) :
    Sat (toggling r) (toggleActive r) () fun _ _ _ ↦ True := by
  refine sat_bind (sat_requireAdmin r) ?_ fun _ _ _ _ ↦ trivial
  rintro _ user _ hsender
  have hsession := hsender user rfl
  refine sat_bind (R := fun _ _ _ ↦ True) ?_ ?_ fun _ _ _ _ ↦ trivial
  · rw [checkSameOrigin]
    split
    · exact sat_throw trivial
    · split
      · exact sat_throw trivial
      · exact sat_pure trivial
  · rintro _ - _ -
    refine sat_attempt_bind (R := fun _ _ _ ↦ True) ?_ ?_
    · rw [AccountService.setActive]
      split
      · exact sat_throw trivial
      · rename_i hother
        refine sat_perform ?_ fun _ _ _ ↦ trivial
        cases hactive : decide (r.active = "1") with
        | true => trivial
        | false => exact ⟨user.id, hsession, fun hid ↦ hother ⟨hid.symm, hactive⟩⟩
    · rintro _ o _ -
      split
      · exact sat_pure trivial
      · split
        · exact sat_bind (R := fun _ _ _ ↦ True) (sat_perform trivial fun _ _ _ ↦ trivial)
            (fun _ _ _ _ ↦ sat_pure trivial) fun _ _ _ _ ↦ trivial
        · exact sat_throw trivial

/-! ## Runs -/

/-- Any number of administration requests run at once. -/
structure IsAdminRun (requests : ℕ → ToggleRequest) (db : EmployeeDatabase)
    (ls : List (ℕ × List AdminHappening)) (p : AdminPool) : Prop where
  steps : Pool.Steps userDatabase atTransactions (fun _ ↦ True) (Pool.empty db) ls p
  program : ∀ i task, p.tasks i = some task → task.program = toggleActive (requests i)

/-- The step deactivates the only active administrator there is, for a sender who is none any
more. -/
def DeactivatesLastAdmin (requests : ℕ → ToggleRequest) (db : EmployeeDatabase)
    (l : ℕ × List AdminHappening) : Prop :=
  ∃ id, ⟨.setActive id false, .ok ()⟩ ∈ l.2 ∧ (∀ other, IsActiveAdmin db other → other = id) ∧
    ∀ acting, (requests l.1).sessionUser = some acting → ¬IsActiveAdmin db acting

/-- After the labels `before`, the run `ls` from `db` to `p` takes the step `l` from `q`. -/
structure TakesAdminStep (db : EmployeeDatabase) (ls : List (ℕ × List AdminHappening))
    (p : AdminPool) (before : List (ℕ × List AdminHappening)) (q : AdminPool)
    (l : ℕ × List AdminHappening) (q' : AdminPool) : Prop where
  start : Pool.Steps userDatabase atTransactions (fun _ ↦ True) (Pool.empty db) before q
  step : Pool.Step userDatabase atTransactions (fun _ ↦ True) q l q'
  rest : ∃ after, ls = before ++ l :: after ∧
    Pool.Steps userDatabase atTransactions (fun _ ↦ True) q' after p

section Runs

variable {requests : ℕ → ToggleRequest} {db : EmployeeDatabase}
  {ls ms : List (ℕ × List AdminHappening)} {l : ℕ × List AdminHappening} {p q q' : AdminPool}

/-- The first part of a run is a run. -/
theorem IsAdminRun.before (h : IsAdminRun requests db ls p)
    (hstart : Pool.Steps userDatabase atTransactions (fun _ ↦ True) (Pool.empty db) ms q)
    (hrest : ∃ after, Pool.Steps userDatabase atTransactions (fun _ ↦ True) q after p) :
    IsAdminRun requests db ms q := by
  obtain ⟨after, hrest⟩ := hrest
  refine ⟨hstart, fun i task htask ↦ ?_⟩
  obtain ⟨task', htask', hprogram⟩ := hrest.program htask
  rw [← hprogram, h.program i task' htask']

/-- Whatever the database answers, a request has a place for it. -/
theorem toggling_total {db db' : EmployeeDatabase} {request : AdminRequest}
    {a : Except Exn request.Val} (h : userDatabase.step db request a db') (r : ToggleRequest) :
    (toggling r).step () request a () := by
  cases request with
  | getUser id =>
    match a with
    | .error e => trivial
    | .ok none => trivial
    | .ok (some user) =>
      obtain ⟨_ | b, h⟩ := h
      · cases h
      · simp only [AdminRequest.serve, Prod.mk.injEq, Except.ok.injEq] at h
        exact Table.key_of_find? h.1
  | setActive | listUsers => trivial

/-- **A request that deactivates an employee has been sent by somebody else.** -/
theorem IsAdminRun.acting_ne (h : IsAdminRun requests db ls p) {i : ℕ}
    {task : Task AdminRequest.Val Exn AdminResponse} (htask : p.tasks i = some task) {id : ℕ}
    {k : Except Exn Unit → AdminProg AdminResponse}
    (hwait : task.rest = .ask (.setActive id false) k) :
    ∃ acting, (requests i).sessionUser = some acting ∧ acting ≠ id := by
  obtain ⟨hhistory, hafter⟩ := (h.steps.history i).2 task htask
  rw [h.program i task htask, hhistory] at hafter
  obtain ⟨_, -, hsat⟩ := (sat_toggleActive (requests i)).after hafter fun e he _ _ ↦ by
    obtain ⟨es, hes, he⟩ := mem_eventsOf.mp he
    obtain ⟨db₁, db₂, hstep⟩ := h.steps.events _ hes e he
    exact ⟨(), toggling_total hstep (requests i)⟩
  rw [hwait] at hsat
  exact hsat.1

/-- A step changes nothing, or decides of one employee whether they are active. -/
theorem state_of_step {r : AdminRequest} {a : Except Exn r.Val} {db' : EmployeeDatabase}
    (h : userDatabase.step db r a db') :
    (db' = db ∧ ∀ id active, (⟨r, a⟩ : AdminHappening) ≠ ⟨.setActive id active, .ok ()⟩) ∨
      ∃ id active, (⟨r, a⟩ : AdminHappening) = ⟨.setActive id active, .ok ()⟩ ∧
        db' = UserRepository.setActive id active db := by
  cases r with
  | setActive id active =>
    obtain ⟨_ | b, h⟩ := h <;> cases h
    · exact .inl ⟨rfl, fun _ _ he ↦ by cases he⟩
    · exact .inr ⟨id, active, rfl, rfl⟩
  | getUser | listUsers =>
    refine .inl ⟨?_, fun _ _ he ↦ by cases he⟩
    obtain ⟨_ | b, h⟩ := h <;> cases h <;> rfl

/-- **One step loses the last active administrator** iff it deactivates them, for a sender who is
none any more. -/
theorem IsAdminRun.hasActiveAdmin_step (h : IsAdminRun requests db ms q)
    (hstep : Pool.Step userDatabase atTransactions (fun _ ↦ True) q l q')
    (hadmin : HasActiveAdmin q.state) :
    HasActiveAdmin q'.state ↔ ¬DeactivatesLastAdmin requests q.state l := by
  obtain ⟨hnil, hstate⟩ | ⟨task, r, k, a, htask, hwait, hl, hserve⟩ := hstep.single fun _ ↦ rfl
  · rw [hstate]
    refine iff_of_true hadmin ?_
    rintro ⟨id, hmem, -⟩
    simp [hnil] at hmem
  obtain ⟨hstate, hnone⟩ | ⟨id, active, he, hstate⟩ := state_of_step hserve
  · rw [hstate]
    refine iff_of_true hadmin ?_
    rintro ⟨id, hmem, -⟩
    rw [hl, List.mem_singleton] at hmem
    exact hnone id false hmem.symm
  · cases he
    rw [hstate]
    cases active with
    | true =>
      -- nobody is deactivated
      obtain ⟨other, hother⟩ := hadmin
      refine iff_of_true ⟨other, ?_⟩ ?_
      · rw [isActiveAdmin_setActive]
        split
        · obtain ⟨u, hu, -, hrole⟩ := hother
          exact ⟨rfl, u, hu, hrole⟩
        · exact hother
      · rintro ⟨id', hmem, -⟩
        rw [hl, List.mem_singleton] at hmem
        cases hmem
    | false =>
      obtain ⟨acting, hsession, hne⟩ := h.acting_ne htask hwait
      have hkept (other : ℕ) : IsActiveAdmin (UserRepository.setActive id false q.state) other ↔
          other ≠ id ∧ IsActiveAdmin q.state other := by
        rw [isActiveAdmin_setActive]
        split <;> simp_all
      simp only [HasActiveAdmin, hkept]
      constructor
      · rintro ⟨other, hother, hactive⟩ ⟨id', hmem, honly, -⟩
        rw [hl, List.mem_singleton] at hmem
        cases hmem
        exact hother (honly other hactive)
      · intro hnot
        by_contra hnone
        push Not at hnone
        refine hnot ⟨id, by rw [hl]; exact List.mem_singleton_self _, fun other hactive ↦ ?_, ?_⟩
        · by_contra hother
          exact hnone other hother hactive
        · rintro _ hacting hactive
          cases hsession.symm.trans hacting
          exact hnone acting hne hactive

/-- After the labels `ms`, the run `ls` from `db` to `p` is at `q`. -/
structure PassesThrough (db : EmployeeDatabase) (ls : List (ℕ × List AdminHappening))
    (p : AdminPool) (ms : List (ℕ × List AdminHappening)) (q : AdminPool) : Prop where
  start : Pool.Steps userDatabase atTransactions (fun _ ↦ True) (Pool.empty db) ms q
  rest : ∃ after, ls = ms ++ after ∧
    Pool.Steps userDatabase atTransactions (fun _ ↦ True) q after p

theorem TakesAdminStep.passesBefore (h : TakesAdminStep db ls p ms q l q') :
    PassesThrough db ls p ms q := by
  obtain ⟨after, hls, hrest⟩ := h.rest
  exact ⟨h.start, l :: after, hls, (Pool.Steps.single h.step).trans hrest⟩

theorem TakesAdminStep.passesAfter (h : TakesAdminStep db ls p ms q l q') :
    PassesThrough db ls p (ms ++ [l]) q' := by
  obtain ⟨after, hls, hrest⟩ := h.rest
  exact ⟨.tail h.start h.step, after, by rw [hls, List.append_assoc]; rfl, hrest⟩

theorem PassesThrough.isRun (hrun : IsAdminRun requests db ls p) (h : PassesThrough db ls p ms q) :
    IsAdminRun requests db ms q := by
  obtain ⟨after, -, hrest⟩ := h.rest
  exact hrun.before h.start ⟨after, hrest⟩

/-- If no step loses the last active administrator, there is always one. -/
theorem IsAdminRun.hasActiveAdmin (hrun : IsAdminRun requests db ls p) (hadmin : HasActiveAdmin db)
    (hkeep : ∀ ms q l q', TakesAdminStep db ls p ms q l q' →
      ¬DeactivatesLastAdmin requests q.state l)
    (h : PassesThrough db ls p ms q) : HasActiveAdmin q.state := by
  obtain ⟨hstart, hrest⟩ := h
  generalize hp₀ : Pool.empty db = p₀ at hstart
  induction hstart with
  | refl =>
    subst hp₀
    exact hadmin
  | @tail q q' ms l hq hstep ih =>
    subst hp₀
    obtain ⟨after, hls, hrest⟩ := hrest
    have htakes : TakesAdminStep db ls p ms q l q' :=
      ⟨hq, hstep, after, by rw [hls, List.append_assoc]; rfl, hrest⟩
    have hpasses := htakes.passesBefore
    exact ((hpasses.isRun hrun).hasActiveAdmin_step hstep (ih hpasses.rest)).mpr
      (hkeep ms q l q' htakes)

/-- **When there is always an active administrator**: iff no step of the run deactivates the only
one there is, for a sender who has been deactivated since. -/
theorem hasActiveAdmin_iff (hrun : IsAdminRun requests db ls p) (hadmin : HasActiveAdmin db) :
    (∀ ms q, PassesThrough db ls p ms q → HasActiveAdmin q.state) ↔
      ∀ ms q l q', TakesAdminStep db ls p ms q l q' →
        ¬DeactivatesLastAdmin requests q.state l := by
  constructor
  · intro hall ms q l q' htakes
    have hpasses := htakes.passesBefore
    exact ((hpasses.isRun hrun).hasActiveAdmin_step htakes.step (hall ms q hpasses)).mp
      (hall _ q' htakes.passesAfter)
  · exact fun hkeep ms q h ↦ hrun.hasActiveAdmin hadmin hkeep h

end Runs

/-! ## Two administrators -/

/-- An active administrator. -/
def User.admin (id : ℕ) (username : String) : User :=
  { id := id, username := username, displayName := "", passwordHash := "", role := .admin
    active := true, createdAt := default }

/-- A portal with two administrators. -/
def twoAdmins : EmployeeDatabase where
  toDatabase := .ofAccount (.unpolled 1)
  users := ⟨⟨[.admin 0 "a", .admin 1 "b"], by decide⟩, by decide⟩
  reads_notification _ hr := absurd hr List.not_mem_nil
  reads_user _ hr := absurd hr List.not_mem_nil

/-- Whatever slot it has, a request asks to deactivate the other administrator. -/
def deactivatesOther (i : ℕ) : ToggleRequest :=
  { sessionUser := some i, origin := some ⟨"http", "portal"⟩, url := ⟨"http", "portal"⟩
    userId := 1 - i, active := "0" }

/-- Nothing goes wrong. -/
def answering : (r : AdminRequest) → Except Exn r.Val
  | .getUser _ => .ok none
  | .setActive _ _ => .ok ()
  | .listUsers => .ok []

/-- Start the request in slot `i`. -/
def adminSpawn (i : ℕ) (p : AdminPool) : AdminPool :=
  p.spawnWith AdminRequest.serve answering atTransactions i (toggleActive (deactivatesOther i))

/-- Both administrators ask, and their requests take turns. -/
def adminTurns (is : List ℕ) : AdminPool :=
  (adminSpawn 1 (adminSpawn 0 (Pool.empty twoAdmins))).turnsWith AdminRequest.serve answering
    atTransactions is

theorem exists_isAdminRun (is : List ℕ) :
    ∃ ls, IsAdminRun deactivatesOther twoAdmins ls (adminTurns is) := by
  have hspawned : ∃ ls, Pool.Steps userDatabase atTransactions (fun _ ↦ True)
      (Pool.empty twoAdmins) ls (adminSpawn 1 (adminSpawn 0 (Pool.empty twoAdmins))) :=
    ⟨_, .tail (.single (Pool.step_spawnWith rfl trivial)) (Pool.step_spawnWith rfl trivial)⟩
  obtain ⟨ls, hsteps⟩ : ∃ ls, Pool.Steps userDatabase atTransactions (fun _ ↦ True)
      (Pool.empty twoAdmins) ls (adminTurns is) := Pool.Steps.exists_turnsWith is hspawned
  refine ⟨ls, hsteps, fun i task htask ↦ ?_⟩
  obtain ⟨task₁, htask₁, hprogram⟩ := Pool.program_of_turnsWith htask
  rw [hprogram]
  rcases Pool.program_of_spawnWith htask₁ with ⟨rfl, hprogram⟩ | htask₂
  · exact hprogram
  rcases Pool.program_of_spawnWith htask₂ with ⟨rfl, hprogram⟩ | htask₃
  · exact hprogram
  · cases htask₃

/-- Whether somebody is an active administrator can be computed. -/
theorem hasActiveAdmin_iff_any {db : EmployeeDatabase} : HasActiveAdmin db ↔
    db.users.rows.any (fun u ↦ u.active && decide (u.role = .admin)) = true := by
  simp only [HasActiveAdmin, IsActiveAdmin, List.any_eq_true, Bool.and_eq_true, decide_eq_true_eq]
  constructor
  · rintro ⟨id, u, hu, hadmin⟩
    exact ⟨u, Table.mem_of_find? hu, hadmin⟩
  · rintro ⟨u, hu, hadmin⟩
    exact ⟨u.id, u, Table.find?_of_mem (t := db.users.toTable) hu, hadmin⟩

instance (db : EmployeeDatabase) : Decidable (HasActiveAdmin db) :=
  decidable_of_iff _ hasActiveAdmin_iff_any.symm

/-- **The last active administrator can be lost**: each of two deactivates the other. -/
theorem not_hasActiveAdmin :
    ¬∀ (requests : ℕ → ToggleRequest) (db : EmployeeDatabase) (ls : List (ℕ × List AdminHappening))
      (p : AdminPool), IsAdminRun requests db ls p → HasActiveAdmin db →
        HasActiveAdmin p.state := by
  intro h
  obtain ⟨ls, hrun⟩ := exists_isAdminRun [0, 1, 0, 1]
  exact absurd (h _ _ ls _ hrun (by decide)) (by decide)

/-- In this run there is a step that deactivates the only active administrator left. -/
theorem hasActiveAdmin_iff_crossed : ∃ ls,
    IsAdminRun deactivatesOther twoAdmins ls (adminTurns [0, 1, 0, 1]) ∧
    ∃ ms q l q', TakesAdminStep twoAdmins ls (adminTurns [0, 1, 0, 1]) ms q l q' ∧
      DeactivatesLastAdmin deactivatesOther q.state l := by
  obtain ⟨ls, hrun⟩ := exists_isAdminRun [0, 1, 0, 1]
  refine ⟨ls, hrun, ?_⟩
  by_contra hnone
  push Not at hnone
  have hlast : PassesThrough twoAdmins ls (adminTurns [0, 1, 0, 1]) ls (adminTurns [0, 1, 0, 1]) :=
    ⟨hrun.steps, [], by rw [List.append_nil], .refl _⟩
  exact absurd ((hasActiveAdmin_iff hrun (by decide)).mpr hnone _ _ hlast) (by decide)

end RmaPortal
