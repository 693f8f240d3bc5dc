import RmaPortal.Application.DossierService
import RmaPortal.Coroutine.Turns
import RmaPortal.Data.VersionedCell

/-!
# Lost updates of a work status

Any number of requests to change work statuses run at once, each in a thread and with a session of
its own, and each says which version of the row it expects.  The row of a dossier is then a
`VersionedCell`: a request loads it with its `SELECT` and stores it with its commit, and what it
stores was worked out from what it has loaded, because the `UPDATE` does not look at the version.

So the expected version protects a request from the updates that are committed before its
`SELECT`, and not from those committed between its `SELECT` and its own commit: the update is
lost.  `noLostUpdate_iff` says that this is the only way to lose one.

## What is here

* `updating` and `sat_updateWorkStatus` — one request for itself.  The state is the row it has
  loaded; it commits what it has loaded with the next version, and only if it has loaded what it
  expects.  `WorkUpdate.Post` is what a request has come to at its end: it has succeeded if and
  only if its commit has.
* `access` and `accesses` — what a step, and a run, does to the row of one dossier.  In this pool
  every request suspends, so a step is at most one request to the database, and a run is any
  interleaving of the requests of all threads.
* `work_of_step` — once there is a row, only the commit of a change changes it.  A merge of the
  changed columns is what SQLAlchemy writes (`DossierWork.merge`).
* `IsUpdateRun` — the runs.  `IsUpdateRun.rowStep` is the step lemma: the row is only changed by a
  request that has loaded the version it expects, and gets the next version.
  `IsUpdateRun.tracked` is the run, by induction on its labels: the accesses are a history of a
  versioned cell, and the row has the version they say.
* `NoLostUpdate` — what the expected versions are there for: at most one of the requests that
  expect the same version succeeds, and every success is one step of the version.
* `noLostUpdate_iff` — no update is lost if and only if between the `SELECT` of a request that
  succeeds and its own commit no other change of the row is committed.  The library says the same
  of any versioned cell, as `exact_iff_undisturbed`.
* `not_noLostUpdate` and `noLostUpdate_consecutive` — two requests that overlap and expect the
  same version, and two that come one after the other.

Requests without an expected version are left out: they do not ask for any protection.  That a
commit may be refused because another thread is writing is part of the database
(`WorkRequest.serve`).
-/

set_option autoImplicit false

open Coroutine VersionedCell

namespace RmaPortal

/-- A request to the database together with its answer. -/
abbrev WorkHappening : Type := Event WorkRequest.Val Exn

/-- Requests to change work statuses that run at once. -/
abbrev WorkPool : Type := Pool WorkRequest.Val Exn DossierWork WorkState

/-! ## One request -/

/-- What a request does for itself: the state is the row it has loaded.  It commits what it has
loaded with the next version, and only if it has loaded what it expects. -/
def updating (r : WorkUpdate) : Spec WorkRequest.Val Exn (Option DossierWork) where
  pre row request :=
    match request with
    | .get _ dossierId => dossierId = r.dossierId
    | .commit _ (.dirty loaded current) =>
      row = some loaded ∧ loaded.dossierId = r.dossierId ∧
        (∀ version, r.expectedVersion = some version → version = loaded.version) ∧
        current.version = loaded.version + 1
    | _ => True
  step row request answer row' :=
    match request, answer with
    | .get _ dossierId, .ok (some found) => found.dossierId = dossierId ∧ row' = some found
    | .exit _, .error _ => False
    | _, _ => row' = row

/-- A request has succeeded iff its commit has, and unless it has inserted a row it has changed the
one of its dossier. -/
structure WorkUpdate.Post (r : WorkUpdate) (t : List WorkHappening) (o : Except Exn DossierWork) :
    Prop where
  succeeds : (∃ row, o = .ok row) ↔ ∃ s pending, ⟨.commit s pending, .ok ()⟩ ∈ t
  inserts : ∀ s, ⟨.commit s .flushed, .ok ()⟩ ∈ t → ∃ s', ⟨.get s' r.dossierId, .ok none⟩ ∈ t
  updates : ∀ s loaded current, ⟨.commit s (.dirty loaded current), .ok ()⟩ ∈ t →
    loaded.dossierId = r.dossierId

/-- A request that commits nothing has failed. -/
theorem WorkUpdate.Post.of_no_commit {r : WorkUpdate} {t : List WorkHappening} {e : Exn}
    (h : ∀ s pending, ⟨.commit s pending, .ok ()⟩ ∉ t) : r.Post t (.error e) where
  succeeds := by
    constructor
    · rintro ⟨_, ⟨⟩⟩
    · rintro ⟨s, pending, hmem⟩
      exact absurd hmem (h s pending)
  inserts s hmem := absurd hmem (h s _)
  updates s loaded current hmem := absurd hmem (h s _)

/-- What `upsert` leaves for the commit: a row it has inserted because there was none, or a change
of the one it has loaded. -/
def WorkUpdate.Prepared (r : WorkUpdate) (t : List WorkHappening) (loaded : Option DossierWork) :
    PendingWork → Prop
  | .flushed => ∃ s, ⟨.get s r.dossierId, .ok none⟩ ∈ t
  | .dirty row current =>
    loaded = some row ∧ row.dossierId = r.dossierId ∧
      (∀ version, r.expectedVersion = some version → version = row.version) ∧
      current.version = row.version + 1

theorem sat_upsert (r : WorkUpdate) (s : SessionId) (now : Datetime) :
    Sat (updating r) (SqlAlchemyDossierWorkRepository.upsert s r.dossierId r.status
      r.expectedVersion r.userId now) none fun t o loaded ↦
        (∀ s pending, ⟨.commit s pending, .ok ()⟩ ∉ t) ∧
          ∀ row pending, o = .ok (row, pending) → r.Prepared t loaded pending := by
  refine sat_bind (R := fun t found loaded ↦ t = [⟨.get s r.dossierId, found⟩] ∧
    ∀ row, found = .ok (some row) → row.dossierId = r.dossierId ∧ loaded = some row)
    (sat_perform rfl fun found loaded hstep ↦ ⟨rfl, ?_⟩) ?_ ?_
  · rintro row rfl
    exact hstep
  · rintro _ (_ | row) loaded ⟨rfl, hloaded⟩
    · -- there was no row: insert one
      refine sat_bind (R := fun t _ _ ↦ ∃ row a, t = [⟨.flushInsert s row, a⟩])
        (sat_perform trivial fun a _ _ ↦ ⟨_, a, rfl⟩) ?_ ?_
      · rintro _ a _ ⟨row, b, rfl⟩
        refine sat_pure ⟨by simp, ?_⟩
        rintro _ _ ⟨⟩
        exact ⟨s, by simp⟩
      · rintro _ e _ ⟨row, b, rfl⟩
        exact ⟨by simp, by simp⟩
    · obtain ⟨hid, rfl⟩ := hloaded row rfl
      have hprepared (hversion : ∀ version, r.expectedVersion = some version →
          version = row.version) (t : List WorkHappening) :
          r.Prepared t (some row) (.dirty row
            (SqlAlchemyDossierWorkRepository.nextRow r.status r.userId now row)) :=
        ⟨rfl, hid, hversion, rfl⟩
      cases hexpected : r.expectedVersion with
      | none =>
        refine ⟨by simp, ?_⟩
        rintro _ _ ⟨⟩
        exact hprepared (by simp [hexpected]) _
      | some version =>
        dsimp only
        split
        · exact ⟨by simp, by simp⟩
        · rename_i hversion
          refine ⟨by simp, ?_⟩
          rintro _ _ ⟨⟩
          exact hprepared (fun v hv ↦ by simp_all) _
  · rintro _ e loaded ⟨rfl, -⟩
    exact ⟨by simp, by simp⟩

/-- A request that commits what `upsert` has prepared has succeeded. -/
theorem WorkUpdate.Post.of_commit {r : WorkUpdate} {t : List WorkHappening} {row : DossierWork}
    {pending : PendingWork} {loaded : Option DossierWork} (s : SessionId)
    (a : Except Exn Datetime) (hcommit : ∀ s pending, ⟨.commit s pending, .ok ()⟩ ∉ t)
    (hprepared : r.Prepared t loaded pending) :
    r.Post (⟨.now, a⟩ :: (t ++ [⟨.commit s pending, .ok ()⟩])) (.ok row) where
  succeeds := ⟨fun _ ↦ ⟨s, pending, by simp⟩, fun _ ↦ ⟨row, rfl⟩⟩
  inserts s' hmem := by
    obtain ⟨-, rfl⟩ : s' = s ∧ PendingWork.flushed = pending := by simpa [hcommit] using hmem
    obtain ⟨s', hs'⟩ := hprepared
    exact ⟨s', by simp [hs']⟩
  updates s' old current hmem := by
    obtain ⟨-, rfl⟩ : s' = s ∧ PendingWork.dirty old current = pending := by
      simpa [hcommit] using hmem
    exact hprepared.2.1

/-- Opening and closing the session says nothing about the commit. -/
theorem WorkUpdate.Post.in_session {r : WorkUpdate} {t : List WorkHappening}
    {o : Except Exn DossierWork} (h : r.Post t o) (s : SessionId) (a : Except Exn SessionId) :
    r.Post (⟨.enter, a⟩ :: (t ++ [⟨.exit s, .ok ()⟩])) o where
  succeeds := by simpa using h.succeeds
  inserts := by simpa using h.inserts
  updates := by simpa using h.updates

theorem sat_updateWorkStatus (r : WorkUpdate) :
    Sat (updating r) (updateWorkStatus r) none fun t o _ ↦ r.Post t o := by
  refine sat_bind (R := fun t a loaded ↦ t = [⟨.enter, a⟩] ∧ loaded = none)
    (sat_perform trivial fun a loaded hstep ↦ ⟨rfl, hstep⟩) ?_ ?_
  · rintro _ s _ ⟨rfl, rfl⟩
    refine sat_bind (R := fun t o _ ↦ ∃ t' o', t = t' ++ [⟨.exit s, .ok ()⟩] ∧ r.Post t' o' ∧
      o = o'.map (·, ())) (sat_tryFinally (R := fun t o _ ↦ r.Post t o) ?body ?exit) ?_ ?_
    case body =>
      refine sat_bind (R := fun t _ loaded ↦ (∃ a, t = [⟨.now, a⟩]) ∧ loaded = none)
        (sat_perform trivial fun a loaded hstep ↦ ⟨⟨a, rfl⟩, hstep⟩) ?_ ?_
      · rintro _ now _ ⟨⟨a, rfl⟩, rfl⟩
        refine sat_bind (sat_upsert r s now) ?_ ?_
        · rintro t ⟨row, pending⟩ loaded ⟨hcommit, hprepared⟩
          have hpending := hprepared row pending rfl
          refine sat_bind (R := fun t a _ ↦ t = [⟨.commit s pending, a⟩])
            (sat_perform ?_ fun a _ _ ↦ rfl) ?_ ?_
          · cases pending with
            | flushed => trivial
            | dirty row current => exact hpending
          · rintro _ ⟨⟩ _ rfl
            exact sat_pure (by simpa using .of_commit s a hcommit hpending)
          · rintro _ e _ rfl
            exact .of_no_commit (by simpa using hcommit)
        · rintro t e loaded ⟨hcommit, -⟩
          exact .of_no_commit (by simpa using hcommit)
      · rintro _ e _ ⟨⟨a, rfl⟩, -⟩
        exact .of_no_commit (by simp)
    case exit =>
      rintro t o _ hpost
      refine sat_perform trivial fun a _ hstep ↦ ?_
      cases a with
      | error e => exact hstep.elim
      | ok a => exact ⟨t, o, rfl, hpost, rfl⟩
    · rintro _ ⟨row, _⟩ _ ⟨t, o, rfl, hpost, ho⟩
      cases o with
      | error e => cases ho
      | ok row' =>
        cases ho
        exact sat_pure (by simpa using hpost.in_session s (.ok s))
    · rintro _ e _ ⟨t, o, rfl, hpost, ho⟩
      cases o with
      | ok row => cases ho
      | error e' =>
        cases ho
        exact hpost.in_session s (.ok s)
  · rintro _ e _ ⟨rfl, -⟩
    exact .of_no_commit (by simp)

/-! ## The row of a dossier -/

/-- What a step of a run does to the row of a dossier.  A step is at most one request. -/
def access (dossierId : ℕ) : ℕ × List WorkHappening → Option (Access ℕ)
  | (i, [⟨.get _ _, .ok (some row)⟩]) =>
    if row.dossierId = dossierId then some (.load i row.version) else none
  | (i, [⟨.commit _ (.dirty loaded _), .ok _⟩]) =>
    if loaded.dossierId = dossierId then some (.store i loaded.version) else none
  | _ => none

/-- What a run does to the row of a dossier. -/
def accesses (dossierId : ℕ) (ls : List (ℕ × List WorkHappening)) : List (Access ℕ) :=
  ls.filterMap (access dossierId)

/-- A request loads the row, stores it or does nothing to it. -/
theorem access_cases (d i : ℕ) (e : WorkHappening) :
    (∃ s k found, e = ⟨.get s k, .ok (some found)⟩ ∧ found.dossierId = d ∧
      access d (i, [e]) = some (.load i found.version)) ∨
    (∃ s loaded current, e = ⟨.commit s (.dirty loaded current), .ok ()⟩ ∧ loaded.dossierId = d ∧
      access d (i, [e]) = some (.store i loaded.version)) ∨
    ((∀ s loaded current, e = ⟨.commit s (.dirty loaded current), .ok ()⟩ → loaded.dossierId ≠ d) ∧
      access d (i, [e]) = none) := by
  by_cases hget : ∃ s k found, e = ⟨.get s k, .ok (some found)⟩ ∧ found.dossierId = d
  · obtain ⟨s, k, found, rfl, hid⟩ := hget
    exact .inl ⟨s, k, found, rfl, hid, if_pos hid⟩
  by_cases hcommit : ∃ s loaded current,
      e = ⟨.commit s (.dirty loaded current), .ok ()⟩ ∧ loaded.dossierId = d
  · obtain ⟨s, loaded, current, rfl, hid⟩ := hcommit
    exact .inr (.inl ⟨s, loaded, current, rfl, hid, if_pos hid⟩)
  · refine .inr (.inr ⟨fun s loaded current he hid ↦ hcommit ⟨s, loaded, current, he, hid⟩, ?_⟩)
    unfold access
    split
    · rename_i s k found hl
      cases hl
      exact if_neg fun hid ↦ hget ⟨s, k, found, rfl, hid⟩
    · rename_i s loaded current u hl
      cases hl
      exact if_neg fun hid ↦ hcommit ⟨s, loaded, current, rfl, hid⟩
    · rfl

/-- Storing a row is committing a change of it. -/
theorem access_eq_store {d i : ℕ} {v : ℤ} {l : ℕ × List WorkHappening} :
    access d l = some (.store i v) ↔ ∃ s loaded current,
      l = (i, [⟨.commit s (.dirty loaded current), .ok ()⟩]) ∧ loaded.dossierId = d ∧
        v = loaded.version := by
  constructor
  · intro h
    unfold access at h
    split at h
    · split at h <;> cases h
    · rename_i s loaded current u
      split at h <;> cases h
      rename_i hid
      exact ⟨s, loaded, current, rfl, hid, rfl⟩
    · cases h
  · rintro ⟨s, loaded, current, rfl, hid, rfl⟩
    exact if_pos hid

section Step

variable {w w' : WorkState} {d : ℕ} {row : DossierWork}

theorem work_of_get {s : SessionId} {dossierId : ℕ} {found : Option DossierWork}
    (h : workDatabase.step w (.get s dossierId) (.ok found) w') :
    found = w.work dossierId ∧ w' = w := by
  obtain ⟨_ | b, h⟩ := h <;> cases h
  exact ⟨rfl, rfl⟩

theorem work_of_commit {s : SessionId} {loaded current : DossierWork} {u : Unit}
    (h : workDatabase.step w (.commit s (.dirty loaded current)) (.ok u) w') (k : ℕ) :
    w'.work k =
      if k = loaded.dossierId then (w.work k).map (.merge loaded current) else w.work k := by
  obtain ⟨_ | b, h⟩ := h
  · cases h
  · simp only [WorkRequest.serve] at h
    split at h <;> cases h
    exact w.db.dossierWork.find?_update loaded.dossierId (loaded.merge current) (fun _ ↦ rfl) k

/-- **Only the commit of a change changes the row of a dossier**, once there is one. -/
theorem work_of_step {r : WorkRequest} {a : Except Exn r.Val} (h : workDatabase.step w r a w')
    (hrow : w.work d = some row)
    (hcommit : ∀ s loaded current,
      (⟨r, a⟩ : WorkHappening) = ⟨.commit s (.dirty loaded current), .ok ()⟩ →
        loaded.dossierId ≠ d) : w'.work d = some row := by
  cases r with
  | commit s pending =>
    cases pending with
    | dirty loaded current =>
      cases a with
      | error e =>
        obtain ⟨_ | b, h⟩ := h
        · cases h
          exact hrow
        · simp only [WorkRequest.serve] at h
          split at h <;> cases h <;> exact hrow
      | ok u =>
        rw [work_of_commit h, if_neg (hcommit s loaded current rfl).symm, hrow]
    | flushed =>
      obtain ⟨_ | b, h⟩ := h
      · cases h
        exact hrow
      · simp only [WorkRequest.serve] at h
        split at h
        · cases h
          exact hrow
        · split at h
          · split at h <;> cases h
            · exact hrow
            · rename_i db hinsert
              exact Database.find?_insertWork hinsert hrow
          · cases h
            exact hrow
  | flushInsert s new =>
    obtain ⟨_ | b, h⟩ := h
    · cases h
      exact hrow
    · simp only [WorkRequest.serve] at h
      split at h
      · cases h
        exact hrow
      · split at h <;> cases h <;> exact hrow
  | enter | now | get | exit =>
    obtain ⟨_ | b, h⟩ := h <;> cases h <;> exact hrow

end Step

/-! ## Runs -/

/-- Any number of requests, each with an expected version, run at once on a database nobody else is
using. -/
structure IsUpdateRun (requests : ℕ → WorkUpdate) (db : Database)
    (ls : List (ℕ × List WorkHappening)) (p : WorkPool) : Prop where
  steps : Pool.Steps workDatabase interrupted (fun _ ↦ True) (Pool.empty (WorkState.idle db)) ls p
  program : ∀ i task, p.tasks i = some task → task.program = updateWorkStatus (requests i)
  explicit : ∀ i, ∃ version, (requests i).expectedVersion = some version

variable {requests : ℕ → WorkUpdate} {db : Database} {ls ms : List (ℕ × List WorkHappening)}
  {p q : WorkPool} {d : ℕ}

/-- The first part of a run is a run. -/
theorem IsUpdateRun.before (h : IsUpdateRun requests db ms q)
    (hsteps : Pool.Steps workDatabase interrupted (fun _ ↦ True) (Pool.empty (WorkState.idle db))
      ls p)
    (hrest : ∃ l, Pool.Steps workDatabase interrupted (fun _ ↦ True) p l q) :
    IsUpdateRun requests db ls p := by
  obtain ⟨l, hrest⟩ := hrest
  refine ⟨hsteps, fun i task htask ↦ ?_, h.explicit⟩
  obtain ⟨task', htask', hprogram⟩ := hrest.program htask
  rw [← hprogram, h.program i task' htask']

/-- Whatever the database answers, a request has a place for it. -/
theorem updating_total {w w' : WorkState} {r : WorkRequest} {a : Except Exn r.Val}
    (h : workDatabase.step w r a w') (u : WorkUpdate) (row : Option DossierWork) :
    ∃ row', (updating u).step row r a row' := by
  cases r with
  | get s dossierId =>
    match a with
    | .error e => exact ⟨row, rfl⟩
    | .ok none => exact ⟨row, rfl⟩
    | .ok (some found) =>
      exact ⟨some found, Table.key_of_find? (work_of_get h).1.symm, rfl⟩
  | exit s =>
    obtain ⟨b, h⟩ := h
    cases h
    exact ⟨row, rfl⟩
  | enter | now | flushInsert | commit => exact ⟨row, rfl⟩

/-- **What a request has done so far**, and what it may do next. -/
theorem IsUpdateRun.task (h : IsUpdateRun requests db ls p) {i : ℕ}
    {task : Task WorkRequest.Val Exn DossierWork} (htask : p.tasks i = some task) :
    ∃ row, (updating (requests i)).Path none (eventsOf ls i) row ∧
      Sat (updating (requests i)) task.rest row fun t o _ ↦
        (requests i).Post (eventsOf ls i ++ t) o := by
  obtain ⟨hhistory, hafter⟩ := (h.steps.history i).2 task htask
  rw [h.program i task htask, hhistory] at hafter
  refine (sat_updateWorkStatus (requests i)).after hafter fun e he row _ ↦ ?_
  obtain ⟨es, hes, he⟩ := mem_eventsOf.mp he
  obtain ⟨w, w', hstep⟩ := h.steps.events _ hes e he
  exact updating_total hstep (requests i) row

/-- A request knows a row because it has loaded it. -/
theorem mem_of_path {r : WorkUpdate} {t : List WorkHappening} {loaded : Option DossierWork}
    (h : (updating r).Path none t loaded) {row : DossierWork} (hrow : loaded = some row) :
    ∃ s k, ⟨.get s k, .ok (some row)⟩ ∈ t := by
  refine h.invariant (I := fun t loaded ↦ ∀ row, loaded = some row →
    ∃ s k, ⟨.get s k, .ok (some row)⟩ ∈ t) (by simp) ?_ row hrow
  intro t loaded request answer loaded' ih hstep row hrow
  have hkept (h : loaded' = loaded) :
      ∃ s k, ⟨.get s k, .ok (some row)⟩ ∈ t ++ [⟨request, answer⟩] := by
    obtain ⟨s, k, hmem⟩ := ih row (h ▸ hrow)
    exact ⟨s, k, List.mem_append_left _ hmem⟩
  cases request with
  | get s k =>
    match answer with
    | .error e => exact hkept hstep
    | .ok none => exact hkept hstep
    | .ok (some found) =>
      obtain rfl : found = row := Option.some.inj (hstep.2.symm.trans hrow)
      exact ⟨s, k, by simp⟩
  | exit s =>
    cases answer with
    | error e => exact hstep.elim
    | ok u => exact hkept hstep
  | enter | now | flushInsert | commit => exact hkept hstep

/-- What a step does to a row: `RowStep requests before row access row'`. -/
inductive RowStep (requests : ℕ → WorkUpdate) (before : List (Access ℕ)) (row : DossierWork) :
    Option (Access ℕ) → DossierWork → Prop
  | keeps : RowStep requests before row none row
  | loads (i : ℕ) : RowStep requests before row (some (.load i row.version)) row
  | stores {i : ℕ} {v : ℤ} {row' : DossierWork} (hload : .load i v ∈ before)
      (hexpected : (requests i).expectedVersion = some v) (hversion : row'.version = v + 1) :
      RowStep requests before row (some (.store i v)) row'

/-- **One step of a run**: the row is only changed by a request that has loaded the version it
expects, and gets the next version. -/
theorem IsUpdateRun.rowStep (h : IsUpdateRun requests db ls p) {l : ℕ × List WorkHappening}
    (hstep : Pool.Step workDatabase interrupted (fun _ ↦ True) p l q) {row : DossierWork}
    (hrow : p.state.work d = some row) :
    ∃ row', q.state.work d = some row' ∧
      RowStep requests (accesses d ls) row (access d l) row' := by
  obtain ⟨i, es⟩ := l
  obtain ⟨rfl, hstate⟩ | ⟨task, r, k, a, htask, hwait, rfl, hserve⟩ := hstep.single fun _ ↦ rfl
  · exact ⟨row, by rw [hstate, hrow], .keeps⟩
  obtain ⟨s, dossierId, found, he, hid, haccess⟩ | ⟨s, loaded, current, he, hid, haccess⟩ |
    ⟨hcommit, haccess⟩ := access_cases d i ⟨r, a⟩ <;> rw [haccess]
  · cases he
    obtain ⟨hfound, hstate⟩ := work_of_get hserve
    obtain rfl : dossierId = d := (Table.key_of_find? hfound.symm).symm.trans hid
    obtain rfl : found = row := Option.some.inj (hfound.trans hrow)
    exact ⟨found, by rw [hstate, hrow], .loads i⟩
  · cases he
    obtain ⟨loaded?, hpath, hsat⟩ := h.task htask
    rw [hwait] at hsat
    obtain ⟨hloaded, -, hexpected, hversion⟩ := hsat.1
    refine ⟨loaded.merge current row, by rw [work_of_commit hserve, if_pos hid.symm, hrow]; rfl,
      .stores ?_ ?_ ?_⟩
    · obtain ⟨s', k', hmem⟩ := mem_of_path hpath hloaded
      obtain ⟨es, hes, hmem⟩ := mem_eventsOf.mp hmem
      obtain rfl := h.steps.eq_singleton (fun _ ↦ rfl) hes hmem
      exact List.mem_filterMap.mpr ⟨_, hes, if_pos hid⟩
    · obtain ⟨version, hexplicit⟩ := h.explicit i
      rw [hexplicit, hexpected version hexplicit]
    · simp [DossierWork.merge, hversion]
  · exact ⟨row, work_of_step hserve hrow hcommit, .keeps⟩

/-- What is known of a run about the row of a dossier that had one. -/
structure RowTracked (requests : ℕ → WorkUpdate) (d : ℕ) (v₀ : ℤ)
    (ls : List (ℕ × List WorkHappening)) (p : WorkPool) : Prop where
  /-- The row has the version its accesses say. -/
  version : ∃ row, p.state.work d = some row ∧ row.version = final v₀ (accesses d ls)
  /-- The accesses are those of a versioned cell. -/
  history : History v₀ (accesses d ls)
  /-- Only the expected version is stored over. -/
  expected : ∀ i v, (i, v) ∈ stores (accesses d ls) → (requests i).expectedVersion = some v
  /-- Nobody has found the row missing. -/
  found : ∀ l ∈ ls, ∀ s, ⟨.get s d, .ok none⟩ ∉ l.2

/-- **What a run does to a row**, by induction on its steps. -/
theorem IsUpdateRun.tracked (h : IsUpdateRun requests db ls p) {row₀ : DossierWork}
    (hrow₀ : db.dossierWork.find? d = some row₀) : RowTracked requests d row₀.version ls p := by
  have hsteps := h.steps
  generalize hp₀ : Pool.empty (WorkState.idle db) = p₀ at hsteps
  induction hsteps with
  | refl =>
    subst hp₀
    exact ⟨⟨row₀, hrow₀, rfl⟩, .nil, by simp [accesses], by simp⟩
  | @tail q r ls l hq hstep ih =>
    subst hp₀
    have hrun := h.before hq ⟨_, .single hstep⟩
    obtain ⟨⟨row, hrow, hversion⟩, hhistory, hexpected, hfound⟩ := ih hrun
    have happend : accesses d (ls ++ [l]) = accesses d ls ++ (access d l).toList := by
      simp only [accesses, List.filterMap_append, List.filterMap_cons, List.filterMap_nil]
      cases access d l <;> rfl
    have hfound' : ∀ s, ⟨.get s d, .ok none⟩ ∉ l.2 := by
      intro s hmem
      obtain ⟨hnil, -⟩ | ⟨task, request, k, a, -, -, hl, hserve⟩ := hstep.single fun _ ↦ rfl
      · simp [hnil] at hmem
      · rw [hl, List.mem_singleton] at hmem
        cases hmem
        cases (work_of_get hserve).1.trans hrow
    obtain ⟨row', hrow', hrowStep⟩ := hrun.rowStep hstep hrow
    generalize access d l = x at happend hrowStep
    refine ⟨⟨row', hrow', ?_⟩, ?_, ?_, ?_⟩
    · rw [happend]
      cases hrowStep <;> simp_all
    · rw [happend]
      cases hrowStep with
      | keeps => simpa using hhistory
      | loads i => exact hversion ▸ hhistory.loaded i
      | stores hload _ _ => exact hhistory.stored hload
    · intro i v hmem
      rw [happend, stores_append, List.mem_append] at hmem
      rcases hmem with hmem | hmem
      · exact hexpected i v hmem
      · cases hrowStep with
        | keeps => simp at hmem
        | loads => simp at hmem
        | stores hload hversion =>
          obtain ⟨rfl, rfl⟩ : i = _ ∧ v = _ := by simpa using hmem
          exact hversion
    · intro l' hl'
      rcases List.mem_append.mp hl' with hl' | hl'
      · exact hfound l' hl'
      · exact List.mem_singleton.mp hl' ▸ hfound'

/-! ## No lost update -/

/-- The requests whose change of the row has been committed, in this order. -/
def succeeded (d : ℕ) (ls : List (ℕ × List WorkHappening)) : List ℕ :=
  (stores (accesses d ls)).map Prod.fst

/-- After the steps `before`, the run `ls` to `p` takes the step `l` from `q` to `q'`. -/
structure TakesStep (db : Database) (ls : List (ℕ × List WorkHappening)) (p : WorkPool)
    (before : List (ℕ × List WorkHappening)) (q : WorkPool) (l : ℕ × List WorkHappening)
    (q' : WorkPool) : Prop where
  start : Pool.Steps workDatabase interrupted (fun _ ↦ True) (Pool.empty (WorkState.idle db))
    before q
  step : Pool.Step workDatabase interrupted (fun _ ↦ True) q l q'
  rest : ∃ after, ls = before ++ l :: after ∧
    Pool.Steps workDatabase interrupted (fun _ ↦ True) q' after p

/-- **No update is lost**, of a row that had version `v` at the start. -/
structure NoLostUpdate (requests : ℕ → WorkUpdate) (db : Database) (d : ℕ) (v : ℤ)
    (ls : List (ℕ × List WorkHappening)) (p : WorkPool) : Prop where
  /-- At most one of the requests that expect the same version succeeds. -/
  once : ∀ i ∈ succeeded d ls, ∀ j ∈ succeeded d ls,
    (requests i).expectedVersion = (requests j).expectedVersion → i = j
  /-- No request succeeds twice. -/
  nodup : (succeeded d ls).Nodup
  /-- A request succeeds on a row that has the version it expects. -/
  applied : ∀ before q l q', TakesStep db ls p before q l q' →
    (∃ s loaded current, ⟨.commit s (.dirty loaded current), .ok ()⟩ ∈ l.2 ∧
      loaded.dossierId = d) →
    ∃ row, q.state.work d = some row ∧ (requests l.1).expectedVersion = some row.version
  /-- A request that does not succeed never changes the row. -/
  unchanged : ∀ before q l q', TakesStep db ls p before q l q' → l.1 ∉ succeeded d ls →
    q'.state.work d = q.state.work d
  /-- The requests that return are those that have succeeded; the others raise. -/
  outcome : ∀ i task o, p.tasks i = some task → task.rest = .done o →
    (requests i).dossierId = d → ((∃ row, o = .ok row) ↔ i ∈ succeeded d ls)
  /-- The version counts the requests that have succeeded. -/
  version : ∃ row, p.state.work d = some row ∧ row.version = v + (succeeded d ls).length

theorem TakesStep.isRun {before : List (ℕ × List WorkHappening)} {l : ℕ × List WorkHappening}
    {q q' : WorkPool} (hrun : IsUpdateRun requests db ls p)
    (h : TakesStep db ls p before q l q') : IsUpdateRun requests db before q := by
  obtain ⟨after, -, hrest⟩ := h.rest
  exact hrun.before h.start ⟨_, (Pool.Steps.single h.step).trans hrest⟩

theorem TakesStep.accesses_eq {before : List (ℕ × List WorkHappening)}
    {l : ℕ × List WorkHappening} {q q' : WorkPool} (h : TakesStep db ls p before q l q') (d : ℕ) :
    ∃ after, accesses d ls = accesses d before ++ (access d l).toList ++ after := by
  obtain ⟨after, rfl, -⟩ := h.rest
  refine ⟨accesses d after, ?_⟩
  simp only [accesses, List.filterMap_append, List.filterMap_cons, List.append_assoc]
  cases access d l <;> rfl

/-- A store of the row is a step of the run. -/
theorem IsUpdateRun.takesStep_of_store (h : IsUpdateRun requests db ls p)
    {A C : List (Access ℕ)} {i : ℕ} {v : ℤ} (hstore : accesses d ls = A ++ .store i v :: C) :
    ∃ before q l q', TakesStep db ls p before q l q' ∧ accesses d before = A ∧
      access d l = some (.store i v) := by
  obtain ⟨before, rest, rfl, hbefore, hrest⟩ := List.filterMap_eq_append_iff.mp hstore
  obtain ⟨keep, l, after, rfl, hkeep, hl, -⟩ := List.filterMap_eq_cons_iff.mp hrest
  have hsteps := h.steps
  rw [show before ++ (keep ++ l :: after) = (before ++ keep) ++ l :: after by simp] at hsteps
  obtain ⟨q, hq, hrest⟩ := hsteps.split
  obtain ⟨q', hstep, hrest⟩ := hrest.first
  refine ⟨before ++ keep, q, l, q', ⟨hq, hstep, after, by simp, hrest⟩, ?_, hl⟩
  rw [accesses, List.filterMap_append, hbefore, List.filterMap_eq_nil_iff.mpr hkeep,
    List.append_nil]

theorem IsUpdateRun.mem_succeeded (h : IsUpdateRun requests db ls p) {row₀ : DossierWork}
    (hrow₀ : db.dossierWork.find? d = some row₀) {i : ℕ} :
    i ∈ succeeded d ls ↔
      ∃ v, (i, v) ∈ stores (accesses d ls) ∧ (requests i).expectedVersion = some v := by
  simp only [succeeded, List.mem_map]
  constructor
  · rintro ⟨⟨j, v⟩, hmem, rfl⟩
    exact ⟨v, hmem, (h.tracked hrow₀).expected j v hmem⟩
  · rintro ⟨v, hmem, -⟩
    exact ⟨(i, v), hmem, rfl⟩

/-- A request returns iff its change has been committed. -/
theorem IsUpdateRun.outcome (h : IsUpdateRun requests db ls p) {row₀ : DossierWork}
    (hrow₀ : db.dossierWork.find? d = some row₀) {i : ℕ}
    {task : Task WorkRequest.Val Exn DossierWork} {o : Except Exn DossierWork}
    (htask : p.tasks i = some task) (hover : task.rest = .done o)
    (hd : (requests i).dossierId = d) : (∃ row, o = .ok row) ↔ i ∈ succeeded d ls := by
  obtain ⟨_, -, hsat⟩ := h.task htask
  rw [hover] at hsat
  have hpost : (requests i).Post (eventsOf ls i) o := by simpa [Sat] using hsat
  rw [hpost.succeeds, succeeded, List.mem_map]
  constructor
  · rintro ⟨s, pending, hmem⟩
    cases pending with
    | flushed =>
      -- the row would have been missing
      obtain ⟨s', hget⟩ := hpost.inserts s hmem
      obtain ⟨es, hes, hget⟩ := mem_eventsOf.mp hget
      exact absurd (hd ▸ hget) ((h.tracked hrow₀).found _ hes s')
    | dirty loaded current =>
      have hid := hpost.updates s loaded current hmem
      obtain ⟨es, hes, hmem⟩ := mem_eventsOf.mp hmem
      obtain rfl := h.steps.eq_singleton (fun _ ↦ rfl) hes hmem
      exact ⟨(i, loaded.version), mem_stores.mpr
        (List.mem_filterMap.mpr ⟨_, hes, if_pos (hid.trans hd)⟩), rfl⟩
  · rintro ⟨⟨j, v⟩, hmem, rfl⟩
    obtain ⟨l, hl, haccess⟩ := List.mem_filterMap.mp (mem_stores.mp hmem)
    obtain ⟨s, loaded, current, rfl, -, -⟩ := access_eq_store.mp haccess
    exact ⟨s, .dirty loaded current, mem_eventsOf.mpr ⟨_, hl, by simp⟩⟩

/-- Where no update is lost, every update is made from the version the row has. -/
theorem NoLostUpdate.exact {v₀ : ℤ} (h : NoLostUpdate requests db d v₀ ls p)
    (hrun : IsUpdateRun requests db ls p) {row₀ : DossierWork}
    (hrow₀ : db.dossierWork.find? d = some row₀) : Exact row₀.version (accesses d ls) := by
  intro A i v C hstore
  obtain ⟨before, q, l, q', hstep, rfl, hl⟩ := hrun.takesStep_of_store hstore
  have hmem : (i, v) ∈ stores (accesses d ls) := by simp [hstore]
  obtain ⟨s, loaded, current, rfl, hid, rfl⟩ := access_eq_store.mp hl
  obtain ⟨row, hrow, hexpected⟩ := h.applied before q _ q' hstep
    ⟨s, loaded, current, by simp, hid⟩
  obtain ⟨row', hrow', hversion⟩ := ((hstep.isRun hrun).tracked hrow₀).version
  obtain rfl : row = row' := Option.some.inj (hrow.symm.trans hrow')
  rw [← hversion]
  exact Option.some.inj (((hrun.tracked hrow₀).expected i _ hmem).symm.trans hexpected)

/-- Where every update is made from the version the row has, no update is lost. -/
theorem noLostUpdate_of_exact (hrun : IsUpdateRun requests db ls p) {row₀ : DossierWork}
    (hrow₀ : db.dossierWork.find? d = some row₀) (hexact : Exact row₀.version (accesses d ls)) :
    NoLostUpdate requests db d row₀.version ls p where
  once i hi j hj hsame := by
    obtain ⟨v, hi, hv⟩ := (hrun.mem_succeeded hrow₀).mp hi
    obtain ⟨w, hj, hw⟩ := (hrun.mem_succeeded hrow₀).mp hj
    obtain rfl : v = w := Option.some.inj (hv.symm.trans (hsame.trans hw))
    exact hexact.eq_of_mem_stores hi hj
  nodup := by
    refine List.Nodup.map_on ?_ (List.Nodup.of_map _ hexact.nodup)
    rintro ⟨i, v⟩ hi ⟨j, w⟩ hj (rfl : i = j)
    have hv := (hrun.tracked hrow₀).expected i v hi
    have hw := (hrun.tracked hrow₀).expected i w hj
    rw [Option.some.inj (hv.symm.trans hw)]
  applied before q l q' hstep hcommit := by
    obtain ⟨s, loaded, current, hmem, hid⟩ := hcommit
    obtain ⟨i, es⟩ := l
    have hl : (i, es) ∈ ls := by
      obtain ⟨after, rfl, -⟩ := hstep.rest
      simp
    obtain rfl := hrun.steps.eq_singleton (fun _ ↦ rfl) hl hmem
    have haccess := (access_eq_store (i := i)).mpr ⟨s, loaded, current, rfl, hid, rfl⟩
    obtain ⟨after, hafter⟩ := hstep.accesses_eq d
    rw [haccess] at hafter
    have hversion := hexact _ i loaded.version after (by simpa using hafter)
    obtain ⟨row, hrow, hrowVersion⟩ := ((hstep.isRun hrun).tracked hrow₀).version
    refine ⟨row, hrow, ?_⟩
    rw [hrowVersion, ← hversion]
    exact (hrun.tracked hrow₀).expected i _ (by simp [hafter])
  unchanged before q l q' hstep hnot := by
    obtain ⟨row, hrow, -⟩ := ((hstep.isRun hrun).tracked hrow₀).version
    obtain ⟨row', hrow', hrowStep⟩ := (hstep.isRun hrun).rowStep hstep.step hrow
    obtain ⟨after, hafter⟩ := hstep.accesses_eq d
    rw [hrow', hrow]
    generalize haccess : access d l = x at hrowStep hafter
    cases hrowStep with
    | keeps => rfl
    | loads i => rfl
    | @stores i v _ hload hexpected hversion =>
      obtain ⟨s, loaded, current, rfl, -, -⟩ := access_eq_store.mp haccess
      exact absurd (List.mem_map.mpr ⟨(i, v), by simp [hafter], rfl⟩) hnot
  outcome i task o htask hover hd := hrun.outcome hrow₀ htask hover hd
  version := by
    obtain ⟨row, hrow, hversion⟩ := (hrun.tracked hrow₀).version
    exact ⟨row, hrow, by rw [hversion, hexact.final_eq, succeeded, List.length_map]⟩

/-- **When no update is lost**: iff no other change of the row is committed between the `SELECT` of
a request that succeeds and its own commit. -/
theorem noLostUpdate_iff (hrun : IsUpdateRun requests db ls p) {row₀ : DossierWork}
    (hrow₀ : db.dossierWork.find? d = some row₀) :
    NoLostUpdate requests db d row₀.version ls p ↔ Undisturbed (accesses d ls) := by
  rw [← exact_iff_undisturbed (hrun.tracked hrow₀).history]
  exact ⟨fun h ↦ h.exact hrun hrow₀, noLostUpdate_of_exact hrun hrow₀⟩

/-! ## Two requests -/

/-- The row two requests are about. -/
def sharedRow : DossierWork := ⟨0, .toDo, 1, none, default⟩

def sharedDatabase : Database := .ofWork { (default : Dossier) with id := 0 } sharedRow rfl

/-- Whatever slot it has, a request expects version 1. -/
def expectsOne (i : ℕ) : WorkUpdate := ⟨0, .inProgress, some 1, i⟩

/-- Nothing goes wrong. -/
def unhindered : (r : WorkRequest) → Except Exn r.Val
  | .enter => .ok 0
  | .now => .ok default
  | .get _ _ => .ok none
  | .flushInsert _ _ => .ok ()
  | .commit _ _ => .ok ()
  | .exit _ => .ok ()

/-- Start the request in slot `i`. -/
def workSpawn (requests : ℕ → WorkUpdate) (i : ℕ) (p : WorkPool) : WorkPool :=
  p.spawnWith WorkRequest.serve unhindered interrupted i (updateWorkStatus (requests i))

/-- Let the requests in these slots make their next requests to the database, in this order. -/
def workTurns (is : List ℕ) (p : WorkPool) : WorkPool :=
  p.turnsWith WorkRequest.serve unhindered interrupted is

theorem IsUpdateRun.spawn (h : IsUpdateRun requests db ls p) {i : ℕ} (hfree : p.tasks i = none) :
    IsUpdateRun requests db (ls ++ [(i, [])]) (workSpawn requests i p) := by
  have hnothing : (settleWith WorkRequest.serve unhindered interrupted
      (updateWorkStatus (requests i)) p.state).1 = [] := settleWith_nil _ _ (fun _ ↦ rfl) _ _
  refine ⟨.tail h.steps (hnothing ▸ Pool.step_spawnWith hfree trivial), fun j task htask ↦ ?_,
    h.explicit⟩
  rcases Pool.program_of_spawnWith htask with ⟨rfl, hprogram⟩ | htask
  · exact hprogram
  · exact h.program j task htask

theorem IsUpdateRun.turns (h : IsUpdateRun requests db ls p) (is : List ℕ) :
    IsUpdateRun requests db (ls ++ p.turnsEvents WorkRequest.serve unhindered interrupted is)
      (workTurns is p) := by
  refine ⟨h.steps.turnsWith is, fun i task htask ↦ ?_, h.explicit⟩
  obtain ⟨task', htask', hprogram⟩ := Pool.program_of_turnsWith htask
  rw [hprogram, h.program i task' htask']

/-- Nobody has asked for anything yet. -/
def beforeAll : WorkPool := Pool.empty (WorkState.idle sharedDatabase)

theorem isUpdateRun_beforeAll (requests : ℕ → WorkUpdate)
    (h : ∀ i, ∃ version, (requests i).expectedVersion = some version) :
    IsUpdateRun requests sharedDatabase [] beforeAll :=
  ⟨.refl _, (fun _ _ htask ↦ by cases htask), h⟩

/-- Two requests read the row before either of them commits. -/
def overlapping : WorkPool :=
  workTurns [0, 0, 0, 1, 1, 1, 0, 0, 1, 1]
    (workSpawn expectsOne 1 (workSpawn expectsOne 0 beforeAll))

theorem exists_overlapping : ∃ ls, IsUpdateRun expectsOne sharedDatabase ls overlapping :=
  have hstart := isUpdateRun_beforeAll expectsOne fun _ ↦ ⟨1, rfl⟩
  ⟨_, (((hstart.spawn rfl).spawn rfl).turns _)⟩

/-- **Updates are lost**: of two requests that expect the same version both succeed. -/
theorem not_noLostUpdate :
    ¬ ∀ (requests : ℕ → WorkUpdate) (db : Database) (d : ℕ) (ls : List (ℕ × List WorkHappening))
      (p : WorkPool) (row₀ : DossierWork), IsUpdateRun requests db ls p →
      db.dossierWork.find? d = some row₀ → NoLostUpdate requests db d row₀.version ls p := by
  intro h
  obtain ⟨ls, hrun⟩ := exists_overlapping
  have hno := h expectsOne sharedDatabase 0 ls overlapping sharedRow hrun rfl
  have hzero : 0 ∈ succeeded 0 ls := (hno.outcome 0 _ _ rfl rfl rfl).mp ⟨_, rfl⟩
  have hone : 1 ∈ succeeded 0 ls := (hno.outcome 1 _ _ rfl rfl rfl).mp ⟨_, rfl⟩
  exact absurd (hno.once 0 hzero 1 hone rfl) (by decide)

/-- Requests that come one after the other, each of which expects what the last one leaves. -/
def expectsNext (i : ℕ) : WorkUpdate := ⟨0, .inProgress, some (i + 1), i⟩

/-- The second request comes when the first one is through. -/
def consecutive : WorkPool :=
  workTurns [1, 1, 1, 1, 1]
    (workSpawn expectsNext 1 (workTurns [0, 0, 0, 0, 0] (workSpawn expectsNext 0 beforeAll)))

theorem exists_consecutive : ∃ ls, IsUpdateRun expectsNext sharedDatabase ls consecutive ∧
    accesses 0 ls = serial [(0, 1), (1, 2)] :=
  have hstart := isUpdateRun_beforeAll expectsNext fun i ↦ ⟨i + 1, rfl⟩
  ⟨_, (((hstart.spawn rfl).turns _).spawn rfl).turns _, rfl⟩

/-- **Requests that come one after the other lose nothing.** -/
theorem noLostUpdate_consecutive : ∃ ls, accesses 0 ls = serial [(0, 1), (1, 2)] ∧
    NoLostUpdate expectsNext sharedDatabase 0 1 ls consecutive := by
  obtain ⟨ls, hrun, haccesses⟩ := exists_consecutive
  refine ⟨ls, haccesses, (noLostUpdate_iff hrun (show _ = some sharedRow from rfl)).mpr ?_⟩
  rw [haccesses]
  exact undisturbed_serial (by decide)

end RmaPortal
