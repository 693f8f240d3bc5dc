import RmaPortal.Application.Acknowledgement
import RmaPortal.Application.DossierService
import RmaPortal.Application.Notes

/-!
# What employees do to the database

The three transactions of the dossier service that write: an employee changes a work status,
acknowledges a dossier or writes a note.  Each of them is taken as it runs when nobody else uses
the database; how they get on with one another is a matter of its own.

Employees write tables that the synchronization does not look at.  Two states of the database are
`Alike` if it can tell no difference between them.

## What is here

* `Alike` — the tables that the synchronization looks at are the same.
* `WorkedOn` — what employees do: the synchronization does not notice, and no work row goes away.
  It is reflexive and transitive, and holds of each statement that they make:
  `WorkedOn.of_insertWork`, `WorkedOn.of_updateWork`, `WorkedOn.of_insertRead`,
  `WorkedOn.of_addNote`.
* `Database.WorkedOn.of_step` and `AckKept` — the typestates of the two programs that make more
  than one request, with `WorkedOn` carried along.
* `EmployeeTransaction` — a transaction of an employee, from one state of the database to another,
  with one constructor for each program and any run of it that is through.
* `EmployeeTransaction.workedOn` — employees leave alone what the synchronization looks at.

Reading is not a transaction here: it changes nothing.
-/

set_option autoImplicit false

open Coroutine

namespace RmaPortal

namespace Database

/-- The tables that the synchronization looks at are the same. -/
structure Alike (db db' : Database) : Prop where
  portalAccounts : db'.portalAccounts = db.portalAccounts
  dossiers : db'.dossiers = db.dossiers
  notifications : db'.notifications = db.notifications
  pollRuns : db'.pollRuns = db.pollRuns

namespace Alike

variable {db₁ db₂ db₃ : Database}

theorem refl (db : Database) : Alike db db := ⟨rfl, rfl, rfl, rfl⟩

theorem trans (h : Alike db₁ db₂) (h' : Alike db₂ db₃) : Alike db₁ db₃ :=
  ⟨h'.portalAccounts.trans h.portalAccounts, h'.dossiers.trans h.dossiers,
    h'.notifications.trans h.notifications, h'.pollRuns.trans h.pollRuns⟩

end Alike

/-- What employees do: the synchronization does not notice, and no work row goes away. -/
structure WorkedOn (db db' : Database) : Prop extends Alike db db' where
  work : ∀ i, (db.dossierWork.find? i).isSome → (db'.dossierWork.find? i).isSome

namespace WorkedOn

variable {db db₁ db₂ : Database}

theorem refl (db : Database) : WorkedOn db db := ⟨.refl db, fun _ h ↦ h⟩

theorem trans (h : WorkedOn db db₁) (h' : WorkedOn db₁ db₂) : WorkedOn db db₂ :=
  ⟨h.toAlike.trans h'.toAlike, fun i hi ↦ h'.work i (h.work i hi)⟩

/-- An `INSERT` of a work row. -/
theorem of_insertWork {row : DossierWork} (h : db.insertWork row = .ok db₁) : WorkedOn db db₁ := by
  refine ⟨?_, fun i hi ↦ ?_⟩
  · unfold insertWork at h
    split at h <;> cases h
    exact ⟨rfl, rfl, rfl, rfl⟩
  · obtain ⟨w, hw⟩ := Option.isSome_iff_exists.mp hi
    rw [find?_insertWork h hw]
    rfl

/-- An `UPDATE` of a work row. -/
theorem of_updateWork (db : Database) (id : ℕ) (f : DossierWork → DossierWork)
    (hf : ∀ w, (f w).dossierId = w.dossierId) : WorkedOn db (db.updateWork id f hf) := by
  refine ⟨⟨rfl, rfl, rfl, rfl⟩, fun i hi ↦ ?_⟩
  rw [updateWork, Table.find?_update]
  split
  · rwa [Option.isSome_map]
  · exact hi

/-- An `INSERT` of a read mark. -/
theorem of_insertRead {db db₁ : EmployeeDatabase} {row : NotificationRead}
    (h : db.insertRead row = .ok db₁) : WorkedOn db.toDatabase db₁.toDatabase := by
  unfold EmployeeDatabase.insertRead at h
  split at h <;> cases h
  exact ⟨⟨rfl, rfl, rfl, rfl⟩, fun _ hi ↦ hi⟩

/-- A note. -/
theorem of_addNote {dossierId authorId : ℕ} {body : String} {now : Datetime}
    {db db₁ : EmployeeDatabase} {note : DossierNote}
    (h : DossierService.addNote dossierId authorId body now db = .ok (note, db₁)) :
    WorkedOn db.toDatabase db₁.toDatabase := by
  obtain ⟨-, hnew, rfl⟩ := DossierService.addNote_ok h
  exact ⟨⟨rfl, rfl, rfl, rfl⟩, fun _ hi ↦ hi⟩

end WorkedOn

end Database

open Database

/-- A request of a work status update. -/
theorem Database.WorkedOn.of_step {w w' : WorkState} {r : WorkRequest} {a : Except Exn r.Val}
    (h : workDatabase.step w r a w') : WorkedOn w.db w'.db := by
  obtain ⟨b, h⟩ := h
  cases r with
  | commit s pending =>
    cases b with
    | error e =>
      cases h
      exact .refl _
    | ok u =>
      cases pending with
      | dirty loaded current =>
        simp only [WorkRequest.serve] at h
        split at h <;> cases h
        · exact .refl _
        · exact .refl _
        · exact .of_updateWork _ _ _ _
      | flushed =>
        simp only [WorkRequest.serve] at h
        split at h
        · cases h
          exact .refl _
        split at h
        · split at h <;> cases h
          · exact .refl _
          · rename_i hinsert
            exact .of_insertWork hinsert
        · cases h
          exact .refl _
  | flushInsert s row =>
    cases b with
    | error e =>
      cases h
      exact .refl _
    | ok u =>
      simp only [WorkRequest.serve] at h
      split at h
      · cases h
        exact .refl _
      · split at h <;> cases h <;> exact .refl _
  | enter | now | get | exit =>
    cases b <;> cases h <;> exact .refl _

/-- What is committed while a dossier is acknowledged, and what the session sees that writes. -/
def AckKept (db : Database) (w : AckState) : Prop :=
  WorkedOn db w.db.toDatabase ∧ ∀ p, w.writer = some p → WorkedOn db p.2.toDatabase

theorem AckKept.step {db : Database} {w w' : AckState} {r : AckRequest} {a : Except Exn r.Val}
    (hw : AckKept db w) (h : ackDatabase.step w r a w') : AckKept db w' := by
  obtain ⟨hdb, hwriter⟩ := hw
  obtain ⟨b, h⟩ := h
  cases r with
  | insert s row =>
    simp only [AckRequest.serve] at h
    split at h
    · rename_i s' seen hseen
      split at h
      · split at h <;> cases h
        · exact ⟨hdb, fun _ hp ↦ by cases hp⟩
        · rename_i hinsert
          refine ⟨hdb, ?_⟩
          rintro _ ⟨⟩
          exact (hwriter _ hseen).trans (.of_insertRead hinsert)
      · cases h
        exact ⟨hdb, hwriter⟩
    · split at h <;> cases h
      · exact ⟨hdb, hwriter⟩
      · rename_i hinsert
        refine ⟨hdb, ?_⟩
        rintro _ ⟨⟩
        exact hdb.trans (.of_insertRead hinsert)
  | commit s =>
    simp only [AckRequest.serve] at h
    split at h
    · rename_i s' seen hseen
      split at h <;> cases h
      · exact ⟨hwriter _ hseen, fun _ hp ↦ by cases hp⟩
      · exact ⟨hdb, hwriter⟩
    · cases h
      exact ⟨hdb, hwriter⟩
  | exit s =>
    cases h
    exact ⟨hdb, fun p hp ↦ hwriter p (Option.filter_eq_some_iff.mp hp).1⟩
  | enter | now | selectUnread =>
    cases h
    exact ⟨hdb, hwriter⟩

/-- **A transaction of an employee**, from one state of the database to another. -/
inductive EmployeeTransaction : Database → Database → Prop
  | updateWorkStatus {db : Database} {r : WorkUpdate} {t : List (Event WorkRequest.Val Exn)}
      {o : Except Exn DossierWork} {w : WorkState}
      (h : Exec workDatabase (updateWorkStatus r) (.idle db) t o w) : EmployeeTransaction db w.db
  | acknowledge {db : EmployeeDatabase} {dossierId userId : ℕ}
      {t : List (Event AckRequest.Val Exn)} {o : Except Exn Unit} {w : AckState}
      (h : Exec ackDatabase (acknowledge dossierId userId) (.idle db) t o w) :
      EmployeeTransaction db.toDatabase w.db.toDatabase
  | addNote {db db' : EmployeeDatabase} {dossierId authorId : ℕ} {body : String} {now : Datetime}
      {note : DossierNote}
      (h : DossierService.addNote dossierId authorId body now db = .ok (note, db')) :
      EmployeeTransaction db.toDatabase db'.toDatabase

/-- **Employees leave alone what the synchronization looks at.** -/
theorem EmployeeTransaction.workedOn {db db' : Database} (h : EmployeeTransaction db db') :
    WorkedOn db db' := by
  cases h with
  | updateWorkStatus h =>
    exact h.invariant (I := fun w ↦ WorkedOn db w.db) (.refl _)
      fun _ _ _ _ hw hstep ↦ hw.trans (.of_step hstep)
  | acknowledge h =>
    have hkept := h.invariant (I := fun w ↦ AckKept _ w) ⟨.refl _, fun _ hp ↦ by cases hp⟩
      fun _ _ _ _ hw hstep ↦ hw.step hstep
    exact hkept.1
  | addNote h => exact .of_addNote h

end RmaPortal
