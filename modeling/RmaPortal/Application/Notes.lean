import RmaPortal.Data.Text
import RmaPortal.Infrastructure.Workflows

/-!
# Notes

`DossierService.add_note`, and under it `SqlAlchemyDossierNoteRepository.add`.  A note is stripped
and measured before the database hears of it, so that the `CHECK` constraint on its length is
never what refuses it.

## What is here

* `EmployeeDatabase.insertNote` — the `INSERT`, with its checks: the primary key must be new,
  dossier and author must be there, and the text must not be too long.
* `DossierNoteRepository.add` — insert a note under a new identifier.
* `noteTooLong`, `emptyNote` — the messages that the employee sees.
* `addNote` — the service, in a unit of work of its own: an exception leaves the database as it
  was.
* `addNote_ok` — what is added: one note, with the stripped text.
* `addNote_isOk_iff` — which notes are taken: those with a text that is not too long, of an
  employee, on a dossier.
-/

set_option autoImplicit false

namespace RmaPortal

/-- `INSERT INTO dossier_notes`.  The primary key must be new; the foreign keys and
`ck_note_max_length` are checked. -/
def EmployeeDatabase.insertNote (db : EmployeeDatabase) (n : DossierNote)
    (h : db.dossierNotes.find? n.id = none) : Except Exn EmployeeDatabase :=
  if (db.dossiers.find? n.dossierId).isSome ∧ (db.users.find? n.authorId).isSome ∧
      n.body.length ≤ maxNoteLength then
    .ok
      { toDatabase := { db.toDatabase with dossierNotes := db.dossierNotes.append n h }
        users := db.users
        reads_notification := db.reads_notification
        reads_user := db.reads_user }
  else .error Database.integrityError

/-- Insert a note under a new identifier. -/
def DossierNoteRepository.add (dossierId authorId : ℕ) (body : String) (createdAt : Datetime)
    (db : EmployeeDatabase) : Except Exn (DossierNote × EmployeeDatabase) := do
  let note : DossierNote :=
    { id := db.dossierNotes.fresh, dossierId := dossierId, authorId := authorId, body := body
      createdAt := createdAt }
  let db ← db.insertNote note db.dossierNotes.find?_fresh
  pure (note, db)

namespace DossierService

def noteTooLong (length limit : ℕ) : Exn :=
  .exception "NoteTooLongError"
    ("note body has " ++ toString length ++ " characters, limit is " ++ toString limit)

def emptyNote : Exn := .exception "EmptyNoteError" ""

/-- `add_note`, at the time `now`.  An exception leaves the database as it was. -/
def addNote (dossierId authorId : ℕ) (body : String) (now : Datetime) (db : EmployeeDatabase) :
    Except Exn (DossierNote × EmployeeDatabase) :=
  let body := Text.strip body
  if body.length > maxNoteLength then .error (noteTooLong body.length maxNoteLength)
  else if body.isEmpty then .error emptyNote
  else DossierNoteRepository.add dossierId authorId body now db

variable {dossierId authorId : ℕ} {body : String} {now : Datetime} {db : EmployeeDatabase}

/-- What is added: one note, with the stripped text. -/
theorem addNote_ok {note : DossierNote} {db' : EmployeeDatabase}
    (h : addNote dossierId authorId body now db = .ok (note, db')) :
    note.body = Text.strip body ∧
      ∃ hnew, db' = { db with dossierNotes := db.dossierNotes.append note hnew } := by
  simp only [addNote, DossierNoteRepository.add, EmployeeDatabase.insertNote, bind, Except.bind,
    pure, Except.pure] at h
  split at h
  · cases h
  split at h
  · cases h
  split at h
  · cases h
  rename_i hinsert
  split at hinsert <;> cases hinsert
  cases h
  exact ⟨rfl, _, rfl⟩

/-- **Which notes are taken**: those with a text that is not too long, of an employee, on a
dossier. -/
theorem addNote_isOk_iff : (addNote dossierId authorId body now db).isOk ↔
    (Text.strip body).length ≤ maxNoteLength ∧ Text.strip body ≠ "" ∧
      (db.dossiers.find? dossierId).isSome ∧ (db.users.find? authorId).isSome := by
  simp only [addNote, DossierNoteRepository.add, EmployeeDatabase.insertNote, bind, Except.bind,
    pure, Except.pure]
  by_cases hlong : (Text.strip body).length > maxNoteLength
  · simp [hlong, Except.isOk, Except.toBool]
  rw [if_neg hlong]
  by_cases hempty : Text.strip body = ""
  · simp [hempty, Except.isOk, Except.toBool]
  rw [if_neg (by simpa using hempty)]
  by_cases hkeys : (db.dossiers.find? dossierId).isSome ∧ (db.users.find? authorId).isSome
  · simp [hkeys, hempty, Nat.le_of_not_lt hlong, Except.isOk, Except.toBool]
  · have hrefused : ¬((db.dossiers.find? dossierId).isSome ∧ (db.users.find? authorId).isSome ∧
        (Text.strip body).length ≤ maxNoteLength) := fun h ↦ hkeys ⟨h.1, h.2.1⟩
    rw [if_neg hrefused]
    exact ⟨(fun h ↦ by cases h), fun h ↦ absurd h.2.2 hkeys⟩

end DossierService

end RmaPortal
