import RmaPortal.Synchronization.Counters

/-!
# What synchronization leaves alone

Employees work in tables of their own, next to the dossiers.  A poll is to leave them alone,
whatever it finds on the portal and wherever it is broken off.

## What is here

* `DossierWork.untouched` — the work row of a dossier nobody has worked on yet.
* `Repo.Effect` — what one call of a repository method can do to the dossiers and to the tables
  next to them: leave both alone, edit dossiers, or create a dossier together with its work row.
  There are no other possibilities, and every result about what polls keep goes through this one
  inversion of `Repo.run`.
* `Repo.effect_at`, `DossierRepository.effect_edit`, `Repo.effect` — the methods, one after the
  other.
* `WorkKept` — from one state of the database to another, no dossier has gone away or changed its
  identity, no work row and no note that is there has changed, and what is created gets a fresh
  work row.
* `WorkKept.of_effect`, `Poll.workKept` — one call, and all the calls of a poll, in whatever order
  they are made.

Here the database belongs to the poll.  With employees who write between the transactions of a
poll the same is shown in `Synchronization.Interleaving`.
-/

set_option autoImplicit false

open Coroutine

namespace RmaPortal

/-- The work row of a dossier nobody has worked on yet. -/
def DossierWork.untouched (d : Dossier) : DossierWork := ⟨d.id, .toDo, 1, none, d.firstSeenAt⟩

/-! ## One call -/

/-- What one call of a repository method can do. -/
inductive Repo.Effect (db db' : Database) : Prop
  /-- Neither a dossier nor what employees write has changed. -/
  | other (hdossiers : db'.dossiers = db.dossiers) (hwork : db'.dossierWork = db.dossierWork)
      (hnotes : db'.dossierNotes = db.dossierNotes)
  /-- Dossiers have been edited. -/
  | edited (e : Dossier.Edit) (hseen : ∀ d, (e.apply d).firstSeenAt = d.firstSeenAt)
      (hdb : db' = db.mapDossiers e)
  /-- A dossier has been created, and with it its work row. -/
  | created (d : Dossier) (hid : db.dossiers.find? d.id = none)
      (hkey : db.dossiers.byRecord.find? d.recordKey = none)
      (hdossiers : db'.dossiers = db.dossiers.append d hid hkey)
      (hwork : db'.dossierWork.rows = db.dossierWork.rows ++ [.untouched d])
      (hnotes : db'.dossierNotes = db.dossierNotes)

/-- Editing the dossier of an account with a record identifier. -/
theorem DossierRepository.effect_edit {accountId : ℕ} {recordId : String} {e : Dossier.Edit}
    {db : Database} (hseen : ∀ d, (e.apply d).firstSeenAt = d.firstSeenAt) :
    Repo.Effect db (DossierRepository.edit accountId recordId e db) := by
  rw [DossierRepository.edit]
  split
  · exact .other rfl rfl rfl
  · refine .edited (e.at _) (fun d ↦ ?_) rfl
    rw [Dossier.Edit.at]
    dsimp only
    split
    · exact hseen d
    · rfl

/-- Editing one dossier. -/
theorem Repo.effect_at {db : Database} {e : Dossier.Edit} {id : ℕ}
    (hseen : ∀ d, (e.apply d).firstSeenAt = d.firstSeenAt) :
    Repo.Effect db (db.mapDossiers (e.at id)) := by
  refine .edited (e.at id) (fun d ↦ ?_) rfl
  rw [Dossier.Edit.at]
  dsimp only
  split
  · exact hseen d
  · rfl

/-- **What a repository method does** to the dossiers and next to them. -/
theorem Repo.effect {op : Repo} {db db' : Database} {x : op.Val} (h : op.run db = .ok (x, db')) :
    Repo.Effect db db' := by
  cases op
  case createFromRow accountId row now =>
    simp only [Repo.run, DossierRepository.createFromRow, bind, Except.bind, pure,
      Except.pure] at h
    split at h
    · cases h
    rename_i db₁ hinsert
    split at h
    · cases h
    rename_i db₂ hwork
    cases h
    unfold Database.insertDossier at hinsert
    split at hinsert <;> cases hinsert
    unfold Database.insertWork at hwork
    split at hwork <;> cases hwork
    rename_i hkey _
    exact .created _ _ hkey rfl rfl rfl
  case createNotification =>
    simp only [Repo.run, NotificationRepository.create, bind, Except.bind, pure, Except.pure] at h
    split at h
    · cases h
    rename_i hinsert
    cases h
    unfold Database.insertNotification at hinsert
    split at hinsert <;> cases hinsert
    exact .other rfl rfl rfl
  case finishPollRun =>
    simp only [Repo.run, PollRunRepository.finish] at h
    split at h <;> cases h
    exact .other rfl rfl rfl
  case touch =>
    simp only [Repo.run, DossierRepository.touch] at h
    split at h <;> cases h
    exact effect_at fun _ ↦ rfl
  case reactivate =>
    simp only [Repo.run, DossierRepository.reactivate] at h
    split at h <;> cases h
    exact effect_at fun _ ↦ rfl
  case applyAbsenceIncrement =>
    cases h
    exact DossierRepository.effect_edit fun _ ↦ rfl
  case deactivate =>
    cases h
    exact DossierRepository.effect_edit fun _ ↦ rfl
  case saveDetails =>
    cases h
    exact effect_at fun _ ↦ rfl
  all_goals
    cases h
    exact .other rfl rfl rfl

/-! ## Any number of calls -/

/-- From one state of the database to another, no dossier has gone away or changed its identity, and
what employees have written is as it was. -/
structure WorkKept (before after : Database) : Prop where
  dossier : ∀ i d, before.dossiers.find? i = some d → ∃ d', after.dossiers.find? i = some d' ∧
    d'.recordKey = d.recordKey ∧ d'.firstSeenAt = d.firstSeenAt
  /-- The work rows of the dossiers that were there are as they were. -/
  work : ∀ i, (before.dossiers.find? i).isSome →
    after.dossierWork.find? i = before.dossierWork.find? i
  /-- A dossier that was not there has a fresh work row. -/
  created : ∀ i d, before.dossiers.find? i = none → after.dossiers.find? i = some d →
    after.dossierWork.find? i = some (.untouched d)
  notes : after.dossierNotes = before.dossierNotes

namespace WorkKept

variable {db db₁ db₂ : Database}

theorem refl (db : Database) : WorkKept db db :=
  ⟨fun _ d h ↦ ⟨d, h, rfl, rfl⟩, fun _ _ ↦ rfl,
    fun _ _ h h' ↦ (Option.some_ne_none _ (h'.symm.trans h)).elim, rfl⟩

theorem trans (h : WorkKept db db₁) (h' : WorkKept db₁ db₂) : WorkKept db db₂ := by
  refine ⟨fun i d hd ↦ ?_, fun i hi ↦ ?_, fun i d₂ hnew hd₂ ↦ ?_, h'.notes.trans h.notes⟩
  · obtain ⟨d₁, hd₁, hkey₁, hseen₁⟩ := h.dossier i d hd
    obtain ⟨d₂, hd₂, hkey₂, hseen₂⟩ := h'.dossier i d₁ hd₁
    exact ⟨d₂, hd₂, hkey₂.trans hkey₁, hseen₂.trans hseen₁⟩
  · obtain ⟨d, hd⟩ := Option.isSome_iff_exists.mp hi
    obtain ⟨d₁, hd₁, -, -⟩ := h.dossier i d hd
    rw [h'.work i (by rw [hd₁]; rfl), h.work i hi]
  · cases hd₁ : db₁.dossiers.find? i with
    | none => exact h'.created i d₂ hd₁ hd₂
    | some d₁ =>
      obtain ⟨d', hd', -, hseen⟩ := h'.dossier i d₁ hd₁
      obtain rfl : d' = d₂ := Option.some.inj (hd'.symm.trans hd₂)
      have hid : d'.id = d₁.id := (Table.key_of_find? hd').trans (Table.key_of_find? hd₁).symm
      rw [h'.work i (by rw [hd₁]; rfl), h.created i d₁ hnew hd₁, DossierWork.untouched,
        DossierWork.untouched, hid, hseen]

/-- One call. -/
theorem of_effect (h : Repo.Effect db db₁) : WorkKept db db₁ := by
  cases h with
  | other hdossiers hwork hnotes =>
    refine ⟨fun i d hd ↦ ⟨d, by rw [hdossiers, hd], rfl, rfl⟩, fun i _ ↦ by rw [hwork],
      fun i d hnew hd ↦ ?_, hnotes⟩
    rw [hdossiers, hnew] at hd
    cases hd
  | edited e hseen hdb =>
    subst hdb
    refine ⟨fun i d hd ↦ ⟨e.apply d, ?_, e.recordKey_apply d, hseen d⟩, fun _ _ ↦ rfl,
      fun i d hnew hd ↦ ?_, rfl⟩
    · rw [Database.mapDossiers, DossierTable.find?_map, hd, Option.map_some]
    · rw [Database.mapDossiers, DossierTable.find?_map, hnew] at hd
      cases hd
  | created d hid hkey hdossiers hwork hnotes =>
    -- the work row of the new dossier is new as well
    have hfresh : db.dossierWork.find? d.id = none := by
      refine Table.find?_eq_none.mpr fun w hw heq ↦ ?_
      have hsome := db.dossierWork_dossier w hw
      rw [heq, hid] at hsome
      cases hsome
    have hfind (i : ℕ) : db₁.dossierWork.find? i =
        if i = d.id then some (.untouched d) else db.dossierWork.find? i := by
      refine Eq.trans ?_ (Table.find?_append db.dossierWork (.untouched d) hfresh i)
      rw [Table.find?, hwork]
      rfl
    refine ⟨fun i d' hd' ↦ ⟨d', ?_, rfl, rfl⟩, fun i hi ↦ ?_, fun i d' hnew hd' ↦ ?_, hnotes⟩
    · rw [hdossiers, DossierTable.find?_append, if_neg, hd']
      rintro rfl
      cases hid.symm.trans hd'
    · rw [hfind, if_neg]
      rintro rfl
      rw [hid] at hi
      cases hi
    · rw [hdossiers, DossierTable.find?_append] at hd'
      split at hd'
      · rename_i hi
        cases hd'
        rw [hfind, if_pos hi]
      · rw [hnew] at hd'
        cases hd'

end WorkKept

/-- **A poll keeps the employees' work.** -/
theorem Poll.workKept {H : Type} {F : PortalReaderFactory H} {p : Poll} (h : p.IsRun F) :
    WorkKept p.before p.after := by
  obtain ⟨w, w', hw, hexec, hw'⟩ := h
  have hkept := ((only_true (SyncAgreementQueue.execute F)).sat (S := world)
    (I := fun w' ↦ Kept (WorkKept p.before) w'.db) (fun _ _ _ _ ↦ trivial) ?_ (s := w) ?_).exec
      hexec
  · rw [hw'] at hkept
    exact hkept.1.1
  · rintro w₁ r a w₂ - hI ⟨b, hb⟩
    simp only [RmaPortal.serve] at hb
    cases r with
    | uow q =>
      cases hb
      exact hI.serve (fun tx op db db' x _ hdb hrun ↦ hdb.trans (.of_effect (Repo.effect hrun))) b
    | _ =>
      cases hb
      exact hI
  · rw [hw]
    exact ⟨.refl _, fun _ h ↦ by cases h⟩

end RmaPortal
