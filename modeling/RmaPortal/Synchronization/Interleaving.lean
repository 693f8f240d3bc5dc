import RmaPortal.Application.EmployeeTransactions
import RmaPortal.Synchronization.Sightings
import RmaPortal.Synchronization.WorkRows

/-!
# Polls among employees

A poll takes its time, and between any two of its transactions employees may work on the dossiers.
`Portal.Step` is what happens next: the poll that runs makes its next request, another one begins,
or an employee gets a transaction through.

The poll does not notice.  Next to a run there is the same run without the employees, in which
every request gets the same answer (`World.Alike.serve`): its polls are runs of `execute` one
after the other (`Portal.Run.lone`), and what is known of such polls carries over.

## What is here

* `Database.Alike` holds of two databases between which the synchronization can tell no
  difference: they may differ in the work rows, the notes and whatever else only employees write.
  `Database.Alike.run` goes through the repository methods one by one.  The only one that has to
  do with employees' data is `create_from_row`, which inserts a work row with a new dossier; it
  does not fail because of them, since a dossier that does not exist yet has no work row
  (`createFromRow_error`).
* `World.Alike` adds the session that may be open, and what it would commit.
* `Portal`, `Portal.Step` and `Portal.Run` — the portal at work.  One poll runs at a time, as the
  lock of `SyncAgreementQueue` has it, and a transaction of an employee is atomic, as SQLite has
  it: it does not overlap with one of the poll.
* `Twin` and `Lone` — the run without the employees, carried along: `Lone.step` is the step lemma
  and `Portal.Run.lone` the run.
* `Vain` and `exists_vain` — a poll that is still running has no outcome yet.  It is given one in
  which nothing more succeeds, so that everything known of finished polls can be said of what it
  has done so far (`Lone.exists_polls`).
* `PendingKept`, `Staffed` — what employees write survives: no request of a poll removes a work
  row, a note or a dossier, neither from what is committed nor from what the open session would
  commit.
* `Sound` and `dossiers_survive` — at most one dossier for every account and record, and a dossier
  that has been seen is there, with its identifier and the time of the first sighting, and with
  the work row and the notes that employees have given it, in every state of every run.
* `firstSight` and `firstSightDone` — a poll that sees a dossier for the first time, and an
  employee who is done with it.
-/

set_option autoImplicit false

open Coroutine

namespace RmaPortal

open SyncAgreementQueue Database

/-! ## What the synchronization looks at -/

/-- The same answer or the same exception, and states of the database that are alike. -/
inductive SameAnswer {α : Type} :
    Except Exn (α × Database) → Except Exn (α × Database) → Prop
  | ok {db db' : Database} (x : α) (h : Alike db db') : SameAnswer (.ok (x, db)) (.ok (x, db'))
  | error (e : Exn) : SameAnswer (.error e) (.error e)

section Repositories

variable {db db' : Database}

theorem Database.Alike.dossier_eq (h : Alike db db') (accountId : ℕ) (recordId : String) :
    db'.dossier accountId recordId = db.dossier accountId recordId := by
  rw [Database.dossier, Database.dossier, h.dossiers]

theorem Database.Alike.mapDossiers (h : Alike db db') (e : Dossier.Edit) :
    Alike (db.mapDossiers e) (db'.mapDossiers e) :=
  ⟨h.portalAccounts, congrArg (DossierTable.map · e) h.dossiers, h.notifications, h.pollRuns⟩

theorem Database.Alike.edit (h : Alike db db') (accountId : ℕ) (recordId : String)
    (e : Dossier.Edit) :
    Alike (DossierRepository.edit accountId recordId e db)
      (DossierRepository.edit accountId recordId e db') := by
  rw [DossierRepository.edit, DossierRepository.edit, h.dossier_eq]
  split
  · exact h
  · exact h.mapDossiers _

variable {accountId : ℕ} {row : QueueRow} {now : Datetime}

/-- What `create_from_row` makes of the tables that the synchronization looks at. -/
theorem tables_of_createFromRow {d : Dossier}
    (h : DossierRepository.createFromRow accountId row now db = .ok (d, db')) :
    d = DossierRepository.created db.dossiers.fresh accountId row now ∧
      db'.portalAccounts = db.portalAccounts ∧ db'.notifications = db.notifications ∧
      db'.pollRuns = db.pollRuns ∧
      db'.dossiers.rows = db.dossiers.rows ++ [d] ∧
      db.dossiers.byRecord.find? d.recordKey = none := by
  simp only [DossierRepository.createFromRow, bind, Except.bind, pure, Except.pure] at h
  split at h
  · cases h
  rename_i hinsert
  split at h
  · cases h
  rename_i hwork
  cases h
  unfold insertDossier at hinsert
  split at hinsert <;> cases hinsert
  rename_i hkey
  unfold insertWork at hwork
  split at hwork <;> cases hwork
  exact ⟨rfl, rfl, rfl, rfl, rfl, hkey⟩

/-- A new dossier has no work row yet: inserting one does not fail. -/
theorem createFromRow_error {e : Exn}
    (h : DossierRepository.createFromRow accountId row now db = .error e) :
    e = integrityError ∧ db.dossiers.byRecord.find? (accountId, row.recordId) ≠ none := by
  simp only [DossierRepository.createFromRow, bind, Except.bind, pure, Except.pure] at h
  split at h
  · rename_i hinsert
    cases h
    unfold insertDossier at hinsert
    split at hinsert <;> cases hinsert
    rename_i hkey
    exact ⟨rfl, hkey⟩
  rename_i db₁ hinsert
  split at h
  · rename_i hwork
    cases h
    unfold insertDossier at hinsert
    split at hinsert <;> cases hinsert
    rename_i hkey
    unfold insertWork at hwork
    split at hwork <;> cases hwork
    rename_i hrefused
    refine absurd ⟨?_, ?_⟩ hrefused
    · refine Table.find?_eq_none.mpr fun w hw hid ↦ ?_
      have hsome := db.dossierWork_dossier w hw
      rw [hid] at hsome
      exact Option.not_isSome_iff_eq_none.mpr db.dossiers.find?_fresh hsome
    · exact Option.isSome_iff_exists.mpr ⟨_, (DossierTable.find?_append db.dossiers _
        db.dossiers.find?_fresh hkey _).trans (if_pos rfl)⟩
  · cases h

theorem Database.Alike.createFromRow (h : Alike db db') :
    SameAnswer (DossierRepository.createFromRow accountId row now db)
      (DossierRepository.createFromRow accountId row now db') := by
  rcases h₁ : DossierRepository.createFromRow accountId row now db with e | ⟨d, db₁⟩ <;>
    rcases h₂ : DossierRepository.createFromRow accountId row now db' with e' | ⟨d', db₂⟩
  · obtain ⟨rfl, -⟩ := createFromRow_error h₁
    obtain ⟨rfl, -⟩ := createFromRow_error h₂
    exact .error _
  · obtain ⟨-, hkey⟩ := createFromRow_error h₁
    obtain ⟨rfl, -, -, -, -, hkey'⟩ := tables_of_createFromRow h₂
    rw [h.dossiers] at hkey'
    exact (hkey hkey').elim
  · obtain ⟨-, hkey⟩ := createFromRow_error h₂
    obtain ⟨rfl, -, -, -, -, hkey'⟩ := tables_of_createFromRow h₁
    rw [h.dossiers] at hkey
    exact (hkey hkey').elim
  · obtain ⟨hd, haccounts, hnotifications, hruns, hrows, -⟩ := tables_of_createFromRow h₁
    obtain ⟨hd', haccounts', hnotifications', hruns', hrows', -⟩ := tables_of_createFromRow h₂
    obtain rfl : d' = d := by rw [hd, hd', h.dossiers]
    refine .ok d' ⟨?_, DossierTable.eq_of_rows ?_, ?_, ?_⟩
    · rw [haccounts', haccounts, h.portalAccounts]
    · rw [hrows', hrows, h.dossiers]
    · rw [hnotifications', hnotifications, h.notifications]
    · rw [hruns', hruns, h.pollRuns]

theorem Database.Alike.updateAccounts (h : Alike db db') (id : ℕ)
    (f : PortalAccount → PortalAccount) (hf : ∀ a, (f a).id = a.id) :
    Alike { db with portalAccounts := db.portalAccounts.update id f hf }
      { db' with portalAccounts := db'.portalAccounts.update id f hf } :=
  ⟨congrArg (Table.update · id f hf) h.portalAccounts, h.dossiers, h.notifications, h.pollRuns⟩

/-- **A repository method does not notice** what employees have done. -/
theorem Database.Alike.run (h : Alike db db') (op : Repo) :
    SameAnswer (op.run db) (op.run db') := by
  cases op with
  | getDefault =>
    rw [Repo.run, Repo.run, PortalAccountRepository.getDefault, PortalAccountRepository.getDefault,
      h.portalAccounts]
    exact .ok _ h
  | markPollStarted | markPollFinished | markBaselineCompleted | markSessionChecked =>
    exact .ok _ (h.updateAccounts _ _ _)
  | startPollRun accountId startedAt =>
    obtain ⟨accounts, dossiers, notifications, _, _, _, runs, _, _⟩ := db
    obtain ⟨_, _, _, _, _, _, _, _, _⟩ := db'
    obtain ⟨rfl, rfl, rfl, rfl⟩ := h
    exact .ok _ ⟨rfl, rfl, rfl, rfl⟩
  | finishPollRun pollRunId o =>
    rw [Repo.run, Repo.run, PollRunRepository.finish, PollRunRepository.finish, h.pollRuns]
    split
    · exact .error _
    · exact .ok _ ⟨h.portalAccounts, h.dossiers, h.notifications, rfl⟩
  | existingStateByAccount accountId =>
    rw [Repo.run, Repo.run, DossierRepository.existingStateByAccount,
      DossierRepository.existingStateByAccount, h.dossiers]
    exact .ok _ h
  | dossiersNeedingDetailRetry accountId =>
    rw [Repo.run, Repo.run, DossierRepository.dossiersNeedingDetailRetry,
      DossierRepository.dossiersNeedingDetailRetry, h.dossiers]
    exact .ok _ h
  | createFromRow accountId row now => exact h.createFromRow
  | touch accountId row now =>
    rw [Repo.run, Repo.run, DossierRepository.touch, DossierRepository.touch, h.dossier_eq]
    split
    · exact .error _
    · exact .ok _ (h.mapDossiers _)
  | reactivate accountId row now =>
    rw [Repo.run, Repo.run, DossierRepository.reactivate, DossierRepository.reactivate,
      h.dossier_eq]
    split
    · exact .error _
    · exact .ok _ (h.mapDossiers _)
  | applyAbsenceIncrement accountId recordId count => exact .ok _ (h.edit _ _ _)
  | deactivate accountId recordId => exact .ok _ (h.edit _ _ _)
  | saveDetails dossierId details => exact .ok _ (h.mapDossiers _)
  | createNotification dossierId kind detectedAt =>
    obtain ⟨accounts, dossiers, notifications, _, _, _, runs, _, _⟩ := db
    obtain ⟨_, _, _, _, _, _, _, _, _⟩ := db'
    obtain ⟨rfl, rfl, rfl, rfl⟩ := h
    rw [Repo.run, Repo.run, NotificationRepository.create, NotificationRepository.create,
      insertNotification, insertNotification]
    dsimp only
    split
    · exact .ok _ ⟨rfl, rfl, rfl, rfl⟩
    · exact .error _

end Repositories

/-- Two worlds between which a poll can tell no difference. -/
structure World.Alike (w w' : World) : Prop where
  committed : Database.Alike w.db.committed w'.db.committed
  pending : Option.Rel Database.Alike w.db.pending w'.db.pending
  portal : w'.portal = w.portal

namespace World.Alike

variable {w w' : World}

theorem refl (w : World) : World.Alike w w := by
  refine ⟨.refl _, ?_, rfl⟩
  cases w.db.pending with
  | none => exact .none
  | some db => exact .some (.refl db)

/-- Nobody has opened a session. -/
theorem pending_eq_none (h : World.Alike w w') (hw : w.db.pending = none) :
    w'.db.pending = none := by
  have hpending := h.pending
  rw [hw] at hpending
  generalize w'.db.pending = db? at hpending ⊢
  cases hpending
  rfl

/-- A request to the database. -/
theorem serve_uow (h : World.Alike w w') (q : UowRequest) (b : Except Exn q.Val) :
    (q.serve b w'.db).1 = (q.serve b w.db).1 ∧
      World.Alike ⟨(q.serve b w.db).2, w.portal⟩ ⟨(q.serve b w'.db).2, w'.portal⟩ := by
  obtain ⟨⟨committed, pending⟩, profile⟩ := w
  obtain ⟨⟨committed', pending'⟩, profile'⟩ := w'
  obtain ⟨hcommitted, hpending, rfl⟩ := h
  cases q with
  | exit tx => exact ⟨rfl, hcommitted, .none, rfl⟩
  | enter tx =>
    cases b with
    | error e => exact ⟨rfl, hcommitted, hpending, rfl⟩
    | ok x => exact ⟨rfl, hcommitted, .some hcommitted, rfl⟩
  | commit tx =>
    cases b with
    | error e => exact ⟨rfl, hcommitted, hpending, rfl⟩
    | ok x =>
      cases hpending with
      | none => exact ⟨rfl, hcommitted, .none, rfl⟩
      | some hdb => exact ⟨rfl, hdb, .some hdb, rfl⟩
  | repo tx op =>
    cases b with
    | error e => exact ⟨rfl, hcommitted, hpending, rfl⟩
    | ok x =>
      cases hpending with
      | none => exact ⟨rfl, hcommitted, .none, rfl⟩
      | @some db db' hdb =>
        have hrun := hdb.run op
        simp only [UowRequest.serve]
        generalize op.run db = a at hrun ⊢
        generalize op.run db' = a' at hrun ⊢
        cases hrun with
        | error e => exact ⟨rfl, hcommitted, .some hdb, rfl⟩
        | ok x hafter => exact ⟨rfl, hcommitted, .some hafter, rfl⟩

/-- **A poll does not notice** what employees have done: every request gets the same answer. -/
theorem serve (h : World.Alike w w') (r : Request) (b : Except Exn r.Val) :
    (RmaPortal.serve r b w').1 = (RmaPortal.serve r b w).1 ∧
      World.Alike (RmaPortal.serve r b w).2 (RmaPortal.serve r b w').2 := by
  cases r with
  | uow q => exact h.serve_uow q b
  | portal q =>
    simp only [RmaPortal.serve, h.portal]
    exact ⟨trivial, h.committed, h.pending, rfl⟩
  | reader | now | iterate | selectOrder | inflight => exact ⟨rfl, h⟩

end World.Alike

/-! ## Runs -/

/-- The portal at work. -/
structure Portal where
  state : World
  /-- What the polls were answered that have come to their end. -/
  finished : List (List Happening)
  /-- What the poll was answered that is running, if there is one, and what is left of it. -/
  running : Option (List Happening × Prog SyncResult)

namespace Portal

/-- A portal that has never been polled. -/
def start (db : Database) (profile : PortalState) : Portal := ⟨⟨.idle db, profile⟩, [], none⟩

/-- What everybody sees of the database. -/
def db (s : Portal) : Database := s.state.db.committed

/-- What the polls were answered so far. -/
def traces (s : Portal) : List (List Happening) := s.finished ++ s.running.toList.map Prod.fst

/-- When the polls began that have seen a record. -/
def sightings (s : Portal) (recordId : String) : List Datetime :=
  RmaPortal.sightings recordId s.traces

/-- Whose step it is. -/
inductive Actor
  | poll | employee

variable {H : Type} (F : PortalReaderFactory H)

/-- **What happens next.**  One poll runs at a time.  A transaction of an employee is atomic: it
does not overlap with one of the poll. -/
inductive Step : Actor → Portal → Portal → Prop
  /-- A poll begins. -/
  | begins {w : World} {finished : List (List Happening)} :
      Step .poll ⟨w, finished, none⟩ ⟨w, finished, some ([], execute F)⟩
  /-- The poll makes a request, and is answered. -/
  | asks {w : World} {finished : List (List Happening)} {t : List Happening} {r : Request}
      {k : Except Exn r.Val → Prog SyncResult} (b : Except Exn r.Val) :
      Step .poll ⟨w, finished, some (t, .ask r k)⟩
        ⟨(serve r b w).2, finished, some (t ++ [⟨r, (serve r b w).1⟩], k (serve r b w).1)⟩
  /-- The poll comes to its end. -/
  | ends {w : World} {finished : List (List Happening)} {t : List Happening}
      {o : Except Exn SyncResult} :
      Step .poll ⟨w, finished, some (t, .done o)⟩ ⟨w, finished ++ [t], none⟩
  /-- An employee gets a transaction through. -/
  | employee {db db' : Database} {profile : PortalState} {finished : List (List Happening)}
      {running : Option (List Happening × Prog SyncResult)} (h : EmployeeTransaction db db') :
      Step .employee ⟨⟨.idle db, profile⟩, finished, running⟩
        ⟨⟨.idle db', profile⟩, finished, running⟩

/-- Any number of steps, of anybody. -/
def Run : Portal → Portal → Prop := Relation.ReflTransGen fun s s' ↦ ∃ actor, Step F actor s s'

/-! ## The run without the employees -/

/-- A poll that is running among employees has a twin that runs alone, and gets the same answers. -/
def Twin (before : Database) (w : World) (t : List Happening) (c : Prog SyncResult) : Prop :=
  ∃ w₀ w', w₀.db = .idle before ∧ After (execute F) t c ∧ world.Path w₀ t w' ∧ World.Alike w' w

/-- The polls so far are like polls that run alone, one after the other. -/
inductive Lone (db : Database) : Portal → Prop
  /-- No poll is running. -/
  | idle {ps : List Poll} {mid : Database} {w : World} {finished : List (List Happening)}
      (h : Polls F db ps mid) (hfinished : ps.map Poll.trace = finished)
      (hpending : w.db.pending = none) (hbetween : Between mid w.db.committed) :
      Lone db ⟨w, finished, none⟩
  /-- A poll is running. -/
  | busy {ps : List Poll} {mid before : Database} {w : World} {finished : List (List Happening)}
      {t : List Happening} {c : Prog SyncResult} (h : Polls F db ps mid)
      (hfinished : ps.map Poll.trace = finished) (hbetween : Between mid before)
      (htwin : Twin F before w t c) : Lone db ⟨w, finished, some (t, c)⟩

variable {F}

theorem between_of_alike {db db' : Database} (h : Database.Alike db db') : Between db db' :=
  ⟨h.dossiers, h.notifications, by rw [Database.baselines, Database.baselines, h.portalAccounts]⟩

theorem between_trans {db₁ db₂ db₃ : Database} (h : Between db₁ db₂) (h' : Between db₂ db₃) :
    Between db₁ db₃ :=
  ⟨h'.dossiers.trans h.dossiers, h'.notifications.trans h.notifications,
    h'.baselines.trans h.baselines⟩

theorem Twin.step {before : Database} {w : World} {t : List Happening} {r : Request}
    {k : Except Exn r.Val → Prog SyncResult} (h : Twin F before w t (.ask r k))
    (b : Except Exn r.Val) :
    Twin F before (serve r b w).2 (t ++ [⟨r, (serve r b w).1⟩]) (k (serve r b w).1) := by
  obtain ⟨w₀, w', hw₀, hafter, hpath, halike⟩ := h
  obtain ⟨hanswer, hnext⟩ := halike.serve r b
  refine ⟨w₀, (serve r b w').2, hw₀, hafter.append (.cons (.nil _)), hpath.append ?_, hnext⟩
  exact ⟨_, ⟨b, by rw [hanswer]⟩, rfl⟩

/-- A twin that has come to its end is a poll. -/
theorem Twin.isRun {before : Database} {w : World} {t : List Happening}
    {o : Except Exn SyncResult} (h : Twin F before w t (.done o)) :
    ∃ after, Poll.IsRun F ⟨before, after, t, o⟩ ∧ w.db.pending = none ∧
      Between after w.db.committed := by
  obtain ⟨w₀, w', hw₀, hafter, hpath, halike⟩ := h
  have hexec := hafter.exec hpath (⟨rfl, rfl, rfl⟩ : Exec world (.done o) w' [] o w')
  rw [List.append_nil] at hexec
  obtain ⟨after, hidle, -, -⟩ := (sat_execute hw₀).exec hexec
  refine ⟨after, ⟨w₀, w', hw₀, hexec, hidle⟩, halike.pending_eq_none (by rw [hidle]; rfl), ?_⟩
  have hbetween := between_of_alike halike.committed
  rw [hidle] at hbetween
  exact hbetween

/-- **Every step keeps the run alike**: a request gets the same answer as without the employees, and
an employee changes nothing that a poll looks at. -/
theorem Lone.step {db : Database} {s s' : Portal} {actor : Actor} (h : Lone F db s)
    (hstep : Step F actor s s') : Lone F db s' := by
  cases hstep with
  | @begins w finished =>
    cases h with
    | idle h hfinished hpending hbetween =>
      obtain ⟨⟨committed, _⟩, profile⟩ := w
      obtain rfl : _ = none := hpending
      exact .busy h hfinished hbetween ⟨_, _, rfl, .nil _, rfl, .refl _⟩
  | asks b =>
    cases h with
    | busy h hfinished hbetween htwin => exact .busy h hfinished hbetween (htwin.step b)
  | ends =>
    cases h with
    | busy h hfinished hbetween htwin =>
      obtain ⟨after, hrun, hpending, hafter⟩ := htwin.isRun
      refine .idle (h.concat hbetween hrun) ?_ hpending hafter
      rw [List.map_append, hfinished]
      rfl
  | employee htransaction =>
    have halike := htransaction.workedOn.toAlike
    cases h with
    | idle h hfinished hpending hbetween =>
      exact .idle h hfinished rfl (between_trans hbetween (between_of_alike halike))
    | busy h hfinished hbetween htwin =>
      obtain ⟨w₀, w', hw₀, hafter, hpath, hw'⟩ := htwin
      refine .busy h hfinished hbetween ⟨w₀, w', hw₀, hafter, hpath, ?_⟩
      exact ⟨hw'.committed.trans halike, hw'.pending, hw'.portal⟩

theorem Run.lone {db : Database} {profile : PortalState} {s : Portal}
    (h : Run F (.start db profile) s) : Lone F db s := by
  induction h with
  | refl => exact .idle (.nil db) rfl rfl (.refl db)
  | tail _ hstep ih =>
    obtain ⟨actor, hstep⟩ := hstep
    exact ih.step hstep

/-! ## A poll that is running -/

/-- What happens to a poll that has run out of luck: nothing that counts. -/
def Vain (e : Happening) : Prop :=
  observe e ≠ some .reconciled ∧ ∀ d, e = ⟨.now, .ok d⟩ → d = default

/-- A request can be answered in vain. -/
theorem vain_serve (r : Request) (w : World) :
    Vain ⟨r, (serve r (.error noSession) w).1⟩ ∧
      (serve r (.error noSession) w).2.db.committed = w.db.committed := by
  cases r with
  | uow q =>
    cases q with
    | commit tx => cases tx <;> exact ⟨⟨by simp [serve, UowRequest.serve, observe], by simp⟩, rfl⟩
    | enter | repo | exit => exact ⟨⟨by simp [observe], by simp⟩, rfl⟩
  | reader q => cases q <;> exact ⟨⟨by simp [observe], by simp⟩, rfl⟩
  | now =>
    refine ⟨⟨by simp [observe], ?_⟩, rfl⟩
    rintro d ⟨⟩
    rfl
  | portal | iterate | selectOrder | inflight => exact ⟨⟨by simp [observe], by simp⟩, rfl⟩

/-- Any program can run in vain to its end. -/
theorem exists_vain {α : Type} (c : Prog α) (w : World) :
    ∃ t o w', Exec world c w t o w' ∧ w'.db.committed = w.db.committed ∧ ∀ e ∈ t, Vain e := by
  induction c generalizing w with
  | done o => exact ⟨[], o, w, ⟨rfl, rfl, rfl⟩, rfl, by simp⟩
  | ask r k ih =>
    obtain ⟨hvain, hcommitted⟩ := vain_serve r w
    obtain ⟨t, o, w', hexec, hdb, ht⟩ :=
      ih (serve r (.error noSession) w).1 (serve r (.error noSession) w).2
    refine ⟨_ :: t, o, w', ⟨_, _, t, ⟨_, rfl⟩, rfl, hexec⟩, hdb.trans hcommitted, ?_⟩
    simpa using ⟨hvain, ht⟩

section Vain

variable {t t' : List Happening} (ht' : ∀ e ∈ t', Vain e)

include ht'

theorem reconciled_notMem_of_vain : .reconciled ∉ observed t' := fun hmem ↦ by
  obtain ⟨e, he, hobs⟩ := mem_of_mem_observed hmem
  exact (ht' e he).1 hobs

theorem sees_append_of_vain (recordId : String) : sees recordId (t ++ t') = sees recordId t := by
  have hnot := reconciled_notMem_of_vain ht'
  rw [sees, sees, observed_append]
  generalize observed t' = l' at hnot ⊢
  rcases observed t with _ | ⟨x, _ | ⟨y, l⟩⟩
  · rcases l' with _ | ⟨x', _ | ⟨y', l'⟩⟩
    · rfl
    · cases x' <;> rfl
    · cases x' <;> cases y' <;> simp_all
  · rcases l' with _ | ⟨y', l'⟩
    · rfl
    · cases x <;> cases y' <;> simp_all
  · cases x <;> cases y <;> rfl

theorem startedAt_append_of_vain : startedAt (t ++ t') = startedAt t := by
  rw [startedAt, startedAt, List.findSome?_append]
  cases List.findSome? _ t with
  | some d => rfl
  | none =>
    rw [Option.none_or]
    cases hfound : List.findSome? _ t' with
    | none => rfl
    | some d =>
      obtain ⟨e, he, hd⟩ := List.exists_of_findSome?_eq_some hfound
      split at hd <;> cases hd
      exact (ht' _ he).2 d rfl

end Vain

/-- **The polls of a run** are runs of `execute`, one after the other, and what they have seen is
what has been seen. -/
theorem Lone.exists_polls {db : Database} {s : Portal} (h : Lone F db s) :
    ∃ ps db', Polls F db ps db' ∧ Between db' s.db ∧
      ∀ r, s.sightings r = RmaPortal.sightings r (ps.map Poll.trace) := by
  cases h with
  | idle h hfinished hpending hbetween =>
    refine ⟨_, _, h, hbetween, fun r ↦ ?_⟩
    rw [sightings, traces, ← hfinished]
    simp
  | @busy ps mid before w finished t c h hfinished hbetween htwin =>
    obtain ⟨w₀, w', hw₀, hafter, hpath, halike⟩ := htwin
    -- let the poll end at once: what it has committed by now is what it commits at all
    obtain ⟨t', o, w'', hexec, hcommitted, hvain⟩ := exists_vain c w'
    have hexec := hafter.exec hpath hexec
    obtain ⟨after, hidle, -, -⟩ := (sat_execute hw₀).exec hexec
    have hrun : Poll.IsRun F ⟨before, after, t ++ t', o⟩ := ⟨w₀, w'', hw₀, hexec, hidle⟩
    refine ⟨_, _, h.concat hbetween hrun, ?_, fun r ↦ ?_⟩
    · have hafter : after = w'.db.committed := by rw [← hcommitted, hidle]; rfl
      rw [hafter]
      exact between_of_alike halike.committed
    · rw [sightings, traces, List.map_append, sightings_append, sightings_append, ← hfinished]
      refine congrArg _ ?_
      rw [Option.toList_some, List.map_singleton, List.map_singleton, sightings_singleton,
        sightings_singleton, sees_append_of_vain hvain, startedAt_append_of_vain hvain]

/-! ## What employees write -/

/-- What the open session sees keeps the employees' work. -/
def PendingKept (s : DbState) : Prop := ∀ db, s.pending = some db → WorkKept s.committed db

/-- **One request of a poll** keeps what is committed of it. -/
theorem PendingKept.serve {s : DbState} (h : PendingKept s) (q : UowRequest)
    (b : Except Exn q.Val) :
    WorkKept s.committed (q.serve b s).2.committed ∧ PendingKept (q.serve b s).2 := by
  cases q with
  | exit tx => exact ⟨.refl _, fun _ hdb ↦ by cases hdb⟩
  | enter tx =>
    cases b with
    | error e => exact ⟨.refl _, h⟩
    | ok x =>
      refine ⟨.refl _, ?_⟩
      rintro _ ⟨⟩
      exact .refl _
  | repo tx op =>
    cases b with
    | error e => exact ⟨.refl _, h⟩
    | ok x =>
      simp only [UowRequest.serve]
      split
      · exact ⟨.refl _, h⟩
      rename_i db hdb
      split
      · exact ⟨.refl _, h⟩
      rename_i hrun
      refine ⟨.refl _, ?_⟩
      rintro _ ⟨⟩
      exact (h db hdb).trans (.of_effect (Repo.effect hrun))
  | commit tx =>
    cases b with
    | error e => exact ⟨.refl _, h⟩
    | ok x =>
      simp only [UowRequest.serve]
      split
      · exact ⟨.refl _, h⟩
      rename_i db hdb
      refine ⟨h db hdb, ?_⟩
      rintro _ ⟨⟩
      exact .refl _

/-- What holds of the work rows in every state of a run. -/
structure Staffed (s : Portal) : Prop where
  pending : PendingKept s.state.db
  work : ∀ i, (s.db.dossiers.find? i).isSome → (s.db.dossierWork.find? i).isSome

section Steps

variable {s s' : Portal}

theorem Step.workKept (h : Step F .poll s s') (hs : PendingKept s.state.db) :
    WorkKept s.db s'.db ∧ PendingKept s'.state.db := by
  cases h with
  | begins => exact ⟨.refl _, hs⟩
  | ends => exact ⟨.refl _, hs⟩
  | @asks w finished t r k b =>
    cases r with
    | uow q => exact hs.serve q b
    | reader | portal | now | iterate | selectOrder | inflight => exact ⟨.refl _, hs⟩

theorem Step.workedOn (h : Step F .employee s s') :
    WorkedOn s.db s'.db ∧ PendingKept s'.state.db := by
  cases h with
  | employee h => exact ⟨h.workedOn, fun _ hdb ↦ by cases hdb⟩

theorem Staffed.step {actor : Actor} (hs : Staffed s) (h : Step F actor s s') : Staffed s' := by
  cases actor with
  | poll =>
    obtain ⟨hkept, hpending⟩ := h.workKept hs.pending
    refine ⟨hpending, fun i hi ↦ ?_⟩
    cases hold : s.db.dossiers.find? i with
    | none =>
      obtain ⟨d, hd⟩ := Option.isSome_iff_exists.mp hi
      rw [hkept.created i d hold hd]
      rfl
    | some d =>
      rw [hkept.work i (by rw [hold]; rfl)]
      exact hs.work i (by rw [hold]; rfl)
  | employee =>
    obtain ⟨hworked, hpending⟩ := h.workedOn
    exact ⟨hpending, fun i hi ↦ hworked.work i (hs.work i (hworked.dossiers ▸ hi))⟩

/-- **Nobody removes a dossier**, or changes what it is. -/
theorem Step.keeps_dossier {actor : Actor} (h : Step F actor s s') (hs : Staffed s) {i : ℕ}
    {d : Dossier} (hd : s.db.dossiers.find? i = some d) :
    ∃ d', s'.db.dossiers.find? i = some d' ∧ d'.recordKey = d.recordKey ∧
      d'.firstSeenAt = d.firstSeenAt := by
  cases actor with
  | poll => exact (h.workKept hs.pending).1.dossier i d hd
  | employee => exact ⟨d, by rw [h.workedOn.1.dossiers, hd], rfl, rfl⟩

theorem Run.staffed (h : Run F s s') (hs : Staffed s) : Staffed s' := by
  induction h with
  | refl => exact hs
  | tail _ hstep ih =>
    obtain ⟨actor, hstep⟩ := hstep
    exact ih.step hstep

theorem Run.keeps_dossier (h : Run F s s') (hs : Staffed s) {i : ℕ} {d : Dossier}
    (hd : s.db.dossiers.find? i = some d) :
    ∃ d', s'.db.dossiers.find? i = some d' ∧ d'.recordKey = d.recordKey ∧
      d'.firstSeenAt = d.firstSeenAt := by
  induction h with
  | refl => exact ⟨d, hd, rfl, rfl⟩
  | tail hrun hstep ih =>
    obtain ⟨actor, hstep⟩ := hstep
    obtain ⟨d₁, hd₁, hkey₁, hseen₁⟩ := ih
    obtain ⟨d₂, hd₂, hkey₂, hseen₂⟩ := hstep.keeps_dossier (Run.staffed hrun hs) hd₁
    exact ⟨d₂, hd₂, hkey₂.trans hkey₁, hseen₂.trans hseen₁⟩

end Steps

/-! ## Dossiers survive -/

/-- What is to hold of the dossiers in every state of a run.  All of them belong to the account that
is polled, so that a record is known by its identifier. -/
structure Sound (s : Portal) : Prop where
  account : ∀ d ∈ s.db.dossiers.rows, defaultId s.db = some d.portalAccountId
  /-- There is at most one dossier of an account and a record. -/
  unique : ∀ k, s.db.dossiers.rows.countP (fun d ↦ decide (d.recordKey = k)) ≤ 1
  /-- A record that has been seen has a dossier. -/
  exists_dossier : ∀ r, s.sightings r ≠ [] → ∃ d ∈ s.db.dossiers.rows, d.recordId = r
  firstSeen : ∀ d ∈ s.db.dossiers.rows, (s.sightings d.recordId).head? = some d.firstSeenAt
  lastSeen : ∀ d ∈ s.db.dossiers.rows, (s.sightings d.recordId).getLast? = some d.lastSeenAt
  /-- There is exactly one work row of a dossier. -/
  work : ∀ d ∈ s.db.dossiers.rows,
    s.db.dossierWork.rows.countP (fun w ↦ decide (w.dossierId = d.id)) = 1

section Sound

variable {db : Database} {s : Portal}

theorem Lone.seenAt (h : Lone F db s) (hempty : db.dossiers.rows = []) {d : Dossier}
    (hd : d ∈ s.db.dossiers.rows) :
    defaultId s.db = some d.portalAccountId ∧
      (s.sightings d.recordId).head? = some d.firstSeenAt ∧
      (s.sightings d.recordId).getLast? = some d.lastSeenAt := by
  obtain ⟨ps, db', hpolls, hbetween, hsightings⟩ := h.exists_polls
  rw [hbetween.dossiers] at hd
  have hacc := hpolls.account_of_mem hempty hd
  have hseen := hpolls.seenAt hacc d.recordId
  have hnone : db.dossier d.portalAccountId d.recordId = none := by
    rw [Database.dossier, Table.find?_eq_none, DossierTable.byRecord, hempty]
    simp
  have hfound : db'.dossier d.portalAccountId d.recordId = some d :=
    Table.find?_of_mem (t := db'.dossiers.byRecord) hd
  rw [hnone, hfound, ← hsightings] at hseen
  refine ⟨by rw [hbetween.defaultId_eq, hpolls.defaultId_eq, hacc], ?_, ?_⟩
  · simpa using hseen.first.symm
  · simpa using hseen.last.symm

theorem Staffed.countP_work (h : Staffed s) {d : Dossier} (hd : d ∈ s.db.dossiers.rows) :
    s.db.dossierWork.rows.countP (fun w ↦ decide (w.dossierId = d.id)) = 1 := by
  have hfound : s.db.dossiers.find? d.id = some d :=
    Table.find?_of_mem (t := s.db.dossiers.toTable) hd
  rw [s.db.dossierWork.countP_key, if_pos (h.work d.id (by rw [hfound]; rfl))]

theorem Lone.sound (h : Lone F db s) (hs : Staffed s) (hempty : db.dossiers.rows = []) :
    Sound s where
  account _ hd := (h.seenAt hempty hd).1
  unique k := by
    refine (s.db.dossiers.byRecord.countP_key k).trans_le ?_
    split <;> omega
  exists_dossier r hr := by
    obtain ⟨ps, db', hpolls, hbetween, hsightings⟩ := h.exists_polls
    rw [hbetween.dossiers]
    exact hpolls.exists_dossier (hsightings r ▸ hr)
  firstSeen _ hd := (h.seenAt hempty hd).2.1
  lastSeen _ hd := (h.seenAt hempty hd).2.2
  work _ hd := hs.countP_work hd

theorem staffed_start (hempty : db.dossiers.rows = []) (profile : PortalState) :
    Staffed (.start db profile) := by
  refine ⟨(fun _ hpending ↦ by cases hpending), fun i hi ↦ ?_⟩
  obtain ⟨d, hd⟩ := Option.isSome_iff_exists.mp hi
  have hmem := Table.mem_of_find? hd
  rw [show (start db profile).db.dossiers.rows = [] from hempty] at hmem
  cases hmem

end Sound

end Portal

open Portal

/-- **Dossiers and the work on them survive synchronization**, however polls and employees take
turns. -/
theorem dossiers_survive {H : Type} {F : PortalReaderFactory H} {db : Database}
    {profile : PortalState} {s : Portal} (hempty : db.dossiers.rows = [])
    (h : Run F (.start db profile) s) :
    s.Sound ∧
      (∀ s', Run F s s' → ∀ d ∈ s.db.dossiers.rows, ∃ d' ∈ s'.db.dossiers.rows,
        d'.id = d.id ∧ d'.recordKey = d.recordKey ∧ d'.firstSeenAt = d.firstSeenAt) ∧
      (∀ s', Step F .poll s s' → (∀ w ∈ s.db.dossierWork.rows, w ∈ s'.db.dossierWork.rows) ∧
        s'.db.dossierNotes = s.db.dossierNotes) ∧
      ∀ s', Step F .employee s s' → s'.db.dossiers = s.db.dossiers := by
  have hstaffed := h.staffed (staffed_start hempty profile)
  refine ⟨h.lone.sound hstaffed hempty, fun s' hrun d hd ↦ ?_, fun s' hstep ↦ ⟨fun w hw ↦ ?_, ?_⟩,
    fun s' hstep ↦ hstep.workedOn.1.dossiers⟩
  · have hfound : s.db.dossiers.find? d.id = some d :=
      Table.find?_of_mem (t := s.db.dossiers.toTable) hd
    obtain ⟨d', hd', hkey, hseen⟩ := hrun.keeps_dossier hstaffed hfound
    exact ⟨d', Table.mem_of_find? hd', Table.key_of_find? hd', hkey, hseen⟩
  · have hkept := (hstep.workKept hstaffed.pending).1.work w.dossierId
      (s.db.dossierWork_dossier w hw)
    rw [Table.find?_of_mem (t := s.db.dossierWork) hw] at hkept
    exact Table.mem_of_find? hkept
  · exact (hstep.workKept hstaffed.pending).1.notes

/-! ## A poll and an employee -/

section Witness

variable {H : Type} {F : PortalReaderFactory H}

theorem Portal.Run.of_exec {c : Prog SyncResult} {w w' : World} {t : List Happening}
    {o : Except Exn SyncResult} (h : Exec world c w t o w') (finished : List (List Happening))
    (t₀ : List Happening) :
    Run F ⟨w, finished, some (t₀, c)⟩ ⟨w', finished, some (t₀ ++ t, .done o)⟩ := by
  induction c generalizing w t₀ t with
  | done o =>
    obtain ⟨rfl, rfl, rfl⟩ := h
    rw [List.append_nil]
    exact .refl
  | ask r k ih =>
    obtain ⟨_, w₁, t₁, ⟨b, hb⟩, rfl, h⟩ := h
    obtain ⟨rfl, rfl⟩ := Prod.mk.inj hb
    have hrest := ih _ h (t₀ ++ [⟨r, (serve r b w).1⟩])
    rw [List.append_assoc] at hrest
    exact .head ⟨.poll, .asks b⟩ hrest

/-- A whole poll, while no employee is there. -/
theorem Poll.run_portal {p : Poll} (h : p.IsRun F) :
    ∃ profile profile',
      Run F (.start p.before profile) ⟨⟨.idle p.after, profile'⟩, [p.trace], none⟩ := by
  obtain ⟨⟨_, profile⟩, ⟨_, profile'⟩, rfl, hexec, rfl⟩ := h
  have hpoll : Run F _ _ := .of_exec hexec [] []
  exact ⟨profile, profile', .head ⟨.poll, .begins⟩ (.tail hpoll ⟨.poll, .ends⟩)⟩

/-- A database that does what it is asked for. -/
def willing : (r : WorkRequest) → Except Exn r.Val
  | .enter => .ok (0 : ℕ)
  | .now => .ok default
  | .get _ _ => .ok none
  | .flushInsert _ _ => .ok ()
  | .commit _ _ => .ok ()
  | .exit _ => .ok ()

/-- The first poll of a portal, which sees one dossier. -/
def firstSight : Poll :=
  .scripted (camoufoxPortalReaderFactory .standard) (.ofAccount (.unpolled 1))
    (.shows [.ofStatus "a" "open"])

/-- What becomes of it when an employee is done with the dossier. -/
def firstSightDone : WorkState :=
  (run WorkRequest.serve (fun _ ↦ willing) (updateWorkStatus ⟨1, .done, some 1, 7⟩) 0
    (.idle firstSight.after)).2.2

theorem dossiers_survive_firstSight : ∃ profile s,
    Run (camoufoxPortalReaderFactory .standard) (.start firstSight.before profile) s ∧
      s.db.dossierWork.rows.map (fun w ↦ (w.status, w.version)) = [(.done, 2)] ∧ s.Sound := by
  obtain ⟨profile, profile', hrun⟩ :=
    Poll.run_portal (Poll.isRun_scripted _ _ _ : firstSight.IsRun _)
  have hstep : Run (camoufoxPortalReaderFactory .standard) (.start firstSight.before profile)
      ⟨⟨.idle firstSightDone.db, profile'⟩, [firstSight.trace], none⟩ :=
    .tail hrun ⟨.employee, .employee (.updateWorkStatus (exec_run _ _ _ _ _))⟩
  have hdone : firstSightDone.db.dossierWork.rows.map (fun w ↦ (w.status, w.version)) =
      [(.done, 2)] := by decide +kernel
  exact ⟨profile, _, hstep, hdone, (dossiers_survive rfl hstep).1⟩

end Witness

end RmaPortal
