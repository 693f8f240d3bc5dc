import RmaPortal.Application.Acknowledgement

/-!
# One acknowledgement

A request to acknowledge a dossier looks for unread notifications, marks what it has found, and
commits.  `AckStage` is where a request is on this way, and `sat_acknowledge` says that a request
keeps to it, whatever it is answered.  `sat_acknowledge_alone` says what all of it comes to when
nobody else uses the database: to `DossierService.acknowledge` as a single step.

## What is here

* `AckStage`, `AckStage.after`, `acknowledging` — the stages as a typestate: the request has not
  begun, has a session, has looked and has some notifications left to mark, or has left its
  session, with or without a commit.  `wrote` says whether it has marked something, since from
  then on it holds the write lock.
* `AckPost` — a request returns if and only if it has committed.
* `sat_flush`, `sat_acknowledge` — the loop over what was found, by induction on the list, and the
  request.
* `EmployeeDatabase.Read`, `unreadIds`, `SameOffice` — read marks, what is unread, and the
  database as far as an acknowledgement does not change it.
* `exists_insertRead`, `insertRead_of_read` — a mark of an unread notification is accepted and is
  the only one to be added; a second mark is refused by the unique constraint.
* `Exclusive`, `AckAlone`, `sat_acknowledge_alone` — one request that has the database to itself
  refines the sequential model, which `Unread.History` is about.

What happens when requests overlap is in `Unread.Marks` and `Unread.Harmless`.
-/

set_option autoImplicit false

open Coroutine

namespace RmaPortal

/-- A request to the database together with its answer. -/
abbrev AckHappening : Type := Event AckRequest.Val Exn

/-! ## Stages -/

/-- Where a request is. -/
inductive AckStage
  | idle
  | entered (s : ℕ)
  /-- It has looked; `todo` is still to be marked, and `wrote` says whether it has marked
  something. -/
  | looked (s : ℕ) (todo : List ℕ) (wrote : Bool)
  /-- It has committed, or it has been refused. -/
  | left (s : ℕ) (wrote committed : Bool)

namespace AckStage

/-- The session of the request. -/
def session? : AckStage → Option ℕ
  | idle => none
  | entered s | looked s _ _ | left s _ _ => some s

/-- Whether the request has marked something. -/
def hasWritten : AckStage → Bool
  | looked _ _ wrote | left _ wrote _ => wrote
  | _ => false

/-- Whether marks of the request are committed. -/
def hasMarked : AckStage → Bool
  | left _ wrote committed => wrote && committed
  | _ => false

/-- Where an answer takes the request. -/
def after : AckStage → (r : AckRequest) → Except Exn r.Val → Option AckStage
  | idle, .enter, .ok s => some (entered s)
  | entered s, .now, .ok _ => some (entered s)
  | entered s, .selectUnread _ _ _, .ok ids => some (looked s ids false)
  | looked s (_ :: todo) _, .insert _ _, .ok _ => some (looked s todo true)
  | looked s _ wrote, .insert _ _, .error _ => some (left s wrote false)
  | looked s [] wrote, .commit _, .ok _ => some (left s wrote true)
  | left s wrote committed, .exit _, .ok _ => some (left s wrote committed)
  | _, _, _ => none

end AckStage

/-- What a request to acknowledge the dossier `d` for the employee `u` asks for. -/
def acknowledging (d u : ℕ) : Spec AckRequest.Val Exn AckStage where
  pre q r :=
    match q, r with
    | .idle, .enter => True
    | .entered _, .now => True
    | .entered s, .selectUnread s' d' u' => s' = s ∧ d' = d ∧ u' = u
    | .looked s todo _, .insert s' row =>
      s' = s ∧ row.userId = u ∧ todo.head? = some row.notificationId
    | .looked s todo _, .commit s' => s' = s ∧ todo = []
    | .left s _ _, .exit s' => s' = s
    | _, _ => False
  step q r a q' := q.after r a = some q'

/-- A request returns iff it has committed. -/
def AckPost (o : Except Exn Unit) (q : AckStage) : Prop :=
  ∃ s wrote, (o = .ok () ∧ q = .left s wrote true) ∨ ∃ e, o = .error e ∧ q = .left s wrote false

variable {d u : ℕ}

theorem sat_flush (s : ℕ) (seenAt : Datetime) (todo : List ℕ) (wrote : Bool) :
    Sat (acknowledging d u)
      (flushAndCommit s (todo.map fun notificationId ↦ ⟨notificationId, u, seenAt⟩))
      (.looked s todo wrote) fun _ o q ↦
        (o = .ok () ∧ ∃ wrote, q = .left s wrote true) ∨
          ∃ e, o = .error e ∧ ∃ wrote, q = .left s wrote false := by
  refine sat_bind (R := fun _ o q ↦ (o = .ok () ∧ ∃ wrote, q = .looked s [] wrote) ∨
    ∃ e, o = .error e ∧ ∃ wrote, q = .left s wrote false) ?inserts ?_ ?_
  case inserts =>
    induction todo generalizing wrote with
    | nil => exact .inl ⟨rfl, wrote, rfl⟩
    | cons id todo ih =>
      rw [List.map_cons, List.foldlM_cons]
      refine sat_bind (R := fun _ o q ↦ (o = .ok () ∧ q = .looked s todo true) ∨
        ∃ e, o = .error e ∧ q = .left s wrote false) (sat_perform ⟨rfl, rfl, rfl⟩ ?_) ?_ ?_
      · rintro (e | ⟨⟩) q hq
        · exact .inr ⟨e, rfl, (Option.some.inj hq).symm⟩
        · exact .inl ⟨rfl, (Option.some.inj hq).symm⟩
      · rintro t ⟨⟩ q (⟨-, rfl⟩ | ⟨e, ⟨⟩, -⟩)
        exact ih true
      · rintro t e q (⟨⟨⟩, -⟩ | ⟨e, ⟨⟩, rfl⟩)
        exact .inr ⟨e, rfl, wrote, rfl⟩
  · rintro t ⟨⟩ q (⟨-, wrote, rfl⟩ | ⟨e, ⟨⟩, -⟩)
    refine sat_perform ⟨rfl, rfl⟩ ?_
    rintro (e | ⟨⟩) q hq
    · cases hq
    · exact .inl ⟨rfl, wrote, (Option.some.inj hq).symm⟩
  · rintro t e q (⟨⟨⟩, -⟩ | h)
    exact .inr h

theorem sat_acknowledge (d u : ℕ) :
    Sat (acknowledging d u) (acknowledge d u) .idle fun _ o q ↦ AckPost o q := by
  refine sat_bind (R := fun _ o q ↦ ∃ s, o = .ok s ∧ q = .entered s) (sat_perform trivial ?_) ?_ ?_
  · rintro (e | s) q hq
    · cases hq
    · exact ⟨s, rfl, (Option.some.inj hq).symm⟩
  · rintro t s _ ⟨_, ⟨⟩, rfl⟩
    refine sat_bind (R := fun _ o q ↦ AckPost (o.map fun _ ↦ ()) q)
      (sat_tryFinally (R := fun _ o q ↦ (o = .ok () ∧ ∃ wrote, q = .left s wrote true) ∨
        ∃ e, o = .error e ∧ ∃ wrote, q = .left s wrote false) ?body ?exit) ?_ ?_
    case body =>
      refine sat_bind (R := fun _ o q ↦ ∃ t, o = .ok t ∧ q = .entered s)
        (sat_perform trivial ?_) ?_ ?_
      · rintro (e | seenAt) q hq
        · cases hq
        · exact ⟨seenAt, rfl, (Option.some.inj hq).symm⟩
      · rintro t seenAt _ ⟨_, ⟨⟩, rfl⟩
        refine sat_bind (R := fun _ o q ↦ ∃ ids : List ℕ,
          o = .ok (ids.map fun id ↦ ⟨id, u, seenAt⟩) ∧ q = .looked s ids false) ?select ?_ ?_
        case select =>
          refine sat_bind (R := fun _ o q ↦ ∃ ids, o = .ok ids ∧ q = .looked s ids false)
            (sat_perform ⟨rfl, rfl, rfl⟩ ?_) ?_ ?_
          · rintro (e | ids) q hq
            · cases hq
            · exact ⟨ids, rfl, (Option.some.inj hq).symm⟩
          · rintro t ids _ ⟨_, ⟨⟩, rfl⟩
            exact sat_pure ⟨ids, rfl, rfl⟩
          · rintro t e _ ⟨_, ⟨⟩, -⟩
        · rintro t _ _ ⟨ids, ⟨⟩, rfl⟩
          exact sat_flush s seenAt ids false
        · rintro t e _ ⟨_, ⟨⟩, -⟩
      · rintro t e _ ⟨_, ⟨⟩, -⟩
    case exit =>
      rintro t o q (⟨rfl, wrote, rfl⟩ | ⟨e, rfl, wrote, rfl⟩) <;> refine sat_perform rfl ?_ <;>
        rintro (e | ⟨⟩) q hq <;> cases hq
      · exact ⟨s, wrote, .inl ⟨rfl, rfl⟩⟩
      · exact ⟨s, wrote, .inr ⟨e, rfl, rfl⟩⟩
    · rintro t _ q h
      exact sat_pure h
    · rintro t e q h
      exact h
  · rintro t e _ ⟨_, ⟨⟩, -⟩

/-! ## Read marks -/

/-- Whether the employee has a read mark for a notification. -/
def EmployeeDatabase.Read (db : EmployeeDatabase) (u id : ℕ) : Prop :=
  (db.notificationReads.find? (id, u)).isSome

/-- The notifications of the dossier that the employee has not read. -/
def unreadIds (db : EmployeeDatabase) (d u : ℕ) : List ℕ :=
  (NotificationRepository.unreadOf d u db.toDatabase).map Notification.id

/-- The database, as far as an acknowledgement does not change it. -/
structure SameOffice (db db' : EmployeeDatabase) : Prop where
  notifications : db'.notifications = db.notifications
  users : db'.users = db.users

theorem mem_alreadyRead {db : EmployeeDatabase} {u id : ℕ} :
    id ∈ NotificationRepository.alreadyRead u db.toDatabase ↔ db.Read u id := by
  rw [EmployeeDatabase.Read, Table.find?_isSome, NotificationRepository.alreadyRead]
  simp only [List.mem_map, List.mem_filter, beq_iff_eq, Prod.mk.injEq]
  exact ⟨fun ⟨r, ⟨hr, hu⟩, hid⟩ ↦ ⟨r, hr, hid, hu⟩, fun ⟨r, hr, hid, hu⟩ ↦ ⟨r, ⟨hr, hu⟩, hid⟩⟩

theorem mem_unreadIds {db : EmployeeDatabase} {d u id : ℕ} :
    id ∈ unreadIds db d u ↔
      (∃ n ∈ db.notifications.rows, n.id = id ∧ n.dossierId = d) ∧ ¬db.Read u id := by
  simp only [unreadIds, NotificationRepository.unreadOf, List.mem_map, List.mem_filter,
    Bool.and_eq_true, beq_iff_eq, Bool.not_eq_true', List.contains_eq_mem, decide_eq_false_iff_not,
    mem_alreadyRead]
  constructor
  · rintro ⟨n, ⟨hn, hd, hread⟩, rfl⟩
    exact ⟨⟨n, hn, rfl, hd⟩, hread⟩
  · rintro ⟨⟨n, hn, rfl, hd⟩, hread⟩
    exact ⟨n, ⟨hn, hd, hread⟩, rfl⟩

theorem nodup_unreadIds (db : EmployeeDatabase) (d u : ℕ) : (unreadIds db d u).Nodup :=
  db.notifications.nodup.sublist (List.filter_sublist.map _)

/-- What is unread only depends on the marks. -/
theorem unreadIds_congr {db db' : EmployeeDatabase} (hsame : SameOffice db db')
    (hread : ∀ id, db'.Read u id ↔ db.Read u id) : unreadIds db' d u = unreadIds db d u := by
  have hcontains (n : Notification) :
      (NotificationRepository.alreadyRead u db'.toDatabase).contains n.id =
        (NotificationRepository.alreadyRead u db.toDatabase).contains n.id := by
    rw [Bool.eq_iff_iff, List.contains_iff_mem, List.contains_iff_mem, mem_alreadyRead,
      mem_alreadyRead, hread]
  simp only [unreadIds, NotificationRepository.unreadOf, hsame.notifications, hcontains]

/-- A mark of an unread notification is accepted, and is the only one to be added. -/
theorem exists_insertRead {db : EmployeeDatabase} {row : NotificationRead}
    (hn : (db.notifications.find? row.notificationId).isSome)
    (hu : (db.users.find? row.userId).isSome)
    (hread : ¬db.Read row.userId row.notificationId) :
    ∃ db', db.insertRead row = .ok db' ∧ SameOffice db db' ∧
      ∀ id, db'.Read row.userId id ↔ db.Read row.userId id ∨ id = row.notificationId := by
  have hnone : db.notificationReads.find? (row.notificationId, row.userId) = none := by
    rwa [EmployeeDatabase.Read, Option.not_isSome_iff_eq_none] at hread
  rw [EmployeeDatabase.insertRead, dif_pos ⟨hnone, hn, hu⟩]
  refine ⟨_, rfl, ⟨rfl, rfl⟩, fun id ↦ ?_⟩
  simp only [EmployeeDatabase.Read, Table.find?_append, Prod.mk.injEq, and_true]
  by_cases hid : id = row.notificationId <;> simp [hid]

/-- A second mark is refused. -/
theorem insertRead_of_read {db : EmployeeDatabase} {row : NotificationRead}
    (hread : db.Read row.userId row.notificationId) :
    db.insertRead row = .error Database.integrityError := by
  rw [EmployeeDatabase.insertRead, dif_neg]
  rintro ⟨hnone, -⟩
  rw [EmployeeDatabase.Read] at hread
  rw [hnone] at hread
  cases hread

/-! ## One request alone -/

/-- Nobody else is writing. -/
def Exclusive (s : ℕ) (w : AckState) : Prop := ∀ s' db, w.writer = some (s', db) → s' = s

/-- An `INSERT` of a session that has the database to itself. -/
theorem exclusive_insert {s : ℕ} {row : NotificationRead} {w w' : AckState} {a : Except Exn Unit}
    (hw : Exclusive s w) (hstep : ackDatabase.step w (.insert s row) a w') :
    w'.db = w.db ∧ Exclusive s w' ∧ a = ((w.view s).insertRead row).map (fun _ ↦ ()) ∧
      ∀ db, (w.view s).insertRead row = .ok db → w'.view s = db := by
  obtain ⟨b, hserve⟩ := hstep
  cases hwriter : w.writer with
  | none =>
    simp only [AckRequest.serve, hwriter] at hserve
    simp only [AckState.view, hwriter]
    cases hinsert : w.db.insertRead row <;> rw [hinsert] at hserve <;> cases hserve
    · exact ⟨rfl, hw, rfl, fun _ h ↦ by cases h⟩
    · refine ⟨rfl, ?_, rfl, by simp⟩
      rintro _ _ ⟨⟩
      rfl
  | some p =>
    obtain ⟨s', db'⟩ := p
    obtain rfl := hw s' db' hwriter
    simp only [AckRequest.serve, hwriter, if_true] at hserve
    simp only [AckState.view, hwriter, if_true]
    cases hinsert : db'.insertRead row <;> rw [hinsert] at hserve <;> cases hserve
    · exact ⟨rfl, (fun _ _ h ↦ by cases h), rfl, fun _ h ↦ by cases h⟩
    · refine ⟨rfl, ?_, rfl, by simp⟩
      rintro _ _ ⟨⟩
      rfl

theorem sat_inserts {s : ℕ} (u : ℕ) (seenAt : Datetime) (ids : List ℕ) {w : AckState}
    (hw : Exclusive s w) :
    Sat ackDatabase
      ((ids.map fun id ↦ (⟨id, u, seenAt⟩ : NotificationRead)).foldlM
        (fun _ row ↦ ack (.insert s row)) ()) w fun _ o w' ↦
        w'.db = w.db ∧ Exclusive s w' ∧
          o = (NotificationRepository.insertReads u seenAt ids (w.view s)).map (fun _ ↦ ()) ∧
          ∀ db, NotificationRepository.insertReads u seenAt ids (w.view s) = .ok db →
            w'.view s = db := by
  induction ids generalizing w with
  | nil => exact ⟨rfl, hw, rfl, by rintro _ ⟨⟩; rfl⟩
  | cons id ids ih =>
    rw [List.map_cons, List.foldlM_cons]
    refine sat_bind (R := fun _ a w₁ ↦ w₁.db = w.db ∧ Exclusive s w₁ ∧
      a = ((w.view s).insertRead ⟨id, u, seenAt⟩).map (fun _ ↦ ()) ∧
      ∀ db, (w.view s).insertRead ⟨id, u, seenAt⟩ = .ok db → w₁.view s = db)
      (sat_perform trivial fun a w₁ hstep ↦ exclusive_insert hw hstep) ?_ ?_
    · rintro t ⟨⟩ w₁ ⟨hdb, hw₁, ha, hview⟩
      refine (ih hw₁).mono fun t' o w' h ↦ ?_
      rw [NotificationRepository.insertReads, List.foldlM_cons, ← hdb]
      cases hinsert : (w.view s).insertRead ⟨id, u, seenAt⟩ with
      | ok db =>
        rw [hview db hinsert] at h
        exact h
      | error e =>
        rw [hinsert] at ha
        cases ha
    · rintro t e w₁ ⟨hdb, hw₁, ha, -⟩
      rw [NotificationRepository.insertReads, List.foldlM_cons]
      cases hinsert : (w.view s).insertRead ⟨id, u, seenAt⟩ with
      | ok db =>
        rw [hinsert] at ha
        cases ha
      | error e' =>
        rw [hinsert] at ha
        cases ha
        exact ⟨hdb, hw₁, rfl, fun _ h ↦ by cases h⟩

/-- What an acknowledgement does that has the database to itself: what `DossierService.acknowledge`
does in one step. -/
def AckAlone (d u : ℕ) (db : EmployeeDatabase) (o : Except Exn Unit) (w : AckState) : Prop :=
  ∃ now, o = (DossierService.acknowledge d u now db).map (fun _ ↦ ()) ∧
    w.db = (DossierService.acknowledge d u now db).toOption.getD db

theorem acknowledge_eq {d u : ℕ} {now : Datetime} {db : EmployeeDatabase} :
    DossierService.acknowledge d u now db =
      NotificationRepository.insertReads u now (unreadIds db d u) db := rfl

/-- **An acknowledgement that runs alone refines the sequential one.** -/
theorem sat_acknowledge_alone (d u : ℕ) (db : EmployeeDatabase) :
    Sat ackDatabase (acknowledge d u) (AckState.idle db) fun _ o w ↦ AckAlone d u db o w := by
  refine sat_bind (R := fun _ o w ↦ ∃ s, o = .ok s ∧ w.db = db ∧ w.writer = none)
    (sat_perform trivial ?_) ?_ ?_
  · rintro a w ⟨b, hserve⟩
    cases hserve
    exact ⟨_, rfl, rfl, rfl⟩
  · rintro t s w ⟨_, ⟨⟩, rfl, hnone⟩
    refine sat_bind (R := fun _ o w' ↦ AckAlone d u w.db (o.map fun _ ↦ ()) w')
      (sat_tryFinally (R := fun _ o w' ↦ AckAlone d u w.db o w') ?body ?exit) ?_ ?_
    case body =>
      refine sat_bind (R := fun _ o w' ↦ ∃ seenAt, o = .ok seenAt ∧ w' = w)
        (sat_perform trivial ?_) ?_ ?_
      · rintro a w' ⟨b, hserve⟩
        cases hserve
        exact ⟨_, rfl, rfl⟩
      · rintro t seenAt w' ⟨_, ⟨⟩, hw'⟩
        subst w'
        refine sat_bind (R := fun _ o w' ↦ w' = w ∧
          o = .ok ((unreadIds w.db d u).map fun id ↦ ⟨id, u, seenAt⟩)) ?select ?_ ?_
        case select =>
          refine sat_bind (R := fun _ o w' ↦ w' = w ∧ o = .ok (unreadIds w.db d u))
            (sat_perform trivial ?_) ?_ ?_
          · rintro a w' ⟨b, hserve⟩
            simp only [AckRequest.serve, AckState.view, hnone] at hserve
            cases hserve
            exact ⟨rfl, rfl⟩
          · rintro t ids w' ⟨rfl, ⟨⟩⟩
            exact sat_pure ⟨rfl, rfl⟩
          · rintro t e w' ⟨-, ⟨⟩⟩
        · rintro t rows w' ⟨hw', ⟨⟩⟩
          subst w'
          have hexclusive : Exclusive s w := fun s' db' hw ↦ by rw [hnone] at hw; cases hw
          have hview : w.view s = w.db := by rw [AckState.view, hnone]
          have hinserts := sat_inserts u seenAt (unreadIds w.db d u) hexclusive
          rw [hview] at hinserts
          refine sat_bind hinserts ?_ ?_
          · rintro t ⟨⟩ w₁ ⟨hdb, hw₁, ho, hmarked⟩
            refine sat_perform trivial ?_
            rintro a w₂ ⟨b, hserve⟩
            cases hack : DossierService.acknowledge d u seenAt w.db with
            | error e =>
              rw [← acknowledge_eq, hack] at ho
              cases ho
            | ok db' =>
              have hdone : (a, w₂.db) = (.ok (), w₁.view s) := by
                cases hwriter : w₁.writer with
                | none =>
                  simp only [AckRequest.serve, hwriter] at hserve
                  cases hserve
                  simp [AckState.view, hwriter]
                | some p =>
                  obtain ⟨s', db'⟩ := p
                  obtain rfl := hw₁ s' db' hwriter
                  simp only [AckRequest.serve, hwriter, if_true] at hserve
                  cases hserve
                  simp [AckState.view, hwriter]
              obtain ⟨rfl, hdb'⟩ := Prod.mk.inj hdone
              refine ⟨seenAt, ?_⟩
              rw [hack, hdb', hmarked db' hack]
              exact ⟨rfl, rfl⟩
          · rintro t e w₁ ⟨hdb, hw₁, ho, -⟩
            cases hack : DossierService.acknowledge d u seenAt w.db with
            | error e' =>
              rw [← acknowledge_eq, hack] at ho
              exact ⟨seenAt, by rw [hack]; exact ho, by rw [hack]; exact hdb⟩
            | ok db' =>
              rw [← acknowledge_eq, hack] at ho
              cases ho
        · rintro t e w' ⟨-, ⟨⟩⟩
      · rintro t e w' ⟨_, ⟨⟩, -⟩
    case exit =>
      rintro t o w₁ h
      refine sat_perform trivial ?_
      rintro a w₂ ⟨b, hserve⟩
      cases hserve
      cases o <;> exact h
    · exact fun _ _ _ h ↦ sat_pure h
    · exact fun _ _ _ h ↦ h
  · rintro t e w ⟨_, ⟨⟩, -⟩

end RmaPortal
