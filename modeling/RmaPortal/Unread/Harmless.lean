import RmaPortal.Unread.Marks

/-!
# Acknowledging at the same time

Opening a dossier page acknowledges the dossier, and a page is easily opened twice.  One after the
other the requests do no harm, because the second finds nothing to mark.  But what a request has
found is not locked: of two requests that have found the same notifications, the one that writes
later is refused by the primary key of the read marks, or by the write lock.

## What is here

* `AckRun` — any number of requests to acknowledge one dossier for one user run at once, with any
  interleaving of their requests to the database, which nobody else is using.
* `Inserts` and `OneWriter` — a request has come to write; and no two of them have.
* `Harmless` — what one would like to have: nothing a request asks for fails, none of them raises,
  and every notification is marked as read once.
* `AckKnown` — what is known of a run.  Every stage of `Unread.Acknowledging` says of its request
  whether it has written and whether it was refused, and `AckKnown` counts this over the requests.
* `harmless_iff` — acknowledgements do no harm if and only if no two of them come to write.
* `not_harmless` and `harmless_openedAgain` — a page that is opened twice, with both requests
  looking before either of them writes, and a page that is opened again when the first request is
  through.

A user who has seen a page of theirs fail may open it again, and then there is nothing to mark.
So nothing is lost by this: the page that fails is all there is to it.
-/

set_option autoImplicit false

open Coroutine

namespace RmaPortal

variable {d u : ℕ}

/-- Acknowledgements that run at once. -/
abbrev AckPool : Type := Pool AckRequest.Val Exn Unit AckState

/-! ## Runs -/

/-- Any number of requests to acknowledge `d` for `u` run at once on a database nobody else is
using. -/
def AckRun (db : EmployeeDatabase) (d u : ℕ) (ls : List (ℕ × List AckHappening)) (p : AckPool) :
    Prop :=
  Pool.Steps ackDatabase preempted (fun c ↦ c = acknowledge d u) (Pool.empty (AckState.idle db)) ls
    p

/-- The request in slot `i` has come to write. -/
def Inserts (ls : List (ℕ × List AckHappening)) (i : ℕ) : Prop :=
  ∃ s row a, ⟨.insert s row, a⟩ ∈ eventsOf ls i

/-- No two requests come to write. -/
def OneWriter (ls : List (ℕ × List AckHappening)) : Prop :=
  ∀ i j, Inserts ls i → Inserts ls j → i = j

/-- **Acknowledgements do no harm.** -/
structure Harmless (db : EmployeeDatabase) (d u : ℕ) (ls : List (ℕ × List AckHappening))
    (p : AckPool) : Prop where
  /-- Nothing a request asks for fails. -/
  answers : ∀ l ∈ ls, ∀ e ∈ l.2, ∃ a, e.2 = .ok a
  /-- No request raises. -/
  returns : ∀ i task o, p.tasks i = some task → task.rest = .done o → o = .ok ()
  /-- Once all are over, every notification of the dossier has one read mark. -/
  marks : (∀ i task, p.tasks i = some task → ∃ o, task.rest = .done o) →
    (∃ i task, p.tasks i = some task) → ∀ n ∈ db.notifications.rows, n.dossierId = d →
      p.state.db.notificationReads.rows.countP
        (fun r ↦ decide (r.notificationId = n.id ∧ r.userId = u)) = 1

/-- Marking is what an accepted `INSERT` does. -/
theorem AckStage.hasWritten_after {q q' : AckStage} {r : AckRequest} {a : Except Exn r.Val}
    (h : q.after r a = some q') : q'.hasWritten = true ↔
      q.hasWritten = true ∨ ∃ s row, (⟨r, a⟩ : AckHappening) = ⟨.insert s row, .ok ()⟩ := by
  unfold after at h
  split at h <;> cases h <;> simp [hasWritten]

/-- Being refused is what a refused `INSERT` does. -/
theorem AckStage.refused_after {q q' : AckStage} {r : AckRequest} {a : Except Exn r.Val}
    (h : q.after r a = some q') : (∃ s wrote, q' = left s wrote false) ↔
      (∃ s wrote, q = left s wrote false) ∨
        ∃ s row e, (⟨r, a⟩ : AckHappening) = ⟨.insert s row, .error e⟩ := by
  unfold after at h
  split at h <;> cases h <;> simp

/-- Nothing but an `INSERT` fails. -/
theorem AckStage.error_after {q q' : AckStage} {r : AckRequest} {a : Except Exn r.Val}
    (h : q.after r a = some q') :
    (∃ v, a = .ok v) ∨ ∃ s row e, (⟨r, a⟩ : AckHappening) = ⟨.insert s row, .error e⟩ := by
  unfold after at h
  split at h <;> cases h <;> simp

section Runs

variable {db : EmployeeDatabase} {ls : List (ℕ × List AckHappening)} {p : AckPool}

/-- What is known of a run. -/
structure AckKnown (db : EmployeeDatabase) (d u : ℕ) (ls : List (ℕ × List AckHappening))
    (p : AckPool) (θ : ℕ → AckStage) : Prop where
  marks : Marks db d u p.state θ
  /-- Who has marked something had an `INSERT` accepted. -/
  written : ∀ i, (θ i).hasWritten = true ↔ ∃ s row, ⟨.insert s row, .ok ()⟩ ∈ eventsOf ls i
  /-- Who is refused had an `INSERT` refused. -/
  refused : ∀ i, (∃ s wrote, θ i = .left s wrote false) ↔
    ∃ s row e, ⟨.insert s row, .error e⟩ ∈ eventsOf ls i
  /-- Nothing else fails. -/
  fails : ∀ i, ∀ e ∈ eventsOf ls i, (∃ v, e.2 = .ok v) ∨ ∃ s row x, e = ⟨.insert s row, .error x⟩
  ends : ∀ i task o, p.tasks i = some task → task.rest = .done o → AckPost o (θ i)

theorem AckRun.known (h : AckRun db d u ls p) (hu : (db.users.find? u).isSome) :
    ∃ θ, AckKnown db d u ls p θ := by
  have hstart (c : AckProg Unit) (hc : c = acknowledge d u) :
      Sat (acknowledging d u) c .idle fun _ o q ↦ AckPost o q := hc ▸ sat_acknowledge d u
  have hempty : (ackProtocol (d := d) hu).Meets (fun _ _ o q ↦ AckPost o q)
      (Pool.empty (AckState.idle db)) fun _ ↦ .idle := .empty (Marks.start db d u)
  obtain ⟨θ, hmeets⟩ := Protocol.sound hstart hempty h
  have hpath (i : ℕ) : (acknowledging d u).Path .idle (eventsOf ls i) (θ i) := by
    obtain ⟨hnone, hsome⟩ := h.history i
    cases htask : p.tasks i with
    | none =>
      rw [hnone htask, hmeets.unused i htask]
      rfl
    | some task =>
      rw [← (hsome task htask).1]
      exact (hmeets.task i task htask).path
  refine ⟨θ, hmeets.inv, fun i ↦ ?_, fun i ↦ ?_, fun i e he ↦ ?_, fun i task o htask hover ↦ ?_⟩
  · rw [(hpath i).iff_exists (P := fun q ↦ q.hasWritten = true)
      (E := fun e ↦ ∃ s row, e = ⟨.insert s row, .ok ()⟩) (by simp [AckStage.hasWritten])
      fun _ _ _ _ hstep ↦ AckStage.hasWritten_after hstep]
    exact ⟨fun ⟨_, he, s, row, hx⟩ ↦ ⟨s, row, hx ▸ he⟩, fun ⟨s, row, he⟩ ↦ ⟨_, he, s, row, rfl⟩⟩
  · rw [(hpath i).iff_exists (P := fun q ↦ ∃ s wrote, q = .left s wrote false)
      (E := fun e ↦ ∃ s row x, e = ⟨.insert s row, .error x⟩) (by simp)
      fun _ _ _ _ hstep ↦ AckStage.refused_after hstep]
    exact ⟨fun ⟨_, he, s, row, x, hx⟩ ↦ ⟨s, row, x, hx ▸ he⟩,
      fun ⟨s, row, x, he⟩ ↦ ⟨_, he, s, row, x, rfl⟩⟩
  · refine (hpath i).invariant (I := fun t _ ↦ ∀ e ∈ t, (∃ v, e.2 = .ok v) ∨
      ∃ s row x, e = ⟨.insert s row, .error x⟩) (by simp) ?_ e he
    intro t q r a q' ih hstep e he
    rcases List.mem_append.mp he with he | he
    · exact ih e he
    · obtain rfl := List.mem_singleton.mp he
      exact AckStage.error_after hstep
  · exact (hmeets.task i task htask).over hover

/-- A read mark there is exists once. -/
theorem countP_reads {db : EmployeeDatabase} {id : ℕ} (h : db.Read u id) :
    db.notificationReads.rows.countP
      (fun r ↦ decide (r.notificationId = id ∧ r.userId = u)) = 1 := by
  rw [EmployeeDatabase.Read, Table.find?_isSome] at h
  rw [← List.count_eq_one_of_mem db.notificationReads.nodup h, List.count, List.countP_map]
  refine List.countP_congr fun r _ ↦ ?_
  simp

/-- **When acknowledgements do no harm**: iff no two of them come to write. -/
theorem harmless_iff (hu : (db.users.find? u).isSome) (h : AckRun db d u ls p) :
    Harmless db d u ls p ↔ OneWriter ls := by
  obtain ⟨θ, hθ⟩ := h.known hu
  constructor
  · intro hharmless i j hi hj
    have hwritten (k : ℕ) (hk : Inserts ls k) : (θ k).hasWritten = true := by
      obtain ⟨s, row, a, hmem⟩ := hk
      obtain ⟨es, hes, he⟩ := mem_eventsOf.mp hmem
      obtain ⟨⟨⟩, ha⟩ := hharmless.answers _ hes _ he
      dsimp only at ha
      subst ha
      exact (hθ.written k).mpr ⟨s, row, hmem⟩
    exact hθ.marks.unique (hwritten i hi) (hwritten j hj)
  · intro hone
    -- who is refused is refused because of another request
    have hnot (i s : ℕ) (wrote : Bool) : θ i ≠ .left s wrote false := by
      intro hi
      obtain ⟨rfl, j, hj⟩ := hθ.marks.refused i s wrote hi
      obtain ⟨s₁, row₁, e, hrefused⟩ := (hθ.refused i).mp ⟨s, false, hi⟩
      obtain ⟨s₂, row₂, hwritten⟩ := (hθ.written j).mp hj
      obtain rfl := hone i j ⟨s₁, row₁, _, hrefused⟩ ⟨s₂, row₂, _, hwritten⟩
      rw [hi] at hj
      cases hj
    have hover (i : ℕ) {task : Task AckRequest.Val Exn Unit} {o : Except Exn Unit}
        (htask : p.tasks i = some task) (hdone : task.rest = .done o) :
        o = .ok () ∧ ∃ s wrote, θ i = .left s wrote true := by
      obtain ⟨s, wrote, ⟨ho, hq⟩ | ⟨e, -, hq⟩⟩ := hθ.ends i task o htask hdone
      · exact ⟨ho, s, wrote, hq⟩
      · exact absurd hq (hnot i s wrote)
    refine ⟨?_, fun i task o htask hdone ↦ (hover i htask hdone).1, ?_⟩
    · rintro ⟨i, es⟩ hl e he
      have hmem := mem_eventsOf.mpr ⟨es, hl, he⟩
      rcases hθ.fails i e hmem with hok | ⟨s, row, x, rfl⟩
      · exact hok
      · obtain ⟨s', wrote, hq⟩ := (hθ.refused i).mpr ⟨s, row, x, hmem⟩
        exact absurd hq (hnot i s' wrote)
    · rintro hall ⟨i, task, htask⟩ n hn hd
      obtain ⟨o, hdone⟩ := hall i task htask
      obtain ⟨-, s, wrote, hq⟩ := hover i htask hdone
      have hmarked : unreadIds db d u = [] ∨ MarksCommitted θ := by
        cases wrote with
        | true => exact .inr ⟨i, by rw [hq]; rfl⟩
        | false => exact hθ.marks.left i s hq
      refine countP_reads ((hθ.marks.read n.id).mpr ?_)
      by_cases hread : db.Read u n.id
      · exact .inl hread
      · have hunread : n.id ∈ unreadIds db d u := mem_unreadIds.mpr ⟨⟨n, hn, rfl, hd⟩, hread⟩
        rcases hmarked with hnil | hmarked
        · rw [hnil] at hunread
          cases hunread
        · exact .inr ⟨hmarked, hunread⟩

end Runs

/-! ## A page that is opened twice -/

/-- The office of a new portal, with an employee who has a notification to read. -/
def notifiedOffice : EmployeeDatabase where
  toDatabase :=
    { Database.oneDossier with
      notifications := ⟨[⟨1, 0, .newAgreementDossier, default⟩], List.nodup_singleton 1⟩
      notifications_dossier := fun n hn ↦ by
        obtain rfl := List.mem_singleton.mp hn
        rfl }
  users := ⟨⟨[⟨1, "a", "A", "", .employee, true, default⟩], List.nodup_singleton 1⟩,
    List.nodup_singleton "a"⟩
  reads_notification _ hr := absurd hr List.not_mem_nil
  reads_user _ hr := absurd hr List.not_mem_nil

/-- The clock stands still. -/
def atNoon : (r : AckRequest) → Except Exn r.Val
  | .enter => .ok 0
  | .now => .ok default
  | .selectUnread _ _ _ => .ok []
  | .insert _ _ => .ok ()
  | .commit _ => .ok ()
  | .exit _ => .ok ()

/-- The employee opens the page. -/
def openPage (i : ℕ) (p : AckPool) : AckPool :=
  p.spawnWith AckRequest.serve atNoon preempted i (acknowledge 0 1)

/-- The requests in these slots are answered, in this order. -/
def answers (is : List ℕ) (p : AckPool) : AckPool :=
  p.turnsWith AckRequest.serve atNoon preempted is

/-- Nobody has opened the page yet. -/
def unopened : AckPool := Pool.empty (AckState.idle notifiedOffice)

/-- Two requests look before either of them writes. -/
def openedTwice : AckPool :=
  answers [0, 0, 0, 1, 1, 1, 0, 0, 0, 1, 1] (openPage 1 (openPage 0 unopened))

/-- The second request comes when the first one is through. -/
def openedAgain : AckPool :=
  answers [1, 1, 1, 1, 1] (openPage 1 (answers [0, 0, 0, 0, 0, 0] (openPage 0 unopened)))

theorem exists_openedTwice : ∃ ls, AckRun notifiedOffice 0 1 ls openedTwice :=
  Pool.Steps.exists_turnsWith _
    ⟨_, .tail (.single (Pool.step_spawnWith rfl rfl)) (Pool.step_spawnWith rfl rfl)⟩

/-- **A page that is opened twice fails once**: the second request is refused by the primary key. -/
theorem not_harmless :
    ¬∀ (db : EmployeeDatabase) (d u : ℕ) (ls : List (ℕ × List AckHappening)) (p : AckPool),
      (db.users.find? u).isSome → AckRun db d u ls p → Harmless db d u ls p := by
  intro h
  obtain ⟨ls, hrun⟩ := exists_openedTwice
  have hreturns := (h notifiedOffice 0 1 ls openedTwice rfl hrun).returns
  have hraises : (Except.error Database.integrityError : Except Exn Unit) = .ok () :=
    hreturns 1 _ _ rfl rfl
  cases hraises

theorem exists_openedAgain : ∃ ls, AckRun notifiedOffice 0 1 ls openedAgain := by
  obtain ⟨ls, hrun⟩ : ∃ ls, AckRun notifiedOffice 0 1 ls
      (answers [0, 0, 0, 0, 0, 0] (openPage 0 unopened)) :=
    Pool.Steps.exists_turnsWith _ ⟨_, .single (Pool.step_spawnWith rfl rfl)⟩
  exact Pool.Steps.exists_turnsWith _ ⟨_, .tail hrun (Pool.step_spawnWith rfl rfl)⟩

/-- Whether marks are to be written. -/
def isInsert : AckHappening → Bool
  | ⟨.insert _ _, _⟩ => true
  | _ => false

/-- **A page that is opened again does no harm**: there is one writer, and the notification is read
once. -/
theorem harmless_openedAgain : ∃ ls, Harmless notifiedOffice 0 1 ls openedAgain ∧
    (openedAgain.state.db.notificationReads.rows.map fun r ↦ (r.notificationId, r.userId)) =
      [(1, 1)] := by
  obtain ⟨ls, hrun⟩ := exists_openedAgain
  -- the second request has nothing to write
  have hsecond : ((openedAgain.tasks 1).map fun task ↦ task.history.any isInsert) = some false := by
    decide +kernel
  have hslot (i : ℕ) (hi : Inserts ls i) : i = 0 := by
    obtain ⟨s, row, a, hmem⟩ := hi
    by_contra hne
    by_cases hone : i = 1
    · subst hone
      obtain ⟨task, htask, hnone⟩ := Option.map_eq_some_iff.mp hsecond
      rw [← ((hrun.history 1).2 task htask).1] at hmem
      exact Bool.false_ne_true (hnone.symm.trans (List.any_eq_true.mpr ⟨_, hmem, rfl⟩))
    · have hfree : openedAgain.tasks i = none := by
        rw [openedAgain, answers, answers, Pool.turnsWith_tasks_of_notMem (by simpa using hone),
          openPage, Pool.spawnWith]
        refine (Function.update_of_ne hone ..).trans ?_
        rw [Pool.turnsWith_tasks_of_notMem (by simpa using hne)]
        exact Function.update_of_ne hne ..
      rw [(hrun.history i).1 hfree] at hmem
      cases hmem
  have hwriter : OneWriter ls := fun i j hi hj ↦ (hslot i hi).trans (hslot j hj).symm
  exact ⟨ls, (harmless_iff rfl hrun).mpr hwriter, rfl⟩

end RmaPortal
