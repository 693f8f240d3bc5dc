import RmaPortal.Application.SyncService

/-!
# Rules for transactions

How the pieces of a synchronization act on the database, one rule each.

The body of a transaction is a sequence of repository calls, loops over them and nothing else; it
works on the pending database of its session.  `Within body db R` says what such a body does when
it starts from `db`: if it comes to its end with the value `x`, the pending database satisfies
`R x`; if it raises, it raises an `Exception`.  `sat_transaction` turns that into a statement
about the committed database: a transaction that raises has changed nothing, and one that ends has
made the pending database the committed one.

A run is looked at through `observed`, the list of those of its events that say what a poll
learned from the portal and what it committed because of it.

## What is here

* `PollEvent`, `observe`, `observed` — the queue was read, the reconciliation was committed, the
  details of a dossier were read, what was read was committed.  Everything else that happens
  leaves no trace in it, so two runs that are observed alike have done the same to the dossiers.
* `sat_portal` — a program that keeps to the portal leaves the database alone, and nothing of it
  is observed.
* `Kept`, `Kept.serve` — what the repositories keep, the units of work keep: a relation between
  databases holds of what is committed, and of what the open session sees.
* `Request.IsLocal` — the requests of a body, between its entry and its commit.
* `Within` and its rules — values, exceptions, sequences, a repository method (`within_repo`), the
  order of a set or of the rows of a query, and the loop.
* `within_foldlM` — the loop rule, for loops whose body for `x` changes what is seen at the key of
  `x` only.  What has been seen at a key before the loop is what its turn finds there, so no
  invariant has to be invented for a particular loop.
* `sat_withUow`, `sat_transaction` — entering a transaction, its body and its exit: all or
  nothing.  Entering and committing may fail, and then the database is what it was.
-/

set_option autoImplicit false

open Coroutine

namespace RmaPortal

/-! ## What is observed of a run -/

/-- An event of a poll that its effect on the dossiers depends on. -/
inductive PollEvent
  /-- The queue was read. -/
  | queueRead (answer : Except Exn QueueSnapshot)
  /-- The reconciliation transaction was committed. -/
  | reconciled
  /-- The details of a dossier were read. -/
  | detailRead (ref : PortalDossierRef) (answer : Except Exn DossierDetails)
  /-- What the last detail read has found was committed. -/
  | detailSaved

/-- What is observed of an event. -/
def observe : Happening → Option PollEvent
  | ⟨.reader .readAgreementQueue, answer⟩ => some (.queueRead answer)
  | ⟨.reader (.readDossierDetails ref), answer⟩ => some (.detailRead ref answer)
  | ⟨.uow (.commit .reconciliation), .ok _⟩ => some .reconciled
  | ⟨.uow (.commit .detailSave), .ok _⟩ => some .detailSaved
  | _ => none

/-- What is observed of a run. -/
def observed (t : List Happening) : List PollEvent := t.filterMap observe

/-- Events that are observed come from events of the run. -/
theorem mem_of_mem_observed {t : List Happening} {event : PollEvent} (h : event ∈ observed t) :
    ∃ e ∈ t, observe e = some event :=
  List.mem_filterMap.mp h

/-- What is observed of an event is observed of the run. -/
theorem mem_observed {t : List Happening} {e : Happening} {event : PollEvent} (he : e ∈ t)
    (h : observe e = some event) : event ∈ observed t := List.mem_filterMap.mpr ⟨e, he, h⟩

theorem eq_of_observe_queueRead {e : Happening} {answer : Except Exn QueueSnapshot}
    (h : observe e = some (.queueRead answer)) : e = ⟨.reader .readAgreementQueue, answer⟩ := by
  unfold observe at h
  split at h <;> cases h
  rfl

theorem eq_of_observe_detailRead {e : Happening} {ref : PortalDossierRef}
    {answer : Except Exn DossierDetails} (h : observe e = some (.detailRead ref answer)) :
    e = ⟨.reader (.readDossierDetails ref), answer⟩ := by
  unfold observe at h
  split at h <;> cases h
  rfl

theorem eq_of_observe_reconciled {e : Happening} (h : observe e = some .reconciled) :
    ∃ a, e = ⟨.uow (.commit .reconciliation), .ok a⟩ := by
  unfold observe at h
  split at h <;> cases h
  exact ⟨_, rfl⟩

@[simp] theorem observed_nil : observed [] = [] := rfl

@[simp] theorem observed_append (t t' : List Happening) :
    observed (t ++ t') = observed t ++ observed t' := List.filterMap_append

theorem observed_cons (e : Happening) (t : List Happening) :
    observed (e :: t) = (observe e).toList ++ observed t := by
  rw [observed, List.filterMap_cons]
  cases observe e <;> rfl

theorem observed_eq_nil {t : List Happening} (h : ∀ e ∈ t, observe e = none) : observed t = [] :=
  List.filterMap_eq_nil_iff.mpr h

theorem observe_of_isPortal {e : Happening} (h : e.1.IsPortal) : observe e = none := by
  obtain ⟨r, a⟩ := e
  cases r <;> first | rfl | exact h.elim

/-! ## Programs that keep to the portal -/

variable {α β γ : Type}

/-- A program that keeps to the portal leaves the database alone, and nothing of it is observed. -/
theorem sat_portal {c : Prog α} (hc : Only Request.IsPortal c) {w : World} :
    Sat world c w fun t _ w' ↦ w'.db = w.db ∧ observed t = [] := by
  refine (hc.sat (I := fun w' ↦ w'.db = w.db) (fun _ _ _ _ ↦ trivial) ?_ rfl).mono
    fun t o w' ⟨hdb, ht⟩ ↦ ⟨hdb, observed_eq_nil fun e he ↦ observe_of_isPortal (ht e he)⟩
  rintro w₁ r a w₂ hr hI ⟨b, hb⟩
  simp only [serve] at hb
  cases r <;> first | exact hr.elim | (cases hb; exact hI)

/-! ## What requests keep -/

/-- `R` holds of the database, and of what the open session sees. -/
def Kept (R : Database → Prop) (s : DbState) : Prop :=
  R s.committed ∧ ∀ db, s.pending = some db → R db

/-- **What the repositories keep, the units of work keep.** -/
theorem Kept.serve {R : Database → Prop} {s : DbState} (h : Kept R s) {q : UowRequest}
    (hrepo : ∀ tx op db db' x, q = .repo tx op → R db → op.run db = .ok (x, db') → R db')
    (a : Except Exn q.Val) : Kept R (q.serve a s).2 := by
  obtain ⟨hcommitted, hpending⟩ := h
  cases q with
  | exit tx => exact ⟨hcommitted, fun _ h ↦ by cases h⟩
  | enter tx =>
    cases a with
    | error e => exact ⟨hcommitted, hpending⟩
    | ok x =>
      refine ⟨hcommitted, fun db h ↦ ?_⟩
      cases h
      exact hcommitted
  | repo tx op =>
    cases a with
    | error e => exact ⟨hcommitted, hpending⟩
    | ok x =>
      simp only [UowRequest.serve]
      split
      · exact ⟨hcommitted, hpending⟩
      rename_i db hdb
      split
      · exact ⟨hcommitted, hpending⟩
      rename_i hrun
      refine ⟨hcommitted, fun db' h ↦ ?_⟩
      cases h
      exact hrepo tx op db _ _ rfl (hpending db hdb) hrun
  | commit tx =>
    cases a with
    | error e => exact ⟨hcommitted, hpending⟩
    | ok x =>
      simp only [UowRequest.serve]
      split
      · exact ⟨hcommitted, hpending⟩
      rename_i db hdb
      refine ⟨hpending db hdb, fun db' h ↦ ?_⟩
      cases h
      exact hpending db hdb

/-! ## The body of a transaction -/

/-- The requests a transaction makes between its entry and its commit. -/
def Request.IsLocal : Request → Prop
  | .uow (.repo _ _) => True
  | .iterate _ => True
  | .selectOrder _ => True
  | _ => False

theorem observe_of_isLocal {e : Happening} (h : e.1.IsLocal) : observe e = none := by
  obtain ⟨r, a⟩ := e
  cases r with
  | uow q => cases q <;> first | rfl | exact h.elim
  | _ => first | rfl | exact h.elim

/-- How the body of a transaction can end: with a value, or with an `Exception`. -/
def BodyEnds (R : α → Database → Prop) (o : Except Exn α) (db : Database) : Prop :=
  match o with
  | .ok x => R x db
  | .error e => e.isException = true

/-- What the body of a transaction does to the pending database `db`. -/
def Within (body : Prog α) (db : Database) (R : α → Database → Prop) : Prop :=
  ∀ w : World, w.db.pending = some db → Sat world body w fun t o w' ↦
    (∀ e ∈ t, e.1.IsLocal) ∧ w'.portal = w.portal ∧ w'.db.committed = w.db.committed ∧
      ∃ db', w'.db.pending = some db' ∧ BodyEnds R o db'

theorem Within.mono {body : Prog α} {db : Database} {R R' : α → Database → Prop}
    (h : Within body db R) (hR : ∀ x db', R x db' → R' x db') : Within body db R' := by
  intro w hw
  refine (h w hw).mono fun t o w' ⟨ht, hp, hc, db', hdb', ho⟩ ↦ ⟨ht, hp, hc, db', hdb', ?_⟩
  cases o with
  | ok x => exact hR x db' ho
  | error e => exact ho

theorem within_pure {x : α} {db : Database} {R : α → Database → Prop} (h : R x db) :
    Within (pure x) db R := fun w hw ↦ sat_pure ⟨by simp, rfl, rfl, db, hw, h⟩

theorem within_throw {e : Exn} {db : Database} {R : α → Database → Prop}
    (h : e.isException = true) : Within (throw e) db R :=
  fun w hw ↦ sat_throw ⟨by simp, rfl, rfl, db, hw, h⟩

theorem within_bind {c : Prog α} {f : α → Prog β} {db : Database} {R : α → Database → Prop}
    {R' : β → Database → Prop} (hc : Within c db R)
    (hf : ∀ x db', R x db' → Within (f x) db' R') : Within (c >>= f) db R' := by
  intro w hw
  refine sat_bind (hc w hw) ?_ ?_
  · rintro t x w₁ ⟨ht, hp, hcom, db₁, hdb₁, hR⟩
    refine (hf x db₁ hR w₁ hdb₁).mono fun t' o w₂ ⟨ht', hp', hcom', hend⟩ ↦ ?_
    refine ⟨fun e he ↦ ?_, hp'.trans hp, hcom'.trans hcom, hend⟩
    exact (List.mem_append.mp he).elim (ht e) (ht' e)
  · exact fun t e w₁ h ↦ h

theorem Repo.isException_of_run {op : Repo} {db : Database} {e : Exn}
    (h : op.run db = .error e) : e.isException = true := by
  cases op <;> simp only [Repo.run, reduceCtorEq] at h
  case finishPollRun =>
    simp only [PollRunRepository.finish] at h
    split at h <;> cases h
    rfl
  case createFromRow =>
    simp only [DossierRepository.createFromRow, bind, Except.bind, pure, Except.pure] at h
    split at h
    · rename_i he
      cases h
      rw [Database.insertDossier_error he]
      rfl
    · split at h
      · rename_i he
        cases h
        rw [Database.insertWork_error he]
        rfl
      · cases h
  case touch =>
    simp only [DossierRepository.touch] at h
    split at h <;> cases h
    rfl
  case reactivate =>
    simp only [DossierRepository.reactivate] at h
    split at h <;> cases h
    rfl
  case createNotification =>
    simp only [NotificationRepository.create, bind, Except.bind, pure, Except.pure] at h
    split at h
    · rename_i he
      cases h
      rw [Database.insertNotification_error he]
      rfl
    · cases h

/-- A repository method is called. -/
theorem within_repo {tx : Transaction} {op : Repo} {db : Database}
    {R : op.Val → Database → Prop} (h : ∀ x db', op.run db = .ok (x, db') → R x db') :
    Within (repo tx op) db R := by
  intro w hw
  refine sat_uow fun b a s hs ↦ ?_
  have hlocal : ∀ e ∈ [(⟨.uow (.repo tx op), a⟩ : Happening)], e.1.IsLocal := by
    intro e he
    rw [List.mem_singleton.mp he]
    trivial
  cases b with
  | error e =>
    simp only [UowRequest.serve, Prod.mk.injEq] at hs
    obtain ⟨rfl, rfl⟩ := hs
    exact ⟨hlocal, rfl, rfl, db, hw, Exn.isException_fault e⟩
  | ok x =>
    simp only [UowRequest.serve, hw] at hs
    cases hrun : op.run db with
    | error e =>
      simp only [hrun, Prod.mk.injEq] at hs
      obtain ⟨rfl, rfl⟩ := hs
      exact ⟨hlocal, rfl, rfl, db, hw, Repo.isException_of_run hrun⟩
    | ok p =>
      simp only [hrun, Prod.mk.injEq] at hs
      obtain ⟨rfl, rfl⟩ := hs
      exact ⟨hlocal, rfl, rfl, p.2, rfl, h p.1 p.2 hrun⟩

/-- The order of a set is asked for. -/
theorem within_iterate {s : FrozenSet String} {db : Database}
    {R : List String → Database → Prop} (h : ∀ l, l.Perm s.rows → R l db) :
    Within (iterate s) db R := by
  refine within_bind (R := fun l db' ↦ db' = db) (fun w hw ↦ ?_) ?_
  · refine sat_perform trivial fun a w' ⟨b, hb⟩ ↦ ?_
    simp only [serve, Prod.mk.injEq] at hb
    obtain ⟨rfl, rfl⟩ := hb
    refine ⟨fun e he ↦ ?_, rfl, rfl, db, hw, rfl⟩
    rw [List.mem_singleton.mp he]
    trivial
  · rintro l _ rfl
    exact within_pure (h l.val l.property)

/-- The order of a query's rows is asked for. -/
theorem within_selectOrder {rows : List Dossier} {db : Database}
    {R : Request.Val (.selectOrder rows) → Database → Prop}
    (h : ∀ l : { l : List Dossier // l.Perm rows }, R l db) :
    Within (ask (.selectOrder rows)) db R := by
  intro w hw
  refine sat_perform trivial fun a w' ⟨b, hb⟩ ↦ ?_
  simp only [serve, Prod.mk.injEq] at hb
  obtain ⟨rfl, rfl⟩ := hb
  refine ⟨fun e he ↦ ?_, rfl, rfl, db, hw, h _⟩
  rw [List.mem_singleton.mp he]
  trivial

/-- **The loop rule**, for loops whose body for `x` changes what is seen at the key of `x` only:
`V b db k` is what the accumulator and the database show of the key `k`, and `G x` relates what is
seen at the key of `x` before and after its turn. -/
theorem within_foldlM {κ ν : Type} {f : β → γ → Prog β} (V : β → Database → κ → ν)
    (key : γ → κ) (I : β → Database → Prop) (G : γ → ν → ν → Prop) {l : List γ}
    (hl : (l.map key).Nodup)
    (hbody : ∀ x ∈ l, ∀ b db, I b db → Within (f b x) db fun b' db' ↦
      I b' db' ∧ G x (V b db (key x)) (V b' db' (key x)) ∧
        ∀ k, k ≠ key x → V b' db' k = V b db k)
    {b : β} {db : Database} (h0 : I b db) :
    Within (l.foldlM f b) db fun b' db' ↦
      I b' db' ∧ (∀ x ∈ l, G x (V b db (key x)) (V b' db' (key x))) ∧
        ∀ k, k ∉ l.map key → V b' db' k = V b db k := by
  induction l generalizing b db with
  | nil => exact within_pure ⟨h0, by simp, fun _ _ ↦ rfl⟩
  | cons x l ih =>
    rw [List.foldlM_cons]
    rw [List.map_cons, List.nodup_cons] at hl
    refine within_bind (hbody x List.mem_cons_self b db h0) fun b₁ db₁ ⟨hI, hG, hframe⟩ ↦ ?_
    refine (ih hl.2 (fun y hy ↦ hbody y (List.mem_cons_of_mem x hy)) hI).mono
      fun b₂ db₂ ⟨hI₂, hG₂, hframe₂⟩ ↦ ⟨hI₂, fun y hy ↦ ?_, fun k hk ↦ ?_⟩
    · rcases List.mem_cons.mp hy with rfl | hy
      · rw [hframe₂ _ hl.1]
        exact hG
      · have hne : key y ≠ key x := fun h ↦ hl.1 (h ▸ List.mem_map_of_mem hy)
        rw [← hframe _ hne]
        exact hG₂ y hy
    · rw [List.map_cons, List.mem_cons, not_or] at hk
      rw [hframe₂ k hk.2, hframe k hk.1]

/-! ## A whole transaction -/

/-- How a transaction can end: committed, or not at all. -/
def TransactionEnds (tx : Transaction) (db : Database) (R : α → Database → Prop)
    (t : List Happening) (o : Except Exn α) (s : DbState) : Prop :=
  match o with
  | .ok x =>
    ∃ db', s = .idle db' ∧ R x db' ∧ observed t = (observe ⟨.uow (.commit tx), .ok ()⟩).toList
  | .error e => e.isException = true ∧ s = .idle db ∧ observed t = []

/-- Entering a transaction, its body, and its exit. -/
theorem sat_withUow {tx : Transaction} {body : Prog α} {w : World} {db : Database}
    (hw : w.db = .idle db) {Q : List Happening → Except Exn α → World → Prop}
    (hfail : ∀ e, e.isException = true → Q [⟨.uow (.enter tx), .error e⟩] (.error e) w)
    (hbody : Sat world body { w with db := ⟨db, some db⟩ } fun t o w' ↦
      Q (⟨.uow (.enter tx), .ok ()⟩ :: t ++ [⟨.uow (.exit tx), .ok ()⟩]) o
        { w' with db := .idle w'.db.committed }) :
    Sat world (withUow tx body) w Q := by
  refine sat_bind (R := fun t o w' ↦
    (∃ e, e.isException = true ∧ o = .error e ∧ t = [⟨.uow (.enter tx), .error e⟩] ∧ w' = w) ∨
      (o = .ok () ∧ t = [⟨.uow (.enter tx), .ok ()⟩] ∧ w' = { w with db := ⟨db, some db⟩ }))
    (sat_uow fun b a s hs ↦ ?_) ?_ ?_
  · cases b with
    | error e =>
      cases hs
      exact Or.inl ⟨_, Exn.isException_fault e, rfl, rfl, rfl⟩
    | ok u =>
      cases hs
      refine Or.inr ⟨rfl, rfl, ?_⟩
      rw [hw, DbState.idle]
  · rintro t u w₁ (⟨e, -, ho, -⟩ | ⟨-, rfl, rfl⟩)
    · cases ho
    · refine sat_bind (sat_tryFinally hbody (Q := fun t o w' ↦ ∃ o₁,
        o = o₁.map (·, ()) ∧ Q (⟨.uow (.enter tx), .ok ()⟩ :: t) o₁ w')
        fun t₁ o₁ w₁ h₁ ↦ sat_uow fun b a s hs ↦ ?_) ?_ ?_
      · cases hs
        exact ⟨o₁, rfl, by simpa [DbState.idle] using h₁⟩
      · rintro t₁ ⟨x, u'⟩ w₁ ⟨o₁, ho₁, hQ⟩
        cases o₁ with
        | error e => cases ho₁
        | ok y =>
          cases ho₁
          exact sat_pure (by simpa using hQ)
      · rintro t₁ e w₁ ⟨o₁, ho₁, hQ⟩
        cases o₁ with
        | error e' => cases ho₁; exact hQ
        | ok y => cases ho₁
  · rintro t e w₁ (⟨e', he', ho, rfl, rfl⟩ | ⟨ho, -⟩)
    · cases ho
      exact hfail _ he'
    · cases ho

theorem observed_of_local {t : List Happening} (h : ∀ e ∈ t, e.1.IsLocal) : observed t = [] :=
  observed_eq_nil fun e he ↦ observe_of_isLocal (h e he)

/-- **The rule of transactions**: all or nothing. -/
theorem sat_transaction {tx : Transaction} {body : Prog α} {w : World} {db : Database}
    {R : α → Database → Prop} (hw : w.db = .idle db) (h : Within body db R) :
    Sat world (transaction tx body) w fun t o w' ↦
      w'.portal = w.portal ∧ TransactionEnds tx db R t o w'.db := by
  refine sat_withUow hw (fun e he ↦ ⟨rfl, he, hw, rfl⟩) ?_
  refine sat_bind (h _ rfl) ?_ ?_
  · rintro t x w₁ ⟨ht, hp, hc, db₁, hdb₁, hR⟩
    have hcommit : Sat world (commit tx) w₁ fun t' o w' ↦ w'.portal = w₁.portal ∧
        ((∃ e, e.isException = true ∧ o = .error e ∧ t' = [⟨.uow (.commit tx), .error e⟩] ∧
          w'.db.committed = db) ∨
        (o = .ok () ∧ t' = [⟨.uow (.commit tx), .ok ()⟩] ∧ w'.db.committed = db₁)) := by
      refine sat_uow fun b a s hs ↦ ⟨rfl, ?_⟩
      cases b with
      | error e =>
        cases hs
        exact Or.inl ⟨_, Exn.isException_fault e, rfl, rfl, hc⟩
      | ok u =>
        simp only [UowRequest.serve, hdb₁, Prod.mk.injEq] at hs
        obtain ⟨rfl, rfl⟩ := hs
        exact Or.inr ⟨rfl, rfl, rfl⟩
    refine sat_bind hcommit ?_ ?_
    · rintro t' u w₂ ⟨hp', ⟨e, -, ho, -⟩ | ⟨-, rfl, hdb'⟩⟩
      · cases ho
      · refine sat_pure ⟨hp'.trans hp, db₁, by rw [hdb'], hR, ?_⟩
        simp only [List.append_nil, List.cons_append, observed_cons, observed_append,
          observed_of_local ht, observed_nil, List.append_assoc]
        simp [observe]
    · rintro t' e w₂ ⟨hp', ⟨e', he', ho, rfl, hdb'⟩ | ⟨ho, -⟩⟩
      · cases ho
        refine ⟨hp'.trans hp, he', by rw [hdb'], ?_⟩
        simp only [List.cons_append, observed_cons, observed_append, observed_of_local ht,
          observed_nil]
        cases tx <;> simp [observe]
      · cases ho
  · rintro t e w₁ ⟨ht, hp, hc, db₁, hdb₁, he⟩
    refine ⟨hp, he, by rw [hc], ?_⟩
    simp only [List.cons_append, observed_cons, observed_append, observed_of_local ht,
      observed_nil]
    simp [observe]

end RmaPortal
