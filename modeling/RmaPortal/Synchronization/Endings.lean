import RmaPortal.Synchronization.Books
import RmaPortal.Synchronization.Reports
import RmaPortal.Synchronization.Runs

/-!
# How a poll ends

`Ended` lists the ways in which a call of `execute` that leads a poll can end, each with what it
has reported, what it has left in the books and in the dataset, and, where it ended with an
exception, what for.  A reason is a call to open or close the reader (`ReaderCall`), a transaction
that failed, or what the reader answered.

`sat_execute_ended` proves that there are no other ways, and what is to be said of the reports and
records of polls is read off the list.

## What is here

* `ReaderCall` and `PortalReaderFactory.Makes` — the calls that open or close a reader.  A reader
  is a program of its own, and what counts here is only how its calls have ended.
* `closeConfirmed` — whether a close was confirmed.  Running into its own timeout is a failure
  like any other; a cancellation from outside is none, and ends the poll.
* `Unstarted` — why a call ended with an exception before it could record anything.
* `Ended` — the list.  A poll is skipped, or can not start; it fails before it can read, and this
  is recorded or can not be recorded; it comes to its end, and is recorded as what it has
  reported; or it is cut off after it had been recorded as started, and its row stays as it is.
* `BodyClosed` — how the body of a poll, and the close of its reader after it, end together: an
  exception of either is what the poll ends with, and the one of the close comes last.
* `sat_pollWith_ended`, `sat_executeOnce_ended`, `sat_execute_ended` — the parts of a poll from
  the inside to the outside, each by the rules of `Sat` from those before it.
* `Poll.Leads` and `Poll.leads_or_joins` — a call either leads a poll or joins one, and then does
  nothing itself.
* `DetailsEnd.met` and `BodyReport.cut` — what cuts a detail phase short, and what cuts the whole
  body off: something that the reader raised and that is no `Exception`.

Nothing is assumed here of the reader, the clock or the database.  A claim about polls that do not
fail in some way takes the list and crosses out what it excludes.
-/

set_option autoImplicit false

open Coroutine

namespace RmaPortal

open SyncAgreementQueue

/-! ## Opening and closing a reader -/

/-- A call that opens or closes a reader, with its outcome. -/
inductive ReaderCall (H : Type)
  | savedSession (o : Except Exn Bool)
  | opened (o : Except Exn Unit)
  | entered (o : Except Exn H)
  | closed (reader : H) (o : Except Exn Unit)

/-- The run `t` of a program makes the call. -/
def PortalReaderFactory.Makes {H α : Type} (F : PortalReaderFactory H) (c : Prog α)
    (t : List Happening) : ReaderCall H → Prop
  | .savedSession o => Calls c t F.hasSavedSession o
  | .opened o => Calls c t F.openReader o
  | .entered o => Calls c t F.aenter o
  | .closed reader o => Calls c t (F.aexit reader) o

/-- Whether a close was confirmed, by how it ended: running into its own timeout is a failure like
any other, a cancellation from outside is none. -/
def closeConfirmed : Except Exn Unit → Except Exn Bool
  | .ok () => .ok true
  | .error (.cancelledError true) => .ok false
  | .error e => if e.isException then .ok false else .error e

section Calls

variable {H α : Type} {F : PortalReaderFactory H}

theorem PortalReaderFactory.Makes.after {P c : Prog α} {t t' : List Happening}
    (hafter : After P t c) {call : ReaderCall H} (h : F.Makes c t' call) :
    F.Makes P (t ++ t') call := by
  cases call <;> exact Calls.after hafter h

theorem PortalReaderFactory.Makes.append {c : Prog α} {t : List Happening} {call : ReaderCall H}
    (h : F.Makes c t call) (t' : List Happening) : F.Makes c (t ++ t') call := by
  cases call <;> exact Calls.append h t'

theorem ends_closeReader {reader : H} {t : List Happening} {o : Except Exn Bool}
    (h : Ends (closeReader F reader) t o) : ∃ closed,
      F.Makes (closeReader F reader) t (.closed reader closed) ∧ o = closeConfirmed closed := by
  obtain ⟨t₁, o₁, t₂, rfl, h₁, h₂⟩ := Ends.of_next h
  obtain ⟨t₃, o₃, t₄, rfl, h₃, h₄⟩ := Ends.of_next h₁
  obtain ⟨t₅, closed, t₆, rfl, h₅, h₆⟩ := Ends.of_next h₃
  obtain ⟨rfl, rfl, -⟩ := h₄
  refine ⟨closed, ?_, ?_⟩
  · have hcall : Calls (waitFor (F.aexit reader)) (t₅ ++ t₆) (F.aexit reader) closed :=
      (Calls.self h₅).next_left _ t₆
    rw [List.append_nil]
    exact hcall.attempt.bind_left _ t₂
  · cases closed with
    | ok x =>
      obtain ⟨rfl, rfl, -⟩ := h₆
      exact h₂.2.1
    | error e =>
      cases e with
      | cancelledError byTimeout =>
        cases byTimeout <;>
        · obtain ⟨rfl, rfl, -⟩ := h₆
          exact h₂.2.1
      | _ =>
        obtain ⟨rfl, rfl, -⟩ := h₆
        exact h₂.2.1

end Calls

/-! ## The list of endings -/

/-- The report of a poll whose reader has been closed. -/
def SyncAgreementQueue.PollReport.afterClose (report : PollReport) (cleanupOk : Bool) :
    PollReport :=
  if cleanupOk then report
  else { report with status := .failed, error := some unconfirmedCleanupMessage }

section Ended

variable {H : Type} (made : ReaderCall H → Prop) (fails : Transaction → Prop)
  (obs : List PollEvent) (before : Database)

/-- Why a call of `execute` ended with an exception before it could record anything. -/
inductive Unstarted : Exn → Prop
  | noAccount (h : PortalAccountRepository.getDefault before = none) : Unstarted noAccountError
  | lookup (e : Exn) (h : fails .defaultAccount) : Unstarted e
  | savedSession {e : Exn} (h : made (.savedSession (.error e))) : Unstarted e
  | opening {e : Exn} (h : made (.opened (.error e)))
      (hlocked : ∀ message, e ≠ .browserProfileLockedError message) : Unstarted e
  | entering {e : Exn} (h : made (.entered (.error e))) (he : e.isException = false) : Unstarted e

/-- **The ways in which a poll ends**: its outcome, and the database after it. -/
inductive Ended : Except Exn SyncResult → Database → Prop
  | skipped (reason : String) (hobs : obs = []) :
      Ended (.ok (SyncAgreementQueue.skipped reason)) before
  | unstarted {e : Exn} (hobs : obs = []) (h : Unstarted made fails before e) :
      Ended (.error e) before
  /-- It never got to read, and this was recorded. -/
  | failed {account : PortalAccount} {completedAt : Datetime} {error : String} {after : Database}
      (haccount : PortalAccountRepository.getDefault before = some account) (hobs : obs = [])
      (hrecorded : Recorded account.id (failedOutcome completedAt error) before after)
      (hsame : SameDataset before after) : Ended (.ok (failedResult error)) after
  /-- It never got to read, and this could not be recorded. -/
  | unrecorded (e : Exn) (hobs : obs = []) (h : fails .failedPoll) : Ended (.error e) before
  /-- It never got to read, and was cut off while it closed its reader. -/
  | uncleared {e : Exn} {reader : H} {closed : Except Exn Unit} (hobs : obs = [])
      (hentered : made (.entered (.ok reader))) (hclosed : made (.closed reader closed))
      (he : closeConfirmed closed = .error e) : Ended (.error e) before
  /-- It came to its end. -/
  | polled {account : PortalAccount} {run : PollRun} {reader : H} {closed : Except Exn Unit}
      {now completedAt : Datetime} {db db' after : Database} {report : PollReport}
      {cleanupOk : Bool} (haccount : PortalAccountRepository.getDefault before = some account)
      (hopened : RunOpened account.id run before db)
      (heffect : BodyEffect account.id account.baselineCompletedAt.isSome now obs db db')
      (hreport : BodyReport account.id account.baselineCompletedAt.isSome db db' obs (.ok report))
      (hentered : made (.entered (.ok reader)))
      (hclosed : made (.closed reader closed)) (hok : closeConfirmed closed = .ok cleanupOk)
      (hrecorded : Recorded account.id ((report.afterClose cleanupOk).outcome completedAt) before
        after)
      (hsame : SameDataset db' after) : Ended (.ok (report.afterClose cleanupOk).result) after
  /-- It was cut off after it had been recorded as started. -/
  | cutOff {account : PortalAccount} {run : PollRun} {reader : H} {closed : Except Exn Unit}
      {db after : Database} {o : Except Exn PollReport} {e : Exn}
      (haccount : PortalAccountRepository.getDefault before = some account)
      (hopened : RunOpened account.id run before db)
      (hreport : BodyReport account.id account.baselineCompletedAt.isSome db after obs o)
      (hbooks : SameBooks db after) (hentered : made (.entered (.ok reader)))
      (hclosed : made (.closed reader closed))
      (hcause : (∃ e, o = .error e) ∨ (∃ e, closeConfirmed closed = .error e) ∨
        fails .pollFinish) : Ended (.error e) after

variable {made fails obs before}

theorem Unstarted.mono {made' : ReaderCall H → Prop} {fails' : Transaction → Prop} {e : Exn}
    (h : Unstarted made fails before e) (hmade : ∀ call, made call → made' call)
    (hfails : ∀ tx, fails tx → fails' tx) : Unstarted made' fails' before e := by
  cases h with
  | noAccount h => exact .noAccount h
  | lookup _ h => exact .lookup _ (hfails _ h)
  | savedSession h => exact .savedSession (hmade _ h)
  | opening h hlocked => exact .opening (hmade _ h) hlocked
  | entering h he => exact .entering (hmade _ h) he

theorem Ended.mono {made' : ReaderCall H → Prop} {fails' : Transaction → Prop}
    {o : Except Exn SyncResult} {after : Database} (h : Ended made fails obs before o after)
    (hmade : ∀ call, made call → made' call) (hfails : ∀ tx, fails tx → fails' tx) :
    Ended made' fails' obs before o after := by
  cases h with
  | skipped reason hobs => exact .skipped reason hobs
  | unstarted hobs h => exact .unstarted hobs (h.mono hmade hfails)
  | failed haccount hobs hrecorded hsame => exact .failed haccount hobs hrecorded hsame
  | unrecorded e hobs h => exact .unrecorded e hobs (hfails _ h)
  | uncleared hobs hentered hclosed he =>
    exact .uncleared hobs (hmade _ hentered) (hmade _ hclosed) he
  | polled haccount hopened heffect hreport hentered hclosed hok hrecorded hsame =>
    exact .polled haccount hopened heffect hreport (hmade _ hentered) (hmade _ hclosed) hok
      hrecorded hsame
  | cutOff haccount hopened hreport hbooks hentered hclosed hcause =>
    exact .cutOff haccount hopened hreport hbooks (hmade _ hentered) (hmade _ hclosed)
      (hcause.imp_right (Or.imp_right (hfails _)))

end Ended

/-! ## Every run ends in one of these ways -/

section Poll

variable {H : Type} {F : PortalReaderFactory H} {w : World} {before : Database}

/-- How a run of a program ends, as a poll that has already made the calls `earlier`. -/
def PollEnded (F : PortalReaderFactory H) (earlier : ReaderCall H → Prop) (c : Prog SyncResult)
    (before : Database) (t : List Happening) (o : Except Exn SyncResult) (s : DbState) : Prop :=
  ∃ after, s = .idle after ∧ Ended (fun call ↦ earlier call ∨ F.Makes c t call)
    (fun tx ↦ Fails tx t) (observed t) before o after

/-- What is left of a poll ends as the poll. -/
theorem PollEnded.after {P c : Prog SyncResult} {earlier earlier' : ReaderCall H → Prop}
    {t t' : List Happening} {o : Except Exn SyncResult} {s : DbState} (hafter : After P t c)
    (hobs : observed t = []) (hearlier : ∀ call, earlier' call → earlier call ∨ F.Makes P t call)
    (h : PollEnded F earlier' c before t' o s) : PollEnded F earlier P before (t ++ t') o s := by
  obtain ⟨after, hs, hended⟩ := h
  refine ⟨after, hs, ?_⟩
  rw [observed_append, hobs, List.nil_append]
  refine hended.mono (fun call h ↦ ?_) fun tx h ↦ h.append_left t
  obtain h | h := h
  · exact (hearlier call h).imp_right (PortalReaderFactory.Makes.append · t')
  · exact .inr (h.after hafter)

theorem sat_closeReader {reader : H} :
    Sat world (closeReader F reader) w fun t o w' ↦ w'.db = w.db ∧ observed t = [] ∧
      Ends (closeReader F reader) t o ∧ ∃ closed,
        F.Makes (closeReader F reader) t (.closed reader closed) ∧ o = closeConfirmed closed :=
  (sat_portal (closeReader_portal reader)).ends.mono fun _ _ _ h ↦
    ⟨h.1.1, h.1.2, h.2, ends_closeReader h.2⟩

/-- A poll that failed before it could read, and is to be recorded as such. -/
theorem sat_recordFailedPoll_ended {account : PortalAccount} {startedAt : Datetime}
    {error : String} (haccount : PortalAccountRepository.getDefault before = some account)
    (hw : w.db = .idle before) :
    Sat world (recordFailedPoll account.id startedAt error) w fun t o w' ↦
      PollEnded F (fun _ ↦ False) (recordFailedPoll account.id startedAt error) before t o
        w'.db := by
  refine (sat_recordFailedPoll_books hw).mono fun t o w' ⟨hobs, h⟩ ↦ ?_
  cases o with
  | ok result =>
    obtain ⟨completedAt, after, rfl, hafter, hrecorded, hsame⟩ := h
    exact ⟨after, hafter, .failed haccount hobs hrecorded hsame⟩
  | error e => exact ⟨before, h.2.1, .unrecorded e hobs h.2.2⟩

/-- How the body of a poll, and the close of its reader after it, end together. -/
structure BodyClosed (F : PortalReaderFactory H) (account : PortalAccount) (reader : H)
    (now : Datetime) (c : Prog (PollReport × Bool)) (db db' : Database) (t : List Happening)
    (o : Except Exn PollReport) (closed : Except Exn Unit) : Prop where
  effect : BodyEffect account.id account.baselineCompletedAt.isSome now (observed t) db db'
  report : BodyReport account.id account.baselineCompletedAt.isSome db db' (observed t) o
  books : SameBooks db db'
  made : F.Makes c t (.closed reader closed)

theorem sat_bodyClosed {account : PortalAccount} {reader : H} {now : Datetime} {db : Database}
    (hw : w.db = .idle db) :
    Sat world ((pollBody account.id account.baselineCompletedAt.isSome now).tryFinally
      (closeReader F reader)) w fun t x w' ↦ ∃ db' o closed, w'.db = .idle db' ∧
        BodyClosed F account reader now
          ((pollBody account.id account.baselineCompletedAt.isSome now).tryFinally
            (closeReader F reader)) db db' t o closed ∧
        match x with
        | .ok (report, cleanupOk) => o = .ok report ∧ closeConfirmed closed = .ok cleanupOk
        | .error _ => (∃ e, o = .error e) ∨ ∃ e, closeConfirmed closed = .error e := by
  refine sat_tryFinally (((sat_pollBody hw).and (sat_pollBody_report hw)).and
    (sat_pollBody_books hw)).ends ?_
  rintro t o w₁ ⟨⟨⟨⟨db', hdb', heffect⟩, db'', hdb'', hreport⟩, hbooks⟩, hends⟩
  have hdb : DbState.idle db' = .idle db'' := hdb'.symm.trans hdb''
  cases hdb
  rw [hdb'] at hbooks
  refine sat_closeReader.mono ?_
  rintro t' o' w₂ ⟨hdb₂, hobs, -, closed, hmade, rfl⟩
  have hclosed : BodyClosed F account reader now
      ((pollBody account.id account.baselineCompletedAt.isSome now).tryFinally
        (closeReader F reader)) db db' (t ++ t') o closed := by
    have hobs' : observed (t ++ t') = observed t := by rw [observed_append, hobs, List.append_nil]
    exact ⟨hobs'.symm ▸ heffect, hobs'.symm ▸ hreport, hbooks.1, Calls.tryFinally_right hends hmade⟩
  split <;> rename_i hconfirmed
  · refine ⟨db', o, closed, hdb₂.trans hdb', hclosed, ?_⟩
    cases o with
    | ok report => exact ⟨rfl, hconfirmed⟩
    | error e => exact .inl ⟨e, rfl⟩
  · exact ⟨db', o, closed, hdb₂.trans hdb', hclosed, .inr ⟨_, hconfirmed⟩⟩

theorem sat_pollWith_ended {account : PortalAccount} {reader : H} {now : Datetime}
    (haccount : PortalAccountRepository.getDefault before = some account)
    (hw : w.db = .idle before) :
    Sat world (pollWith F reader account.id account.baselineCompletedAt.isSome now) w
      fun t o w' ↦ PollEnded F (fun call ↦ call = .entered (.ok reader))
        (pollWith F reader account.id account.baselineCompletedAt.isSome now) before t o w'.db := by
  refine sat_attempt_bind (sat_startPoll_books hw).ends ?_
  rintro t o w₁ ⟨⟨hobs, hstarted⟩, hends⟩
  have hafter := (After.nil (pollWith F reader account.id account.baselineCompletedAt.isSome
    now)).attempt_bind hends
  rw [List.nil_append] at hafter
  cases o with
  | error e =>
    -- the poll could not be recorded: close the reader and record the failure
    obtain ⟨he, hdb₁, -⟩ := hstarted
    dsimp only at hafter ⊢
    rw [if_pos he] at hafter ⊢
    refine sat_bind sat_closeReader ?_ ?_
    · rintro t' closed w₂ ⟨hdb₂, hobs', hends', -⟩
      have hafter' := hafter.bind hends'
      have hobs₂ : observed (t ++ t') = [] := by rw [observed_append, hobs, hobs']; rfl
      cases closed <;>
      · refine (sat_recordFailedPoll_ended (F := F) haccount (hdb₂.trans hdb₁)).mono
          fun t'' o' w' h ↦ ?_
        rw [← List.append_assoc]
        exact h.after hafter' hobs₂ fun _ h ↦ h.elim
    · rintro t' e' w₂ ⟨hdb₂, hobs', -, closed, hclosed, he'⟩
      have hmade := Calls.after hafter (Calls.bind_left hclosed _ [])
      rw [List.append_nil] at hmade
      refine ⟨before, hdb₂.trans hdb₁, .uncleared ?_ (.inl rfl) (.inr hmade) he'.symm⟩
      rw [observed_append, hobs, hobs']
      rfl
  | ok pollRunId =>
    obtain ⟨run, db, rfl, hdb₁, hopened⟩ := hstarted
    have hobserved (t' t'' : List Happening) (hobs'' : observed t'' = []) :
        observed (t ++ (t' ++ t'')) = observed t' := by
      simp [hobs, hobs'']
    refine sat_bind (sat_bodyClosed hdb₁) ?_ ?_
    · rintro t' ⟨report, cleanupOk⟩ w₂ ⟨db', _, closed, hdb₂, hclosed, rfl, hok⟩
      refine (sat_finishPoll_books hdb₂).mono fun t'' o' w' ⟨hobs'', h⟩ ↦ ?_
      have hmade := Calls.after hafter (Calls.bind_left hclosed.made _ t'')
      cases o' with
      | ok result =>
        obtain ⟨completedAt, after, rfl, hafter', hrun⟩ := h
        refine ⟨after, hafter', ?_⟩
        rw [hobserved t' t'' hobs'']
        exact .polled haccount hopened hclosed.effect hclosed.report (.inl rfl) (.inr hmade) hok
          (.of_closed hopened hclosed.books hrun) hrun.dataset
      | error e =>
        refine ⟨db', h.2.1, ?_⟩
        rw [hobserved t' t'' hobs'']
        exact .cutOff haccount hopened hclosed.report hclosed.books (.inl rfl) (.inr hmade)
          (.inr (.inr ((h.2.2.append_left t').append_left t)))
    · rintro t' e w₂ ⟨db', o, closed, hdb₂, hclosed, hcause⟩
      have hmade := Calls.after hafter (Calls.bind_left hclosed.made _ [])
      rw [List.append_nil] at hmade
      have hobs' := hobserved t' [] rfl
      rw [List.append_nil] at hobs'
      refine ⟨db', hdb₂, ?_⟩
      rw [hobs']
      exact .cutOff haccount hopened hclosed.report hclosed.books (.inl rfl) (.inr hmade)
        (hcause.imp_right .inl)

/-- Why the look at the default account can fail. -/
theorem sat_enabledAccount_fails (hw : w.db = .idle before) :
    Sat world enabledAccount w fun t o _ ↦ ∀ e, o = .error e →
      (PortalAccountRepository.getDefault before = none ∧ e = noAccountError) ∨
        Fails .defaultAccount t := by
  refine sat_withUow hw (fun e _ e' _ ↦ .inr ⟨.enter .defaultAccount, e, rfl, by simp⟩) ?_
  refine sat_bind (R := fun t o _ ↦
    (∃ e, t = [⟨.uow (.repo .defaultAccount .getDefault), .error e⟩]) ∨
      o = .ok (PortalAccountRepository.getDefault before)) (sat_uow fun b a s hs ↦ ?_) ?_ ?_
  · cases b with
    | error e =>
      cases hs
      exact .inl ⟨_, rfl⟩
    | ok x =>
      cases hs
      exact .inr rfl
  · rintro t x w₁ h
    have hfails (h : ∃ e, t = [⟨.uow (.repo .defaultAccount .getDefault), .error e⟩])
        (t' : List Happening) : Fails .defaultAccount
          (⟨.uow (.enter .defaultAccount), .ok ()⟩ :: (t ++ t') ++
            [⟨.uow (.exit .defaultAccount), .ok ()⟩]) := by
      obtain ⟨e, rfl⟩ := h
      exact ⟨.repo .defaultAccount .getDefault, e, rfl, by simp⟩
    rcases h with h | h
    · split
      · exact sat_throw fun _ _ ↦ .inr (hfails h [])
      · exact sat_pure fun _ _ ↦ .inr (hfails h [])
    · cases h
      split
      · rename_i hnone
        refine sat_throw fun e he ↦ .inl ⟨hnone, ?_⟩
        cases he
        rfl
      · exact sat_pure (by simp)
  · rintro t e w₁ (⟨e', rfl⟩ | h)
    · exact fun _ _ ↦ .inr ⟨.repo .defaultAccount .getDefault, e', rfl, by simp⟩
    · cases h

theorem sat_executeOnce_ended (hw : w.db = .idle before) :
    Sat world (executeOnce F) w fun t o w' ↦
      PollEnded F (fun _ ↦ False) (executeOnce F) before t o w'.db := by
  have hskip {t : List Happening} {s : DbState} {reason : String} (hobs : observed t = [])
      (hs : s = .idle before) :
      PollEnded F (fun _ ↦ False) (executeOnce F) before t (.ok (skipped reason)) s :=
    ⟨before, hs, .skipped reason hobs⟩
  have hstop {t : List Happening} {e : Exn} {s : DbState} (hobs : observed t = [])
      (hs : s = .idle before)
      (h : Unstarted (F.Makes (executeOnce F) t) (fun tx ↦ Fails tx t) before e) :
      PollEnded F (fun _ ↦ False) (executeOnce F) before t (.error e) s :=
    ⟨before, hs, .unstarted hobs (h.mono (fun _ ↦ .inr) fun _ ↦ id)⟩
  refine sat_bind (sat_now (Q := fun t o w' ↦ w = w' ∧ observed t = [] ∧ ∃ d, o = .ok d)
    fun d ↦ ⟨rfl, rfl, d, rfl⟩).ends ?_ ?_
  · rintro t₀ now _ ⟨⟨rfl, hobs₀, -⟩, hends₀⟩
    have hafter₀ := (After.nil (executeOnce F)).bind hends₀
    rw [List.nil_append] at hafter₀
    refine sat_bind ((sat_enabledAccount hw).and (sat_enabledAccount_fails hw)).ends ?_ ?_
    · rintro t₁ start w₁ ⟨⟨⟨hdb₁, hobs₁, hstart⟩, -⟩, hends₁⟩
      have hafter₁ := hafter₀.bind hends₁
      have hobs₁ : observed (t₀ ++ t₁) = [] := by rw [observed_append, hobs₀, hobs₁]; rfl
      cases start with
      | none => exact sat_pure (hskip (by simpa using hobs₁) hdb₁)
      | some enabled =>
        obtain ⟨account, haccount, hid, hbaseline⟩ := hstart _ _ rfl
        obtain ⟨accountId, baseline⟩ := enabled
        obtain rfl : accountId = account.id := hid
        obtain rfl : baseline = account.baselineCompletedAt.isSome := hbaseline
        dsimp only at hafter₁ ⊢
        refine sat_bind (sat_portal F.hasSavedSession_portal).ends ?_ ?_
        · rintro t₂ saved w₂ ⟨⟨hdb₂, hobs₂⟩, hends₂⟩
          have hdb₂ := hdb₂.trans hdb₁
          have hafter₂ := hafter₁.bind hends₂
          have hobs₂ : observed (t₀ ++ t₁ ++ t₂) = [] := by
            rw [observed_append, hobs₁, hobs₂]
            rfl
          cases saved with
          | false => exact sat_pure (hskip (by simpa using hobs₂) hdb₂)
          | true =>
            simp only [Bool.not_true, Bool.false_eq_true, if_false] at hafter₂ ⊢
            refine sat_attempt_bind (sat_portal F.openReader_portal).ends ?_
            rintro t₃ opened w₃ ⟨⟨hdb₃, hobs₃⟩, hends₃⟩
            have hdb₃ := hdb₃.trans hdb₂
            have hafter₃ := hafter₂.attempt_bind hends₃
            have hmade₃ := Calls.after hafter₂ (Calls.bind_left (Calls.self hends₃).attempt _ [])
            rw [List.append_nil] at hmade₃
            have hobs₃ : observed (t₀ ++ t₁ ++ t₂ ++ t₃) = [] := by
              rw [observed_append, hobs₂, hobs₃]
              rfl
            cases opened with
            | error e =>
              have hraise (hlocked : ∀ message, e ≠ .browserProfileLockedError message) :
                  PollEnded F (fun _ ↦ False) (executeOnce F) before (t₀ ++ t₁ ++ t₂ ++ t₃)
                    (.error e) w₃.db :=
                hstop hobs₃ hdb₃ (.opening hmade₃ hlocked)
              cases e with
              | browserProfileLockedError message =>
                exact sat_pure (hskip (by simpa using hobs₃) hdb₃)
              | _ => exact sat_throw (by simpa using hraise (by simp))
            | ok x =>
              dsimp only at hafter₃ ⊢
              refine sat_attempt_bind (sat_portal F.aenter_portal).ends ?_
              rintro t₄ entered w₄ ⟨⟨hdb₄, hobs₄⟩, hends₄⟩
              have hdb₄ := hdb₄.trans hdb₃
              have hafter₄ := hafter₃.attempt_bind hends₄
              have hmade₄ := Calls.after hafter₃ (Calls.bind_left (Calls.self hends₄).attempt _ [])
              rw [List.append_nil] at hmade₄
              have hobs₄ : observed (t₀ ++ t₁ ++ t₂ ++ t₃ ++ t₄) = [] := by
                rw [observed_append, hobs₃, hobs₄]
                rfl
              cases entered with
              | error e =>
                have hfail (hafter : After (executeOnce F) (t₀ ++ t₁ ++ t₂ ++ t₃ ++ t₄)
                    (if e.isException then recordFailedPoll account.id now (shortError e)
                    else throw e)) :
                    Sat world (if e.isException then recordFailedPoll account.id now (shortError e)
                      else throw e) w₄ fun t o w' ↦
                        PollEnded F (fun _ ↦ False) (executeOnce F) before
                          (t₀ ++ t₁ ++ t₂ ++ t₃ ++ t₄ ++ t) o w'.db := by
                  split at hafter <;> rename_i he
                  · rw [if_pos he]
                    exact (sat_recordFailedPoll_ended (F := F) haccount hdb₄).mono
                      fun t o w' h ↦ h.after hafter hobs₄ fun _ h ↦ h.elim
                  · rw [if_neg he]
                    refine sat_throw ?_
                    rw [List.append_nil]
                    exact hstop hobs₄ hdb₄ (.entering hmade₄ (by simpa using he))
                cases e with
                | browserProfileLockedError message =>
                  exact sat_pure (hskip (by simpa using hobs₄) hdb₄)
                | _ => simpa using hfail hafter₄
              | ok reader =>
                refine (sat_pollWith_ended (F := F) haccount hdb₄).mono fun t o w' h ↦ ?_
                have hearlier (call : ReaderCall H) (hcall : call = .entered (.ok reader)) :
                    False ∨ F.Makes (executeOnce F) (t₀ ++ t₁ ++ t₂ ++ t₃ ++ t₄) call := by
                  subst hcall
                  exact .inr hmade₄
                simpa using h.after hafter₄ hobs₄ hearlier
        · rintro t₂ e w₂ ⟨⟨hdb₂, hobs₂⟩, hends₂⟩
          have hmade := Calls.after hafter₁ (Calls.bind_left (.self hends₂) _ [])
          rw [List.append_nil, List.append_assoc] at hmade
          refine hstop ?_ (hdb₂.trans hdb₁) (.savedSession hmade)
          rw [← List.append_assoc, observed_append, hobs₁, hobs₂]
          rfl
    · rintro t₁ e w₁ ⟨⟨⟨hdb₁, hobs₁, -⟩, hfails⟩, -⟩
      refine hstop (by rw [observed_append, hobs₀, hobs₁]; rfl) hdb₁ ?_
      rcases hfails e rfl with ⟨hnone, rfl⟩ | hfails
      · exact .noAccount hnone
      · exact .lookup e (hfails.append_left t₀)
  · rintro t e _ ⟨⟨rfl, -, d, ho⟩, -⟩
    cases ho

/-- **Every run of `execute` that leads a poll**, whatever it is answered. -/
theorem sat_execute_ended (hw : w.db = .idle before) :
    Sat world (execute F) w fun t o w' ↦ (⟨.inflight, .ok none⟩ : Happening) ∈ t →
      PollEnded F (fun _ ↦ False) (execute F) before t o w'.db := by
  refine sat_bind (R := fun t o w' ↦ w = w' ∧ t = [(⟨.inflight, o⟩ : Happening)] ∧
    Ends (ask .inflight) t o ∧ ∃ x, o = .ok x) ?_ ?_ ?_
  · refine sat_perform trivial fun a w' ⟨b, hb⟩ ↦ ?_
    simp only [serve, Prod.mk.injEq] at hb
    obtain ⟨rfl, rfl⟩ := hb
    exact ⟨rfl, rfl, ⟨_, (), [], trivial, rfl, rfl, rfl, rfl⟩, _, rfl⟩
  · rintro _ joined _ ⟨rfl, rfl, hends, -⟩
    have hafter := (After.nil (execute F)).bind hends
    rw [List.nil_append] at hafter
    cases joined with
    | some result =>
      rintro hmem
      simp at hmem
    | none =>
      exact (sat_executeOnce_ended hw).mono fun t o w' h _ ↦
        h.after hafter rfl fun _ h ↦ h.elim
  · rintro t e _ ⟨rfl, -, -, x, ho⟩
    cases ho

end Poll

/-! ## What an ending says -/

/-- The poll is one of its own, not a call that joined another one. -/
def Poll.Leads (p : Poll) : Prop := (⟨.inflight, .ok none⟩ : Happening) ∈ p.trace

/-- A call either leads a poll or joins one, and then does nothing itself. -/
theorem Poll.leads_or_joins {H : Type} {F : PortalReaderFactory H} {p : Poll} (h : p.IsRun F) :
    p.Leads ∨ ∃ result, p.trace = [⟨.inflight, .ok (some result)⟩] ∧ p.outcome = result ∧
      p.after = p.before := by
  obtain ⟨w, w', hw, hexec, hw'⟩ := h
  obtain ⟨a, w₁, t, ⟨b, hb⟩, htrace, hexec⟩ := hexec
  cases hb
  cases hjoined : b.toOption.getD none with
  | none =>
    left
    rw [Poll.Leads, htrace, hjoined]
    exact List.mem_cons_self
  | some result =>
    right
    rw [hjoined] at hexec htrace
    obtain ⟨rfl, ho, rfl⟩ := hexec
    exact ⟨result, htrace, ho, congrArg DbState.committed (hw'.symm.trans hw)⟩

theorem Poll.leads_scripted {H : Type} (F : PortalReaderFactory H) (db : Database) (s : Script) :
    (Poll.scripted F db s).Leads := List.mem_cons_self

theorem Poll.ended {H : Type} {F : PortalReaderFactory H} {p : Poll} (h : p.IsRun F)
    (hlead : p.Leads) : Ended (F.Makes (execute F) p.trace) (fun tx ↦ Fails tx p.trace)
      (observed p.trace) p.before p.outcome p.after := by
  obtain ⟨w, w', hw, hexec, hw'⟩ := h
  obtain ⟨after, hafter, hended⟩ := (sat_execute_ended hw).exec hexec hlead
  rw [hw'] at hafter
  cases hafter
  exact hended.mono (fun _ h ↦ h.resolve_left id) fun _ ↦ id

/-- A queue read that is observed has happened. -/
theorem happened_of_queueRead {t : List Happening} {answer : Except Exn QueueSnapshot}
    (h : .queueRead answer ∈ observed t) :
    (⟨.reader .readAgreementQueue, answer⟩ : Happening) ∈ t := by
  obtain ⟨e, hmem, hobs⟩ := mem_of_mem_observed h
  exact eq_of_observe_queueRead hobs ▸ hmem

/-- A detail read that is observed has happened. -/
theorem happened_of_detailRead {t : List Happening} {ref : PortalDossierRef}
    {answer : Except Exn DossierDetails} (h : .detailRead ref answer ∈ observed t) :
    (⟨.reader (.readDossierDetails ref), answer⟩ : Happening) ∈ t := by
  obtain ⟨⟨r, a⟩, hmem, hobs⟩ := mem_of_mem_observed h
  unfold observe at hobs
  split at hobs <;> cases hobs
  rename_i heq
  rw [heq] at hmem
  exact hmem

theorem abandon_error {e e' : Exn} (h : abandon e = .error e') :
    e' = e ∧ e.isException = false := by
  unfold abandon at h
  split at h
  · cases h
  · rename_i he
    cases h
    exact ⟨rfl, by simpa using he⟩

/-- What a detail phase that was cut short has met: an answer of the reader, or an `Exception` of
the database. -/
theorem DetailsEnd.met {obs : List PollEvent} {n : ℕ} {e : Exn}
    (h : DetailsEnd obs n (.error e)) :
    e.isException = true ∨ ∃ ref, .detailRead ref (.error e) ∈ obs := by
  generalize ho : (Except.error e : Except Exn ℕ) = o at h
  induction h with
  | done n => cases ho
  | saved hsaved hrest ih =>
    refine (ih ho).imp_right fun ⟨ref, hmem⟩ ↦ ⟨ref, ?_⟩
    exact List.mem_cons_of_mem _ (List.mem_cons_of_mem _ hmem)
  | raised hraised =>
    cases ho
    exact .inr ⟨_, List.mem_cons_self⟩
  | unsaved hsaved he =>
    cases ho
    exact .inl he

/-- **What cuts the body of a poll off**: something the reader raised that is no `Exception`. -/
theorem BodyReport.cut {accountId : ℕ} {baseline : Bool} {db db' : Database} {t : List Happening}
    {e : Exn} (h : BodyReport accountId baseline db db' (observed t) (.error e)) :
    e.isException = false ∧ ∃ q : ReaderRequest, (⟨.reader q, .error e⟩ : Happening) ∈ t := by
  generalize hobs : observed t = obs at h
  generalize ho : (Except.error e : Except Exn PollReport) = o at h
  cases h with
  | @unread e' hreport hsame =>
    have hmem : .queueRead (.error e') ∈ observed t := by simp [hobs]
    have habandon : abandon e' = .error e := by
      unfold unreadReport at ho
      split at ho
      · cases ho
      · cases ho
      · exact ho.symm
    obtain ⟨rfl, he⟩ := abandon_error habandon
    exact ⟨he, _, happened_of_queueRead hmem⟩
  | unreconciled hreport he hsame =>
    obtain ⟨rfl, he'⟩ := abandon_error ho.symm
    rw [he] at he'
    cases he'
  | @reconciled answer status snapshot result obs' o' hreport hresult hdetails hgrown =>
    cases o' with
    | ok n => cases ho
    | error e' =>
      obtain ⟨rfl, he⟩ := abandon_error ho.symm
      obtain he' | ⟨ref, hmem⟩ := hdetails.met
      · rw [he] at he'
        cases he'
      · have hmem' : .detailRead ref (.error e) ∈ observed t := by
          rw [hobs]
          exact List.mem_cons_of_mem _ (List.mem_cons_of_mem _ hmem)
        exact ⟨he, _, happened_of_detailRead hmem'⟩

end RmaPortal
