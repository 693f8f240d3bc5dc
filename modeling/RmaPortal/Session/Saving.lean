import RmaPortal.Profile.LoginWindow
import RmaPortal.Session.Files

/-!
# The saved session is the last one captured

A login attempt that has detected a login captures the session from the browser and saves it to a
file.  The file is written next to the old one, under a temporary name, and then replaces it; if
anything goes wrong, the temporary file is removed.  `sat_saveSessionStateFile` says that this is
all or nothing, whatever the file system answers.

`Attempts` are login attempts one after the other.  Each of them is a run of one of the two
programs in which an employee logs in, and it may end in any way; between two of them anything may
happen that leaves the files of the session alone.  `Attempts.standing` says where they stand
afterwards: the file is that of the last state that was captured.

## What is here

* `sat_writeAndReplace`, `sat_saveSessionStateFile` — the file system is `Data.Files`: what has
  been written through a handle may or may not be in the file until the handle is closed, and a
  replacement is one step.
* `sessionDocument`, `Captures` — what `capture_session_state` makes of the browser's answers, and
  what the browser showed when a state was captured from it.
* `detectsLogin`, `completedSave?`, `capturedBy`, `lastCaptured` — the state that an attempt
  captured, if it detected a login and its save was completed, read off what happened.
* `LoginAttempt` and `Attempts` — the two programs, and sequences of their runs.
* `NotSaving`, `Quiet`, `Saved`, `Effect` — what an attempt does to the files: nothing, or one
  state is saved that was captured.
* `HasEffect` — a program has the effect of a login attempt.  It is closed under whatever comes
  before or after the window without saving anything (`HasEffect.next`, `HasEffect.after`), so the
  lock, the browser and the records around it need no proof of their own.
* `hasEffect_loginInWindow`, `hasEffect_withProfileLock`, `hasEffect_program` — from the inside to
  the outside.
* `SessionStanding`, `SessionStanding.step`, `Attempts.standing` — the step lemma, and the run.

Two login attempts never run at the same time, because each of them holds the lock of the profile.
-/

set_option autoImplicit false

open Coroutine Files

namespace RmaPortal

/-! ## Saving is all or nothing -/

section

variable {c : Contents} {s : FileSystem} {path tmpName : String} {state : Json}

/-- The temporary file is written and replaces the old one, or the old one is what it was. -/
theorem sat_writeAndReplace (hne : tmpName ≠ path) (hnew : c tmpName = none)
    (h : Beside c tmpName s) : Sat (system Exn) (writeAndReplace tmpName path state) s
      fun _ o s' ↦ match o with
        | .ok _ => s'.contents =
          Function.update c path (some (JsonEncoder.dumps state).toUTF8)
        | .error _ => Beside c tmpName s' := by
  refine sat_bind (sat_fdopen h) (fun _ _ s₁ ⟨h₁, hempty⟩ ↦ ?_) fun _ _ _ h ↦ h.1
  refine sat_bind (R := fun _ o s' ↦ Beside c tmpName s' ∧ ((∃ x, o = .ok x) → s'.contents =
    Function.update c tmpName (some (JsonEncoder.dumps state).toUTF8))) ?_ ?_ fun _ _ _ h ↦ h.1
  · refine sat_tryFinally (sat_write h₁) fun _ o s₂ ⟨h₂, hwritten⟩ ↦ ?_
    refine (sat_close h₂).mono fun _ o' s₃ ⟨h₃, hclosed⟩ ↦ ?_
    cases o' with
    | error e => exact ⟨h₃, fun ⟨x, hx⟩ ↦ by cases hx⟩
    | ok _ =>
      refine ⟨h₃, fun ⟨x, hx⟩ ↦ ?_⟩
      cases o with
      | error e => cases hx
      | ok _ => rw [hclosed rfl, hwritten rfl, hempty rfl, ByteArray.empty_append]
  · intro _ x s₂ ⟨h₂, hclosed⟩
    refine (sat_replace hne hnew (hclosed ⟨x, rfl⟩)).mono fun _ o s₃ h₃ ↦ ?_
    cases o with
    | ok _ => exact h₃
    | error e =>
      obtain rfl := h₃
      exact h₂

/-- **Saving is all or nothing**, and it leaves no other file behind. -/
theorem sat_saveSessionStateFile (hpath : ¬IsTemporarySession path path) :
    Sat (system Exn) (saveSessionStateFile path state) s fun _ o s' ↦ match o with
      | .ok _ => s'.contents =
        Function.update s.contents path (some (JsonEncoder.dumps state).toUTF8)
      | .error _ => s'.contents = s.contents := by
  refine sat_bind Files.sat_mkdir (fun _ _ s₁ hs₁ ↦ ?_) fun _ _ _ hs ↦ congrArg _ hs
  subst hs₁
  refine sat_bind sat_mkstemp (fun _ tmpName s₁ h ↦ ?_) fun _ _ _ h ↦ h
  obtain ⟨htemporary, hnew, hbeside⟩ := h
  have hne : tmpName ≠ path := by
    intro heq
    rw [heq] at htemporary
    exact hpath htemporary
  refine sat_attempt_bind (sat_writeAndReplace hne hnew hbeside) fun _ o s₂ h₂ ↦ ?_
  cases o with
  | ok _ => exact h₂
  | error e =>
    refine sat_attempt_bind (sat_remove hnew h₂) fun _ o s₃ ⟨ho, h₃⟩ ↦ ?_
    subst ho
    exact h₃

/-- The name of the saved session's file is no temporary one. -/
theorem not_isTemporarySession (dataDir : String) :
    ¬IsTemporarySession (sessionStatePath dataDir) (sessionStatePath dataDir) := by
  rintro ⟨middle, h⟩
  have hlast := congrArg (fun p ↦ p.toList.getLast?) h
  simp only [sessionStatePath, String.toList_append, List.getLast?_append] at hlast
  cases hlast

end

/-! ## What a login attempt captures -/

/-- What `capture_session_state` makes of its answers. -/
def sessionDocument (now : Datetime) (storage items : Json) (origin : String) : Json :=
  .obj
    [("version", .number "1" false), ("captured_at", .str now.isoformat),
      ("cookies", storage.getD "cookies" (.arr [])), ("origins", storage.getD "origins" (.arr [])),
      ("session_storage", .obj [("origin", .str origin), ("items", items)])]

/-- What the browser showed when a state was captured from it. -/
structure Captures (origin : String) (t : List Happening) (storage items state : Json) : Prop where
  storageState : ∃ m, ⟨.portal (.storageState m), .ok storage⟩ ∈ t
  sessionStorage : ∃ m, ⟨.portal (.readSessionStorage m), .ok items⟩ ∈ t
  document : ∃ now, state = sessionDocument now storage items origin

/-- A login was detected. -/
def detectsLogin : Happening → Bool
  | ⟨.portal (.waitForLoginOrClose _), .ok true⟩ => true
  | _ => false

/-- The state whose save was completed. -/
def completedSave? : Happening → Option Json
  | ⟨.portal (.saveStateFile _ state), .ok _⟩ => some state
  | _ => none

/-- The state that an attempt captured, if it detected a login and its save was completed. -/
def capturedBy (t : List Happening) : Option Json :=
  if t.any detectsLogin then (t.filterMap completedSave?).getLast? else none

/-- The state captured by the last attempt that captured one. -/
def lastCaptured (attempts : List (List Happening)) : Option Json :=
  (attempts.filterMap capturedBy).getLast?

/-- The two programs in which an employee logs in. -/
inductive LoginAttempt
  /-- `SessionConnector._run_login` -/
  | connector
  /-- `run_session_setup` -/
  | setup

def LoginAttempt.program (settings : Settings) : LoginAttempt → Prog Unit
  | connector => do
    let _ ← runLogin settings
    pure ()
  | setup => runSessionSetup settings

/-- `Attempts settings depth c ts c'`: login attempts one after the other, with the happenings `ts`,
take the files from `c` to `c'`.  Between two of them anything may happen that leaves the session's
files alone. -/
inductive Attempts (settings : Settings) (depth : ℕ) (c : Contents) :
    List (List Happening) → Contents → Prop
  | start : Attempts settings depth c [] c
  | between {ts : List (List Happening)} {c₁ c₂ : Contents} (h : Attempts settings depth c ts c₁)
      (hsame : SameSession settings.sessionStatePath c₁ c₂) : Attempts settings depth c ts c₂
  | attempt {ts : List (List Happening)} {c₁ c₂ : Contents} {t : List Happening}
      {o : Except Exn Unit} (a : LoginAttempt) (h : Attempts settings depth c ts c₁)
      (hexec : Exec (disk depth settings.sessionStatePath) (a.program settings) c₁ t o c₂) :
      Attempts settings depth c (ts ++ [t]) c₂

/-! ## What a login attempt does to the files -/

section

variable {settings : Settings} {depth : ℕ} {c c₁ c₂ : Contents} {t t' : List Happening}
  {path : String}

theorem SameSession.refl (path : String) (c : Contents) : SameSession path c c := fun _ _ ↦ rfl

theorem SameSession.trans (h : SameSession path c c₁) (h' : SameSession path c₁ c₂) :
    SameSession path c c₂ := fun p hp ↦ (h' p hp).trans (h p hp)

/-- Not to save a session. -/
def NotSaving : Request → Prop
  | .portal (.saveStateFile _ _) => False
  | _ => True

theorem completedSaves_eq_nil (h : ∀ e ∈ t, NotSaving e.1) : t.filterMap completedSave? = [] := by
  refine List.filterMap_eq_nil_iff.mpr fun e he ↦ ?_
  have hnot := h e he
  obtain ⟨r, a⟩ := e
  cases r with
  | portal q => cases q <;> first | rfl | exact hnot.elim
  | _ => rfl

/-- No session is saved, and the session's files stay what they are. -/
structure Quiet (path : String) (c : Contents) (t : List Happening) (c' : Contents) : Prop where
  saves : t.filterMap completedSave? = []
  same : SameSession path c c'

theorem Quiet.append (h : Quiet path c t c₁) (h' : Quiet path c₁ t' c₂) :
    Quiet path c (t ++ t') c₂ :=
  ⟨by rw [List.filterMap_append, h.saves, h'.saves, List.append_nil], h.same.trans h'.same⟩

/-- Only saving changes the session's files. -/
theorem sat_notSaving {α : Type} {p : Prog α} (h : Only NotSaving p) :
    Sat (disk depth path) p c fun t _ c' ↦ Quiet path c t c' := by
  refine (h.sat (I := SameSession path c) (fun _ _ _ _ ↦ trivial) ?_ (.refl path c)).mono
    fun t _ c' ⟨hsame, ht⟩ ↦ ⟨completedSaves_eq_nil ht, hsame⟩
  intro c₁ r a c₂ hr hsame hstep
  cases r with
  | portal q =>
    cases q with
    | saveStateFile p state => exact hr.elim
    | readStateFile p =>
      obtain ⟨-, rfl⟩ := hstep
      exact hsame
    | _ => exact hsame.trans hstep
  | _ => exact hsame.trans hstep

/-- One state is saved, which was captured, and the file holds it. -/
structure Saved (settings : Settings) (c : Contents) (t : List Happening) (state : Json)
    (c' : Contents) : Prop where
  saves : t.filterMap completedSave? = [state]
  captures : ∃ storage items, Captures (originOf settings.baseUrl) t storage items state
  file : c' settings.sessionStatePath = some (JsonEncoder.dumps state).toUTF8
  temporary : ∀ p, IsTemporarySession settings.sessionStatePath p → c' p = c p

theorem Captures.mono {origin : String} {storage items state : Json}
    (h : Captures origin t storage items state) (ht : t ⊆ t') :
    Captures origin t' storage items state :=
  ⟨h.storageState.imp fun _ hm ↦ ht hm, h.sessionStorage.imp fun _ hm ↦ ht hm, h.document⟩

theorem Saved.append {state : Json} (h : Saved settings c t state c₁)
    (h' : Quiet settings.sessionStatePath c₁ t' c₂) : Saved settings c (t ++ t') state c₂ where
  saves := by rw [List.filterMap_append, h.saves, h'.saves, List.append_nil]
  captures := h.captures.imp fun _ ↦ Exists.imp fun _ hc ↦ hc.mono (List.subset_append_left t t')
  file := (h'.same _ (.inl rfl)).trans h.file
  temporary := fun p hp ↦ (h'.same p (.inr hp)).trans (h.temporary p hp)

theorem Quiet.saved {state : Json} (h : Quiet settings.sessionStatePath c t c₁)
    (h' : Saved settings c₁ t' state c₂) : Saved settings c (t ++ t') state c₂ where
  saves := by rw [List.filterMap_append, h.saves, h'.saves, List.nil_append]
  captures := h'.captures.imp fun _ ↦ Exists.imp fun _ hc ↦ hc.mono (List.subset_append_right t t')
  file := h'.file
  temporary := fun p hp ↦ (h'.temporary p hp).trans (h.same p (.inr hp))

/-- **What a login attempt does**: it saves nothing, or it saves what it has captured after a login
was detected. -/
def Effect (settings : Settings) (c : Contents) (t : List Happening) (c' : Contents) : Prop :=
  Quiet settings.sessionStatePath c t c' ∨
    t.any detectsLogin = true ∧ ∃ state, Saved settings c t state c'

theorem Effect.append (h : Effect settings c t c₁)
    (h' : Quiet settings.sessionStatePath c₁ t' c₂) : Effect settings c (t ++ t') c₂ := by
  refine h.imp (fun h ↦ h.append h') fun ⟨hlogin, state, h⟩ ↦ ⟨?_, state, h.append h'⟩
  rw [List.any_append, hlogin, Bool.true_or]

theorem Quiet.effect (h : Quiet settings.sessionStatePath c t c₁)
    (h' : Effect settings c₁ t' c₂) : Effect settings c (t ++ t') c₂ := by
  refine h'.imp h.append fun ⟨hlogin, state, h'⟩ ↦ ⟨?_, state, h.saved h'⟩
  rw [List.any_append, hlogin, Bool.or_true]

end

/-! ## The parts of a login attempt -/

section

variable (settings : Settings) (depth : ℕ)

/-- The program has the effect of a login attempt. -/
def HasEffect {α : Type} (p : Prog α) : Prop :=
  ∀ c, Sat (disk depth settings.sessionStatePath) p c fun t _ c' ↦ Effect settings c t c'

variable {settings depth} {α β : Type} {c : Contents} {m : ManagerId}

/-- … in its first part, … -/
theorem HasEffect.next {p : Prog α} {f : Except Exn α → Prog β} (hp : HasEffect settings depth p)
    (hf : ∀ o, Only NotSaving (f o)) : HasEffect settings depth (p.next f) :=
  fun c ↦ sat_next (hp c) fun _ o _ h ↦ (sat_notSaving (hf o)).mono fun _ _ _ hquiet ↦
    h.append hquiet

theorem HasEffect.bind {p : Prog α} {f : α → Prog β} (hp : HasEffect settings depth p)
    (hf : ∀ x, Only NotSaving (f x)) : HasEffect settings depth (p >>= f) :=
  hp.next fun
    | .ok x => hf x
    | .error _ => trivial

theorem HasEffect.attempt_bind {p : Prog α} {f : Except Exn α → Prog β}
    (hp : HasEffect settings depth p) (hf : ∀ o, Only NotSaving (f o)) :
    HasEffect settings depth (p.attempt >>= f) :=
  HasEffect.bind (hp.next (f := fun o ↦ .done (.ok o)) fun _ ↦ trivial) hf

/-- … or in its second part. -/
theorem HasEffect.after {p : Prog α} {f : α → Prog β} (hp : Only NotSaving p)
    (hf : ∀ x, HasEffect settings depth (f x)) : HasEffect settings depth (p >>= f) :=
  fun _ ↦ sat_bind (sat_notSaving hp) (fun _ x c₁ hquiet ↦ (hf x c₁).mono fun _ _ _ h ↦
    hquiet.effect h) fun _ _ _ hquiet ↦ .inl hquiet

/-- What was captured when the capture returned. -/
theorem captures_of_ends {origin : String} {t : List Happening} {state : Json}
    (h : Ends (captureSessionState m origin) t (.ok state)) :
    ∃ storage items, Captures origin t storage items state := by
  rcases ends_bind_iff.mp h with ⟨e, -, ho⟩ | ⟨t₁, storage, t₂, rfl, hstorage, h⟩
  · cases ho
  rcases ends_bind_iff.mp h with ⟨e, -, ho⟩ | ⟨t₃, items, t₄, rfl, hitems, h⟩
  · cases ho
  rcases ends_bind_iff.mp h with ⟨e, -, ho⟩ | ⟨t₅, now, t₆, rfl, -, h⟩
  · cases ho
  rcases ends_bind_iff.mp h with ⟨e, -, ho⟩ | ⟨t₇, cookies, t₈, rfl, hcookies, h⟩
  · cases ho
  rcases ends_bind_iff.mp h with ⟨e, -, ho⟩ | ⟨t₉, origins, t₀, rfl, horigins, hdone⟩
  · cases ho
  obtain rfl := ends_perform_iff.mp hstorage
  obtain rfl := ends_perform_iff.mp hitems
  have hcookies := getField_eq_ok (ends_done_iff.mp hcookies).2.symm
  have horigins := getField_eq_ok (ends_done_iff.mp horigins).2.symm
  have hstate := Except.ok.inj (ends_done_iff.mp hdone).2
  refine ⟨storage, items, ⟨m, by simp⟩, ⟨m, by simp⟩, now, ?_⟩
  rw [hstate, hcookies, horigins]
  rfl

theorem only_captureSessionState {origin : String} :
    Only NotSaving (captureSessionState m origin) :=
  only_bind (only_perform trivial) fun _ ↦ only_bind (only_perform trivial) fun _ ↦
    only_bind (only_perform trivial) fun _ ↦ only_bind trivial fun _ ↦ only_bind trivial fun _ ↦
      only_pure _

/-- To save is all or nothing. -/
theorem sat_saveSessionState {path : String} {state : Json}
    (hpath : ¬IsTemporarySession path path) :
    Sat (disk depth path) (saveSessionState path state) c fun t o c' ↦
      t = [⟨.portal (.saveStateFile path state), o⟩] ∧ match o with
        | .ok _ => c' = Function.update c path (some (JsonEncoder.dumps state).toUTF8)
        | .error _ => c' = c :=
  sat_perform trivial fun _ _ ⟨_, _, _, hexec⟩ ↦ ⟨rfl, (sat_saveSessionStateFile hpath).exec hexec⟩

/-- What was captured is saved, if anything is. -/
theorem sat_captureAndSave
    (hpath : ¬IsTemporarySession settings.sessionStatePath settings.sessionStatePath) :
    Sat (disk depth settings.sessionStatePath) (captureAndSaveSessionState settings m) c
      fun t _ c' ↦
        Quiet settings.sessionStatePath c t c' ∨ ∃ state, Saved settings c t state c' := by
  refine sat_attempt_bind (R := fun t _ c' ↦ Quiet settings.sessionStatePath c t c' ∨
    ∃ state, Saved settings c t state c') ?_ fun t o c₁ h ↦ ?_
  · refine sat_bind (sat_notSaving only_captureSessionState).ends
      (fun t state c₁ ⟨hquiet, hends⟩ ↦ ?_) fun _ _ _ h ↦ .inl h.1
    refine sat_bind (sat_saveSessionState hpath) ?_ ?_
    · rintro _ u c₂ ⟨rfl, rfl⟩
      obtain ⟨storage, items, hcaptures⟩ := captures_of_ends hends
      refine sat_pure (.inr ⟨state, ?_⟩)
      exact
        { saves := by rw [List.filterMap_append, hquiet.saves]; rfl
          captures := ⟨storage, items, hcaptures.mono (List.subset_append_left t _)⟩
          file := Function.update_self ..
          temporary := fun p hp ↦ by
            have hne : p ≠ settings.sessionStatePath := by
              rintro rfl
              exact hpath hp
            rw [Function.update_of_ne hne]
            exact hquiet.same p (.inr hp) }
    · rintro _ e c₂ ⟨rfl, rfl⟩
      exact .inl ⟨by rw [List.filterMap_append, hquiet.saves]; rfl, hquiet.same⟩
  · have hrest : ∀ {p : Prog Unit}, Only NotSaving p →
        Sat (disk depth settings.sessionStatePath) p c₁ fun t' _ c₂ ↦
          Quiet settings.sessionStatePath c (t ++ t') c₂ ∨
            ∃ state, Saved settings c (t ++ t') state c₂ := fun hp ↦
      (sat_notSaving hp).mono fun t' _ c₂ hquiet ↦
        h.imp (fun h ↦ h.append hquiet) (Exists.imp fun state h ↦ h.append hquiet)
    cases o with
    | ok state => exact hrest (p := outcome (countCaptured state)) trivial
    | error e => exact hrest (only_ifException e)

/-- The window saves what it has captured after a login was detected. -/
theorem hasEffect_loginInWindow
    (hpath : ¬IsTemporarySession settings.sessionStatePath settings.sessionStatePath) :
    HasEffect settings depth (loginInWindow settings m) := by
  refine HasEffect.after (CamoufoxReader.only_firstPage trivial trivial) fun _ ↦
    HasEffect.after (only_perform trivial) fun _ c ↦ ?_
  refine sat_bind (sat_notSaving (p := portal (.waitForLoginOrClose m)) (only_perform trivial)).ends
    (fun t loggedIn c₁ ⟨hquiet, hends⟩ ↦ ?_) fun _ _ _ h ↦ .inl h.1
  obtain rfl := ends_perform_iff.mp hends
  cases loggedIn with
  | false => exact sat_pure (.inl (by rw [List.append_nil]; exact hquiet))
  | true =>
    refine (sat_captureAndSave hpath).mono fun t _ c₂ h ↦ ?_
    exact h.imp (fun h ↦ hquiet.append h) fun ⟨state, h⟩ ↦ ⟨rfl, state, hquiet.saved h⟩

theorem hasEffect_launchVisibleBrowserAndWait {unconfirmed : Prog Unit}
    (hpath : ¬IsTemporarySession settings.sessionStatePath settings.sessionStatePath)
    (h : Only NotSaving unconfirmed) :
    HasEffect settings depth (launchVisibleBrowserAndWait settings unconfirmed) := by
  refine HasEffect.after (only_perform trivial) fun _ ↦ HasEffect.after (only_perform trivial)
    fun m ↦ (hasEffect_loginInWindow hpath).attempt_bind fun body ↦ ?_
  refine only_bind (only_attempt (only_next (only_perform trivial) fun o ↦ ?_)) fun closed ↦ ?_
  · split <;> trivial
  · cases closed with
    | ok _ => trivial
    | error e =>
      dsimp only
      split
      · exact only_bind h fun _ ↦ by cases body <;> trivial
      · trivial

/-- The lock around the window has nothing to do with the saved session. -/
theorem hasEffect_withProfileLock {body : FileLock → Prog α}
    (h : ∀ lock, HasEffect settings depth (body lock)) :
    HasEffect settings depth (withProfileLock settings body) := by
  refine HasEffect.after (CamoufoxReader.only_acquireProfileLock trivial trivial trivial
    (fun _ ↦ trivial) fun _ ↦ trivial) fun lock ↦ (h lock).attempt_bind fun result ↦ ?_
  exact only_bind (CamoufoxReader.only_releaseProfileLock trivial trivial trivial) fun _ ↦ trivial

theorem only_markUnconfirmed (lock : FileLock) (reason : String) :
    Only NotSaving (markProfileTeardownUnconfirmed lock reason) :=
  only_bind (only_perform trivial) fun _ ↦ only_perform trivial

theorem only_markTeardownFailed (message : String) :
    Only NotSaving (SyncAgreementQueue.markLoginTeardownFailed message) :=
  (only_markLoginTeardownFailed message).mono fun r hr ↦ by
    cases r with
    | portal q => exact hr.elim
    | _ => trivial

/-- **A login attempt has the effect of one**, whichever program it is. -/
theorem hasEffect_program (a : LoginAttempt)
    (hpath : ¬IsTemporarySession settings.sessionStatePath settings.sessionStatePath) :
    HasEffect settings depth (a.program settings) := by
  cases a with
  | connector =>
    refine HasEffect.bind ?_ fun _ ↦ only_pure _
    refine (hasEffect_withProfileLock fun lock ↦ ?_).attempt_bind fun o ↦ ?_
    · refine (hasEffect_launchVisibleBrowserAndWait hpath
        (only_markUnconfirmed lock _)).attempt_bind fun o ↦ ?_
      split
      · exact only_pure _
      · exact only_bind (only_markTeardownFailed _) fun _ ↦ only_pure _
      · exact only_throw _
    · cases o with
      | ok verify => exact only_pure _
      | error e =>
        dsimp only
        split
        · exact only_pure _
        · exact only_throw _
  | setup =>
    refine HasEffect.after (only_perform trivial) fun _ ↦ HasEffect.after (only_perform trivial)
      fun _ ↦ HasEffect.after (only_perform trivial) fun _ ↦ ?_
    refine (hasEffect_withProfileLock fun lock ↦ ?_).attempt_bind fun o ↦ ?_
    · refine (hasEffect_launchVisibleBrowserAndWait hpath
        (only_markUnconfirmed lock _)).attempt_bind fun o ↦ ?_
      split <;> trivial
    · split <;> trivial

end

/-! ## Sequences of login attempts -/

section

variable {settings : Settings} {depth : ℕ} {c c' : Contents} {t : List Happening}
  {ts : List (List Happening)}

theorem capturedBy_of_quiet (h : t.filterMap completedSave? = []) : capturedBy t = none := by
  rw [capturedBy, h]
  split <;> rfl

theorem capturedBy_of_saved {state : Json} (hlogin : t.any detectsLogin = true)
    (h : t.filterMap completedSave? = [state]) : capturedBy t = some state := by
  rw [capturedBy, if_pos hlogin, h, List.getLast?_singleton]

theorem lastCaptured_append (ts : List (List Happening)) (t : List Happening) :
    lastCaptured (ts ++ [t]) = (capturedBy t).or (lastCaptured ts) := by
  rw [lastCaptured, List.filterMap_append, List.getLast?_append]
  refine congrArg (Option.or · _) ?_
  cases h : capturedBy t with
  | none => simp [h]
  | some state => simp [h]

/-- Where the login attempts stand: the file is that of the last state captured. -/
structure SessionStanding (settings : Settings) (ts : List (List Happening)) (c : Contents) :
    Prop where
  temporary : ∀ p, IsTemporarySession settings.sessionStatePath p → c p = none
  file : c settings.sessionStatePath =
    (lastCaptured ts).map fun state ↦ (JsonEncoder.dumps state).toUTF8
  captures : ∀ t ∈ ts, ∀ state, capturedBy t = some state →
    ∃ storage items, Captures (originOf settings.baseUrl) t storage items state

theorem SessionStanding.step (h : SessionStanding settings ts c)
    (heffect : Effect settings c t c') : SessionStanding settings (ts ++ [t]) c' := by
  rcases heffect with hquiet | ⟨hlogin, state, hsaved⟩
  · have hnone := capturedBy_of_quiet hquiet.saves
    refine ⟨fun p hp ↦ (hquiet.same p (.inr hp)).trans (h.temporary p hp), ?_, ?_⟩
    · rw [lastCaptured_append, hnone, Option.none_or, ← h.file]
      exact hquiet.same _ (.inl rfl)
    · intro t' ht' state hstate
      rcases List.mem_append.mp ht' with ht' | ht'
      · exact h.captures t' ht' state hstate
      · rw [List.mem_singleton.mp ht', hnone] at hstate
        cases hstate
  · have hsome := capturedBy_of_saved hlogin hsaved.saves
    refine ⟨fun p hp ↦ (hsaved.temporary p hp).trans (h.temporary p hp), ?_, ?_⟩
    · rw [lastCaptured_append, hsome, Option.some_or]
      exact hsaved.file
    · intro t' ht' state' hstate
      rcases List.mem_append.mp ht' with ht' | ht'
      · exact h.captures t' ht' state' hstate
      · obtain rfl := List.mem_singleton.mp ht'
        obtain rfl := Option.some_inj.mp (hsome.symm.trans hstate)
        exact hsaved.captures

/-- **After any sequence of login attempts** the file is that of the last state captured. -/
theorem Attempts.standing (h : Attempts settings depth c ts c')
    (hpath : ¬IsTemporarySession settings.sessionStatePath settings.sessionStatePath)
    (hstart : ∀ p, IsSessionFile settings.sessionStatePath p → c p = none) :
    SessionStanding settings ts c' := by
  induction h with
  | start => exact ⟨fun p hp ↦ hstart p (.inr hp), hstart _ (.inl rfl), by simp⟩
  | between _ hsame ih =>
    exact
      { temporary := fun p hp ↦ (hsame p (.inr hp)).trans (ih.temporary p hp)
        file := (hsame _ (.inl rfl)).trans ih.file
        captures := ih.captures }
  | attempt a _ hexec ih => exact ih.step ((hasEffect_program a hpath _).exec hexec)

end

end RmaPortal
