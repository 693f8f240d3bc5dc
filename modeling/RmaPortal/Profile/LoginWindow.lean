import RmaPortal.Profile.Locking
import RmaPortal.Synchronization.Transactions

/-!
# Closing the login window

The login window closes its browser within a bound, and when the close is not confirmed it marks
the profile before the lock would be given back.  The clause that does so catches an `Exception`;
the cancellation of the task while the close is awaited is none, and then nothing is marked and
the lock is released although the browser may still be running.

`loginWindow_safe_iff` says that this is the only way: a run of the login, or of the command-line
tool, is safe if and only if the close was not ended by a cancellation from outside.

## What is here

* `WindowSafe` — if a run has acquired the lock of a profile, started a browser on it, and not
  seen its close end normally, then it has marked the profile, and the lock is still held.
* `Exn.reported`, `CloseReported` — no close was ended by anything but an `Exception` or its own
  timeout, which `wait_for` turns into a `TimeoutError`.  The condition is about what the
  surroundings have answered.
* `sat_loginInWindow` — while the window is open nothing happens to the lock.
* `Marked`, `CloseEnds`, `sat_closeWindow` — the three ways in which the close of the window ends:
  it is confirmed, it is not and the profile is marked, or it is cut off.
* `WindowEnds`, `LoginEnds`, `NoBrowser` — the locked part of a login.  A run in which no browser
  has started is safe without further ado (`safeIff_of_noBrowser`).
* `sat_recording` — recording that the window could not be closed changes nothing about the end of
  a login.
* `SafeIff` and `sat_withProfileLock` — the lock around it.
* `sat_runLogin`, `sat_runSessionSetup`, `loginWindow_safe_iff` — the two callers.
* `not_loginWindow_safe` and `loginWindow_safe_timeout` — a task that is cancelled while the close
  is awaited, and a close that takes too long.

The timeout is a parameter of the code (`teardown_timeout_seconds`), and nothing here depends on
it but the text of the error.
-/

set_option autoImplicit false

open Coroutine

namespace RmaPortal

/-- If a run has acquired the lock of a profile, started a browser on it, and not seen its close end
normally, then it has marked the profile, and the lock is still held. -/
def WindowSafe (t : List Happening) (w' : World) : Prop :=
  ∀ lock m dir, ⟨.portal (.acquire lock), .ok ()⟩ ∈ t → ⟨.portal (.managerEnter dir), .ok m⟩ ∈ t →
    ⟨.portal (.managerExit m), .ok ()⟩ ∉ t →
      (∃ entry : UnconfirmedTeardown, entry.lockPath = lock.path ∧ entry.lock = lock ∧
        ⟨.portal (.unconfirmedSet entry), .ok ()⟩ ∈ t) ∧ lock ∈ w'.portal.held

/-- The exception is an `Exception` once `wait_for` has turned its own timeout into one. -/
def Exn.reported (e : Exn) : Bool := e.isException || e matches .cancelledError true

/-- No close of a browser was ended by anything but an `Exception` or its own timeout. -/
def CloseReported (t : List Happening) : Prop :=
  ∀ m e, ⟨.portal (.managerExit m), .error e⟩ ∈ t → e.reported = true

/-- Whether a happening is not the end of a close by anything else. -/
def closeReported : Happening → Bool
  | ⟨.portal (.managerExit _), .error e⟩ => e.reported
  | _ => true

instance (t : List Happening) : Decidable (CloseReported t) :=
  decidable_of_iff (∀ h ∈ t, closeReported h = true) <| by
    refine ⟨fun hall m e hmem ↦ hall _ hmem, fun hreported h hmem ↦ ?_⟩
    rcases h with ⟨r, a⟩
    unfold closeReported
    split
    · rename_i m e heq
      exact hreported m e (heq ▸ hmem)
    · rfl

/-! ## The window itself -/

/-- The requests that the window makes while it is open. -/
def Request.IsBrowsing : Request → Prop
  | .portal (.contextPages _) => True
  | .portal (.newPage _) => True
  | .portal (.goto _ _) => True
  | .portal (.waitForLoginOrClose _) => True
  | .portal (.storageState _) => True
  | .portal (.readSessionStorage _) => True
  | .portal (.saveStateFile _ _) => True
  | .now => True
  | _ => False

section

variable {settings : Settings} {w : World} {m : ManagerId}

theorem only_loginInWindow : Only Request.IsBrowsing (loginInWindow settings m) := by
  have hpage : Only Request.IsBrowsing (CamoufoxReader.firstPage m) :=
    CamoufoxReader.only_firstPage trivial trivial
  have hcapture : Only Request.IsBrowsing (captureSessionState m (originOf settings.baseUrl)) :=
    only_bind (only_perform trivial) fun _ ↦ only_bind (only_perform trivial) fun _ ↦
      only_bind (only_perform trivial) fun _ ↦ only_bind trivial fun _ ↦ only_bind trivial fun _ ↦
        only_pure _
  refine only_bind hpage fun _ ↦ only_bind (only_perform trivial) fun _ ↦
    only_bind (only_perform trivial) fun loggedIn ↦ ?_
  cases loggedIn
  · exact only_pure _
  · refine only_bind (only_attempt (only_bind hcapture fun _ ↦
      only_bind (only_perform trivial) fun _ ↦ only_pure _)) fun captured ↦ ?_
    cases captured with
    | ok state => trivial
    | error e =>
      dsimp only
      split <;> trivial

/-- While the window is open nothing happens to the lock. -/
theorem sat_loginInWindow :
    Sat world (loginInWindow settings m) w fun t _ w' ↦
      w' = w ∧ ∀ e ∈ t, e.1.IsBrowsing := by
  refine only_loginInWindow.sat (I := fun w' ↦ w' = w) (fun _ _ _ _ ↦ trivial) ?_ rfl
  rintro _ r a w₂ hr rfl ⟨b, hb⟩
  cases r with
  | portal q => cases q <;> first | exact hr.elim | (cases hb; rfl)
  | now => cases hb; rfl
  | _ => exact hr.elim

/-- The run has entered the profile into the registry, and its lock is held. -/
def Marked (lock : FileLock) (t : List Happening) (w' : World) : Prop :=
  ∃ entry : UnconfirmedTeardown, entry.lockPath = lock.path ∧ entry.lock = lock ∧
    ⟨.portal (.unconfirmedSet entry), .ok ()⟩ ∈ t ∧
    w'.portal.unconfirmed.find? lock.path = some entry ∧ lock ∈ w'.portal.held

theorem Marked.append_left {lock : FileLock} {t₁ t₂ : List Happening} {w' : World}
    (h : Marked lock t₂ w') : Marked lock (t₁ ++ t₂) w' := by
  obtain ⟨entry, hpath, hlock, hmem, hfind, hheld⟩ := h
  exact ⟨entry, hpath, hlock, List.mem_append_right t₁ hmem, hfind, hheld⟩

/-- How the close of the window ends for a lock that is held. -/
structure CloseEnds (lock : FileLock) (m : ManagerId) (w : World) (t : List Happening)
    (w' : World) (a : Except Exn Unit) : Prop where
  /-- The browser is asked once to close, and `a` is the answer. -/
  exit : ∀ m' (a' : Except Exn Unit), ⟨.portal (.managerExit m'), a'⟩ ∈ t ↔ m' = m ∧ a' = a
  acquire : ∀ l a, ⟨.portal (.acquire l), a⟩ ∉ t
  enter : ∀ dir a, ⟨.portal (.managerEnter dir), a⟩ ∉ t
  marked : ∀ e, a = .error e → e.reported = true → Marked lock t w'
  unmarked : ∀ e, a = .error e → e.reported = false →
    w'.portal.unconfirmed = w.portal.unconfirmed

/-- What `wait_for` makes of the outcome of what it waits for. -/
def waited {α : Type} : Except Exn α → Except Exn α
  | .error (.cancelledError true) => .error (.timeoutError "")
  | o => o

theorem sat_waitFor {α : Type} {c : Prog α} {Q : List Happening → Except Exn α → World → Prop}
    (h : Sat world c w fun t o w' ↦ Q t (waited o) w') : Sat world (waitFor c) w Q := by
  refine sat_next h fun t o w' hQ ↦ ?_
  have hnil : t ++ [] = t := List.append_nil t
  split
  · show Q (t ++ []) _ w'
    rw [hnil]
    exact hQ
  · rename_i hnot
    have hwaited : waited o = o := by
      unfold waited
      split
      · exact (hnot rfl).elim
      · rfl
    show Q (t ++ []) o w'
    rw [hnil, ← hwaited]
    exact hQ

theorem waited_error (e : Exn) :
    ∃ e', (waited (.error e) : Except Exn Unit) = .error e' ∧ e'.isException = e.reported := by
  cases e with
  | cancelledError byTimeout => cases byTimeout <;> exact ⟨_, rfl, rfl⟩
  | _ => exact ⟨_, rfl, rfl⟩

theorem sat_closeWindow {lock : FileLock} {reason : String} {seconds : ℕ} {body : Except Exn Unit}
    (hheld : lock ∈ w.portal.held) :
    Sat world (closeWindow seconds m (markProfileTeardownUnconfirmed lock reason) body) w
      fun t _ w' ↦
      ∃ a, CloseEnds lock m w t w' a := by
  refine sat_attempt_bind (R := fun t o w₁ ↦ ∃ a : Except Exn Unit, o = waited a ∧
    t = [⟨.portal (.managerExit m), a⟩] ∧ w₁.portal.held = w.portal.held ∧
    w₁.portal.unconfirmed = w.portal.unconfirmed)
      (sat_waitFor (sat_ask_portal fun b a s hs ↦ ?_)) ?_
  · cases b <;> cases hs <;> exact ⟨_, rfl, rfl, rfl, rfl⟩
  rintro _ o w₁ ⟨a, rfl, rfl, hheld₁, hunconfirmed₁⟩
  cases a with
  | ok u => exact ⟨.ok (), by simp, by simp, by simp, by simp, by simp⟩
  | error e =>
    obtain ⟨e', he', hreported⟩ := waited_error e
    rw [he']
    dsimp only
    split
    · rename_i hexc
      rw [hreported] at hexc
      refine sat_bind sat_markProfileTeardownUnconfirmed ?_ ?_
      · rintro _ u w₂ ⟨-, -, -, ⟨since, hfind, rfl⟩, hkept⟩
        have hmarked : Marked lock [⟨.now, .ok since⟩,
            ⟨.portal (.unconfirmedSet ⟨lock.path, lock, reason, since⟩), .ok ()⟩] w₂ :=
          ⟨_, rfl, rfl, by simp, hfind, hkept (hheld₁ ▸ hheld)⟩
        have hends : CloseEnds lock m w ([⟨.portal (.managerExit m), .error e⟩] ++
            ([⟨.now, .ok since⟩,
              ⟨.portal (.unconfirmedSet ⟨lock.path, lock, reason, since⟩), .ok ()⟩]
              ++ [])) w₂ (.error e) := by
          refine ⟨by simp, by simp, by simp, fun _ _ _ ↦ ?_, fun e₀ he₀ hfalse ↦ ?_⟩
          · rw [List.append_nil]
            exact hmarked.append_left
          · cases he₀
            rw [hexc] at hfalse
            cases hfalse
        cases body <;> exact sat_throw ⟨_, hends⟩
      · rintro _ e'' w₂ ⟨ho, -⟩
        cases ho
    · rename_i hexc
      rw [hreported] at hexc
      refine sat_throw ⟨.error e, by simp, by simp, by simp, fun e₀ he₀ htrue ↦ ?_,
        fun _ _ _ ↦ hunconfirmed₁⟩
      cases he₀
      exact (hexc htrue).elim

/-- How the locked part of a login ends, once a browser has started. -/
structure WindowEnds (lock : FileLock) (t : List Happening) (w' : World) (m : ManagerId)
    (a : Except Exn Unit) : Prop where
  entered : ∃ dir, ⟨.portal (.managerEnter dir), .ok m⟩ ∈ t
  enter : ∀ m' dir, ⟨.portal (.managerEnter dir), .ok m'⟩ ∈ t → m' = m
  exit : ∀ m' (a' : Except Exn Unit), ⟨.portal (.managerExit m'), a'⟩ ∈ t ↔ m' = m ∧ a' = a
  marked : ∀ e, a = .error e → e.reported = true → Marked lock t w'
  unmarked : ∀ e, a = .error e → e.reported = false →
    w'.portal.unconfirmed.find? lock.path = none

/-- The run has not started a browser, nor asked one to close. -/
def NoBrowser (t : List Happening) : Prop :=
  (∀ m dir, ⟨.portal (.managerEnter dir), .ok m⟩ ∉ t) ∧
    ∀ m (a : Except Exn Unit), ⟨.portal (.managerExit m), a⟩ ∉ t

/-- How the locked part of a login ends. -/
def LoginEnds (lock : FileLock) (t : List Happening) (w' : World) : Prop :=
  (∀ l a, ⟨.portal (.acquire l), a⟩ ∉ t) ∧ (NoBrowser t ∨ ∃ m a, WindowEnds lock t w' m a)

theorem sat_launchVisibleBrowserAndWait {lock : FileLock} {reason : String}
    (hheld : lock ∈ w.portal.held) (hfree : w.portal.unconfirmed.find? lock.path = none) :
    Sat world (launchVisibleBrowserAndWait settings (markProfileTeardownUnconfirmed lock reason)) w
      fun t _ w' ↦ LoginEnds lock t w' := by
  refine sat_bind (R := fun t o w' ↦ w = w' ∧ t = [⟨.portal (.mkdir settings.profileDir), o⟩])
    (sat_ask_only (fun _ _ ↦ rfl) fun a ↦ ⟨rfl, rfl⟩) ?_ ?_
  swap
  · rintro _ e _ ⟨rfl, rfl⟩
    exact ⟨by simp, Or.inl ⟨by simp, by simp⟩⟩
  rintro _ u _ ⟨rfl, rfl⟩
  refine sat_bind (R := fun t o w' ↦ t = [⟨.portal (.managerEnter settings.profileDir), o⟩] ∧
    w'.portal.held = w.portal.held ∧ w'.portal.unconfirmed = w.portal.unconfirmed)
    (sat_ask_portal fun b a s hs ↦ by cases b <;> cases hs <;> exact ⟨rfl, rfl, rfl⟩) ?_ ?_
  swap
  · rintro _ e w₁ ⟨rfl, -, -⟩
    exact ⟨by simp, Or.inl ⟨by simp, by simp⟩⟩
  rintro _ m w₁ ⟨rfl, hheld₁, hunconfirmed₁⟩
  refine sat_attempt_bind sat_loginInWindow ?_
  rintro t₁ body _ ⟨rfl, ht₁⟩
  refine (sat_closeWindow (hheld₁ ▸ hheld)).mono ?_
  rintro t₂ o w' ⟨a, hclose⟩
  have hnoAcquire : ∀ l a, ⟨.portal (.acquire l), a⟩ ∉ t₁ := fun l a hmem ↦ ht₁ _ hmem
  have hnoEnter : ∀ dir a, ⟨.portal (.managerEnter dir), a⟩ ∉ t₁ := fun dir a hmem ↦ ht₁ _ hmem
  have hnoExit : ∀ m' (a' : Except Exn Unit), ⟨.portal (.managerExit m'), a'⟩ ∉ t₁ :=
    fun m' a' hmem ↦ ht₁ _ hmem
  refine ⟨fun l a ↦ by simp [hnoAcquire, hclose.acquire], Or.inr ⟨m, a, ?_⟩⟩
  exact
    { entered := ⟨settings.profileDir, by simp⟩
      enter := fun m' dir hmem ↦ by
        have hboth : dir = settings.profileDir ∧ m' = m := by
          simpa [hnoEnter, hclose.enter] using hmem
        exact hboth.2
      exit := fun m' a' ↦ by simp [hnoExit, hclose.exit]
      marked := fun e he hreported ↦
        (((hclose.marked e he hreported).append_left).append_left).append_left
      unmarked := fun e he hreported ↦ by
        rw [hclose.unmarked e he hreported, hunconfirmed₁, hfree] }

/-! ## Recording that the window could not be closed -/

/-- The requests that recording something makes. -/
def Request.IsRecording : Request → Prop
  | .uow _ => True
  | .now => True
  | _ => False

theorem only_markLoginTeardownFailed (message : String) :
    Only Request.IsRecording (SyncAgreementQueue.markLoginTeardownFailed message) := by
  refine only_bind (only_withUow trivial trivial (only_perform trivial)) fun account ↦ ?_
  cases account with
  | none => exact only_pure _
  | some account =>
    exact only_bind (only_perform trivial) fun now ↦
      only_transaction trivial trivial trivial (only_perform trivial)

theorem sat_recording {α : Type} {c : Prog α} (hc : Only Request.IsRecording c) :
    Sat world c w fun t _ w' ↦ w'.portal = w.portal ∧ ∀ e ∈ t, e.1.IsRecording := by
  refine hc.sat (I := fun w' : World ↦ w'.portal = w.portal) (fun _ _ _ _ ↦ trivial) ?_ rfl
  rintro w₁ r a w₂ hr hportal ⟨b, hb⟩
  cases r with
  | uow q => cases hb; exact hportal
  | now => cases hb; exact hportal
  | _ => exact hr.elim

theorem Marked.append_right {lock : FileLock} {t₁ t₂ : List Happening} {w₁ w₂ : World}
    (h : Marked lock t₁ w₁) (hsame : w₂.portal = w₁.portal) : Marked lock (t₁ ++ t₂) w₂ := by
  obtain ⟨entry, hpath, hlock, hmem, hfind, hheld⟩ := h
  exact ⟨entry, hpath, hlock, List.mem_append_left t₂ hmem, hsame ▸ hfind, hsame ▸ hheld⟩

/-- What is recorded afterwards changes nothing about the end of a login. -/
theorem LoginEnds.append {lock : FileLock} {t₁ t₂ : List Happening} {w₁ w₂ : World}
    (h : LoginEnds lock t₁ w₁) (ht : ∀ e ∈ t₂, e.1.IsRecording) (hsame : w₂.portal = w₁.portal) :
    LoginEnds lock (t₁ ++ t₂) w₂ := by
  have hacquire : ∀ l a, ⟨.portal (.acquire l), a⟩ ∉ t₂ := fun l a hmem ↦ ht _ hmem
  have henter : ∀ dir a, ⟨.portal (.managerEnter dir), a⟩ ∉ t₂ := fun dir a hmem ↦ ht _ hmem
  have hexit : ∀ m (a : Except Exn Unit), ⟨.portal (.managerExit m), a⟩ ∉ t₂ :=
    fun m a hmem ↦ ht _ hmem
  refine ⟨fun l a ↦ by simp [h.1, hacquire], ?_⟩
  rcases h.2 with hno | ⟨m, a, hwin⟩
  · exact Or.inl ⟨fun m dir ↦ by simp [hno.1, henter], fun m a ↦ by simp [hno.2, hexit]⟩
  · refine Or.inr ⟨m, a, ?_⟩
    exact
      { entered := hwin.entered.imp fun dir hmem ↦ List.mem_append_left t₂ hmem
        enter := fun m' dir hmem ↦ hwin.enter m' dir (by simpa [henter] using hmem)
        exit := fun m' a' ↦ by simp [hexit, hwin.exit]
        marked := fun e he hreported ↦ (hwin.marked e he hreported).append_right hsame
        unmarked := fun e he hreported ↦ hsame ▸ hwin.unmarked e he hreported }

/-! ## The lock around it -/

/-- A run that has taken the lock and given it back is safe if and only if its close was not ended
by a cancellation from outside. -/
def SafeIff (t : List Happening) (w' : World) : Prop := WindowSafe t w' ↔ CloseReported t

/-- A run in which no browser has started is safe. -/
theorem safeIff_of_noBrowser {t : List Happening} {w' : World} (h : NoBrowser t) :
    SafeIff t w' :=
  ⟨fun _ m _ hmem ↦ (h.2 m _ hmem).elim, fun _ _ m dir _ henter ↦ (h.1 m dir henter).elim⟩

theorem safeIff_of_locked {lock : FileLock} {t₁ t₂ t₃ : List Happening} {w₂ w' : World}
    (hacquired : ∀ l a, ⟨.portal (.acquire l), .ok a⟩ ∈ t₁ ↔ l = lock)
    (ht₁ : ∀ e ∈ t₁, e.1.IsLocking) (hlogin : LoginEnds lock t₂ w₂)
    (hrelease : ReleaseEnds lock w₂ t₃ (.ok ()) w') : SafeIff (t₁ ++ (t₂ ++ t₃)) w' := by
  have henter₁ : ∀ dir a, ⟨.portal (.managerEnter dir), a⟩ ∉ t₁ := fun dir a hmem ↦ ht₁ _ hmem
  have hexit₁ : ∀ m (a : Except Exn Unit), ⟨.portal (.managerExit m), a⟩ ∉ t₁ :=
    fun m a hmem ↦ ht₁ _ hmem
  obtain ⟨ht₃, hacquire₃, -, -, -, -, hlock⟩ := hrelease
  have henter₃ : ∀ dir a, ⟨.portal (.managerEnter dir), a⟩ ∉ t₃ := fun dir a hmem ↦ ht₃ _ hmem
  have hexit₃ : ∀ m (a : Except Exn Unit), ⟨.portal (.managerExit m), a⟩ ∉ t₃ :=
    fun m a hmem ↦ ht₃ _ hmem
  rcases hlogin.2 with hno | ⟨m, a, hwin⟩
  · exact safeIff_of_noBrowser ⟨fun m dir ↦ by simp [henter₁, henter₃, hno.1],
      fun m a ↦ by simp [hexit₁, hexit₃, hno.2]⟩
  have hexit : ∀ m' (a' : Except Exn Unit),
      ⟨.portal (.managerExit m'), a'⟩ ∈ t₁ ++ (t₂ ++ t₃) ↔ m' = m ∧ a' = a :=
    fun m' a' ↦ by simp [hexit₁, hexit₃, hwin.exit]
  obtain ⟨dir, hdir⟩ := hwin.entered
  constructor
  · rintro hsafe m' e hmem
    obtain ⟨rfl, rfl⟩ := (hexit m' _).mp hmem
    by_contra hreported
    have hfree := hwin.unmarked e rfl (by simpa using hreported)
    rw [hfree] at hlock
    have hheld := (hsafe lock m' dir (List.mem_append_left _ ((hacquired lock ()).mpr rfl))
      (by simp [hdir]) (fun hok ↦ by cases ((hexit m' _).mp hok).2)).2
    exact hlock hheld
  · rintro hreported l m' dir' hacquire henter hunconfirmed
    have hm : m' = m := hwin.enter m' dir' (by simpa [henter₁, henter₃] using henter)
    subst hm
    have hl : l = lock := by
      rcases List.mem_append.mp hacquire with hmem | hmem
      · exact (hacquired l ()).mp hmem
      rcases List.mem_append.mp hmem with hmem | hmem
      · exact (hlogin.1 l _ hmem).elim
      · exact (hacquire₃ l _ hmem).elim
    subst hl
    cases a with
    | ok u => exact (hunconfirmed ((hexit m' _).mpr ⟨rfl, rfl⟩)).elim
    | error e =>
      obtain ⟨entry, hpath, hlock', hmem, hfind, hheld⟩ :=
        hwin.marked e rfl (hreported m' e ((hexit m' _).mpr ⟨rfl, rfl⟩))
      rw [hfind] at hlock
      exact ⟨⟨entry, hpath, hlock', by simp [hmem]⟩, hlock.2 hlock' hheld⟩

theorem sat_withProfileLock {α : Type} {body : FileLock → Prog α}
    (hbody : ∀ lock w₁, lock ∈ w₁.portal.held → w₁.portal.unconfirmed.find? lock.path = none →
      Sat world (body lock) w₁ fun t _ w' ↦ LoginEnds lock t w') :
    Sat world (withProfileLock settings body) w fun t _ w' ↦ SafeIff t w' := by
  refine sat_bind sat_acquireProfileLock ?_ ?_
  swap
  · rintro t e w₁ ⟨ht, -⟩
    exact safeIff_of_noBrowser ⟨fun m dir hmem ↦ ht _ hmem, fun m a hmem ↦ ht _ hmem⟩
  rintro t₁ lock w₁ ⟨ht₁, -, -, hunconfirmed, hpath, hheld, hfree, hacquired⟩
  rw [← hpath, ← hunconfirmed] at hfree
  refine sat_attempt_bind (hbody lock w₁ hheld hfree) ?_
  rintro t₂ o w₂ hlogin
  refine sat_bind sat_releaseProfileLock ?_ ?_
  · rintro t₃ u w₃ hrelease
    have hsafe := safeIff_of_locked hacquired ht₁ hlogin hrelease
    rw [← List.append_nil t₃] at hsafe
    exact hsafe
  · rintro t₃ e w₃ ⟨-, -, -, -, -, ho, -⟩
    cases ho

theorem SafeIff.mkdir {path : String} {a : Except Exn Unit} {t : List Happening} {w' : World}
    (h : SafeIff t w') : SafeIff (⟨.portal (.mkdir path), a⟩ :: t) w' := by
  simpa [SafeIff, WindowSafe, CloseReported] using h

theorem sat_mkdir {path : String} :
    Sat world (portal (.mkdir path)) w fun t o w' ↦ w = w' ∧ t = [⟨.portal (.mkdir path), o⟩] :=
  sat_ask_only (fun _ _ ↦ rfl) fun _ ↦ ⟨rfl, rfl⟩

theorem sat_runLogin : Sat world (runLogin settings) w fun t _ w' ↦ SafeIff t w' := by
  refine sat_attempt_bind (sat_withProfileLock fun lock w₁ hheld hfree ↦ ?_) ?_
  · refine sat_attempt_bind (sat_launchVisibleBrowserAndWait hheld hfree) fun t o w₂ hlogin ↦ ?_
    have hdone : ∀ {o : Except Exn Bool}, Sat world (.done o : Prog Bool) w₂
        fun t' _ w' ↦ LoginEnds lock (t ++ t') w' := by
      intro o
      show LoginEnds lock (t ++ []) w₂
      rwa [List.append_nil]
    split
    · exact hdone
    · refine sat_bind (sat_recording (only_markLoginTeardownFailed _)) ?_ ?_
      · rintro t' u w₃ ⟨hsame, ht'⟩
        have hends := hlogin.append ht' hsame
        rw [← List.append_nil t'] at hends
        exact sat_pure hends
      · rintro t' e w₃ ⟨hsame, ht'⟩
        exact hlogin.append ht' hsame
    · exact hdone
  · intro t o w₁ hsafe
    rw [← List.append_nil t] at hsafe
    cases o with
    | ok verify => exact sat_pure hsafe
    | error e =>
      dsimp only
      split
      · exact sat_pure hsafe
      · exact sat_throw hsafe

theorem sat_runSessionSetup :
    Sat world (runSessionSetup settings) w fun t _ w' ↦ SafeIff t w' := by
  have hmkdir : ∀ {β : Type} {path : String} {f : Unit → Prog β},
      (Sat world (f ()) w fun t _ w' ↦ SafeIff t w') →
        Sat world (portal (.mkdir path) >>= f) w fun t _ w' ↦ SafeIff t w' := by
    intro β path f hf
    refine sat_bind sat_mkdir ?_ ?_
    · rintro _ u _ ⟨rfl, rfl⟩
      exact hf.mono fun t o w' hsafe ↦ hsafe.mkdir
    · rintro _ e _ ⟨rfl, rfl⟩
      exact safeIff_of_noBrowser ⟨by simp, by simp⟩
  refine hmkdir (hmkdir (hmkdir ?_))
  refine sat_attempt_bind (sat_withProfileLock fun lock w₁ hheld hfree ↦ ?_) ?_
  · refine sat_attempt_bind (sat_launchVisibleBrowserAndWait hheld hfree) fun t o w₂ hlogin ↦ ?_
    rw [← List.append_nil t] at hlogin
    split <;> exact hlogin
  · intro t o w₁ hsafe
    rw [← List.append_nil t] at hsafe
    split <;> exact hsafe

/-- **When the login window is safe**: a run of the login or of the command-line tool is, if and
only if no close of its browser was ended by a cancellation from outside. -/
theorem loginWindow_safe_iff :
    (∀ t o w', Exec world (runLogin settings) w t o w' → (WindowSafe t w' ↔ CloseReported t)) ∧
      ∀ t o w', Exec world (runSessionSetup settings) w t o w' →
        (WindowSafe t w' ↔ CloseReported t) :=
  ⟨fun _ _ _ h ↦ sat_runLogin.exec h, fun _ _ _ h ↦ sat_runSessionSetup.exec h⟩

end

/-- Nothing goes wrong until the browser is closed; the close ends with `e`. -/
def closeEndsWith (e : Exn) (_ : ℕ) : (r : Request) → Except Exn r.Val
  | .portal (.managerExit _) => .error e
  | r => routine r

/-- The task is cancelled while the close is awaited: nothing is marked, and the lock is free. -/
theorem not_loginWindow_safe :
    ¬∀ w t o w', Exec world (runLogin .standard) w t o w' → WindowSafe t w' := by
  intro h
  have hexec := exec_run serve (closeEndsWith (.cancelledError false)) (runLogin .standard) 0 .start
  refine absurd (h _ _ _ _ hexec ⟨0, "data/profile.lock"⟩ 0 "data/profile" ?_ ?_ ?_).2 ?_
  · exact List.mem_iff_getElem.mpr ⟨3, by decide +kernel, rfl⟩
  · exact List.mem_iff_getElem.mpr ⟨5, by decide +kernel, rfl⟩
  · intro hmem
    have hnot : ∀ e ∈ (run serve (closeEndsWith (.cancelledError false)) (runLogin .standard) 0
        .start).1, (e.1 matches .portal (.managerExit _)) → e.2.isOk = false := by
      decide +kernel
    cases hnot _ hmem rfl
  · decide +kernel

/-- A close that takes too long is safe: the lock is held from then on. -/
theorem loginWindow_safe_timeout :
    WindowSafe (run serve (closeEndsWith (.cancelledError true)) (runLogin .standard) 0 .start).1
      (run serve (closeEndsWith (.cancelledError true)) (runLogin .standard) 0 .start).2.2 := by
  refine (loginWindow_safe_iff.1 _ _ _ (exec_run serve (closeEndsWith (.cancelledError true))
    (runLogin .standard) 0 .start)).mpr ?_
  decide +kernel

end RmaPortal
