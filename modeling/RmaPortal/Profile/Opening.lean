import RmaPortal.Infrastructure.Portal.CamoufoxReader
import RmaPortal.Profile.Locking

/-!
# Opening the reader

`aenter` takes the lock of the profile, starts the browser and prepares a page.  When anything
goes wrong on the way it gives the lock back, and raises.  Once the browser has started that is
one step too many: nobody closes it, and another browser may be started on the same profile.

`aenter_safe_iff` says exactly when that happens: when the browser has started and some later step
is not survived.  `Survives` lists those steps, and what may go wrong in them: the failures of
`add_cookies` and `add_init_script` are caught, those of the others are not, and neither is what
the saved session state may contain.

## What is here

* `Restorable`, `Countable`, `StateFile.Restorable` — what a session-state file has to look like
  in order not to raise.  The code looks up fields of whatever JSON it finds; a list at the top,
  or a number where cookies are expected, raises an `AttributeError` or a `TypeError` that nobody
  catches here.
* `Survives` — everything that was asked of the browser after its start, and of the saved state,
  was answered in such a way that the preparation of a page survives it.  `Restored` and `Paged`
  are its two halves.
* `sat_restoreSessionState`, `sat_firstPage`, `sat_preparePage`, `sat_startBrowser`, `sat_aenter`
  — the spec lemma of each part, from the inside to the outside.  Each is an equivalence: the part
  returns if and only if what it was answered is survived.
* `survives_of_locking` and `Survives.of_mem_iff` — the steps before the browser is there do not
  matter.
* `ProfileSafe` — if the lock that a run has acquired is free afterwards, no browser that the run
  has started is still running.
* `aenter_safe_iff` — the equivalence, for every sequence of answers.
* `not_aenter_safe` — a session-state file with a list in it: the lock is free, and the browser
  runs.

`ProfileSafe` is about what is left behind by one opening.  What a whole process does with the
profile is the subject of `Profile.Tasks` and `Profile.Exclusion`.
-/

set_option autoImplicit false

open Coroutine

namespace RmaPortal

/-! ## What the preparation of a page survives -/

/-- There is something to restore in a saved state, or nothing at all, and no value of a wrong type
is in the way. -/
def Restorable (origin : String) (state : Json) : Prop :=
  state.truthy = true → (restoreCookies state).isOk = true ∧
    (restoreLocalItems state origin).isOk = true ∧ (restoreSessionItems state origin).isOk = true

/-- What is restored can be counted for the log. -/
def Countable (origin : String) (state : Json) : Prop :=
  ∀ plan : RestorePlan, restoreCookies state = .ok plan.cookies →
    restoreLocalItems state origin = .ok plan.localItems →
    restoreSessionItems state origin = .ok plan.sessionItems → countable plan = true

/-- Loading and restoring a session-state file does not raise because of what is in it. -/
def StateFile.Restorable (origin : String) : StateFile → Prop
  | .undecodable => False
  | .json state => RmaPortal.Restorable origin state
  | _ => True

/-- Everything that was asked of the browser in a run, and of the saved state, was answered in such
a way that the preparation of a page survives it. -/
structure Survives (cfg : ReaderSettings) (t : List Happening) : Prop where
  route : ∀ m e, ⟨.portal (.route m), .error e⟩ ∉ t
  /-- The saved state is read, and nothing in it is in the way. -/
  file : ∀ path a, ⟨.portal (.readStateFile path), a⟩ ∈ t →
    ∃ file, a = .ok file ∧ file.Restorable (originOf cfg.baseUrl)
  /-- What `add_cookies` raises is an `Exception`. -/
  cookies : ∀ m c e, ⟨.portal (.addCookies m c), .error e⟩ ∈ t → e.isException = true
  /-- What `add_init_script` raises is an `Exception`. -/
  script : ∀ m o l s e, ⟨.portal (.addInitScript m o l s), .error e⟩ ∈ t → e.isException = true
  /-- If a script has been added, what it restores can be counted. -/
  counted : ∀ path state m o l s, ⟨.portal (.readStateFile path), .ok (.json state)⟩ ∈ t →
    ⟨.portal (.addInitScript m o l s), .ok ()⟩ ∈ t → Countable (originOf cfg.baseUrl) state
  pages : ∀ m e, ⟨.portal (.contextPages m), .error e⟩ ∉ t
  page : ∀ m e, ⟨.portal (.newPage m), .error e⟩ ∉ t

/-! ## Restoring the saved state -/

/-- The requests that restoring makes. -/
def Request.IsRestoring : Request → Prop
  | .portal (.addCookies _ _) => True
  | .portal (.addInitScript _ _ _ _) => True
  | _ => False

/-- What restoring survives. -/
structure Restored (origin : String) (state : Json) (t : List Happening) : Prop where
  shape : Restorable origin state
  cookies : ∀ m c e, ⟨.portal (.addCookies m c), .error e⟩ ∈ t → e.isException = true
  script : ∀ m o l s e, ⟨.portal (.addInitScript m o l s), .error e⟩ ∈ t → e.isException = true
  counted : ∀ m o l s, ⟨.portal (.addInitScript m o l s), .ok ()⟩ ∈ t → Countable origin state

section

variable {w : World} {m : ManagerId} {origin : String}

theorem sat_addCookies {cookies : Json} :
    Sat world (addCookies m cookies) w fun t o w' ↦ w' = w ∧
      (t = [] ∧ o = .ok () ∨ ∃ a, t = [⟨.portal (.addCookies m cookies), a⟩] ∧
        (o = .ok () ↔ ∀ e, a = .error e → e.isException = true)) := by
  rw [addCookies]
  split
  swap
  · exact sat_pure ⟨rfl, Or.inl ⟨rfl, rfl⟩⟩
  refine sat_attempt_bind (R := fun t o w' ↦ w = w' ∧ t = [⟨.portal (.addCookies m cookies), o⟩])
    (sat_ask_only (fun _ _ ↦ rfl) fun a ↦ ⟨rfl, rfl⟩) ?_
  rintro _ o _ ⟨rfl, rfl⟩
  cases o with
  | ok u => exact sat_pure ⟨rfl, Or.inr ⟨_, rfl, by simp⟩⟩
  | error e =>
    dsimp only
    split
    · rename_i he
      exact sat_pure ⟨rfl, Or.inr ⟨_, rfl, by simp [he]⟩⟩
    · rename_i he
      exact sat_throw ⟨rfl, Or.inr ⟨_, rfl, by simp [he]⟩⟩

theorem sat_addInitScript {plan : RestorePlan} :
    Sat world (addInitScript m origin plan) w fun t o w' ↦ w' = w ∧
      (t = [] ∧ o = .ok () ∨
        ∃ a, t = [⟨.portal (.addInitScript m origin plan.localItems plan.sessionItems), a⟩] ∧
          (o = .ok () ↔ (∀ e, a = .error e → e.isException = true) ∧
            (a = .ok () → countable plan = true))) := by
  rw [addInitScript]
  split
  · exact sat_pure ⟨rfl, Or.inl ⟨rfl, rfl⟩⟩
  refine sat_attempt_bind (R := fun t o w' ↦ w = w' ∧
    t = [⟨.portal (.addInitScript m origin plan.localItems plan.sessionItems), o⟩])
    (sat_ask_only (fun _ _ ↦ rfl) fun a ↦ ⟨rfl, rfl⟩) ?_
  rintro _ o _ ⟨rfl, rfl⟩
  cases o with
  | ok u =>
    dsimp only
    split
    · rename_i hc
      exact sat_pure ⟨rfl, Or.inr ⟨_, rfl, by simp [hc]⟩⟩
    · rename_i hc
      exact sat_throw ⟨rfl, Or.inr ⟨_, rfl, by simp [hc]⟩⟩
  | error e =>
    dsimp only
    split
    · rename_i he
      exact sat_pure ⟨rfl, Or.inr ⟨_, rfl, by simp [he]⟩⟩
    · rename_i he
      exact sat_throw ⟨rfl, Or.inr ⟨_, rfl, by simp [he]⟩⟩

/-- How restoring a saved state ends. -/
def RestoreEnds (origin : String) (state : Json) (w : World) (t : List Happening)
    (o : Except Exn Unit) (w' : World) : Prop :=
  w' = w ∧ (∀ e ∈ t, e.1.IsRestoring) ∧ (o = .ok () ↔ Restored origin state t)

/-- Looking into the saved state. -/
theorem sat_outcome {α : Type} {x : Except Exn α} :
    Sat world (outcome x) w fun t o w' ↦ w = w' ∧ t = [] ∧ o = x := ⟨rfl, rfl, rfl⟩

theorem isOk_of_eq {α : Type} {x : Except Exn α} {a : α} (h : x = .ok a) : x.isOk = true := by
  rw [h]
  rfl

theorem not_isOk_of_eq {α : Type} {x : Except Exn α} {e : Exn} (h : x = .error e) :
    ¬x.isOk = true := by
  rw [h]
  exact Bool.false_ne_true

theorem sat_restoreSessionState {state : Json} :
    Sat world (restoreSessionState m (some state) origin) w fun t o w' ↦
      RestoreEnds origin state w t o w' := by
  rw [restoreSessionState]
  split
  · rename_i hempty
    refine sat_pure ⟨rfl, by simp, fun _ ↦ ⟨fun h ↦ ?_, by simp, by simp, by simp⟩, fun _ ↦ rfl⟩
    rw [h] at hempty
    cases hempty
  rename_i htruthy
  have htruthy : state.truthy = true := by simpa using htruthy
  -- a value of a wrong type ends the restoration
  have hstop : ∀ {t : List Happening} {e : Exn} {w' : World}, w' = w →
      (∀ e ∈ t, e.1.IsRestoring) → ¬Restored origin state t →
      RestoreEnds origin state w t (.error e) w' :=
    fun hw ht hnot ↦ ⟨hw, ht, fun h ↦ by (cases h), fun h ↦ absurd h hnot⟩
  refine sat_bind sat_outcome ?_ ?_
  swap
  · rintro t e _ ⟨rfl, rfl, hcookies⟩
    exact hstop rfl (by simp) fun h ↦ not_isOk_of_eq hcookies.symm (h.shape htruthy).1
  rintro t cookies _ ⟨rfl, rfl, hcookies⟩
  refine sat_bind sat_addCookies ?_ ?_
  swap
  · rintro t e _ ⟨rfl, ⟨-, ho⟩ | ⟨a, rfl, ho⟩⟩
    · cases ho
    · refine hstop rfl (by simp [Request.IsRestoring]) fun h ↦ ?_
      have := ho.mpr fun e he ↦ h.cookies m cookies e (by simp [he])
      cases this
  rintro t₁ u _ ⟨rfl, hadded⟩
  have hkind : ∀ e ∈ t₁, e.1.IsRestoring := by
    rcases hadded with ⟨rfl, -⟩ | ⟨a, rfl, -⟩ <;> simp [Request.IsRestoring]
  have hcookiesOk : ∀ m' c e, ⟨.portal (.addCookies m' c), .error e⟩ ∈ t₁ →
      e.isException = true := by
    rcases hadded with ⟨rfl, -⟩ | ⟨a, rfl, ho⟩
    · simp
    · intro m' c e he
      cases List.mem_singleton.mp he
      exact ho.mp rfl e rfl
  have hnoscript : ∀ m' o l s a, ⟨.portal (.addInitScript m' o l s), a⟩ ∉ t₁ := by
    rcases hadded with ⟨rfl, -⟩ | ⟨a, rfl, -⟩ <;> simp
  refine sat_bind sat_outcome ?_ ?_
  swap
  · rintro t e _ ⟨rfl, rfl, hlocal⟩
    exact hstop rfl (by simpa using hkind) fun h ↦ not_isOk_of_eq hlocal.symm (h.shape htruthy).2.1
  rintro t localItems _ ⟨rfl, rfl, hlocal⟩
  refine sat_bind sat_outcome ?_ ?_
  swap
  · rintro t e _ ⟨rfl, rfl, hsession⟩
    exact hstop rfl (by simpa using hkind)
      fun h ↦ not_isOk_of_eq hsession.symm (h.shape htruthy).2.2
  rintro t sessionItems _ ⟨rfl, rfl, hsession⟩
  refine sat_addInitScript.mono ?_
  rintro t₂ o w' ⟨rfl, hscript⟩
  simp only [List.nil_append]
  have hshape : Restorable origin state := fun _ ↦
    ⟨isOk_of_eq hcookies.symm, isOk_of_eq hlocal.symm, isOk_of_eq hsession.symm⟩
  have hplan : Countable origin state ↔ countable ⟨cookies, localItems, sessionItems⟩ = true := by
    refine ⟨fun h ↦ h _ hcookies.symm hlocal.symm hsession.symm, fun h plan hc hl hs ↦ ?_⟩
    obtain ⟨c, l, s⟩ := plan
    rw [← hcookies] at hc
    rw [← hlocal] at hl
    rw [← hsession] at hs
    cases hc
    cases hl
    cases hs
    exact h
  rcases hscript with ⟨rfl, rfl⟩ | ⟨a, rfl, ho⟩
  · rw [List.append_nil]
    exact ⟨rfl, hkind, fun _ ↦ ⟨hshape, hcookiesOk,
      fun m' o l s e he ↦ absurd he (hnoscript m' o l s _),
      fun m' o l s he ↦ absurd he (hnoscript m' o l s _)⟩, fun _ ↦ rfl⟩
  · refine ⟨rfl, ?_, fun hok ↦ ?_, fun h ↦ ?_⟩
    · intro e he
      rcases List.mem_append.mp he with he | he
      · exact hkind e he
      · rw [List.mem_singleton.mp he]
        trivial
    · obtain ⟨hexc, hcount⟩ := ho.mp hok
      refine ⟨hshape, fun m' c e he ↦ ?_, fun m' o l s e he ↦ ?_, fun m' o l s he ↦ ?_⟩
      · refine hcookiesOk m' c e ((List.mem_append.mp he).resolve_right (by simp))
      · have he := (List.mem_append.mp he).resolve_left (hnoscript m' o l s _)
        cases List.mem_singleton.mp he
        exact hexc e rfl
      · have he := (List.mem_append.mp he).resolve_left (hnoscript m' o l s _)
        cases List.mem_singleton.mp he
        exact hplan.mpr (hcount rfl)
    · refine ho.mpr ⟨fun e he ↦ ?_, fun hok ↦ ?_⟩
      · exact h.script m origin localItems sessionItems e (by simp [he])
      · exact hplan.mp (h.counted m origin localItems sessionItems (by simp [hok]))

end

/-! ## Preparing the page -/

/-- The requests that finding a page makes. -/
def Request.IsPaging : Request → Prop
  | .portal (.contextPages _) => True
  | .portal (.newPage _) => True
  | _ => False

/-- The requests that the preparation of a page makes. -/
def Request.IsPreparing : Request → Prop
  | .portal (.route _) => True
  | .portal (.readStateFile _) => True
  | r => r.IsRestoring ∨ r.IsPaging

/-- What finding a page survives. -/
structure Paged (t : List Happening) : Prop where
  pages : ∀ m e, ⟨.portal (.contextPages m), .error e⟩ ∉ t
  page : ∀ m e, ⟨.portal (.newPage m), .error e⟩ ∉ t

section

variable {cfg : ReaderSettings} {w : World} {m : ManagerId}

theorem sat_firstPage :
    Sat world (CamoufoxReader.firstPage m) w fun t o w' ↦
      w' = w ∧ (∀ e ∈ t, e.1.IsPaging) ∧ (o = .ok () ↔ Paged t) := by
  refine sat_bind (R := fun t o w' ↦ w = w' ∧ t = [⟨.portal (.contextPages m), o⟩])
    (sat_ask_only (fun _ _ ↦ rfl) fun a ↦ ⟨rfl, rfl⟩) ?_ ?_
  · rintro _ pages _ ⟨rfl, rfl⟩
    cases pages with
    | true =>
      exact sat_pure ⟨rfl, by simp [Request.IsPaging], fun _ ↦ ⟨by simp, by simp⟩, fun _ ↦ rfl⟩
    | false =>
      refine sat_ask_only (fun _ _ ↦ rfl) fun a ↦ ⟨rfl, by simp [Request.IsPaging], fun ha ↦ ?_,
        fun h ↦ ?_⟩
      · subst ha
        exact ⟨by simp, by simp⟩
      · cases a with
        | ok u => rfl
        | error e => exact absurd (by simp) (h.page m e)
  · rintro _ e _ ⟨rfl, rfl⟩
    refine ⟨rfl, by simp [Request.IsPaging], fun h ↦ ?_, fun h ↦ absurd ?_ (h.pages m e)⟩
    · cases h
    · exact List.mem_singleton_self _

/-- The parts of the preparation are survived one by one. -/
theorem survives_iff {path : String} {file : StateFile} {t₁ t₂ : List Happening}
    (h₁ : ∀ e ∈ t₁, e.1.IsRestoring) (h₂ : ∀ e ∈ t₂, e.1.IsPaging) :
    Survives cfg (⟨.portal (.route m), .ok ()⟩ :: ⟨.portal (.readStateFile path), .ok file⟩ ::
        (t₁ ++ t₂)) ↔
      (file.Restorable (originOf cfg.baseUrl) ∧
        (∀ m c e, ⟨.portal (.addCookies m c), .error e⟩ ∈ t₁ → e.isException = true) ∧
        (∀ m o l s e, ⟨.portal (.addInitScript m o l s), .error e⟩ ∈ t₁ → e.isException = true) ∧
        ∀ state, file = .json state → ∀ m o l s, ⟨.portal (.addInitScript m o l s), .ok ()⟩ ∈ t₁ →
          Countable (originOf cfg.baseUrl) state) ∧ Paged t₂ := by
  constructor
  · intro h
    obtain ⟨file', hfile', hrestorable⟩ := h.file path (.ok file) (by simp)
    cases hfile'
    refine ⟨⟨hrestorable, fun m c e he ↦ h.cookies m c e (by simp [he]),
      fun m o l s e he ↦ h.script m o l s e (by simp [he]), ?_⟩,
      fun m e he ↦ h.pages m e (by simp [he]), fun m e he ↦ h.page m e (by simp [he])⟩
    rintro state rfl m o l s he
    exact h.counted path state m o l s (by simp) (by simp [he])
  · rintro ⟨⟨hfile, hcookies, hscript, hcounted⟩, hpaged⟩
    have hmem : ∀ {e : Happening}, e ∈ (⟨.portal (.route m), .ok ()⟩ : Happening) ::
        ⟨.portal (.readStateFile path), .ok file⟩ :: (t₁ ++ t₂) →
        e = ⟨.portal (.route m), .ok ()⟩ ∨ e = ⟨.portal (.readStateFile path), .ok file⟩ ∨
          e ∈ t₁ ∨ e ∈ t₂ := by
      intro e he
      simpa using he
    refine ⟨?_, ?_, ?_, ?_, ?_, ?_, ?_⟩
    · rintro m' e he
      obtain he | he | he | he := hmem he
      · cases he
      · cases he
      · exact h₁ _ he
      · exact h₂ _ he
    · rintro path' a he
      obtain he | he | he | he := hmem he
      · cases he
      · cases he
        exact ⟨file, rfl, hfile⟩
      · exact (h₁ _ he).elim
      · exact (h₂ _ he).elim
    · rintro m' c e he
      obtain he | he | he | he := hmem he
      · cases he
      · cases he
      · exact hcookies m' c e he
      · exact (h₂ _ he).elim
    · rintro m' o l s e he
      obtain he | he | he | he := hmem he
      · cases he
      · cases he
      · exact hscript m' o l s e he
      · exact (h₂ _ he).elim
    · rintro path' state m' o l s hread he
      have hjson : file = .json state := by
        obtain hread | hread | hread | hread := hmem hread
        · cases hread
        · cases hread
          rfl
        · exact (h₁ _ hread).elim
        · exact (h₂ _ hread).elim
      obtain he | he | he | he := hmem he
      · cases he
      · cases he
      · exact hcounted state hjson m' o l s he
      · exact (h₂ _ he).elim
    · rintro m' e he
      obtain he | he | he | he := hmem he
      · cases he
      · cases he
      · exact h₁ _ he
      · exact hpaged.pages m' e he
    · rintro m' e he
      obtain he | he | he | he := hmem he
      · cases he
      · cases he
      · exact h₁ _ he
      · exact hpaged.page m' e he

/-- What loading a session-state file gives. -/
def StateFile.loaded : StateFile → Option (Option Json)
  | .undecodable => none
  | .json state => some (some state)
  | _ => some none

theorem sat_loadSessionState {path : String} :
    Sat world (loadSessionState path) w fun t o w' ↦ w = w' ∧
      ∃ a, t = [⟨.portal (.readStateFile path), a⟩] ∧
        match o with
        | .ok state => ∃ file, a = .ok file ∧ file.loaded = some state
        | .error _ => ∀ file, a = .ok file → file.loaded = none := by
  refine sat_bind (R := fun t o w' ↦ w = w' ∧ t = [⟨.portal (.readStateFile path), o⟩])
    (sat_ask_only (fun _ _ ↦ rfl) fun a ↦ ⟨rfl, rfl⟩) ?_ ?_
  · rintro _ file _ ⟨rfl, rfl⟩
    cases file with
    | undecodable =>
      refine sat_throw ⟨rfl, _, rfl, fun file hfile ↦ ?_⟩
      cases hfile
      rfl
    | json state => exact sat_pure ⟨rfl, _, rfl, _, rfl, rfl⟩
    | absent => exact sat_pure ⟨rfl, _, rfl, _, rfl, rfl⟩
    | unreadable => exact sat_pure ⟨rfl, _, rfl, _, rfl, rfl⟩
    | malformed => exact sat_pure ⟨rfl, _, rfl, _, rfl, rfl⟩
  · rintro _ e _ ⟨rfl, rfl⟩
    exact ⟨rfl, _, rfl, by simp⟩

theorem sat_preparePage :
    Sat world (CamoufoxReader.preparePage cfg m) w fun t o w' ↦
      w' = w ∧ (∀ e ∈ t, e.1.IsPreparing) ∧ (o = .ok () ↔ Survives cfg t) := by
  have hrestoring : ∀ {t : List Happening}, (∀ e ∈ t, e.1.IsRestoring) →
      ∀ e ∈ t, e.1.IsPreparing := by
    rintro t ht ⟨r, a⟩ he
    cases r with
    | portal q => cases q <;> first | exact Or.inl (ht _ he) | trivial
    | _ => exact Or.inl (ht _ he)
  have hpaging : ∀ {t : List Happening}, (∀ e ∈ t, e.1.IsPaging) →
      ∀ e ∈ t, e.1.IsPreparing := by
    rintro t ht ⟨r, a⟩ he
    cases r with
    | portal q => cases q <;> first | exact Or.inr (ht _ he) | trivial
    | _ => exact Or.inr (ht _ he)
  refine sat_bind (R := fun t o w' ↦ w = w' ∧ t = [⟨.portal (.route m), o⟩])
    (sat_ask_only (fun _ _ ↦ rfl) fun a ↦ ⟨rfl, rfl⟩) ?_ ?_
  swap
  · rintro _ e _ ⟨rfl, rfl⟩
    refine ⟨rfl, by simp [Request.IsPreparing], fun h ↦ ?_, fun h ↦ absurd ?_ (h.route m e)⟩
    · cases h
    · exact List.mem_singleton_self _
  rintro _ _ _ ⟨rfl, rfl⟩
  -- the saved state is read; what it contains decides what is restored
  have hrest : ∀ file (state : Option Json),
      Sat world (restoreSessionState m state (originOf cfg.baseUrl)) w (fun t o w' ↦
        w' = w ∧ (∀ e ∈ t, e.1.IsRestoring) ∧ (o = .ok () ↔
          file.Restorable (originOf cfg.baseUrl) ∧
          (∀ m c e, ⟨.portal (.addCookies m c), .error e⟩ ∈ t → e.isException = true) ∧
          (∀ m o l s e, ⟨.portal (.addInitScript m o l s), .error e⟩ ∈ t →
            e.isException = true) ∧
          ∀ state, file = .json state → ∀ m o l s,
            ⟨.portal (.addInitScript m o l s), .ok ()⟩ ∈ t →
              Countable (originOf cfg.baseUrl) state)) →
      Sat world (do
          restoreSessionState m state (originOf cfg.baseUrl)
          CamoufoxReader.firstPage m) w fun t o w' ↦
        w' = w ∧ (∀ e ∈ (⟨.portal (.route m), .ok ()⟩ : Happening) ::
            ⟨.portal (.readStateFile cfg.sessionStatePath), .ok file⟩ :: t, e.1.IsPreparing) ∧
          (o = .ok () ↔ Survives cfg (⟨.portal (.route m), .ok ()⟩ ::
            ⟨.portal (.readStateFile cfg.sessionStatePath), .ok file⟩ :: t)) := by
    intro file state hstate
    have hkind : ∀ {t : List Happening}, (∀ e ∈ t, e.1.IsPreparing) →
        ∀ e ∈ (⟨.portal (.route m), .ok ()⟩ : Happening) ::
          ⟨.portal (.readStateFile cfg.sessionStatePath), .ok file⟩ :: t, e.1.IsPreparing := by
      intro t ht e he
      rcases List.mem_cons.mp he with rfl | he
      · trivial
      rcases List.mem_cons.mp he with rfl | he
      · trivial
      exact ht e he
    refine sat_bind hstate ?_ ?_
    · rintro t₁ u _ ⟨rfl, h₁, ho⟩
      refine sat_firstPage.mono fun t₂ o w' ⟨hw, h₂, ho₂⟩ ↦ ⟨hw, hkind fun e he ↦ ?_, ?_⟩
      · rcases List.mem_append.mp he with he | he
        · exact hrestoring h₁ e he
        · exact hpaging h₂ e he
      · rw [survives_iff h₁ h₂, ho₂]
        exact (and_iff_right (ho.mp rfl)).symm
    · rintro t₁ e _ ⟨rfl, h₁, ho⟩
      refine ⟨rfl, hkind (hrestoring h₁), fun h ↦ by (cases h), fun h ↦ ?_⟩
      rw [← List.append_nil t₁] at h
      have := ho.mpr ((survives_iff h₁ (by simp)).mp h).1
      cases this
  refine sat_bind sat_loadSessionState ?_ ?_
  · rintro _ state _ ⟨rfl, _, rfl, file, rfl, hloaded⟩
    refine hrest file state ?_
    have hnothing : state = none → (∀ s, file ≠ .json s) → file.Restorable (originOf cfg.baseUrl) →
        Sat world (restoreSessionState m state (originOf cfg.baseUrl)) w fun t o w' ↦
          w' = w ∧ (∀ e ∈ t, e.1.IsRestoring) ∧ (o = .ok () ↔
            file.Restorable (originOf cfg.baseUrl) ∧
            (∀ m c e, ⟨.portal (.addCookies m c), .error e⟩ ∈ t → e.isException = true) ∧
            (∀ m o l s e, ⟨.portal (.addInitScript m o l s), .error e⟩ ∈ t →
              e.isException = true) ∧
            ∀ state, file = .json state → ∀ m o l s,
              ⟨.portal (.addInitScript m o l s), .ok ()⟩ ∈ t →
                Countable (originOf cfg.baseUrl) state) := by
      rintro rfl hjson hrestorable
      exact sat_pure ⟨rfl, by simp, fun _ ↦ ⟨hrestorable, by simp, by simp,
        fun s hs ↦ absurd hs (hjson s)⟩, fun _ ↦ rfl⟩
    cases file with
    | undecodable => cases hloaded
    | absent => exact hnothing (Option.some.inj hloaded).symm (by simp) trivial
    | unreadable => exact hnothing (Option.some.inj hloaded).symm (by simp) trivial
    | malformed => exact hnothing (Option.some.inj hloaded).symm (by simp) trivial
    | json s =>
      rw [← Option.some.inj hloaded]
      refine sat_restoreSessionState.mono fun t o w' ⟨hw, ht, ho⟩ ↦ ⟨hw, ht, ho.trans ?_⟩
      refine ⟨fun h ↦ ⟨h.shape, h.cookies, h.script, ?_⟩, fun ⟨hs, hc, hi, hcount⟩ ↦
        ⟨hs, hc, hi, hcount s rfl⟩⟩
      rintro _ ⟨⟩
      exact h.counted
  · rintro _ e _ ⟨rfl, a, rfl, hnot⟩
    refine ⟨rfl, by simp [Request.IsPreparing], fun h ↦ by (cases h), fun h ↦ ?_⟩
    obtain ⟨file, rfl, hrestorable⟩ := h.file cfg.sessionStatePath a (by simp)
    have hloaded := hnot file rfl
    cases file <;> first | exact hrestorable.elim | cases hloaded

/-! ## The whole opening -/

/-- If the lock that a run has acquired is free afterwards, no browser that the run has started is
still running. -/
def ProfileSafe (t : List Happening) (w' : World) : Prop :=
  ∀ lock m dir, ⟨.portal (.acquire lock), .ok ()⟩ ∈ t → ⟨.portal (.managerEnter dir), .ok m⟩ ∈ t →
    lock ∉ w'.portal.held → ∀ r ∈ w'.portal.running, r.1 ≠ m

/-- How starting the browser ends. -/
def StartEnds (cfg : ReaderSettings) (w : World) (t : List Happening) (o : Except Exn ManagerId)
    (w' : World) : Prop :=
  w'.portal.held = w.portal.held ∧ w'.portal.unconfirmed = w.portal.unconfirmed ∧
    (∀ l a, ⟨.portal (.acquire l), a⟩ ∉ t) ∧
    ((∀ m dir, ⟨.portal (.managerEnter dir), .ok m⟩ ∉ t) ∧ (∃ e, o = .error e) ∨
      ∃ m, (∀ m' dir, ⟨.portal (.managerEnter dir), .ok m'⟩ ∈ t ↔ m' = m ∧ dir = cfg.profileDir) ∧
        (m, cfg.profileDir) ∈ w'.portal.running ∧ (o = .ok m ∧ Survives cfg t ∨
          (∃ e, o = .error e) ∧ ¬Survives cfg t))

/-- Only what the page is prepared with matters. -/
theorem Survives.of_mem_iff {t t' : List Happening}
    (h : ∀ e : Happening, e.1.IsPreparing → (e ∈ t ↔ e ∈ t')) :
    Survives cfg t ↔ Survives cfg t' := by
  have hmono : ∀ {t t' : List Happening},
      (∀ e : Happening, e.1.IsPreparing → (e ∈ t ↔ e ∈ t')) → Survives cfg t → Survives cfg t' := by
    intro t t' h hs
    have hmem : ∀ {r : Request} {a : Except Exn r.Val}, r.IsPreparing →
        (⟨r, a⟩ : Happening) ∈ t' → (⟨r, a⟩ : Happening) ∈ t := fun hr ↦ (h ⟨_, _⟩ hr).mpr
    refine ⟨fun m e he ↦ hs.route m e (hmem (by trivial) he),
      fun path a he ↦ hs.file path a (hmem (by trivial) he),
      fun m c e he ↦ hs.cookies m c e (hmem (by exact Or.inl trivial) he),
      fun m o l s e he ↦ hs.script m o l s e (hmem (by exact Or.inl trivial) he),
      fun path state m o l s hread he ↦ hs.counted path state m o l s
        (hmem (by trivial) hread) (hmem (by exact Or.inl trivial) he),
      fun m e he ↦ hs.pages m e (hmem (by exact Or.inr trivial) he),
      fun m e he ↦ hs.page m e (hmem (by exact Or.inr trivial) he)⟩
  exact ⟨hmono h, hmono fun e he ↦ (h e he).symm⟩

theorem sat_startBrowser :
    Sat world (CamoufoxReader.startBrowser cfg) w fun t o w' ↦ StartEnds cfg w t o w' := by
  refine sat_bind (R := fun t o w' ↦ w = w' ∧ t = [⟨.portal (.mkdir cfg.profileDir), o⟩])
    (sat_ask_only (fun _ _ ↦ rfl) fun a ↦ ⟨rfl, rfl⟩) ?_ ?_
  swap
  · rintro _ e _ ⟨rfl, rfl⟩
    exact ⟨rfl, rfl, by simp, Or.inl ⟨by simp, e, rfl⟩⟩
  rintro _ u _ ⟨rfl, rfl⟩
  refine sat_bind (R := fun t o w' ↦ t = [⟨.portal (.managerEnter cfg.profileDir), o⟩] ∧
    w'.portal.held = w.portal.held ∧ w'.portal.unconfirmed = w.portal.unconfirmed ∧
    ∀ m, o = .ok m → (m, cfg.profileDir) ∈ w'.portal.running)
    (sat_ask_portal fun b a s hs ↦ ?_) ?_ ?_
  · cases b with
    | error e =>
      cases hs
      exact ⟨rfl, rfl, rfl, by simp⟩
    | ok m =>
      cases hs
      refine ⟨rfl, rfl, rfl, ?_⟩
      rintro _ ⟨⟩
      exact List.mem_cons_self
  swap
  · rintro _ e w₁ ⟨rfl, hheld, hunconfirmed, -⟩
    exact ⟨hheld, hunconfirmed, by simp, Or.inl ⟨by simp, e, rfl⟩⟩
  rintro _ m w₁ ⟨rfl, hheld, hunconfirmed, hrunning⟩
  have hends : ∀ {t : List Happening} {o : Except Exn ManagerId}, (∀ e ∈ t, e.1.IsPreparing) →
      (o = .ok m ∧ Survives cfg t ∨ (∃ e, o = .error e) ∧ ¬Survives cfg t) →
      StartEnds cfg w (⟨.portal (.mkdir cfg.profileDir), .ok ()⟩ ::
        ⟨.portal (.managerEnter cfg.profileDir), .ok m⟩ :: t) o w₁ := by
    intro t o ht ho
    have hsame : Survives cfg (⟨.portal (.mkdir cfg.profileDir), .ok ()⟩ ::
        ⟨.portal (.managerEnter cfg.profileDir), .ok m⟩ :: t) ↔ Survives cfg t := by
      refine Survives.of_mem_iff fun e he ↦ ⟨fun hmem ↦ ?_, fun hmem ↦
        List.mem_cons_of_mem _ (List.mem_cons_of_mem _ hmem)⟩
      rcases List.mem_cons.mp hmem with rfl | hmem
      · exact he.elim id id |>.elim
      · rcases List.mem_cons.mp hmem with rfl | hmem
        · exact he.elim id id |>.elim
        · exact hmem
    refine ⟨hheld, hunconfirmed, fun l a hmem ↦ ?_, Or.inr ⟨m, fun m' dir ↦ ?_, hrunning m rfl, ?_⟩⟩
    · simp only [List.mem_cons, Sigma.mk.injEq, Request.portal.injEq, reduceCtorEq, false_and,
        false_or] at hmem
      exact (ht _ hmem).elim id id
    · constructor
      · intro hmem
        rcases List.mem_cons.mp hmem with hmem | hmem
        · cases hmem
        · rcases List.mem_cons.mp hmem with hmem | hmem
          · cases hmem
            exact ⟨rfl, rfl⟩
          · exact ((ht _ hmem).elim id id).elim
      · rintro ⟨rfl, rfl⟩
        simp
    · rw [hsame]
      exact ho
  refine sat_bind sat_preparePage ?_ ?_
  · rintro t u _ ⟨rfl, ht, ho⟩
    rw [← List.append_nil t] at ho
    exact sat_pure (hends (by simpa using ht) (Or.inl ⟨rfl, ho.mp rfl⟩))
  · rintro t e _ ⟨rfl, ht, ho⟩
    refine hends ht (Or.inr ⟨⟨e, rfl⟩, fun h ↦ ?_⟩)
    have := ho.mpr h
    cases this

/-- The steps around the start of the browser do not matter to its preparation. -/
theorem survives_of_locking {t₁ t₂ t₃ : List Happening} (h₁ : ∀ e ∈ t₁, e.1.IsLocking)
    (h₃ : ∀ e ∈ t₃, e.1.IsLocking) : Survives cfg (t₁ ++ (t₂ ++ t₃)) ↔ Survives cfg t₂ := by
  refine Survives.of_mem_iff fun e he ↦ ?_
  have hnot : ¬e.1.IsLocking := fun hlock ↦ by
    obtain ⟨r, a⟩ := e
    cases r with
    | portal q => cases q <;> first | exact hlock | exact he.elim id id
    | _ => exact hlock
  simp only [List.mem_append]
  exact ⟨fun h ↦ (h.resolve_left fun h ↦ hnot (h₁ e h)).resolve_right fun h ↦ hnot (h₃ e h),
    fun h ↦ Or.inr (Or.inl h)⟩

theorem sat_aenter :
    Sat world (CamoufoxReader.aenter cfg) w fun t _ w' ↦
      (ProfileSafe t w' ↔ ∀ m dir, ⟨.portal (.managerEnter dir), .ok m⟩ ∈ t → Survives cfg t) := by
  refine sat_bind sat_acquireProfileLock ?_ ?_
  swap
  · rintro t e w₁ ⟨ht, -, -, -, -, hnone⟩
    exact ⟨fun _ m dir hm ↦ (ht _ hm).elim,
      fun _ lock m dir hlock ↦ absurd hlock (hnone lock ())⟩
  rintro t₁ lock w₁ ⟨ht₁, -, -, hunconfirmed, hpath, hheld, hfree, hacquired⟩
  refine sat_attempt_bind sat_startBrowser ?_
  rintro t₂ o w₂ ⟨hheld₂, hunconfirmed₂, hnoacquire, hstart⟩
  have hlock : ∀ {t₃ : List Happening} {l a}, (∀ l a, ⟨.portal (.acquire l), .ok a⟩ ∉ t₃) →
      ⟨.portal (.acquire l), .ok a⟩ ∈ t₁ ++ (t₂ ++ t₃) → l = lock := by
    intro t₃ l a h₃ hmem
    rcases List.mem_append.mp hmem with hmem | hmem
    · exact (hacquired l a).mp hmem
    · exact absurd hmem (by simp [hnoacquire, h₃])
  cases o with
  | ok m =>
    obtain ⟨-, e, ho⟩ | ⟨m', hm', -, ⟨-, hsurvives⟩ | ⟨⟨e, ho⟩, -⟩⟩ := hstart
    · cases ho
    · refine sat_pure ⟨fun _ _ _ _ ↦ (survives_of_locking ht₁ (by simp)).mpr hsurvives,
        fun _ l m dir hl _ hfree ↦ absurd ?_ hfree⟩
      rw [hlock (by simp) hl]
      exact hheld₂ ▸ hheld
    · cases ho
  | error e =>
    refine sat_bind sat_releaseProfileLock ?_ ?_
    · rintro t₃ u w₃ ⟨ht₃, -, -, hrunning, -, -, hreleased⟩
      rw [hunconfirmed₂, hunconfirmed, hpath, hfree] at hreleased
      have ht₃' : ∀ e ∈ t₃ ++ [], e.1.IsLocking := by simpa using ht₃
      refine sat_throw ⟨fun hsafe m dir hm ↦ ?_, fun hall l m dir hl hm ↦ ?_⟩
      · obtain ⟨hnone, -⟩ | ⟨m', hm', hrun, ⟨ho, -⟩ | -⟩ := hstart
        · exfalso
          rcases List.mem_append.mp hm with hm | hm
          · exact ht₁ _ hm
          · rcases List.mem_append.mp hm with hm | hm
            · exact hnone m dir hm
            · exact ht₃' _ hm
        · cases ho
        · -- the browser is running and the lock is free
          refine absurd rfl (hsafe lock m' cfg.profileDir ?_ ?_ hreleased (m', cfg.profileDir) ?_)
          · exact List.mem_append_left _ ((hacquired lock ()).mpr rfl)
          · exact List.mem_append_right _ (List.mem_append_left _ ((hm' m' _).mpr ⟨rfl, rfl⟩))
          · rw [hrunning]
            exact hrun
      · obtain ⟨hnone, -⟩ | ⟨m', hm', hrun, ⟨ho, -⟩ | ⟨-, hnot⟩⟩ := hstart
        · exfalso
          rcases List.mem_append.mp hm with hm | hm
          · exact ht₁ _ hm
          · rcases List.mem_append.mp hm with hm | hm
            · exact hnone m dir hm
            · exact ht₃' _ hm
        · cases ho
        · exact absurd ((survives_of_locking ht₁ ht₃').mp (hall m dir hm)) hnot
    · rintro t₃ e' w₃ ⟨-, -, -, -, -, ho, -⟩
      cases ho

/-- **When opening the reader is safe**: if and only if, once the browser has started, every later
step is survived. -/
theorem aenter_safe_iff {t : List Happening} {o : Except Exn CamoufoxReader} {w' : World}
    (h : Exec world (CamoufoxReader.aenter cfg) w t o w') :
    ProfileSafe t w' ↔ ∀ m dir, ⟨.portal (.managerEnter dir), .ok m⟩ ∈ t → Survives cfg t :=
  sat_aenter.exec h

end

/-- Nothing goes wrong, but the session-state file contains a list instead of an object. -/
def listInFile (_ : ℕ) : (r : Request) → Except Exn r.Val
  | .portal (.readStateFile _) => .ok (.json (.arr [.null]))
  | r => routine r

/-- With such a file the lock is free after the opening has failed, and the browser runs. -/
theorem not_aenter_safe :
    ¬∀ w t o w', Exec world (CamoufoxReader.aenter .standard) w t o w' → ProfileSafe t w' := by
  intro h
  have hexec := exec_run serve listInFile (CamoufoxReader.aenter .standard) 0 .start
  refine h _ _ _ _ hexec ⟨0, "data/profile.lock"⟩ 0 "data/profile" ?_ ?_ ?_
    (0, "data/profile") ?_ rfl
  · exact List.mem_iff_getElem.mpr ⟨3, by decide +kernel, rfl⟩
  · exact List.mem_iff_getElem.mpr ⟨5, by decide +kernel, rfl⟩
  · decide +kernel
  · exact List.mem_singleton_self _

/-- An opening in which nothing goes wrong is safe. -/
theorem aenter_safe_routine :
    ProfileSafe (run serve (fun _ ↦ routine) (CamoufoxReader.aenter .standard) 0 .start).1
      (run serve (fun _ ↦ routine) (CamoufoxReader.aenter .standard) 0 .start).2.2 := by
  refine (aenter_safe_iff (exec_run serve (fun _ ↦ routine) (CamoufoxReader.aenter .standard) 0
    .start)).mpr fun m dir _ ↦ ?_
  have hevents : (run serve (fun _ ↦ routine) (CamoufoxReader.aenter .standard) 0 .start).1 =
      [⟨.portal (.unconfirmedGet "data/profile.lock"), .ok none⟩, ⟨.portal (.mkdir "data"), .ok ()⟩,
        ⟨.portal (.newFileLock "data/profile.lock"), .ok ⟨0, "data/profile.lock"⟩⟩,
        ⟨.portal (.acquire ⟨0, "data/profile.lock"⟩), .ok ()⟩,
        ⟨.portal (.mkdir "data/profile"), .ok ()⟩,
        ⟨.portal (.managerEnter "data/profile"), .ok (0 : ℕ)⟩, ⟨.portal (.route (0 : ℕ)), .ok ()⟩,
        ⟨.portal (.readStateFile "data/session.json"), .ok .absent⟩,
        ⟨.portal (.contextPages (0 : ℕ)), .ok true⟩] := rfl
  rw [hevents]
  constructor
  case file =>
    intro path a ha
    simp only [List.mem_cons, Sigma.mk.injEq, Request.portal.injEq, reduceCtorEq, false_and,
      false_or, List.not_mem_nil, or_false, PortalRequest.readStateFile.injEq] at ha
    obtain ⟨rfl, ha⟩ := ha
    exact ⟨.absent, eq_of_heq ha, trivial⟩
  all_goals simp

end RmaPortal
