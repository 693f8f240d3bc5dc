import RmaPortal.Infrastructure.Portal.JsonDecoder
import RmaPortal.Session.Origins

/-!
# Which files of a saved session are tolerated

When a reader is entered it loads the file of the saved session, whatever it holds, and restores
what it finds.  `Tolerated` says that this does not raise, unless it is interrupted, and
`HarmlessFile` which files these are: `tolerated_iff`.

## What is here

* `SavedFile` — a file that is not there, one that can not be read, or one with some bytes.
  Nothing is assumed of the bytes: decoding them is part of the model, and so is the JSON reader,
  with its limit on the depth of what is nested.
* `restoreSaved` — what `__aenter__` does with it: load, and restore if there is a state.
* `FileServed` — the surroundings: the file is what it is, and the browser context raises nothing
  but an `Exception`.  `Tolerated` quantifies over all of them.
* `EntriesReadable`, `Counted`, `WellTyped` — a state that can be restored.  The code searches the
  entries of `origins` for the first one of its origin, so an entry that is no object is in the
  way only if it comes before that; and what is put into the storages is counted for the log, so
  it must have a length.
* `HarmlessFile` — the file holds nothing that raises: it is not there, it can not be read, it is
  UTF-8 without being JSON, or its state is empty or well typed.
* `originEntry_isOk_iff`, `restoreLocalItems_isOk_iff`, `restoreSessionItems_isOk_iff`,
  `countable_iff` — the looks into the state, each with the condition under which it does not
  raise.
* `WellTyped.ends` and `wellTyped_of_ends` — the two directions for a state, and
  `HarmlessFile.tolerated` and `Tolerated.harmless` for a file.
* `not_tolerated` — a file of one byte that is not UTF-8: `UnicodeDecodeError` is none of the
  exceptions that loading a file catches.

Which failures of the browser are caught on the way is not part of the condition:
`ends_addCookies` and `ends_addInitScript` say that none of them gets through, as long as it is an
`Exception`.
-/

set_option autoImplicit false

open Coroutine

namespace RmaPortal

open SavedState

/-! ## Files -/

/-- The file of a saved session. -/
inductive SavedFile
  | absent
  /-- Opening or reading it raises `OSError`. -/
  | unreadable
  | bytes (content : ByteArray)

namespace SavedFile

/-- What comes of reading it: `json.load`, where the interpreter has room for `depth` nested
values. -/
def read (depth : ℕ) : SavedFile → Except Exn StateFile
  | absent => .ok .absent
  | unreadable => .ok .unreadable
  | bytes content =>
    match String.fromUTF8? content with
    | none => .ok .undecodable
    | some text =>
      match JsonDecoder.loads depth text.toList with
      | .ok state => .ok (.json state)
      | .error e => if e.typeName = "JSONDecodeError" then .ok .malformed else .error e

end SavedFile

/-- What `__aenter__` does with the file of the saved session. -/
def restoreSaved (path : String) (m : ManagerId) (origin : String) : Prog Unit := do
  let savedState ← loadSessionState path
  restoreSessionState m savedState origin

/-- The file is read, and the browser context raises nothing but an `Exception`. -/
def FileServed (depth : ℕ) (file : SavedFile) (t : List Happening) : Prop :=
  (∀ path answer, (⟨.portal (.readStateFile path), answer⟩ : Happening) ∈ t →
    answer = file.read depth) ∧
  ∀ e ∈ t, Restores e.1 → ∀ x, e.2 = .error x → x.isException = true

/-- **The file is tolerated**: nothing is raised, and if there is no state in it then nothing is
restored. -/
def Tolerated (depth : ℕ) (file : SavedFile) (origin : String) : Prop :=
  ∀ (path : String) (m : ManagerId) (t : List Happening) (o : Except Exn Unit),
    Ends (restoreSaved path m origin) t o → FileServed depth file t →
      o = .ok () ∧ ((∀ state, file.read depth ≠ .ok (.json state)) → ∀ e ∈ t, ¬Restores e.1)

/-! ## Which files are tolerated -/

def Json.IsObj (v : Json) : Prop := ∃ fields, v = .obj fields

/-- What is iterated over as the entries of `origins` are objects, up to the first one for the
origin. -/
def EntriesReadable (state : Json) (origin : String) : Prop :=
  ∃ l, (state.getD "origins" (.arr [])).elements = some l ∧
    ∀ entry ∈ l.takeWhile fun entry ↦ !decide (CapturedFor origin entry), entry.IsObj

/-- If there is anything to put into the storages, everything can be counted. -/
def Counted (state : Json) (origin : String) : Prop :=
  (localItems state origin).truthy = true ∨ (sessionItems state origin).truthy = true →
    ((cookies state).truthy = true → (cookies state).hasLen = true) ∧
      (localItems state origin).hasLen = true ∧ (sessionItems state origin).hasLen = true

/-- A state that can be restored. -/
structure WellTyped (state : Json) (origin : String) : Prop where
  isObj : state.IsObj
  entries : EntriesReadable state origin
  sessionEntry : (sessionEntry state).truthy = false ∨ (sessionEntry state).IsObj
  counted : Counted state origin

/-- The file holds nothing that raises: it is not there, it cannot be read, it is UTF-8 without
being JSON, or its state is empty or well typed. -/
def HarmlessFile (depth : ℕ) (file : SavedFile) (origin : String) : Prop :=
  match file.read depth with
  | .ok (.json state) => state.truthy = false ∨ WellTyped state origin
  | .ok .undecodable => False
  | .ok _ => True
  | .error _ => False

/-! ## Looking into the state -/

section

variable {state v default : Json} {origin key : String} {l : List Json}

theorem getField_isOk_iff (v : Json) (key : String) (default : Json) :
    (∃ x, getField v key default = .ok x) ↔ v.IsObj := by
  cases v with
  | obj fields => exact ⟨fun _ ↦ ⟨fields, rfl⟩, fun _ ↦ ⟨_, rfl⟩⟩
  | _ => exact ⟨(nomatch ·), (nomatch ·)⟩

theorem not_capturedFor_of_not_isObj (h : ¬v.IsObj) : ¬CapturedFor origin v := by
  cases v with
  | obj fields => exact (h ⟨fields, rfl⟩).elim
  | _ => rintro ⟨⟩

/-- The search for an entry looks at objects only, or it raises. -/
theorem originEntry_isOk_iff : (∃ x, originEntry origin l = .ok x) ↔
    ∀ entry ∈ l.takeWhile fun entry ↦ !decide (CapturedFor origin entry), entry.IsObj := by
  induction l with
  | nil => simp [originEntry]
  | cons entry l ih =>
    rw [originEntry]
    cases hname : getField entry "origin" .null with
    | error e =>
      have hobj : ¬entry.IsObj := by
        rw [← getField_isOk_iff entry "origin" .null, hname]
        rintro ⟨x, ⟨⟩⟩
      rw [List.takeWhile_cons_of_pos (by simpa using not_capturedFor_of_not_isObj hobj)]
      refine ⟨?_, fun hall ↦ (hobj (hall entry (by simp))).elim⟩
      rintro ⟨x, ⟨⟩⟩
    | ok name =>
      have hobj : entry.IsObj := (getField_isOk_iff ..).mp ⟨name, hname⟩
      have hcaptured : CapturedFor origin entry ↔ name.isStr origin = true := by
        rw [CapturedFor, getField_eq_ok hname]
      change (∃ x, (if name.isStr origin then _ else _) = _) ↔ _
      split
      · rename_i hmatch
        rw [List.takeWhile_cons_of_neg (by simpa using hcaptured.mpr hmatch)]
        simp
      · rename_i hother
        rw [List.takeWhile_cons_of_pos (by simpa using hcaptured.not.mpr hother), ih]
        simp [hobj]

theorem restoreLocalItems_isOk_iff (hobj : state.IsObj) :
    (∃ x, restoreLocalItems state origin = .ok x) ↔ EntriesReadable state origin := by
  obtain ⟨origins, horigins⟩ := (getField_isOk_iff state "origins" (.arr [])).mpr hobj
  rw [EntriesReadable, ← getField_eq_ok horigins, restoreLocalItems, horigins]
  change (∃ x, (elements origins >>= _) = .ok x) ↔ _
  rw [elements]
  cases origins.elements with
  | none => exact ⟨fun ⟨x, hx⟩ ↦ (by cases hx), fun ⟨l, hl, _⟩ ↦ (by cases hl)⟩
  | some l =>
    change (∃ x, (originEntry origin l >>= _) = .ok x) ↔ _
    simp only [Option.some.injEq, exists_eq_left', ← originEntry_isOk_iff]
    cases hentry : originEntry origin l with
    | error e => exact ⟨fun ⟨x, hx⟩ ↦ (by cases hx), fun ⟨x, hx⟩ ↦ by cases hx⟩
    | ok x =>
      refine ⟨fun _ ↦ ⟨x, rfl⟩, fun _ ↦ ?_⟩
      cases x with
      | none => exact ⟨_, rfl⟩
      | some entry =>
        have hcaptured := List.find?_some (p := fun x ↦ decide (CapturedFor origin x))
          (originEntry_eq_ok hentry).symm
        have hentryObj : entry.IsObj := by
          by_contra h
          exact not_capturedFor_of_not_isObj h (of_decide_eq_true hcaptured)
        change ∃ x, (if entry.truthy then _ else _) = _
        split
        · exact (getField_isOk_iff ..).mpr hentryObj
        · exact ⟨_, rfl⟩

theorem restoreSessionItems_isOk_iff (hobj : state.IsObj) :
    (∃ x, restoreSessionItems state origin = .ok x) ↔
      (sessionEntry state).truthy = false ∨ (sessionEntry state).IsObj := by
  obtain ⟨x, hx⟩ := (getField_isOk_iff state "session_storage" .null).mpr hobj
  have hentry : getOr state "session_storage" (.obj []) =
      .ok (if (sessionEntry state).truthy then sessionEntry state else .obj []) := by
    rw [getOr, hx, getField_eq_ok hx]
    rfl
  rw [restoreSessionItems, hentry]
  generalize hentry' :
    (if (sessionEntry state).truthy then sessionEntry state else .obj []) = entry
  change (∃ x, (getField entry "origin" .null >>= _) = .ok x) ↔ _
  have hiff : entry.IsObj ↔ (sessionEntry state).truthy = false ∨ (sessionEntry state).IsObj := by
    subst hentry'
    split
    · rename_i htruthy
      simp [htruthy]
    · rename_i hfalse
      simp only [Bool.not_eq_true] at hfalse
      exact ⟨fun _ ↦ .inl hfalse, fun _ ↦ ⟨[], rfl⟩⟩
  rw [← hiff]
  constructor
  · rintro ⟨y, hy⟩
    refine (getField_isOk_iff entry "origin" .null).mp ?_
    cases hname : getField entry "origin" .null with
    | error e => rw [hname] at hy; cases hy
    | ok name => exact ⟨name, rfl⟩
  · intro hentryObj
    obtain ⟨name, hname⟩ := (getField_isOk_iff entry "origin" .null).mpr hentryObj
    rw [hname]
    change ∃ x, (if name.isStr origin then _ else _) = _
    split
    · exact (getField_isOk_iff ..).mpr hentryObj
    · exact ⟨_, rfl⟩

theorem restoreCookies_eq (hobj : state.IsObj) :
    restoreCookies state = .ok (if (cookies state).truthy then cookies state else .arr []) := by
  obtain ⟨fields, rfl⟩ := hobj
  rfl

theorem countable_iff : countable ⟨if (cookies state).truthy then cookies state else .arr [],
    localItems state origin, sessionItems state origin⟩ = true ↔
      ((cookies state).truthy = true → (cookies state).hasLen = true) ∧
        (localItems state origin).hasLen = true ∧ (sessionItems state origin).hasLen = true := by
  rw [countable, Bool.and_eq_true, Bool.and_eq_true, and_assoc]
  refine and_congr_left' ?_
  split
  · rename_i htruthy
    simp [htruthy]
  · rename_i hfalse
    simp [hfalse, Json.hasLen]

end

/-! ## Running -/

/-- The browser context raises nothing but an `Exception`. -/
def Suppressible (t : List Happening) : Prop :=
  ∀ e ∈ t, Restores e.1 → ∀ x, e.2 = .error x → x.isException = true

section

variable {m : ManagerId} {state c : Json} {origin : String} {plan : RestorePlan}
  {t t' : List Happening} {o : Except Exn Unit}

theorem suppressible_append :
    Suppressible (t ++ t') ↔ Suppressible t ∧ Suppressible t' := by
  simp only [Suppressible, List.mem_append, or_imp, forall_and]

theorem ends_ifException {e : Exn} (he : e.isException = true)
    (h : Ends (if e.isException then pure () else throw e : Prog Unit) t o) : o = .ok () := by
  rw [if_pos he] at h
  exact (ends_done_iff.mp h).2

/-- No failure of `add_cookies` gets through. -/
theorem ends_addCookies (h : Ends (addCookies m c) t o) (ht : Suppressible t) : o = .ok () := by
  rw [addCookies] at h
  split at h
  · obtain ⟨t₁, o₁, t₂, rfl, hcookies, hrest⟩ := Ends.of_attempt_bind h
    obtain rfl := ends_perform_iff.mp hcookies
    cases o₁ with
    | ok u => exact (ends_done_iff.mp hrest).2
    | error e =>
      have he := ht _ (List.mem_append_left _ List.mem_cons_self) trivial e rfl
      exact ends_ifException he hrest
  · exact (ends_done_iff.mp h).2

/-- No failure of `add_init_script` does either, but after it what was restored is counted. -/
theorem ends_addInitScript (h : Ends (addInitScript m origin plan) t o) (ht : Suppressible t) :
    o = .ok () ∨ (plan.localItems.truthy = true ∨ plan.sessionItems.truthy = true) ∧
      countable plan = false := by
  rw [addInitScript] at h
  split at h
  · exact .inl (ends_done_iff.mp h).2
  · rename_i hitems
    obtain ⟨t₁, o₁, t₂, rfl, hscript, hrest⟩ := Ends.of_attempt_bind h
    obtain rfl := ends_perform_iff.mp hscript
    cases o₁ with
    | ok u =>
      dsimp only at hrest
      split at hrest
      · exact .inl (ends_done_iff.mp hrest).2
      · rename_i hcount
        refine .inr ⟨?_, by simpa using hcount⟩
        simpa [or_iff_not_imp_left] using hitems
    | error e =>
      have he := ht _ (List.mem_append_left _ List.mem_cons_self) trivial e rfl
      exact .inl (ends_ifException he hrest)

/-- If the script is registered and the program returns, then what was restored can be counted. -/
theorem countable_of_ends (h : Ends (addInitScript m origin plan) t (.ok ()))
    (ht : ∀ e ∈ t, ∀ x, e.2 ≠ .error x)
    (hitems : plan.localItems.truthy = true ∨ plan.sessionItems.truthy = true) :
    countable plan = true := by
  rw [addInitScript, if_neg (by simpa [or_iff_not_imp_left] using hitems)] at h
  obtain ⟨t₁, o₁, t₂, rfl, hscript, hrest⟩ := Ends.of_attempt_bind h
  obtain rfl := ends_perform_iff.mp hscript
  cases o₁ with
  | error e => exact (ht _ (List.mem_append_left _ List.mem_cons_self) e rfl).elim
  | ok u =>
    dsimp only at hrest
    split at hrest
    · assumption
    · cases (ends_done_iff.mp hrest).2

theorem ends_outcome_bind {α : Type} {o' : Except Exn α} {f : α → Prog Unit}
    (h : Ends (outcome o' >>= f) t o) :
    (∃ e, o' = .error e ∧ o = .error e) ∨ ∃ v, o' = .ok v ∧ Ends (f v) t o := by
  cases o' with
  | error e => exact .inl ⟨e, rfl, (ends_done_iff.mp h).2⟩
  | ok v => exact .inr ⟨v, rfl, h⟩

theorem ends_outcome_ok_bind {α : Type} {v : α} {f : α → Prog Unit} :
    Ends (outcome (.ok v) >>= f) t o ↔ Ends (f v) t o := Iff.rfl

/-- **A well-typed state is restored.** -/
theorem WellTyped.ends (hstate : WellTyped state origin)
    (h : Ends (restoreSessionState m (some state) origin) t o) (ht : Suppressible t) :
    o = .ok () := by
  rw [restoreSessionState] at h
  split at h
  · exact (ends_done_iff.mp h).2
  obtain ⟨l, hl⟩ := (restoreLocalItems_isOk_iff hstate.isObj).mpr hstate.entries
  obtain ⟨i, hi⟩ := (restoreSessionItems_isOk_iff hstate.isObj).mpr hstate.sessionEntry
  rw [restoreCookies_eq hstate.isObj, hl, hi, ends_outcome_ok_bind] at h
  rcases ends_bind_iff.mp h with ⟨e, hcookies, rfl⟩ | ⟨t₁, u, t₂, rfl, hcookies, hrest⟩
  · exact ends_addCookies hcookies ht
  · obtain ⟨-, ht₂⟩ := suppressible_append.mp ht
    rw [ends_outcome_ok_bind, ends_outcome_ok_bind] at hrest
    refine (ends_addInitScript hrest ht₂).resolve_right ?_
    rintro ⟨hitems, hcount⟩
    rw [restoreLocalItems_eq_ok hl, restoreSessionItems_eq_ok hi] at hitems hcount
    exact Bool.false_ne_true (hcount.symm.trans (countable_iff.mpr (hstate.counted hitems)))

/-- **What is restored is well typed**, if nothing fails. -/
theorem wellTyped_of_ends (h : Ends (restoreSessionState m (some state) origin) t (.ok ()))
    (ht : ∀ e ∈ t, ∀ x, e.2 ≠ .error x) (hstate : state.truthy = true) :
    WellTyped state origin := by
  rw [restoreSessionState, if_neg (by simpa using hstate)] at h
  have hobj : state.IsObj := by
    by_contra hobj
    rcases ends_outcome_bind h with ⟨e, -, ho⟩ | ⟨c, hc, -⟩
    · cases ho
    · rw [restoreCookies, getOr] at hc
      cases hfield : getField state "cookies" .null with
      | error e => rw [hfield] at hc; cases hc
      | ok x => exact hobj ((getField_isOk_iff ..).mp ⟨x, hfield⟩)
  rw [restoreCookies_eq hobj, ends_outcome_ok_bind] at h
  rcases ends_bind_iff.mp h with ⟨e, -, ho⟩ | ⟨t₁, u, t₂, rfl, -, hrest⟩
  · cases ho
  rcases ends_outcome_bind hrest with ⟨e, -, ho⟩ | ⟨l, hl, hrest⟩
  · cases ho
  rcases ends_outcome_bind hrest with ⟨e, -, ho⟩ | ⟨i, hi, hrest⟩
  · cases ho
  refine ⟨hobj, (restoreLocalItems_isOk_iff hobj).mp ⟨l, hl⟩,
    (restoreSessionItems_isOk_iff hobj).mp ⟨i, hi⟩, fun hitems ↦ countable_iff.mp ?_⟩
  rw [restoreLocalItems_eq_ok hl, restoreSessionItems_eq_ok hi] at hrest
  exact countable_of_ends hrest (fun e he ↦ ht e (List.mem_append_right _ he)) hitems

end

/-! ## The file -/

/-- What `load_session_state` makes of a file. -/
def loaded : StateFile → Except Exn (Option Json)
  | .undecodable => .error (.exception "UnicodeDecodeError" "invalid start byte")
  | .json state => .ok (some state)
  | _ => .ok none

theorem loadSessionState_eq (path : String) : loadSessionState path =
    (portal (.readStateFile path) >>= fun file ↦ outcome (loaded file)) := by
  refine congrArg (portal (.readStateFile path) >>= ·) (funext fun file ↦ ?_)
  cases file <;> rfl

section

variable {depth : ℕ} {file : SavedFile} {path : String} {m : ManagerId} {state : Json}
  {origin : String} {t : List Happening} {o : Except Exn Unit}

/-- The file is read, and then the state is restored if there is one. -/
theorem of_ends_restoreSaved (h : Ends (restoreSaved path m origin) t o) :
    (∃ e, t = [⟨.portal (.readStateFile path), .error e⟩] ∧ o = .error e) ∨ ∃ stateFile t',
      t = ⟨.portal (.readStateFile path), .ok stateFile⟩ :: t' ∧
        Ends (outcome (loaded stateFile) >>= (restoreSessionState m · origin)) t' o := by
  rw [restoreSaved, loadSessionState_eq] at h
  rcases ends_bind_iff.mp h with ⟨e, hload, rfl⟩ | ⟨t₁, state, t₂, rfl, hload, hrest⟩
  · rcases ends_bind_iff.mp hload with ⟨e', hread, ho⟩ | ⟨t₁, stateFile, t₂, rfl, hread, hloaded⟩
    · cases ho
      exact .inl ⟨e, ends_perform_iff.mp hread, rfl⟩
    · obtain rfl := ends_perform_iff.mp hread
      obtain ⟨rfl, hstate⟩ := ends_done_iff.mp hloaded
      refine .inr ⟨stateFile, [], rfl, ?_⟩
      rw [← hstate]
      exact ends_done_iff.mpr ⟨rfl, rfl⟩
  · rcases ends_bind_iff.mp hload with ⟨e, -, ho⟩ | ⟨t₁, stateFile, t₃, rfl, hread, hloaded⟩
    · cases ho
    · obtain rfl := ends_perform_iff.mp hread
      obtain ⟨rfl, hstate⟩ := ends_done_iff.mp hloaded
      refine .inr ⟨stateFile, t₂, rfl, ?_⟩
      rw [← hstate]
      exact hrest

/-- Without a state there is nothing to restore. -/
theorem of_ends_restoreSaved_none {stateFile : StateFile} (hnone : loaded stateFile = .ok none)
    (h : Ends (outcome (loaded stateFile) >>= fun state ↦ restoreSessionState m state origin) t o) :
    t = [] ∧ o = .ok () := by
  rw [hnone] at h
  exact ends_done_iff.mp h

theorem ends_of_falsy (hstate : state.truthy = false)
    (h : Ends (restoreSessionState m (some state) origin) t o) : t = [] ∧ o = .ok () := by
  rw [restoreSessionState, if_pos (by simpa using hstate)] at h
  exact ends_done_iff.mp h

/-- A harmless file is tolerated. -/
theorem HarmlessFile.tolerated (hfile : HarmlessFile depth file origin) :
    Tolerated depth file origin := by
  intro path m t o h ⟨hread, hsuppressible⟩
  have hnot : ∀ answer, ¬Restores (⟨.portal (.readStateFile path), answer⟩ : Happening).1 :=
    fun _ h ↦ h
  rcases of_ends_restoreSaved h with ⟨e, rfl, -⟩ | ⟨stateFile, t', rfl, hrest⟩
  · rw [HarmlessFile, ← hread path _ List.mem_cons_self] at hfile
    exact hfile.elim
  · have hanswer := hread path _ List.mem_cons_self
    rw [HarmlessFile, ← hanswer] at hfile
    have hsuppressible' : Suppressible t' := fun e he ↦
      hsuppressible e (List.mem_cons_of_mem _ he)
    have hnothing : loaded stateFile = .ok none → o = .ok () ∧
        ((∀ state, file.read depth ≠ .ok (.json state)) →
          ∀ e ∈ (⟨.portal (.readStateFile path), .ok stateFile⟩ : Happening) :: t',
            ¬Restores e.1) := by
      intro hnone
      obtain ⟨rfl, ho⟩ := of_ends_restoreSaved_none hnone hrest
      refine ⟨ho, fun _ e he ↦ ?_⟩
      rw [List.mem_singleton.mp he]
      exact hnot _
    cases stateFile with
    | absent => exact hnothing rfl
    | unreadable => exact hnothing rfl
    | malformed => exact hnothing rfl
    | undecodable => exact hfile.elim
    | json state =>
      refine ⟨?_, fun hnone ↦ (hnone state hanswer.symm).elim⟩
      rcases hfile with hfalsy | hwell
      · exact (ends_of_falsy hfalsy hrest).2
      · exact hwell.ends hrest hsuppressible'

/-- What the surroundings answer when nothing goes wrong. -/
def fileAnswers (depth : ℕ) (file : SavedFile) : (r : Request) → Except Exn r.Val
  | .portal (.readStateFile _) => file.read depth
  | r => routine r

theorem fileAnswers_of_restores {q : Request} (hq : Restores q) (x : Exn) :
    fileAnswers depth file q ≠ .error x := by
  cases q with
  | portal q =>
    cases q with
    | addCookies m c => exact fun h ↦ by cases h
    | addInitScript m origin localItems sessionItems => exact fun h ↦ by cases h
    | _ => exact hq.elim
  | _ => exact hq.elim

theorem fileServed_of_fileAnswers (ht : ∀ e ∈ t, e.2 = fileAnswers depth file e.1) :
    FileServed depth file t := by
  refine ⟨fun path answer h ↦ ht _ h, fun e he hrestores x hx ↦ ?_⟩
  exact (fileAnswers_of_restores hrestores x ((ht e he).symm.trans hx)).elim

/-- What restoring a state asks for. -/
theorem restores_of_ends (h : Ends (restoreSessionState m (some state) origin) t o) :
    ∀ e ∈ t, Restores e.1 := by
  rintro ⟨q, answer⟩ he
  have hown := only_restoresOwn.of_ends h _ he
  cases q with
  | portal q => cases q <;> first | exact trivial | exact hown.elim
  | _ => exact hown.elim

/-- A file that is tolerated is harmless. -/
theorem Tolerated.harmless (h : Tolerated depth file origin) : HarmlessFile depth file origin := by
  obtain ⟨t, o, hends, ht⟩ := exists_ends_of (fileAnswers depth file) (restoreSaved "" 0 origin)
  obtain ⟨rfl, -⟩ := h "" 0 t o hends (fileServed_of_fileAnswers ht)
  rw [HarmlessFile]
  rcases of_ends_restoreSaved hends with ⟨e, -, ho⟩ | ⟨stateFile, t', rfl, hrest⟩
  · cases ho
  · rw [show file.read depth = .ok stateFile from (ht _ List.mem_cons_self).symm]
    cases stateFile with
    | absent => trivial
    | unreadable => trivial
    | malformed => trivial
    | undecodable =>
      cases (ends_done_iff.mp hrest).2
    | json state =>
      refine (Bool.eq_false_or_eq_true state.truthy).symm.imp_right fun htruthy ↦ ?_
      refine wellTyped_of_ends hrest (fun e he x hx ↦ ?_) htruthy
      exact fileAnswers_of_restores (restores_of_ends hrest e he) x
        ((ht e (List.mem_cons_of_mem _ he)).symm.trans hx)

end

/-- **Which files are tolerated.** -/
theorem tolerated_iff (depth : ℕ) (file : SavedFile) (origin : String) :
    Tolerated depth file origin ↔ HarmlessFile depth file origin :=
  ⟨Tolerated.harmless, HarmlessFile.tolerated⟩

/-- A file that is not UTF-8. -/
def notUtf8 : SavedFile := .bytes ⟨#[0xff]⟩

/-- **It is not tolerated.** -/
theorem not_tolerated : ¬∀ depth file origin, Tolerated depth file origin := by
  intro h
  have hread : notUtf8.read 1000 = .ok .undecodable := by
    rw [notUtf8, SavedFile.read, show String.fromUTF8? ⟨#[0xff]⟩ = none by decide +kernel]
  have hharmless := (h 1000 notUtf8 "https://portal").harmless
  rw [HarmlessFile, hread] at hharmless
  exact hharmless

end RmaPortal
