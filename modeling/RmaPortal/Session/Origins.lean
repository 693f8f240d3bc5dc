import RmaPortal.Coroutine.Calls
import RmaPortal.Infrastructure.Portal.SessionState

/-!
# For which origin a session is restored

A saved session was captured for some origin, and `restoreSessionState` is asked to restore it for
one.  The storages are restored for the origin they were captured for only; the cookies are
restored whatever it was.  `isolated_iff` says when nothing that was captured for another origin
is restored.

## What is here

* `Json.getD`, `Json.items` — a total reading of a JSON value, for statements; the program's own
  reading raises where a value has the wrong type, and then nothing is restored.
* `CapturedFor`, `entries`, `entryFor`, `sessionEntry`, `cookies`, `localItems`, `sessionItems` —
  what there is in a saved state: entries of `origins`, of which the first one for the origin
  counts, the entry of the `sessionStorage`, and the cookies, which belong to no origin.
* `Foreign` — nothing in the state was captured for the origin.
* `Isolated` — nothing captured for another origin is restored: a state that is foreign to the
  origin leads to no request at all, and what is put into the storages was captured for the
  origin.
* `restoreLocalItems_eq_ok`, `restoreSessionItems_eq_ok`, `restoreCookies_eq_ok` — what the
  program's reading gives where it does not raise is what the total one gives.
* `only_restoresOwn` — what is restored is the state's own: its cookies, and what was captured for
  the origin.
* `exists_restores` — cookies are restored, whatever the origin.
* `isolated_iff` — so the claim holds of a state and an origin if and only if the state is not
  foreign to the origin, or has no cookies.
* `not_isolated` — a session that was captured elsewhere.

The state is any JSON value; what a file may do to the program that is none is in
`Session.Tolerance`.
-/

set_option autoImplicit false

open Coroutine

namespace RmaPortal

/-! ## What a saved state holds -/

/-- The value of a key, where there may be none, and where the value may be no object at all. -/
def Json.getD (v : Json) (key : String) (default : Json) : Json := (v.get key default).getD default

/-- The items of a list. -/
def Json.items : Json → List Json
  | arr items => items
  | _ => []

/-- The entry was captured for the origin. -/
def CapturedFor (origin : String) (entry : Json) : Prop :=
  (entry.getD "origin" .null).isStr origin = true

instance (origin : String) (entry : Json) : Decidable (CapturedFor origin entry) :=
  inferInstanceAs (Decidable (_ = true))

namespace SavedState

variable (state : Json) (origin : String)

/-- The entries of `origins`. -/
def entries : List Json := (state.getD "origins" .null).items

/-- The first entry for an origin. -/
def entryFor : Option Json := (entries state).find? fun entry ↦ decide (CapturedFor origin entry)

def sessionEntry : Json := state.getD "session_storage" .null

def cookies : Json := state.getD "cookies" .null

/-- What there is of `localStorage` for an origin. -/
def localItems : Json :=
  (entryFor state origin).elim (.arr []) fun entry ↦ entry.getD "localStorage" (.arr [])

/-- What there is of `sessionStorage` for an origin. -/
def sessionItems : Json :=
  if CapturedFor origin (sessionEntry state) then (sessionEntry state).getD "items" (.obj [])
  else .obj []

/-- Nothing was captured for the origin. -/
def Foreign : Prop :=
  ¬CapturedFor origin (sessionEntry state) ∧ ∀ entry ∈ entries state, ¬CapturedFor origin entry

instance : Decidable (Foreign state origin) := inferInstanceAs (Decidable (_ ∧ _))

/-- The items of `localStorage` were captured for the origin. -/
def OwnLocalItems (localItems : Json) : Prop :=
  localItems = .arr [] ∨ ∃ entry, entryFor state origin = some entry ∧
    localItems = entry.getD "localStorage" (.arr [])

/-- The items of `sessionStorage` were captured for the origin. -/
def OwnSessionItems (sessionItems : Json) : Prop :=
  sessionItems = .obj [] ∨ CapturedFor origin (sessionEntry state) ∧
    sessionItems = (sessionEntry state).getD "items" (.obj [])

end SavedState

open SavedState

/-- A call of the browser context that restores something. -/
def Restores : Request → Prop
  | .portal (.addCookies _ _) => True
  | .portal (.addInitScript _ _ _ _) => True
  | _ => False

/-- **Nothing captured for another origin is restored.** -/
structure Isolated (state : Json) (origin : String) : Prop where
  /-- If nothing was captured for the origin, nothing is restored. -/
  nothing : Foreign state origin → ∀ (m : ManagerId) (t : List Happening) (o : Except Exn Unit),
    Ends (restoreSessionState m (some state) origin) t o → ∀ e ∈ t, ¬Restores e.1
  /-- A script restores what was captured for its origin. -/
  own : ∀ (m : ManagerId) (t : List Happening) (o : Except Exn Unit),
    Ends (restoreSessionState m (some state) origin) t o →
      ∀ m' origin' localItems sessionItems answer,
        (⟨.portal (.addInitScript m' origin' localItems sessionItems), answer⟩ : Happening) ∈ t →
          origin' = origin ∧ OwnLocalItems state origin localItems ∧
            OwnSessionItems state origin sessionItems

/-! ## Looking into the state -/

section

variable {state v default : Json} {origin key : String}

theorem getField_eq_ok (h : getField state key default = .ok v) : v = state.getD key default := by
  rw [getField] at h
  rw [Json.getD]
  cases hget : state.get key default with
  | none => rw [hget] at h; cases h
  | some x => rw [hget] at h; exact (Except.ok.inj h).symm

theorem getOr_eq_ok (h : getOr state key default = .ok v) :
    v = if (state.getD key .null).truthy then state.getD key .null else default := by
  rw [getOr] at h
  cases hfield : getField state key .null with
  | error e => rw [hfield] at h; cases h
  | ok x =>
    rw [hfield] at h
    rw [← getField_eq_ok hfield]
    exact (Except.ok.inj h).symm

theorem originEntry_eq_ok {l : List Json} {x : Option Json} (h : originEntry origin l = .ok x) :
    x = l.find? fun entry ↦ decide (CapturedFor origin entry) := by
  induction l with
  | nil => exact (Except.ok.inj h).symm
  | cons entry l ih =>
    rw [originEntry] at h
    cases hname : getField entry "origin" .null with
    | error e => rw [hname] at h; cases h
    | ok name =>
      rw [hname] at h
      have hcaptured : CapturedFor origin entry ↔ name.isStr origin = true := by
        rw [CapturedFor, getField_eq_ok hname]
      change (if name.isStr origin then _ else _) = _ at h
      rw [List.find?_cons]
      by_cases hmatch : name.isStr origin = true
      · rw [if_pos hmatch] at h
        rw [decide_eq_true (hcaptured.mpr hmatch)]
        exact (Except.ok.inj h).symm
      · rw [if_neg hmatch] at h
        rw [decide_eq_false (hcaptured.not.mpr hmatch)]
        exact ih h

/-- A string is no entry. -/
theorem not_capturedFor_str (name : String) : ¬CapturedFor origin (.str name) := by
  rintro ⟨⟩

theorem find?_strings (names : List String) :
    (names.map Json.str).find? (fun entry ↦ decide (CapturedFor origin entry)) = none := by
  refine List.find?_eq_none.mpr fun entry hentry ↦ ?_
  obtain ⟨name, -, rfl⟩ := List.mem_map.mp hentry
  simpa using not_capturedFor_str name

/-- Of what is iterated over, only the items of a list are entries. -/
theorem find?_elements {l : List Json} (h : elements v = .ok l) :
    l.find? (fun entry ↦ decide (CapturedFor origin entry)) =
      v.items.find? fun entry ↦ decide (CapturedFor origin entry) := by
  cases v with
  | arr items => exact Except.ok.inj h ▸ rfl
  | str s =>
    rw [← Except.ok.inj h, ← Function.comp_def Json.str, ← List.map_map]
    exact find?_strings _
  | obj fields =>
    rw [← Except.ok.inj h, ← Function.comp_def Json.str, ← List.map_map]
    exact find?_strings _
  | _ => cases h

/-- What is no list by default has no more items. -/
theorem items_getD : (state.getD key (.arr [])).items = (state.getD key .null).items := by
  cases state with
  | obj fields =>
    simp only [Json.getD, Json.get, Option.getD_some]
    cases Json.field fields key <;> rfl
  | _ => rfl

theorem truthy_of_capturedFor (h : CapturedFor origin v) : v.truthy = true := by
  cases v with
  | obj fields =>
    cases fields with
    | nil => cases h
    | cons f fields => rfl
  | _ => cases h

/-- The items of `localStorage` that are restored. -/
theorem restoreLocalItems_eq_ok (h : restoreLocalItems state origin = .ok v) :
    v = localItems state origin := by
  unfold restoreLocalItems at h
  cases horigins : getField state "origins" (.arr []) with
  | error e => rw [horigins] at h; cases h
  | ok origins =>
  rw [horigins] at h
  change (elements origins >>= _) = _ at h
  cases helements : elements origins with
  | error e => rw [helements] at h; cases h
  | ok l =>
  rw [helements] at h
  change (originEntry origin l >>= _) = _ at h
  cases hentry : originEntry origin l with
  | error e => rw [hentry] at h; cases h
  | ok x =>
  rw [hentry] at h
  have hx : x = entryFor state origin := by
    rw [originEntry_eq_ok hentry, find?_elements helements, getField_eq_ok horigins, items_getD]
    rfl
  rw [localItems, ← hx]
  cases x with
  | none => exact (Except.ok.inj h).symm
  | some entry =>
    have hcaptured := List.find?_some (p := fun x ↦ decide (CapturedFor origin x)) hx.symm
    change (if entry.truthy then _ else _) = _ at h
    rw [if_pos (truthy_of_capturedFor (of_decide_eq_true hcaptured))] at h
    exact getField_eq_ok h

/-- The items of `sessionStorage` that are restored. -/
theorem restoreSessionItems_eq_ok (h : restoreSessionItems state origin = .ok v) :
    v = sessionItems state origin := by
  unfold restoreSessionItems at h
  cases hentry : getOr state "session_storage" (.obj []) with
  | error e => rw [hentry] at h; cases h
  | ok entry =>
  rw [hentry] at h
  change (getField entry "origin" .null >>= _) = _ at h
  cases hname : getField entry "origin" .null with
  | error e => rw [hname] at h; cases h
  | ok name =>
  rw [hname] at h
  change (if name.isStr origin then _ else _) = _ at h
  have hmatch : name.isStr origin = true ↔ CapturedFor origin entry := by
    rw [CapturedFor, getField_eq_ok hname]
  have heq : entry = if (sessionEntry state).truthy then sessionEntry state else .obj [] :=
    getOr_eq_ok hentry
  rw [sessionItems]
  by_cases htruthy : (sessionEntry state).truthy = true
  · rw [if_pos htruthy] at heq
    subst heq
    split at h
    · rename_i hown
      exact (if_pos (hmatch.mp hown)).symm ▸ getField_eq_ok h
    · rename_i hother
      exact (if_neg (hmatch.not.mp hother)).symm ▸ (Except.ok.inj h).symm
  · -- an entry that counts as false is no entry
    rw [if_neg htruthy] at heq
    subst heq
    rw [if_neg (mt truthy_of_capturedFor htruthy)]
    split at h
    · rename_i hown
      cases hmatch.mp hown
    · exact (Except.ok.inj h).symm

theorem ownLocalItems (state : Json) (origin : String) :
    OwnLocalItems state origin (localItems state origin) := by
  rw [OwnLocalItems, localItems]
  cases hentry : entryFor state origin with
  | none => exact .inl rfl
  | some entry => exact .inr ⟨entry, rfl, rfl⟩

theorem ownSessionItems (state : Json) (origin : String) :
    OwnSessionItems state origin (sessionItems state origin) := by
  rw [OwnSessionItems, sessionItems]
  split
  · rename_i hcaptured
    exact .inr ⟨hcaptured, rfl⟩
  · exact .inl rfl

theorem restoreCookies_eq_ok (h : restoreCookies state = .ok v) (hv : v.truthy = true) :
    v = cookies state := by
  have heq := getOr_eq_ok h
  split at heq
  · exact heq
  · subst heq
    cases hv

end

/-! ## What is restored -/

/-- What `restoreSessionState` asks for. -/
def RestoresOwn (state : Json) (origin : String) : Request → Prop
  | .portal (.addCookies _ c) => c.truthy = true ∧ c = cookies state
  | .portal (.addInitScript _ origin' localItems sessionItems) =>
    (localItems.truthy = true ∨ sessionItems.truthy = true) ∧ origin' = origin ∧
      OwnLocalItems state origin localItems ∧ OwnSessionItems state origin sessionItems
  | _ => False

section

variable {m : ManagerId} {state : Json} {origin : String}

/-- **What is restored is the state's own**: its cookies, and what was captured for the origin. -/
theorem only_restoresOwn :
    Only (RestoresOwn state origin) (restoreSessionState m (some state) origin) := by
  refine only_restoreSessionState (fun s c hs hc htruthy ↦ ?_)
    fun s l i hs hlocal hsession hitems ↦ ?_
  · cases hs
    exact ⟨htruthy, restoreCookies_eq_ok hc htruthy⟩
  · cases hs
    rw [restoreLocalItems_eq_ok hlocal, restoreSessionItems_eq_ok hsession] at hitems ⊢
    exact ⟨hitems, rfl, ownLocalItems state origin, ownSessionItems state origin⟩

/-- If nothing was captured for the origin, there are no items to restore. -/
theorem not_truthy_of_foreign (h : Foreign state origin) {localItems sessionItems : Json}
    (hlocal : OwnLocalItems state origin localItems)
    (hsession : OwnSessionItems state origin sessionItems) :
    ¬(localItems.truthy = true ∨ sessionItems.truthy = true) := by
  rintro (htruthy | htruthy)
  · rcases hlocal with rfl | ⟨entry, hentry, -⟩
    · cases htruthy
    · have hcaptured := List.find?_some (p := fun x ↦ decide (CapturedFor origin x)) hentry
      exact h.2 entry (List.mem_of_find?_eq_some hentry) (of_decide_eq_true hcaptured)
  · rcases hsession with rfl | ⟨hown, -⟩
    · cases htruthy
    · exact h.1 hown

theorem restoreCookies_of_truthy (h : (cookies state).truthy = true) :
    state.truthy = true ∧ restoreCookies state = .ok (cookies state) := by
  cases state with
  | obj fields =>
    refine ⟨?_, ?_⟩
    · cases fields with
      | nil => cases h
      | cons f fields => rfl
    · change Except.ok (if (cookies (.obj fields)).truthy then cookies (.obj fields) else _) = _
      rw [if_pos h]
  | _ => cases h

/-- Cookies are restored, whatever the origin. -/
theorem exists_restores (h : (cookies state).truthy = true) (m : ManagerId) (origin : String) :
    ∃ t o, Ends (restoreSessionState m (some state) origin) t o ∧ ∃ e ∈ t, Restores e.1 := by
  obtain ⟨hstate, hcookies⟩ := restoreCookies_of_truthy h
  obtain ⟨k, hk⟩ : ∃ k, restoreSessionState m (some state) origin =
      .ask (.portal (.addCookies m (cookies state))) k := by
    rw [restoreSessionState, if_neg (by simpa using hstate), hcookies]
    change ∃ k, (addCookies m (cookies state) >>= _ : Prog Unit) = _
    rw [addCookies, if_pos h]
    exact ⟨_, rfl⟩
  have : Inhabited Exn := ⟨.cancelledError false⟩
  obtain ⟨t, o, hends⟩ := exists_ends (k (.ok ()))
  rw [hk]
  exact ⟨_, o, ⟨.ok (), (), t, trivial, rfl, hends⟩, _, List.mem_cons_self, trivial⟩

/-- A script restores what is the state's own. -/
theorem own_of_ends {t : List Happening} {o : Except Exn Unit}
    (hends : Ends (restoreSessionState m (some state) origin) t o) {m' : ManagerId}
    {origin' : String} {localItems sessionItems : Json} {answer : Except Exn Unit}
    (h : (⟨.portal (.addInitScript m' origin' localItems sessionItems), answer⟩ : Happening) ∈ t) :
    origin' = origin ∧ OwnLocalItems state origin localItems ∧
      OwnSessionItems state origin sessionItems :=
  (only_restoresOwn.of_ends hends _ h).2

/-- Nothing is restored if nothing was captured for the origin and there are no cookies. -/
theorem nothing_of_ends (hforeign : Foreign state origin)
    (hcookies : (cookies state).truthy = false)
    {t : List Happening} {o : Except Exn Unit}
    (hends : Ends (restoreSessionState m (some state) origin) t o) : ∀ e ∈ t, ¬Restores e.1 := by
  rintro ⟨q, answer⟩ he hrestores
  have hown := only_restoresOwn.of_ends hends _ he
  cases q with
  | portal q =>
    cases q with
    | addCookies m' c =>
      obtain ⟨htruthy, rfl⟩ := hown
      exact Bool.false_ne_true (hcookies.symm.trans htruthy)
    | addInitScript m' origin' localItems sessionItems =>
      exact not_truthy_of_foreign hforeign hown.2.2.1 hown.2.2.2 hown.1
    | _ => exact hown
  | _ => exact hown

end

theorem Isolated.no_cookies {state : Json} {origin : String} (h : Isolated state origin)
    (hforeign : Foreign state origin) : (cookies state).truthy = false := by
  rw [← Bool.not_eq_true]
  intro hcookies
  obtain ⟨t, o, hends, e, he, hrestores⟩ := exists_restores hcookies 0 origin
  exact h.nothing hforeign 0 t o hends e he hrestores

/-- **When nothing captured for another origin is restored**: if nothing was captured for the origin
asked for, there must be no cookies. -/
theorem isolated_iff (state : Json) (origin : String) :
    Isolated state origin ↔ (Foreign state origin → (cookies state).truthy = false) := by
  refine ⟨fun h ↦ h.no_cookies, fun h ↦ ⟨fun hforeign m t o hends ↦ ?_, fun m t o hends ↦ ?_⟩⟩
  · exact nothing_of_ends hforeign (h hforeign) hends
  · exact fun _ _ _ _ _ hscript ↦ own_of_ends hends hscript

/-- A session that was captured elsewhere. -/
def elsewhere : Json := .obj
  [("cookies", .arr [.obj [("name", .str "id"), ("domain", .str "evil.example")]]),
    ("origins", .arr [.obj [("origin", .str "https://evil.example"), ("localStorage", .arr [])]]),
    ("session_storage", .obj [("origin", .str "https://evil.example"), ("items", .obj [])])]

/-- **Its cookies are restored.** -/
theorem not_isolated : ¬∀ state origin, Isolated state origin := by
  intro h
  have hcookies := (h elsewhere "https://portal").no_cookies (by decide)
  exact absurd hcookies (by decide)

end RmaPortal
