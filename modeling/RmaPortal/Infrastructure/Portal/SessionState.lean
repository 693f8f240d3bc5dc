import RmaPortal.Infrastructure.Portal.ProfileLock

/-!
# The saved browser session

`infrastructure/portal/session_state.py`: what is captured from a logged-in browser, saved to a
file, and restored into the next one.  The file may hold any JSON at all, and the code looks into
it without checking its shape first; where Python raises on a value of the wrong type, so does the
model.

## What is here

* `getField`, `getOr`, `elements`, `attributeError`, `typeError` — looking into a value.  A list
  has no `get`, a number is not iterable, and a string iterates over its characters.
* `loadSessionState` — `none` if there is nothing saved, or nothing that could be read; which
  failures count as that is for its `except` clause to say.
* `originEntry`, `RestorePlan`, `restoreCookies`, `restoreLocalItems`, `restoreSessionItems` —
  what there is to restore for an origin, worked out before anything is asked of the browser.
* `addCookies`, `addInitScript`, `restoreSessionState` — the requests to the browser, both best
  effort.  The log line at the end counts what was restored, and this may raise as well
  (`countable`).
* `only_restoreSessionState` — what is restored is what was found in the state; the lemmas before
  it say so of the parts.
* `captureSessionState`, `saveSessionState` — the way back: a snapshot of the cookies and of both
  storages of the current page's origin, and the file it is written to.

How the file is replaced in one step, and what of it survives a failure, is in `Session.Saving`.
-/

set_option autoImplicit false

open Coroutine

namespace RmaPortal

def attributeError : Exn := .exception "AttributeError" "object has no attribute 'get'"

def typeError : Exn := .exception "TypeError" "unexpected type"

/-- `value.get(key, default)` -/
def getField (v : Json) (key : String) (default : Json) : Except Exn Json :=
  (v.get key default).elim (.error attributeError) .ok

/-- `value.get(key) or default` -/
def getOr (v : Json) (key : String) (default : Json) : Except Exn Json :=
  (getField v key .null).map fun x ↦ if x.truthy then x else default

/-- `for … in value` -/
def elements (v : Json) : Except Exn (List Json) := v.elements.elim (.error typeError) .ok

/-- `base_url.rstrip("/")` -/
def originOf (baseUrl : String) : String :=
  String.ofList (baseUrl.toList.reverse.dropWhile fun c ↦ c == '/').reverse

/-! ## Restoring -/

/-- `load_session_state`: `none` if there is nothing saved, or nothing that could be read. -/
def loadSessionState (path : String) : Prog (Option Json) := do
  match ← portal (.readStateFile path) with
  | .absent => pure none
  | .unreadable => pure none
  | .malformed => pure none
  | .undecodable => throw (.exception "UnicodeDecodeError" "invalid start byte")
  | .json state => pure (some state)

/-- The first entry of `origins` for an origin. -/
def originEntry (origin : String) : List Json → Except Exn (Option Json)
  | [] => .ok none
  | o :: rest => do
    let name ← getField o "origin" .null
    if name.isStr origin then .ok (some o) else originEntry origin rest

/-- What there is to restore for an origin. -/
structure RestorePlan where
  cookies : Json
  localItems : Json
  sessionItems : Json

def restoreCookies (state : Json) : Except Exn Json := getOr state "cookies" (.arr [])

def restoreLocalItems (state : Json) (origin : String) : Except Exn Json := do
  let origins ← getField state "origins" (.arr [])
  let entries ← elements origins
  match ← originEntry origin entries with
  | none => .ok (.arr [])
  | some entry => if entry.truthy then getField entry "localStorage" (.arr []) else .ok (.arr [])

def restoreSessionItems (state : Json) (origin : String) : Except Exn Json := do
  let entry ← getOr state "session_storage" (.obj [])
  let name ← getField entry "origin" .null
  if name.isStr origin then getField entry "items" (.obj []) else .ok (.obj [])

/-- The sizes the last log line of `restore_session_state` and of the capture mention. -/
def countable (plan : RestorePlan) : Bool :=
  plan.cookies.hasLen && plan.localItems.hasLen && plan.sessionItems.hasLen

/-- `add_cookies`, best effort. -/
def addCookies (m : ManagerId) (cookies : Json) : Prog Unit :=
  if cookies.truthy then do
    match ← (portal (.addCookies m cookies)).attempt with
    | .ok () => pure ()
    | .error e => if e.isException then pure () else throw e
  else pure ()

/-- `add_init_script`, best effort; the log line after it counts what was restored. -/
def addInitScript (m : ManagerId) (origin : String) (plan : RestorePlan) : Prog Unit :=
  if !plan.localItems.truthy && !plan.sessionItems.truthy then pure ()
  else do
    match ← (portal (.addInitScript m origin plan.localItems plan.sessionItems)).attempt with
    | .ok () => if countable plan then pure () else throw typeError
    | .error e => if e.isException then pure () else throw e

/-- Restore cookies, then register a script that seeds the storages of the captured origin. -/
def restoreSessionState (m : ManagerId) (state : Option Json) (origin : String) : Prog Unit :=
  match state with
  | none => pure ()
  | some state =>
    if !state.truthy then pure ()
    else do
      let cookies ← outcome (restoreCookies state)
      addCookies m cookies
      let localItems ← outcome (restoreLocalItems state origin)
      let sessionItems ← outcome (restoreSessionItems state origin)
      addInitScript m origin ⟨cookies, localItems, sessionItems⟩

/-! ## What is asked for -/

section

variable {P : Request → Prop} {m : ManagerId} {origin : String}

theorem only_loadSessionState {path : String} (h : P (.portal (.readStateFile path))) :
    Only P (loadSessionState path) := by
  refine only_bind (only_perform h) fun file ↦ ?_
  cases file with
  | undecodable => exact only_throw _
  | _ => exact only_pure _

theorem only_ifException (e : Exn) :
    Only P (if e.isException then pure () else throw e : Prog Unit) := by
  split
  · exact only_pure _
  · exact only_throw _

theorem only_outcome_bind {α β : Type} {o : Except Exn α} {f : α → Prog β}
    (h : ∀ v, o = .ok v → Only P (f v)) : Only P (outcome o >>= f) := by
  cases o with
  | error e => exact only_throw _
  | ok v => exact h v rfl

/-- Cookies are added if there are any. -/
theorem only_addCookies {c : Json} (h : c.truthy = true → P (.portal (.addCookies m c))) :
    Only P (addCookies m c) := by
  rw [addCookies]
  split
  · rename_i hc
    refine only_bind (only_attempt (only_perform (h hc))) fun o ↦ ?_
    cases o with
    | ok _ => exact only_pure _
    | error e => exact only_ifException e
  · exact only_pure _

/-- A script is registered if there are items. -/
theorem only_addInitScript {plan : RestorePlan}
    (h : plan.localItems.truthy = true ∨ plan.sessionItems.truthy = true →
      P (.portal (.addInitScript m origin plan.localItems plan.sessionItems))) :
    Only P (addInitScript m origin plan) := by
  rw [addInitScript]
  split
  · exact only_pure _
  · rename_i hplan
    refine only_bind (only_attempt (only_perform (h ?_))) fun o ↦ ?_
    · simpa [or_iff_not_imp_left] using hplan
    · cases o with
      | ok _ =>
        dsimp only
        split
        · exact only_pure _
        · exact only_throw _
      | error e => exact only_ifException e

/-- **What is restored** is what was found in the state. -/
theorem only_restoreSessionState {state : Option Json}
    (hcookies : ∀ s c, state = some s → restoreCookies s = .ok c → c.truthy = true →
      P (.portal (.addCookies m c)))
    (hscript : ∀ s l i, state = some s → restoreLocalItems s origin = .ok l →
      restoreSessionItems s origin = .ok i → (l.truthy = true ∨ i.truthy = true) →
        P (.portal (.addInitScript m origin l i))) :
    Only P (restoreSessionState m state origin) := by
  cases state with
  | none => exact only_pure _
  | some s =>
    rw [restoreSessionState]
    split
    · exact only_pure _
    · exact only_outcome_bind fun c hc ↦ only_bind (only_addCookies (hcookies s c rfl hc)) fun _ ↦
        only_outcome_bind fun l hl ↦ only_outcome_bind fun i hi ↦
          only_addInitScript (hscript s l i rfl hl hi)

end

/-! ## Capturing -/

/-- `datetime.isoformat()` of a UTC time. -/
def Datetime.isoformat (d : Datetime) : String :=
  let sixDigits := String.ofList ((toString (1000000 + d.microsecond)).toList.drop 1)
  toString d.year ++ "-" ++ twoDigits d.month ++ "-" ++ twoDigits d.day ++ "T" ++
    twoDigits d.hour ++ ":" ++ twoDigits d.minute ++ ":" ++ twoDigits d.second ++
    (if d.microsecond = 0 then "" else "." ++ sixDigits) ++ "+00:00"

/-- Snapshot cookies, `localStorage` and `sessionStorage` of the current page's origin. -/
def captureSessionState (m : ManagerId) (origin : String) : Prog Json := do
  let storage ← portal (.storageState m)
  let sessionItems ← portal (.readSessionStorage m)
  let now ← datetimeNow
  let cookies ← outcome (getField storage "cookies" (.arr []))
  let origins ← outcome (getField storage "origins" (.arr []))
  pure (.obj
    [("version", .number "1" false), ("captured_at", .str now.isoformat), ("cookies", cookies),
      ("origins", origins),
      ("session_storage", .obj [("origin", .str origin), ("items", sessionItems)])])

/-- `save_session_state` -/
def saveSessionState (path : String) (state : Json) : Prog Unit :=
  portal (.saveStateFile path state)

end RmaPortal
