import Mathlib.Data.List.Pairwise
import RmaPortal.Infrastructure.Portal.JsonRoundTrip
import RmaPortal.Session.Saving

/-!
# The saved session is the last one captured

After any sequence of login attempts the file of the saved session is that of the last state that
was captured (`Attempts.standing`).  Here it is read again, and restored for the origin it was
captured for: what the browser context is given is what the browser had shown.

Two things about the outside world are assumed, and they are named.  The browser answers what it
is documented to answer (`AsDocumented`): cookies, and for some origins one entry with the items
of its `localStorage`.  And `json.load` undoes `json.dump` on what was captured, which `Encodable`
implies.

## What is here

* `restoring` — the requests by which cookies and the items of the storages are restored; what is
  empty is not restored, as the code has it.
* `IsStorageState`, `IsLocalStorage`, `storageEntries` — what `storage_state()` answers.
* `requests_of_ends` — a restore that returns has asked for exactly this.
* `sessionDocument` and the lemmas about it — what was captured can be restored
  (`wellTyped_sessionDocument`), and restoring it gives back what was shown
  (`restores_sessionDocument`): the cookies, the items of the origin's own entry and no other
  one's, and the items of the `sessionStorage`.
* `RemembersLast` — what is to hold after some attempts: `load_session_state` returns the last
  state that was captured, or nothing; no temporary file is left; and what is restored of it is
  what the browser had shown.
* `Attempts.remembersLast` — it does, after any sequence of attempts of either kind, however each
  of them ends, and whatever happens between them that leaves the files of the session alone.
* `loginRun`, `threeLogins` and `remembersLast_threeLogins` — three logins.  The first and the
  third are saved; in between there is one whose disk is full, so that its state is captured from
  the browser but never gets into the file.

How the file is written, all of it or nothing, is in `Session.Saving`; what a file may contain
that nobody has written here is in `Session.Tolerance`.
-/

set_option autoImplicit false

open Coroutine Files

namespace RmaPortal

open SavedState

/-- The requests that restore cookies and the items of the storages; what is empty is not restored.
-/
def restoring (m : ManagerId) (origin : String) (cookies localItems sessionItems : Json) :
    List Request :=
  (if cookies.truthy then [.portal (.addCookies m cookies)] else []) ++
    if localItems.truthy || sessionItems.truthy then
      [.portal (.addInitScript m origin localItems sessionItems)]
    else []

/-- The entries of `origins` in what `storage_state()` answers. -/
def storageEntries (storage : Json) : List Json := (storage.getD "origins" (.arr [])).items

/-- The items of `localStorage` in the entry for the origin, if there is one. -/
def IsLocalStorage (origin : String) (storage localItems : Json) : Prop :=
  (∀ entry ∈ storageEntries storage, CapturedFor origin entry →
    localItems = entry.getD "localStorage" (.arr [])) ∧
  ((∀ entry ∈ storageEntries storage, ¬CapturedFor origin entry) → localItems = .arr [])

/-- What `storage_state()` answers: cookies, and for some origins one entry with the items of its
`localStorage`. -/
structure IsStorageState (storage : Json) : Prop where
  cookies : ∃ l, storage.getD "cookies" (.arr []) = .arr l
  origins : ∃ l, storage.getD "origins" (.arr []) = .arr l
  entries : ∀ entry ∈ storageEntries storage, entry.IsObj ∧
    ∃ items, entry.getD "localStorage" (.arr []) = .arr items
  distinct : (storageEntries storage).Pairwise fun entry entry' ↦
    ∀ origin, CapturedFor origin entry → ¬CapturedFor origin entry'

/-- The browser's answers are what they are documented to be. -/
structure AsDocumented (t : List Happening) : Prop where
  storageState : ∀ m storage, ⟨.portal (.storageState m), .ok storage⟩ ∈ t → IsStorageState storage
  sessionStorage : ∀ m items, ⟨.portal (.readSessionStorage m), .ok items⟩ ∈ t → items.IsObj

/-- **The saved session is the last one captured.** -/
structure RemembersLast (settings : Settings) (depth : ℕ) (ts : List (List Happening))
    (c : Contents) : Prop where
  /-- It is what `load_session_state` returns. -/
  loads : ∀ t o c', Exec (disk depth settings.sessionStatePath)
    (loadSessionState settings.sessionStatePath) c t o c' ↔
      t = [⟨.portal (.readStateFile settings.sessionStatePath),
        (savedFile c settings.sessionStatePath).read depth⟩] ∧ o = .ok (lastCaptured ts) ∧ c' = c
  /-- No temporary file is left. -/
  temporary : ∀ p, IsTemporarySession settings.sessionStatePath p → c p = none
  /-- What is restored is what the browser had shown. -/
  restores : ∀ state, lastCaptured ts = some state → ∃ t ∈ ts, capturedBy t = some state ∧
    ∃ storage items localItems, Captures (originOf settings.baseUrl) t storage items state ∧
      IsLocalStorage (originOf settings.baseUrl) storage localItems ∧
      ∀ m t' o, Ends (restoreSessionState m (some state) (originOf settings.baseUrl)) t' o →
        (Suppressible t' → o = .ok ()) ∧ (o = .ok () → t'.map Sigma.fst =
          restoring m (originOf settings.baseUrl) (storage.getD "cookies" (.arr [])) localItems
            items)

/-! ## Loading -/

section

variable {depth : ℕ} {path : String} {c c' : Contents} {t : List Happening}
  {o : Except Exn (Option Json)} {ts : List (List Happening)}

/-- Loading is reading the file. -/
theorem exec_loadSessionState_iff : Exec (disk depth path) (loadSessionState path) c t o c' ↔
    t = [⟨.portal (.readStateFile path), (savedFile c path).read depth⟩] ∧
      o = ((savedFile c path).read depth >>= loaded) ∧ c' = c := by
  rw [loadSessionState_eq]
  constructor
  · rintro ⟨a, c₁, t₁, ⟨rfl, rfl⟩, rfl, h⟩
    cases hread : (savedFile c₁ path).read depth with
    | error e =>
      rw [hread] at h
      obtain ⟨rfl, rfl, rfl⟩ := h
      exact ⟨rfl, rfl, rfl⟩
    | ok file =>
      rw [hread] at h
      obtain ⟨rfl, rfl, rfl⟩ := h
      exact ⟨rfl, rfl, rfl⟩
  · rintro ⟨rfl, rfl, rfl⟩
    refine ⟨_, c', [], ⟨rfl, rfl⟩, rfl, ?_⟩
    cases (savedFile c' path).read depth with
    | error e => exact ⟨rfl, rfl, rfl⟩
    | ok file => exact ⟨rfl, rfl, rfl⟩

end

/-! ## Restoring -/

section

variable {m : ManagerId} {origin : String} {state cookies : Json} {plan : RestorePlan}
  {t : List Happening} {o : Except Exn Unit}

theorem requests_of_ends_addCookies (h : Ends (addCookies m cookies) t o) :
    t.map Sigma.fst = if cookies.truthy then [.portal (.addCookies m cookies)] else [] := by
  rw [addCookies] at h
  split at h
  · rename_i hcookies
    obtain ⟨t₁, o₁, t₂, rfl, hadd, hrest⟩ := Ends.of_attempt_bind h
    obtain rfl := ends_perform_iff.mp hadd
    have hquiet : t₂ = [] := by
      cases o₁ with
      | ok _ => exact (ends_done_iff.mp hrest).1
      | error e =>
        dsimp only at hrest
        split at hrest <;> exact (ends_done_iff.mp hrest).1
    rw [hquiet, if_pos hcookies]
    rfl
  · rename_i hcookies
    rw [(ends_done_iff.mp h).1, if_neg hcookies]
    rfl

theorem requests_of_ends_addInitScript (h : Ends (addInitScript m origin plan) t o) :
    t.map Sigma.fst = if plan.localItems.truthy || plan.sessionItems.truthy then
      [.portal (.addInitScript m origin plan.localItems plan.sessionItems)] else [] := by
  rw [addInitScript, ← Bool.not_or] at h
  split at h
  · rename_i hitems
    rw [(ends_done_iff.mp h).1, if_neg (by simpa using hitems)]
    rfl
  · rename_i hitems
    obtain ⟨t₁, o₁, t₂, rfl, hadd, hrest⟩ := Ends.of_attempt_bind h
    obtain rfl := ends_perform_iff.mp hadd
    have hquiet : t₂ = [] := by
      cases o₁ with
      | ok _ =>
        dsimp only at hrest
        split at hrest <;> exact (ends_done_iff.mp hrest).1
      | error e =>
        dsimp only at hrest
        split at hrest <;> exact (ends_done_iff.mp hrest).1
    rw [hquiet, if_pos (by simpa [or_iff_not_imp_left] using hitems)]
    rfl

/-- **What a restore that returns has asked for.** -/
theorem requests_of_ends (hstate : state.truthy = true)
    (h : Ends (restoreSessionState m (some state) origin) t (.ok ())) :
    t.map Sigma.fst = restoring m origin (SavedState.cookies state) (localItems state origin)
      (sessionItems state origin) := by
  rw [restoreSessionState, if_neg (by simpa using hstate)] at h
  rcases ends_outcome_bind h with ⟨e, -, ho⟩ | ⟨found, hfound, h⟩
  · cases ho
  rcases ends_bind_iff.mp h with ⟨e, -, ho⟩ | ⟨t₁, u, t₂, rfl, hadd, h⟩
  · cases ho
  rcases ends_outcome_bind h with ⟨e, -, ho⟩ | ⟨l, hl, h⟩
  · cases ho
  rcases ends_outcome_bind h with ⟨e, -, ho⟩ | ⟨i, hi, h⟩
  · cases ho
  rw [List.map_append, requests_of_ends_addCookies hadd, requests_of_ends_addInitScript h,
    ← restoreLocalItems_eq_ok hl, ← restoreSessionItems_eq_ok hi, restoring]
  refine congrArg (· ++ _) ?_
  -- cookies that count as false are replaced by an empty list
  have heq := getOr_eq_ok hfound
  change found = if (SavedState.cookies state).truthy then SavedState.cookies state
    else .arr [] at heq
  split at heq
  · rename_i htruthy
    rw [heq]
  · rename_i hfalse
    rw [heq, if_neg hfalse]
    rfl

end

/-! ## What was captured -/

section

variable {now : Datetime} {storage items : Json} {origin : String}

theorem cookies_sessionDocument : SavedState.cookies (sessionDocument now storage items origin) =
    storage.getD "cookies" (.arr []) := by
  simp [SavedState.cookies, sessionDocument, Json.getD, Json.get, Json.field]

theorem origins_sessionDocument (default : Json) :
    (sessionDocument now storage items origin).getD "origins" default =
      storage.getD "origins" (.arr []) := by
  simp [sessionDocument, Json.getD, Json.get, Json.field]

theorem sessionEntry_sessionDocument :
    sessionEntry (sessionDocument now storage items origin) =
      .obj [("origin", .str origin), ("items", items)] := by
  simp [sessionEntry, sessionDocument, Json.getD, Json.get, Json.field]

theorem sessionItems_sessionDocument :
    sessionItems (sessionDocument now storage items origin) origin = items := by
  have hcaptured : CapturedFor origin (.obj [("origin", .str origin), ("items", items)]) := by
    simp [CapturedFor, Json.getD, Json.get, Json.field, Json.isStr]
  rw [sessionItems, sessionEntry_sessionDocument, if_pos hcaptured]
  simp [Json.getD, Json.get, Json.field]

/-- The entry for an origin is the only one. -/
theorem isLocalStorage_sessionDocument (h : IsStorageState storage) :
    IsLocalStorage origin storage
      (localItems (sessionDocument now storage items origin) origin) := by
  have hentries : entries (sessionDocument now storage items origin) = storageEntries storage := by
    rw [entries, origins_sessionDocument, storageEntries]
  rw [localItems, entryFor, hentries]
  refine ⟨fun entry hentry hcaptured ↦ ?_, fun hnone ↦ ?_⟩
  · cases hfind : (storageEntries storage).find? fun entry ↦ decide (CapturedFor origin entry) with
    | none => exact (List.find?_eq_none.mp hfind entry hentry (decide_eq_true hcaptured)).elim
    | some first =>
      have hfirst : CapturedFor origin first :=
        of_decide_eq_true (List.find?_some (p := fun x ↦ decide (CapturedFor origin x)) hfind)
      have hmem := List.mem_of_find?_eq_some hfind
      by_cases hne : first = entry
      · rw [hne]
        rfl
      · have : Std.Symm fun a b : Json ↦ ∀ origin, CapturedFor origin a → ¬CapturedFor origin b :=
          ⟨fun _ _ hab origin hb ha ↦ hab origin ha hb⟩
        exact (h.distinct.forall hmem hentry hne origin hfirst hcaptured).elim
  · rw [List.find?_eq_none.mpr fun entry hentry ↦ by simpa using hnone entry hentry]
    rfl

/-- What was captured can be restored. -/
theorem wellTyped_sessionDocument (h : IsStorageState storage) (hitems : items.IsObj) :
    WellTyped (sessionDocument now storage items origin) origin where
  isObj := ⟨_, rfl⟩
  entries := by
    obtain ⟨l, hl⟩ := h.origins
    have hentries : storageEntries storage = l := by rw [storageEntries, hl]; rfl
    refine ⟨l, by rw [origins_sessionDocument, hl]; rfl, fun entry hentry ↦ ?_⟩
    rw [← hentries] at hentry
    exact (h.entries entry (List.takeWhile_subset _ hentry)).1
  sessionEntry := .inr ⟨_, sessionEntry_sessionDocument⟩
  counted := by
    intro _
    rw [cookies_sessionDocument, sessionItems_sessionDocument]
    obtain ⟨l, hl⟩ := h.cookies
    obtain ⟨fields, rfl⟩ := hitems
    refine ⟨fun _ ↦ by rw [hl]; rfl, ?_, rfl⟩
    rw [localItems]
    cases hentry : entryFor (sessionDocument now storage (.obj fields) origin) origin with
    | none => rfl
    | some entry =>
      have hmem : entry ∈ storageEntries storage := by
        have := List.mem_of_find?_eq_some hentry
        rwa [entries, origins_sessionDocument] at this
      obtain ⟨-, items, hlocal⟩ := h.entries entry hmem
      rw [Option.elim_some, hlocal]
      rfl

/-- **What is restored of a state that was captured.** -/
theorem restores_sessionDocument (h : IsStorageState storage) (hitems : items.IsObj)
    {m : ManagerId} {t : List Happening} {o : Except Exn Unit}
    (hends : Ends (restoreSessionState m (some (sessionDocument now storage items origin)) origin)
      t o) : (Suppressible t → o = .ok ()) ∧ (o = .ok () → t.map Sigma.fst =
        restoring m origin (storage.getD "cookies" (.arr []))
          (localItems (sessionDocument now storage items origin) origin) items) := by
  refine ⟨(wellTyped_sessionDocument h hitems).ends hends, ?_⟩
  rintro rfl
  rw [requests_of_ends rfl hends, cookies_sessionDocument, sessionItems_sessionDocument]

end

/-! ## The last state captured -/

section

variable {settings : Settings} {depth : ℕ} {c c' : Contents} {ts : List (List Happening)}

theorem exists_of_lastCaptured {state : Json} (h : lastCaptured ts = some state) :
    ∃ t ∈ ts, capturedBy t = some state :=
  List.mem_filterMap.mp (List.mem_of_getLast? h)

theorem SessionStanding.loaded (h : SessionStanding settings ts c)
    (hjson : ∀ t ∈ ts, ∀ state, capturedBy t = some state →
      (SavedFile.bytes (JsonEncoder.dumps state).toUTF8).read depth = .ok (.json state)) :
    ((savedFile c settings.sessionStatePath).read depth >>= loaded) = .ok (lastCaptured ts) := by
  rw [savedFile, h.file]
  cases hlast : lastCaptured ts with
  | none => rfl
  | some state =>
    obtain ⟨t, ht, hstate⟩ := exists_of_lastCaptured hlast
    rw [Option.map_some, Option.elim_some, hjson t ht state hstate]
    rfl

/-- **After any sequence of login attempts the saved session is the last one captured**, if
`json.load` undoes `json.dump` on what was captured. -/
theorem Attempts.remembersLast (h : Attempts settings depth c ts c')
    (hpath : settings.sessionStatePath = sessionStatePath settings.dataDir)
    (hstart : ∀ p, IsSessionFile settings.sessionStatePath p → c p = none)
    (hdocumented : ∀ t ∈ ts, AsDocumented t)
    (hjson : ∀ t ∈ ts, ∀ state, capturedBy t = some state →
      (SavedFile.bytes (JsonEncoder.dumps state).toUTF8).read depth = .ok (.json state)) :
    RemembersLast settings depth ts c' := by
  have hstanding := h.standing (by rw [hpath]; exact not_isTemporarySession _) hstart
  refine ⟨fun t o c'' ↦ ?_, hstanding.temporary, fun state hlast ↦ ?_⟩
  · rw [exec_loadSessionState_iff, hstanding.loaded hjson]
  · obtain ⟨t, ht, hstate⟩ := exists_of_lastCaptured hlast
    obtain ⟨storage, items, hcaptures⟩ := hstanding.captures t ht state hstate
    obtain ⟨m, hstorage⟩ := hcaptures.storageState
    obtain ⟨m', hitems⟩ := hcaptures.sessionStorage
    have hstorage := (hdocumented t ht).storageState m storage hstorage
    have hitems := (hdocumented t ht).sessionStorage m' items hitems
    obtain ⟨now, rfl⟩ := hcaptures.document
    exact ⟨t, ht, hstate, storage, items, _, hcaptures, isLocalStorage_sessionDocument hstorage,
      fun _ _ _ hends ↦ restores_sessionDocument hstorage hitems hends⟩

end

/-! ## A login -/

theorem read_dumps {depth : ℕ} {v : Json} (h : JsonEncoder.Encodable depth v) :
    (SavedFile.bytes (JsonEncoder.dumps v).toUTF8).read depth = .ok (.json v) := by
  have htext : String.fromUTF8? (JsonEncoder.dumps v).toUTF8 = some (JsonEncoder.dumps v) :=
    dif_pos (String.isValidUTF8 _)
  rw [SavedFile.read, htext]
  dsimp only
  rw [JsonEncoder.dumps, String.toList_ofList, h.loads]

/-- The name that `mkstemp` chooses. -/
def tmpName : String := "data/.omegaflow-session-x.tmp"

theorem isTemporary_tmpName :
    IsTemporary (parent (sessionStatePath "data")) ".omegaflow-session-" ".tmp" tmpName :=
  ⟨"x", by decide +kernel⟩

/-- What an operating system says whose disk is full. -/
def diskFull : Exn := .exception "OSError" "[Errno 28] No space left on device"

/-- A session can be saved where there is no temporary file … -/
theorem exists_exec_saveSessionStateFile (state : Json) {c : Contents} (hnew : c tmpName = none) :
    ∃ t s', Exec (system Exn) (saveSessionStateFile (sessionStatePath "data") state)
      ⟨c, .empty⟩ t (.ok ()) s' ∧ s'.contents tmpName = none := by
  let path := sessionStatePath "data"
  let data := ByteArray.empty ++ (JsonEncoder.dumps state).toUTF8
  let c₁ := Function.update c tmpName (some .empty)
  let c₂ := Function.update c₁ tmpName (some .empty)
  let c₃ := Function.update c₂ tmpName (some data)
  let c₄ := Function.update (Function.update c₃ path (some data)) tmpName none
  have hgone : c₄ tmpName = none := by simp [c₄]
  refine ⟨[⟨.mkdir (parent path), .ok ()⟩,
    ⟨.mkstemp (parent path) ".omegaflow-session-" ".tmp", .ok tmpName⟩, ⟨.fdopen tmpName, .ok ()⟩,
    ⟨.write tmpName (JsonEncoder.dumps state).toUTF8, .ok ()⟩, ⟨.close tmpName, .ok ()⟩,
    ⟨.replace tmpName path, .ok ()⟩], ⟨c₄, data⟩, ?_, hgone⟩
  refine ⟨.ok (), ⟨c, .empty⟩, _, rfl, rfl, ?_⟩
  refine ⟨.ok tmpName, ⟨c₁, .empty⟩, _, ⟨isTemporary_tmpName, hnew, rfl⟩, rfl, ?_⟩
  refine ⟨.ok (), ⟨c₁, .empty⟩, _, rfl, rfl, ?_⟩
  refine ⟨.ok (), ⟨c₂, data⟩, _, ⟨.empty, _, fun _ ↦ rfl, rfl⟩, rfl, ?_⟩
  refine ⟨.ok (), ⟨c₃, data⟩, _, ⟨_, fun _ ↦ rfl, rfl⟩, rfl, ?_⟩
  have hdata : c₃ tmpName = some data := Function.update_self tmpName (some data) c₂
  exact ⟨.ok (), ⟨c₄, data⟩, _, ⟨data, hdata, rfl⟩, rfl, rfl, rfl, rfl⟩

/-- … and if the disk is full, the temporary file is removed again. -/
theorem exists_exec_saveSessionStateFile_full (state : Json) {c : Contents}
    (hnew : c tmpName = none) :
    ∃ t s', Exec (system Exn) (saveSessionStateFile (sessionStatePath "data") state)
      ⟨c, .empty⟩ t (.error diskFull) s' ∧ s'.contents tmpName = none := by
  let path := sessionStatePath "data"
  let c₁ := Function.update c tmpName (some .empty)
  let c₂ := Function.update c₁ tmpName (some .empty)
  let c₃ := Function.update c₂ tmpName (some .empty)
  let c₄ := Function.update c₃ tmpName none
  have hgone : c₄ tmpName = none := by simp [c₄]
  refine ⟨[⟨.mkdir (parent path), .ok ()⟩,
    ⟨.mkstemp (parent path) ".omegaflow-session-" ".tmp", .ok tmpName⟩, ⟨.fdopen tmpName, .ok ()⟩,
    ⟨.write tmpName (JsonEncoder.dumps state).toUTF8, .error diskFull⟩, ⟨.close tmpName, .ok ()⟩,
    ⟨.remove tmpName, .ok ()⟩], ⟨c₄, .empty⟩, ?_, hgone⟩
  refine ⟨.ok (), ⟨c, .empty⟩, _, rfl, rfl, ?_⟩
  refine ⟨.ok tmpName, ⟨c₁, .empty⟩, _, ⟨isTemporary_tmpName, hnew, rfl⟩, rfl, ?_⟩
  refine ⟨.ok (), ⟨c₁, .empty⟩, _, rfl, rfl, ?_⟩
  refine ⟨.error diskFull, ⟨c₂, .empty⟩, _, ⟨.empty, .empty, (fun h ↦ by cases h), rfl⟩, rfl, ?_⟩
  refine ⟨.ok (), ⟨c₃, .empty⟩, _, ⟨_, fun _ ↦ rfl, rfl⟩, rfl, ?_⟩
  exact ⟨.ok (), ⟨c₄, .empty⟩, _, ⟨rfl, rfl⟩, rfl, rfl, rfl, rfl⟩

/-- What a browser shows of a session. -/
def shownStorage (sid : String) : Json :=
  .obj
    [("cookies", .arr [.obj [("name", .str "sid"), ("value", .str sid)]]),
      ("origins", .arr
        [.obj [("origin", .str "https://portal"),
          ("localStorage", .arr [.obj [("name", .str "theme"), ("value", .str "dark")]])]])]

def shownItems : Json := .obj [("view", .str "1874")]

def shownDocument (sid : String) : Json :=
  sessionDocument default (shownStorage sid) shownItems "https://portal"

/-- The settings of a portal whose data are in `data`. -/
def dataSettings : Settings :=
  { Settings.standard with sessionStatePath := sessionStatePath "data" }

/-- What happens when the lock is taken … -/
def lockAcquired : List Happening :=
  [⟨.portal (.unconfirmedGet dataSettings.lockPath), .ok none⟩,
    ⟨.portal (.mkdir dataSettings.lockDir), .ok ()⟩,
    ⟨.portal (.newFileLock dataSettings.lockPath), .ok (⟨0, dataSettings.lockPath⟩ : FileLock)⟩,
    ⟨.portal (.acquire ⟨0, dataSettings.lockPath⟩), .ok ()⟩]

/-- … when what the browser shows is to be saved … -/
def sessionShown (sid : String) (saved : Except Exn Unit) : List Happening :=
  [⟨.portal (.storageState 0), .ok (shownStorage sid)⟩,
    ⟨.portal (.readSessionStorage 0), .ok shownItems⟩, ⟨.now, .ok default⟩,
    ⟨.portal (.saveStateFile (sessionStatePath "data") (shownDocument sid)), saved⟩]

/-- … when somebody logs in … -/
def windowShown (sid : String) (saved : Except Exn Unit) : List Happening :=
  [⟨.portal (.contextPages 0), .ok true⟩, ⟨.portal (.goto 0 dataSettings.startRoute), .ok ()⟩,
    ⟨.portal (.waitForLoginOrClose 0), .ok true⟩] ++ sessionShown sid saved

/-- … and when the lock is given back. -/
def lockGivenBack : List Happening :=
  [⟨.portal (.unconfirmedGet dataSettings.lockPath), .ok none⟩,
    ⟨.portal (.release ⟨0, dataSettings.lockPath⟩), .ok ()⟩,
    ⟨.portal (.forget ⟨0, dataSettings.lockPath⟩), .ok ()⟩]

/-- … around a window that is opened and closed. -/
def browserRun (sid : String) (saved : Except Exn Unit) : List Happening :=
  [⟨.portal (.mkdir dataSettings.profileDir), .ok ()⟩,
    ⟨.portal (.managerEnter dataSettings.profileDir), .ok (0 : ℕ)⟩] ++
  (windowShown sid saved ++ [⟨.portal (.managerExit 0), .ok ()⟩])

/-- What happens when an employee logs in, if the saving of the session ends like this. -/
def loginRun (sid : String) (saved : Except Exn Unit) : List Happening :=
  lockAcquired ++ (browserRun sid saved ++ lockGivenBack)

section

variable {sid : String} {saved : Except Exn Unit} {c c' : Contents}

theorem sameSession_refl (c : Contents) : SameSession dataSettings.sessionStatePath c c :=
  fun _ _ ↦ rfl

/-- Whether or not it can be saved, what is shown has been captured. -/
theorem exec_sessionShown (hsaved : saved = .ok () ∨ saved = .error diskFull)
    (hsave : (disk 10 dataSettings.sessionStatePath).step c
      (.portal (.saveStateFile (sessionStatePath "data") (shownDocument sid))) saved c') :
    Exec (disk 10 dataSettings.sessionStatePath) (captureAndSaveSessionState dataSettings 0) c
      (sessionShown sid saved) (.ok ()) c' := by
  have horigin : originOf dataSettings.baseUrl = "https://portal" := by decide +kernel
  rw [captureAndSaveSessionState, horigin]
  refine ⟨_, c, _, sameSession_refl c, rfl, _, c, _, sameSession_refl c, rfl, _, c, _,
    sameSession_refl c, rfl, saved, c', [], hsave, rfl, ?_⟩
  rcases hsaved with rfl | rfl <;> exact ⟨rfl, rfl, rfl⟩

theorem exec_windowShown (hsaved : saved = .ok () ∨ saved = .error diskFull)
    (hsave : (disk 10 dataSettings.sessionStatePath).step c
      (.portal (.saveStateFile (sessionStatePath "data") (shownDocument sid))) saved c') :
    Exec (disk 10 dataSettings.sessionStatePath) (loginInWindow dataSettings 0) c
      (windowShown sid saved) (.ok ()) c' :=
  ⟨_, c, _, sameSession_refl c, rfl, _, c, _, sameSession_refl c, rfl, _, c, _, sameSession_refl c,
    rfl, exec_sessionShown hsaved hsave⟩

theorem exec_lockAcquired : Exec (disk 10 dataSettings.sessionStatePath)
    (acquireProfileLock dataSettings.toProfilePaths) c lockAcquired
      (.ok ⟨0, dataSettings.lockPath⟩) c :=
  ⟨_, c, _, sameSession_refl c, rfl, _, c, _, sameSession_refl c, rfl, _, c, _, sameSession_refl c,
    rfl, _, c, _, sameSession_refl c, rfl, rfl, rfl, rfl⟩

theorem exec_lockGivenBack : Exec (disk 10 dataSettings.sessionStatePath)
    (releaseProfileLock ⟨0, dataSettings.lockPath⟩) c lockGivenBack (.ok ()) c :=
  ⟨_, c, _, sameSession_refl c, rfl, _, c, _, sameSession_refl c, rfl, _, c, _, sameSession_refl c,
    rfl, rfl, rfl, rfl⟩

theorem exec_withProfileLock {α : Type} {body : FileLock → Prog α} {t : List Happening}
    {o : Except Exn α}
    (h : Exec (disk 10 dataSettings.sessionStatePath) (body ⟨0, dataSettings.lockPath⟩) c t o c') :
    Exec (disk 10 dataSettings.sessionStatePath) (withProfileLock dataSettings body) c
      (lockAcquired ++ (t ++ lockGivenBack)) o c' := by
  refine exec_lockAcquired.bind (h.attempt_bind ?_)
  rw [← List.append_nil lockGivenBack]
  exact exec_lockGivenBack.bind ⟨rfl, rfl, rfl⟩

/-- The window is opened, and closed again whether or not the session could be saved. -/
theorem exec_launchVisibleBrowserAndWait (onTeardownUnconfirmed : Prog Unit)
    (hsaved : saved = .ok () ∨ saved = .error diskFull)
    (hsave : (disk 10 dataSettings.sessionStatePath).step c
      (.portal (.saveStateFile (sessionStatePath "data") (shownDocument sid))) saved c') :
    Exec (disk 10 dataSettings.sessionStatePath)
      (launchVisibleBrowserAndWait dataSettings onTeardownUnconfirmed) c
      (browserRun sid saved) (.ok ()) c' := by
  refine ⟨_, c, _, sameSession_refl c, rfl, _, c, _, sameSession_refl c, rfl, ?_⟩
  refine (exec_windowShown hsaved hsave).attempt_bind ?_
  exact ⟨.ok (), c', [], sameSession_refl c', rfl, rfl, rfl, rfl⟩

theorem exec_loginRun (hsaved : saved = .ok () ∨ saved = .error diskFull)
    (hsave : (disk 10 dataSettings.sessionStatePath).step c
      (.portal (.saveStateFile (sessionStatePath "data") (shownDocument sid))) saved c') :
    Exec (disk 10 dataSettings.sessionStatePath) (LoginAttempt.connector.program dataSettings) c
      (loginRun sid saved) (.ok ()) c' := by
  have hdone {α : Type} (a : α) :
      Exec (disk 10 dataSettings.sessionStatePath) (.done (.ok a)) c' [] (.ok a) c' :=
    ⟨rfl, rfl, rfl⟩
  have hlogin : Exec (disk 10 dataSettings.sessionStatePath) (runLogin dataSettings) c
      (loginRun sid saved) (.ok true) c' := by
    rw [← List.append_nil (loginRun sid saved)]
    refine Exec.attempt_bind (o := .ok true) (exec_withProfileLock ?_) (hdone true)
    rw [← List.append_nil (browserRun sid saved)]
    exact (exec_launchVisibleBrowserAndWait _ hsaved hsave).attempt_bind (hdone true)
  rw [← List.append_nil (loginRun sid saved)]
  exact hlogin.bind (hdone ())

end

theorem isStorageState_shownStorage (sid : String) : IsStorageState (shownStorage sid) := by
  obtain ⟨entry, hentries, hentry⟩ : ∃ entry, storageEntries (shownStorage sid) = [entry] ∧
      entry.IsObj ∧ ∃ items, entry.getD "localStorage" (.arr []) = .arr items :=
    ⟨_, rfl, ⟨_, rfl⟩, _, rfl⟩
  exact
    { cookies := ⟨_, rfl⟩
      origins := ⟨_, rfl⟩
      entries := by simpa [hentries] using hentry
      distinct := by rw [hentries]; exact List.pairwise_singleton _ _ }

theorem asDocumented_loginRun (sid : String) (saved : Except Exn Unit) :
    AsDocumented (loginRun sid saved) := by
  refine ⟨fun m storage h ↦ ?_, fun m items h ↦ ?_⟩
  · obtain ⟨-, rfl⟩ : m = 0 ∧ storage = shownStorage sid := by
      simpa [loginRun, browserRun, windowShown, sessionShown, lockAcquired, lockGivenBack] using h
    exact isStorageState_shownStorage sid
  · obtain ⟨-, rfl⟩ : m = 0 ∧ items = shownItems := by
      simpa [loginRun, browserRun, windowShown, sessionShown, lockAcquired, lockGivenBack] using h
    exact ⟨_, rfl⟩

theorem capturedBy_loginRun (sid : String) (e : Exn) :
    capturedBy (loginRun sid (.ok ())) = some (shownDocument sid) ∧
      capturedBy (loginRun sid (.error e)) = none := ⟨rfl, rfl⟩

theorem read_dumps_shownDocument (sid : String) :
    (SavedFile.bytes (JsonEncoder.dumps (shownDocument sid)).toUTF8).read 10 =
      .ok (.json (shownDocument sid)) :=
  read_dumps (by
    simp [shownDocument, sessionDocument, shownStorage, shownItems, JsonEncoder.Encodable,
      Json.getD, Json.get, Json.field, JsonEncoder.isNumberText_one])

/-- Two sessions are captured, and between them one that can not be saved. -/
def threeLogins : List (List Happening) :=
  [loginRun "1" (.ok ()), loginRun "2" (.error diskFull), loginRun "3" (.ok ())]

theorem exists_attempts_threeLogins :
    ∃ c, Attempts dataSettings 10 (fun _ ↦ none) threeLogins c := by
  obtain ⟨t₁, s₁, hsave₁, hnew₁⟩ :=
    exists_exec_saveSessionStateFile (shownDocument "1") (c := fun _ ↦ none) rfl
  obtain ⟨t₂, s₂, hsave₂, hnew₂⟩ :=
    exists_exec_saveSessionStateFile_full (shownDocument "2") hnew₁
  obtain ⟨t₃, s₃, hsave₃, -⟩ := exists_exec_saveSessionStateFile (shownDocument "3") hnew₂
  have hfirst := Attempts.attempt .connector .start (exec_loginRun (.inl rfl) ⟨t₁, _, _, hsave₁⟩)
  have hsecond := hfirst.attempt .connector (exec_loginRun (.inr rfl) ⟨t₂, _, _, hsave₂⟩)
  exact ⟨_, hsecond.attempt .connector (exec_loginRun (.inl rfl) ⟨t₃, _, _, hsave₃⟩)⟩

/-- After the third login its session is remembered. -/
theorem remembersLast_threeLogins : ∃ c, Attempts dataSettings 10 (fun _ ↦ none) threeLogins c ∧
    lastCaptured threeLogins = some (shownDocument "3") ∧
    RemembersLast dataSettings 10 threeLogins c := by
  obtain ⟨c, hattempts⟩ := exists_attempts_threeLogins
  refine ⟨c, hattempts, rfl, hattempts.remembersLast rfl (fun _ _ ↦ rfl) ?_ ?_⟩
  · simp [threeLogins, asDocumented_loginRun]
  · intro t ht state hstate
    simp only [threeLogins, List.mem_cons, List.not_mem_nil, or_false] at ht
    rcases ht with rfl | rfl | rfl
    · obtain rfl := Option.some_inj.mp ((capturedBy_loginRun "1" diskFull).1.symm.trans hstate)
      exact read_dumps_shownDocument "1"
    · cases (capturedBy_loginRun "2" diskFull).2.symm.trans hstate
    · obtain rfl := Option.some_inj.mp ((capturedBy_loginRun "3" diskFull).1.symm.trans hstate)
      exact read_dumps_shownDocument "3"

end RmaPortal
