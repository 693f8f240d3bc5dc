import RmaPortal.Data.Files
import RmaPortal.Infrastructure.Portal.JsonEncoder
import RmaPortal.Infrastructure.Portal.SessionSetup
import RmaPortal.Session.Tolerance

/-!
# The file of the saved session

What `save_session_state` does with files.  `saveSessionState` takes it to be a single request;
here is the function itself, and what it does is what the request is answered with.  This is right
because it runs to its end without an `await`, so that nothing else happens meanwhile.

## What is here

* `parent`, `sessionStatePath` — where the file is.
* `writeAndReplace`, `saveSessionStateFile` — the function: a temporary file is written next to
  the old one and then put in its place, and is removed if that goes wrong.
* `isOSError` — what `contextlib.suppress(OSError)` suppresses.
* `IsTemporarySession`, `IsSessionFile`, `SameSession` — the session's own files, among all the
  files there are.
* `savedFile` — the file of a session, as it is read.
* `disk` — what requests do to the session's files: saving is `saveSessionStateFile`, reading is
  `json.load`, and nothing else touches them.

What is left in the file after any number of attempts to save a session is in `Session.Saving` and
`Session.Restoring`.
-/

set_option autoImplicit false

open Coroutine Files

namespace RmaPortal

/-- `path.parent` -/
def parent (path : String) : String :=
  String.ofList (((path.toList.reverse.dropWhile fun c ↦ c != '/').drop 1).reverse)

/-- `Settings.session_state_path` -/
def sessionStatePath (dataDir : String) : String := dataDir ++ "/omegaflow-session-state.json"

/-- Ask for something to be done with files. -/
def file (r : FileRequest) : Coro FileRequest.Val Exn r.Val := Coro.perform r

/-- An exception that `contextlib.suppress(OSError)` suppresses. -/
def isOSError (e : Exn) : Bool :=
  e.typeName ∈ ["OSError", "BlockingIOError", "BrokenPipeError", "ChildProcessError",
    "ConnectionAbortedError", "ConnectionError", "ConnectionRefusedError", "ConnectionResetError",
    "FileExistsError", "FileNotFoundError", "InterruptedError", "IsADirectoryError",
    "NotADirectoryError", "PermissionError", "ProcessLookupError", "TimeoutError"]

/-- The `try` block of `save_session_state`. -/
def writeAndReplace (tmpName path : String) (state : Json) : Coro FileRequest.Val Exn Unit := do
  file (.fdopen tmpName)
  let _ ← (file (.write tmpName (JsonEncoder.dumps state).toUTF8)).tryFinally
    (file (.close tmpName))
  file (.replace tmpName path)

/-- `save_session_state` -/
def saveSessionStateFile (path : String) (state : Json) : Coro FileRequest.Val Exn Unit := do
  file (.mkdir (parent path))
  let tmpName ← file (.mkstemp (parent path) ".omegaflow-session-" ".tmp")
  match ← (writeAndReplace tmpName path state).attempt with
  | .ok () => pure ()
  | .error e =>
    match ← (file (.remove tmpName)).attempt with
    | .ok () => throw e
    | .error e' => if isOSError e' then throw e else throw e'

/-! ## The session's own files -/

/-- A name of a temporary file that a session is written to. -/
abbrev IsTemporarySession (path : String) : String → Prop :=
  IsTemporary (parent path) ".omegaflow-session-" ".tmp"

/-- The file of the saved session, or a temporary one that a session is written to. -/
def IsSessionFile (path p : String) : Prop := p = path ∨ IsTemporarySession path p

/-- The session's own files are the same. -/
def SameSession (path : String) (c c' : Contents) : Prop := ∀ p, IsSessionFile path p → c' p = c p

/-- The file of a session, as it is read. -/
def savedFile (c : Contents) (path : String) : SavedFile := (c path).elim .absent .bytes

/-- **What requests do to the session's files**: saving is `saveSessionStateFile`, reading is
`json.load`, and nothing else touches them. -/
def disk (depth : ℕ) (path : String) : Spec Request.Val Exn Contents where
  pre _ _ := True
  step c r a c' :=
    match r, a with
    | .portal (.saveStateFile p state), a => ∃ t written written',
      Exec (system Exn) (saveSessionStateFile p state) ⟨c, written⟩ t a ⟨c', written'⟩
    | .portal (.readStateFile p), a => a = (savedFile c p).read depth ∧ c' = c
    | _, _ => SameSession path c c'

end RmaPortal
