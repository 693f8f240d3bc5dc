import RmaPortal.Requests

/-!
# The lock of the browser profile

`infrastructure/portal/profile_lock.py`.  The context manager `acquire_profile_lock` is two
programs: `acquireProfileLock`, up to its `yield`, and `releaseProfileLock`, its `finally`, after
which the frame and its reference to the lock are gone.

## What is here

* `ProfilePaths` — where the profile and its lock are.
* `occupiedMessage`, `unconfirmedTeardownMessage` — what somebody is told who finds the lock held,
  or the profile marked.  The second one says since when, in the way the portal writes dates.
* `markProfileTeardownUnconfirmed` — keep the lock held: the registry refers to it from now on.
* `acquireProfileLock` — the registry is looked at first, then the lock is tried without waiting.
* `releaseProfileLock` — the lock is let go of, unless the registry has an entry for it.

What the requests do to the locks and to the registry is in `Requests.lean`, and the rules that
follow from it are in `Profile.Locking`.
-/

set_option autoImplicit false

open Coroutine

namespace RmaPortal

/-- Where the profile and its lock are. -/
structure ProfilePaths where
  profileDir : String
  lockPath : String
  /-- `lock_path.parent` -/
  lockDir : String

def occupiedMessage : String :=
  "Le profil de navigateur OmegaFlow est occupé (configuration de session en cours)."

/-- Two decimal digits. -/
def twoDigits (n : ℕ) : String := if n < 10 then "0" ++ toString n else toString n

/-- `since.strftime('%d/%m/%Y %H:%M')` -/
def Datetime.display (d : Datetime) : String :=
  twoDigits d.day ++ "/" ++ twoDigits d.month ++ "/" ++ toString d.year ++ " " ++
    twoDigits d.hour ++ ":" ++ twoDigits d.minute

def unconfirmedTeardownMessage (entry : UnconfirmedTeardown) : String :=
  "Le profil de navigateur OmegaFlow est indisponible : la fermeture du " ++
  "précédent navigateur n'a pas été confirmée (" ++ entry.reason ++ ", depuis " ++
  entry.since.display ++ " UTC). Redémarrez le Portail RMA pour réessayer."

/-- Keep `lock` held: the registry refers to it from now on. -/
def markProfileTeardownUnconfirmed (lock : FileLock) (reason : String) : Prog Unit := do
  let since ← datetimeNow
  portal (.unconfirmedSet { lockPath := lock.path, lock := lock, reason := reason, since := since })

/-- `acquire_profile_lock` up to its `yield`. -/
def acquireProfileLock (paths : ProfilePaths) : Prog FileLock := do
  match ← portal (.unconfirmedGet paths.lockPath) with
  | some entry => throw (.browserProfileLockedError (unconfirmedTeardownMessage entry))
  | none =>
    portal (.mkdir paths.lockDir)
    let lock ← portal (.newFileLock paths.lockPath)
    match ← (portal (.acquire lock)).attempt with
    | .ok () => pure lock
    | .error e =>
      portal (.forget lock)
      match e with
      | .filelockTimeout _ => throw (.browserProfileLockedError occupiedMessage)
      | e => throw e

/-- The `finally` of `acquire_profile_lock`. -/
def releaseProfileLock (lock : FileLock) : Prog Unit := do
  match ← portal (.unconfirmedGet lock.path) with
  | some _ => pure ()
  | none => portal (.release lock)
  portal (.forget lock)

end RmaPortal
