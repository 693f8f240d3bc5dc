import Mathlib.Logic.Function.Basic
import RmaPortal.Coroutine.Basic

/-!
# Files

A file system, as far as a program sees it that writes a new file next to an old one and then puts
it in the old one's place.

## What is here

* `Contents`, `FileSystem` — what the files hold, `none` where there is no file, and what has been
  written through the open handle.
* `FileRequest` — the calls: a directory and a temporary file are made, a handle is opened on it,
  written to and closed, a file replaces another one, and a file is removed.
* `FileSystem.system` — how the requests are answered.  Each may raise at any time; whatever has
  been written through a handle until then may or may not be in its file, and only closing the
  handle puts all of it there.  Two requests are all or nothing: a file replaces another one
  completely or not at all, and a file that is removed is gone.
* `Beside` — the contents are these, but for one file, which is there.  While one file is written
  the others are what they were, and this is how the rules say so.
* `sat_mkdir`, `sat_mkstemp`, `sat_fdopen`, `sat_write`, `sat_close`, `sat_replace`, `sat_remove`
  — the rules for single requests.

Two things are taken for granted: the name of a temporary file is not in use, and removing a file
that is there succeeds.  Directories have no contents here.
-/

set_option autoImplicit false

open Coroutine

namespace Files

/-- What the files hold: `none` where there is no file. -/
abbrev Contents : Type := String → Option ByteArray

inductive FileRequest
  /-- `path.mkdir(parents=True, exist_ok=True)` -/
  | mkdir (path : String)
  /-- `tempfile.mkstemp(dir=…, prefix=…, suffix=…)` -/
  | mkstemp (dir start ending : String)
  /-- `os.fdopen(fd, "w")` for the descriptor of a file -/
  | fdopen (path : String)
  /-- Write through the handle of a file. -/
  | write (path : String) (data : ByteArray)
  | close (path : String)
  /-- `os.replace(source, target)` -/
  | replace (source target : String)
  /-- `os.remove(path)` -/
  | remove (path : String)

abbrev FileRequest.Val : FileRequest → Type
  | mkstemp _ _ _ => String
  | _ => Unit

/-- The files, and what has been written through the open handle. -/
structure FileSystem where
  contents : Contents
  written : ByteArray

/-- The names `mkstemp` chooses from. -/
def IsTemporary (dir start ending path : String) : Prop :=
  ∃ middle, path = dir ++ "/" ++ start ++ middle ++ ending

variable {ε : Type}

/-- How a request is answered. -/
def step (s : FileSystem) : (r : FileRequest) → Except ε r.Val → FileSystem → Prop
  | .mkdir _, _, s' => s' = s
  | .mkstemp _ _ _, .error _, s' => s' = s
  | .mkstemp dir start ending, .ok path, s' =>
    IsTemporary dir start ending path ∧ s.contents path = none ∧
      s' = { s with contents := Function.update s.contents path (some .empty) }
  | .fdopen _, .error _, s' => s' = s
  | .fdopen _, .ok _, s' => s' = { s with written := .empty }
  | .write path data, a, s' => ∃ inFile written, (a = .ok () → written = s.written ++ data) ∧
    s' = ⟨Function.update s.contents path (some inFile), written⟩
  | .close path, a, s' => ∃ inFile, (a = .ok () → inFile = s.written) ∧
    s' = { s with contents := Function.update s.contents path (some inFile) }
  | .replace _ _, .error _, s' => s' = s
  | .replace source target, .ok _, s' => ∃ data, s.contents source = some data ∧
    s' = { s with
      contents := Function.update (Function.update s.contents target (some data)) source none }
  | .remove path, a, s' =>
    a = .ok () ∧ s' = { s with contents := Function.update s.contents path none }

/-- The rules of the file system.  That removing a file succeeds is assumed. -/
def system (ε : Type) : Spec FileRequest.Val ε FileSystem := ⟨fun _ _ ↦ True, step⟩

/-! ## Rules for single requests

Where one file is written, the others are what they were: the contents are those before, updated at
one path. -/

section

variable {c : Contents} {s : FileSystem} {path dir start ending : String}

/-- The contents are `c`, but for one file, which is there. -/
def Beside (c : Contents) (path : String) (s : FileSystem) : Prop :=
  ∃ data, s.contents = Function.update c path (some data)

theorem sat_mkdir : Sat (system ε) (Coro.perform (.mkdir path)) s fun _ _ s' ↦ s' = s :=
  sat_perform trivial fun _ _ h ↦ h

/-- A temporary file is new. -/
theorem sat_mkstemp : Sat (system ε) (Coro.perform (.mkstemp dir start ending)) s
    fun _ o s' ↦ match o with
      | .error _ => s'.contents = s.contents
      | .ok path => IsTemporary dir start ending path ∧ s.contents path = none ∧
        Beside s.contents path s' := by
  refine sat_perform trivial fun a s' h ↦ ?_
  cases a with
  | error e => exact congrArg _ h
  | ok path =>
    obtain ⟨htemporary, hnew, rfl⟩ := h
    exact ⟨htemporary, hnew, _, rfl⟩

theorem sat_fdopen (h : Beside c path s) : Sat (system ε) (Coro.perform (.fdopen path)) s
    fun _ o s' ↦ Beside c path s' ∧ (o = .ok () → s'.written = .empty) := by
  refine sat_perform trivial fun a s' hs ↦ ?_
  cases a with
  | error e =>
    obtain rfl := hs
    exact ⟨h, fun ho ↦ by cases ho⟩
  | ok _ =>
    obtain rfl := hs
    exact ⟨h, fun _ ↦ rfl⟩

theorem sat_write {data : ByteArray} (h : Beside c path s) :
    Sat (system ε) (Coro.perform (.write path data)) s fun _ o s' ↦
      Beside c path s' ∧ (o = .ok () → s'.written = s.written ++ data) := by
  refine sat_perform trivial fun a s' ⟨inFile, written, hwritten, hs⟩ ↦ ?_
  obtain ⟨before, h⟩ := h
  subst hs
  exact ⟨⟨inFile, by rw [h, Function.update_idem]⟩, hwritten⟩

/-- Once its handle is closed a file holds what was written. -/
theorem sat_close (h : Beside c path s) : Sat (system ε) (Coro.perform (.close path)) s
    fun _ o s' ↦ Beside c path s' ∧
      (o = .ok () → s'.contents = Function.update c path (some s.written)) := by
  refine sat_perform trivial fun a s' ⟨inFile, hinFile, hs⟩ ↦ ?_
  obtain ⟨before, h⟩ := h
  subst hs
  refine ⟨⟨inFile, by rw [h, Function.update_idem]⟩, fun ha ↦ ?_⟩
  rw [h, Function.update_idem, hinFile ha]

/-- A new file replaces another one, or nothing happens. -/
theorem sat_replace {source target : String} {data : ByteArray} (hne : source ≠ target)
    (hnew : c source = none) (h : s.contents = Function.update c source (some data)) :
    Sat (system ε) (Coro.perform (.replace source target)) s fun _ o s' ↦ match o with
      | .error _ => s' = s
      | .ok _ => s'.contents = Function.update c target (some data) := by
  refine sat_perform trivial fun a s' hs ↦ ?_
  cases a with
  | error e => exact hs
  | ok _ =>
    obtain ⟨data', hdata, rfl⟩ := hs
    rw [h, Function.update_self, Option.some_inj] at hdata
    subst hdata
    dsimp only
    rw [h, Function.update_comm hne, Function.update_idem, ← hnew]
    exact Function.update_eq_self_iff.mpr (Function.update_of_ne hne _ _).symm

/-- Without the new file everything is as it was. -/
theorem sat_remove (hnew : c path = none) (h : Beside c path s) :
    Sat (system ε) (Coro.perform (.remove path)) s fun _ o s' ↦
      o = .ok () ∧ s'.contents = c := by
  refine sat_perform trivial fun a s' ⟨ha, hs⟩ ↦ ⟨ha, ?_⟩
  obtain ⟨before, h⟩ := h
  subst hs
  rw [h, Function.update_idem, ← hnew, Function.update_eq_self]

end

end Files
