import Mathlib.Data.List.Basic

/-!
# Keeping up with changes

Events of a history may change a thing, read it, or both.  A copy of the thing made by reading is
up to date if there has been a read since the last change, where an event that does both reads
what it has changed.

## What is here

* `UpToDate` — if anything has changed at all, there has been a read since the last change.
* `upToDate_nil`, `upToDate_of_read`, `UpToDate.concat` — nothing has happened; and the two steps
  that keep a history up to date: an event that reads, and one that does not change.
* `mem_of_concat_eq` — the last event of a history is the last event after each of its events.

Events are of any type, and changing and reading are any two predicates on them.
-/

set_option autoImplicit false

namespace Presence

variable {β : Type} {change read : β → Bool} {events : List β} {e : β}

/-- If anything has changed at all, there has been a read since the last change. -/
def UpToDate (change read : β → Bool) (events : List β) : Prop :=
  ∀ before e after, events = before ++ e :: after → change e = true →
    (∀ e' ∈ after, change e' = false) → ∃ e' ∈ e :: after, read e' = true

theorem upToDate_nil : UpToDate change read [] := by
  intro before e after h
  simp at h

/-- The last event of a history is the last event after each of its events. -/
theorem mem_of_concat_eq {before after : List β} {e e' : β}
    (h : events ++ [e] = before ++ e' :: after) : e ∈ e' :: after := by
  have hlast := congrArg List.getLast? h
  rw [List.getLast?_concat, List.getLast?_append_of_ne_nil _ (List.cons_ne_nil e' after)] at hlast
  exact List.mem_of_getLast? hlast.symm

theorem upToDate_of_read (h : read e = true) : UpToDate change read (events ++ [e]) :=
  fun _ _ _ heq _ _ ↦ ⟨e, mem_of_concat_eq heq, h⟩

theorem UpToDate.concat (h : UpToDate change read events) (he : change e = false) :
    UpToDate change read (events ++ [e]) := by
  intro before e' after heq hchange hafter
  rcases List.eq_nil_or_concat' after with rfl | ⟨after, last, rfl⟩
  · -- the last event would be the change
    have hlast := (List.append_inj' heq rfl).2
    rw [List.singleton_inj.mp hlast, hchange] at he
    cases he
  · rw [← List.cons_append, ← List.append_assoc] at heq
    obtain ⟨hfront, -⟩ := List.append_inj' heq rfl
    obtain ⟨e'', he'', hread⟩ := h before e' after hfront hchange
      fun x hx ↦ hafter x (List.mem_append_left _ hx)
    exact ⟨e'', by rw [← List.cons_append]; exact List.mem_append_left _ he'', hread⟩

end Presence
