import Mathlib.Data.Set.Basic
import Mathlib.Data.List.Induction

/-!
# Presence from reports

Some things are watched through *reports*.  A report names the things that were seen; a *full*
report also says that whatever it does not name was absent, while a partial one says nothing about
that.  What can be known about a thing is how many full reports have missed it since it was last
seen, and nothing at all before it has been seen for the first time.

Programs that watch for presence forget most of that history.  They keep whether the thing counts
as present, and the number of absences up to the limit at which it stops to.

## What is here

* `Report`, `count`, `absences` — reports, and what can be known.  `absences` may grow forever; it
  is `none` of a thing that has never been seen.
* `absences_isSome`, `absences_of_last`, `exists_last` — a thing is known iff it has been seen,
  and what is counted are the full reports after the last one that saw it.
* `Presence.Held` — what a program keeps: a pair that carries the fact that its two parts agree,
  so that a thing that counts as present has not been missed too often.
* `Held.ofAbsences` — what remains of the history.
* `Held.fresh`, `Held.miss`, `Held.note` — one report's effect on what is held.
* `Held.note_ofAbsences` — forgetting and noting commute.

Things are of any type, and the limit is any positive number.  The definitions that look into a
report are classical; what is held is computed.
-/

set_option autoImplicit false

namespace Presence

/-- Who was seen, and whether the report is a full one. -/
structure Report (κ : Type) where
  /-- The things that were seen. -/
  seen : Set κ
  /-- Whether the things that were not seen were absent. -/
  full : Prop

open Classical

variable {κ : Type} (k : κ)

/-- What one report does to the number of absences of `k` since it was last seen. -/
noncomputable def count (c : Option ℕ) (rep : Report κ) : Option ℕ :=
  if k ∈ rep.seen then some 0 else if rep.full then c.map (· + 1) else c

/-- How many full reports have missed `k` since it was last seen; `none` if it has never been. -/
noncomputable def absences (reps : List (Report κ)) : Option ℕ := reps.foldl (count k) none

@[simp] theorem absences_nil : absences k [] = none := rfl

theorem absences_concat (reps : List (Report κ)) (rep : Report κ) :
    absences k (reps ++ [rep]) = count k (absences k reps) rep := by
  rw [absences, List.foldl_append]
  rfl

theorem count_isSome {c : Option ℕ} {rep : Report κ} :
    (count k c rep).isSome ↔ c.isSome ∨ k ∈ rep.seen := by
  rw [count]
  split_ifs with hseen hfull
  · simp [hseen]
  · simp [hseen]
  · simp [hseen]

/-- **A thing is known iff it has been seen.** -/
theorem absences_isSome {reps : List (Report κ)} :
    (absences k reps).isSome ↔ ∃ rep ∈ reps, k ∈ rep.seen := by
  induction reps using List.reverseRecOn with
  | nil => simp
  | append_singleton reps rep ih =>
    rw [absences_concat, count_isSome, ih]
    simp [or_and_right, exists_or]

/-- Reports that do not see `k` add up. -/
theorem foldl_count {reps : List (Report κ)} (h : ∀ rep ∈ reps, k ∉ rep.seen) (c : ℕ) :
    reps.foldl (count k) (some c) = some (c + reps.countP fun rep ↦ decide rep.full) := by
  induction reps generalizing c with
  | nil => rfl
  | cons rep reps ih =>
    have hrest := ih fun rep' hrep' ↦ h rep' (List.mem_cons_of_mem rep hrep')
    rw [List.foldl_cons, count, if_neg (h rep List.mem_cons_self), List.countP_cons]
    by_cases hfull : rep.full
    · rw [if_pos hfull, Option.map_some, hrest]
      simp only [hfull, decide_true, if_true]
      congr 1
      omega
    · rw [if_neg hfull, hrest]
      simp [hfull]

/-- **What is counted**: the full reports after the last one that saw `k`. -/
theorem absences_of_last {before after : List (Report κ)} {rep : Report κ} (hseen : k ∈ rep.seen)
    (hafter : ∀ rep' ∈ after, k ∉ rep'.seen) :
    absences k (before ++ rep :: after) = some (after.countP fun rep' ↦ decide rep'.full) := by
  rw [absences, List.foldl_append, List.foldl_cons, count, if_pos hseen, foldl_count k hafter,
    Nat.zero_add]

/-- There is a last report that saw `k`, if any did. -/
theorem exists_last {reps : List (Report κ)} (h : ∃ rep ∈ reps, k ∈ rep.seen) :
    ∃ before rep after, reps = before ++ rep :: after ∧ k ∈ rep.seen ∧
      ∀ rep' ∈ after, k ∉ rep'.seen := by
  induction reps using List.reverseRecOn with
  | nil => simp at h
  | append_singleton reps rep ih =>
    by_cases hseen : k ∈ rep.seen
    · exact ⟨reps, rep, [], rfl, hseen, by simp⟩
    · have h' : ∃ rep ∈ reps, k ∈ rep.seen := by
        obtain ⟨rep', hrep', hk⟩ := h
        rcases List.mem_append.mp hrep' with hrep' | hrep'
        · exact ⟨rep', hrep', hk⟩
        · rw [List.mem_singleton.mp hrep'] at hk
          exact absurd hk hseen
      obtain ⟨before, last, after, rfl, hlast, hafter⟩ := ih h'
      refine ⟨before, last, after ++ [rep], by simp, hlast, fun rep' hrep' ↦ ?_⟩
      rcases List.mem_append.mp hrep' with hrep' | hrep'
      · exact hafter rep' hrep'
      · rw [List.mem_singleton.mp hrep']
        exact hseen

/-! ## What is held of the history -/

/-- Whether a thing counts as present, and how many absences have been noted, up to `limit`. -/
structure Held (limit : ℕ) where
  /-- The thing counts as present. -/
  present : Bool
  /-- The number of absences noted. -/
  missed : ℕ
  /-- Only what has not been missed too often counts as present. -/
  present_iff : present = true ↔ missed < limit
  /-- Nothing is noted beyond the limit. -/
  missed_le : missed ≤ limit

namespace Held

variable {limit : ℕ}

theorem ext_missed {h h' : Held limit} (heq : h.missed = h'.missed) : h = h' := by
  obtain ⟨p, m, hp, hm⟩ := h
  obtain ⟨p', m', hp', hm'⟩ := h'
  dsimp only at heq
  subst heq
  have : p = p' := by
    rw [Bool.eq_iff_iff, hp, hp']
  subst this
  rfl

/-- What is held of a number of absences. -/
def ofAbsences (limit c : ℕ) : Held limit where
  present := decide (c < limit)
  missed := min c limit
  present_iff := by simp
  missed_le := min_le_right c limit

/-- A thing that has just been seen. -/
def fresh (hlimit : 0 < limit) : Held limit where
  present := true
  missed := 0
  present_iff := by simp [hlimit]
  missed_le := Nat.zero_le limit

/-- A full report has missed the thing. -/
def miss (h : Held limit) : Held limit :=
  if hm : h.missed < limit then
    { present := decide (h.missed + 1 < limit)
      missed := h.missed + 1
      present_iff := by simp
      missed_le := hm }
  else h

theorem miss_ofAbsences (c : ℕ) : (ofAbsences limit c).miss = ofAbsences limit (c + 1) := by
  apply ext_missed
  rw [miss]
  split <;> rename_i h <;> simp only [ofAbsences] at h ⊢ <;> omega

theorem fresh_eq (hlimit : 0 < limit) : fresh hlimit = ofAbsences limit 0 :=
  ext_missed (by simp [fresh, ofAbsences])

/-- One report's effect on what is held of `k`. -/
noncomputable def note (hlimit : 0 < limit) (rep : Report κ) (h : Option (Held limit)) :
    Option (Held limit) :=
  if k ∈ rep.seen then some (fresh hlimit) else if rep.full then h.map miss else h

/-- **Forgetting and noting commute.** -/
theorem note_ofAbsences (hlimit : 0 < limit) (rep : Report κ) (c : Option ℕ) :
    note k hlimit rep (c.map (ofAbsences limit)) = (count k c rep).map (ofAbsences limit) := by
  rw [note, count]
  split_ifs with hseen hfull
  · rw [fresh_eq]
    rfl
  · rw [Option.map_map, Option.map_map]
    congr 1
    funext c
    exact miss_ofAbsences c
  · rfl

end Held

end Presence
