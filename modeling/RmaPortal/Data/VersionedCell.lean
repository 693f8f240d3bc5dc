import Mathlib.Data.List.Induction
import Mathlib.Data.List.Nodup
import Mathlib.Tactic.Ring

/-!
# A cell with a version

Many writers share one cell that carries a version number.  A writer *loads* the cell, works out
what the next content should be, and *stores* it with the version it has loaded plus one.  Nothing
stops two writers from loading the same version: a store replaces whatever the cell holds.

This file says when that goes well.

## What is here

* `VersionedCell.Access`, `final`, `stores` — accesses, the version after some of them, and who
  has stored from which version.
* `VersionedCell.History v₀ l` — `l` is a possible sequence of accesses, starting from version
  `v₀`: who loads sees the cell, and who stores has loaded.
* `Exact` and `Undisturbed` — an update is *exact* if the cell still has the version its writer
  has loaded, and *undisturbed* if nobody stores anything between its load and its store.
* `exact_iff_undisturbed` — all updates are exact iff all of them are undisturbed.
* `Exact.versions` — in that case the updates were made from the versions `v₀`, `v₀ + 1`, … in
  this order; so no two of them were made from the same version, and the final version counts them
  (`Exact.eq_of_mem_stores`, `Exact.final_eq`).
* `undisturbed_serial` — writers that come one after the other are undisturbed.

What the cell holds besides its version does not matter here, and is left out.
-/

set_option autoImplicit false

namespace VersionedCell

variable {ι : Type}

/-- An access to the cell by the writer `i`. -/
inductive Access (ι : Type)
  /-- `i` loads the cell and finds version `v`. -/
  | load (i : ι) (v : ℤ)
  /-- `i` stores what it has worked out from version `v`. -/
  | store (i : ι) (v : ℤ)

open Access

/-- The version after an access. -/
def Access.next (v : ℤ) : Access ι → ℤ
  | load _ _ => v
  | store _ w => w + 1

/-- The version after some accesses. -/
def final (v₀ : ℤ) (l : List (Access ι)) : ℤ := l.foldl Access.next v₀

/-- The writers and the versions they worked from, in the order of their stores. -/
def stores (l : List (Access ι)) : List (ι × ℤ) :=
  l.filterMap fun
    | load _ _ => none
    | store i v => some (i, v)

@[simp] theorem final_append (v₀ : ℤ) (l l' : List (Access ι)) :
    final v₀ (l ++ l') = final (final v₀ l) l' := List.foldl_append

@[simp] theorem final_nil (v₀ : ℤ) : final v₀ ([] : List (Access ι)) = v₀ := rfl

@[simp] theorem final_load (v₀ : ℤ) (i : ι) (v : ℤ) (l : List (Access ι)) :
    final v₀ (load i v :: l) = final v₀ l := rfl

@[simp] theorem final_store (v₀ : ℤ) (i : ι) (v : ℤ) (l : List (Access ι)) :
    final v₀ (store i v :: l) = final (v + 1) l := rfl

@[simp] theorem stores_append (l l' : List (Access ι)) :
    stores (l ++ l') = stores l ++ stores l' := List.filterMap_append

@[simp] theorem stores_nil : stores ([] : List (Access ι)) = [] := rfl

@[simp] theorem stores_load (i : ι) (v : ℤ) (l : List (Access ι)) :
    stores (load i v :: l) = stores l := rfl

@[simp] theorem stores_store (i : ι) (v : ℤ) (l : List (Access ι)) :
    stores (store i v :: l) = (i, v) :: stores l := rfl

theorem mem_stores {l : List (Access ι)} {i : ι} {v : ℤ} :
    (i, v) ∈ stores l ↔ store i v ∈ l := by
  induction l with
  | nil => simp
  | cons x l ih => cases x <;> simp [ih]

/-- Nobody stores anything, nothing changes. -/
theorem final_eq_of_stores_eq_nil {v₀ : ℤ} {l : List (Access ι)} (h : stores l = []) :
    final v₀ l = v₀ := by
  induction l with
  | nil => rfl
  | cons x l ih =>
    cases x with
    | load i v => exact ih (by simpa using h)
    | store i v => simp at h

/-- A possible sequence of accesses: who loads sees the cell, and who stores has loaded. -/
inductive History (v₀ : ℤ) : List (Access ι) → Prop
  | nil : History v₀ []
  | loaded {l : List (Access ι)} (h : History v₀ l) (i : ι) :
      History v₀ (l ++ [load i (final v₀ l)])
  | stored {l : List (Access ι)} (h : History v₀ l) {i : ι} {v : ℤ} (hload : load i v ∈ l) :
      History v₀ (l ++ [store i v])

variable {v₀ : ℤ} {l l' : List (Access ι)}

theorem History.of_append (h : History v₀ (l ++ l')) : History v₀ l := by
  induction l' using List.reverseRecOn with
  | nil => simpa using h
  | append_singleton l' x ih =>
    rw [← List.append_assoc] at h
    generalize hm : (l ++ l') ++ [x] = m at h
    cases h with
    | nil => simp at hm
    | loaded h i => exact ih (List.append_inj_left' hm rfl ▸ h)
    | stored h hload => exact ih (List.append_inj_left' hm rfl ▸ h)

/-- Who loads sees the cell. -/
theorem History.eq_of_load {i : ι} {v : ℤ} (h : History v₀ (l ++ load i v :: l')) :
    v = final v₀ l := by
  rw [← List.singleton_append, ← List.append_assoc] at h
  have h := h.of_append
  generalize hm : l ++ [load i v] = m at h
  cases h with
  | nil => simp at hm
  | loaded h j =>
    obtain ⟨rfl, hx⟩ := List.append_inj' hm rfl
    cases hx
    rfl
  | stored h hload =>
    obtain ⟨-, hx⟩ := List.append_inj' hm rfl
    cases hx

/-- Who stores has loaded. -/
theorem History.load_of_store {i : ι} {v : ℤ} (h : History v₀ (l ++ store i v :: l')) :
    load i v ∈ l := by
  rw [← List.singleton_append, ← List.append_assoc] at h
  have h := h.of_append
  generalize hm : l ++ [store i v] = m at h
  cases h with
  | nil => simp at hm
  | loaded h j =>
    obtain ⟨-, hx⟩ := List.append_inj' hm rfl
    cases hx
  | stored h hload =>
    obtain ⟨rfl, hx⟩ := List.append_inj' hm rfl
    cases hx
    exact hload

/-- Every update is made from the version the cell has when it is made. -/
def Exact (v₀ : ℤ) (l : List (Access ι)) : Prop :=
  ∀ A i v C, l = A ++ store i v :: C → v = final v₀ A

/-- Nobody stores anything between the load and the store of an update. -/
def Undisturbed (l : List (Access ι)) : Prop :=
  ∀ A i v B C, l = A ++ load i v :: (B ++ store i v :: C) → stores B = []

theorem Exact.of_append (h : Exact v₀ (l ++ l')) : Exact v₀ l := fun A i v C hl ↦
  h A i v (C ++ l') (by simp [hl])

/-- **The version counts the updates.** -/
theorem Exact.final_eq (h : Exact v₀ l) : final v₀ l = v₀ + (stores l).length := by
  induction l using List.reverseRecOn with
  | nil => simp
  | append_singleton l x ih =>
    cases x with
    | load i v => simp [ih h.of_append]
    | store i v =>
      have hv : v = final v₀ l := h l i v [] rfl
      simp [hv, ih h.of_append, add_assoc]

/-- **The versions count up**: exact updates are made from `v₀`, `v₀ + 1`, … in this order. -/
theorem Exact.versions (h : Exact v₀ l) :
    (stores l).map Prod.snd = (List.range (stores l).length).map fun n : ℕ ↦ v₀ + n := by
  induction l using List.reverseRecOn with
  | nil => simp
  | append_singleton l x ih =>
    cases x with
    | load i v => simpa using ih h.of_append
    | store i v =>
      have hv : v = final v₀ l := h l i v [] rfl
      simp [ih h.of_append, List.range_succ, hv, h.of_append.final_eq]

/-- No two exact updates are made from the same version. -/
theorem Exact.nodup (h : Exact v₀ l) : ((stores l).map Prod.snd).Nodup := by
  rw [h.versions]
  exact List.Nodup.map (fun m n hmn ↦ by simpa using hmn) List.nodup_range

theorem Exact.eq_of_mem_stores (h : Exact v₀ l) {i j : ι} {v : ℤ} (hi : (i, v) ∈ stores l)
    (hj : (j, v) ∈ stores l) : i = j :=
  congrArg Prod.fst (List.inj_on_of_nodup_map h.nodup hi hj rfl)

/-- The version never goes down while updates are exact. -/
theorem Exact.final_add_length {A B : List (Access ι)} (h : Exact v₀ (A ++ B)) :
    final v₀ A + (stores B).length = final v₀ (A ++ B) := by
  rw [h.final_eq, h.of_append.final_eq, stores_append, List.length_append]
  push_cast
  ring

/-- **When updates are exact**: iff nobody stores anything between the load and the store of any of
them. -/
theorem exact_iff_undisturbed (h : History v₀ l) : Exact v₀ l ↔ Undisturbed l := by
  constructor
  · rintro hexact A i v B C rfl
    -- the cell had version `v` before `B`, and has it again after
    have hload : v = final v₀ A := h.eq_of_load
    have hstore : v = final v₀ (A ++ load i v :: B) := hexact _ i v C (by simp)
    have hbefore : Exact v₀ (A ++ load i v :: B ++ store i v :: C) := by simpa using hexact
    have hcount := hbefore.of_append.final_add_length
    rw [← hload, ← hstore, stores_load] at hcount
    exact List.length_eq_zero_iff.mp (by omega)
  · rintro hundisturbed A i v C rfl
    obtain ⟨A₁, B, rfl⟩ := List.append_of_mem h.load_of_store
    have hB : stores B = [] := hundisturbed A₁ i v B C (by simp)
    have hload : v = final v₀ A₁ := by
      rw [List.append_assoc, List.cons_append] at h
      exact h.eq_of_load
    rw [final_append, final_load, final_eq_of_stores_eq_nil hB, ← hload]

/-! ### One after the other -/

/-- Each of these writers loads the cell and stores what it has worked out. -/
def serial (rs : List (ι × ℤ)) : List (Access ι) := rs.flatMap fun r ↦ [load r.1 r.2, store r.1 r.2]

@[simp] theorem stores_serial (rs : List (ι × ℤ)) : stores (serial rs) = rs := by
  induction rs with
  | nil => rfl
  | cons r rs ih => rw [serial, List.flatMap_cons, stores_append, ← serial, ih]; rfl

/-- **Writers that come one after the other are undisturbed**, if each of them comes once. -/
theorem undisturbed_serial {rs : List (ι × ℤ)} (hnodup : (rs.map Prod.fst).Nodup) :
    Undisturbed (serial rs) := by
  intro A i v B C h
  induction rs generalizing A with
  | nil => simp [serial] at h
  | cons r rs ih =>
    obtain ⟨hnew, hnodup⟩ := List.nodup_cons.mp hnodup
    have hcons : serial (r :: rs) = load r.1 r.2 :: store r.1 r.2 :: serial rs := rfl
    rw [hcons] at h
    match A, h with
    | [], h =>
      obtain ⟨hload, h⟩ := List.cons.inj h
      cases hload
      cases B with
      | nil => rfl
      | cons b B =>
        -- the writer would come again
        obtain ⟨-, h⟩ := List.cons.inj h
        have hagain : r ∈ rs := by
          have hmem : store r.1 r.2 ∈ serial rs := by rw [h]; simp
          simpa using mem_stores.mpr hmem
        exact absurd (List.mem_map_of_mem hagain) hnew
    | [a], h => cases (List.cons.inj (List.cons.inj h).2).1
    | a :: a' :: A, h => exact ih hnodup A (List.cons.inj (List.cons.inj h).2).2

end VersionedCell
