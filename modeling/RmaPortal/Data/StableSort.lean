import Mathlib.Order.Lattice
import Mathlib.Data.List.Basic
import Mathlib.Data.List.Pairwise

/-!
# Stable sorting by a key

`sortedBy key l` is `l` in ascending order of `key`, where rows with equal keys stay in the order
they came in: Python's `sorted(l, key=key)`.

## What is here

* `sortedBy` — merge sort from the library, with the comparison of keys.
* `sortedBy_perm`, `pairwise_sortedBy`, `sortedBy_of_pairwise` — it is a permutation, it is
  sorted, and sorting what is sorted changes nothing.
* `filter_key_sortedBy` — stability: the rows of one key are the same, in the same order.
* `eq_of_filter_key_eq`, `eq_sortedBy` — a sorted list is determined by its rows of each key, so
  that being sorted and having the same rows of each key characterises the result.
* `filter_sortedBy`, `sortedBy_filter_sortedBy` — sorting therefore commutes with filtering, and
  sorting what has been sorted and filtered is filtering once and sorting once.

A program that sorts by several criteria one after the other relies on all of this: what the last
pass leaves in place is the order of the pass before.  Keys are of any linearly ordered type.
-/

set_option autoImplicit false

variable {α κ : Type} [LinearOrder κ]

/-- `sorted(l, key=key)` -/
def sortedBy (key : α → κ) (l : List α) : List α := l.mergeSort fun a b ↦ decide (key a ≤ key b)

variable {key : α → κ} {l l₁ l₂ : List α}

theorem sortedBy_perm : (sortedBy key l).Perm l := List.mergeSort_perm l _

theorem le_trans_decide (a b c : α) (hab : decide (key a ≤ key b) = true)
    (hbc : decide (key b ≤ key c) = true) : decide (key a ≤ key c) = true := by
  rw [decide_eq_true_eq] at hab hbc ⊢
  exact le_trans hab hbc

theorem le_total_decide (a b : α) : (decide (key a ≤ key b) || decide (key b ≤ key a)) = true := by
  rw [Bool.or_eq_true, decide_eq_true_eq, decide_eq_true_eq]
  exact le_total (key a) (key b)

theorem pairwise_sortedBy : (sortedBy key l).Pairwise fun a b ↦ key a ≤ key b :=
  (List.pairwise_mergeSort le_trans_decide le_total_decide l).imp of_decide_eq_true

theorem sortedBy_of_pairwise (h : l.Pairwise fun a b ↦ key a ≤ key b) : sortedBy key l = l :=
  List.mergeSort_of_pairwise (h.imp fun hab ↦ decide_eq_true hab)

/-- **Stability.**  The rows of one key are the same, in the same order. -/
theorem filter_key_sortedBy (k : κ) :
    ((sortedBy key l).filter fun a ↦ decide (key a = k)) =
      l.filter fun a ↦ decide (key a = k) := by
  have hsame : (l.filter fun a ↦ decide (key a = k)).Pairwise
      fun a b ↦ decide (key a ≤ key b) = true := by
    refine List.pairwise_of_forall_mem_list fun a ha b hb ↦ ?_
    have hka := of_decide_eq_true (List.mem_filter.mp ha).2
    have hkb := of_decide_eq_true (List.mem_filter.mp hb).2
    exact decide_eq_true (le_of_eq (hka.trans hkb.symm))
  have hsub := (List.sublist_mergeSort le_trans_decide le_total_decide hsame
    List.filter_sublist).filter fun a ↦ decide (key a = k)
  rw [List.filter_filter] at hsub
  simp only [Bool.and_self] at hsub
  exact (hsub.eq_of_length (sortedBy_perm.filter _).length_eq.symm).symm

/-- A sorted list is determined by its rows of each key. -/
theorem eq_of_filter_key_eq (h₁ : l₁.Pairwise fun a b ↦ key a ≤ key b)
    (h₂ : l₂.Pairwise fun a b ↦ key a ≤ key b)
    (h : ∀ k, (l₁.filter fun a ↦ decide (key a = k)) = l₂.filter fun a ↦ decide (key a = k)) :
    l₁ = l₂ := by
  induction l₁ generalizing l₂ with
  | nil =>
    cases l₂ with
    | nil => rfl
    | cons b l₂ => simpa using h (key b)
  | cons a l₁ ih =>
    cases l₂ with
    | nil => simpa using h (key a)
    | cons b l₂ =>
      -- each head is a smallest row of its list, and each occurs in the other list
      have hab : key a ≤ key b := by
        have hb : b ∈ (a :: l₁).filter fun c ↦ decide (key c = key b) := by
          rw [h]; simp
        rcases List.mem_cons.mp (List.mem_filter.mp hb).1 with rfl | hb
        · exact le_refl _
        · exact List.rel_of_pairwise_cons h₁ hb
      have hba : key b ≤ key a := by
        have ha : a ∈ (b :: l₂).filter fun c ↦ decide (key c = key a) := by
          rw [← h]; simp
        rcases List.mem_cons.mp (List.mem_filter.mp ha).1 with rfl | ha
        · exact le_refl _
        · exact List.rel_of_pairwise_cons h₂ ha
      have hkey : key b = key a := le_antisymm hba hab
      have hhead := h (key a)
      rw [List.filter_cons_of_pos (by simp), List.filter_cons_of_pos (by simp [hkey])] at hhead
      obtain ⟨rfl, -⟩ := List.cons_eq_cons.mp hhead
      rw [ih h₁.of_cons h₂.of_cons fun k ↦ ?_]
      have hk := h k
      rw [List.filter_cons, List.filter_cons] at hk
      split at hk
      · exact (List.cons_eq_cons.mp hk).2
      · exact hk

/-- What is sorted and has the rows of `l` of each key, in the order of `l`, is `l` sorted. -/
theorem eq_sortedBy (h₁ : l₁.Pairwise fun a b ↦ key a ≤ key b)
    (h : ∀ k, (l₁.filter fun a ↦ decide (key a = k)) = l.filter fun a ↦ decide (key a = k)) :
    l₁ = sortedBy key l :=
  eq_of_filter_key_eq h₁ pairwise_sortedBy fun k ↦ (h k).trans (filter_key_sortedBy k).symm

/-- Whether one filters before or after sorting makes no difference. -/
theorem filter_sortedBy (p : α → Bool) : (sortedBy key l).filter p = sortedBy key (l.filter p) := by
  refine eq_sortedBy (pairwise_sortedBy.filter p) fun k ↦ ?_
  rw [List.filter_comm, filter_key_sortedBy, List.filter_comm]

/-- Filtering and sorting what has been sorted is filtering and sorting once. -/
theorem sortedBy_filter_sortedBy (p : α → Bool) :
    sortedBy key ((sortedBy key l).filter p) = sortedBy key (l.filter p) := by
  rw [filter_sortedBy]
  exact sortedBy_of_pairwise pairwise_sortedBy
