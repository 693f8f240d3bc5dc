import Mathlib.Data.List.Perm.Basic
import RmaPortal.Data.Table

/-!
# Queries and inserts

What a relational database does with tables beyond looking rows up: joins, the order of a result,
an `INSERT … SELECT`, and unique constraints.

## What is here

* `RowOrder` — the order in which a query without `ORDER BY` returns its rows, which is for the
  engine to choose.  All there is to it is that no row is lost and none is added.
* `innerJoin` — an inner join.  A join along a foreign key neither loses nor doubles a row of the
  table that has the key (`map_fst_innerJoin`), because along a key there is at most one partner
  (`filter_key_eq_singleton`).
* `leftJoin` — a left outer join, with `none` for the columns of a partner there is not.  With at
  most one partner for every row it is a lookup (`leftJoin_eq_map`), and its rows without a
  partner are those that have none (`filter_isNone_leftJoin`).
* `Table.insertSelect` — an `INSERT … SELECT` into a table with an automatic primary key.  It
  stores one row for each row of the query (`Table.map_insertSelect`,
  `Table.exists_mem_insertSelect`), and what was there stays.
* `UniqueTable` — a table with a unique constraint next to its primary key.

Rows are of any type, and so are keys; a condition of a join is any decidable relation.
-/

set_option autoImplicit false

variable {ρ σ κ κ' : Type}

/-! ## Row orders -/

/-- In which order the rows of a query come. -/
structure RowOrder (ρ : Type) where
  /-- The rows in this order. -/
  sort : List ρ → List ρ
  /-- No row is lost, and none is added. -/
  perm : ∀ l, (sort l).Perm l

/-- The order of the tables themselves. -/
def RowOrder.stored : RowOrder ρ := ⟨fun l ↦ l, List.Perm.refl⟩

theorem RowOrder.mem_sort {o : RowOrder ρ} {l : List ρ} {r : ρ} : r ∈ o.sort l ↔ r ∈ l :=
  (o.perm l).mem_iff

/-! ## Joins -/

/-- `l JOIN m ON on`: the pairs of rows that belong together. -/
def innerJoin (on : ρ → σ → Bool) (l : List ρ) (m : List σ) : List (ρ × σ) :=
  l.flatMap fun r ↦ (m.filter (on r)).map fun s ↦ (r, s)

theorem mem_innerJoin {on : ρ → σ → Bool} {l : List ρ} {m : List σ} {p : ρ × σ} :
    p ∈ innerJoin on l m ↔ p.1 ∈ l ∧ p.2 ∈ m ∧ on p.1 p.2 = true := by
  obtain ⟨r, s⟩ := p
  simp only [innerJoin, List.mem_flatMap, List.mem_map, List.mem_filter, Prod.mk.injEq]
  constructor
  · rintro ⟨r', hr, s', ⟨hs, hon⟩, rfl, rfl⟩
    exact ⟨hr, hs, hon⟩
  · rintro ⟨hr, hs, hon⟩
    exact ⟨r, hr, s, ⟨hs, hon⟩, rfl, rfl⟩

/-- With one partner for every row, a join has one pair for every row. -/
theorem map_fst_innerJoin {on : ρ → σ → Bool} {l : List ρ} {m : List σ}
    (h : ∀ r ∈ l, ∃ s, m.filter (on r) = [s]) : (innerJoin on l m).map Prod.fst = l := by
  induction l with
  | nil => rfl
  | cons r l ih =>
    obtain ⟨s, hs⟩ := h r List.mem_cons_self
    rw [innerJoin, List.flatMap_cons, hs, List.map_append, List.map_singleton, List.map_singleton]
    show r :: (innerJoin on l m).map Prod.fst = r :: l
    rw [ih fun r hr ↦ h r (List.mem_cons_of_mem _ hr)]

/-- Along a key, there is at most one partner. -/
theorem filter_key_eq_singleton {f : ρ → κ} [DecidableEq κ] {l : List ρ} (hl : (l.map f).Nodup)
    {r : ρ} (hr : r ∈ l) : (l.filter fun s ↦ decide (f s = f r)) = [r] := by
  induction l with
  | nil => cases hr
  | cons s l ih =>
    rw [List.map_cons, List.nodup_cons] at hl
    rcases List.mem_cons.mp hr with rfl | hr
    · rw [List.filter_cons_of_pos (by simp), List.filter_eq_nil_iff.mpr fun s hs ↦ ?_]
      simp only [decide_eq_true_eq]
      exact fun hkey ↦ hl.1 (hkey ▸ List.mem_map_of_mem hs)
    · rw [List.filter_cons_of_neg, ih hl.2 hr]
      simp only [decide_eq_true_eq]
      exact fun hkey ↦ hl.1 (hkey ▸ List.mem_map_of_mem hr)

/-- `l LEFT JOIN m ON on`: the same, where a row without a partner is kept with `NULL`s. -/
def leftJoin (on : ρ → σ → Bool) (l : List ρ) (m : List σ) : List (ρ × Option σ) :=
  l.flatMap fun r ↦
    match m.filter (on r) with
    | [] => [(r, none)]
    | partners => partners.map fun s ↦ (r, some s)

theorem leftJoin_cons (on : ρ → σ → Bool) (r : ρ) (l : List ρ) (m : List σ) :
    leftJoin on (r :: l) m = leftJoin on [r] m ++ leftJoin on l m := by
  rw [leftJoin, leftJoin, leftJoin, List.flatMap_cons, List.flatMap_singleton]

theorem leftJoin_singleton_of_eq_nil {on : ρ → σ → Bool} {r : ρ} {m : List σ}
    (h : m.filter (on r) = []) : leftJoin on [r] m = [(r, none)] := by
  rw [leftJoin, List.flatMap_singleton, h]

theorem leftJoin_singleton_of_ne_nil {on : ρ → σ → Bool} {r : ρ} {m : List σ}
    (h : m.filter (on r) ≠ []) :
    leftJoin on [r] m = (m.filter (on r)).map fun s ↦ (r, some s) := by
  rw [leftJoin, List.flatMap_singleton]
  cases hpartners : m.filter (on r) with
  | nil => exact absurd hpartners h
  | cons s partners => rfl

/-- With at most one partner for every row, a left join looks the partners up. -/
theorem leftJoin_eq_map {on : ρ → σ → Bool} {l : List ρ} {m : List σ}
    (h : ∀ r ∈ l, (m.filter (on r)).length ≤ 1) :
    leftJoin on l m = l.map fun r ↦ (r, m.find? (on r)) := by
  induction l with
  | nil => rfl
  | cons r l ih =>
    rw [leftJoin_cons, ih fun r hr ↦ h r (List.mem_cons_of_mem _ hr), List.map_cons]
    have hone := h r List.mem_cons_self
    rw [← List.head?_filter]
    cases hpartners : m.filter (on r) with
    | nil => rw [leftJoin_singleton_of_eq_nil hpartners]; rfl
    | cons s partners =>
      rw [hpartners, List.length_cons] at hone
      have hnil : partners = [] := List.length_eq_zero_iff.mp (by omega)
      rw [leftJoin_singleton_of_ne_nil (by simp [hpartners]), hpartners, hnil]
      rfl

/-- **An anti-join.**  The rows of a left join without a partner are those that have none, each
once. -/
theorem filter_isNone_leftJoin (on : ρ → σ → Bool) (l : List ρ) (m : List σ) :
    ((leftJoin on l m).filter fun p ↦ p.2.isNone) =
      (l.filter fun r ↦ !m.any (on r)).map fun r ↦ (r, none) := by
  induction l with
  | nil => rfl
  | cons r l ih =>
    rw [leftJoin_cons, List.filter_append, ih]
    by_cases hpartners : m.filter (on r) = []
    · have hany : (!m.any (on r)) = true := by
        rw [Bool.not_eq_true', List.any_eq_false]
        exact List.filter_eq_nil_iff.mp hpartners
      rw [leftJoin_singleton_of_eq_nil hpartners]
      simp only [List.filter_cons, hany, if_true, Option.isNone_none]
      rfl
    · have hany : ¬ (!m.any (on r)) = true := by
        rw [Bool.not_eq_true', List.any_eq_false]
        exact fun h ↦ hpartners (List.filter_eq_nil_iff.mpr h)
      rw [leftJoin_singleton_of_ne_nil hpartners, List.filter_cons, if_neg hany, List.filter_map]
      simp

/-! ## Inserting the rows of a query -/

namespace Table

variable {key : ρ → ℕ}

/-- `INSERT … SELECT`: one row after the other, each under the next identifier. -/
def insertSelect (make : ℕ → σ → ρ) (hmake : ∀ n s, key (make n s) = n) :
    List σ → Table key → Table key
  | [], t => t
  | s :: l, t =>
    insertSelect make hmake l
      (t.append (make t.fresh s) ((congrArg t.find? (hmake _ s)).trans t.find?_fresh))

variable (make : ℕ → σ → ρ) (hmake : ∀ n s, key (make n s) = n)

/-- What does not depend on the identifiers is what the query says. -/
theorem map_insertSelect (f : ρ → κ) (g : σ → κ) (hfg : ∀ n s, f (make n s) = g s) (l : List σ)
    (t : Table key) :
    (insertSelect make hmake l t).rows.map f = t.rows.map f ++ l.map g := by
  induction l generalizing t with
  | nil => rw [insertSelect, List.map_nil, List.append_nil]
  | cons s l ih =>
    rw [insertSelect, ih, append, List.map_append, List.map_singleton, hfg, List.append_assoc,
      List.singleton_append, List.map_cons]

/-- A row that is there afterwards was there before, or is that of a row of the query. -/
theorem of_mem_insertSelect {l : List σ} {t : Table key} {r : ρ}
    (h : r ∈ (insertSelect make hmake l t).rows) : r ∈ t.rows ∨ ∃ s ∈ l, r = make (key r) s := by
  induction l generalizing t with
  | nil => exact Or.inl h
  | cons s l ih =>
    rw [insertSelect] at h
    rcases ih h with h | ⟨s', hs', hr⟩
    · rw [append, List.mem_append, List.mem_singleton] at h
      rcases h with h | rfl
      · exact Or.inl h
      · exact Or.inr ⟨s, List.mem_cons_self, by rw [hmake]⟩
    · exact Or.inr ⟨s', List.mem_cons_of_mem _ hs', hr⟩

/-- The rows that were there stay. -/
theorem mem_insertSelect_of_mem {l : List σ} {t : Table key} {r : ρ} (h : r ∈ t.rows) :
    r ∈ (insertSelect make hmake l t).rows := by
  induction l generalizing t with
  | nil => exact h
  | cons s l ih =>
    rw [insertSelect]
    exact ih (List.mem_append_left _ h)

/-- Every row of the query has been inserted. -/
theorem exists_mem_insertSelect {l : List σ} {t : Table key} {s : σ} (h : s ∈ l) :
    ∃ n, make n s ∈ (insertSelect make hmake l t).rows := by
  induction l generalizing t with
  | nil => cases h
  | cons s' l ih =>
    rw [insertSelect]
    rcases List.mem_cons.mp h with rfl | h
    · exact ⟨t.fresh, mem_insertSelect_of_mem make hmake
        (List.mem_append_right _ (List.mem_singleton_self _))⟩
    · exact ih h

end Table

/-! ## Tables with a unique constraint -/

/-- A table with a unique constraint. -/
structure UniqueTable (key : ρ → κ) (uniqueKey : ρ → κ') extends Table key where
  /-- The constraint holds. -/
  unique : (rows.map uniqueKey).Nodup

namespace UniqueTable

variable {key : ρ → κ} {uniqueKey : ρ → κ'}

/-- The table without rows. -/
def empty : UniqueTable key uniqueKey := ⟨.empty, List.nodup_nil⟩

end UniqueTable
