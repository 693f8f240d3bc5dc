import Mathlib.Data.List.Basic
import Mathlib.Data.List.Nodup
import Mathlib.Data.List.Infix

/-!
# Keyed tables

A `Table key` is a list of rows no two of which have the same `key`.  Three things programs keep
are tables:

* a table of a database, with its primary key;
* an insertion-ordered dictionary whose values know their own keys, such as
  `{row.id: row for row in rows}` (`Table.ofList`, where the last row of a key wins);
* a set, keyed by its elements (`FrozenSet`).

The order of the rows is kept, because programs iterate over dictionaries in that order, but
looking a row up (`Table.find?`) does not depend on it, and the lemmas about the operations are
all stated through `find?`.

## What is here

* `Table`, with the fact that no key occurs twice as a field, so that a table with a double key
  can not be built and no lemma has to assume that there is none.
* `Table.map`, `Table.filterMap`, `Table.filter`, `Table.update` — operations that keep the keys,
  or drop some; they take a proof of that, which is `fun _ ↦ rfl` where a field is changed that is
  not the key.
* `Table.append`, `Table.upsert` — one more row.  The first one needs to know that the key is new;
  the other one puts the row in the place of the one with its key.
* `Table.ofList` — the dictionary of some rows, and the order of its keys: that in which they came
  first.
* `Table.first`, `Table.fresh` — `ORDER BY key LIMIT 1`, and a number that is no key yet.  An
  automatic primary key is one more than the largest, but `find?_fresh` is all that is ever used
  of it.
* `FrozenSet`, `Table.keys` — sets, and the set of keys of a table.

Each operation has a lemma that says what `find?` finds afterwards, tagged for `simp` where its
right side is simpler than its left one.
-/

set_option autoImplicit false

variable {κ ρ ρ' : Type}

/-- A list of rows with pairwise different keys. -/
structure Table {κ ρ : Type} (key : ρ → κ) where
  /-- The rows, in the order in which they were inserted. -/
  rows : List ρ
  /-- No key occurs twice. -/
  nodup : (rows.map key).Nodup

namespace Table

variable {key : ρ → κ} {key' : ρ' → κ}

/-- The table without rows. -/
def empty : Table key := ⟨[], List.nodup_nil⟩

/-- Change every row without changing its key. -/
def map (t : Table key) (f : ρ → ρ) (hf : ∀ r, key (f r) = key r) : Table key where
  rows := t.rows.map f
  nodup := by
    rw [List.map_map, show key ∘ f = key from funext hf]
    exact t.nodup

/-- Keep some rows, possibly changed, under their old keys. -/
def filterMap (t : Table key) (f : ρ → Option ρ') (hf : ∀ r r', f r = some r' → key' r' = key r) :
    Table key' where
  rows := t.rows.filterMap f
  nodup := by
    obtain ⟨rows, hnd⟩ := t
    dsimp only
    induction rows with
    | nil => simp
    | cons r l ih =>
      rw [List.map_cons, List.nodup_cons] at hnd
      cases hr : f r with
      | none => rw [List.filterMap_cons_none hr]; exact ih hnd.2
      | some r' =>
        rw [List.filterMap_cons_some hr, List.map_cons, List.nodup_cons]
        refine ⟨fun hmem ↦ hnd.1 ?_, ih hnd.2⟩
        obtain ⟨s', hs', hkey⟩ := List.mem_map.mp hmem
        obtain ⟨s, hs, hfs⟩ := List.mem_filterMap.mp hs'
        exact List.mem_map.mpr ⟨s, hs, by rw [← hf s s' hfs, hkey, hf r r' hr]⟩

/-- The rows satisfying a test. -/
def filter (t : Table key) (p : ρ → Bool) : Table key where
  rows := t.rows.filter p
  nodup := t.nodup.sublist (List.filter_sublist.map key)

section Lookup

variable [DecidableEq κ]

/-- The row with the key `k`, if there is one. -/
def find? (t : Table key) (k : κ) : Option ρ := t.rows.find? fun r ↦ decide (key r = k)

theorem find?_eq_none {t : Table key} {k : κ} : t.find? k = none ↔ ∀ r ∈ t.rows, key r ≠ k := by
  simp [find?]

theorem find?_eq_some {t : Table key} {k : κ} {r : ρ} :
    t.find? k = some r ↔ r ∈ t.rows ∧ key r = k := by
  constructor
  · intro h
    exact ⟨List.mem_of_find?_eq_some h, by simpa using List.find?_some h⟩
  · rintro ⟨hmem, rfl⟩
    cases h : t.find? (key r) with
    | none => exact absurd rfl (find?_eq_none.mp h r hmem)
    | some r' =>
      have hkey : key r' = key r := by simpa using List.find?_some h
      rw [List.inj_on_of_nodup_map t.nodup (List.mem_of_find?_eq_some h) hmem hkey]

theorem key_of_find? {t : Table key} {k : κ} {r : ρ} (h : t.find? k = some r) : key r = k :=
  (find?_eq_some.mp h).2

theorem mem_of_find? {t : Table key} {k : κ} {r : ρ} (h : t.find? k = some r) : r ∈ t.rows :=
  (find?_eq_some.mp h).1

theorem find?_of_mem {t : Table key} {r : ρ} (h : r ∈ t.rows) : t.find? (key r) = some r :=
  find?_eq_some.mpr ⟨h, rfl⟩

theorem find?_isSome {t : Table key} {k : κ} : (t.find? k).isSome ↔ k ∈ t.rows.map key := by
  rw [Option.isSome_iff_exists, List.mem_map]
  exact exists_congr fun r ↦ find?_eq_some

/-- A key occurs once or not at all. -/
theorem countP_key (t : Table key) (k : κ) :
    t.rows.countP (fun r ↦ decide (key r = k)) = if (t.find? k).isSome then 1 else 0 := by
  have hcount : t.rows.countP (fun r ↦ decide (key r = k)) = (t.rows.map key).count k := by
    rw [List.count_eq_countP, List.countP_map]
    rfl
  rw [hcount, t.nodup.count]
  exact if_congr find?_isSome.symm rfl rfl

@[simp] theorem find?_empty (k : κ) : (empty : Table key).find? k = none := rfl

theorem find?_map (t : Table key) (f : ρ → ρ) (hf : ∀ r, key (f r) = key r) (k : κ) :
    (t.map f hf).find? k = (t.find? k).map f := by
  simp only [find?, map, List.find?_map]
  congr 2
  funext r
  simp [hf]

theorem find?_filterMap (t : Table key) (f : ρ → Option ρ')
    (hf : ∀ r r', f r = some r' → key' r' = key r) (k : κ) :
    (t.filterMap f hf).find? k = (t.find? k).bind f := by
  ext r'
  rw [find?_eq_some, Option.bind_eq_some_iff]
  simp only [filterMap, List.mem_filterMap]
  constructor
  · rintro ⟨⟨r, hr, hfr⟩, rfl⟩
    exact ⟨r, find?_eq_some.mpr ⟨hr, (hf r r' hfr).symm⟩, hfr⟩
  · rintro ⟨r, hr, hfr⟩
    obtain ⟨hmem, rfl⟩ := find?_eq_some.mp hr
    exact ⟨⟨r, hmem, hfr⟩, hf r r' hfr⟩

theorem find?_filter (t : Table key) (p : ρ → Bool) (k : κ) :
    (t.filter p).find? k = (t.find? k).filter p := by
  ext r
  simp only [find?_eq_some, Option.filter_eq_some_iff, filter, List.mem_filter]
  tauto

/-! ## Changing one row -/

/-- Change the row with the key `k`, if there is one. -/
def update (t : Table key) (k : κ) (f : ρ → ρ) (hf : ∀ r, key (f r) = key r) : Table key :=
  t.map (fun r ↦ if key r = k then f r else r) fun r ↦ by split <;> simp [hf]

theorem find?_update (t : Table key) (k : κ) (f : ρ → ρ) (hf : ∀ r, key (f r) = key r) (k' : κ) :
    (t.update k f hf).find? k' = if k' = k then (t.find? k').map f else t.find? k' := by
  rw [update, find?_map]
  cases h : t.find? k' with
  | none => simp
  | some r => simp [key_of_find? h]; split <;> rfl

/-- Put a row at the end.  There must not be one with its key. -/
def append (t : Table key) (r : ρ) (h : t.find? (key r) = none) : Table key where
  rows := t.rows ++ [r]
  nodup := by
    have hnew := find?_eq_none.mp h
    rw [List.map_append, List.map_singleton, List.nodup_append]
    refine ⟨t.nodup, by simp, fun k hk k' hk' ↦ ?_⟩
    obtain ⟨s, hs, rfl⟩ := List.mem_map.mp hk
    rw [List.mem_singleton.mp hk']
    exact hnew s hs

theorem find?_append (t : Table key) (r : ρ) (h : t.find? (key r) = none) (k : κ) :
    (t.append r h).find? k = if k = key r then some r else t.find? k := by
  ext s
  rw [find?_eq_some]
  simp only [append, List.mem_append, List.mem_singleton]
  split
  · rename_i hk
    subst hk
    constructor
    · rintro ⟨hs | rfl, hkey⟩
      · exact absurd hkey (find?_eq_none.mp h s hs)
      · rfl
    · intro hs
      cases hs
      exact ⟨Or.inr rfl, rfl⟩
  · rename_i hk
    rw [find?_eq_some]
    constructor
    · rintro ⟨hs | rfl, hkey⟩
      · exact ⟨hs, hkey⟩
      · exact absurd hkey.symm hk
    · exact fun ⟨hs, hkey⟩ ↦ ⟨Or.inl hs, hkey⟩

/-- A row with a new key goes to the end; otherwise it takes the place of the row with its key. -/
def upsert (t : Table key) (r : ρ) : Table key :=
  if h : t.find? (key r) = none then t.append r h
  else t.map (fun s ↦ if key s = key r then r else s) fun s ↦ by
    split
    · rename_i hs; exact hs.symm
    · rfl

theorem find?_upsert (t : Table key) (r : ρ) (k : κ) :
    (t.upsert r).find? k = if k = key r then some r else t.find? k := by
  rw [upsert]
  split
  · exact find?_append t r _ k
  · rename_i h
    rw [find?_map]
    by_cases hk : k = key r
    · subst hk
      obtain ⟨s, hs⟩ := Option.ne_none_iff_exists'.mp h
      simp [hs, key_of_find? hs]
    · rw [if_neg hk]
      cases hs : t.find? k with
      | none => rfl
      | some s => simp [key_of_find? hs, hk]

theorem mem_upsert {t : Table key} {r s : ρ} (h : s ∈ (t.upsert r).rows) : s = r ∨ s ∈ t.rows := by
  have hs := find?_of_mem h
  rw [find?_upsert] at hs
  split at hs
  · exact Or.inl (Option.some.inj hs).symm
  · exact Or.inr (mem_of_find? hs)

/-- The dictionary of some rows: of several with one key, the last one counts. -/
def ofList (l : List ρ) : Table key := l.foldl upsert empty

theorem find?_foldl_upsert (l : List ρ) (t : Table key) (k : κ) :
    (l.foldl upsert t).find? k = (l.reverse.find? fun r ↦ decide (key r = k)).or (t.find? k) := by
  induction l generalizing t with
  | nil => rfl
  | cons r l ih =>
    rw [List.foldl_cons, ih, find?_upsert, List.reverse_cons, List.find?_append, Option.or_assoc]
    congr 1
    by_cases hk : k = key r
    · simp [hk]
    · simp [hk, Ne.symm hk]

theorem find?_ofList (l : List ρ) (k : κ) :
    (ofList l : Table key).find? k = l.reverse.find? fun r ↦ decide (key r = k) := by
  rw [ofList, find?_foldl_upsert, find?_empty, Option.or_none]

theorem find?_ofList_isSome {l : List ρ} {k : κ} :
    ((ofList l : Table key).find? k).isSome ↔ k ∈ l.map key := by
  rw [find?_ofList, List.find?_isSome]
  simp

theorem mem_of_find?_ofList {l : List ρ} {k : κ} {r : ρ}
    (h : (ofList l : Table key).find? k = some r) : r ∈ l := by
  rw [find?_ofList] at h
  simpa using List.mem_of_find?_eq_some h

/-- The keys of a dictionary: a new one comes last. -/
theorem map_key_upsert (t : Table key) (r : ρ) : (t.upsert r).rows.map key =
    if key r ∈ t.rows.map key then t.rows.map key else t.rows.map key ++ [key r] := by
  rw [upsert]
  split
  · rename_i h
    have hnew : key r ∉ t.rows.map key := by
      rw [← find?_isSome, h]
      exact Bool.false_ne_true
    rw [if_neg hnew, append, List.map_append, List.map_singleton]
  · rename_i h
    rw [if_pos (find?_isSome.mp (Option.isSome_iff_ne_none.mpr h)), map, List.map_map]
    refine List.map_congr_left fun s _ ↦ ?_
    rw [Function.comp_apply]
    split
    · rename_i hs; exact hs.symm
    · rfl

theorem mem_map_key_ofList {l : List ρ} {k : κ} :
    k ∈ (ofList l : Table key).rows.map key ↔ k ∈ l.map key := by
  rw [← find?_isSome, find?_ofList_isSome]

/-- A dictionary keeps its keys in the order in which they came first. -/
theorem pairwise_idxOf_ofList (l : List ρ) : ((ofList l : Table key).rows.map key).Pairwise
    fun k k' ↦ (l.map key).idxOf k < (l.map key).idxOf k' := by
  induction l using List.reverseRecOn with
  | nil => exact List.Pairwise.nil
  | append_singleton l r ih =>
    have hkeep : ∀ k ∈ (ofList l : Table key).rows.map key,
        ((l ++ [r]).map key).idxOf k = (l.map key).idxOf k ∧ (l.map key).idxOf k < l.length := by
      intro k hk
      have hmem := mem_map_key_ofList.mp hk
      rw [List.map_append, List.idxOf_append_of_mem hmem]
      exact ⟨rfl, by simpa using List.idxOf_lt_length_of_mem hmem⟩
    have hold : ((ofList l : Table key).rows.map key).Pairwise
        fun k k' ↦ ((l ++ [r]).map key).idxOf k < ((l ++ [r]).map key).idxOf k' := by
      refine ih.imp_of_mem fun {k k'} hk hk' hlt ↦ ?_
      rw [(hkeep k hk).1, (hkeep k' hk').1]
      exact hlt
    rw [show (ofList (l ++ [r]) : Table key) = (ofList l).upsert r by
      rw [ofList, List.foldl_append]; rfl, map_key_upsert]
    split
    · exact hold
    · rename_i hr
      refine List.pairwise_append.mpr ⟨hold, List.pairwise_singleton _ _, fun k hk k' hk' ↦ ?_⟩
      rw [List.mem_singleton.mp hk', (hkeep k hk).1, List.map_append,
        List.idxOf_append_of_notMem (mem_map_key_ofList.not.mp hr), List.map_singleton,
        List.idxOf_cons_self, List.length_map]
      exact Nat.lt_add_right 0 (hkeep k hk).2

/-- With no repeated key, the dictionary finds every row. -/
theorem find?_ofList_of_mem {l : List ρ} (hl : (l.map key).Nodup) {r : ρ} (h : r ∈ l) :
    (ofList l : Table key).find? (key r) = some r := by
  obtain ⟨s, hs⟩ := Option.isSome_iff_exists.mp
    (find?_ofList_isSome.mpr (List.mem_map_of_mem (f := key) h))
  rw [hs, List.inj_on_of_nodup_map hl (mem_of_find?_ofList hs) h (key_of_find? hs)]

theorem find?_ofList_eq_some {l : List ρ} (hl : (l.map key).Nodup) {k : κ} {r : ρ} :
    (ofList l : Table key).find? k = some r ↔ r ∈ l ∧ key r = k := by
  constructor
  · exact fun h ↦ ⟨mem_of_find?_ofList h, key_of_find? h⟩
  · rintro ⟨h, rfl⟩
    exact find?_ofList_of_mem hl h

end Lookup

/-! ## The first row and fresh keys -/

/-- The row with the smallest key of a list: `ORDER BY key LIMIT 1`. -/
def firstBy (key : ρ → ℕ) : List ρ → Option ρ
  | [] => none
  | r :: l =>
    match firstBy key l with
    | none => some r
    | some s => if key r ≤ key s then some r else some s

/-- The row with the smallest key. -/
def first {key : ρ → ℕ} (t : Table key) : Option ρ := firstBy key t.rows

theorem mem_of_firstBy {key : ρ → ℕ} {l : List ρ} {r : ρ} (h : firstBy key l = some r) :
    r ∈ l := by
  induction l generalizing r with
  | nil => simp [firstBy] at h
  | cons s l ih =>
    rw [firstBy] at h
    split at h
    · cases h; exact List.mem_cons_self
    · rename_i s' hs'
      split at h
      · cases h; exact List.mem_cons_self
      · cases h; exact List.mem_cons_of_mem _ (ih hs')

theorem find?_first {key : ρ → ℕ} {t : Table key} {r : ρ} (h : t.first = some r) :
    t.find? (key r) = some r := find?_of_mem (mem_of_firstBy h)

theorem firstBy_map {key' : ρ' → ℕ} {key : ρ → ℕ} (f : ρ → ρ') (hf : ∀ r, key' (f r) = key r)
    (l : List ρ) : firstBy key' (l.map f) = (firstBy key l).map f := by
  induction l with
  | nil => rfl
  | cons r l ih =>
    rw [List.map_cons, firstBy, ih, firstBy]
    cases firstBy key l with
    | none => rfl
    | some s =>
      simp only [Option.map_some, hf]
      split <;> rfl

/-- A number above all keys, as an automatic primary key takes it: one more than the largest. -/
def fresh {key : ρ → ℕ} (t : Table key) : ℕ := (t.rows.map key).foldr max 0 + 1

theorem le_foldr_max {l : List ℕ} {n : ℕ} (h : n ∈ l) : n ≤ l.foldr max 0 := by
  induction l with
  | nil => simp at h
  | cons m l ih =>
    rw [List.foldr_cons]
    rcases List.mem_cons.mp h with rfl | h
    · exact le_max_left _ _
    · exact le_trans (ih h) (le_max_right _ _)

theorem find?_fresh {key : ρ → ℕ} (t : Table key) : t.find? t.fresh = none := by
  rw [find?_eq_none]
  intro r hr h
  have := le_foldr_max (List.mem_map_of_mem (f := key) hr)
  rw [fresh] at h
  omega

end Table

/-! ## Sets -/

/-- A set that programs iterate over: a table of its elements. -/
abbrev FrozenSet (α : Type) : Type := Table (id : α → α)

namespace FrozenSet

variable {α : Type}

instance : Membership α (FrozenSet α) := ⟨fun s a ↦ a ∈ s.rows⟩

instance [DecidableEq α] (s : FrozenSet α) (a : α) : Decidable (a ∈ s) :=
  inferInstanceAs (Decidable (a ∈ s.rows))

theorem mem_iff {s : FrozenSet α} {a : α} : a ∈ s ↔ a ∈ s.rows := Iff.rfl

@[simp] theorem mem_filter {s : FrozenSet α} {p : α → Bool} {a : α} :
    a ∈ s.filter p ↔ a ∈ s ∧ p a = true := List.mem_filter

end FrozenSet

/-- The set of keys of a table. -/
def Table.keys {key : ρ → κ} (t : Table key) : FrozenSet κ :=
  ⟨t.rows.map key, by rw [List.map_id]; exact t.nodup⟩

theorem Table.mem_keys [DecidableEq κ] {key : ρ → κ} {t : Table key} {k : κ} :
    k ∈ t.keys ↔ (t.find? k).isSome := Table.find?_isSome.symm
