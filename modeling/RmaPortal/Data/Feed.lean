import Mathlib.Data.List.Basic

/-!
# A feed and its readers

Items are posted to a feed, each under a topic.  A reader who joins has nothing to read yet; one
who acknowledges a topic has read what has been posted under it so far.

## What is here

* `Feed.Event` — what happens to a feed: an item is posted, a reader joins, a reader acknowledges
  a topic.
* `Event.after`, `Feed.unread` — what a reader has not read, kept up to date event by event, the
  way a table of read marks does it.
* `Feed.missedAt`, `Feed.missed` — the same question asked of the history: was the item that event
  `i` has posted posted after the reader has joined, and has the reader not acknowledged its topic
  since?
* `Event.dismisses`, `survivors`, `unread_eq_survivors`, `survivors_eq` — the way from one to the
  other.  What is read event by event is what has survived all later events, and this can be said
  position by position.
* `unread_eq_missed` — the marks say what the history says, for a reader who has joined once.

A reader who joined twice would have an empty list again after the second time, while the history
of the first time goes on; this is why the last result asks for one.  Items, topics and readers
are of any type.
-/

set_option autoImplicit false

namespace Feed

variable {ν τ υ : Type}

/-- What happens to a feed. -/
inductive Event (ν τ υ : Type)
  /-- An item is posted. -/
  | post (n : ν)
  /-- A reader joins. -/
  | join (u : υ)
  /-- A reader acknowledges a topic. -/
  | ack (t : τ) (u : υ)

open Event

variable [DecidableEq τ] [DecidableEq υ] (topic : ν → τ) (u : υ)

/-- Whether the reader joins. -/
def Event.joins : Event ν τ υ → Bool
  | join v => v = u
  | _ => false

/-- Whether the reader acknowledges a topic. -/
def Event.acks (t : τ) : Event ν τ υ → Bool
  | ack t' v => v = u && t' = t
  | _ => false

/-- What the reader has not read after an event. -/
def Event.after (xs : List ν) : Event ν τ υ → List ν
  | post n => xs ++ [n]
  | join v => if v = u then [] else xs
  | ack t v => if v = u then xs.filter fun n ↦ topic n ≠ t else xs

/-- What the reader has not read after some events, if it was `xs` before. -/
def unread (xs : List ν) (l : List (Event ν τ υ)) : List ν := l.foldl (Event.after topic u) xs

/-- The item that event `i` of the history has posted, if the reader had joined before and has not
acknowledged its topic since. -/
def missedAt (l : List (Event ν τ υ)) (i : ℕ) : Option ν :=
  match l[i]? with
  | some (post n) =>
    if (l.take i).any (joins u) && !(l.drop (i + 1)).any (acks u (topic n)) then some n else none
  | _ => none

/-- What the reader has missed, in the order in which it was posted. -/
def missed (l : List (Event ν τ υ)) : List ν := (List.range l.length).filterMap (missedAt topic u l)

variable {topic u} {l : List (Event ν τ υ)}

theorem mem_missed {n : ν} :
    n ∈ missed topic u l ↔ ∃ i, l[i]? = some (post n) ∧ (l.take i).any (joins u) = true ∧
      (l.drop (i + 1)).any (acks u (topic n)) = false := by
  simp only [missed, List.mem_filterMap, List.mem_range, missedAt]
  constructor
  · rintro ⟨i, -, hi⟩
    split at hi
    · rename_i m hm
      split at hi <;> cases hi
      rename_i h
      rw [Bool.and_eq_true, Bool.not_eq_true'] at h
      exact ⟨i, hm, h⟩
    · cases hi
  · rintro ⟨i, hi, hjoin, hack⟩
    exact ⟨i, (List.getElem?_eq_some_iff.mp hi).1, by simp [hi, hjoin, hack]⟩

/-! ## What survives -/

variable (topic u) in
/-- Whether an event makes the reader have read an item that was posted before. -/
def Event.dismisses (n : ν) (e : Event ν τ υ) : Bool := e.joins u || e.acks u (topic n)

theorem any_dismisses (n : ν) (l : List (Event ν τ υ)) :
    l.any (dismisses topic u n) = (l.any (joins u) || l.any (acks u (topic n))) := by
  induction l with
  | nil => rfl
  | cons e l ih =>
    simp only [List.any_cons, ih, dismisses]
    cases e.joins u <;> cases e.acks u (topic n) <;> simp

variable (topic u) in
/-- The items that are posted in a history and not dismissed afterwards. -/
def survivors : List (Event ν τ υ) → List ν
  | [] => []
  | post n :: l => if l.any (dismisses topic u n) then survivors l else n :: survivors l
  | _ :: l => survivors l

/-- The reader has not read what has survived. -/
theorem unread_eq_survivors (xs : List ν) :
    unread topic u xs l =
      xs.filter (fun n ↦ !l.any (dismisses topic u n)) ++ survivors topic u l := by
  induction l generalizing xs with
  | nil => simp [unread, survivors]
  | cons e l ih =>
    rw [unread, List.foldl_cons, ← unread, ih]
    cases e with
    | post n =>
      by_cases h : l.any (dismisses topic u n) = true <;>
        simp [Event.after, survivors, dismisses, joins, acks, h]
    | join v => by_cases h : v = u <;> simp [Event.after, survivors, dismisses, joins, acks, h]
    | ack t v =>
      by_cases h : v = u
      · simp only [Event.after, h, if_true, survivors, List.filter_filter, List.any_cons]
        congr 1
        refine List.filter_congr fun n _ ↦ ?_
        by_cases ht : t = topic n <;> simp [dismisses, joins, acks, ht, eq_comm]
      · simp [Event.after, survivors, dismisses, joins, acks, h]

/-- What survives, position by position. -/
theorem survivors_eq (l : List (Event ν τ υ)) :
    survivors topic u l = (List.range l.length).filterMap fun i ↦
      match l[i]? with
      | some (post n) => if (l.drop (i + 1)).any (dismisses topic u n) then none else some n
      | _ => none := by
  induction l with
  | nil => rfl
  | cons e l ih =>
    rw [List.length_cons, List.range_succ_eq_map, List.filterMap_cons, List.filterMap_map]
    cases e with
    | post n =>
      by_cases h : l.any (dismisses topic u n) = true
      · simp [survivors, h, ih]
      · simp [survivors, h, ih]
    | join v => simp [survivors, ih]
    | ack t v => simp [survivors, ih]

/-- **The marks say what the history says**, for a reader who has joined once. -/
theorem unread_eq_missed (hjoin : l.any (joins u) = true) (honce : l.countP (joins u) ≤ 1)
    (xs : List ν) : unread topic u xs l = missed topic u l := by
  have hnone : xs.filter (fun n ↦ !l.any (dismisses topic u n)) = [] := by
    rw [List.filter_eq_nil_iff]
    intro n _
    obtain ⟨e, he, hjoins⟩ := List.any_eq_true.mp hjoin
    have : l.any (dismisses topic u n) = true :=
      List.any_eq_true.mpr ⟨e, he, by simp [dismisses, hjoins]⟩
    simp [this]
  rw [unread_eq_survivors, hnone, List.nil_append, survivors_eq, missed]
  refine List.filterMap_congr fun i hi ↦ ?_
  have hi : i < l.length := List.mem_range.mp hi
  rw [missedAt]
  cases hl : l[i]? with
  | none => rfl
  | some e =>
    cases e with
    | join v => rfl
    | ack t v => rfl
    | post n =>
      -- the reader has joined either before or after the item was posted
      obtain ⟨hi, hget⟩ := List.getElem?_eq_some_iff.mp hl
      have hsplit : l = l.take i ++ post n :: l.drop (i + 1) := by
        rw [← hget, ← List.drop_eq_getElem_cons, List.take_append_drop]
      have hboth : (l.take i).any (joins u) = true ∨ (l.drop (i + 1)).any (joins u) = true := by
        rw [hsplit, List.any_append, List.any_cons] at hjoin
        simpa [joins] using hjoin
      have hone : (l.take i).countP (joins u) + (l.drop (i + 1)).countP (joins u) ≤ 1 := by
        rw [hsplit, List.countP_append, List.countP_cons] at honce
        simpa [joins] using honce
      have hexcl : (l.take i).any (joins u) = !(l.drop (i + 1)).any (joins u) := by
        cases hbefore : (l.take i).any (joins u) <;> cases hafter : (l.drop (i + 1)).any (joins u)
        · simp [hbefore, hafter] at hboth
        · rfl
        · rfl
        · rw [List.any_eq_true, ← List.countP_pos_iff] at hbefore hafter
          omega
      dsimp only
      rw [any_dismisses, hexcl]
      cases (l.drop (i + 1)).any (joins u) <;>
        cases (l.drop (i + 1)).any (acks u (topic n)) <;> rfl

end Feed
