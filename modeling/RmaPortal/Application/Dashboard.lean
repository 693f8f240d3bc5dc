import Mathlib.Data.Rat.Defs
import Mathlib.Algebra.Order.Ring.Rat
import Mathlib.Order.WithBot
import Mathlib.Data.Prod.Lex
import RmaPortal.Data.StableSort
import RmaPortal.Data.Text
import RmaPortal.Domain.Models

/-!
# Searching, filtering and sorting the dashboard

`application/dashboard.py`: which rows of the dashboard are shown, and in which order.  The rules
work on rows that have been read already; nothing here touches the database.

Two things the program takes from its environment are parameters: `casefold`, which is
`str.casefold`, and `timestamp`, which is `datetime.timestamp` as an exact rational number and
depends on the local time zone.  The floating-point numbers `-inf` and `inf` are the least element
of `WithBot ℚ` and the greatest of `WithTop ℚ`.

## What is here

* `Filters`, `matchesSearch`, `epoch`, `negate`, `sortKey`, `filterAndSort` — the functions of the
  source, in the four passes in which it makes them.  An empty text to search for or an empty
  portal status is no filter.
* `Filters.Accepts` — the row satisfies every filter that is active; `Filters.test` is the same,
  evaluated, and `Filters.singly` are the four filters each alone.
* `filterAndSort_eq` — the four passes are one filter, followed by one stable sort.
* `DateBefore`, `ShownBefore`, `SameKeys` — the order, without keys: unread first, then by the
  date on which the garage sent its estimate, latest first and rows without a date last, and then
  by the other dates.  `sortKey_le` and `sortKey_eq` connect it to the tuple that the program
  sorts by.
* `filterAndSort_perm`, `pairwise_filterAndSort`, `filter_sameKeys_filterAndSort` — the result is
  a permutation of the accepted rows, in this order, and rows that agree on everything the order
  looks at stay in the order in which they came.
* `filterAndSort_filterAndSort`, `foldl_filterAndSort`, `accepts_iff_singly` — filtering again
  keeps the rows that both ask for, whichever was first; one filter after the other is all
  together.
* `filterAndSort_spec` — all of this, and that a sorted list is not changed by sorting it again.

That sorting is stable, and what follows from it in general, is in `Data.StableSort`.
-/

set_option autoImplicit false

namespace RmaPortal
namespace Dashboard

/-! ## The functions -/

/-- The keyword arguments of `filter_and_sort`. -/
structure Filters where
  search : Option String := none
  unreadOnly : Bool := false
  workStatus : Option WorkStatus := none
  portalStatus : Option String := none

variable (casefold : String → String) (timestamp : Datetime → ℚ)

/-- `_matches_search` -/
def matchesSearch (row : DashboardRow) (needle : String) : Bool :=
  let haystack := casefold (" ".intercalate
    [row.dossierNumber, row.insuredName, row.registration, row.garage])
  Text.contains haystack.toList (casefold needle).toList

/-- `_epoch` -/
def epoch : Option Datetime → WithBot ℚ
  | none => ⊥
  | some value => (timestamp value : ℚ)

/-- `-x`, where `x` may be `-inf`. -/
def negate : WithBot ℚ → WithTop ℚ
  | none => ⊤
  | some x => (-x : ℚ)

/-- `sort_key` -/
def sortKey (row : DashboardRow) : ℕ ×ₗ WithTop ℚ ×ₗ WithTop ℚ :=
  toLex (if row.unread then 0 else 1,
    toLex (negate (epoch timestamp row.dateEnvoiDevisGarage),
      negate (epoch timestamp (some row.detectionTime))))

/-- `filter_and_sort`.  An empty text to search for or an empty portal status is no filter. -/
def filterAndSort (rows : List DashboardRow) (f : Filters) : List DashboardRow :=
  let result := rows
  let result := match f.search with
    | some search =>
      if search = "" then result else result.filter fun row ↦ matchesSearch casefold row search
    | none => result
  let result := if f.unreadOnly then result.filter fun row ↦ row.unread else result
  let result := match f.workStatus with
    | some workStatus => result.filter fun row ↦ row.workStatus == workStatus
    | none => result
  let result := match f.portalStatus with
    | some portalStatus =>
      if portalStatus = "" then result else result.filter fun row ↦ row.portalStatus == portalStatus
    | none => result
  sortedBy (sortKey timestamp) result

/-! ## What is shown -/

/-- The row satisfies every filter that is active. -/
structure Filters.Accepts (f : Filters) (row : DashboardRow) : Prop where
  search : ∀ search, f.search = some search → search ≠ "" → matchesSearch casefold row search = true
  unreadOnly : f.unreadOnly = true → row.unread = true
  workStatus : ∀ status, f.workStatus = some status → row.workStatus = status
  portalStatus : ∀ status, f.portalStatus = some status → status ≠ "" → row.portalStatus = status

/-- The four filters, each alone. -/
def Filters.singly (f : Filters) : List Filters :=
  [{ search := f.search }, { unreadOnly := f.unreadOnly }, { workStatus := f.workStatus },
    { portalStatus := f.portalStatus }]

/-- Some filter is neither left out nor empty. -/
def Filters.IsActive (f : Filters) : Prop :=
  (∃ search, f.search = some search ∧ search ≠ "") ∨ f.unreadOnly = true ∨
    (∃ status, f.workStatus = some status) ∨ ∃ status, f.portalStatus = some status ∧ status ≠ ""

/-- `Accepts`, evaluated. -/
def Filters.test (f : Filters) (row : DashboardRow) : Bool :=
  (match f.search with
    | some search => decide (search = "") || matchesSearch casefold row search
    | none => true) &&
  (!f.unreadOnly || row.unread) &&
  (match f.workStatus with
    | some workStatus => row.workStatus == workStatus
    | none => true) &&
  (match f.portalStatus with
    | some portalStatus => decide (portalStatus = "") || row.portalStatus == portalStatus
    | none => true)

theorem Filters.test_iff {f : Filters} {row : DashboardRow} :
    f.test casefold row = true ↔ f.Accepts casefold row := by
  obtain ⟨search, unreadOnly, workStatus, portalStatus⟩ := f
  rw [test, Bool.and_eq_true, Bool.and_eq_true, Bool.and_eq_true]
  constructor
  · rintro ⟨⟨⟨hsearch, hunread⟩, hwork⟩, hportal⟩
    constructor
    · rintro text rfl htext
      simpa [htext] using hsearch
    · rintro rfl
      simpa using hunread
    · rintro status rfl
      simpa using hwork
    · rintro status rfl hstatus
      simpa [hstatus] using hportal
  · rintro ⟨hsearch, hunread, hwork, hportal⟩
    refine ⟨⟨⟨?_, ?_⟩, ?_⟩, ?_⟩
    · cases search with
      | none => rfl
      | some text => by_cases htext : text = "" <;> simp [htext, hsearch text rfl]
    · cases unreadOnly with
      | false => rfl
      | true => simpa using hunread rfl
    · cases workStatus with
      | none => rfl
      | some status => simpa using hwork status rfl
    · cases portalStatus with
      | none => rfl
      | some status => by_cases hstatus : status = "" <;> simp [hstatus, hportal status rfl]

instance (f : Filters) (row : DashboardRow) : Decidable (f.Accepts casefold row) :=
  decidable_of_iff _ (Filters.test_iff casefold)

/-- The four passes are one. -/
theorem filterAndSort_eq (rows : List DashboardRow) (f : Filters) :
    filterAndSort casefold timestamp rows f =
      sortedBy (sortKey timestamp) (rows.filter (f.test casefold)) := by
  obtain ⟨search, unreadOnly, workStatus, portalStatus⟩ := f
  rw [filterAndSort]
  refine congrArg _ ?_
  have hsplit : ∀ p q r s : DashboardRow → Bool,
      (rows.filter fun row ↦ p row && q row && r row && s row) =
        (((rows.filter p).filter q).filter r).filter s := fun p q r s ↦ by
    rw [List.filter_filter, List.filter_filter, List.filter_filter]
    exact List.filter_congr fun row _ ↦ by simp only [Bool.and_comm, Bool.and_left_comm]
  refine Eq.trans ?_ (hsplit _ _ _ _).symm
  -- each pass is a filter, which lets everything through where the pass is left out
  have hnone : ∀ l : List DashboardRow, l = l.filter fun _ ↦ true := fun l ↦
    (List.filter_eq_self.mpr fun _ _ ↦ rfl).symm
  have hsome : ∀ (l : List DashboardRow) (p : DashboardRow → Bool) (text : String),
      (if text = "" then l else l.filter p) = l.filter fun row ↦ decide (text = "") || p row := by
    intro l p text
    by_cases htext : text = "" <;> simp [htext]
  have hunread : ∀ l : List DashboardRow,
      (if unreadOnly = true then l.filter fun row ↦ row.unread else l) =
        l.filter fun row ↦ !unreadOnly || row.unread := fun l ↦ by
    cases unreadOnly with
    | false => exact hnone l
    | true => rfl
  have hwork : ∀ l : List DashboardRow,
      (match workStatus with
        | some status => l.filter fun row ↦ row.workStatus == status
        | none => l) =
      l.filter fun row ↦ (match workStatus with
        | some status => row.workStatus == status
        | none => true) := fun l ↦ by
    cases workStatus with
    | none => exact hnone l
    | some status => rfl
  have hportal : ∀ l : List DashboardRow,
      (match portalStatus with
        | some status => if status = "" then l else l.filter fun row ↦ row.portalStatus == status
        | none => l) =
      l.filter fun row ↦ (match portalStatus with
        | some status => decide (status = "") || row.portalStatus == status
        | none => true) := fun l ↦ by
    cases portalStatus with
    | none => exact hnone l
    | some status => exact hsome l (fun row ↦ row.portalStatus == status) status
  refine (hportal _).trans (congrArg (List.filter _) ?_)
  refine (hwork _).trans (congrArg (List.filter _) ?_)
  refine (hunread _).trans (congrArg (List.filter _) ?_)
  cases search with
  | none => exact hnone rows
  | some text => exact hsome rows (matchesSearch casefold · text) text

/-! ## In which order -/

/-- A date comes before another if it is later, and any date before none. -/
def DateBefore : Option Datetime → Option Datetime → Prop
  | some d, some e => timestamp e < timestamp d
  | some _, none => True
  | none, _ => False

/-- The order of the dashboard: unread first, then by the date on which the garage sent its
estimate, latest first and those without one last, then by the time of detection, latest first. -/
def ShownBefore (r s : DashboardRow) : Prop :=
  (r.unread = true ∧ s.unread = false) ∨
    r.unread = s.unread ∧
      (DateBefore timestamp r.dateEnvoiDevisGarage s.dateEnvoiDevisGarage ∨
        r.dateEnvoiDevisGarage.map timestamp = s.dateEnvoiDevisGarage.map timestamp ∧
          timestamp s.detectionTime ≤ timestamp r.detectionTime)

/-- The rows agree on everything that the order looks at. -/
def SameKeys (r s : DashboardRow) : Prop :=
  r.unread = s.unread ∧
    r.dateEnvoiDevisGarage.map timestamp = s.dateEnvoiDevisGarage.map timestamp ∧
    timestamp r.detectionTime = timestamp s.detectionTime

instance (r s : DashboardRow) : Decidable (SameKeys timestamp r s) :=
  inferInstanceAs (Decidable (_ ∧ _ ∧ _))

theorem negate_epoch_lt {d e : Option Datetime} :
    negate (epoch timestamp d) < negate (epoch timestamp e) ↔ DateBefore timestamp d e := by
  cases d with
  | none => exact ⟨fun h ↦ absurd h not_top_lt, False.elim⟩
  | some d =>
    cases e with
    | none => exact ⟨fun _ ↦ trivial, fun _ ↦ WithTop.coe_lt_top _⟩
    | some e => exact WithTop.coe_lt_coe.trans neg_lt_neg_iff

theorem negate_epoch_eq {d e : Option Datetime} :
    negate (epoch timestamp d) = negate (epoch timestamp e) ↔
      d.map timestamp = e.map timestamp := by
  cases d with
  | none =>
    cases e with
    | none => exact ⟨fun _ ↦ rfl, fun _ ↦ rfl⟩
    | some e => exact ⟨fun h ↦ absurd h WithTop.top_ne_coe, fun h ↦ nomatch h⟩
  | some d =>
    cases e with
    | none => exact ⟨fun h ↦ absurd h WithTop.coe_ne_top, fun h ↦ nomatch h⟩
    | some e =>
      rw [Option.map_some, Option.map_some, Option.some_inj]
      exact WithTop.coe_inj.trans neg_inj

theorem negate_epoch_le {d e : Datetime} :
    negate (epoch timestamp (some d)) ≤ negate (epoch timestamp (some e)) ↔
      timestamp e ≤ timestamp d :=
  WithTop.coe_le_coe.trans neg_le_neg_iff

theorem unread_lt {a b : Bool} :
    (if a = true then 0 else 1) < (if b = true then 0 else 1) ↔ a = true ∧ b = false := by
  cases a <;> cases b <;> simp

theorem unread_eq {a b : Bool} :
    (if a = true then 0 else 1) = (if b = true then 0 else 1) ↔ a = b := by
  cases a <;> cases b <;> simp

theorem sortKey_le {r s : DashboardRow} :
    sortKey timestamp r ≤ sortKey timestamp s ↔ ShownBefore timestamp r s := by
  rw [sortKey, sortKey, Prod.Lex.toLex_le_toLex, Prod.Lex.toLex_le_toLex, unread_lt, unread_eq,
    negate_epoch_lt, negate_epoch_eq, negate_epoch_le, ShownBefore]

theorem sortKey_eq {r s : DashboardRow} :
    sortKey timestamp r = sortKey timestamp s ↔ SameKeys timestamp r s := by
  rw [sortKey, sortKey, toLex_inj, Prod.mk.injEq, toLex_inj, Prod.mk.injEq, unread_eq,
    negate_epoch_eq, negate_epoch_eq, Option.map_some, Option.map_some, Option.some_inj, SameKeys]

/-! ## The result -/

section Result

variable {casefold timestamp} {rows : List DashboardRow} {f : Filters}

theorem filterAndSort_perm :
    (filterAndSort casefold timestamp rows f).Perm (rows.filter fun r ↦ f.Accepts casefold r) := by
  rw [filterAndSort_eq]
  refine sortedBy_perm.trans (List.Perm.of_eq (List.filter_congr fun r _ ↦ ?_))
  rw [Bool.eq_iff_iff, decide_eq_true_eq, Filters.test_iff]

theorem pairwise_filterAndSort :
    (filterAndSort casefold timestamp rows f).Pairwise (ShownBefore timestamp) := by
  rw [filterAndSort_eq]
  exact List.Pairwise.imp (fun h ↦ (sortKey_le timestamp).mp h) pairwise_sortedBy

theorem filter_sameKeys_filterAndSort (r : DashboardRow) :
    ((filterAndSort casefold timestamp rows f).filter fun s ↦ SameKeys timestamp s r) =
      rows.filter fun s ↦ f.Accepts casefold s ∧ SameKeys timestamp s r := by
  rw [filterAndSort_eq]
  have hkey : ∀ s, decide (SameKeys timestamp s r) =
      decide (sortKey timestamp s = sortKey timestamp r) := fun s ↦
    decide_eq_decide.mpr (sortKey_eq timestamp).symm
  simp only [hkey]
  rw [filter_key_sortedBy, List.filter_filter]
  refine List.filter_congr fun s _ ↦ ?_
  rw [Bool.eq_iff_iff, Bool.and_eq_true, decide_eq_true_eq, decide_eq_true_eq, Filters.test_iff,
    sortKey_eq, and_comm]

/-- Filtering again keeps the rows that both ask for, whichever was first. -/
theorem filterAndSort_filterAndSort (g : Filters) :
    filterAndSort casefold timestamp (filterAndSort casefold timestamp rows f) g =
      sortedBy (sortKey timestamp)
        (rows.filter fun r ↦ f.test casefold r && g.test casefold r) := by
  rw [filterAndSort_eq, filterAndSort_eq, sortedBy_filter_sortedBy, List.filter_filter]
  exact congrArg _ (List.filter_congr fun r _ ↦ Bool.and_comm _ _)

/-- One after the other is all together. -/
theorem foldl_filterAndSort (order : List Filters) (horder : order ≠ []) :
    order.foldl (filterAndSort casefold timestamp) rows =
      sortedBy (sortKey timestamp)
        (rows.filter fun r ↦ order.all fun g ↦ g.test casefold r) := by
  induction order using List.reverseRecOn with
  | nil => exact absurd rfl horder
  | append_singleton order g ih =>
    rw [List.foldl_append, List.foldl_cons, List.foldl_nil, filterAndSort_eq]
    simp only [List.all_append, List.all_cons, List.all_nil, Bool.and_true]
    by_cases hfirst : order = []
    · subst hfirst
      simp only [List.foldl_nil, List.all_nil, Bool.true_and]
    · rw [ih hfirst, sortedBy_filter_sortedBy, List.filter_filter]
      exact congrArg _ (List.filter_congr fun r _ ↦ Bool.and_comm _ _)

/-- What is not active accepts every row. -/
theorem accepts_of_not_isActive (hf : ¬ f.IsActive) (row : DashboardRow) :
    f.Accepts casefold row := by
  simp only [Filters.IsActive, not_or, not_exists, not_and] at hf
  obtain ⟨hsearch, hunread, hwork, hportal⟩ := hf
  exact ⟨fun text htext hne ↦ absurd hne (hsearch text htext), fun h ↦ absurd h hunread,
    fun status h ↦ absurd h (hwork status), fun status h hne ↦ absurd hne (hportal status h)⟩

/-- A row that each filter alone accepts is one that all of them accept. -/
theorem accepts_iff_singly {row : DashboardRow} :
    f.Accepts casefold row ↔ ∀ g ∈ f.singly, g.Accepts casefold row := by
  constructor
  · rintro ⟨hsearch, hunread, hwork, hportal⟩ g hg
    simp only [Filters.singly, List.mem_cons, List.not_mem_nil, or_false] at hg
    rcases hg with rfl | rfl | rfl | rfl
    · exact ⟨hsearch, nofun, nofun, nofun⟩
    · exact ⟨nofun, hunread, nofun, nofun⟩
    · exact ⟨nofun, nofun, hwork, nofun⟩
    · exact ⟨nofun, nofun, nofun, hportal⟩
  · intro h
    exact ⟨(h { search := f.search } (by simp [Filters.singly])).search,
      (h { unreadOnly := f.unreadOnly } (by simp [Filters.singly])).unreadOnly,
      (h { workStatus := f.workStatus } (by simp [Filters.singly])).workStatus,
      (h { portalStatus := f.portalStatus } (by simp [Filters.singly])).portalStatus⟩

end Result

/-- **The dashboard shows exactly the rows that every filter accepts, in the order of the
dashboard**, and rows that the order does not tell apart in the order they came in.  Filtering and
sorting what is shown changes nothing, and the filters may as well be applied one at a time: in any
order, as often as one likes, and those that are not active or not. -/
theorem filterAndSort_spec (rows : List DashboardRow) (f : Filters) :
    let shown := filterAndSort casefold timestamp rows f
    shown.Perm (rows.filter fun r ↦ f.Accepts casefold r) ∧
      shown.Pairwise (ShownBefore timestamp) ∧
      (∀ r, (shown.filter fun s ↦ SameKeys timestamp s r) =
        rows.filter fun s ↦ f.Accepts casefold s ∧ SameKeys timestamp s r) ∧
      filterAndSort casefold timestamp shown f = shown ∧
      ∀ order : List Filters, order ≠ [] → order ⊆ f.singly →
        (∀ g ∈ f.singly, g.IsActive → g ∈ order) →
        order.foldl (filterAndSort casefold timestamp) rows = shown := by
  refine ⟨filterAndSort_perm, pairwise_filterAndSort, filter_sameKeys_filterAndSort, ?_, ?_⟩
  · rw [filterAndSort_filterAndSort, filterAndSort_eq]
    simp only [Bool.and_self]
  · intro order hne hsub hactive
    rw [foldl_filterAndSort order hne, filterAndSort_eq]
    refine congrArg _ (List.filter_congr fun r _ ↦ ?_)
    rw [Bool.eq_iff_iff, List.all_eq_true, Filters.test_iff, accepts_iff_singly]
    simp only [Filters.test_iff]
    constructor
    · intro h g hg
      by_cases hga : g.IsActive
      · exact h g (hactive g hg hga)
      · exact accepts_of_not_isActive hga r
    · exact fun h g hg ↦ h g (hsub hg)

end Dashboard
end RmaPortal
