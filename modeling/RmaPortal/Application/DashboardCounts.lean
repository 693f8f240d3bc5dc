import RmaPortal.Application.Dashboard

/-!
# The counts of the dashboard

`compute_counts` of `application/dashboard.py`: how many rows there are, how many of them are new
for the employee, and how many there are of each work status.

## What is here

* `DashboardCounts`, `countStatus`, `computeCounts` — the counts, which are taken of all rows,
  whatever filters are active.
* `DashboardCounts.ofStatus`, `ofStatus_computeCounts` — the count of a work status.
* `computeCounts_perm` — the counts do not depend on the order of the rows.
* `length_filterAndSort`, `ofStatus_eq_length_filterAndSort`, `newForMe_eq_length_filterAndSort` —
  each is the number of rows that its own filter would show.

So what stands next to a filter is how many rows there will be when it is the only one that is
active.
-/

set_option autoImplicit false

namespace RmaPortal
namespace Dashboard

structure DashboardCounts where
  newForMe : ℕ
  toDo : ℕ
  inProgress : ℕ
  waiting : ℕ
  done : ℕ
  deriving DecidableEq

/-- How many rows have a work status. -/
def countStatus (rows : List DashboardRow) (status : WorkStatus) : ℕ :=
  rows.countP fun r ↦ r.workStatus == status

/-- `compute_counts` -/
def computeCounts (rows : List DashboardRow) : DashboardCounts where
  newForMe := rows.countP DashboardRow.unread
  toDo := countStatus rows .toDo
  inProgress := countStatus rows .inProgress
  waiting := countStatus rows .waiting
  done := countStatus rows .done

/-- The count of a work status. -/
def DashboardCounts.ofStatus (c : DashboardCounts) : WorkStatus → ℕ
  | .toDo => c.toDo
  | .inProgress => c.inProgress
  | .waiting => c.waiting
  | .done => c.done

section

variable {rows rows' : List DashboardRow} {status : WorkStatus}

@[simp] theorem ofStatus_computeCounts :
    (computeCounts rows).ofStatus status = countStatus rows status := by
  cases status <;> rfl

/-- The counts do not depend on the order of the rows. -/
theorem computeCounts_perm (h : rows.Perm rows') : computeCounts rows = computeCounts rows' := by
  simp only [computeCounts, countStatus, h.countP_eq]

variable (casefold : String → String) (timestamp : Datetime → ℚ)

theorem length_filterAndSort (f : Filters) :
    (filterAndSort casefold timestamp rows f).length = rows.countP (f.test casefold) := by
  rw [filterAndSort_eq, sortedBy_perm.length_eq, List.countP_eq_length_filter]

/-- **A count is the number of rows its filter shows.** -/
theorem ofStatus_eq_length_filterAndSort : (computeCounts rows).ofStatus status =
    (filterAndSort casefold timestamp rows { workStatus := some status }).length := by
  rw [ofStatus_computeCounts, length_filterAndSort, countStatus]
  refine List.countP_congr fun r _ ↦ ?_
  simp [Filters.test]

theorem newForMe_eq_length_filterAndSort : (computeCounts rows).newForMe =
    (filterAndSort casefold timestamp rows { unreadOnly := true }).length := by
  rw [length_filterAndSort, computeCounts]
  refine List.countP_congr fun r _ ↦ ?_
  simp [Filters.test]

end

end Dashboard
end RmaPortal
