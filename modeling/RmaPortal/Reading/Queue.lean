import RmaPortal.Coroutine.Calls
import RmaPortal.Reading.Details

/-!
# How the queue is read

`readAgreementQueue` collects the pages of the queue one by one.  `Accepted` says which pages it
has collected at some point of a run, `Completed` that these are all pages there are, and
`Interrupted` that a step has raised before it came to that.  `ends_readAgreementQueue_iff` says
how a run ends in either case, and that there are no others; `isMerged_mergeSnapshots` what
becomes of the pages collected.

The run is the sequence of answers that the page gives, and nothing is assumed of them: pages may
be skipped, come twice, change between two looks, or show other records than the pager says.  What
Beautiful Soup makes of a markup is a parameter.

## What is here

* `ids`, `IsMerged` — what merging is to do: one row for each record, in the order in which the
  records first appear, with the fields of the page on which the record was seen last.
* `SameIds`, `Stale` — what the code takes for a page that has not changed yet.
* `Accepted` — an inductive predicate with one constructor for the first page and one for every
  further one; each says what the page was asked and what it answered, so a derivation is the run.
* `NoNextPage`, `Completed` — the pages are all there are: as many as the first one says, or the
  only one, where no control leads to another.
* `Interrupted`, `Reported` — which step has raised what, and what is raised in its place: an
  expired session and a page that does not look like the queue are told apart here.
* `of_ends_collectPage`, `of_ends_collectPages` — one turn of the loop, and the loop, by induction
  on the number of pages that are left.
* `Completed.ends`, `Interrupted.ends` — the converse: a run in which all pages are accepted ends
  so, and one in which a step raises ends so.  The two directions make
  `ends_readAgreementQueue_iff` an equivalence, so that the classification is not only sound.
* `Classified` and `queue_classified` — when the result is complete, partial, a refusal because
  the session is gone, or a failure, for every sequence of pages and every place where something
  raises.
* `queue_classified_twoPages` — two pages that have a dossier in common.
-/

set_option autoImplicit false

open Coroutine

namespace RmaPortal

namespace PageReader

/-! ## Merging pages -/

/-- The records a page shows, in its order. -/
def ids (p : QueueSnapshot) : List String := p.rows.map (·.recordId)

/-- The records some pages show, in the order of the pages. -/
def allIds (pages : List QueueSnapshot) : List String := pages.flatMap ids

/-- **One row for each record**: what the pages come to. -/
structure IsMerged (pages : List QueueSnapshot) (s : QueueSnapshot) : Prop where
  /-- No record has two rows. -/
  distinct : (ids s).Nodup
  /-- The records are those of the pages. -/
  mem_ids : ∀ id, id ∈ ids s ↔ ∃ p ∈ pages, id ∈ ids p
  /-- They are in the order in which they appear first. -/
  order : (ids s).Pairwise fun id id' ↦ (allIds pages).idxOf id < (allIds pages).idxOf id'
  /-- A row is the one of the last page that shows its record. -/
  latest : ∀ row ∈ s.rows, ∃ before p later, pages = before ++ p :: later ∧ row ∈ p.rows ∧
    ∀ q ∈ later, row.recordId ∉ ids q
  pagesSeen : s.pagesSeen = pages.length

theorem mem_allIds {pages : List QueueSnapshot} {id : String} :
    id ∈ allIds pages ↔ ∃ p ∈ pages, id ∈ ids p := List.mem_flatMap

theorem map_recordId_flatMap (pages : List QueueSnapshot) :
    (pages.flatMap (·.rows)).map QueueRow.recordId = allIds pages := List.map_flatMap

/-- The last row of a record is in the last page that shows it. -/
theorem mem_last_page {pages : List QueueSnapshot} {id : String} {row : QueueRow}
    (h : (pages.flatMap (·.rows)).reverse.find? (fun r ↦ decide (r.recordId = id)) = some row) :
    ∃ before p later, pages = before ++ p :: later ∧ row ∈ p.rows ∧ ∀ q ∈ later, id ∉ ids q := by
  induction pages using List.reverseRecOn with
  | nil => simp at h
  | append_singleton pages p ih =>
    rw [List.flatMap_append, List.flatMap_singleton, List.reverse_append, List.find?_append,
      Option.or_eq_some_iff] at h
    rcases h with h | ⟨hnone, h⟩
    · exact ⟨pages, p, [], rfl, List.mem_reverse.mp (List.mem_of_find?_eq_some h), by simp⟩
    · obtain ⟨before, p', later, rfl, hmem, hlater⟩ := ih h
      refine ⟨before, p', later ++ [p], by simp, hmem, fun q hq ↦ ?_⟩
      rcases List.mem_append.mp hq with hq | hq
      · exact hlater q hq
      · obtain rfl := List.mem_singleton.mp hq
        intro hid
        obtain ⟨r, hr, rfl⟩ := List.mem_map.mp hid
        exact List.find?_eq_none.mp hnone r (List.mem_reverse.mpr hr) (decide_eq_true rfl)

theorem isMerged_mergeSnapshots (pages : List QueueSnapshot) :
    IsMerged pages (Parser.mergeSnapshots pages) where
  distinct := (Table.ofList _ : Table QueueRow.recordId).nodup
  mem_ids id := by
    rw [← mem_allIds, ← map_recordId_flatMap]
    exact Table.mem_map_key_ofList
  order := by
    rw [← map_recordId_flatMap]
    exact Table.pairwise_idxOf_ofList _
  latest row hrow := by
    refine mem_last_page ?_
    rw [← Table.find?_ofList]
    exact Table.find?_of_mem hrow
  pagesSeen := rfl

/-! ## Pages -/

section

variable {Tag : Type} {bs : BeautifulSoup Tag}

theorem collectRow_nodup {rows rows' : List QueueRow} {row : Tag}
    (h : Parser.collectRow bs rows row = .ok rows') (hrows : (rows.map (·.recordId)).Nodup) :
    (rows'.map (·.recordId)).Nodup := by
  unfold Parser.collectRow at h
  dsimp only at h
  split at h
  · cases h
    exact hrows
  · rename_i hnew
    cases hhref : Parser.detailsHref bs row with
    | error e => rw [hhref] at h; cases h
    | ok href =>
      rw [hhref] at h
      cases h
      rw [List.map_append, List.map_singleton, List.nodup_append]
      refine ⟨hrows, List.nodup_singleton _, fun k hk k' hk' ↦ ?_⟩
      obtain ⟨r, hr, rfl⟩ := List.mem_map.mp hk
      rw [List.mem_singleton.mp hk']
      simp only [Bool.or_eq_true, List.any_eq_true, decide_eq_true_eq, not_or, not_exists,
        not_and] at hnew
      exact hnew.2 r hr

theorem foldlM_collectRow_nodup {tags : List Tag} {rows rows' : List QueueRow}
    (h : tags.foldlM (Parser.collectRow bs) rows = .ok rows')
    (hrows : (rows.map (·.recordId)).Nodup) : (rows'.map (·.recordId)).Nodup := by
  induction tags generalizing rows with
  | nil =>
    cases h
    exact hrows
  | cons tag tags ih =>
    rw [List.foldlM_cons] at h
    cases hrow : Parser.collectRow bs rows tag with
    | error e => rw [hrow] at h; cases h
    | ok rows₁ =>
      rw [hrow] at h
      exact ih h (collectRow_nodup hrow hrows)

/-- **No page shows a record twice.** -/
theorem parseQueuePage_nodup {html : String} {p : QueueSnapshot}
    (h : Parser.parseQueuePage bs html = .ok p) : (ids p).Nodup := by
  unfold Parser.parseQueuePage at h
  cases hparse : bs.parse html with
  | error e => rw [hparse] at h; cases h
  | ok soup =>
    rw [hparse] at h
    dsimp only [bind, Except.bind] at h
    cases hroot : bs.selectOne soup "#view_1874" with
    | none =>
      rw [hroot] at h
      cases h
    | some root =>
      rw [hroot] at h
      dsimp only at h
      cases hrows : (bs.select root "table tbody tr[id]").foldlM (Parser.collectRow bs) [] with
      | error e => rw [hrows] at h; cases h
      | ok rows =>
        rw [hrows] at h
        cases h
        exact foldlM_collectRow_nodup hrows List.nodup_nil

end

/-- Two pages show the same records. -/
def SameIds (p q : QueueSnapshot) : Prop := ∀ id, id ∈ ids p ↔ id ∈ ids q

theorem sameIds_iff {p q : QueueSnapshot} : sameIds p q = true ↔ SameIds p q := by
  simp only [sameIds, SameIds, ids, Bool.and_eq_true, List.all_eq_true, List.any_eq_true,
    decide_eq_true_eq, List.mem_map]
  constructor
  · rintro ⟨hpq, hqp⟩ id
    constructor
    · rintro ⟨r, hr, rfl⟩
      exact hpq r hr
    · rintro ⟨r, hr, rfl⟩
      exact hqp r hr
  · exact fun h ↦ ⟨fun r hr ↦ (h _).mp ⟨r, hr, rfl⟩, fun r hr ↦ (h _).mpr ⟨r, hr, rfl⟩⟩

/-- The page shows the records of the page before it. -/
def Stale (pages : List QueueSnapshot) (p : QueueSnapshot) : Prop :=
  p.rows ≠ [] ∧ ∃ q, pages.getLast? = some q ∧ SameIds p q

theorem stale_iff {pages : List QueueSnapshot} {p : QueueSnapshot} :
    (!p.rows.isEmpty && (pages.getLast?.any (sameIds p))) = true ↔ Stale pages p := by
  rw [Bool.and_eq_true, Bool.not_eq_true', List.isEmpty_eq_false_iff, Option.any_eq_true, Stale]
  simp only [sameIds_iff]

/-! ## What a run has come to -/

section

variable {Tag : Type} (r : PageReader Tag)

/-- The pages have been accepted, one after the other, and the first page says that there are `n`
of them. -/
inductive Accepted : List PageEvent → ℤ → List QueueSnapshot → Prop
  | first {t : List PageEvent} {markup : Markup} {p : QueueSnapshot} {n : ℤ}
      (hopen : Ends (openQueue r) t (.ok markup))
      (hparse : Parser.parseQueuePage r.bs markup.html = .ok p)
      (hcount : Parser.parsePageCount r.bs markup.html = .ok n) : Accepted t n [p]
  | next {t t' : List PageEvent} {n : ℤ} {pages : List QueueSnapshot} {markup : Markup}
      {p : QueueSnapshot} (h : Accepted t n pages) (hmore : (pages.length : ℤ) < n)
      (hshow : Ends (showPage (pages.length + 1)) t' (.ok markup))
      (hparse : Parser.parseQueuePage r.bs markup.html = .ok p)
      (hfresh : ¬Stale pages p) : Accepted (t ++ t') n (pages ++ [p])

/-- The control that leads to the next page is absent or disabled. -/
def NoNextPage (t : List PageEvent) : Prop :=
  t = [⟨.count nextPageSelector, .ok 0⟩] ∨ ∃ k classes, k ≠ 0 ∧
    isDisabled (Option.getD classes "") = true ∧
    t = [⟨.count nextPageSelector, .ok k⟩, ⟨.getAttribute nextPageSelector "class", .ok classes⟩]

/-- All pages have been accepted: `n` of them, or the only one. -/
def Completed (t : List PageEvent) (pages : List QueueSnapshot) : Prop :=
  ∃ t₁ t₂ n, t = t₁ ++ t₂ ∧ Accepted r t₁ n pages ∧ (pages.length : ℤ) = max 1 n ∧ NoNextPage t₂

/-- A step has raised `e` after the pages had been accepted. -/
inductive Interrupted : List PageEvent → List QueueSnapshot → Exn → Prop
  | opening {t : List PageEvent} {e : Exn} (hopen : Ends (openQueue r) t (.error e)) :
      Interrupted t [] e
  | parsingFirst {t : List PageEvent} {markup : Markup} {e : Exn}
      (hopen : Ends (openQueue r) t (.ok markup))
      (hparse : Parser.parseQueuePage r.bs markup.html = .error e) : Interrupted t [] e
  | counting {t : List PageEvent} {markup : Markup} {p : QueueSnapshot} {e : Exn}
      (hopen : Ends (openQueue r) t (.ok markup))
      (hparse : Parser.parseQueuePage r.bs markup.html = .ok p)
      (hcount : Parser.parsePageCount r.bs markup.html = .error e) : Interrupted t [p] e
  | showing {t t' : List PageEvent} {n : ℤ} {pages : List QueueSnapshot} {e : Exn}
      (h : Accepted r t n pages) (hmore : (pages.length : ℤ) < n)
      (hshow : Ends (showPage (pages.length + 1)) t' (.error e)) : Interrupted (t ++ t') pages e
  | parsing {t t' : List PageEvent} {n : ℤ} {pages : List QueueSnapshot} {markup : Markup} {e : Exn}
      (h : Accepted r t n pages) (hmore : (pages.length : ℤ) < n)
      (hshow : Ends (showPage (pages.length + 1)) t' (.ok markup))
      (hparse : Parser.parseQueuePage r.bs markup.html = .error e) : Interrupted (t ++ t') pages e
  | stale {t t' : List PageEvent} {n : ℤ} {pages : List QueueSnapshot} {markup : Markup}
      {p : QueueSnapshot} (h : Accepted r t n pages) (hmore : (pages.length : ℤ) < n)
      (hshow : Ends (showPage (pages.length + 1)) t' (.ok markup))
      (hparse : Parser.parseQueuePage r.bs markup.html = .ok p) (hstale : Stale pages p) :
      Interrupted (t ++ t') pages (stalePageResultError (pages.length + 1))
  | checkingLast {t t' : List PageEvent} {n : ℤ} {pages : List QueueSnapshot} {e : Exn}
      (h : Accepted r t n pages) (hlast : (pages.length : ℤ) = max 1 n)
      (hcheck : Ends (verifyLastPageReached n) t' (.error e)) : Interrupted (t ++ t') pages e

end

/-- What is raised where a step has raised `e` after the pages had been accepted. -/
def Reported (pages : List QueueSnapshot) (e e' : Exn) : Prop :=
  match e with
  | .portalAuthRequiredError _ | .portalReadError _ | .portalPartialReadError _ _ => e' = e
  | e =>
    if e.isException then
      (pages = [] ∧ e' = .portalReadError (incompleteMessage e)) ∨
        pages ≠ [] ∧ ∃ s, IsMerged pages s ∧ e' = .portalPartialReadError (incompleteMessage e) s
    else e' = e

/-- **How the read of a queue is classified.** -/
structure Classified {Tag : Type} (r : PageReader Tag) (t : List PageEvent)
    (o : Except Exn QueueSnapshot) : Prop where
  /-- It returns only if all pages were accepted, … -/
  returns : ∀ s, o = .ok s → ∃ pages, Completed r t pages ∧ IsMerged pages s
  /-- … and then it does return. -/
  completes : ∀ pages, Completed r t pages → ∃ s, o = .ok s ∧ IsMerged pages s
  /-- It raises only what comes of an exception which a step has raised, … -/
  raises : ∀ e', o = .error e' → ∃ pages e, Interrupted r t pages e ∧ Reported pages e e'
  /-- … and whichever exception that is, it raises what comes of it. -/
  interrupts : ∀ pages e, Interrupted r t pages e → ∃ e', o = .error e' ∧ Reported pages e e'
  /-- No page that was accepted shows a record twice. -/
  single : ∀ pages, (Completed r t pages ∨ ∃ e, Interrupted r t pages e) →
    ∀ p ∈ pages, (ids p).Nodup

/-! ## The loop over the pages -/

section

variable {Tag : Type} {r : PageReader Tag} {t t' : List PageEvent} {n : ℤ}
  {pages : List QueueSnapshot} {e : Exn}

theorem ends_result_iff {α : Type} {o o' : Except Exn α} :
    Ends (result o) t o' ↔ t = [] ∧ o' = o := ends_done_iff

/-- How the body of the loop ends once the page is shown. -/
def collected (r : PageReader Tag) (pages : List QueueSnapshot) (pageNumber : ℕ) (markup : Markup) :
    Except Exn (List QueueSnapshot) :=
  match Parser.parseQueuePage r.bs markup.html with
  | .error e => .error e
  | .ok p =>
    if !p.rows.isEmpty && (pages.getLast?.any (sameIds p)) then
      .error (stalePageResultError pageNumber)
    else .ok (pages ++ [p])

theorem collectPage_eq (pages : List QueueSnapshot) (pageNumber : ℕ) :
    collectPage r pages pageNumber =
      (showPage pageNumber >>= fun markup ↦ result (collected r pages pageNumber markup)) := by
  refine congrArg (showPage pageNumber >>= ·) (funext fun markup ↦ ?_)
  rw [collected]
  cases Parser.parseQueuePage r.bs markup.html with
  | error e => rfl
  | ok p =>
    change (if _ then _ else _) = _
    dsimp only
    split <;> rfl

/-- The body of the loop: the page is shown, and then it is collected or not. -/
theorem ends_collectPage_iff {k : ℕ} {o : Except Exn (List QueueSnapshot)} :
    Ends (collectPage r pages k) t o ↔ (∃ e, Ends (showPage k) t (.error e) ∧ o = .error e) ∨
      ∃ markup, Ends (showPage k) t (.ok markup) ∧ o = collected r pages k markup := by
  rw [collectPage_eq, ends_bind_iff]
  refine or_congr_right ⟨?_, ?_⟩
  · rintro ⟨t₁, markup, t₂, rfl, hshow, hresult⟩
    obtain ⟨rfl, rfl⟩ := ends_result_iff.mp hresult
    rw [List.append_nil]
    exact ⟨markup, hshow, rfl⟩
  · rintro ⟨markup, hshow, rfl⟩
    exact ⟨t, markup, [], by simp, hshow, ends_result_iff.mpr ⟨rfl, rfl⟩⟩

theorem Accepted.length_pos (h : Accepted r t n pages) : 0 < pages.length := by
  cases h <;> simp

/-- **One turn of the loop**: the page is accepted, or the turn raises. -/
theorem of_ends_collectPage (h : Accepted r t n pages) (hmore : (pages.length : ℤ) < n)
    {o : Except Exn (List QueueSnapshot)}
    (hends : Ends (collectPage r pages (pages.length + 1)) t' o) :
    (∃ p, o = .ok (pages ++ [p]) ∧ Accepted r (t ++ t') n (pages ++ [p])) ∨
      ∃ e, o = .error e ∧ Interrupted r (t ++ t') pages e := by
  rcases ends_collectPage_iff.mp hends with ⟨e, hshow, rfl⟩ | ⟨markup, hshow, rfl⟩
  · exact .inr ⟨e, rfl, .showing h hmore hshow⟩
  · rw [collected]
    cases hparse : Parser.parseQueuePage r.bs markup.html with
    | error e => exact .inr ⟨e, rfl, .parsing h hmore hshow hparse⟩
    | ok p =>
      dsimp only
      split
      · rename_i hstale
        exact .inr ⟨_, rfl, .stale h hmore hshow hparse (stale_iff.mp hstale)⟩
      · rename_i hfresh
        exact .inl ⟨p, rfl, .next h hmore hshow hparse (stale_iff.not.mp hfresh)⟩

/-- **The loop**: all pages are accepted, or a turn raises. -/
theorem of_ends_collectPages {k : ℕ} {o : Except Exn (List QueueSnapshot × Except Exn Unit)}
    (h : Accepted r t n pages) (hk : (pages.length + k : ℤ) = max 1 n)
    (hends : Ends (collectPages r pages (List.range' (pages.length + 1) k)) t' o) :
    ∃ pages' o', o = .ok (pages', o') ∧
      ((o' = .ok () ∧ Accepted r (t ++ t') n pages' ∧ (pages'.length : ℤ) = max 1 n) ∨
        ∃ e, o' = .error e ∧ Interrupted r (t ++ t') pages' e) := by
  induction k generalizing t t' pages with
  | zero =>
    obtain ⟨rfl, rfl⟩ := ends_done_iff.mp hends
    rw [List.append_nil]
    exact ⟨pages, _, rfl, .inl ⟨rfl, h, by omega⟩⟩
  | succ k ih =>
    have hmore : (pages.length : ℤ) < n := by
      have := h.length_pos
      omega
    rw [List.range'_succ, collectPages] at hends
    obtain ⟨t₁, o₁, t₂, rfl, hturn, hrest⟩ := Ends.of_attempt_bind hends
    rw [← List.append_assoc]
    rcases of_ends_collectPage h hmore hturn with ⟨p, rfl, hp⟩ | ⟨e, rfl, he⟩
    · have hlength : (pages ++ [p]).length = pages.length + 1 := by simp
      refine ih hp (by rw [hlength]; push_cast; omega) ?_
      rw [hlength]
      exact hrest
    · obtain ⟨rfl, rfl⟩ := ends_done_iff.mp hrest
      rw [List.append_nil]
      exact ⟨pages, _, rfl, .inr ⟨e, rfl, he⟩⟩

theorem ends_verifyLastPageReached_iff :
    Ends (verifyLastPageReached n) t (.ok ()) ↔ NoNextPage t := by
  rw [verifyLastPageReached, ends_bind_iff]
  constructor
  · rintro (⟨e, -, ho⟩ | ⟨t₁, k, t₂, rfl, hcount, hrest⟩)
    · cases ho
    · obtain rfl := ends_perform_iff.mp hcount
      split at hrest
      · rename_i hk
        obtain ⟨rfl, -⟩ := ends_done_iff.mp hrest
        exact .inl (by rw [hk]; rfl)
      · rename_i hk
        rcases ends_bind_iff.mp hrest with ⟨e, -, ho⟩ | ⟨t₃, classes, t₄, rfl, hclass, hcheck⟩
        · cases ho
        · obtain rfl := ends_perform_iff.mp hclass
          split at hcheck
          · rename_i hdisabled
            obtain ⟨rfl, -⟩ := ends_done_iff.mp hcheck
            exact .inr ⟨k, classes, hk, hdisabled, rfl⟩
          · cases (ends_done_iff.mp hcheck).2
  · rintro (rfl | ⟨k, classes, hk, hdisabled, rfl⟩)
    · exact .inr ⟨[_], 0, [], rfl, ends_perform_iff.mpr rfl, ends_done_iff.mpr ⟨rfl, rfl⟩⟩
    · refine .inr ⟨[_], k, [_], rfl, ends_perform_iff.mpr rfl, ?_⟩
      rw [if_neg hk]
      refine ends_bind_iff.mpr (.inr ⟨[_], classes, [], rfl, ends_perform_iff.mpr rfl, ?_⟩)
      rw [if_pos hdisabled]
      exact ends_done_iff.mpr ⟨rfl, rfl⟩

/-! ## The `try` block -/

theorem ends_readFirstPage_iff {o : Except Exn (String × QueueSnapshot)} :
    Ends (readFirstPage r) t o ↔ (∃ e, Ends (openQueue r) t (.error e) ∧ o = .error e) ∨
      ∃ markup, Ends (openQueue r) t (.ok markup) ∧
        o = (Parser.parseQueuePage r.bs markup.html).map (markup.html, ·) := by
  rw [readFirstPage, ends_bind_iff]
  refine or_congr_right ⟨?_, ?_⟩
  · rintro ⟨t₁, markup, t₂, rfl, hopen, hrest⟩
    refine ⟨markup, ?_⟩
    rcases ends_bind_iff.mp hrest with ⟨e, hparse, rfl⟩ | ⟨t₃, p, t₄, rfl, hparse, hdone⟩
    · obtain ⟨rfl, hresult⟩ := ends_result_iff.mp hparse
      rw [← hresult, List.append_nil]
      exact ⟨hopen, rfl⟩
    · obtain ⟨rfl, hresult⟩ := ends_result_iff.mp hparse
      obtain ⟨rfl, rfl⟩ := ends_done_iff.mp hdone
      rw [← hresult, List.append_nil, List.append_nil]
      exact ⟨hopen, rfl⟩
  · rintro ⟨markup, hopen, rfl⟩
    refine ⟨t, markup, [], by simp, hopen, ends_bind_iff.mpr ?_⟩
    cases hparse : Parser.parseQueuePage r.bs markup.html with
    | error e => exact .inl ⟨e, ends_result_iff.mpr ⟨rfl, rfl⟩, rfl⟩
    | ok p =>
      exact .inr ⟨[], p, [], rfl, ends_result_iff.mpr ⟨rfl, rfl⟩, ends_done_iff.mpr ⟨rfl, rfl⟩⟩

/-- What follows the loop over the pages. -/
def checkLastPage (n : ℤ) (x : List QueueSnapshot × Except Exn Unit) :
    PageCall (List QueueSnapshot × Except Exn Unit) :=
  match x.2 with
  | .error e => pure (x.1, .error e)
  | .ok () => (verifyLastPageReached n).attempt >>= fun o ↦ pure (x.1, o)

/-- **How the `try` block ends.** -/
theorem of_ends_readPages {o : Except Exn (List QueueSnapshot × Except Exn Unit)}
    (hends : Ends (readPages r) t o) : ∃ pages o', o = .ok (pages, o') ∧
      ((o' = .ok () ∧ Completed r t pages) ∨ ∃ e, o' = .error e ∧ Interrupted r t pages e) := by
  obtain ⟨t₁, o₁, t₂, rfl, hfirst, hrest⟩ := Ends.of_attempt_bind hends
  rcases ends_readFirstPage_iff.mp hfirst with ⟨e, hopen, rfl⟩ | ⟨markup, hopen, rfl⟩
  · obtain ⟨rfl, rfl⟩ := ends_done_iff.mp hrest
    rw [List.append_nil]
    exact ⟨[], _, rfl, .inr ⟨e, rfl, .opening hopen⟩⟩
  cases hparse : Parser.parseQueuePage r.bs markup.html with
  | error e =>
    rw [hparse] at hrest
    obtain ⟨rfl, rfl⟩ := ends_done_iff.mp hrest
    rw [List.append_nil]
    exact ⟨[], _, rfl, .inr ⟨e, rfl, .parsingFirst hopen hparse⟩⟩
  | ok p =>
    rw [hparse] at hrest
    dsimp only [Except.map] at hrest
    cases hcount : Parser.parsePageCount r.bs markup.html with
    | error e =>
      rw [hcount] at hrest
      obtain ⟨rfl, rfl⟩ := ends_done_iff.mp hrest
      rw [List.append_nil]
      exact ⟨[p], _, rfl, .inr ⟨e, rfl, .counting hopen hparse hcount⟩⟩
    | ok n =>
      rw [hcount] at hrest
      change Ends (collectPages r [p] (furtherPages n) >>= checkLastPage n) t₂ o at hrest
      have hp : Accepted r t₁ n [p] := .first hopen hparse hcount
      rcases ends_bind_iff.mp hrest with ⟨e, hloop, rfl⟩ | ⟨t₃, x, t₄, rfl, hloop, hcheck⟩
      · obtain ⟨_, _, ho, -⟩ := of_ends_collectPages hp (by simp; omega) hloop
        cases ho
      obtain ⟨pages, o', ho, hcase⟩ := of_ends_collectPages hp (by simp; omega) hloop
      cases ho
      rw [← List.append_assoc]
      rcases hcase with ⟨rfl, hpages, hlength⟩ | ⟨e, rfl, he⟩
      · obtain ⟨t₅, o₅, t₆, rfl, hverify, hdone⟩ := Ends.of_attempt_bind hcheck
        obtain ⟨rfl, rfl⟩ := ends_done_iff.mp hdone
        rw [List.append_nil]
        refine ⟨pages, o₅, rfl, ?_⟩
        cases o₅ with
        | ok u =>
          exact .inl ⟨rfl, _, _, n, rfl, hpages, hlength, ends_verifyLastPageReached_iff.mp hverify⟩
        | error e => exact .inr ⟨e, rfl, .checkingLast hpages hlength hverify⟩
      · obtain ⟨rfl, rfl⟩ := ends_done_iff.mp hcheck
        rw [List.append_nil]
        exact ⟨pages, _, rfl, .inr ⟨e, rfl, he⟩⟩

/-- What is left of the `try` block once some pages have been accepted. -/
theorem Accepted.after (h : Accepted r t n pages) : After (readPages r) t
    (collectPages r pages (List.range' (pages.length + 1) (n.toNat - pages.length)) >>=
      checkLastPage n) := by
  induction h with
  | @first t markup p n hopen hparse hcount =>
    have hfirst : Ends (readFirstPage r) t (.ok (markup.html, p)) :=
      ends_readFirstPage_iff.mpr (.inr ⟨markup, hopen, by rw [hparse]; rfl⟩)
    have hrest := After.attempt_bind (After.nil (readPages r)) hfirst
    dsimp only at hrest
    rw [hcount] at hrest
    exact hrest
  | @next t t' n pages markup p h hmore hshow hparse hfresh ih =>
    have hturn : Ends (collectPage r pages (pages.length + 1)) t' (.ok (pages ++ [p])) := by
      refine ends_collectPage_iff.mpr (.inr ⟨markup, hshow, ?_⟩)
      rw [collected, hparse]
      exact (if_neg (stale_iff.not.mpr hfresh)).symm
    have hlength : (pages ++ [p]).length = pages.length + 1 := by simp
    obtain ⟨k, hk⟩ : ∃ k, n.toNat - pages.length = k + 1 :=
      ⟨n.toNat - pages.length - 1, by omega⟩
    rw [hk, List.range'_succ, collectPages] at ih
    rw [hlength, show n.toNat - (pages.length + 1) = k by omega]
    exact ih.attempt_bind_bind hturn

/-- … and how it then ends, if a turn of the loop raises. -/
theorem Accepted.ends_of_turn (h : Accepted r t n pages) (hmore : (pages.length : ℤ) < n)
    (hturn : Ends (collectPage r pages (pages.length + 1)) t' (.error e)) :
    Ends (readPages r) (t ++ t') (.ok (pages, .error e)) := by
  obtain ⟨k, hk⟩ : ∃ k, n.toNat - pages.length = k + 1 := ⟨n.toNat - pages.length - 1, by omega⟩
  have hafter := h.after
  rw [hk, List.range'_succ, collectPages] at hafter
  rw [← List.append_nil (t ++ t')]
  exact (hafter.attempt_bind_bind hturn).ends (ends_done_iff.mpr ⟨rfl, rfl⟩)

/-- … or if there are no more turns. -/
theorem Accepted.ends_of_last (h : Accepted r t n pages) (hlast : (pages.length : ℤ) = max 1 n)
    {o : Except Exn Unit} (hverify : Ends (verifyLastPageReached n) t' o) :
    Ends (readPages r) (t ++ t') (.ok (pages, o)) := by
  have hafter := h.after
  rw [show n.toNat - pages.length = 0 by omega] at hafter
  exact hafter.ends (ends_attempt_bind_iff.mpr
    ⟨t', o, [], by simp, hverify, ends_done_iff.mpr ⟨rfl, rfl⟩⟩)

/-- A run in which all pages are accepted ends so. -/
theorem Completed.ends (h : Completed r t pages) : Ends (readPages r) t (.ok (pages, .ok ())) := by
  obtain ⟨t₁, t₂, n, rfl, hpages, hlast, hverify⟩ := h
  exact hpages.ends_of_last hlast (ends_verifyLastPageReached_iff.mpr hverify)

/-- A run in which a step raises ends so. -/
theorem Interrupted.ends (h : Interrupted r t pages e) :
    Ends (readPages r) t (.ok (pages, .error e)) := by
  cases h with
  | opening hopen =>
    exact ends_attempt_bind_iff.mpr ⟨t, _, [], by simp,
      ends_readFirstPage_iff.mpr (.inl ⟨e, hopen, rfl⟩), ends_done_iff.mpr ⟨rfl, rfl⟩⟩
  | @parsingFirst _ markup _ hopen hparse =>
    refine ends_attempt_bind_iff.mpr ⟨t, .error e, [], by simp,
      ends_readFirstPage_iff.mpr (.inr ⟨markup, hopen, ?_⟩), ends_done_iff.mpr ⟨rfl, rfl⟩⟩
    rw [hparse]
    rfl
  | @counting _ markup p _ hopen hparse hcount =>
    refine ends_attempt_bind_iff.mpr ⟨t, .ok (markup.html, p), [], by simp,
      ends_readFirstPage_iff.mpr (.inr ⟨markup, hopen, ?_⟩), ?_⟩
    · rw [hparse]
      rfl
    · dsimp only
      rw [hcount]
      exact ends_done_iff.mpr ⟨rfl, rfl⟩
  | showing h hmore hshow =>
    exact h.ends_of_turn hmore (ends_collectPage_iff.mpr (.inl ⟨e, hshow, rfl⟩))
  | parsing h hmore hshow hparse =>
    refine h.ends_of_turn hmore (ends_collectPage_iff.mpr (.inr ⟨_, hshow, ?_⟩))
    rw [collected, hparse]
  | stale h hmore hshow hparse hstale =>
    refine h.ends_of_turn hmore (ends_collectPage_iff.mpr (.inr ⟨_, hshow, ?_⟩))
    rw [collected, hparse]
    exact (if_pos (stale_iff.mpr hstale)).symm
  | checkingLast h hlast hcheck => exact h.ends_of_last hlast hcheck

/-! ## The outcome -/

/-- What the clauses make of the end of the `try` block. -/
def ending (pages : List QueueSnapshot) : Except Exn Unit → Except Exn QueueSnapshot
  | .ok () => .ok (Parser.mergeSnapshots pages)
  | .error (.portalAuthRequiredError message) => .error (.portalAuthRequiredError message)
  | .error (.portalReadError message) => .error (.portalReadError message)
  | .error (.portalPartialReadError message snapshot) =>
    .error (.portalPartialReadError message snapshot)
  | .error e =>
    if e.isException then
      if pages.isEmpty then .error (.portalReadError (incompleteMessage e))
      else .error (.portalPartialReadError (incompleteMessage e) (Parser.mergeSnapshots pages))
    else .error e

theorem readAgreementQueue_eq :
    readAgreementQueue r = (readPages r >>= fun x ↦ result (ending x.1 x.2)) := by
  refine congrArg (readPages r >>= ·) (funext fun ⟨pages, o⟩ ↦ ?_)
  rcases o with e | _
  · cases e <;> dsimp only [ending] <;> (try split_ifs) <;> rfl
  · rfl

/-- What is raised is what is reported. -/
theorem ending_error (pages : List QueueSnapshot) (e : Exn) :
    ∃ e', ending pages (.error e) = .error e' ∧ Reported pages e e' := by
  have hgeneric : ∃ e', (if e.isException then
      if pages.isEmpty then .error (.portalReadError (incompleteMessage e))
      else .error (.portalPartialReadError (incompleteMessage e) (Parser.mergeSnapshots pages))
    else .error e : Except Exn QueueSnapshot) = .error e' ∧ (if e.isException then
      (pages = [] ∧ e' = .portalReadError (incompleteMessage e)) ∨
        pages ≠ [] ∧ ∃ s, IsMerged pages s ∧ e' = .portalPartialReadError (incompleteMessage e) s
    else e' = e) := by
    split
    · cases pages with
      | nil => exact ⟨_, rfl, .inl ⟨rfl, rfl⟩⟩
      | cons p pages =>
        exact ⟨_, rfl, .inr ⟨List.cons_ne_nil _ _, _, isMerged_mergeSnapshots _, rfl⟩⟩
    · exact ⟨e, rfl, rfl⟩
  cases e with
  | portalAuthRequiredError _ => exact ⟨_, rfl, rfl⟩
  | portalReadError _ => exact ⟨_, rfl, rfl⟩
  | portalPartialReadError _ _ => exact ⟨_, rfl, rfl⟩
  | _ => exact hgeneric

end

/-- **How a run ends.**  All pages were accepted, or a step has raised; and every run in which this
happens ends so. -/
theorem ends_readAgreementQueue_iff {Tag : Type} {r : PageReader Tag} {t : List PageEvent}
    {o : Except Exn QueueSnapshot} : Ends (readAgreementQueue r) t o ↔
      (∃ pages, Completed r t pages ∧ o = ending pages (.ok ())) ∨
        ∃ pages e, Interrupted r t pages e ∧ o = ending pages (.error e) := by
  rw [readAgreementQueue_eq, ends_bind_iff]
  constructor
  · rintro (⟨e, hpages, -⟩ | ⟨t₁, x, t₂, rfl, hpages, hresult⟩)
    · obtain ⟨_, _, ho, -⟩ := of_ends_readPages hpages
      cases ho
    · obtain ⟨rfl, rfl⟩ := ends_result_iff.mp hresult
      obtain ⟨pages, o', ho, hcase⟩ := of_ends_readPages hpages
      cases ho
      rw [List.append_nil]
      rcases hcase with ⟨rfl, h⟩ | ⟨e, rfl, h⟩
      · exact .inl ⟨pages, h, rfl⟩
      · exact .inr ⟨pages, e, h, rfl⟩
  · rintro (⟨pages, h, rfl⟩ | ⟨pages, e, h, rfl⟩)
    · exact .inr ⟨t, _, [], by simp, h.ends, ends_result_iff.mpr ⟨rfl, rfl⟩⟩
    · exact .inr ⟨t, _, [], by simp, h.ends, ends_result_iff.mpr ⟨rfl, rfl⟩⟩

theorem Accepted.nodup {Tag : Type} {r : PageReader Tag} {t : List PageEvent} {n : ℤ}
    {pages : List QueueSnapshot} (h : Accepted r t n pages) : ∀ p ∈ pages, (ids p).Nodup := by
  induction h with
  | first hopen hparse hcount =>
    intro q hq
    rw [List.mem_singleton.mp hq]
    exact parseQueuePage_nodup hparse
  | next h hmore hshow hparse hfresh ih =>
    intro q hq
    rcases List.mem_append.mp hq with hq | hq
    · exact ih q hq
    · rw [List.mem_singleton.mp hq]
      exact parseQueuePage_nodup hparse

theorem Interrupted.nodup {Tag : Type} {r : PageReader Tag} {t : List PageEvent}
    {pages : List QueueSnapshot} {e : Exn} (h : Interrupted r t pages e) :
    ∀ p ∈ pages, (ids p).Nodup := by
  cases h with
  | opening hopen => exact fun p hp ↦ (List.not_mem_nil hp).elim
  | parsingFirst hopen hparse => exact fun p hp ↦ (List.not_mem_nil hp).elim
  | counting hopen hparse hcount =>
    intro p hp
    rw [List.mem_singleton.mp hp]
    exact parseQueuePage_nodup hparse
  | showing h hmore hshow => exact h.nodup
  | parsing h hmore hshow hparse => exact h.nodup
  | stale h hmore hshow hparse hstale => exact h.nodup
  | checkingLast h hlast hcheck => exact h.nodup

/-- **Every outcome of a queue read is classified correctly.** -/
theorem queue_classified {Tag : Type} (r : PageReader Tag) {t : List PageEvent}
    {o : Except Exn QueueSnapshot} (h : Ends (readAgreementQueue r) t o) : Classified r t o where
  returns s ho := by
    subst ho
    rcases ends_readAgreementQueue_iff.mp h with ⟨pages, hpages, ho⟩ | ⟨pages, e, he, ho⟩
    · cases ho
      exact ⟨pages, hpages, isMerged_mergeSnapshots pages⟩
    · obtain ⟨e', he', -⟩ := ending_error pages e
      cases ho.trans he'
  completes pages hpages := by
    have hends := ends_readAgreementQueue_iff.mpr (.inl ⟨pages, hpages, rfl⟩)
    exact ⟨_, h.outcome_eq hends, isMerged_mergeSnapshots pages⟩
  raises e' ho := by
    subst ho
    rcases ends_readAgreementQueue_iff.mp h with ⟨pages, hpages, ho⟩ | ⟨pages, e, he, ho⟩
    · cases ho
    · obtain ⟨e'', he'', hreported⟩ := ending_error pages e
      cases ho.trans he''
      exact ⟨pages, e, he, hreported⟩
  interrupts pages e he := by
    have hends := ends_readAgreementQueue_iff.mpr (.inr ⟨pages, e, he, rfl⟩)
    obtain ⟨e', he', hreported⟩ := ending_error pages e
    exact ⟨e', (h.outcome_eq hends).trans he', hreported⟩
  single pages hpages := by
    rcases hpages with ⟨t₁, t₂, n, -, haccepted, -⟩ | ⟨e, he⟩
    · exact haccepted.nodup
    · exact he.nodup

/-! ## Two pages -/

/-- The markup of a page of the queue: the number of pages is 2. -/
def queueMarkup (rows : String) : String :=
  "<div id=\"view_1874\"><select class=\"kn-page-select\"><option value=\"2\"></select>" ++ rows ++
    "</div>"

/-- Beautiful Soup, as it reads the markup of two pages which have a dossier in common. -/
def twoPages : BeautifulSoup String where
  parse html := .ok html
  select tag selector :=
    if selector = "table tbody tr[id]" then
      if tag = queueMarkup "<tr id=\"a\"><tr id=\"b\">" then ["a", "b"] else ["b", "c"]
    else if selector = "option[value]" then ["2"]
    else if selector = "a[href]" ∨ selector = "#view_1874" ∨
      selector = "#view_1874 .kn-page-select" then [tag]
    else []
  get tag name := some (if name = "href" then "#view-dossier-details/" ++ tag else tag)
  getText tag := tag

def twoPagesReader : PageReader String where
  bs := twoPages
  urljoin base href := base ++ href
  startRoute := "https://portal/#dossiers"
  baseUrl := "https://portal/"
  procedureValue := "5ed644a2faf17c0015d8c367"

/-- The portal: whether it displays the second page. -/
def servePages : Server PageRequest.Val Exn Bool
  | .content, _, second =>
    (.ok ⟨queueMarkup
      (if second then "<tr id=\"b\"><tr id=\"c\">" else "<tr id=\"a\"><tr id=\"b\">"), none⟩,
        second)
  | .count _, _, second => (.ok (1 : ℕ), second)
  | .isVisible _, _, second => (.ok true, second)
  | .inputValue _, _, second => (.ok twoPagesReader.procedureValue, second)
  | .selectOption selector value _, _, second =>
    (.ok (), second || decide (selector = pageSelectSelector ∧ value = "2"))
  | .getAttribute _ _, _, second => (.ok (some "kn-change-page kn-next disabled"), second)
  | _, b, second => (b, second)

/-- A run of the reader. -/
def ranPages : List PageEvent × Except Exn QueueSnapshot × Bool :=
  run servePages (fun _ ↦ plainly) (readAgreementQueue twoPagesReader) 0 false

theorem queue_classified_twoPages : ranPages.2.1.toOption.map ids = some ["a", "b", "c"] ∧
    Classified twoPagesReader ranPages.1 ranPages.2.1 :=
  ⟨by decide +kernel, queue_classified twoPagesReader (exec_run ..).ends⟩

end PageReader

end RmaPortal
