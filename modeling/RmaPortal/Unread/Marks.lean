import RmaPortal.Coroutine.Pool
import RmaPortal.Unread.Acknowledging

/-!
# Read marks of acknowledgements that run at once

Any number of requests acknowledge the same dossier for the same employee.  `Marks` says how their
stages and the read marks hang together: until marks are committed a request that looks finds
everything that was unread at the start, and afterwards it finds nothing; the request that has
begun to write holds the write lock; and a request is only refused when another one has written.

`ackProtocol` says that every request of every acknowledgement keeps this.

## What is here

* `MarksCommitted` — some request has committed marks.  Marks are committed all at once, so there
  is no state in which some of them are there and others are not.
* `Marks` — the invariant.  Its parameters are the database that the requests have found, the
  dossier and the employee; its fields tie together what is committed, what the open sessions see,
  and at which stage each request is.
* `Marks.unique` — only one request has ever marked something.  The unique constraint of the table
  would see to it as well, but the second request would then fail; the write lock of SQLite lets
  it wait, or refuses it.
* `Marks.view_eq` — a session that has not marked anything sees what is committed.
* `Marks.move`, `Marks.inserted`, `Marks.committed` — what one request does to the marks: it moves
  on without having marked anything, marks another notification, or commits what it has marked.
* `Marks.keep_enter`, `Marks.keep_select`, `Marks.keep_insert`, `Marks.keep_commit`,
  `Marks.keep_exit` — one lemma for each request, and `ackProtocol`, which puts them together.

Two requests that have both looked before either of them has written both find everything unread,
and the second one to write is refused by the constraint.  `Unread.Harmless` says that this is the
only harm that can be done, and when it is.
-/

set_option autoImplicit false

open Coroutine

namespace RmaPortal

variable {d u : ℕ}

/-! ## What all requests have done -/

/-- Some request has committed marks. -/
def MarksCommitted (θ : ℕ → AckStage) : Prop := ∃ j, (θ j).hasMarked = true

/-- **How stages and marks hang together**, when the requests have found the database `db`. -/
structure Marks (db : EmployeeDatabase) (d u : ℕ) (w : AckState) (θ : ℕ → AckStage) : Prop where
  same : SameOffice db w.db
  /-- Marks are committed all at once. -/
  read : ∀ id, w.db.Read u id ↔ db.Read u id ∨ MarksCommitted θ ∧ id ∈ unreadIds db d u
  /-- A request has found everything, or nothing. -/
  looked : ∀ i s todo, θ i = .looked s todo false →
    todo = unreadIds db d u ∨ todo = [] ∧ MarksCommitted θ
  /-- A request that has committed nothing had nothing to commit. -/
  left : ∀ i s, θ i = .left s false true → unreadIds db d u = [] ∨ MarksCommitted θ
  /-- A request that has marked something holds the write lock, and nothing is committed yet. -/
  writes : ∀ i s todo, θ i = .looked s todo true → ¬MarksCommitted θ ∧
    ∃ db', w.writer = some (s, db') ∧ SameOffice db db' ∧
      ∃ marked, unreadIds db d u = marked ++ todo ∧ ∀ id, db'.Read u id ↔ db.Read u id ∨ id ∈ marked
  /-- The write lock is held by such a request. -/
  writer : ∀ s db', w.writer = some (s, db') → ∃ i todo, θ i = .looked s todo true
  /-- Sessions are not shared. -/
  sessions : ∀ i j s, (θ i).session? = some s → (θ j).session? = some s → i = j
  /-- Sessions are new. -/
  fresh : ∀ i s, (θ i).session? = some s → s < w.nextSession
  /-- Marks are committed once. -/
  once : ∀ i j, (θ i).hasMarked = true → (θ j).hasMarked = true → i = j
  /-- A request that is refused has marked nothing, but another one has. -/
  refused : ∀ i s wrote, θ i = .left s wrote false →
    wrote = false ∧ ∃ j, (θ j).hasWritten = true

namespace Marks

variable {db : EmployeeDatabase} {w : AckState} {θ : ℕ → AckStage}

theorem start (db : EmployeeDatabase) (d u : ℕ) : Marks db d u (.idle db) fun _ ↦ .idle where
  same := ⟨rfl, rfl⟩
  read id := by simp [MarksCommitted, AckStage.hasMarked, AckState.idle]
  looked _ _ _ h := by cases h
  left _ _ h := by cases h
  writes _ _ _ h := by cases h
  writer _ _ h := by cases h
  sessions _ _ _ h := by cases h
  fresh _ _ h := by cases h
  once _ _ h := by cases h
  refused _ _ _ h := by cases h

/-- Who has marked something has marks committed or holds the write lock. -/
theorem written_cases (h : Marks db d u w θ) {i : ℕ} (hi : (θ i).hasWritten = true) :
    (θ i).hasMarked = true ∨ ∃ s todo, θ i = .looked s todo true := by
  cases hq : θ i with
  | idle => rw [hq] at hi; cases hi
  | entered s => rw [hq] at hi; cases hi
  | looked s todo wrote =>
    rw [hq] at hi
    cases hi
    exact .inr ⟨s, todo, rfl⟩
  | left s wrote committed =>
    rw [hq] at hi
    cases hi
    cases committed with
    | true => exact .inl rfl
    | false => cases (h.refused i s true hq).1

/-- **Only one request has ever marked something.** -/
theorem unique (h : Marks db d u w θ) {i j : ℕ} (hi : (θ i).hasWritten = true)
    (hj : (θ j).hasWritten = true) : i = j := by
  rcases h.written_cases hi with hi | ⟨s, todo, hi⟩ <;>
    rcases h.written_cases hj with hj | ⟨s', todo', hj⟩
  · exact h.once i j hi hj
  · exact absurd ⟨i, hi⟩ (h.writes j s' todo' hj).1
  · exact absurd ⟨j, hj⟩ (h.writes i s todo hi).1
  · obtain ⟨-, db₁, hw, -⟩ := h.writes i s todo hi
    obtain ⟨-, db₂, hw', -⟩ := h.writes j s' todo' hj
    obtain ⟨rfl, -⟩ : s = s' ∧ db₁ = db₂ := by simpa [hw] using hw'
    exact h.sessions i j s (by rw [hi]; rfl) (by rw [hj]; rfl)

/-- A session that has not marked anything sees what is committed. -/
theorem view_eq (h : Marks db d u w θ) {i s : ℕ} (hs : (θ i).session? = some s)
    (hi : (θ i).hasWritten = false) : ∀ db', w.writer ≠ some (s, db') := by
  intro db' hw
  obtain ⟨j, todo, hj⟩ := h.writer s db' hw
  obtain rfl := h.sessions i j s hs (by rw [hj]; rfl)
  rw [hj] at hi
  cases hi

end Marks

/-! ## What one request does to the marks -/

theorem marked_update {θ : ℕ → AckStage} {i : ℕ} {q : AckStage}
    (hq : q.hasMarked = (θ i).hasMarked) :
    MarksCommitted (Function.update θ i q) ↔ MarksCommitted θ := by
  refine exists_congr fun j ↦ ?_
  by_cases hj : j = i
  · rw [hj, Function.update_self, hq]
  · rw [Function.update_of_ne hj]

theorem AckStage.hasMarked_of_not_hasWritten {q : AckStage} (h : q.hasWritten = false) :
    q.hasMarked = false := by
  cases q with
  | left s wrote committed => cases h; rfl
  | idle | entered | looked => rfl

namespace Marks

variable {db db' : EmployeeDatabase} {w : AckState} {θ : ℕ → AckStage} {i s id : ℕ} {q : AckStage}
  {todo : List ℕ} {wrote : Bool}

/-- Sessions stay apart when a request moves on in its session, or enters a new one. -/
theorem sessions_update (h : Marks db d u w θ)
    (hq : ∀ s, q.session? = some s → (θ i).session? = some s ∨ s = w.nextSession) (j k s : ℕ)
    (hj : (Function.update θ i q j).session? = some s)
    (hk : (Function.update θ i q k).session? = some s) : j = k := by
  have hnew (j : ℕ) (hj : (θ j).session? = some s) : s ≠ w.nextSession :=
    (h.fresh j s hj).ne
  by_cases hji : j = i <;> by_cases hki : k = i
  · rw [hji, hki]
  · rw [hji, Function.update_self] at hj
    rw [Function.update_of_ne hki] at hk
    rcases hq s hj with hj | rfl
    · exact absurd (h.sessions i k s hj hk) (Ne.symm hki)
    · exact absurd rfl (hnew k hk)
  · rw [Function.update_of_ne hji] at hj
    rw [hki, Function.update_self] at hk
    rcases hq s hk with hk | rfl
    · exact absurd (h.sessions j i s hj hk) hji
    · exact absurd rfl (hnew j hj)
  · rw [Function.update_of_ne hji] at hj
    rw [Function.update_of_ne hki] at hk
    exact h.sessions j k s hj hk

/-- A request that has not marked anything moves on and still has not. -/
theorem move (h : Marks db d u w θ) {n : ℕ} (hn : w.nextSession ≤ n)
    (hsession : ∀ s, q.session? = some s → (θ i).session? = some s ∨ s = w.nextSession ∧ s < n)
    (hbefore : (θ i).hasWritten = false) (hafter : q.hasWritten = false)
    (hlooked : ∀ s todo, q = .looked s todo false →
      todo = unreadIds db d u ∨ todo = [] ∧ MarksCommitted θ)
    (hleft : ∀ s, q = .left s false true → unreadIds db d u = [] ∨ MarksCommitted θ)
    (hrefused : ∀ s wrote, q = .left s wrote false → ∃ j, (θ j).hasWritten = true) :
    Marks db d u { w with nextSession := n } (Function.update θ i q) := by
  have hmarked : MarksCommitted (Function.update θ i q) ↔ MarksCommitted θ := marked_update (by
    rw [AckStage.hasMarked_of_not_hasWritten hafter, AckStage.hasMarked_of_not_hasWritten hbefore])
  have hother (j : ℕ) (hj : (θ j).hasWritten = true) : Function.update θ i q j = θ j := by
    refine Function.update_of_ne ?_ ..
    rintro rfl
    rw [hj] at hbefore
    cases hbefore
  constructor
  case same => exact h.same
  case read => exact fun id ↦ by rw [hmarked]; exact h.read id
  case looked =>
    rw [hmarked]
    exact (Function.forall_update_iff θ fun _ q ↦ ∀ s todo, q = .looked s todo false →
      todo = unreadIds db d u ∨ todo = [] ∧ MarksCommitted θ).mpr ⟨hlooked, fun j _ ↦ h.looked j⟩
  case left =>
    rw [hmarked]
    exact (Function.forall_update_iff θ fun _ q ↦ ∀ s, q = .left s false true →
      unreadIds db d u = [] ∨ MarksCommitted θ).mpr ⟨hleft, fun j _ ↦ h.left j⟩
  case writes =>
    intro j s todo hj
    rw [hmarked]
    by_cases hji : j = i
    · rw [hji, Function.update_self] at hj
      rw [hj] at hafter
      cases hafter
    · rw [Function.update_of_ne hji] at hj
      exact h.writes j s todo hj
  case writer =>
    intro s db' hw
    obtain ⟨j, todo, hj⟩ := h.writer s db' hw
    exact ⟨j, todo, by rw [hother j (by rw [hj]; rfl), hj]⟩
  case sessions =>
    exact h.sessions_update fun s hs ↦ (hsession s hs).imp_right And.left
  case fresh =>
    refine (Function.forall_update_iff θ fun _ q ↦ ∀ s, q.session? = some s → s < n).mpr
      ⟨fun s hs ↦ ?_, fun j _ s hs ↦ (h.fresh j s hs).trans_le hn⟩
    rcases hsession s hs with hs | ⟨-, hs⟩
    · exact (h.fresh i s hs).trans_le hn
    · exact hs
  case once =>
    have hmark (j : ℕ) (hj : (Function.update θ i q j).hasMarked = true) :
        (θ j).hasMarked = true := by
      by_cases hji : j = i
      · rw [hji, Function.update_self, AckStage.hasMarked_of_not_hasWritten hafter] at hj
        cases hj
      · rwa [Function.update_of_ne hji] at hj
    exact fun j k hj hk ↦ h.once j k (hmark j hj) (hmark k hk)
  case refused =>
    have hwritten (hex : ∃ j, (θ j).hasWritten = true) :
        ∃ j, (Function.update θ i q j).hasWritten = true := by
      obtain ⟨j, hj⟩ := hex
      exact ⟨j, by rw [hother j hj, hj]⟩
    refine (Function.forall_update_iff θ fun _ q' ↦ ∀ s wrote, q' = .left s wrote false →
      wrote = false ∧ ∃ j, (Function.update θ i q j).hasWritten = true).mpr
        ⟨fun s wrote hq ↦ ⟨?_, hwritten (hrefused s wrote hq)⟩, fun j _ s wrote hj ↦ ?_⟩
    · rw [hq] at hafter
      exact hafter
    · obtain ⟨hwrote, hex⟩ := h.refused j s wrote hj
      exact ⟨hwrote, hwritten hex⟩

/-- While a session holds the write lock no other request has marked anything. -/
theorem eq_of_looked (h : Marks db d u w θ) (hs : (θ i).session? = some s)
    (hfree : ∀ s' db', w.writer = some (s', db') → s' = s) {j s' : ℕ} {todo : List ℕ}
    (hj : θ j = .looked s' todo true) : j = i := by
  obtain ⟨-, db', hw, -⟩ := h.writes j s' todo hj
  exact h.sessions j i s (by rw [hj, ← hfree s' db' hw]; rfl) hs

/-- A request marks another notification. -/
theorem inserted (h : Marks db d u w θ) (hi : θ i = .looked s (id :: todo) wrote)
    (hfree : ∀ s' db', w.writer = some (s', db') → s' = s) (hnot : ¬MarksCommitted θ)
    (hsame : SameOffice db db') {marked : List ℕ} (hunread : unreadIds db d u = marked ++ todo)
    (hread : ∀ id, db'.Read u id ↔ db.Read u id ∨ id ∈ marked) :
    Marks db d u { w with writer := some (s, db') }
      (Function.update θ i (.looked s todo true)) := by
  have hs : (θ i).session? = some s := by rw [hi]; rfl
  have hmarked : MarksCommitted (Function.update θ i (.looked s todo true)) ↔ MarksCommitted θ :=
    marked_update (by rw [hi]; rfl)
  constructor
  case same => exact h.same
  case read => exact fun id ↦ by rw [hmarked]; exact h.read id
  case looked =>
    rw [hmarked]
    exact (Function.forall_update_iff θ fun _ q ↦ ∀ s todo, q = .looked s todo false →
      todo = unreadIds db d u ∨ todo = [] ∧ MarksCommitted θ).mpr
        ⟨(fun _ _ h ↦ by cases h), fun j _ ↦ h.looked j⟩
  case left =>
    rw [hmarked]
    exact (Function.forall_update_iff θ fun _ q ↦ ∀ s, q = .left s false true →
      unreadIds db d u = [] ∨ MarksCommitted θ).mpr
        ⟨(fun _ h ↦ by cases h), fun j _ ↦ h.left j⟩
  case writes =>
    intro j s' todo' hj
    by_cases hji : j = i
    · rw [hji, Function.update_self] at hj
      cases hj
      exact ⟨mt hmarked.mp hnot, db', rfl, hsame, marked, hunread, hread⟩
    · rw [Function.update_of_ne hji] at hj
      exact absurd (h.eq_of_looked hs hfree hj) hji
  case writer =>
    rintro _ _ ⟨⟩
    exact ⟨i, todo, Function.update_self ..⟩
  case sessions =>
    exact h.sessions_update fun s' hs' ↦ .inl (hs.trans hs')
  case fresh =>
    exact (Function.forall_update_iff θ fun _ q ↦ ∀ s, q.session? = some s → s < w.nextSession).mpr
      ⟨fun s' hs' ↦ h.fresh i s' (hs.trans hs'), fun j _ ↦ h.fresh j⟩
  case once => exact fun j k hj _ ↦ absurd (hmarked.mp ⟨j, hj⟩) hnot
  case refused =>
    refine (Function.forall_update_iff θ fun _ q' ↦ ∀ s' wrote, q' = .left s' wrote false →
      wrote = false ∧ ∃ j, (Function.update θ i (.looked s todo true) j).hasWritten = true).mpr
        ⟨(fun _ _ h ↦ by cases h), fun j _ s' wrote hj ↦ ⟨(h.refused j s' wrote hj).1, i, ?_⟩⟩
    rw [Function.update_self]
    rfl

/-- A request commits what it has marked. -/
theorem committed (h : Marks db d u w θ) (hi : θ i = .looked s [] true)
    (hw : w.writer = some (s, db')) :
    Marks db d u { w with db := db', writer := none }
      (Function.update θ i (.left s true true)) := by
  have hs : (θ i).session? = some s := by rw [hi]; rfl
  have hfree (s' : ℕ) (db₁ : EmployeeDatabase) (hw' : w.writer = some (s', db₁)) : s' = s := by
    rw [hw] at hw'
    cases hw'
    rfl
  obtain ⟨hnot, db₁, hw', hsame, marked, hunread, hread⟩ := h.writes i s [] hi
  obtain rfl : db' = db₁ := by simpa [hw] using hw'
  rw [List.append_nil] at hunread
  have hmarked : MarksCommitted (Function.update θ i (.left s true true)) :=
    ⟨i, by rw [Function.update_self]; rfl⟩
  constructor
  case same => exact hsame
  case read => exact fun id ↦ by rw [hread, hunread, and_iff_right hmarked]
  case looked =>
    intro j s' todo hj
    by_cases hji : j = i
    · rw [hji, Function.update_self] at hj
      cases hj
    · rw [Function.update_of_ne hji] at hj
      exact (h.looked j s' todo hj).imp_right fun hd ↦ absurd hd.2 hnot
  case left => exact fun j s' _ ↦ .inr hmarked
  case writes =>
    intro j s' todo' hj
    by_cases hji : j = i
    · rw [hji, Function.update_self] at hj
      cases hj
    · rw [Function.update_of_ne hji] at hj
      exact absurd (h.eq_of_looked hs hfree hj) hji
  case writer => exact fun _ _ h ↦ by cases h
  case sessions => exact h.sessions_update fun s' hs' ↦ .inl (hs.trans hs')
  case fresh =>
    exact (Function.forall_update_iff θ fun _ q ↦ ∀ s, q.session? = some s → s < w.nextSession).mpr
      ⟨fun s' hs' ↦ h.fresh i s' (hs.trans hs'), fun j _ ↦ h.fresh j⟩
  case once =>
    have honly (j : ℕ) (hj : (Function.update θ i (.left s true true) j).hasMarked = true) :
        j = i := by
      by_contra hji
      rw [Function.update_of_ne hji] at hj
      exact hnot ⟨j, hj⟩
    exact fun j k hj hk ↦ (honly j hj).trans (honly k hk).symm
  case refused =>
    refine (Function.forall_update_iff θ fun _ q' ↦ ∀ s' wrote, q' = .left s' wrote false →
      wrote = false ∧ ∃ j, (Function.update θ i (.left s true true) j).hasWritten = true).mpr
        ⟨(fun _ _ h ↦ by cases h), fun j _ s' wrote hj ↦ ⟨(h.refused j s' wrote hj).1, i, ?_⟩⟩
    rw [Function.update_self]
    rfl

/-! ## Every request keeps the marks -/

section Keep

variable {w w' : AckState} {a : Except Exn Unit}

/-- What a request is about to mark is not marked by itself yet. -/
theorem not_mem_marked {marked : List ℕ} (hunread : unreadIds db d u = marked ++ id :: todo) :
    id ∉ marked := by
  have hnodup := nodup_unreadIds db d u
  rw [hunread, List.nodup_append] at hnodup
  exact fun hid ↦ hnodup.2.2 id hid id (by simp) rfl

/-- What is unread can be marked. -/
theorem exists_mark (hu : (db.users.find? u).isSome) {marked : List ℕ}
    (hunread : unreadIds db d u = marked ++ id :: todo) (hsame : SameOffice db db')
    (hread : ∀ id, db'.Read u id ↔ db.Read u id ∨ id ∈ marked) (row : NotificationRead)
    (hid : row.notificationId = id) (huser : row.userId = u) :
    ∃ db'', db'.insertRead row = .ok db'' ∧ SameOffice db db'' ∧
      ∀ id', db''.Read u id' ↔ db.Read u id' ∨ id' ∈ marked ++ [id] := by
  have hmem : id ∈ unreadIds db d u := by simp [hunread]
  obtain ⟨⟨n, hn, hnid, -⟩, hnot⟩ := mem_unreadIds.mp hmem
  subst hid huser
  have hfound : (db'.notifications.find? row.notificationId).isSome := by
    rw [hsame.notifications, Table.find?_isSome]
    exact List.mem_map.mpr ⟨n, hn, hnid⟩
  have hunmarked : ¬db'.Read row.userId row.notificationId := by
    rw [hread]
    rintro (h | h)
    · exact hnot h
    · exact not_mem_marked hunread h
  obtain ⟨db'', hok, hsame', hread'⟩ :=
    exists_insertRead hfound (by rw [hsame.users]; exact hu) hunmarked
  refine ⟨db'', hok, ⟨hsame'.notifications.trans hsame.notifications,
    hsame'.users.trans hsame.users⟩, fun id' ↦ ?_⟩
  rw [hread', hread, List.mem_append, List.mem_singleton, or_assoc]

theorem keep_insert (hu : (db.users.find? u).isSome) (h : Marks db d u w θ) {row : NotificationRead}
    (hi : θ i = .looked s (row.notificationId :: todo) wrote) (huser : row.userId = u)
    (hstep : ackDatabase.step w (.insert s row) a w') :
    ∃ q, (θ i).after (.insert s row) a = some q ∧ Marks db d u w' (Function.update θ i q) := by
  have hs : (θ i).session? = some s := by rw [hi]; rfl
  obtain ⟨b, hserve⟩ := hstep
  cases wrote with
  | true =>
    -- it goes on marking
    obtain ⟨hnot, db', hw, hsame, marked, hunread, hread⟩ := h.writes i s _ hi
    obtain ⟨db'', hok, hsame', hread'⟩ := exists_mark hu hunread hsame hread row rfl huser
    simp only [AckRequest.serve, hw, if_true, hok] at hserve
    cases hserve
    refine ⟨.looked s todo true, by rw [hi]; rfl, ?_⟩
    refine h.inserted hi (fun s' db₁ hw' ↦ ?_) hnot hsame' (by simpa using hunread) hread'
    rw [hw] at hw'
    cases hw'
    rfl
  | false =>
    have hwritten : (θ i).hasWritten = false := by rw [hi]; rfl
    have htodo : row.notificationId :: todo = unreadIds db d u := by
      rcases h.looked i s _ hi with htodo | ⟨⟨⟩, -⟩
      exact htodo
    -- it may be too late
    have hlate (e : Exn) (hex : ∃ j, (θ j).hasWritten = true) :
        ∃ q, (θ i).after (.insert s row) (.error e) = some q ∧
          Marks db d u w (Function.update θ i q) := by
      refine ⟨.left s false false, by rw [hi]; rfl, ?_⟩
      exact h.move le_rfl (fun s' hs' ↦ .inl (hs.trans hs')) hwritten rfl
        (fun _ _ h ↦ by cases h) (fun _ h ↦ by cases h) fun _ _ _ ↦ hex
    cases hw : w.writer with
    | some p =>
      obtain ⟨s', db₁⟩ := p
      obtain ⟨j, todo', hj⟩ := h.writer s' db₁ hw
      have hne : s' ≠ s := by
        rintro rfl
        exact h.view_eq hs hwritten db₁ hw
      simp only [AckRequest.serve, hw, if_neg hne] at hserve
      cases hserve
      exact hlate _ ⟨j, by rw [hj]; rfl⟩
    | none =>
      by_cases hmarked : MarksCommitted θ
      · have hread : w.db.Read row.userId row.notificationId := by
          rw [huser, h.read, ← htodo]
          exact .inr ⟨hmarked, by simp⟩
        simp only [AckRequest.serve, hw, insertRead_of_read hread] at hserve
        cases hserve
        obtain ⟨j, hj⟩ := hmarked
        refine hlate _ ⟨j, ?_⟩
        cases hwj : (θ j).hasWritten with
        | true => rfl
        | false =>
          rw [AckStage.hasMarked_of_not_hasWritten hwj] at hj
          cases hj
      · have hread (id : ℕ) : w.db.Read u id ↔ db.Read u id ∨ id ∈ ([] : List ℕ) := by
          simp [h.read, hmarked]
        obtain ⟨db'', hok, hsame', hread'⟩ := exists_mark hu htodo.symm h.same hread row rfl huser
        simp only [AckRequest.serve, hw, hok] at hserve
        cases hserve
        refine ⟨.looked s todo true, by rw [hi]; rfl, ?_⟩
        exact h.inserted hi (fun s' db₁ hw' ↦ by rw [hw] at hw'; cases hw') hmarked hsame'
          htodo.symm hread'

theorem keep_select (h : Marks db d u w θ) (hi : θ i = .entered s) {a : Except Exn (List ℕ)}
    (hstep : ackDatabase.step w (.selectUnread s d u) a w') :
    ∃ q, (θ i).after (.selectUnread s d u) a = some q ∧
      Marks db d u w' (Function.update θ i q) := by
  have hs : (θ i).session? = some s := by rw [hi]; rfl
  have hwritten : (θ i).hasWritten = false := by rw [hi]; rfl
  have hview : w.view s = w.db := by
    rw [AckState.view]
    split
    · rename_i s' db' hw
      rw [if_neg]
      rintro rfl
      exact h.view_eq hs hwritten db' hw
    · rfl
  obtain ⟨b, hserve⟩ := hstep
  simp only [AckRequest.serve, hview] at hserve
  cases hserve
  refine ⟨.looked s (unreadIds w.db d u) false, by rw [hi]; rfl, ?_⟩
  refine h.move le_rfl (fun s' hs' ↦ .inl (hs.trans hs')) hwritten rfl ?_
    (fun _ h ↦ by cases h) (fun _ _ h ↦ by cases h)
  rintro _ _ ⟨⟩
  by_cases hmarked : MarksCommitted θ
  · refine .inr ⟨List.eq_nil_iff_forall_not_mem.mpr fun id hid ↦ ?_, hmarked⟩
    obtain ⟨⟨n, hn, hnid, hd⟩, hread⟩ := mem_unreadIds.mp hid
    rw [h.same.notifications] at hn
    rw [h.read, and_iff_right hmarked, not_or] at hread
    exact hread.2 (mem_unreadIds.mpr ⟨⟨n, hn, hnid, hd⟩, hread.1⟩)
  · exact .inl (unreadIds_congr h.same fun id ↦ by simp [h.read, hmarked])

theorem keep_commit (h : Marks db d u w θ) (hi : θ i = .looked s [] wrote)
    (hstep : ackDatabase.step w (.commit s) a w') :
    ∃ q, (θ i).after (.commit s) a = some q ∧ Marks db d u w' (Function.update θ i q) := by
  have hs : (θ i).session? = some s := by rw [hi]; rfl
  obtain ⟨b, hserve⟩ := hstep
  cases wrote with
  | true =>
    obtain ⟨-, db', hw, -⟩ := h.writes i s [] hi
    simp only [AckRequest.serve, hw, if_true] at hserve
    cases hserve
    exact ⟨.left s true true, by rw [hi]; rfl, h.committed hi hw⟩
  | false =>
    have hwritten : (θ i).hasWritten = false := by rw [hi]; rfl
    have hserve' : (a, w') = (.ok (), w) := by
      rw [← hserve]
      simp only [AckRequest.serve]
      split
      · rename_i s' db' hw
        rw [if_neg]
        rintro rfl
        exact h.view_eq hs hwritten db' hw
      · rfl
    cases hserve'
    refine ⟨.left s false true, by rw [hi]; rfl, ?_⟩
    refine h.move le_rfl (fun s' hs' ↦ .inl (hs.trans hs')) hwritten rfl
      (fun _ _ h ↦ by cases h) (fun _ _ ↦ ?_) (fun _ _ h ↦ by cases h)
    rcases h.looked i s [] hi with hnil | ⟨-, hmarked⟩
    · exact .inl hnil.symm
    · exact .inr hmarked

theorem keep_exit (h : Marks db d u w θ) {committed : Bool} (hi : θ i = .left s wrote committed)
    (hstep : ackDatabase.step w (.exit s) a w') :
    ∃ q, (θ i).after (.exit s) a = some q ∧ Marks db d u w' (Function.update θ i q) := by
  obtain ⟨b, hserve⟩ := hstep
  simp only [AckRequest.serve] at hserve
  cases hserve
  refine ⟨θ i, by rw [hi]; rfl, ?_⟩
  have hfilter : (w.writer.filter fun p ↦ decide (p.1 ≠ s)) = w.writer := by
    cases hw : w.writer with
    | none => rfl
    | some p =>
      obtain ⟨j, todo, hj⟩ := h.writer p.1 p.2 hw
      have hne : p.1 ≠ s := by
        rintro rfl
        obtain rfl := h.sessions i j p.1 (by rw [hi]; rfl) (by rw [hj]; rfl)
        rw [hi] at hj
        cases hj
      simp [Option.filter, hne]
  rw [Function.update_eq_self, hfilter]
  exact h

theorem keep_enter (h : Marks db d u w θ) (hi : θ i = .idle) {a : Except Exn ℕ}
    (hstep : ackDatabase.step w .enter a w') :
    ∃ q, (θ i).after .enter a = some q ∧ Marks db d u w' (Function.update θ i q) := by
  obtain ⟨b, hserve⟩ := hstep
  cases hserve
  refine ⟨.entered w.nextSession, by rw [hi]; rfl, ?_⟩
  refine h.move (Nat.le_succ _) ?_ (by rw [hi]; rfl) rfl
    (fun _ _ h ↦ by cases h) (fun _ h ↦ by cases h) (fun _ _ h ↦ by cases h)
  rintro _ ⟨⟩
  exact .inr ⟨rfl, Nat.lt_succ_self _⟩

end Keep

end Marks

/-- **The protocol of acknowledgements**: every request of every program keeps the marks. -/
def ackProtocol {db : EmployeeDatabase} {d u : ℕ} (hu : (db.users.find? u).isSome) :
    Protocol ackDatabase preempted AckStage where
  typestate := acknowledging d u
  start := .idle
  inv := Marks db d u
  turn _ _ := True
  turn_start _ := trivial
  turn_resume _ _ _ _ _ := trivial
  keep w θ i r a w' h _ hpre hstep := by
    suffices ∃ q, (θ i).after r a = some q ∧ Marks db d u w' (Function.update θ i q) by
      obtain ⟨q, hq, hinv⟩ := this
      exact ⟨q, hq, hinv, trivial⟩
    generalize hi : θ i = q at hpre
    rw [← hi]
    cases q with
    | idle =>
      cases r with
      | enter => exact h.keep_enter hi hstep
      | now | selectUnread | insert | commit | exit => exact hpre.elim
    | entered s =>
      cases r with
      | now =>
        obtain ⟨b, hserve⟩ := hstep
        cases hserve
        exact ⟨θ i, by rw [hi]; rfl, by rw [Function.update_eq_self]; exact h⟩
      | selectUnread =>
        obtain ⟨rfl, rfl, rfl⟩ := hpre
        exact h.keep_select hi hstep
      | enter | insert | commit | exit => exact hpre.elim
    | looked s todo wrote =>
      cases r with
      | insert s' row =>
        obtain ⟨rfl, huser, htodo⟩ := hpre
        cases todo with
        | nil => cases htodo
        | cons id todo =>
          cases htodo
          exact h.keep_insert hu hi huser hstep
      | commit =>
        obtain ⟨rfl, rfl⟩ := hpre
        exact h.keep_commit hi hstep
      | enter | now | selectUnread | exit => exact hpre.elim
    | left s wrote committed =>
      cases r with
      | exit =>
        obtain rfl := hpre
        exact h.keep_exit hi hstep
      | enter | now | selectUnread | insert | commit => exact hpre.elim

end RmaPortal
