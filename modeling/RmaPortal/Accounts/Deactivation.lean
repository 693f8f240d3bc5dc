import RmaPortal.Accounts.Sessions

/-!
# Deactivated users

A session can not be ended by the server, so a user who has been deactivated still holds a token
that is rightly signed.  What keeps them out is that every request looks its user up again.  A
request that has looked its user up before goes on, though.

## What is here

* `Finds` and `find?_of_finds` — a request has looked a user up and found them, as they are.
* `Activates`, `Off`, `Off.step`, `off_setActive` — a user who is deactivated is off, and stays so
  until somebody activates them.  No other request of the site does anything to who is active, and
  no step of a poll does.
* `off_step`, `off_later` — this for a step of all requests together, and for a run: nobody who is
  looked up while the user is off is found to be active.
* `finds_before` — who is found active was found before they were deactivated, if nobody has
  activated them since.
* `deactivated_isOut` — as long as nobody activates a user, whatever is asked for them is asked by
  a request that had looked them up before, and no login lets them in that looks them up
  afterwards.
* `crossed`, `deactivated_isOut_dashboard` — an employee has asked for the dashboard, and an
  administrator has asked to deactivate them; the dashboard is still rendered, because the
  employee was looked up first.
-/

set_option autoImplicit false

open Coroutine

namespace RmaPortal
namespace Site

/-- The user has been looked up and found. -/
def Finds (user : User) : SiteHappening → Prop
  | ⟨.getUser _, .ok (some found)⟩ | ⟨.getByUsername _, .ok (some found)⟩ => found = user
  | _ => False

/-- Who is found is the user as they are. -/
theorem find?_of_finds {site : SiteSettings} {db db' : EmployeeDatabase} {e : SiteHappening}
    {user : User} (h : (siteRules site).step db e.1 e.2 db') (hfinds : Finds user e) :
    db.users.find? user.id = some user := by
  obtain ⟨q, a⟩ := e
  obtain ⟨b, h⟩ := h
  cases q with
  | getUser userId =>
    replace h : SiteRequest.serve site (.getUser userId) b db = (a, db') := h
    rcases a with e | _ | found
    · cases hfinds
    · cases hfinds
    obtain rfl : found = user := hfinds
    cases b with
    | error e => cases h
    | ok b =>
      have hfound : (if 0 ≤ userId then UserRepository.get userId.toNat db else none) =
        some found :=
        Except.ok.inj (congrArg Prod.fst h)
      split at hfound
      · exact Table.find?_of_mem (t := db.users.toTable) (Table.mem_of_find? hfound)
      · cases hfound
  | getByUsername username =>
    replace h : SiteRequest.serve site (.getByUsername username) b db = (a, db') := h
    rcases a with e | _ | found
    · cases hfinds
    · cases hfinds
    obtain rfl : found = user := hfinds
    cases b with
    | error e => cases h
    | ok b =>
      have hfound : db.users.byUsername.find? (site.normalize username) = some found :=
        Except.ok.inj (congrArg Prod.fst h)
      have hmem : found ∈ db.users.rows := Table.mem_of_find? (t := db.users.byUsername) hfound
      exact Table.find?_of_mem (t := db.users.toTable) hmem
  | _ => cases hfinds

/-- A user becomes active. -/
def Activates (id : ℕ) : SiteHappening → Prop
  | ⟨.insertUser _ _, .ok created⟩ => created.id = id
  | ⟨.setActive userId true, .ok ()⟩ => userId = id
  | _ => False

/-- Nobody of this identifier is active. -/
def Off (id : ℕ) (db : EmployeeDatabase) : Prop :=
  ∀ user, db.users.find? id = some user → user.active = false

section

variable {site : SiteSettings} {db db' : EmployeeDatabase} {id : ℕ}

/-- A user who is deactivated is not active … -/
theorem off_setActive (id : ℕ) (db : EmployeeDatabase) :
    Off id (UserRepository.setActive id false db) := by
  intro user huser
  rw [UserRepository.find?_setActive, if_pos rfl] at huser
  obtain ⟨row, -, rfl⟩ := Option.map_eq_some_iff.mp huser
  rfl

/-- … and stays so until they are activated. -/
theorem Off.step (h : Off id db) {e : SiteHappening} (hstep : (siteRules site).step db e.1 e.2 db')
    (he : ¬Activates id e) : Off id db' := by
  intro user huser
  obtain ⟨q, a⟩ := e
  cases users_of_step hstep with
  | added hadded hcreated =>
    rw [hadded.find, if_neg fun hid ↦ he hid.symm] at huser
    exact h user huser
  | activated userId active hdb =>
    rw [hdb, UserRepository.find?_setActive] at huser
    split at huser
    · rename_i hid
      obtain ⟨row, -, rfl⟩ := Option.map_eq_some_iff.mp huser
      cases active with
      | true => exact absurd hid.symm he
      | false => rfl
    · exact h user huser
  | rekeyed userId passwordHash hdb =>
    rw [hdb, UserRepository.find?_setPasswordHash] at huser
    split at huser
    · obtain ⟨row, hrow, rfl⟩ := Option.map_eq_some_iff.mp huser
      exact h row hrow
    · exact h user huser
  | same he hdb =>
    rw [hdb] at huser
    exact h user huser

/-- Whoever is found is not active. -/
theorem Off.finds (h : Off id db) {e : SiteHappening} (hstep : (siteRules site).step db e.1 e.2 db')
    {user : User} (hfinds : Finds user e) (hid : user.id = id) : user.active = false := by
  subst hid
  exact h user (find?_of_finds hstep hfinds)

/-! ## Runs -/

variable {H : Type} {F : PortalReaderFactory H} {requests : ℕ → HttpRequest} {start : Workplace}
  {before after ls : SiteLabels} {l : ℕ × List SiteHappening} {p q : SitePool}

/-- The step of a pool is one request, if it is any. -/
theorem off_step {q' : SitePool} (h : Off id q.state.db)
    (hstep : Pool.Step (workplaceRules site) anywhere (fun _ ↦ True) q l q')
    (hl : ∀ e ∈ l.2, ¬Activates id e) : Off id q'.state.db := by
  obtain ⟨-, hstate⟩ | ⟨task, r, k, a, -, -, hes, hanswer, -⟩ := answer_of_step hstep
  · rwa [hstate]
  · exact h.step hanswer (hl _ (by rw [hes]; exact List.mem_singleton_self _))

/-- Nobody who is looked up while the user is off is found to be active. -/
theorem off_later (hlater : Later site F p ls q) (h : Off id p.state.db)
    (hls : ∀ l ∈ ls, ∀ e ∈ l.2, ¬Activates id e) : Off id q.state.db ∧
      ∀ l ∈ ls, ∀ e ∈ l.2, ∀ user, Finds user e → user.id = id → user.active = false := by
  induction hlater with
  | refl => exact ⟨h, by simp⟩
  | env _ hpoll ih =>
    refine (ih hls).imp_left fun hoff user huser ↦ ?_
    rw [hpoll.users] at huser
    exact hoff user huser
  | @tail q r ls l _ hstep ih =>
    obtain ⟨hoff, hfound⟩ := ih fun m hm ↦ hls m (List.mem_append_left _ hm)
    refine ⟨off_step hoff hstep (hls l (by simp)), fun m hm e he user hfinds hid ↦ ?_⟩
    rcases List.mem_append.mp hm with hm | hm
    · exact hfound m hm e he user hfinds hid
    · obtain rfl := List.mem_singleton.mp hm
      obtain ⟨hnil, -⟩ | ⟨task, r, k, a, -, -, hes, hanswer, -⟩ := answer_of_step hstep
      · simp [hnil] at he
      · rw [hes, List.mem_singleton] at he
        subst he
        exact hoff.finds hanswer hfinds hid

/-- **Who is found active was found before they were deactivated**, if nobody has activated them
since. -/
theorem finds_before (h : IsSiteRun site F requests start (before ++ l :: after) p)
    (hoff : ⟨.setActive id false, .ok ()⟩ ∈ l.2)
    (hkept : ∀ m ∈ after, ∀ e ∈ m.2, ¬Activates id e) {i : ℕ} {e : SiteHappening}
    (he : e ∈ eventsOf (before ++ l :: after) i) {user : User} (hfinds : Finds user e)
    (hid : user.id = id) (hactive : user.active = true) : e ∈ eventsOf before i := by
  obtain ⟨q, q', hq, hstep, -, hafter⟩ := h.split
  rw [eventsOf_append, List.mem_append] at he
  refine he.resolve_right fun hlater ↦ ?_
  obtain ⟨hnil, -⟩ | ⟨task, r, k, a, -, -, hone, hanswer, -⟩ := answer_of_step hstep
  · simp [hnil] at hoff
  rw [hone, List.mem_singleton] at hoff
  cases hoff
  obtain ⟨es, hes, hmem⟩ := mem_eventsOf.mp hlater
  rcases List.mem_cons.mp hes with hl | hes
  · -- the deactivation looks nobody up
    rw [← hl] at hone
    dsimp only at hone
    rw [hone, List.mem_singleton] at hmem
    subst hmem
    exact hfinds
  · have hq' : Off id q'.state.db := by
      cases users_of_step hanswer with
      | activated userId active hdb => exact hdb ▸ off_setActive id q.state.db
      | same hsame => cases hsame
    have := (off_later hafter hq' hkept).2 _ hes e hmem user hfinds hid
    exact Bool.false_ne_true (this.symm.trans hactive)

/-- **A user who has been deactivated is out.**  As long as nobody activates them, whatever is asked
for them is asked by a request that had looked them up before; and whoever is let in by a login had
been looked up before. -/
theorem deactivated_isOut (h : IsSiteRun site F requests start (before ++ l :: after) p)
    (hoff : ⟨.setActive id false, .ok ()⟩ ∈ l.2)
    (hkept : ∀ m ∈ after, ∀ e ∈ m.2, ¬Activates id e) :
    (∀ mid l' after', after = mid ++ l' :: after' → ∀ e ∈ l'.2, e.1.isOpen = false →
      ∃ user, Recognized site (requests l'.1) (eventsOf (before ++ l :: mid) l'.1) user ∧
        Permitted site (requests l'.1) (eventsOf (before ++ l :: mid) l'.1) user e.1 ∧
        (user.id = id → ⟨.getUser id, .ok (some user)⟩ ∈ eventsOf before l'.1)) ∧
    ∀ j user issued, LetIn site (requests j) (eventsOf (before ++ l :: after) j) user issued →
      user.id = id →
        ∃ username, ⟨.getByUsername username, .ok (some user)⟩ ∈ eventsOf before j := by
  constructor
  · rintro mid l' after' rfl e he hguarded
    have h' : IsSiteRun site F requests start ((before ++ l :: mid) ++ l' :: after') p := by
      simpa using h
    obtain hopen | ⟨user, hrecognized, hpermitted⟩ := h'.mayAsk he
    · exact absurd (hguarded.symm.trans hopen) Bool.false_ne_true
    refine ⟨user, hrecognized, hpermitted, fun hid ↦ ?_⟩
    obtain ⟨q, q', hq, -, -, -⟩ := h'.split
    subst hid
    exact finds_before hq hoff (fun m hm ↦ hkept m (List.mem_append_left _ hm)) hrecognized.found
      rfl rfl hrecognized.active
  · intro j user issued hletIn hid
    obtain ⟨username, password, -, hfound, hactive, -⟩ := hletIn.login
    exact ⟨username, finds_before h hoff hkept hfound rfl hid hactive⟩

end

/-- The employee has asked for the dashboard, and the administrator has asked to deactivate them. -/
def crossed : SitePool :=
  served sessionRequests 3 [3, 3] (served sessionRequests 2 [2, 2]
    (served sessionRequests 1 [1, 1]
      (served sessionRequests 0 [0, 0] (Pool.empty (newProcess staffed)))))

theorem exists_crossed : ∃ ls, IsPlainRun sessionRequests (newProcess staffed) ls crossed := by
  obtain ⟨ms, h, -⟩ :=
    exists_served (isPlainRun_empty sessionRequests (newProcess staffed)) [0, 0] (i := 0) rfl
  obtain ⟨ms, h, -⟩ := exists_served h [1, 1] (i := 1) rfl
  obtain ⟨ms, h, -⟩ := exists_served h [2, 2] (i := 2) rfl
  obtain ⟨ms, h, -⟩ := exists_served h [3, 3] (i := 3) rfl
  exact ⟨_, h⟩

/-- The dashboard of an employee who has just been deactivated is still rendered. -/
theorem deactivated_isOut_dashboard : ∃ before l l' p,
    IsPlainRun sessionRequests (newProcess staffed) (before ++ l :: [l']) p ∧
      ⟨.setActive 1 false, .ok ()⟩ ∈ l.2 ∧ ∃ user,
        Recognized plainSite (sessionRequests l'.1) (eventsOf (before ++ [l]) l'.1) user ∧
        (user.id = 1 → ⟨.getUser user.id, .ok (some user)⟩ ∈ eventsOf before l'.1) := by
  obtain ⟨ls, h⟩ := exists_crossed
  have hnext := h.turnsWith atOne [3, 2]
  have hout := (deactivated_isOut hnext
    (show (⟨.setActive 1 false, .ok ()⟩ : SiteHappening) ∈ _ from List.mem_singleton_self _) (by
    rintro _ (_ | ⟨_, ⟨⟩⟩) _ (_ | ⟨_, ⟨⟩⟩)
    exact id)).1 [] _ [] rfl ⟨.getDefault, .ok _⟩ (List.mem_singleton_self _) rfl
  obtain ⟨user, hrecognized, -, hbefore⟩ := hout
  exact ⟨ls, _, _, _, hnext, List.mem_singleton_self _, user, hrecognized, fun hid ↦
    hid ▸ hbefore hid⟩

end Site
end RmaPortal
