import RmaPortal.Coroutine.Turns
import RmaPortal.Web.Routes

/-!
# What a request may do

A route first finds out who has sent the request, and what it does then is up to that.  Here this
is said once and for all routes: a request of a route to its surroundings is *open*, which means
that it does not depend on who is there, or it is *permitted* to a user whom the route has
recognized before (`MayAsk`).  `leads_handle` says that every route keeps to it, whatever it is
answered.

To recognize a user takes three things, all of them done by this very route: the session cookie
was decoded, the user was looked up, and the user was active (`Recognized`).

## What is here

* `onBehalfOf`, `isOpen`, `isAdministration`, `isReading` — the requests of a site, sorted by what
  they are about.  Every request is listed in each of them, so a new one can not be forgotten.
* `Asks` — a form asks for a change: which request belongs to which form, with the values that the
  form has.  A note carries the text of the form and the name of the user, a mark the user, and a
  row of `dossier_work` the row that has been read and the status of the form.
* `Permitted`, `MayAsk` — what a user may do, and what a route may ask by what has happened so
  far.  An employee writes in their own name only, and only administrators ask what is about
  accounts.
* `audit` — this as the typestate of a single request: the state is the list of what has been
  answered.
* `leads_getCurrentUser`, `leads_requireUser`, `leads_requireAdmin` — the dependencies that the
  routes are declared with.
* `ForUser` — a program that may be run once its user is recognized.  It is closed under
  everything a route is made of (`forUser_next`, `forUser_bind`, `forUser_attempt`), under the
  check of the origin (`forUser_sameOrigin`) and under the hashing of a password.
* One lemma for every service and every route.  `POST /refresh` and `POST /session/connect` are
  routes like any other here: the first one waits for a synchronization, and is still bound by the
  user that it has looked up before.
* `leads_handle` — every route, and a path that no route is declared for.

The module says nothing about runs; `IsSiteRun.mayAsk` carries it over to them.
-/

set_option autoImplicit false

open Coroutine

namespace RmaPortal

/-! ## Requests by what they are about -/

namespace SiteRequest

/-- The employee in whose name something is asked. -/
def onBehalfOf : SiteRequest → Option ℕ
  | .listForDashboard userId | .getUnread _ userId | .insertReads userId _ _ => some userId
  | .insertWork row => row.updatedBy
  | .updateWork _ current => current.updatedBy
  | .insertNote _ authorId _ _ => some authorId
  | _ => none

/-- What anybody may ask. -/
def isOpen : SiteRequest → Bool
  | .time | .now | .salt | .getByUsername _ | .getUser _ => true
  | _ => false

/-- What only administrators may ask. -/
def isAdministration : SiteRequest → Bool
  | .insertUser _ _ | .setActive _ _ | .setPasswordHash _ _ => true
  | _ => false

/-- What only looks. -/
def isReading (q : SiteRequest) : Bool := !q.isWrite && !q.isChange

theorem isChange_of_isReading {q : SiteRequest} (h : q.isReading = true) : q.isChange = false := by
  cases q <;> first | rfl | cases h

theorem isChange_of_isAdministration {q : SiteRequest} (h : q.isAdministration = true) :
    q.isChange = true := by
  cases q <;> first | rfl | exact absurd h Bool.false_ne_true

end SiteRequest

namespace Site

variable (site : SiteSettings)

/-- A hash of the password that the site may have made. -/
def IsHash (password passwordHash : String) : Prop :=
  ∃ salt, Passwords.hashPassword site.argon2 salt password = .ok passwordHash

/-- What a route does for a user, by what it has read so far, is what its form says. -/
def Asks (h : List SiteHappening) (acting : User) : Route → SiteRequest → Prop
  | .createUser username displayName password role, .insertUser user _ =>
    user.username = site.normalize username ∧ user.displayName = displayName ∧
      IsHash site password user.passwordHash ∧ parseRole role = .ok user.role ∧ user.active = true
  | .toggleActive userId active, .setActive id b => id = userId ∧ b = decide (active = "1")
  | .resetPassword userId password, .setPasswordHash id passwordHash =>
    id = userId ∧ IsHash site password passwordHash
  | .dossierDetail dossierId, .insertReads _ unreadIds _ =>
    ⟨.getUnread dossierId acting.id, .ok unreadIds⟩ ∈ h
  | .updateStatus dossierId status _, .insertWork row =>
    ⟨.getWork dossierId, .ok none⟩ ∈ h ∧ ∃ parsed now, parseWorkStatus status = .ok parsed ∧
      row = SqlAlchemyDossierWorkRepository.newRow dossierId parsed acting.id now
  | .updateStatus dossierId status expectedVersion, .updateWork loaded current =>
    ⟨.getWork dossierId, .ok (some loaded)⟩ ∈ h ∧ ∃ parsed version now,
      parseWorkStatus status = .ok parsed ∧ parseVersion expectedVersion = .ok version ∧
      (∀ expected, version = some expected → expected = loaded.version) ∧
      current = SqlAlchemyDossierWorkRepository.nextRow parsed acting.id now loaded
  | .addNote dossierId body, .insertNote id _ text _ => id = dossierId ∧ text = Text.strip body
  | .refresh _, .execute => True
  | .connectSession, .startConnection => True
  | _, q => q.isReading = true

/-! ### Which form asks for what -/

section

variable {site} {h : List SiteHappening} {acting : User} {route : Route}

theorem Asks.insertUser {user : User} {seenAt : Datetime}
    (hasks : Asks site h acting route (.insertUser user seenAt)) :
    ∃ username displayName password role, route = .createUser username displayName password role ∧
      user.username = site.normalize username ∧ user.displayName = displayName ∧
      IsHash site password user.passwordHash ∧ parseRole role = .ok user.role ∧
      user.active = true := by
  cases route with
  | createUser username displayName password role =>
    exact ⟨username, displayName, password, role, rfl, hasks⟩
  | _ => cases hasks

theorem Asks.setActive {id : ℕ} {b : Bool} (hasks : Asks site h acting route (.setActive id b)) :
    ∃ active, route = .toggleActive id active ∧ b = decide (active = "1") := by
  cases route with
  | toggleActive userId active =>
    obtain ⟨rfl, hb⟩ := hasks
    exact ⟨active, rfl, hb⟩
  | _ => cases hasks

theorem Asks.setPasswordHash {id : ℕ} {passwordHash : String}
    (hasks : Asks site h acting route (.setPasswordHash id passwordHash)) :
    ∃ password, route = .resetPassword id password ∧ IsHash site password passwordHash := by
  cases route with
  | resetPassword userId password =>
    obtain ⟨rfl, hhash⟩ := hasks
    exact ⟨password, rfl, hhash⟩
  | _ => cases hasks

theorem Asks.insertReads {userId : ℕ} {unreadIds : List ℕ} {seenAt : Datetime}
    (hasks : Asks site h acting route (.insertReads userId unreadIds seenAt)) :
    ∃ dossierId, route = .dossierDetail dossierId ∧
      ⟨.getUnread dossierId acting.id, .ok unreadIds⟩ ∈ h := by
  cases route with
  | dossierDetail dossierId => exact ⟨dossierId, rfl, hasks⟩
  | _ => cases hasks

theorem Asks.updateWork {loaded current : DossierWork}
    (hasks : Asks site h acting route (.updateWork loaded current)) :
    ∃ dossierId status expectedVersion, route = .updateStatus dossierId status expectedVersion ∧
      ⟨.getWork dossierId, .ok (some loaded)⟩ ∈ h ∧ ∃ parsed version now,
        parseWorkStatus status = .ok parsed ∧ parseVersion expectedVersion = .ok version ∧
        (∀ expected, version = some expected → expected = loaded.version) ∧
        current = SqlAlchemyDossierWorkRepository.nextRow parsed acting.id now loaded := by
  cases route with
  | updateStatus dossierId status expectedVersion =>
    exact ⟨dossierId, status, expectedVersion, rfl, hasks⟩
  | _ => cases hasks

end

/-! ## Who is there -/

/-- By what has happened so far, the request was sent by an active user. -/
structure Recognized (r : HttpRequest) (h : List SiteHappening) (user : User) : Prop where
  session : ∃ token now, r.cookie = some token ∧ ⟨.time, .ok now⟩ ∈ h ∧
    site.codec.decode token now = .ok (some (user.id : ℤ))
  found : ⟨.getUser user.id, .ok (some user)⟩ ∈ h
  active : user.active = true

/-- What a user may do. -/
structure Permitted (r : HttpRequest) (h : List SiteHappening) (user : User) (q : SiteRequest) :
    Prop where
  self : ∀ id, q.onBehalfOf = some id → id = user.id
  admin : q.isAdministration = true → user.role = .admin
  sameOrigin : q.isChange = true → r.origin = some r.url
  notSelf : q ≠ .setActive user.id false
  asked : Asks site h user r.route q

/-- What a route may ask, by what has happened so far. -/
def MayAsk (r : HttpRequest) (h : List SiteHappening) (q : SiteRequest) : Prop :=
  q.isOpen = true ∨ ∃ user, Recognized site r h user ∧ Permitted site r h user q

/-- Who is looked up is found, if anybody. -/
def Answered : SiteHappening → Prop
  | ⟨.getUser userId, .ok (some user)⟩ => (user.id : ℤ) = userId
  | _ => True

/-- The rules of a single request. -/
abbrev audit (r : HttpRequest) : Spec SiteRequest.Val Exn (List SiteHappening) :=
  trail Answered (MayAsk site r)

section

variable {site} {r : HttpRequest} {h h' : List SiteHappening} {user : User}

theorem Recognized.append (hr : Recognized site r h user) (t : List SiteHappening) :
    Recognized site r (h ++ t) user := by
  obtain ⟨⟨token, now, hcookie, htime, hdecode⟩, hfound, hactive⟩ := hr
  exact ⟨⟨token, now, hcookie, List.mem_append_left t htime, hdecode⟩,
    List.mem_append_left t hfound, hactive⟩

/-- Ask something that anybody may ask, and go on. -/
theorem leads_open {α : Type} {q : SiteRequest} {f : q.Val → SiteProg α}
    {R : Except Exn α → List SiteHappening → Prop} (hq : q.isOpen = true)
    (hok : ∀ a, Answered ⟨q, .ok a⟩ → Leads (audit site r) (f a) (h ++ [⟨q, .ok a⟩]) R)
    (herr : ∀ e, R (.error e) (h ++ [⟨q, .error e⟩])) :
    Leads (audit site r) (askSite q >>= f) h R := by
  refine leads_ask (.inl hq) ?_ ?_
  · rintro a _ ⟨hanswered, rfl⟩
    exact hok a hanswered
  · rintro e _ ⟨-, rfl⟩
    exact herr e

/-! ## Finding out who is there -/

theorem leads_decode (token : String) : Leads (audit site r) (decode site token) h fun o h' ↦
    (∃ t, h' = h ++ t) ∧ ∀ userId, o = .ok (some userId) →
      ∃ now, ⟨.time, .ok now⟩ ∈ h' ∧ site.codec.decode token now = .ok (some userId) := by
  unfold decode
  split
  · exact sat_pure ⟨⟨[], by simp⟩, by simp⟩
  · refine leads_open rfl (fun now _ ↦ ?_) fun e ↦ ⟨⟨_, rfl⟩, by simp⟩
    exact ⟨⟨_, rfl⟩, fun userId ho ↦ ⟨now, by simp, ho⟩⟩

/-- The current user has been recognized. -/
theorem leads_getCurrentUser : Leads (audit site r) (getCurrentUser site r) h fun o h' ↦
    (∃ t, h' = h ++ t) ∧ ∀ user, o = .ok (some user) → Recognized site r h' user := by
  unfold getCurrentUser
  split
  · exact sat_pure ⟨⟨[], by simp⟩, by simp⟩
  rename_i token hcookie
  split
  · exact sat_pure ⟨⟨[], by simp⟩, by simp⟩
  refine leads_bind (leads_decode token) ?_ fun e _ h ↦ ⟨h.1, by simp⟩
  rintro (_ | userId) _ ⟨⟨t, rfl⟩, hdecode⟩
  · exact sat_pure ⟨⟨t, rfl⟩, by simp⟩
  obtain ⟨now, htime, hdecode⟩ := hdecode userId rfl
  refine leads_open rfl ?_ fun e ↦ ⟨⟨_, List.append_assoc ..⟩, by simp⟩
  rintro (_ | user) hanswered
  · exact sat_pure ⟨⟨_, List.append_assoc ..⟩, by simp⟩
  · refine sat_pure ⟨⟨_, List.append_assoc ..⟩, fun user' huser ↦ ?_⟩
    have hid : (user.id : ℤ) = userId := hanswered
    subst hid
    cases hactive : user.active with
    | false => simp [hactive] at huser
    | true =>
      obtain rfl : user = user' := by simpa [hactive] using huser
      exact ⟨⟨token, now, hcookie, List.mem_append_left _ htime, hdecode⟩, by simp, hactive⟩

theorem leads_requireUser : Leads (audit site r) (requireUser site r) h fun o h' ↦
    ∀ user, o = .ok user → Recognized site r h' user := by
  refine leads_bind leads_getCurrentUser ?_ fun e _ _ ↦ by simp
  rintro (_ | user) _ ⟨-, hrecognized⟩
  · exact sat_throw (by simp)
  · refine sat_pure ?_
    rintro _ ⟨⟩
    exact hrecognized user rfl

theorem leads_requireAdmin : Leads (audit site r) (requireAdmin site r) h fun o h' ↦
    ∀ user, o = .ok user → Recognized site r h' user ∧ user.role = .admin := by
  refine leads_bind leads_requireUser ?_ fun e _ _ ↦ by simp
  intro user _ hrecognized
  split
  · exact sat_throw (by simp)
  · rename_i hrole
    refine sat_pure ?_
    rintro _ ⟨⟩
    exact ⟨hrecognized user rfl, by simpa using hrole⟩

/-! ## What follows -/

/-- A program that may be run for a user, once they are recognized. -/
structure ForUser {α : Type} (site : SiteSettings) (r : HttpRequest) (user : User)
    (c : SiteProg α) : Prop where
  leads : ∀ h, Recognized site r h user → Leads (audit site r) c h fun _ _ ↦ True

theorem forUser_done {α : Type} (o : Except Exn α) : ForUser site r user (.done o : SiteProg α) :=
  ⟨fun _ _ ↦ trivial⟩

/-- Ask what the user may ask, and go on. -/
theorem forUser_ask {α : Type} {q : SiteRequest} {f : q.Val → SiteProg α}
    (hq : ∀ h, q.isOpen = true ∨ Permitted site r h user q)
    (hf : ∀ a, ForUser site r user (f a)) : ForUser site r user (askSite q >>= f) := by
  refine ⟨fun h hr ↦ leads_ask ((hq h).imp id fun hq ↦ ⟨user, hr, hq⟩) ?_ fun _ _ _ ↦ trivial⟩
  rintro a _ ⟨-, rfl⟩
  exact (hf a).leads _ (hr.append _)

/-- … and do no more. -/
theorem forUser_perform {q : SiteRequest} (hq : ∀ h, q.isOpen = true ∨ Permitted site r h user q) :
    ForUser site r user (askSite q) :=
  ⟨fun h hr ↦ sat_perform ((hq h).imp id fun hq ↦ ⟨user, hr, hq⟩) fun _ _ _ ↦ trivial⟩

theorem forUser_next {α β : Type} {c : SiteProg α} {f : Except Exn α → SiteProg β}
    (hc : ForUser site r user c) (hf : ∀ o, ForUser site r user (f o)) :
    ForUser site r user (c.next f) := by
  refine ⟨fun h hr ↦ sat_next (hc.leads h hr).path fun t o h' hpath ↦ ?_⟩
  obtain ⟨rfl, -⟩ := path_trail hpath.2
  exact ((hf o).leads _ (hr.append t)).mono fun _ _ _ _ ↦ trivial

theorem forUser_bind {α β : Type} {c : SiteProg α} {f : α → SiteProg β}
    (hc : ForUser site r user c) (hf : ∀ a, ForUser site r user (f a)) :
    ForUser site r user (c >>= f) :=
  forUser_next hc fun
    | .ok a => hf a
    | .error _ => forUser_done _

theorem forUser_attempt {α : Type} {c : SiteProg α} (hc : ForUser site r user c) :
    ForUser site r user c.attempt :=
  forUser_next hc fun _ ↦ forUser_done _

/-- A route that is for employees. -/
theorem leads_ofUser {f : User → SiteProg Response}
    (hf : ∀ user, ForUser site r user (f user)) :
    Leads (audit site r) (requireUser site r >>= f) h fun _ _ ↦ True :=
  leads_bind leads_requireUser (fun user _ h ↦ (hf user).leads _ (h user rfl)) fun _ _ _ ↦ trivial

/-- A route that is for administrators. -/
theorem leads_ofAdmin {f : User → SiteProg Response}
    (hf : ∀ user, user.role = .admin → ForUser site r user (f user)) :
    Leads (audit site r) (requireAdmin site r >>= f) h fun _ _ ↦ True :=
  leads_bind leads_requireAdmin
    (fun user _ h ↦ (hf user (h user rfl).2).leads _ (h user rfl).1) fun _ _ _ ↦ trivial

/-- A program that goes on only if the request comes from a page of the site. -/
theorem forUser_sameOrigin {α : Type} {f : SiteProg α}
    (hf : r.origin = some r.url → ForUser site r user f) :
    ForUser site r user (checkSameOrigin r >>= fun _ ↦ f) := by
  unfold checkSameOrigin
  split
  · exact forUser_done _
  rename_i origin horigin
  split
  · exact forUser_done _
  · rename_i hsame
    exact hf (by rw [horigin, not_not.mp hsame])

theorem forUser_value {α β : Type} {x : Except Exn α} {f : α → SiteProg β}
    (hf : ∀ a, x = .ok a → ForUser site r user (f a)) :
    ForUser site r user (.done x >>= f) := by
  cases x with
  | error e => exact forUser_done _
  | ok a => exact hf a rfl

/-- A program that goes on with the hash of a password. -/
theorem forUser_hash {α : Type} {password : String} {f : String → SiteProg α}
    (hf : ∀ passwordHash, IsHash site password passwordHash →
      ForUser site r user (f passwordHash)) :
    ForUser site r user (AccountService.hash site password >>= f) := by
  refine ⟨fun h hr ↦ leads_bind (R := fun o h' ↦ ∀ passwordHash, o = .ok passwordHash →
      Recognized site r h' user ∧ IsHash site password passwordHash)
    (leads_open rfl (fun salt _ ↦ ?_) fun _ ↦ by simp) ?_ fun _ _ _ ↦ trivial⟩
  · exact fun passwordHash hhash ↦ ⟨hr.append _, salt, hhash⟩
  · intro passwordHash h' hhash
    obtain ⟨hr', hhash⟩ := hhash passwordHash rfl
    exact (hf passwordHash hhash).leads h' hr'

/-! ## Every route -/

theorem asks_of_isReading {route : Route} {q : SiteRequest} (hq : q.isReading = true) :
    Asks site h user route q := by
  unfold Asks
  split
  case h_10 => exact hq
  all_goals cases hq

/-- What only reads is permitted to a user who asks for themself. -/
theorem permitted_reading {q : SiteRequest} (hq : q.isReading = true)
    (hself : ∀ id, q.onBehalfOf = some id → id = user.id) : Permitted site r h user q where
  self := hself
  admin hadmin := by
    have hchange := SiteRequest.isChange_of_isReading hq
    rw [SiteRequest.isChange_of_isAdministration hadmin] at hchange
    cases hchange
  sameOrigin hchange := by
    rw [SiteRequest.isChange_of_isReading hq] at hchange
    cases hchange
  notSelf hq' := by
    subst hq'
    cases hq
  asked := asks_of_isReading hq

/-- Ask what only reads, and go on. -/
theorem forUser_read {α : Type} {q : SiteRequest} {f : q.Val → SiteProg α} (hq : q.isReading = true)
    (hbehalf : q.onBehalfOf = none) (hf : ∀ a, ForUser site r user (f a)) :
    ForUser site r user (askSite q >>= f) :=
  forUser_ask
    (fun _ ↦ .inr (permitted_reading hq fun id hid ↦ by rw [hbehalf] at hid; cases hid)) hf

theorem forUser_renderUsers (error : Option String) :
    ForUser site r user (renderUsers user error) :=
  forUser_read rfl rfl fun _ ↦ forUser_done _

theorem forUser_getDossier (dossierId : ℕ) :
    ForUser site r user (DossierService.getDossier dossierId) :=
  forUser_read rfl rfl fun
    | none => forUser_done _
    | some _ => forUser_read rfl rfl fun _ ↦ forUser_read rfl rfl fun _ ↦ forUser_done _

theorem forUser_createUser {username displayName password role : String}
    (hroute : r.route = .createUser username displayName password role)
    (hadmin : user.role = .admin)
    (horigin : r.origin = some r.url) {parsed : Role} (hrole : parseRole role = .ok parsed) :
    ForUser site r user
      (AccountService.createUser site username displayName password parsed) := by
  refine forUser_ask (fun _ ↦ .inl rfl) fun now ↦ forUser_hash fun passwordHash hhash ↦ ?_
  refine forUser_ask (fun _ ↦ .inl rfl) fun found ↦ ?_
  cases found with
  | some other => exact forUser_done _
  | none =>
    refine forUser_perform fun h ↦ .inr ⟨nofun, fun _ ↦ hadmin, fun _ ↦ horigin, nofun, ?_⟩
    rw [hroute]
    exact ⟨rfl, rfl, hhash, hrole, rfl⟩

/-- What is marked as read has been found to be unread before. -/
theorem forUser_acknowledge {dossierId : ℕ} (hroute : r.route = .dossierDetail dossierId) :
    ForUser site r user (DossierService.acknowledge dossierId user.id) := by
  refine forUser_ask (fun _ ↦ .inl rfl) fun now ↦ ⟨fun h hr ↦ ?_⟩
  refine leads_ask (.inr ⟨user, hr, permitted_reading rfl ?_⟩) ?_ fun _ _ _ ↦ trivial
  · rintro _ ⟨⟩
    rfl
  rintro unreadIds _ ⟨-, rfl⟩
  refine sat_perform (.inr ⟨user, hr.append _, ?_, nofun, nofun, nofun, ?_⟩) fun _ _ _ ↦ trivial
  · rintro _ ⟨⟩
    rfl
  · rw [hroute]
    exact List.mem_append_right _ (List.mem_singleton_self _)

/-- A row that is written has been read before. -/
theorem forUser_updateWorkStatus {dossierId : ℕ} {status expectedVersion : String}
    (hroute : r.route = .updateStatus dossierId status expectedVersion)
    (horigin : r.origin = some r.url) {parsed : WorkStatus}
    (hstatus : parseWorkStatus status = .ok parsed)
    {version : Option ℤ} (hversion : parseVersion expectedVersion = .ok version) :
    ForUser site r user
      (DossierService.updateWorkStatus ⟨dossierId, parsed, version, user.id⟩) := by
  refine forUser_ask (fun _ ↦ .inl rfl) fun now ↦ ⟨fun h hr ↦ ?_⟩
  refine leads_ask (.inr ⟨user, hr, permitted_reading rfl nofun⟩) ?_ fun _ _ _ ↦ trivial
  rintro found _ ⟨-, rfl⟩
  have hread : (⟨.getWork dossierId, .ok found⟩ : SiteHappening) ∈
      h ++ [⟨.getWork dossierId, .ok found⟩] := by simp
  cases found with
  | none =>
    refine leads_ask (.inr ⟨user, hr.append _, ?_, nofun, fun _ ↦ horigin, nofun, ?_⟩)
      (fun _ _ _ ↦ sat_pure trivial) fun _ _ _ ↦ trivial
    · rintro _ ⟨⟩
      rfl
    · rw [hroute]
      exact ⟨hread, parsed, now, hstatus, rfl⟩
  | some row =>
    dsimp only
    split
    · exact sat_throw trivial
    rename_i hexpected
    refine leads_ask (.inr ⟨user, hr.append _, ?_, nofun, fun _ ↦ horigin, nofun, ?_⟩)
      (fun _ _ _ ↦ sat_pure trivial) fun _ _ _ ↦ trivial
    · rintro _ ⟨⟩
      rfl
    · rw [hroute]
      refine ⟨hread, parsed, version, now, hstatus, hversion, ?_, rfl⟩
      rintro expected rfl
      simpa using hexpected

theorem forUser_addNote {dossierId : ℕ} {body : String} (hroute : r.route = .addNote dossierId body)
    (horigin : r.origin = some r.url) :
    ForUser site r user (DossierService.addNote dossierId user.id body) := by
  unfold DossierService.addNote
  dsimp only
  split
  · exact forUser_done _
  split
  · exact forUser_done _
  refine forUser_ask (fun _ ↦ .inl rfl) fun now ↦ forUser_perform fun h ↦
    .inr ⟨?_, nofun, fun _ ↦ horigin, nofun, ?_⟩
  · rintro _ ⟨⟩
    rfl
  · rw [hroute]
    exact ⟨rfl, rfl⟩

theorem forUser_renderConflict (dossierId : ℕ) :
    ForUser site r user (renderConflict r user dossierId) := by
  unfold renderConflict
  split
  · exact forUser_done _
  refine forUser_bind (forUser_attempt (forUser_getDossier dossierId)) fun o ↦ ?_
  cases o with
  | ok found => exact forUser_done _
  | error e =>
    dsimp only
    split
    · exact forUser_done _
    · exact forUser_done _

theorem forUser_renderNotesSection (dossierId : ℕ) (message messageClass : String) :
    ForUser site r user (renderNotesSection user dossierId message messageClass) :=
  forUser_bind (forUser_getDossier dossierId) fun _ ↦ forUser_read rfl rfl fun _ ↦ forUser_done _

theorem leads_loginForm : Leads (audit site r) (loginForm site r) h fun _ _ ↦ True := by
  refine leads_bind leads_getCurrentUser (fun user _ _ ↦ ?_) fun _ _ _ ↦ trivial
  cases user with
  | none => exact sat_pure trivial
  | some user => exact sat_pure trivial

theorem leads_loginSubmit {username password : String} :
    Leads (audit site r) (loginSubmit site username password) h fun _ _ ↦ True := by
  refine leads_bind (R := fun _ _ ↦ True) (leads_open rfl (fun found _ ↦ ?_) fun _ ↦ trivial)
    (fun user _ _ ↦ ?_) fun _ _ _ ↦ trivial
  · cases found with
    | none => exact sat_pure trivial
    | some user =>
      dsimp only
      split
      · exact sat_pure trivial
      · split
        · exact sat_pure trivial
        · exact sat_pure trivial
  · cases user with
    | none => exact sat_pure trivial
    | some user => exact leads_open rfl (fun _ _ ↦ sat_pure trivial) fun _ ↦ trivial

theorem forUser_buildSessionView (account : Option PortalAccount) :
    ForUser site r user (buildSessionView account) := by
  refine forUser_bind (forUser_read rfl rfl fun isActive ↦ ?_) fun state ↦
    forUser_read rfl rfl fun syncing ↦ forUser_done _
  split
  · exact forUser_done _
  · refine forUser_read rfl rfl fun isVerifying ↦ ?_
    split <;> exact forUser_done _

theorem forUser_renderDashboard (query : DashboardParams) (fragment : Bool) :
    ForUser site r user (renderDashboard site user query fragment) := by
  refine forUser_value fun filters _ ↦ forUser_read rfl rfl fun account ↦ ?_
  refine forUser_ask (fun _ ↦ .inr (permitted_reading rfl ?_)) fun rows ↦
    forUser_bind (forUser_buildSessionView account) fun session ↦ forUser_done _
  rintro _ ⟨⟩
  rfl

theorem leads_dashboard {query : DashboardParams} :
    Leads (audit site r) (dashboard site r query) h fun _ _ ↦ True :=
  leads_ofUser fun _ ↦ forUser_renderDashboard query r.htmx

/-- Whoever refreshes waits for a synchronization. -/
theorem leads_manualRefresh {query : DashboardParams} (hroute : r.route = .refresh query) :
    Leads (audit site r) (manualRefresh site r query) h fun _ _ ↦ True := by
  refine leads_ofUser fun user ↦ forUser_sameOrigin fun horigin ↦
    forUser_bind (forUser_bind (forUser_attempt (forUser_perform fun _ ↦ .inr ?_)) fun o ↦ ?_)
      fun _ ↦ forUser_renderDashboard query true
  · exact ⟨nofun, nofun, fun _ ↦ horigin, nofun, by rw [hroute]; trivial⟩
  · cases o with
    | ok result => exact forUser_done _
    | error e =>
      dsimp only
      split <;> exact forUser_done _

theorem leads_connectSession (hroute : r.route = .connectSession) :
    Leads (audit site r) (connectSession site r) h fun _ _ ↦ True := by
  refine leads_ofUser fun user ↦ forUser_sameOrigin fun horigin ↦
    forUser_ask (fun _ ↦ .inr ?_) fun _ ↦ forUser_read rfl rfl fun _ ↦
      forUser_read rfl rfl fun account ↦
        forUser_bind (forUser_buildSessionView account) fun session ↦ forUser_done _
  exact ⟨nofun, nofun, fun _ ↦ horigin, nofun, by rw [hroute]; trivial⟩

theorem leads_dossierDetail {dossierId : ℕ} (hroute : r.route = .dossierDetail dossierId) :
    Leads (audit site r) (dossierDetail site r dossierId) h fun _ _ ↦ True := by
  refine leads_ofUser fun user ↦
    forUser_bind (forUser_attempt (forUser_getDossier dossierId)) fun o ↦ ?_
  cases o with
  | error e =>
    dsimp only
    split
    · exact forUser_done _
    · exact forUser_done _
  | ok found =>
    exact forUser_bind (forUser_acknowledge hroute) fun _ ↦ forUser_read rfl rfl fun _ ↦
      forUser_done _

theorem leads_updateStatus {dossierId : ℕ} {status expectedVersion : String}
    (hroute : r.route = .updateStatus dossierId status expectedVersion) :
    Leads (audit site r) (updateStatus site r dossierId status expectedVersion) h
      fun _ _ ↦ True := by
  refine leads_ofUser fun user ↦ forUser_sameOrigin fun horigin ↦
    forUser_value fun version hversion ↦ ?_
  refine forUser_bind (forUser_attempt (forUser_value fun parsed hparsed ↦
    forUser_updateWorkStatus hroute horigin hparsed hversion)) fun o ↦ ?_
  cases o with
  | ok work =>
    dsimp only
    split
    · exact forUser_done _
    · exact forUser_done _
  | error e =>
    dsimp only
    split
    · exact forUser_renderConflict dossierId
    · exact forUser_done _

theorem leads_addNote {dossierId : ℕ} {body : String} (hroute : r.route = .addNote dossierId body) :
    Leads (audit site r) (addNote site r dossierId body) h fun _ _ ↦ True := by
  refine leads_ofUser fun user ↦ forUser_sameOrigin fun horigin ↦ ?_
  have hcall : ForUser site r user (DossierService.addNote dossierId user.id body) :=
    forUser_addNote hroute horigin
  refine forUser_bind (forUser_attempt hcall) fun o ↦ ?_
  cases o with
  | ok note =>
    dsimp only
    split
    · exact forUser_done _
    · exact forUser_renderNotesSection dossierId _ _
  | error e =>
    dsimp only
    split
    · split
      · exact forUser_done _
      · exact forUser_renderNotesSection dossierId _ _
    · exact forUser_done _

theorem leads_createUser {username displayName password role : String}
    (hroute : r.route = .createUser username displayName password role) :
    Leads (audit site r) (createUser site r username displayName password role) h
      fun _ _ ↦ True := by
  refine leads_ofAdmin fun user hadmin ↦ forUser_sameOrigin fun horigin ↦ ?_
  refine forUser_bind (forUser_attempt (forUser_value fun parsed hparsed ↦
    forUser_createUser hroute hadmin horigin hparsed)) fun o ↦ ?_
  cases o with
  | ok created => exact forUser_done _
  | error e =>
    dsimp only
    split
    · exact forUser_renderUsers _
    · split
      · exact forUser_renderUsers _
      · exact forUser_done _

theorem leads_toggleActive {userId : ℕ} {active : String}
    (hroute : r.route = .toggleActive userId active) :
    Leads (audit site r) (toggleActive site r userId active) h fun _ _ ↦ True := by
  refine leads_ofAdmin fun user hadmin ↦ forUser_sameOrigin fun horigin ↦ ?_
  refine forUser_bind (forUser_attempt ?_) fun o ↦ ?_
  · unfold AccountService.setActive
    split
    · exact forUser_done _
    · rename_i hother
      refine forUser_perform fun _ ↦ .inr ⟨nofun, fun _ ↦ hadmin, fun _ ↦ horigin, ?_, ?_⟩
      · intro hself
        exact hother (SiteRequest.setActive.inj hself)
      · rw [hroute]
        exact ⟨rfl, rfl⟩
  · cases o with
    | ok u => exact forUser_done _
    | error e =>
      dsimp only
      split
      · exact forUser_renderUsers _
      · exact forUser_done _

theorem leads_resetPassword {userId : ℕ} {newPassword : String}
    (hroute : r.route = .resetPassword userId newPassword) :
    Leads (audit site r) (resetPassword site r userId newPassword) h fun _ _ ↦ True := by
  refine leads_ofAdmin fun user hadmin ↦ forUser_sameOrigin fun horigin ↦ ?_
  refine forUser_bind (forUser_attempt (forUser_hash fun passwordHash hhash ↦
    forUser_perform fun _ ↦ .inr ⟨nofun, fun _ ↦ hadmin, fun _ ↦ horigin, nofun, ?_⟩)) fun o ↦ ?_
  · rw [hroute]
    exact ⟨rfl, hhash⟩
  · cases o with
    | ok u => exact forUser_done _
    | error e =>
      dsimp only
      split
      · exact forUser_renderUsers _
      · exact forUser_done _

variable (site r) in
/-- **Every route asks only what it may ask**, by what it has been answered before. -/
theorem leads_handle : Leads (audit site r) (handle site r) [] fun _ _ ↦ True := by
  unfold handle
  split
  case h_1 hroute => exact leads_loginForm
  case h_2 username password hroute => exact leads_loginSubmit
  case h_3 hroute => exact sat_pure trivial
  case h_4 query hroute => exact leads_dashboard
  case h_5 dossierId hroute => exact leads_dossierDetail hroute
  case h_6 dossierId status expectedVersion hroute => exact leads_updateStatus hroute
  case h_7 dossierId body hroute => exact leads_addNote hroute
  case h_8 hroute => exact leads_ofAdmin fun user _ ↦ forUser_renderUsers none
  case h_9 username displayName password role hroute => exact leads_createUser hroute
  case h_10 userId active hroute => exact leads_toggleActive hroute
  case h_11 userId password hroute => exact leads_resetPassword hroute
  case h_12 hroute =>
    exact leads_ofAdmin fun user _ ↦ forUser_read rfl rfl fun _ ↦ forUser_done _
  case h_13 query hroute => exact leads_manualRefresh hroute
  case h_14 hroute => exact leads_connectSession hroute

end

end Site
end RmaPortal
