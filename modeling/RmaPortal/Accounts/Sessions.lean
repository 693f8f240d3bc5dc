import RmaPortal.Accounts.Standing
import RmaPortal.Accounts.Users
import RmaPortal.Coroutine.Calls
import RmaPortal.Web.Workplace

/-!
# Sessions

Any number of requests to the site are served at once, each in a thread, and all the while the
portal is polled (`IsSiteRun`).  Who sends the requests is not known: a request may carry any
cookie, and name any dossier or account.

Nothing about a session is kept on the server.  A cookie says, under a signature, for whom it was
issued and when, and that is all there is to a session; all the same it is as good as the login it
comes from.  `acts_loggedIn` says that whatever is asked in a run that not anybody may ask is
asked for a user who was active when they were looked up for it, who may ask it, and for whom a
time has been signed that is not too long ago: by a login of this run, which the password has let
in, or earlier than the run, by a process before this one.

## What is here

* `Accepts`, `LetIn` and `ends_loginSubmit` — how a login ends.  Whether somebody is let in is
  decided by the user who is found, and by the hash of their password alone.
* `Route.allows` and `answers_handle` — what a route may answer: only a login hands out a token,
  and only the dashboard and its refresh send a dashboard.  There is one lemma for every part that
  a route is made of, and none for a route.
* `IsSiteRun`, `Later` — the runs: requests come in and are served in any order, and polls make
  steps in between.  `IsSiteRun.induct` is the induction along a run, and `IsSiteRun.cut` cuts one
  where something happens.
* `IsSiteRun.mayAsk` — what a route asks, it may ask, by what it has been answered before.  This
  is what the programs of `Web.Routes` are checked for in `Accounts.Standing`, carried over to
  runs.
* `HandedOut` and `Unforged` — nobody else can sign.  This is an assumption about the cookies of a
  run, and about what they say rather than how they are written: a pair of a time and a payload
  that is found under a right signature has been signed earlier than the run, or is that of a
  token which a response of the run has handed out.  Tokens that have been issued before the
  process was started are therefore allowed for, and so is any other encoding of a token that the
  library decodes to the same.
* `LoggedIn` and `acts_loggedIn` — the result.  `Serializer.Lawful` is what it needs of the
  library: what has been signed is read back, with the time.
* `sessionRequests`, `acts_loggedIn_dashboard` — an employee logs in and is about to be shown the
  dashboard, on a site whose tokens everybody can read.

A user who has been deactivated still holds a token that is rightly signed; what keeps them out is
the subject of `Accounts.Deactivation`.
-/

set_option autoImplicit false

open Coroutine

namespace RmaPortal
namespace Site

/-- Requests that are served at once. -/
abbrev SitePool : Type := Pool SiteRequest.Val Exn Response Workplace

/-- Steps of a run of the site. -/
abbrev SiteLabels : Type := List (ℕ × List SiteHappening)

variable (site : SiteSettings)

/-! ## Logging in -/

/-- A login with this password is taken. -/
def Accepts (user : User) (password : String) : Prop :=
  user.active = true ∧ Passwords.verifyPassword site.argon2 user.passwordHash password = true

instance (user : User) (password : String) : Decidable (Accepts site user password) :=
  inferInstanceAs (Decidable (_ ∧ _))

/-- By what has happened, a login has let the user in and given them a token of this time. -/
structure LetIn (r : HttpRequest) (h : List SiteHappening) (user : User) (issued : ℕ) : Prop where
  login : ∃ username password, r.route = .loginSubmit username password ∧
    ⟨.getByUsername username, .ok (some user)⟩ ∈ h ∧ Accepts site user password
  time : ⟨.time, .ok issued⟩ ∈ h

/-- What a login page says when it is refused. -/
def refused : Response := .loginPage (some "Identifiants invalides ou compte désactivé.")

section

variable {site} {r : HttpRequest} {t : List SiteHappening} {o : Except Exn Response}

/-- Whether somebody is let in is decided by the user who is found. -/
theorem ends_authenticate {username password : String} {o : Except Exn (Option User)}
    (h : Ends (AccountService.authenticate site username password) t o) :
    ∃ found, t = [⟨.getByUsername username, found⟩] ∧ match found with
      | .error e => o = .error e
      | .ok found => o = .ok (found.filter fun user ↦ Accepts site user password) := by
  rcases ends_bind_iff.mp h with ⟨e, he, rfl⟩ | ⟨t₁, found, t₂, rfl, hfound, hrest⟩
  · exact ⟨_, ends_perform_iff.mp he, rfl⟩
  obtain rfl := ends_perform_iff.mp hfound
  cases found with
  | none =>
    obtain ⟨rfl, rfl⟩ := ends_done_iff.mp hrest
    exact ⟨_, rfl, rfl⟩
  | some user =>
    dsimp only at hrest
    split at hrest
    · rename_i hactive
      obtain ⟨rfl, rfl⟩ := ends_done_iff.mp hrest
      exact ⟨_, rfl, by simp [Option.filter, Accepts, hactive]⟩
    · split at hrest
      · rename_i hverify
        obtain ⟨rfl, rfl⟩ := ends_done_iff.mp hrest
        exact ⟨_, rfl, by simp [Option.filter, Accepts, hverify]⟩
      · rename_i hactive hverify
        obtain ⟨rfl, rfl⟩ := ends_done_iff.mp hrest
        exact ⟨_, rfl, by simp [Option.filter, Accepts, hactive, hverify]⟩

/-- **How a login ends**: unless something goes wrong, the user who was found is let in if their
account accepts the password. -/
theorem ends_loginSubmit {username password : String} {response : Response}
    (h : Ends (loginSubmit site username password) t (.ok response)) :
    ∃ found, ⟨.getByUsername username, .ok found⟩ ∈ t ∧
      match found.filter fun user ↦ Accepts site user password with
      | none => response = refused
      | some user => ∃ now, ⟨.time, .ok now⟩ ∈ t ∧
          response = .redirect "/" (.set (site.codec.encode now user.id)) := by
  rcases ends_bind_iff.mp h with ⟨e, -, ho⟩ | ⟨t₁, a, t₂, rfl, hauth, hrest⟩
  · cases ho
  obtain ⟨found, rfl, hfound⟩ := ends_authenticate hauth
  cases found with
  | error e => cases hfound
  | ok found =>
    dsimp only at hfound
    cases hfound
    refine ⟨found, by simp, ?_⟩
    generalize found.filter (fun user ↦ Accepts site user password) = a at hrest
    cases a with
    | none =>
      obtain ⟨-, ho⟩ := ends_done_iff.mp hrest
      cases ho
      rfl
    | some user =>
      rcases ends_bind_iff.mp hrest with ⟨e, -, ho⟩ | ⟨t₃, now, t₄, rfl, htime, hdone⟩
      · cases ho
      obtain rfl := ends_perform_iff.mp htime
      obtain ⟨-, ho⟩ := ends_done_iff.mp hdone
      cases ho
      exact ⟨now, by simp, rfl⟩

/-! ## What routes answer -/

/-- The query of a route that renders a dashboard. -/
def Route.dashboardQuery : Route → Option DashboardParams
  | .dashboard query | .refresh query => some query
  | _ => none

/-- What a route may answer: only a login hands out a token, and only a page and its refresh render
the dashboard. -/
def Route.allows : Route → Response → Bool
  | .loginSubmit _ _, .redirect _ _ => true
  | _, .redirect _ (.set _) => false
  | route, .dashboard _ _ => route.dashboardQuery.isSome
  | _, _ => true

theorem Route.login_of_allows {route : Route} {location token : String}
    (h : route.allows (.redirect location (.set token)) = true) :
    ∃ username password, route = .loginSubmit username password := by
  cases route with
  | loginSubmit username password => exact ⟨username, password, rfl⟩
  | _ => cases h

theorem Route.query_of_allows {route : Route} {user : User} {page : DashboardPage}
    (h : route.allows (.dashboard user page) = true) :
    ∃ query, route.dashboardQuery = some query := by
  cases route with
  | dashboard query | refresh query => exact ⟨query, rfl⟩
  | _ => cases h

/-- Every response of the program satisfies `P`. -/
def Answers (P : Response → Bool) (c : SiteProg Response) : Prop :=
  ∀ t response, Ends c t (.ok response) → P response = true

section

variable {P : Response → Bool}

theorem answers_bind {α : Type} {c : SiteProg α} {f : α → SiteProg Response}
    (hf : ∀ a, Answers P (f a)) : Answers P (c >>= f) := by
  intro t response h
  rcases ends_bind_iff.mp h with ⟨e, -, ho⟩ | ⟨t₁, a, t₂, rfl, -, h⟩
  · cases ho
  · exact hf a _ _ h

theorem answers_pure {response : Response} (h : P response = true) : Answers P (pure response) := by
  rintro t response' ⟨-, ho, -⟩
  cases ho
  exact h

theorem answers_throw {e : Exn} : Answers P (throw e) := by
  rintro t response ⟨-, ho, -⟩
  cases ho

/-- A route that is refused raises. -/
theorem answers_ite {p : Prop} [Decidable p] {c d : SiteProg Response} (hc : Answers P c)
    (hd : Answers P d) : Answers P (if p then c else d) := by
  split
  · exact hc
  · exact hd

theorem answers_renderUsers {user : User} {error : Option String}
    (hP : ∀ users, P (.usersPage user users error) = true) : Answers P (renderUsers user error) :=
  answers_bind fun users ↦ answers_pure (hP users)

theorem answers_renderConflict {user : User} {dossierId : ℕ}
    (herror : ∀ statusCode title message, P (.errorPage user statusCode title message) = true)
    (hsection : ∀ work message messageClass,
      P (.workSection user dossierId work message messageClass) = true) :
    Answers P (renderConflict r user dossierId) := by
  refine answers_ite (answers_pure (herror ..)) (answers_bind fun o ↦ ?_)
  cases o with
  | ok found => exact answers_pure (hsection ..)
  | error e => exact answers_ite (answers_pure (herror ..)) answers_throw

theorem answers_renderNotesSection {user : User} {dossierId : ℕ} {message messageClass : String}
    (hP : ∀ notes users, P (.notesSection user dossierId notes users message messageClass) = true) :
    Answers P (renderNotesSection user dossierId message messageClass) :=
  answers_bind fun _ ↦ answers_bind fun users ↦ answers_pure (hP _ users)

theorem answers_renderDashboard {user : User} {query : DashboardParams} {fragment : Bool}
    (hP : ∀ page, P (.dashboard user page) = true) :
    Answers P (renderDashboard site user query fragment) :=
  answers_bind fun _ ↦ answers_bind fun _ ↦ answers_bind fun _ ↦ answers_bind fun _ ↦
    answers_pure (hP _)

end

/-- **Every route answers what it may.** -/
theorem answers_handle : Answers r.route.allows (handle site r) := by
  unfold handle
  split <;> rename_i hroute <;> rw [hroute]
  case h_1 =>
    refine answers_bind fun user ↦ ?_
    cases user <;> exact answers_pure rfl
  case h_2 username password =>
    refine answers_bind fun user ↦ ?_
    cases user with
    | none => exact answers_pure rfl
    | some user => exact answers_bind fun _ ↦ answers_pure rfl
  case h_3 => exact answers_pure rfl
  case h_4 query => exact answers_bind fun _ ↦ answers_renderDashboard fun _ ↦ rfl
  case h_5 dossierId =>
    refine answers_bind fun _ ↦ answers_bind fun o ↦ ?_
    cases o with
    | ok found => exact answers_bind fun _ ↦ answers_bind fun _ ↦ answers_pure rfl
    | error e => exact answers_ite (answers_pure rfl) answers_throw
  case h_6 dossierId status expectedVersion =>
    refine answers_bind fun _ ↦ answers_bind fun _ ↦ answers_bind fun _ ↦ answers_bind fun o ↦ ?_
    cases o with
    | ok work => exact answers_ite (answers_pure rfl) (answers_pure rfl)
    | error e =>
      exact answers_ite (answers_renderConflict (fun _ _ _ ↦ rfl) fun _ _ _ ↦ rfl) answers_throw
  case h_7 dossierId body =>
    have hsection {user : User} {message messageClass : String} :
        Answers (Route.addNote dossierId body).allows
          (renderNotesSection user dossierId message messageClass) :=
      answers_renderNotesSection fun _ _ ↦ rfl
    refine answers_bind fun _ ↦ answers_bind fun _ ↦ answers_bind fun o ↦ ?_
    cases o with
    | ok note => exact answers_ite (answers_pure rfl) hsection
    | error e => exact answers_ite (answers_ite (answers_pure rfl) hsection) answers_throw
  case h_8 => exact answers_bind fun _ ↦ answers_renderUsers fun _ ↦ rfl
  case h_9 username displayName password role =>
    refine answers_bind fun _ ↦ answers_bind fun _ ↦ answers_bind fun o ↦ ?_
    cases o with
    | ok created => exact answers_pure rfl
    | error e =>
      exact answers_ite (answers_renderUsers fun _ ↦ rfl)
        (answers_ite (answers_renderUsers fun _ ↦ rfl) answers_throw)
  case h_10 userId active =>
    refine answers_bind fun _ ↦ answers_bind fun _ ↦ answers_bind fun o ↦ ?_
    cases o with
    | ok u => exact answers_pure rfl
    | error e => exact answers_ite (answers_renderUsers fun _ ↦ rfl) answers_throw
  case h_11 userId password =>
    refine answers_bind fun _ ↦ answers_bind fun _ ↦ answers_bind fun o ↦ ?_
    cases o with
    | ok u => exact answers_pure rfl
    | error e => exact answers_ite (answers_renderUsers fun _ ↦ rfl) answers_throw
  case h_12 => exact answers_bind fun _ ↦ answers_bind fun _ ↦ answers_pure rfl
  case h_13 query =>
    exact answers_bind fun _ ↦ answers_bind fun _ ↦ answers_bind fun _ ↦
      answers_renderDashboard fun _ ↦ rfl
  case h_14 =>
    exact answers_bind fun _ ↦ answers_bind fun _ ↦ answers_bind fun _ ↦ answers_bind fun _ ↦
      answers_bind fun _ ↦ answers_bind fun _ ↦ answers_pure rfl

/-- Who is handed out a token has been let in. -/
theorem letIn_of_ends {location token : String}
    (h : Ends (handle site r) t (.ok (.redirect location (.set token)))) :
    ∃ user issued, LetIn site r t user issued ∧ token = site.codec.encode issued user.id := by
  obtain ⟨username, password, hroute⟩ := Route.login_of_allows (answers_handle t _ h)
  rw [handle, hroute] at h
  obtain ⟨found, hfound, hresponse⟩ := ends_loginSubmit h
  split at hresponse
  · cases hresponse
  rename_i user haccepts
  obtain ⟨now, htime, hresponse⟩ := hresponse
  cases hresponse
  obtain ⟨hfound', haccepts⟩ := Option.filter_eq_some_iff.mp haccepts
  rw [hfound'] at hfound
  exact ⟨user, now,
    ⟨⟨username, password, hroute, hfound, of_decide_eq_true haccepts⟩, htime⟩, rfl⟩

end

/-! ## Runs -/

/-- Any number of requests are served at once, while polls go on. -/
structure IsSiteRun {H : Type} (F : PortalReaderFactory H) (requests : ℕ → HttpRequest)
    (start : Workplace) (ls : SiteLabels) (p : SitePool) : Prop where
  steps : Pool.StepsAmid (workplaceRules site) anywhere (fun _ ↦ True) (PollStep F)
    (Pool.empty start) ls p
  program : ∀ i task, p.tasks i = some task → task.program = handle site (requests i)

/-- How a run goes on. -/
abbrev Later {H : Type} (F : PortalReaderFactory H) : SitePool → SiteLabels → SitePool → Prop :=
  Pool.StepsAmid (workplaceRules site) anywhere (fun _ ↦ True) (PollStep F)

/-- By what has happened, some response has handed out the token. -/
def HandedOut (requests : ℕ → HttpRequest) (ls : SiteLabels) (token : String) : Prop :=
  ∃ j location, Ends (handle site (requests j)) (eventsOf ls j)
    (.ok (.redirect location (.set token)))

/-- Nobody else can sign.  What a cookie says under a right signature, a time and a payload, has
been signed earlier than the run, or a response of the run has handed out a token that says so
before the request came in.  The cookie itself need not be that token: the same may be written
differently. -/
def Unforged (requests : ℕ → HttpRequest) (earlier : Set (ℕ × Payload)) (ls : SiteLabels) : Prop :=
  ∀ before i after, ls = before ++ (i, []) :: after → ∀ token content,
    (requests i).cookie = some token → site.codec.serializer.unsign token = some content →
    content ∈ earlier ∨ ∃ token', HandedOut site requests before token' ∧
      site.codec.serializer.unsign token' = some content

section

variable {site} {H : Type} {F : PortalReaderFactory H} {requests : ℕ → HttpRequest}
  {start : Workplace} {ls before after : SiteLabels} {l : ℕ × List SiteHappening} {p q : SitePool}

theorem IsSiteRun.later (h : IsSiteRun site F requests start ls p) :
    Later site F (Pool.empty start) ls p := h.steps

/-- What leads to a run is a run. -/
theorem IsSiteRun.of_later {ms : SiteLabels} (h : IsSiteRun site F requests start (ls ++ ms) p)
    (hq : Later site F (Pool.empty start) ls q) (hrest : Later site F q ms p) :
    IsSiteRun site F requests start ls q := by
  refine ⟨hq, fun i task htask ↦ ?_⟩
  obtain ⟨task', htask', hsame⟩ := hrest.program htask
  rw [← hsame, h.program i task' htask']

/-- A poll that makes a step goes on with a run. -/
theorem IsSiteRun.polled (h : IsSiteRun site F requests start ls p) {w : Workplace}
    (hpoll : PollStep F p.state w) : IsSiteRun site F requests start ls ⟨w, p.tasks⟩ :=
  ⟨.env h.steps hpoll, h.program⟩

theorem isSiteRun_empty (site : SiteSettings) (F : PortalReaderFactory H)
    (requests : ℕ → HttpRequest) (start : Workplace) :
    IsSiteRun site F requests start [] (Pool.empty start) :=
  ⟨.refl _, fun _ _ htask ↦ by cases htask⟩

/-- **What holds of a run**, step by step: of polls, and of requests. -/
@[elab_as_elim]
theorem IsSiteRun.induct
    {motive : (ls : SiteLabels) → (p : SitePool) → IsSiteRun site F requests start ls p → Prop}
    (opened : motive [] (Pool.empty start) (isSiteRun_empty site F requests start))
    (polled : ∀ ls q w (h : IsSiteRun site F requests start ls q) (hpoll : PollStep F q.state w),
      motive ls q h → motive ls ⟨w, q.tasks⟩ (h.polled hpoll))
    (served : ∀ ls l q r (hq : IsSiteRun site F requests start ls q)
      (hr : IsSiteRun site F requests start (ls ++ [l]) r),
      Pool.Step (workplaceRules site) anywhere (fun _ ↦ True) q l r →
      Later site F q [l] r → motive ls q hq → motive (ls ++ [l]) r hr)
    (h : IsSiteRun site F requests start ls p) :
    motive ls p h := by
  obtain ⟨hsteps, hprogram⟩ := h
  induction hsteps with
  | refl => exact opened
  | env hsteps hpoll ih => exact polled _ _ _ ⟨hsteps, hprogram⟩ hpoll (ih hprogram)
  | tail hsteps hstep ih =>
    have hr : IsSiteRun site F requests start _ _ := ⟨.tail hsteps hstep, hprogram⟩
    have hlater : Later site F _ _ _ := .single hstep
    have hq := hr.of_later hsteps hlater
    exact served _ _ _ _ hq hr hstep hlater (ih hq.program)

/-- A run can be cut at any of its steps. -/
theorem IsSiteRun.split (h : IsSiteRun site F requests start (before ++ l :: after) p) :
    ∃ q q', IsSiteRun site F requests start before q ∧
      Pool.Step (workplaceRules site) anywhere (fun _ ↦ True) q l q' ∧
      IsSiteRun site F requests start (before ++ [l]) q' ∧ Later site F q' after p := by
  obtain ⟨q, q', hbefore, hstep, hafter⟩ := h.steps.split
  have hq' : Later site F (Pool.empty start) (before ++ [l]) q' := .tail hbefore hstep
  refine ⟨q, q', h.of_later hbefore ?_, hstep, ?_, hafter⟩
  · exact Pool.StepsAmid.trans (.single hstep) hafter
  · have h' : IsSiteRun site F requests start ((before ++ [l]) ++ after) p := by
      rwa [List.append_assoc]
    exact h'.of_later hq' hafter

/-- A step of a run is the answer to one request, if it is any. -/
theorem answer_of_step {l : ℕ × List SiteHappening} {q' : SitePool}
    (h : Pool.Step (workplaceRules site) anywhere (fun _ ↦ True) q l q') :
    (l.2 = [] ∧ q'.state = q.state) ∨
      ∃ task r k a, q.tasks l.1 = some task ∧ task.rest = .ask r k ∧ l.2 = [⟨r, a⟩] ∧
        (siteRules site).step q.state.db r a q'.state.db ∧ q'.state.poll = q.state.poll := by
  obtain hnone | ⟨task, r, k, a, htask, hwait, hes, hanswer⟩ := h.single fun _ ↦ rfl
  · exact .inl hnone
  · obtain ⟨hanswer, hpoll, -⟩ := answered_of_workplace hanswer
    exact .inr ⟨task, r, k, a, htask, hwait, hes, hanswer, hpoll⟩

/-- Where something happens, what goes on can be cut. -/
theorem cut_of_later (h : Later site F p ls q) {i : ℕ} {e : SiteHappening}
    (he : e ∈ eventsOf ls i) :
    ∃ before after p₁ p₂, ls = before ++ (i, [e]) :: after ∧ Later site F p before p₁ ∧
      (siteRules site).step p₁.state.db e.1 e.2 p₂.state.db ∧
      Later site F p₁ [(i, [e])] p₂ ∧ Later site F p₂ after q := by
  obtain ⟨es, hes, he⟩ := mem_eventsOf.mp he
  obtain rfl := h.eq_singleton (fun _ ↦ rfl) hes he
  obtain ⟨before, after, rfl⟩ := List.append_of_mem hes
  obtain ⟨p₁, p₂, hbefore, hstep, hafter⟩ := h.split
  refine ⟨before, after, p₁, p₂, rfl, hbefore, ?_, .single hstep, hafter⟩
  obtain ⟨hnil, -⟩ | ⟨task, r, k, a, -, -, hone, hanswer, -⟩ := answer_of_step hstep
  · cases hnil
  · cases hone
    exact hanswer

/-- Where something happens, a run can be cut. -/
theorem IsSiteRun.cut (h : IsSiteRun site F requests start ls p) {i : ℕ} {e : SiteHappening}
    (he : e ∈ eventsOf ls i) :
    ∃ before after q q', ls = before ++ (i, [e]) :: after ∧
      IsSiteRun site F requests start before q ∧
      (siteRules site).step q.state.db e.1 e.2 q'.state.db ∧ Later site F q' after p := by
  obtain ⟨before, after, q, q', rfl, hq, hanswer, hstep, hrest⟩ := cut_of_later h.later he
  exact ⟨before, after, q, q', rfl, h.of_later hq (hstep.trans hrest), hanswer, hrest⟩

/-- Who is looked up by an identifier is found under it. -/
theorem answered_of_step {db db' : EmployeeDatabase} {e : SiteHappening}
    (h : (siteRules site).step db e.1 e.2 db') : Answered e := by
  obtain ⟨q, a⟩ := e
  obtain ⟨b, h⟩ := h
  cases q with
  | getUser userId =>
    replace h : SiteRequest.serve site (.getUser userId) b db = (a, db') := h
    rcases a with e | _ | user
    · trivial
    · trivial
    change (user.id : ℤ) = userId
    cases b with
    | error e => cases h
    | ok b =>
      have hfound : (if 0 ≤ userId then UserRepository.get userId.toNat db else none) = some user :=
        Except.ok.inj (congrArg Prod.fst h)
      split at hfound
      · rw [Table.key_of_find? hfound]
        omega
      · cases hfound
  | _ => trivial

/-- **What a route asks, it may ask**, by what it has been answered before. -/
theorem IsSiteRun.mayAsk (h : IsSiteRun site F requests start (before ++ l :: after) p)
    {e : SiteHappening} (he : e ∈ l.2) :
    MayAsk site (requests l.1) (eventsOf before l.1) e.1 := by
  obtain ⟨q, q', hq, hstep, -, -⟩ := h.split
  obtain ⟨hnil, -⟩ | ⟨task, r, k, a, htask, hwait, hl, hanswer, -⟩ := answer_of_step hstep
  · rw [hnil] at he
    cases he
  rw [hl, List.mem_singleton] at he
  subst he
  obtain ⟨hhistory, hafter⟩ := (hq.steps.history l.1).2 task htask
  rw [hq.program l.1 task htask, hwait, hhistory] at hafter
  have hanswered : ∀ e ∈ eventsOf before l.1 ++ [⟨r, a⟩], Answered e := by
    intro e he
    rcases List.mem_append.mp he with he | he
    · obtain ⟨es, hes, he⟩ := mem_eventsOf.mp he
      obtain ⟨w, w', hstep⟩ := hq.steps.events _ hes e he
      exact answered_of_step (answered_of_workplace hstep).1
    · rw [List.mem_singleton.mp he]
      exact answered_of_step hanswer
  have hmay := (leads_handle site (requests l.1)).allowed
    (hafter.append (.cons (.nil (k a)))) hanswered
    (show eventsOf before l.1 ++ [⟨r, a⟩] = eventsOf before l.1 ++ ⟨r, a⟩ :: [] from rfl)
  simpa using hmay

/-- What a task has answered it has answered at the end of its run. -/
theorem IsSiteRun.ends (h : IsSiteRun site F requests start ls p) {i : ℕ}
    {task : Task SiteRequest.Val Exn Response} (htask : p.tasks i = some task)
    {o : Except Exn Response} (hover : task.rest = .done o) :
    Ends (handle site (requests i)) (eventsOf ls i) o := by
  obtain ⟨hhistory, hafter⟩ := (h.steps.history i).2 task htask
  rw [h.program i task htask, hover, hhistory] at hafter
  simpa using hafter.ends (ends_done_iff.mpr ⟨rfl, rfl⟩)

/-- Requests come in … -/
theorem IsSiteRun.spawnWith (h : IsSiteRun site F requests start ls p)
    (script : (q : SiteRequest) → Except Exn q.Val) {i : ℕ} (hfree : p.tasks i = none) :
    IsSiteRun site F requests start (ls ++ [(i, [])])
      (p.spawnWith (Workplace.serve site) script anywhere i (handle site (requests i))) := by
  have hnothing : (settleWith (Workplace.serve site) script anywhere (handle site (requests i))
      p.state).1 = [] := settleWith_nil _ _ (fun _ ↦ rfl) _ _
  refine ⟨h.steps.tail (hnothing ▸ Pool.step_spawnWith hfree trivial), fun j task htask ↦ ?_⟩
  rcases Pool.program_of_spawnWith htask with ⟨rfl, hprogram⟩ | htask
  · exact hprogram
  · exact h.program j task htask

/-- … and are served, in any order. -/
theorem IsSiteRun.turnsWith (h : IsSiteRun site F requests start ls p)
    (script : (q : SiteRequest) → Except Exn q.Val) (is : List ℕ) :
    IsSiteRun site F requests start
      (ls ++ p.turnsEvents (Workplace.serve site) script anywhere is)
      (p.turnsWith (Workplace.serve site) script anywhere is) := by
  refine ⟨h.steps.turnsWith is, fun i task htask ↦ ?_⟩
  obtain ⟨task', htask', hprogram⟩ := Pool.program_of_turnsWith htask
  rw [hprogram, h.program i task' htask']

/-- By what had happened before, the request carries what has been signed for the user at a time
that is not too long ago: earlier than the run, or by a login of the run, before the request came
in. -/
structure LoggedIn (site : SiteSettings) (requests : ℕ → HttpRequest)
    (earlier : Set (ℕ × Payload)) (before : SiteLabels) (i : ℕ) (user : User) : Prop where
  session : ∃ token issued payload now, (requests i).cookie = some token ∧
    site.codec.serializer.unsign token = some (issued, payload) ∧
    SessionCodec.uid payload = .ok (some (user.id : ℤ)) ∧
    ⟨.time, .ok now⟩ ∈ eventsOf before i ∧ site.codec.Fresh issued now ∧
    ((issued, payload) ∈ earlier ∨ ∃ ls₁ ls₂ j user₀, before = ls₁ ++ (i, []) :: ls₂ ∧
      LetIn site (requests j) (eventsOf ls₁ j) user₀ issued ∧ user₀.id = user.id)

/-- **Who acts has logged in.**  Whatever is asked in a run that not anybody may ask is asked for a
user to whom it is permitted and who was active when they were looked up for this request.  The
request carries what has been signed for this user not too long ago; and if that was in this run,
they had logged in before the request came in, with the password they had then. -/
theorem acts_loggedIn (hlawful : site.codec.serializer.Lawful)
    (h : IsSiteRun site F requests start (before ++ l :: after) p) {earlier : Set (ℕ × Payload)}
    (hunforged : Unforged site requests earlier (before ++ l :: after)) {e : SiteHappening}
    (he : e ∈ l.2) (hguarded : e.1.isOpen = false) :
    ∃ user, Recognized site (requests l.1) (eventsOf before l.1) user ∧
      Permitted site (requests l.1) (eventsOf before l.1) user e.1 ∧
      LoggedIn site requests earlier before l.1 user := by
  obtain hopen | ⟨user, hrecognized, hpermitted⟩ := h.mayAsk he
  · exact absurd (hguarded.symm.trans hopen) Bool.false_ne_true
  refine ⟨user, hrecognized, hpermitted, ?_⟩
  obtain ⟨⟨token, now, hcookie, htime, hdecode⟩, -, -⟩ := hrecognized
  obtain ⟨q, q', hq, hstep, -, -⟩ := h.split
  have htask : q.tasks l.1 ≠ none := by
    intro hnone
    rw [(hq.steps.history l.1).1 hnone] at htime
    cases htime
  obtain ⟨issued, payload, hunsign, hfresh, huid⟩ := SessionCodec.decode_eq_some _ hdecode
  refine ⟨token, issued, payload, now, hcookie, hunsign, huid, htime, hfresh, ?_⟩
  obtain ⟨ls₁, ls₂, rfl⟩ := hq.steps.started (fun _ ↦ rfl) htask
  refine (hunforged ls₁ l.1 (ls₂ ++ l :: after) (by simp) token _ hcookie hunsign).imp_right ?_
  rintro ⟨token', ⟨j, location, hends⟩, hunsign'⟩
  obtain ⟨user₀, issued₀, hletIn, rfl⟩ := letIn_of_ends hends
  -- what has been signed is what the login has put into its token
  rw [SessionCodec.encode, hlawful, Option.some.injEq, Prod.mk.injEq] at hunsign'
  obtain ⟨rfl, rfl⟩ := hunsign'
  exact ⟨ls₁, ls₂, j, user₀, rfl, hletIn, by simpa using huid⟩

end

/-! ## A session -/

/-- Tokens that everybody can read, and nobody has made but the site. -/
def plainSerializer : Serializer where
  dumps time payload :=
    match SessionCodec.uid payload with
    | .ok (some n) => .ofList (List.replicate time 't' ++ List.replicate n.toNat 'u')
    | _ => ""
  unsign token := some (token.toList.count 't', .ofUser (token.toList.count 'u'))

theorem plainSerializer_lawful : plainSerializer.Lawful := by
  intro time userId
  simp [plainSerializer, List.count_replicate]

/-- A site where passwords are not hashed at all. -/
def plainSite : SiteSettings where
  codec := ⟨plainSerializer, 43200⟩
  argon2 := ⟨fun _ password ↦ password, fun hash password ↦ hash == password⟩
  normalize := id
  casefold := id
  timestamp _ := 0
  noteOrder := .stored
  dashboardOrder := .stored

/-- A user whose password is their name. -/
def namedUser (id : ℕ) (username : String) (role : Role) : User :=
  { id := id, username := username, displayName := "", passwordHash := username, role := role
    active := true, createdAt := default }

theorem ofAccount_unpolled_reads :
    ∀ r ∈ (Database.ofAccount (.unpolled 1)).notificationReads.rows,
      ((Database.ofAccount (.unpolled 1)).notifications.find? r.notificationId).isSome :=
  fun _ hr ↦ absurd hr List.not_mem_nil

/-- A portal with an administrator and an employee. -/
def staffed : EmployeeDatabase where
  toDatabase := .ofAccount (.unpolled 1)
  users := ⟨⟨[namedUser 0 "a" .admin, namedUser 1 "b" .employee], by decide⟩, by decide⟩
  reads_notification := ofAccount_unpolled_reads
  reads_user _ hr := absurd hr List.not_mem_nil

/-- Nothing goes wrong, and it is one o'clock. -/
def atOne : (q : SiteRequest) → Except Exn q.Val
  | .time => .ok 1
  | .now => .ok default
  | .salt => .ok ""
  | .getByUsername _ | .getUser _ | .getDefault | .getDossier _ | .getWork _ => .ok none
  | .listUsers | .listForDashboard _ | .listNotes _ | .getUnread _ _ => .ok []
  | .insertUser user _ => .ok user
  | .setActive _ _ | .setPasswordHash _ _ | .insertReads _ _ _ => .ok ()
  | .insertWork _ | .updateWork _ _ => .ok ()
  | .insertNote dossierId authorId body now => .ok ⟨0, dossierId, authorId, body, now⟩
  | .execute => .ok {}
  | .isRunning | .startConnection | .lastStartBlockedBySync | .isActive | .isVerifying => .ok false

/-- A request from a page of the site. -/
def onSite (cookie : Option String) (route : Route) : HttpRequest :=
  { route := route, cookie := cookie, origin := some ⟨"http", "portal"⟩, url := ⟨"http", "portal"⟩
    htmx := false }

/-- Two logins, and what is done with the tokens. -/
def sessionRequests : ℕ → HttpRequest
  | 0 => onSite none (.loginSubmit "b" "b")
  | 1 => onSite none (.loginSubmit "a" "a")
  | 2 => onSite (some "tu") (.dashboard {})
  | _ => onSite (some "t") (.toggleActive 1 "0")

/-- A request comes in and is served. -/
def served (requests : ℕ → HttpRequest) (i : ℕ) (turns : List ℕ) (p : SitePool) : SitePool :=
  (p.spawnWith (Workplace.serve plainSite) atOne anywhere i
    (handle plainSite (requests i))).turnsWith (Workplace.serve plainSite) atOne anywhere turns

/-- A run of a site without secrets. -/
abbrev IsPlainRun (requests : ℕ → HttpRequest) (start : Workplace) : SiteLabels → SitePool → Prop :=
  IsSiteRun plainSite (camoufoxPortalReaderFactory .standard) requests start

/-- A new process. -/
def newProcess (db : EmployeeDatabase) : Workplace := .opened db .start

/-- The employee has logged in and is about to be shown the dashboard. -/
def loggedIn : SitePool :=
  served sessionRequests 2 [2, 2, 2]
    (served sessionRequests 0 [0, 0] (Pool.empty (newProcess staffed)))

theorem isPlainRun_empty (requests : ℕ → HttpRequest) (start : Workplace) :
    IsPlainRun requests start [] (Pool.empty start) := isSiteRun_empty _ _ requests start

/-- What has been served is a run; a request comes in once. -/
theorem exists_served {requests : ℕ → HttpRequest} {start : Workplace} {ls : SiteLabels}
    {p : SitePool} (h : IsPlainRun requests start ls p) {i : ℕ} (turns : List ℕ)
    (hfree : p.tasks i = none) :
    ∃ ms, IsPlainRun requests start (ls ++ (i, []) :: ms) (served requests i turns p) ∧
      ∀ m ∈ ms, m.2 ≠ [] := by
  have hserved := (h.spawnWith atOne hfree).turnsWith atOne turns
  rw [List.append_assoc] at hserved
  exact ⟨_, hserved, fun _ ↦ Pool.ne_nil_of_mem_turnsEvents⟩

/-- Requests that are in are served. -/
theorem Unforged.turns {requests : ℕ → HttpRequest} {earlier : Set (ℕ × Payload)}
    {ls ms : SiteLabels} (h : Unforged plainSite requests earlier ls) (hms : ∀ m ∈ ms, m.2 ≠ []) :
    Unforged plainSite requests earlier (ls ++ ms) := by
  intro before i after hls token content htoken hunsign
  rcases List.append_eq_append_iff.mp hls with ⟨as, rfl, rfl⟩ | ⟨bs, rfl, hrest⟩
  · exact absurd rfl (hms (i, []) (by simp))
  · cases bs with
    | nil => exact absurd rfl (hms (i, []) (by rw [← List.nil_append ms, ← hrest]; simp))
    | cons b bs =>
      obtain ⟨rfl, rfl⟩ := List.cons.inj hrest
      exact h before i bs rfl token content htoken hunsign

/-- A request comes in and is served whose cookie is a token that has been handed out, if any. -/
theorem Unforged.served {requests : ℕ → HttpRequest} {earlier : Set (ℕ × Payload)}
    {ls ms : SiteLabels} {i : ℕ} (h : Unforged plainSite requests earlier ls)
    (hcookie : ∀ token, (requests i).cookie = some token → HandedOut plainSite requests ls token)
    (hms : ∀ m ∈ ms, m.2 ≠ []) : Unforged plainSite requests earlier (ls ++ (i, []) :: ms) := by
  rw [← List.singleton_append, ← List.append_assoc]
  refine Unforged.turns (fun before j after hls token content htoken hunsign ↦ ?_) hms
  cases after using List.reverseRecOn with
  | nil =>
    obtain ⟨rfl, hj⟩ := List.append_inj' hls rfl
    cases hj
    exact .inr ⟨token, hcookie token htoken, hunsign⟩
  | append_singleton after m =>
    rw [← List.cons_append, ← List.append_assoc] at hls
    obtain ⟨rfl, -⟩ := List.append_inj' hls rfl
    exact h before j after rfl token content htoken hunsign

/-- The employee has logged in; nothing has been signed but their token. -/
theorem exists_loggedIn : ∃ ls, IsPlainRun sessionRequests (newProcess staffed) ls loggedIn ∧
    Unforged plainSite sessionRequests ∅ ls := by
  obtain ⟨ms, h, hms⟩ :=
    exists_served (isPlainRun_empty sessionRequests (newProcess staffed)) [0, 0] (i := 0) rfl
  obtain ⟨ms', h', hms'⟩ := exists_served h [2, 2, 2] (i := 2) rfl
  have hnone : Unforged plainSite sessionRequests ∅ [] := by
    intro before i after hls
    simp at hls
  refine ⟨_, h', (hnone.served (by rintro _ ⟨⟩) hms).served ?_ hms'⟩
  rintro _ ⟨⟩
  exact ⟨0, "/", h.ends rfl rfl⟩

/-- The employee who is shown the dashboard has logged in. -/
theorem acts_loggedIn_dashboard : ∃ ls l p user,
    IsPlainRun sessionRequests (newProcess staffed) (ls ++ [l]) p ∧
      Recognized plainSite (sessionRequests l.1) (eventsOf ls l.1) user ∧
      LoggedIn plainSite sessionRequests ∅ ls l.1 user := by
  obtain ⟨ls, h, hunforged⟩ := exists_loggedIn
  have hnext := h.turnsWith atOne [2]
  have hone : ∀ m ∈ loggedIn.turnsEvents (Workplace.serve plainSite) atOne anywhere [2], m.2 ≠ [] :=
    fun _ ↦ Pool.ne_nil_of_mem_turnsEvents
  obtain ⟨user, hrecognized, -, hloggedIn⟩ := acts_loggedIn plainSerializer_lawful
    (e := ⟨.listForDashboard 1, .ok _⟩) hnext (hunforged.turns hone) (List.mem_singleton_self _)
    rfl
  exact ⟨ls, _, _, user, hnext, hrecognized, hloggedIn⟩

end Site
end RmaPortal
