import Mathlib.Data.Set.Insert
import RmaPortal.Accounts.Sessions

/-!
# The directory of accounts

What the accounts are for, without hashes, tables or sessions: a `Directory` says which account a
name has, and an account says which passwords it takes.  The forms of the administration pages add
an account, open or close it, and give it another password (`Directory.after`).

The `users` table is such a directory (`directoryOf`), and `directory_of_run` says that the site
changes it as the forms say, whichever requests are served at once.  So `login_verdict` can say of
every login what it is answered, from the forms alone.  There is one moment while the login is
served that decides: if the name has at that moment an account that is open and takes the password,
the login is taken, and otherwise it is refused.

## What is here

* `Account` and `Directory` — an account has a set of passwords that it takes, so nothing here says
  how passwords are stored; `Directory.after` and `Directory.afterRun` are what accepted forms do.
* `accountOf` and `directoryOf` — the table as a directory.  The passwords of an account are those
  that its hash verifies; that this is the one password of the form that has set it takes an Argon2
  that verifies what it has hashed and nothing else.
* `directoryOf_step` — one request, by the inversion of what a request does to the users.
* `directory_of_run` — a run, by induction; `login_verdict` looks at the table where it is looked
  up, and reads off the directory.
-/

set_option autoImplicit false

open Coroutine

namespace RmaPortal

/-! ## Directories -/

/-- An account. -/
structure Account where
  id : ℕ
  displayName : String
  role : Role
  active : Bool
  /-- The passwords it takes. -/
  passwords : Set String

/-- Which account a name has. -/
abbrev Directory : Type := String → Option Account

namespace Directory

/-- Give a name an account. -/
def add (d : Directory) (name : String) (a : Account) : Directory :=
  Function.update d name (some a)

/-- Change an account. -/
def modify (d : Directory) (id : ℕ) (f : Account → Account) : Directory :=
  fun name ↦ (d name).map fun a ↦ if a.id = id then f a else a

/-- The password opens the account of the name. -/
structure Opens (d : Directory) (name password : String) (a : Account) : Prop where
  account : d name = some a
  active : a.active = true
  password : password ∈ a.passwords

variable (normalize : String → String)

/-- What an accepted form does to a directory; `e` is the request in which it is accepted. -/
def after : Site.Route → SiteHappening → Directory → Directory
  | .createUser username displayName password role, ⟨.insertUser _ _, .ok created⟩, d =>
    d.add (normalize username)
      { id := created.id, displayName := displayName
        role := if role = "ADMIN" then .admin else .employee, active := true
        passwords := {password} }
  | .toggleActive userId active, ⟨.setActive _ _, .ok ()⟩, d =>
    d.modify userId fun a ↦ { a with active := active = "1" }
  | .resetPassword userId password, ⟨.setPasswordHash _ _, .ok ()⟩, d =>
    d.modify userId fun a ↦ { a with passwords := {password} }
  | _, _, d => d

/-- What a run does to a directory. -/
def afterRun (requests : ℕ → Site.HttpRequest) (ls : Site.SiteLabels) (d : Directory) : Directory :=
  ls.foldl (fun d l ↦ l.2.foldl (fun d e ↦ d.after normalize (requests l.1).route e) d) d

theorem after_of_not_changesUsers {route : Site.Route} {e : SiteHappening}
    (he : Site.changesUsers e = false) (d : Directory) : d.after normalize route e = d := by
  unfold after
  split
  case h_4 => rfl
  all_goals cases he

theorem afterRun_append (requests : ℕ → Site.HttpRequest) (ls ms : Site.SiteLabels)
    (d : Directory) : d.afterRun normalize requests (ls ++ ms) =
      (d.afterRun normalize requests ls).afterRun normalize requests ms :=
  List.foldl_append ..

theorem afterRun_singleton (requests : ℕ → Site.HttpRequest) (i : ℕ) (e : SiteHappening)
    (d : Directory) :
    d.afterRun normalize requests [(i, [e])] = d.after normalize (requests i).route e := rfl

end Directory

namespace Site

variable (site : SiteSettings)

/-! ## The table as a directory -/

/-- A user as an account. -/
def accountOf (user : User) : Account where
  id := user.id
  displayName := user.displayName
  role := user.role
  active := user.active
  passwords := {password | Passwords.verifyPassword site.argon2 user.passwordHash password = true}

/-- The users as a directory. -/
def directoryOf (db : EmployeeDatabase) : Directory :=
  fun name ↦ (db.users.byUsername.find? name).map (accountOf site)

section

variable {site} {db db' : EmployeeDatabase}

/-- The hash of a password takes this password and no other. -/
theorem passwords_of_isHash (hlawful : site.argon2.Lawful) {password passwordHash : String}
    (h : IsHash site password passwordHash) :
    {other | Passwords.verifyPassword site.argon2 passwordHash other = true} = {password} := by
  obtain ⟨salt, h⟩ := h
  unfold Passwords.hashPassword at h
  split at h
  · cases h
  · cases h
    ext other
    simp [Passwords.verifyPassword, hlawful salt password other]

/-- Who is changed under an identifier is changed under their name. -/
theorem find?_byUsername_update (t : UserTable) (id : ℕ) (f : User → User)
    (hid : ∀ u, (f u).id = u.id) (hname : ∀ u, (f u).username = u.username) (name : String) :
    (t.update id f hid hname).byUsername.find? name =
      (t.byUsername.find? name).map fun u ↦ if u.id = id then f u else u :=
  Table.find?_map t.byUsername (fun u ↦ if u.id = id then f u else u)
    (fun u ↦ by split <;> simp [hname]) name

theorem directoryOf_update {f : User → User} {hid : ∀ u, (f u).id = u.id}
    {hname : ∀ u, (f u).username = u.username} {id : ℕ} {g : Account → Account}
    (hfg : ∀ u, accountOf site (f u) = g (accountOf site u)) :
    directoryOf site (db.updateUser id f hid hname) = (directoryOf site db).modify id g := by
  funext name
  rw [directoryOf, EmployeeDatabase.updateUser]
  simp only [find?_byUsername_update, Directory.modify, directoryOf, Option.map_map]
  congr 1
  funext u
  simp only [Function.comp_apply]
  by_cases hu : u.id = id
  · rw [if_pos hu, if_pos (show (accountOf site u).id = id from hu), hfg u]
  · rw [if_neg hu, if_neg (show (accountOf site u).id ≠ id from hu)]

theorem role_of_parseRole {role : String} {parsed : Role} (h : parseRole role = .ok parsed) :
    parsed = if role = "ADMIN" then .admin else .employee := by
  unfold parseRole at h
  split at h
  · rename_i hadmin
    cases h
    rw [if_pos hadmin]
  · rename_i hadmin
    rw [if_neg hadmin]
    split at h <;> cases h
    rfl

/-- **A request changes the users as its form says.** -/
theorem directoryOf_step (hlawful : site.argon2.Lawful)
    (hnormalize : ∀ name, site.normalize (site.normalize name) = site.normalize name)
    {q : SiteRequest} {a : Except Exn q.Val} (hstep : (siteRules site).step db q a db')
    {h : List SiteHappening} {acting : User} {route : Route} (hasks : Asks site h acting route q) :
    directoryOf site db' = (directoryOf site db).after site.normalize route ⟨q, a⟩ := by
  cases users_of_step hstep with
  | added hadded hcreated =>
    obtain ⟨username, displayName, password, role, rfl, husername, hdisplayName, hhash, hrole,
      hactive⟩ := hasks.insertUser
    funext name
    simp only [directoryOf, hadded.findName, hcreated, husername, hnormalize, Directory.after,
      Directory.add, Function.update_apply]
    split
    · simp [accountOf, hdisplayName, hactive, role_of_parseRole hrole,
        passwords_of_isHash hlawful hhash]
    · rfl
  | activated userId active hdb =>
    obtain ⟨form, rfl, rfl⟩ := hasks.setActive
    rw [hdb]
    exact directoryOf_update fun u ↦ rfl
  | rekeyed userId passwordHash hdb =>
    obtain ⟨password, rfl, hhash⟩ := hasks.setPasswordHash
    rw [hdb]
    refine directoryOf_update fun u ↦ ?_
    simp [accountOf, passwords_of_isHash hlawful hhash]
  | same he hdb =>
    rw [Directory.after_of_not_changesUsers site.normalize he]
    funext name
    simp only [directoryOf, hdb]

/-! ## Runs -/

variable {H : Type} {F : PortalReaderFactory H} {requests : ℕ → HttpRequest} {start : Workplace}
  {ls : SiteLabels} {p : SitePool}

/-- **The site changes its users as the accepted forms say**, in this order; polls do not change
them. -/
theorem directory_of_run (hlawful : site.argon2.Lawful)
    (hnormalize : ∀ name, site.normalize (site.normalize name) = site.normalize name)
    (h : IsSiteRun site F requests start ls p) :
    directoryOf site p.state.db =
      (directoryOf site start.db).afterRun site.normalize requests ls := by
  induction h using IsSiteRun.induct with
  | opened => rfl
  | polled ls q w _ hpoll ih =>
    rw [← ih]
    funext name
    simp only [directoryOf, hpoll.users]
  | served ls l q r hq h hstep _ ih =>
    rw [Directory.afterRun_append, ← ih]
    obtain ⟨hnil, hstate⟩ | ⟨task, r, k, a, -, -, hes, hanswer, -⟩ := answer_of_step hstep
    · rw [hstate]
      simp [Directory.afterRun, hnil]
    · obtain ⟨i, es⟩ := l
      obtain rfl : es = [⟨r, a⟩] := hes
      rw [Directory.afterRun_singleton]
      obtain hopen | ⟨user, -, hpermitted⟩ := h.mayAsk (List.mem_singleton_self _)
      · -- what anybody may ask changes no user
        have hsame : changesUsers ⟨r, a⟩ = false := by
          cases r <;> first | rfl | cases hopen
        rw [Directory.after_of_not_changesUsers site.normalize hsame]
        cases users_of_step hanswer with
        | same _ hdb =>
          funext name
          simp only [directoryOf, hdb]
        | _ => cases hopen
      · exact directoryOf_step hlawful hnormalize hanswer hpermitted.asked

/-- What a user who is looked up takes, their account takes. -/
theorem opens_directoryOf {name password : String} {a : Account} :
    (directoryOf site db).Opens name password a ↔
      ∃ user, db.users.byUsername.find? name = some user ∧ Accepts site user password ∧
        a = accountOf site user := by
  constructor
  · rintro ⟨haccount, hactive, hpassword⟩
    obtain ⟨user, hfound, rfl⟩ := Option.map_eq_some_iff.mp haccount
    exact ⟨user, hfound, ⟨hactive, hpassword⟩, rfl⟩
  · rintro ⟨user, hfound, ⟨hactive, hpassword⟩, rfl⟩
    exact ⟨by rw [directoryOf, hfound]; rfl, hactive, hpassword⟩

/-- **What a login is answered** is up to the forms: at some time while it is served, either the
name has an account that is open and takes the password, and the response has a token for this
account; or there is none, and the login is refused. -/
theorem login_verdict (hlawful : site.argon2.Lawful)
    (hnormalize : ∀ name, site.normalize (site.normalize name) = site.normalize name)
    (h : IsSiteRun site F requests start ls p) {i : ℕ} {username password : String}
    (hroute : (requests i).route = .loginSubmit username password)
    {task : Task SiteRequest.Val Exn Response} (htask : p.tasks i = some task) {response : Response}
    (hover : task.rest = .done (.ok response)) :
    ∃ before l after, ls = before ++ l :: after ∧ l.1 = i ∧
      ((∃ a now, ((directoryOf site start.db).afterRun site.normalize requests before).Opens
          (site.normalize username) password a ∧
          response = .redirect "/" (.set (site.codec.encode now a.id))) ∨
        (∀ a, ¬((directoryOf site start.db).afterRun site.normalize requests before).Opens
          (site.normalize username) password a) ∧ response = refused) := by
  have hends := h.ends htask hover
  rw [handle, hroute] at hends
  obtain ⟨found, hfound, hresponse⟩ := ends_loginSubmit hends
  -- the moment at which the user is looked up
  obtain ⟨before, after, q, q', rfl, hq, ⟨b, hanswer⟩, -⟩ := h.cut hfound
  have hlooked : found = q.state.db.users.byUsername.find? (site.normalize username) := by
    cases b with
    | error e => cases hanswer
    | ok b => exact (Except.ok.inj (congrArg Prod.fst hanswer)).symm
  refine ⟨before, _, after, rfl, rfl, ?_⟩
  simp only [← directory_of_run hlawful hnormalize hq, opens_directoryOf, ← hlooked]
  split at hresponse
  · rename_i hnone
    refine .inr ⟨?_, hresponse⟩
    rintro a ⟨user, rfl, haccepts, -⟩
    simp [Option.filter, haccepts] at hnone
  · rename_i user hsome
    obtain ⟨now, -, hresponse⟩ := hresponse
    obtain ⟨rfl, haccepts⟩ := Option.filter_eq_some_iff.mp hsome
    exact .inl ⟨_, now, ⟨user, rfl, of_decide_eq_true haccepts, rfl⟩, hresponse⟩

end

theorem plainSite_argon2_lawful : plainSite.argon2.Lawful := by
  intro salt password other
  rw [Bool.eq_iff_iff, decide_eq_true_iff]
  exact beq_iff_eq.trans eq_comm

/-- The employee logs in with the password of their account. -/
theorem login_verdict_employee : ∃ ls p before l after,
    IsPlainRun sessionRequests (newProcess staffed) ls p ∧ ls = before ++ l :: after ∧
      ∃ a, ((directoryOf plainSite staffed).afterRun id sessionRequests before).Opens
        "b" "b" a := by
  obtain ⟨ms, h, -⟩ :=
    exists_served (isPlainRun_empty sessionRequests (newProcess staffed)) [0, 0] (i := 0) rfl
  obtain ⟨before, l, after, hls, -, ⟨a, -, hopens, -⟩ | ⟨-, hrefused⟩⟩ :=
    login_verdict plainSite_argon2_lawful (fun _ ↦ rfl) h (i := 0) rfl rfl rfl
  · exact ⟨_, _, before, l, after, h, hls, a, hopens⟩
  · cases hrefused

end Site
end RmaPortal
