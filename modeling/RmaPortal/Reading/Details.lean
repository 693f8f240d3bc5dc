import RmaPortal.Infrastructure.Portal.PageReader

/-!
# Whose details are read

The portal is a single-page application: going from one dossier to the next changes only the
fragment of the address, which keeps the document, and the application replaces what it displays
when it gets round to it.  Nothing ties what it renders to the address of that moment: the view of a
dossier may arrive when the reader has long gone on to the next one.

## What is here

* `Tab` — a page of the browser together with everything that will happen to it: its `timeline` has
  one `Moment` for each call of Playwright that is still to come, and a `Moment` says which views
  are rendered meanwhile, each with the address it is of, and what the call raises.  A timeline is
  any list of moments, so that it stands for every speed of the portal and for every order in which
  its views arrive.
* `Readings` — one reader reads the details of some dossiers, one after the other, in such a tab.
* `Reading.Own` — what is wanted of a call: its dates are those of the markup it fetched, and that
  was rendered for the dossier the call was asked for.
* `Reading.InTime` — when the portal was quick enough for a call: of the views rendered between the
  navigation and the reading of the markup the last one is that of the dossier.  Where none is
  rendered, the tab must already display it.
* `details_own_iff` — the payoff: each dossier of a sequence gets its own details iff each call that
  returns was in time.

`readDossierDetails` waits for a view with the required field, and the view of the dossier before it
is one.  Its markup is compared with nothing, so that the wait is over at once
(`not_details_own`).

The proof counts: a program that returns has taken a known number of moments (`Takes`), so that what
it has read is what the tab displays so many moments after the navigation (`sat_openDetails`).
-/

set_option autoImplicit false

open Coroutine

namespace RmaPortal

namespace PageReader

/-! ## The browser and the portal -/

/-- What happens while a call of Playwright waits. -/
structure Moment where
  /-- The views that are rendered, the last one last, each with the address it is of. -/
  rendered : List Markup
  /-- What the call raises, if it does. -/
  raised : Option Exn
  /-- A navigation that raises has changed the address all the same. -/
  navigated : Bool
  /-- What a new document displays before anything is rendered. -/
  newDocument : String

/-- A moment in which nothing happens. -/
def Moment.quiet : Moment := ⟨[], none, true, ""⟩

structure Tab where
  url : String
  view : Markup
  timeline : List Moment

/-- An address without its fragment. -/
def document (url : String) : List Char := url.toList.takeWhile (· ≠ '#')

namespace Tab

/-- The portal displays a view, which need not be that of the current address. -/
def render (tab : Tab) (view : Markup) : Tab := { tab with view := view }

/-- What happens in the next moment … -/
def moment (tab : Tab) : Moment := tab.timeline.headD .quiet

/-- … and the tab after it. -/
def advance (tab : Tab) : Tab :=
  tab.moment.rendered.foldl render { tab with timeline := tab.timeline.tail }

/-- Another fragment keeps the document, with what it displays. -/
def navigate (tab : Tab) (url newDocument : String) : Tab :=
  if document url = document tab.url then { tab with url := url }
  else { tab with url := url, view := ⟨newDocument, none⟩ }

/-- The tab after a navigation. -/
def arrive (tab : Tab) (url : String) : Tab := tab.advance.navigate url tab.moment.newDocument

/-- The tab after a call of Playwright. -/
def after (tab : Tab) : PageRequest → Tab
  | .goto url _ =>
    if tab.moment.raised.isNone || tab.moment.navigated then tab.arrive url else tab.advance
  | _ => tab.advance

section

variable (visible : String → String → Bool)

/-- How a call is answered that does not raise.  A wait for an element is over as soon as there is
one: `visible html selector` says that the markup has a visible element which the selector
matches. -/
def answer : (q : PageRequest) → Except Exn q.Val → Tab → Except Exn q.Val
  | .goto _ _, _, _ => .ok ()
  | .content, _, tab => .ok tab.view
  | .waitFor selector "visible" _, _, tab =>
    if visible tab.view.html selector then .ok ()
    else .error (.exception "TimeoutError" "Locator.wait_for: Timeout exceeded.")
  | _, b, _ => b

/-- How the browser answers. -/
def serve (q : PageRequest) (b : Except Exn q.Val) (tab : Tab) : Except Exn q.Val × Tab :=
  match tab.moment.raised with
  | some e => (.error e, tab.after q)
  | none => (answer visible q b tab.advance, tab.after q)

end

end Tab

/-- A call of `read_dossier_details`: what it was asked for, the tab it began with, what happened
and how it ended. -/
structure Reading where
  dossier : PortalDossierRef
  before : Tab
  events : List PageEvent
  outcome : Except Exn DossierDetails

section

variable {Tag : Type} (visible : String → String → Bool) (r : PageReader Tag)

/-- One reader reads the details of some dossiers, one after the other. -/
inductive Readings : Tab → List Reading → Tab → Prop
  | nil (tab : Tab) : Readings tab [] tab
  | cons {tab tab' tab'' : Tab} {dossier : PortalDossierRef} {t : List PageEvent}
      {o : Except Exn DossierDetails} {xs : List Reading}
      (h : Exec (Spec.ofServer (Tab.serve visible)) (readDossierDetails r dossier) tab t o tab')
      (hrest : Readings tab' xs tab'') : Readings tab (⟨dossier, tab, t, o⟩ :: xs) tab''

namespace Reading

/-- **Details are attributed to the right dossier**: if the call returns, its dates are those in
the markup it fetched, and that was rendered for the dossier it was asked for. -/
def Own (x : Reading) : Prop :=
  ∀ details, x.outcome = .ok details → ∃ markup,
    Ends (fetchDetails r x.dossier) x.events (.ok markup) ∧
    Parser.parseDossierDetails r.bs markup.html = .ok details.dates ∧
    markup.renderedFor = some (r.target x.dossier)

/-- How many calls of Playwright there are from the answer to `goto` up to the answer that is
parsed: the markup is checked for the login form, an element is waited for, `_settle` waits twice,
and the markup is read. -/
def callsUpToMarkup : ℕ := 5

/-- The views that are rendered after the navigation and before the markup is read. -/
def rendered (x : Reading) : List Markup :=
  ((x.before.timeline.drop 1).take callsUpToMarkup).flatMap Moment.rendered

/-- The last view that is rendered after the navigation and before the markup is read is that of the
dossier; if none is, the tab displays it when it is asked to go there. -/
def InTime (x : Reading) : Prop :=
  (∃ view, x.rendered.getLast? = some view ∧ view.renderedFor = some (r.target x.dossier)) ∨
    (x.rendered = [] ∧ document (r.target x.dossier) = document x.before.advance.url ∧
      x.before.advance.view.renderedFor = some (r.target x.dossier))

/-- The call returns normally. -/
def Returned (x : Reading) : Prop := ∃ details, x.outcome = .ok details

end Reading

end

/-! ## What the tab displays -/

section

variable {tab : Tab}

theorem foldl_render (views : List Markup) (tab : Tab) :
    views.foldl Tab.render tab = { tab with view := views.getLast?.getD tab.view } := by
  induction views generalizing tab with
  | nil => rfl
  | cons view views ih =>
    rw [List.foldl_cons, ih, List.getLast?_cons]
    rfl

theorem advance_eq (tab : Tab) : tab.advance =
    { tab with
      view := tab.moment.rendered.getLast?.getD tab.view
      timeline := tab.timeline.tail } := foldl_render _ _

theorem advance_timeline : tab.advance.timeline = tab.timeline.tail := by rw [advance_eq]

theorem advance_view : tab.advance.view = tab.moment.rendered.getLast?.getD tab.view := by
  rw [advance_eq]

/-- Some moments later the tab displays what has been rendered last, or what it displayed before if
nothing has. -/
theorem advance_iterate_view (n : ℕ) (tab : Tab) :
    (Tab.advance^[n] tab).view =
      ((tab.timeline.take n).flatMap Moment.rendered).getLast?.getD tab.view := by
  induction n generalizing tab with
  | zero => simp
  | succ n ih =>
    rw [Function.iterate_succ_apply, ih, advance_timeline, advance_view, Tab.moment]
    cases tab.timeline with
    | nil => simp [Moment.quiet]
    | cons m ms =>
      rw [List.headD_cons, List.tail_cons, List.take_succ_cons, List.flatMap_cons,
        List.getLast?_append]
      cases ((ms.take n).flatMap Moment.rendered).getLast? <;> rfl

/-- A navigation displays the view of the address if the tab displayed it and keeps its document. -/
theorem arrive_view (tab : Tab) (url : String) :
    (tab.arrive url).url = url ∧ (tab.arrive url).timeline = tab.timeline.tail ∧
      ((tab.arrive url).view.renderedFor = some url ↔
        document url = document tab.advance.url ∧ tab.advance.view.renderedFor = some url) := by
  rw [Tab.arrive, Tab.navigate]
  split
  · rename_i hdocument
    exact ⟨rfl, advance_timeline, by simp [hdocument]⟩
  · rename_i hdocument
    exact ⟨rfl, advance_timeline, by simp [hdocument]⟩

end

/-! ## How many moments a program takes -/

section

variable {Tag : Type} {visible : String → String → Bool} {r : PageReader Tag} {α β : Type}
  {tab : Tab} {m n : ℕ} {q : PageRequest} {dossier : PortalDossierRef}

/-- If the program returns, then after `n` moments, with a value that satisfies `R`. -/
def Takes (visible : String → String → Bool) (c : PageCall α) (tab : Tab) (n : ℕ)
    (R : α → Prop) : Prop :=
  Sat (Spec.ofServer (Tab.serve visible)) c tab fun _ o tab' ↦
    ∀ v, o = .ok v → tab' = Tab.advance^[n] tab ∧ R v

theorem takes_pure {v : α} {R : α → Prop} (h : R v) : Takes visible (pure v) tab 0 R := by
  refine sat_pure ?_
  rintro _ ⟨⟩
  exact ⟨rfl, h⟩

theorem takes_throw {e : Exn} {R : α → Prop} : Takes visible (throw e : PageCall α) tab n R :=
  sat_throw fun _ ho ↦ by cases ho

theorem takes_bind {c : PageCall α} {f : α → PageCall β} {R : α → Prop} {R' : β → Prop}
    (hc : Takes visible c tab m R) (hf : ∀ v, R v → Takes visible (f v) (Tab.advance^[m] tab) n R')
    {k : ℕ} (hk : k = n + m) : Takes visible (c >>= f) tab k R' := by
  subst hk
  refine sat_bind hc (fun t v tab' h ↦ ?_) fun t e tab' _ v ho ↦ by cases ho
  obtain ⟨rfl, hv⟩ := h v rfl
  refine (hf v hv).mono fun t' o tab' h v ho ↦ ?_
  rw [Function.iterate_add_apply]
  exact h v ho

/-- A call of Playwright that does not navigate takes one moment, whether it raises or not. -/
theorem sat_page {Q : List PageEvent → Except Exn q.Val → Tab → Prop}
    (hq : ∀ url timeout, q ≠ .goto url timeout) (h : ∀ t a, Q t a tab.advance) :
    Sat (Spec.ofServer (Tab.serve visible)) (page q) tab Q := by
  refine sat_perform trivial fun a tab' hstep ↦ ?_
  obtain ⟨b, hb⟩ := hstep
  have htab : (Tab.serve visible q b tab).2 = tab.advance := by
    rw [Tab.serve]
    cases q with
    | goto url timeout => exact (hq url timeout rfl).elim
    | _ => cases tab.moment.raised <;> rfl
  rw [hb] at htab
  obtain rfl : tab' = tab.advance := htab
  exact h _ a

theorem takes_page (hq : ∀ url timeout, q ≠ .goto url timeout) :
    Takes visible (page q) tab 1 fun _ ↦ True :=
  sat_page hq fun _ _ _ _ ↦ ⟨rfl, trivial⟩

/-- The content of a page is what the tab displays. -/
theorem takes_content : Takes visible (page .content) tab 1 fun v ↦ v = tab.advance.view := by
  refine sat_perform trivial fun a tab' hstep ↦ ?_
  obtain ⟨b, hb⟩ := hstep
  rintro v rfl
  rw [Tab.serve] at hb
  cases hraised : tab.moment.raised with
  | some e => rw [hraised] at hb; cases hb
  | none =>
    rw [hraised] at hb
    cases hb
    exact ⟨rfl, rfl⟩

theorem takes_assertAuthenticated :
    Takes visible assertAuthenticated tab 1 fun _ ↦ True := by
  refine takes_bind (n := 0) takes_content (fun markup _ ↦ ?_) rfl
  split
  · exact takes_throw
  · exact takes_pure trivial

theorem takes_settle : Takes visible settle tab 2 fun _ ↦ True := by
  have htimeout : Takes visible (page (.waitForTimeout 250)) tab.advance 1 fun _ ↦ True :=
    takes_page (by simp)
  refine sat_attempt_bind (R := fun _ _ tab' ↦ tab' = tab.advance)
    (sat_page (by simp) fun _ _ ↦ rfl) ?_
  rintro t (e | _) _ rfl
  · dsimp only
    split
    · exact htimeout.mono fun _ _ _ h ↦ h
    · exact sat_bind (R := fun _ o _ ↦ o = .error e) (sat_throw rfl)
        (fun _ _ _ ho ↦ by cases ho) fun _ _ _ ho v hv ↦ by cases hv
  · exact htimeout.mono fun _ _ _ h ↦ h

/-- A navigation that does not raise arrives. -/
theorem sat_goto {url : String} {timeout : ℕ} :
    Sat (Spec.ofServer (Tab.serve visible)) (page (.goto url timeout)) tab fun _ a tab' ↦
      a = .ok () → tab' = tab.arrive url := by
  refine sat_perform trivial fun a tab' hstep ↦ ?_
  obtain ⟨b, hb⟩ := hstep
  rintro rfl
  rw [Tab.serve, Tab.after] at hb
  cases hraised : tab.moment.raised with
  | some e => rw [hraised] at hb; cases hb
  | none =>
    rw [hraised] at hb
    cases hb
    rfl

/-- The markup that is fetched is what the tab displays five moments after the navigation. -/
theorem sat_openDetails :
    Sat (Spec.ofServer (Tab.serve visible)) (openDetails r dossier) tab fun _ o _ ↦
      ∀ markup, o = .ok markup →
        markup = (Tab.advance^[Reading.callsUpToMarkup] (tab.arrive (r.target dossier))).view := by
  rw [openDetails]
  refine sat_bind sat_goto (fun t _ tab' htab ↦ ?_) fun t e tab' _ markup ho ↦ by cases ho
  obtain rfl := htab rfl
  refine Sat.mono (?_ : Takes visible _ _ 6 fun markup ↦
    markup = (Tab.advance^[Reading.callsUpToMarkup] (tab.arrive (r.target dossier))).view)
      fun _ o _ h markup ho ↦ (h markup ho).2
  refine takes_bind (n := 5) takes_assertAuthenticated (fun _ _ ↦ ?_) rfl
  refine takes_bind (n := 4) (takes_page (by simp)) (fun _ _ ↦ ?_) rfl
  refine takes_bind (n := 2) takes_settle (fun _ _ ↦ ?_) rfl
  refine takes_bind (n := 1) takes_content (fun markup hmarkup ↦ ?_) rfl
  refine takes_bind (n := 0) takes_assertAuthenticated (fun _ _ ↦ takes_pure ?_) rfl
  rw [hmarkup, ← Function.iterate_add_apply, ← Function.iterate_add_apply,
    ← Function.iterate_succ_apply' Tab.advance]
  rfl

theorem sat_fetchDetails :
    Sat (Spec.ofServer (Tab.serve visible)) (fetchDetails r dossier) tab fun _ o _ ↦
      ∀ markup, o = .ok markup →
        markup = (Tab.advance^[Reading.callsUpToMarkup] (tab.arrive (r.target dossier))).view := by
  refine sat_attempt_bind sat_openDetails fun t o tab' h ↦ ?_
  rcases o with e | markup
  · cases e <;> exact sat_throw fun _ ho ↦ by cases ho
  · exact sat_pure h

/-- A call that returns has parsed the markup it has fetched. -/
theorem sat_readDossierDetails :
    Sat (Spec.ofServer (Tab.serve visible)) (readDossierDetails r dossier) tab fun t o _ ↦
      ∀ details, o = .ok details → ∃ markup, Ends (fetchDetails r dossier) t (.ok markup) ∧
        Parser.parseDossierDetails r.bs markup.html = .ok details.dates ∧
        markup = (Tab.advance^[Reading.callsUpToMarkup] (tab.arrive (r.target dossier))).view := by
  refine sat_bind sat_fetchDetails.ends (fun t markup tab' h ↦ ?_) fun _ _ _ _ _ ho ↦ by cases ho
  cases hdates : Parser.parseDossierDetails r.bs markup.html with
  | error e => exact sat_throw fun _ ho ↦ by cases ho
  | ok dates =>
    refine sat_pure ?_
    rintro _ ⟨⟩
    rw [List.append_nil]
    exact ⟨markup, h.2, hdates, h.1 markup rfl⟩

end

/-! ## Every sequence of calls -/

section

variable {Tag : Type} {visible : String → String → Bool} {r : PageReader Tag} {tab tab' : Tab}

/-- The tab displays the view of a dossier when its markup is read iff the portal is in time. -/
theorem displays_iff (x : Reading) :
    (Tab.advance^[Reading.callsUpToMarkup]
      (x.before.arrive (r.target x.dossier))).view.renderedFor =
      some (r.target x.dossier) ↔ x.InTime r := by
  obtain ⟨-, htimeline, hview⟩ := arrive_view x.before (r.target x.dossier)
  rw [advance_iterate_view, htimeline, ← List.drop_one, Reading.InTime, ← hview]
  change (x.rendered.getLast?.getD _).renderedFor = _ ↔ _
  cases hlast : x.rendered.getLast? with
  | none => simp [List.getLast?_eq_none_iff.mp hlast]
  | some view =>
    have hne : x.rendered ≠ [] := fun h ↦ by rw [h] at hlast; cases hlast
    simp [hne]

/-- **One call**: the details are the right ones if they are read in time, and only then. -/
theorem own_iff {dossier : PortalDossierRef} {t : List PageEvent} {o : Except Exn DossierDetails}
    (h : Exec (Spec.ofServer (Tab.serve visible)) (readDossierDetails r dossier) tab t o tab') :
    Reading.Own r ⟨dossier, tab, t, o⟩ ↔
      (Reading.Returned ⟨dossier, tab, t, o⟩ → Reading.InTime r ⟨dossier, tab, t, o⟩) := by
  have hread := sat_readDossierDetails.exec h
  have hdisplays := displays_iff (r := r) ⟨dossier, tab, t, o⟩
  dsimp only at hdisplays
  constructor
  · rintro hown ⟨details, hdetails⟩
    obtain ⟨markup, hends, -, hfor⟩ := hown details hdetails
    obtain ⟨markup', hends', -, rfl⟩ := hread details hdetails
    cases (hends.unique hends' (show t ++ [] = t ++ [] from rfl)).2
    exact hdisplays.mp hfor
  · intro htime details hdetails
    obtain ⟨markup, hends, hdates, rfl⟩ := hread details hdetails
    exact ⟨_, hends, hdates, hdisplays.mpr (htime ⟨details, hdetails⟩)⟩

/-- **When details are attributed to the right dossiers**: iff each call that returns has been in
time. -/
theorem details_own_iff {xs : List Reading} (h : Readings visible r tab xs tab') :
    (∀ x ∈ xs, x.Own r) ↔ ∀ x ∈ xs, x.Returned → x.InTime r := by
  induction h with
  | nil tab => simp
  | cons h _ ih =>
    rw [List.forall_mem_cons, List.forall_mem_cons]
    exact and_congr (own_iff h) ih

end

/-! ## Two dossiers -/

/-- The markup of the details of a dossier whose estimate was sent on that day. -/
def detailMarkup (date : String) : String :=
  "<div class=\"field_114\"><span class=\"kn-detail-body\">" ++ date ++ "</span></div>"

/-- Beautiful Soup, as it reads the markup of two dossiers. -/
def twoSoups : BeautifulSoup String where
  parse html := .ok html
  select tag selector :=
    if selector = detailSelector then
      (["01/02/2026", "03/04/2026"].filter fun date ↦ detailMarkup date = tag)
    else []
  get _ _ := none
  getText tag := tag

/-- A reader for which the addresses of dossiers differ in their fragments. -/
def twoDossiersReader : PageReader String where
  bs := twoSoups
  urljoin base href := base ++ href
  startRoute := "https://portal/#dossiers"
  baseUrl := "https://portal/"
  procedureValue := "5ed644a2faf17c0015d8c367"

def dossierA : PortalDossierRef := ⟨"a", "#view-dossier-details/a"⟩

def dossierB : PortalDossierRef := ⟨"b", "#view-dossier-details/b"⟩

/-- Whether the markup displays the required date. -/
def twoVisible (html selector : String) : Bool := !(twoSoups.select html selector).isEmpty

/-- The views of the two dossiers. -/
def viewA : Markup := ⟨detailMarkup "01/02/2026", some (twoDossiersReader.target dossierA)⟩

def viewB : Markup := ⟨detailMarkup "03/04/2026", some (twoDossiersReader.target dossierB)⟩

/-- The portal renders the view of the first dossier as soon as it is asked for, and some views when
it is asked for the second one. -/
def twoTimeline (second : List Markup) : List Moment :=
  [.quiet, ⟨[viewA], none, true, ""⟩, .quiet, .quiet, .quiet, .quiet, .quiet, .quiet,
    ⟨second, none, true, ""⟩]

def twoTab (second : List Markup) : Tab :=
  ⟨"https://portal/#dossiers", ⟨"<div id=\"view_1874\"></div>", none⟩, twoTimeline second⟩

/-- What the browser is told to answer where the tab does not decide. -/
def plainly : (q : PageRequest) → Except Exn q.Val
  | .content => .ok ⟨"", none⟩
  | .count _ => .ok (0 : ℕ)
  | .isVisible _ => .ok false
  | .inputValue _ => .ok ""
  | .getAttribute _ _ => .ok none
  | .rowIds => .ok ""
  | .deadlinePassed => .ok false
  | .goto _ _ => .ok ()
  | .waitFor _ _ _ => .ok ()
  | .selectOption _ _ _ => .ok ()
  | .dispatchEvents _ => .ok ()
  | .click _ => .ok ()
  | .waitForPageTransition _ _ _ _ => .ok ()
  | .waitForNetworkIdle _ => .ok ()
  | .waitForTimeout _ => .ok ()

/-- What a call in the tab comes to. -/
def ran (tab : Tab) (dossier : PortalDossierRef) :
    List PageEvent × Except Exn DossierDetails × Tab :=
  run (Tab.serve twoVisible) (fun _ ↦ plainly) (readDossierDetails twoDossiersReader dossier) 0 tab

/-- A call in the tab. -/
def read (tab : Tab) (dossier : PortalDossierRef) : Reading :=
  ⟨dossier, tab, (ran tab dossier).1, (ran tab dossier).2.1⟩

/-- The tab after a call for the first dossier. -/
def secondTab (second : List Markup) : Tab := (ran (twoTab second) dossierA).2.2

/-- Two calls, for the first dossier and for the second one. -/
def readTwo (second : List Markup) : List Reading :=
  [read (twoTab second) dossierA, read (secondTab second) dossierB]

theorem exec_ran (tab : Tab) (dossier : PortalDossierRef) :
    Exec (Spec.ofServer (Tab.serve twoVisible)) (readDossierDetails twoDossiersReader dossier) tab
      (ran tab dossier).1 (ran tab dossier).2.1 (ran tab dossier).2.2 := exec_run ..

/-- One call after the other. -/
theorem readings_read {tab tab' : Tab} {dossier : PortalDossierRef} {xs : List Reading}
    (h : Readings twoVisible twoDossiersReader (ran tab dossier).2.2 xs tab') :
    Readings twoVisible twoDossiersReader tab (read tab dossier :: xs) tab' :=
  .cons (exec_ran tab dossier) h

theorem readings_readTwo (second : List Markup) :
    Readings twoVisible twoDossiersReader (twoTab second) (readTwo second)
      (ran (secondTab second) dossierB).2.2 := by
  rw [readTwo]
  apply readings_read
  rw [← secondTab]
  exact readings_read (.nil _)

/-- The dates that are returned, and what was rendered in time. -/
def Reading.summary (x : Reading) : Option String × List Markup :=
  (x.outcome.toOption.map (·.dates.dateEnvoiDevisGarageRaw), x.rendered)

/-- The view of the first dossier comes once more, and then that of the second one. -/
theorem summary_quick : (readTwo [viewA, viewB]).map Reading.summary =
    [(some "01/02/2026", [viewA]), (some "03/04/2026", [viewA, viewB])] := by decide +kernel

theorem summary_slow : (read (secondTab []) dossierB).summary = (some "01/02/2026", []) ∧
    (secondTab []).advance.view.renderedFor = some (twoDossiersReader.target dossierA) := by
  decide +kernel

/-- If the portal is quick enough, both dossiers get their own details. -/
theorem details_own_iff_quick : (read (twoTab [viewA, viewB]) dossierA).Own twoDossiersReader ∧
    (read (secondTab [viewA, viewB]) dossierB).Own twoDossiersReader := by
  suffices hall : ∀ x ∈ readTwo [viewA, viewB], x.Own twoDossiersReader from
    ⟨hall _ (.head _), hall _ (.tail _ (.head _))⟩
  obtain ⟨hfirst, hsecond⟩ := List.cons.inj summary_quick
  refine (details_own_iff (readings_readTwo [viewA, viewB])).mpr ?_
  rintro x (_ | ⟨_, _ | ⟨_, ⟨⟩⟩⟩) -
  · exact .inl ⟨viewA, by rw [(Prod.mk.inj hfirst).2]; rfl, rfl⟩
  · exact .inl ⟨viewB, by rw [(Prod.mk.inj (List.cons.inj hsecond).1).2]; rfl, rfl⟩

/-- **The second dossier gets the details of the first one** if the portal is slow. -/
theorem not_details_own :
    ¬∀ tab xs tab', Readings twoVisible twoDossiersReader tab xs tab' →
      ∀ x ∈ xs, x.Own twoDossiersReader := by
  intro h
  have hown := h _ _ _ (readings_readTwo []) _ (.tail _ (.head _))
  obtain ⟨hsummary, hfirst⟩ := summary_slow
  obtain ⟨hdate, hnothing⟩ := Prod.mk.inj hsummary
  have hreturned : (read (secondTab []) dossierB).Returned := by
    rw [Reading.Returned]
    generalize (read (secondTab []) dossierB).outcome = o at hdate
    cases o with
    | error e => cases hdate
    | ok details => exact ⟨details, rfl⟩
  -- nothing has been rendered since the navigation, and the tab displays the first dossier
  rcases (own_iff (exec_ran (secondTab []) dossierB)).mp hown hreturned with
    ⟨view, hlast, -⟩ | ⟨-, -, hdisplays⟩
  · cases (congrArg List.getLast? hnothing).symm.trans hlast
  · exact absurd (Option.some.inj (hfirst.symm.trans hdisplays)) (by decide +kernel)

end PageReader

end RmaPortal
