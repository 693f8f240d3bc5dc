import RmaPortal.Coroutine.Loop
import RmaPortal.Infrastructure.Portal.Parser

/-!
# Reading pages

What an entered `CamoufoxPortalReader` of `infrastructure/portal/camoufox_reader.py` does with its
page: `readAgreementQueue`, `readDossierDetails` and `verifyAuthenticated`.  A `PageRequest` is a
call of Playwright; every one of them is an `await`, so that anything may happen to the page
before its answer arrives, and every one of them may raise.

Two loops have no bound of their own: `verifyAuthenticated` and `pollForQueueView` poll until
something happens.  `waitForQueueView` is the latter with the number of polls it can make in a
real time: before its deadline, no more polls fit than the timeout has poll intervals.  Log lines
are left out.

## What is here

* `Markup` — what is displayed.  A markup also carries the address whose view it was rendered for;
  no program looks at that, and it is there so that a statement can say whose details a page has
  shown.
* `PageRequest`, `PageReader` — the calls, and what a reader works with: its configuration,
  Beautiful Soup and `urllib.parse.urljoin`, which are parameters.
* The selectors, the timeouts and the texts of the errors, as the source has them.
* `settle`, `assertAuthenticated`, `isAuthenticatedViewPresent`, `orReadError`, `suppressed` — the
  parts that the methods are made of; some of them swallow exceptions and some turn them into a
  `PortalReadError`.
* The queue: `applyGarageAgreFilter`, `goToPage`, `showPage`, `collectPage`, `collectPages`,
  `verifyLastPageReached`, `readPages`, and `readAgreementQueue`, whose `try` block ends with the
  pages that were collected and with how the loop ended.
* The details of a dossier: `openDetails`, `fetchDetails`, `readDossierDetails`.
* The polls: `pollQueueView`, `pollAuthenticated` and the loops over them.

What the text of a page says is in `Infrastructure.Portal.Parser`.
-/

set_option autoImplicit false

open Coroutine

namespace RmaPortal

/-- What is displayed: its markup, and the address whose view it was rendered for.  No program looks
at the latter. -/
structure Markup where
  html : String
  renderedFor : Option String
deriving DecidableEq

/-- What is asked of a page. -/
inductive PageRequest
  /-- `page.goto(url, wait_until="domcontentloaded", timeout=timeout)` -/
  | goto (url : String) (timeout : ℕ)
  /-- `page.content()` -/
  | content
  /-- `page.locator(selector).count()` -/
  | count (selector : String)
  /-- `page.locator(selector).first.is_visible()` -/
  | isVisible (selector : String)
  /-- `page.locator(selector).wait_for(state=state, timeout=timeout)` -/
  | waitFor (selector state : String) (timeout : ℕ)
  /-- `page.locator(selector).select_option(value=value, force=force, …)` -/
  | selectOption (selector value : String) (force : Bool)
  /-- `page.locator(selector).input_value()` -/
  | inputValue (selector : String)
  /-- `page.locator(selector).evaluate(…)`: dispatch `input` and `change`. -/
  | dispatchEvents (selector : String)
  /-- `page.locator(selector).click()` -/
  | click (selector : String)
  /-- `page.locator(selector).first.get_attribute(name)` -/
  | getAttribute (selector name : String)
  /-- `page.evaluate(_ROW_IDS_JS)` -/
  | rowIds
  /-- `page.wait_for_function(_PAGE_TRANSITION_JS, arg=[selector, expected, before_ids], …)` -/
  | waitForPageTransition (selector expected beforeIds : String) (timeout : ℕ)
  /-- `page.wait_for_load_state("networkidle", timeout=timeout)` -/
  | waitForNetworkIdle (timeout : ℕ)
  /-- `page.wait_for_timeout(milliseconds)` -/
  | waitForTimeout (milliseconds : ℕ)
  /-- `time.monotonic() >= deadline` -/
  | deadlinePassed

abbrev PageRequest.Val : PageRequest → Type
  | content => Markup
  | count _ => ℕ
  | isVisible _ => Bool
  | inputValue _ => String
  | getAttribute _ _ => Option String
  | rowIds => String
  | deadlinePassed => Bool
  | _ => Unit

/-- Programs of a page reader. -/
abbrev PageCall (α : Type) : Type := Coro PageRequest.Val Exn α

/-- What happened at a call of Playwright. -/
abbrev PageEvent : Type := Event PageRequest.Val Exn

/-- What an entered reader works with: its configuration, Beautiful Soup and
`urllib.parse.urljoin`. -/
structure PageReader (Tag : Type) where
  bs : BeautifulSoup Tag
  urljoin : String → String → String
  startRoute : String
  baseUrl : String
  procedureValue : String

namespace PageReader

def page (q : PageRequest) : PageCall q.Val := Coro.perform q

/-- The outcome of a computation that asks nothing. -/
def result {α : Type} (o : Except Exn α) : PageCall α := .done o

/-! ## Selectors and bounds -/

def authenticatedViewSelector : String := "#view_1874"

def procedureSelector : String := "#view_1874 #kn-conn-1-field_219"

def searchSubmitSelector : String := "#view_1874 form.kn-search_form button[type=\"submit\"]"

def pageSelectSelector : String := "#view_1874 .kn-page-select"

def nextPageSelector : String := "#view_1874 .kn-change-page.kn-next"

def detailSelector : String := ".field_114 .kn-detail-body"

def pageTransitionTimeoutMs : ℕ := 20000

def queueViewPollIntervalMs : ℕ := 500

def verifyPollIntervalMs : ℕ := 500

def queueViewTimeoutSeconds : ℕ := 45

/-! ## What the reading of a page is made of -/

/-- Best effort, never fatal. -/
def settle : PageCall Unit := do
  match ← (page (.waitForNetworkIdle 5000)).attempt with
  | .ok () => pure ()
  | .error e => if e.isException then pure () else throw e
  page (.waitForTimeout 250)

def authRequiredMessage : String :=
  "La session OmegaFlow doit être reconnectée (Configurer_Session_RMA.bat)."

def assertAuthenticated : PageCall Unit := do
  let markup ← page .content
  if Parser.detectAuthRequired markup.html then throw (.portalAuthRequiredError authRequiredMessage)

def isAuthenticatedViewPresent : PageCall Bool := do
  if 0 < (← page (.count authenticatedViewSelector)) then
    page (.isVisible authenticatedViewSelector)
  else pure false

def searchButtonMissing : String :=
  "Bouton de recherche OmegaFlow introuvable (étape: affichage du bouton, sélecteur: " ++
    Text.repr searchSubmitSelector ++ ")."

def searchTimedOut : String :=
  "Délai dépassé en attendant la fin de la recherche OmegaFlow (étape: recherche, sélecteur: " ++
    Text.repr searchSubmitSelector ++ ")."

/-- `try: … except Exception: raise PortalReadError(message)` -/
def orReadError (body : PageCall Unit) (message : String) : PageCall Unit := do
  match ← body.attempt with
  | .ok () => pure ()
  | .error e => throw (if e.isException then .portalReadError message else e)

/-- `with contextlib.suppress(Exception): …` -/
def suppressed (body : PageCall Unit) : PageCall Unit := do
  match ← body.attempt with
  | .ok () => pure ()
  | .error e => if e.isException then pure () else throw e

def submitSearch : PageCall Unit := do
  orReadError (page (.waitFor searchSubmitSelector "visible" 15000)) searchButtonMissing
  page (.click searchSubmitSelector)
  suppressed (page (.waitFor (searchSubmitSelector ++ ".is-loading") "attached" 2000))
  orReadError (page (.waitFor (searchSubmitSelector ++ ".is-loading") "detached" 20000))
    searchTimedOut
  settle

/-- The text of the error where the filter has not been applied. -/
def filterNotApplied (actualValue : String) : String :=
  "Le filtre Garage agréé n'a pas pu être appliqué (valeur obtenue: " ++ Text.repr actualValue ++
    ")."

/-- `_go_to_page` -/
def goToPage (pageNumber : ℕ) : PageCall Unit := do
  let beforeRowIds ← page .rowIds
  page (.selectOption pageSelectSelector (toString pageNumber) false)
  page (.waitForPageTransition pageSelectSelector (toString pageNumber) beforeRowIds
    pageTransitionTimeoutMs)
  settle

/-- Go to a page, and take its markup. -/
def showPage (pageNumber : ℕ) : PageCall Markup := do
  goToPage pageNumber
  let markup ← page .content
  assertAuthenticated
  pure markup

/-- What `_verify_last_page_reached` raises. -/
def morePagesError (totalPages : ℤ) : Exn :=
  .exception "RuntimeError" ("La file OmegaFlow semble contenir plus de " ++ toString totalPages ++
    " page(s) que prévu (le bouton 'suivant' n'est pas désactivé après la dernière page lue).")

/-- The class `disabled` is among the classes. -/
def isDisabled (classes : String) : Bool :=
  decide ("disabled".toList ∈ Text.words classes.toList)

def verifyLastPageReached (totalPages : ℤ) : PageCall Unit := do
  if (← page (.count nextPageSelector)) = 0 then pure ()
  else
    let classes ← page (.getAttribute nextPageSelector "class")
    if isDisabled (classes.getD "") then pure () else throw (morePagesError totalPages)

def queueViewTimedOut : Exn :=
  .portalReadError ("Délai dépassé en attendant la file OmegaFlow (étape: affichage de la file, " ++
    "après " ++ toString queueViewTimeoutSeconds ++ "s).")

/-- `_wait_for_queue_view`, with at most `polls` more polls before the deadline. -/
def waitForQueueView : ℕ → PageCall Unit
  | 0 => do
    assertAuthenticated
    if ← isAuthenticatedViewPresent then pure () else throw queueViewTimedOut
  | polls + 1 => do
    assertAuthenticated
    if ← isAuthenticatedViewPresent then pure ()
    else if ← page .deadlinePassed then throw queueViewTimedOut
    else
      page (.waitForTimeout queueViewPollIntervalMs)
      waitForQueueView polls

/-- A round of the loop of `_wait_for_queue_view`. -/
def pollQueueView : PageCall (Option Unit) := do
  assertAuthenticated
  if ← isAuthenticatedViewPresent then pure (some ())
  else if ← page .deadlinePassed then throw queueViewTimedOut
  else
    page (.waitForTimeout queueViewPollIntervalMs)
    pure none

/-- `_wait_for_queue_view` as it is written, in its first `n` rounds. -/
def pollForQueueView (n : ℕ) : PageCall (Option Unit) := rounds pollQueueView n

/-- A round of the loop of `verify_authenticated`. -/
def pollAuthenticated : PageCall (Option Unit) := do
  assertAuthenticated
  if ← isAuthenticatedViewPresent then pure (some ())
  else
    page (.waitForTimeout verifyPollIntervalMs)
    pure none

/-- How many polls fit before the deadline. -/
def queueViewPolls : ℕ := queueViewTimeoutSeconds * 1000 / queueViewPollIntervalMs

/-- What is raised where a page shows the rows of the page before it. -/
def stalePageResultError (pageNumber : ℕ) : Exn :=
  .exception "_StalePageResultError" ("La page " ++ toString pageNumber ++
    " affiche les mêmes dossiers que la page précédente (résultat probablement obsolète).")

/-- Two pages show the same records. -/
def sameIds (p q : QueueSnapshot) : Bool :=
  p.rows.all (fun r ↦ q.rows.any (·.recordId = r.recordId)) &&
    q.rows.all fun r ↦ p.rows.any (·.recordId = r.recordId)

section

variable {Tag : Type} (r : PageReader Tag)

def applyGarageAgreFilter : PageCall Unit := do
  page (.waitFor procedureSelector "attached" 15000)
  page (.selectOption procedureSelector r.procedureValue true)
  let actualValue ← page (.inputValue procedureSelector)
  if actualValue ≠ r.procedureValue then throw (.portalReadError (filterNotApplied actualValue))
  page (.dispatchEvents procedureSelector)
  submitSearch

/-- The body of the loop over the pages. -/
def collectPage (pagesCollected : List QueueSnapshot) (pageNumber : ℕ) :
    PageCall (List QueueSnapshot) := do
  let markup ← showPage pageNumber
  let snapshot ← result (Parser.parseQueuePage r.bs markup.html)
  if !snapshot.rows.isEmpty && (pagesCollected.getLast?.any (sameIds snapshot)) then
    throw (stalePageResultError pageNumber)
  pure (pagesCollected ++ [snapshot])

/-- The loop over the pages: the pages that were accepted, and how the loop ended. -/
def collectPages (pagesCollected : List QueueSnapshot) :
    List ℕ → PageCall (List QueueSnapshot × Except Exn Unit)
  | [] => pure (pagesCollected, .ok ())
  | pageNumber :: rest => do
    match ← (collectPage r pagesCollected pageNumber).attempt with
    | .ok pages => collectPages pages rest
    | .error e => pure (pagesCollected, .error e)

/-- Open the queue, filter it, and take the markup of its first page. -/
def openQueue : PageCall Markup := do
  page (.goto r.startRoute 60000)
  waitForQueueView queueViewPolls
  applyGarageAgreFilter r
  let markup ← page .content
  assertAuthenticated
  pure markup

/-- The queue's first page, and the markup it was read from. -/
def readFirstPage : PageCall (String × QueueSnapshot) := do
  let markup ← openQueue r
  let firstPage ← result (Parser.parseQueuePage r.bs markup.html)
  pure (markup.html, firstPage)

/-- `range(2, total_pages + 1)` -/
def furtherPages (totalPages : ℤ) : List ℕ := List.range' 2 (totalPages.toNat - 1)

/-- The `try` block of `read_agreement_queue`: `pages_collected`, and how the block ended. -/
def readPages : PageCall (List QueueSnapshot × Except Exn Unit) := do
  match ← (readFirstPage r).attempt with
  | .error e => pure ([], .error e)
  | .ok (html, firstPage) =>
    match Parser.parsePageCount r.bs html with
    | .error e => pure ([firstPage], .error e)
    | .ok totalPages =>
      let (pagesCollected, o) ← collectPages r [firstPage] (furtherPages totalPages)
      match o with
      | .error e => pure (pagesCollected, .error e)
      | .ok () =>
        let o ← (verifyLastPageReached totalPages).attempt
        pure (pagesCollected, o)

def incompleteMessage (e : Exn) : String :=
  "Lecture incomplète de la liste OmegaFlow (" ++ e.typeName ++ ")."

def readAgreementQueue : PageCall QueueSnapshot := do
  let (pagesCollected, o) ← readPages r
  match o with
  | .ok () => pure (Parser.mergeSnapshots pagesCollected)
  | .error (.portalAuthRequiredError message) => throw (.portalAuthRequiredError message)
  | .error (.portalReadError message) => throw (.portalReadError message)
  -- a subclass of `PortalReadError`
  | .error (.portalPartialReadError message snapshot) =>
    throw (.portalPartialReadError message snapshot)
  | .error e =>
    if e.isException then
      if pagesCollected.isEmpty then throw (.portalReadError (incompleteMessage e))
      else throw (.portalPartialReadError (incompleteMessage e)
        (Parser.mergeSnapshots pagesCollected))
    else throw e

/-- `verify_authenticated`, in the first `n` rounds of its loop. -/
def verifyAuthenticated (n : ℕ) : PageCall (Option Unit) := do
  page (.goto r.startRoute 30000)
  rounds pollAuthenticated n

/-- `urljoin(self._base_url, dossier.details_href)` -/
def target (dossier : PortalDossierRef) : String := r.urljoin r.baseUrl dossier.detailsHref

/-- The `try` block of `read_dossier_details`. -/
def openDetails (dossier : PortalDossierRef) : PageCall Markup := do
  page (.goto (r.target dossier) 60000)
  assertAuthenticated
  page (.waitFor detailSelector "visible" 30000)
  settle
  let markup ← page .content
  assertAuthenticated
  pure markup

def detailsUnreadable (dossier : PortalDossierRef) (e : Exn) : Exn :=
  .detailReadError ("Lecture du détail impossible pour " ++ dossier.recordId ++ " (" ++
    e.typeName ++ ").")

/-- … with its `except` clauses. -/
def fetchDetails (dossier : PortalDossierRef) : PageCall Markup := do
  match ← (openDetails r dossier).attempt with
  | .ok markup => pure markup
  | .error (.portalAuthRequiredError message) => throw (.portalAuthRequiredError message)
  | .error e => throw (if e.isException then detailsUnreadable dossier e else e)

def readDossierDetails (dossier : PortalDossierRef) : PageCall DossierDetails := do
  let markup ← fetchDetails r dossier
  let dates ← result (Parser.parseDossierDetails r.bs markup.html)
  pure { dates := dates, detailComplete := true, detailError := none }

end

end PageReader

end RmaPortal
