import RmaPortal.Data.Table
import RmaPortal.Data.Text
import RmaPortal.Domain.Models

/-!
# Reading the portal's markup

`infrastructure/portal/parser.py`: the functions that make rows, details and dates of the markup
of a page.  The markup itself is taken apart by Beautiful Soup, of which `BeautifulSoup` says what
the parser calls; a program that uses it is a program for any Beautiful Soup.

## What is here

* `Directive`, `alternatives`, `results`, `strptime` — dates are recognized the way
  `datetime.strptime` does it: a directive stands for some alternatives, the first way to match
  all directives counts, and nothing may be left over.  The alternatives are those of the regular
  expressions in the standard library, and are tried in the order in which they stand there.
* `datetime?`, `daysInMonth`, `isLeap` — the dates there are.
* `parseFrenchDate` — the formats one after the other, on the normalized text; `emptyMarkers` are
  the texts that stand for no date.  The raw text is handed on in any case.  `parseFrenchDateIn`
  attaches the time zone, which may turn out not to be known.
* `parseQueuePage`, `parsePageCount`, `mergeSnapshots` — a page of the queue, the number of pages,
  and one row for each record of all pages: where it was first seen, as it was last seen.
* `parseDossierDetails` — the details of one dossier, with the row that a field of the page is
  looked up in.
* `detectAuthRequired` — whether a page is the login form or the screen that asks to confirm the
  session.

A date that has been read is a wall-clock time in the time zone of the portal.  The selectors are
the strings of the source; which elements they select is for Beautiful Soup to say.
-/

set_option autoImplicit false

namespace RmaPortal

/-- What the parser calls of Beautiful Soup. -/
structure BeautifulSoup (Tag : Type) where
  /-- `BeautifulSoup(html, "html.parser")` -/
  parse : String → Except Exn Tag
  /-- `tag.select(selector)` -/
  select : Tag → String → List Tag
  /-- `tag.get(name)` -/
  get : Tag → String → Option String
  /-- `tag.get_text(" ", strip=True)` -/
  getText : Tag → String

/-- `tag.select_one(selector)` -/
def BeautifulSoup.selectOne {Tag : Type} (bs : BeautifulSoup Tag) (tag : Tag) (selector : String) :
    Option Tag := (bs.select tag selector).head?

namespace Parser

/-! ## Dates -/

/-- A part of a format of `strptime`. -/
inductive Directive
  /-- `%d` -/
  | day
  /-- `%m` -/
  | month
  /-- `%Y` -/
  | year
  /-- `%H` -/
  | hour
  /-- `%M` -/
  | minute
  /-- `%S` -/
  | second
  /-- A character that stands for itself. -/
  | literal (c : Char)
  /-- White space. -/
  | spaces

/-- `[a-b]` -/
def between (a b c : Char) : Bool := a ≤ c && c ≤ b

/-- `\d` -/
def isDigit (c : Char) : Bool := (Text.digit? c).isSome

namespace Directive

/-- The alternatives of a directive that stands for a number. -/
def alternatives : Directive → List (List (Char → Bool))
  | day =>
    [[between '3' '3', between '0' '1'], [between '1' '2', isDigit],
      [between '0' '0', between '1' '9'], [between '1' '9'], [between ' ' ' ', between '1' '9']]
  | month => [[between '1' '1', between '0' '2'], [between '0' '0', between '1' '9'],
      [between '1' '9']]
  | year => [[isDigit, isDigit, isDigit, isDigit]]
  | hour => [[between '2' '2', between '0' '3'], [between '0' '1', isDigit], [isDigit]]
  | minute => [[between '0' '5', isDigit], [isDigit]]
  | second => [[between '6' '6', between '0' '1'], [between '0' '5', isDigit], [isDigit]]
  | literal _ | spaces => []

/-- The number that is written at the beginning of `s`, and what is left. -/
def number (s : List Char) (alternative : List (Char → Bool)) : Option (List ℕ × List Char) :=
  let t := s.take alternative.length
  if t.length = alternative.length ∧ ((alternative.zip t).all fun p ↦ p.1 p.2) = true then
    some ([Text.value (t.filterMap Text.digit?)], s.drop alternative.length)
  else none

/-- The ways to match a directive: the numbers read, and what is left. -/
def results : Directive → List Char → List (List ℕ × List Char)
  | literal c, d :: s => if d = c then [([], s)] else []
  | literal _, [] => []
  | spaces, s =>
    let n := (s.takeWhile Text.isSpace).length
    (List.range n).map fun k ↦ ([], s.drop (n - k))
  | d, s => d.alternatives.filterMap (number s)

end Directive

/-- The ways to match a format, in the order in which they are tried. -/
def results : List Directive → List Char → List (List ℕ × List Char)
  | [], s => [([], s)]
  | d :: ds, s => (d.results s).flatMap fun p ↦ (results ds p.2).map fun q ↦ (p.1 ++ q.1, q.2)

def isLeap (year : ℕ) : Bool := year % 4 = 0 && (year % 100 ≠ 0 || year % 400 = 0)

def daysInMonth (year : ℕ) : ℕ → ℕ
  | 2 => if isLeap year then 29 else 28
  | 4 | 6 | 9 | 11 => 30
  | _ => 31

/-- `datetime(year, month, day, hour, minute, second)`, unless it raises a `ValueError`. -/
def datetime? (year month day hour minute second : ℕ) : Option Datetime :=
  if 1 ≤ year ∧ 1 ≤ month ∧ month ≤ 12 ∧ 1 ≤ day ∧ day ≤ daysInMonth year month ∧ hour ≤ 23 ∧
      minute ≤ 59 ∧ second ≤ 59 then
    some ⟨year, month, day, hour, minute, second, 0⟩
  else none

/-- The date with the fields that were read, in the order of the formats. -/
def ofFields : List ℕ → Option Datetime
  | [day, month, year] => datetime? year month day 0 0 0
  | [day, month, year, hour, minute] => datetime? year month day hour minute 0
  | [day, month, year, hour, minute, second] => datetime? year month day hour minute second
  | _ => none

/-- `datetime.strptime(s, format)`, unless it raises a `ValueError`. -/
def strptime (format : List Directive) (s : String) : Option Datetime :=
  match (results format s.toList).head? with
  | some (fields, []) => ofFields fields
  | _ => none

/-- `"%d/%m/%Y"` -/
def datePattern : List Directive := [.day, .literal '/', .month, .literal '/', .year]

/-- `"%d/%m/%Y %H:%M:%S"` and `"%d/%m/%Y %H:%M"` -/
def datetimePatterns : List (List Directive) :=
  [datePattern ++ [.spaces, .hour, .literal ':', .minute, .literal ':', .second],
    datePattern ++ [.spaces, .hour, .literal ':', .minute]]

def emptyMarkers : List String := ["", "-", "—", "--"]

/-- Parse a French date: the date, if there is one, and the raw text, normalized. -/
def parseFrenchDate (raw : String) : Option Datetime × String :=
  let clean := Text.normalize raw
  if clean ∈ emptyMarkers then (none, clean)
  else
    match datetimePatterns.findSome? (strptime · clean) with
    | some d => (some d, clean)
    | none => (strptime datePattern clean, clean)

example : (parseFrenchDate " 1/2/2026  8:05").1 = some ⟨2026, 2, 1, 8, 5, 0, 0⟩ ∧
    (parseFrenchDate "29/02/2026").1 = none := by decide +kernel

/-- `parse_french_date`, with the time zone: `zoneInfo` is `ZoneInfo`. -/
def parseFrenchDateIn {Zone : Type} (zoneInfo : String → Except Exn Zone)
    (raw timezoneId : String) : Except Exn (Option (Datetime × Zone) × String) := do
  let clean := Text.normalize raw
  if clean ∈ emptyMarkers then pure (none, clean)
  else
    let tzinfo ← zoneInfo timezoneId
    match datetimePatterns.findSome? (strptime · clean) with
    | some d => pure (some (d, tzinfo), clean)
    | none => pure ((strptime datePattern clean).map fun d ↦ (d, tzinfo), clean)

/-! ## Pages -/

/-- The details link contains this text, with its trailing slash. -/
def detailsHrefMarker : String := "view-dossier-details/"

/-- A `PortalMarkupError` -/
def markupError (message : String) : Exn := .exception "PortalMarkupError" message

section

variable {Tag : Type} (bs : BeautifulSoup Tag)

def text : Option Tag → String
  | none => ""
  | some node => Text.normalize (bs.getText node)

def cell (row : Tag) (fieldClass : String) : String :=
  text bs (bs.selectOne row ("." ++ fieldClass))

def detailsHref (row : Tag) : Except Exn String :=
  let hrefs := (bs.select row "a[href]").map fun anchor ↦ (bs.get anchor "href").getD ""
  match hrefs.find? fun href ↦ Text.contains href.toList detailsHrefMarker.toList with
  | some href => .ok (Text.strip href)
  | none => .error (markupError "dossier row has no exact Details link")

/-- The body of the loop over the rows of a page: the first row of a record counts. -/
def collectRow (rows : List QueueRow) (row : Tag) : Except Exn (List QueueRow) := do
  let recordId := Text.strip ((bs.get row "id").getD "")
  if recordId.isEmpty || rows.any (·.recordId = recordId) then pure rows
  else
    let href ← detailsHref bs row
    pure (rows ++ [
      { recordId := recordId
        dossierNumber := cell bs row "field_1"
        insuredName := cell bs row "field_3"
        procedure := cell bs row "field_219"
        registration := cell bs row "field_8"
        garage := cell bs row "field_40"
        estimateAmountRaw := cell bs row "field_100"
        portalStatus := cell bs row "field_77"
        city := cell bs row "field_655"
        observationCount := cell bs row "field_318"
        agreementLogin := cell bs row "field_300"
        detailsHref := href }])

/-- Parse one page of the queue. -/
def parseQueuePage (html : String) : Except Exn QueueSnapshot := do
  let soup ← bs.parse html
  match bs.selectOne soup "#view_1874" with
  | none => .error (markupError "OmegaFlow list root #view_1874 is missing")
  | some root =>
    let rows ← (bs.select root "table tbody tr[id]").foldlM (collectRow bs) []
    pure { rows := rows, pagesSeen := 1 }

/-- The number of pages, from the dropdown that offers them. -/
def parsePageCount (html : String) : Except Exn ℤ := do
  let soup ← bs.parse html
  match bs.selectOne soup "#view_1874 .kn-page-select" with
  | none => pure 1
  | some pageSelect =>
    let values := (bs.select pageSelect "option[value]").filterMap fun option ↦
      (bs.get option "value").bind Text.int?
    pure (values.max?.getD 1)

/-- One row for each record of the pages: where it was first seen, as it was last seen. -/
def mergeSnapshots (snapshots : List QueueSnapshot) : QueueSnapshot where
  rows := (Table.ofList (snapshots.flatMap (·.rows)) : Table QueueRow.recordId).rows
  pagesSeen := snapshots.length

/-- The date in a field of a dossier's details. -/
def detailDate (soup : Tag) (fieldClass : String) : Option Datetime × String :=
  parseFrenchDate (text bs (bs.selectOne soup ("." ++ fieldClass ++ " .kn-detail-body")))

def parseDossierDetails (html : String) : Except Exn DossierDates := do
  let soup ← bs.parse html
  let dateCreation := detailDate bs soup "field_107"
  let datePremiereFinPrevue := detailDate bs soup "field_113"
  let dateFinTravauxPrevue := detailDate bs soup "field_138"
  let dateEnvoiDevisGarage := detailDate bs soup "field_114"
  let datePhotosAvant := detailDate bs soup "field_260"
  pure
    { dateCreation := dateCreation.1, dateCreationRaw := dateCreation.2
      datePremiereFinPrevue := datePremiereFinPrevue.1
      datePremiereFinPrevueRaw := datePremiereFinPrevue.2
      dateFinTravauxPrevue := dateFinTravauxPrevue.1
      dateFinTravauxPrevueRaw := dateFinTravauxPrevue.2
      dateEnvoiDevisGarage := dateEnvoiDevisGarage.1
      dateEnvoiDevisGarageRaw := dateEnvoiDevisGarage.2
      datePhotosAvant := datePhotosAvant.1, datePhotosAvantRaw := datePhotosAvant.2 }

end

/-! ## Not logged in -/

/-- A single or double quotation mark. -/
def isQuote (c : Char) : Bool := c.toNat = 34 || c.toNat = 39

/-- The attribute `type` of a password field, ignoring case. -/
def loginFormMarkers : List (Char → Bool) :=
  "type=".toList.map Text.ignoringCase ++ [isQuote] ++
    "password".toList.map Text.ignoringCase ++ [isQuote]

def sessionValidationMarkers : List String :=
  ["refreshsession", "validate your session", "valider votre session"]

/-- True when the login form or the session-revalidation screen is shown. -/
def detectAuthRequired (html : String) : Bool :=
  let lowered := Text.casefold html.toList
  Text.containsLike loginFormMarkers html.toList ||
    sessionValidationMarkers.any fun marker ↦ Text.contains lowered marker.toList

example : detectAuthRequired "<input TYPE='Password'>" = true ∧
    detectAuthRequired "<p>Validate your Session</p>" = true ∧
    detectAuthRequired "<p>Loading...</p>" = false := by decide +kernel

end Parser

end RmaPortal
