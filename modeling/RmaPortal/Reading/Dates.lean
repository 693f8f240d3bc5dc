import RmaPortal.Infrastructure.Portal.ProfileLock
import RmaPortal.Reading.DateFormats

/-!
# The dates that the parser reads

`parseFrenchDateIn` tries three formats one after the other.  A text has one meaning at most in
the grammar (`Denotes.unique`), so it does not matter which format is the first to succeed, and
the parser reads exactly what its text denotes: `parseFrenchDateIn_spec`.  The way back is
`render`, which loses the microseconds of a time and nothing else.

## What is here

* `numerals`, `Denotes.ofNumerals`, `Denotes.unique` — the meaning of a text is a function of the
  numbers in it, between the characters that are no digits; so two derivations of the grammar give
  the same date.
* `Denotes.not_emptyMarker` — no text that the portal writes for "nothing" denotes a date.
* `findSome?_formats_iff`, `parseFrenchDateIn_eq` — the three formats in their order: the first
  that succeeds is the one whose form the text has.
* `parseFrenchDateIn_normalize`, `parsed_iff` — the parser normalizes white space first, and reads
  a date if and only if the normalized text denotes one that exists, with the time zone it was
  asked for.  The raw text that it keeps is the normalized one, so reading it again gives the
  same.
* `render`, `denotes_render` — `strftime` with the longest of the three forms, for a year of four
  digits; what is rendered is in the grammar, normalized and ASCII.
* `parseFrenchDateIn_spec` — for every ASCII text and every time zone that is known: exactly the
  dates of the grammar, nothing lost of a date that is rendered and read again, and an unknown
  time zone raises what looking it up raises.
* `not_parse_render` — microseconds are not rendered.

The time zone is attached to a date and never used to compute with it, so zones are an arbitrary
type.
-/

set_option autoImplicit false

namespace RmaPortal
namespace Parser

/-! ## One meaning -/

/-- The numbers in a text, between the characters that are no digits. -/
def numerals (text : List Char) : List (List Char) := text.splitOnP fun c ↦ !c.isDigit

theorem numerals_append_cons {t : List Char} (ht : ∀ c ∈ t, c.isDigit = true) {c : Char}
    (hc : c.isDigit = false) (s : List Char) : numerals (t ++ c :: s) = t :: numerals s :=
  List.splitOnP_append_cons_of_forall_mem (fun d hd ↦ by rw [ht d hd]; rfl) c (by rw [hc]; rfl) s

theorem numerals_of_digits {t : List Char} (ht : ∀ c ∈ t, c.isDigit = true) : numerals t = [t] :=
  List.splitOnP_eq_singleton fun d hd ↦ by rw [ht d hd]; rfl

/-- The date and time of day with these numbers. -/
def ofNumerals : List (List Char) → Option Datetime
  | [day, month, year] => some ⟨decimal year, decimal month, decimal day, 0, 0, 0, 0⟩
  | [day, month, year, hour, minute] =>
    some ⟨decimal year, decimal month, decimal day, decimal hour, decimal minute, 0, 0⟩
  | [day, month, year, hour, minute, second] =>
    some ⟨decimal year, decimal month, decimal day, decimal hour, decimal minute, decimal second, 0⟩
  | _ => none

theorem Denotes.ofNumerals {text : List Char} {d : Datetime} (h : Denotes text d) :
    ofNumerals (numerals text) = some d := by
  cases h with
  | date hday hmonth hyear =>
    rw [dateText, numerals_append_cons hday.2 rfl, numerals_append_cons hmonth.2 rfl,
      numerals_of_digits hyear.2]
    rfl
  | minutes hday hmonth hyear hhour hminute =>
    rw [dateText, List.append_assoc, List.cons_append, List.append_assoc, List.cons_append,
      numerals_append_cons hday.2 rfl, numerals_append_cons hmonth.2 rfl,
      numerals_append_cons hyear.2 rfl, numerals_append_cons hhour.2 rfl,
      numerals_of_digits hminute.2]
    rfl
  | seconds hday hmonth hyear hhour hminute hsecond =>
    rw [dateText, List.append_assoc, List.cons_append, List.append_assoc, List.cons_append,
      numerals_append_cons hday.2 rfl, numerals_append_cons hmonth.2 rfl,
      numerals_append_cons hyear.2 rfl, numerals_append_cons hhour.2 rfl,
      numerals_append_cons hminute.2 rfl, numerals_of_digits hsecond.2]
    rfl

/-- A text denotes one date at most. -/
theorem Denotes.unique {text : List Char} {d d' : Datetime} (h : Denotes text d)
    (h' : Denotes text d') : d = d' :=
  Option.some.inj (h.ofNumerals.symm.trans h'.ofNumerals)

/-- No text that stands for "nothing" denotes a date. -/
theorem Denotes.not_emptyMarker {s : String} {d : Datetime} (h : Denotes s.toList d) :
    s ∉ emptyMarkers := by
  have hslash : '/' ∈ s.toList := by
    generalize s.toList = text at h
    cases h <;> simp [dateText]
  have hnone : ∀ s ∈ emptyMarkers, '/' ∉ s.toList := by decide
  exact fun hmem ↦ hnone s hmem hslash

/-! ## The parser -/

theorem denotes_of_strptime {s : String} {d : Datetime} (hascii : ∀ c ∈ s.toList, c.toNat < 128)
    (hnormal : Text.IsNormal s.toList) {format : List Directive}
    (hformat : format ∈ datetimePatterns ++ [datePattern]) (h : strptime format s = some d) :
    Denotes s.toList d ∧ d.Exists := by
  simp only [datetimePatterns, List.cons_append, List.nil_append, List.mem_cons, List.not_mem_nil,
    or_false] at hformat
  rcases hformat with rfl | rfl | rfl
  · exact denotes_of_strptime_seconds hascii hnormal h
  · exact denotes_of_strptime_minutes hascii hnormal h
  · exact denotes_of_strptime_date hascii hnormal h

/-- The three formats, tried in their order. -/
theorem findSome?_formats_iff {s : String} {d : Datetime} (hascii : ∀ c ∈ s.toList, c.toNat < 128)
    (hnormal : Text.IsNormal s.toList) :
    (datetimePatterns ++ [datePattern]).findSome? (strptime · s) = some d ↔
      Denotes s.toList d ∧ d.Exists := by
  constructor
  · intro h
    obtain ⟨format, hformat, h⟩ := List.exists_of_findSome?_eq_some h
    exact denotes_of_strptime hascii hnormal hformat h
  · rintro ⟨h, hd⟩
    obtain ⟨format, hformat, hparse⟩ := strptime_of_denotes h hd
    -- whichever format is the first to succeed, it reads what the text denotes
    cases hfind : (datetimePatterns ++ [datePattern]).findSome? (strptime · s) with
    | none => exact nomatch hparse.symm.trans (List.findSome?_eq_none_iff.mp hfind format hformat)
    | some d' =>
      obtain ⟨format', hformat', hparse'⟩ := List.exists_of_findSome?_eq_some hfind
      rw [(denotes_of_strptime hascii hnormal hformat' hparse').1.unique h]

section

variable {Zone : Type} {zoneInfo : String → Except Exn Zone} {timezoneId : String} {zone : Zone}
  (hzone : zoneInfo timezoneId = .ok zone)

include hzone

theorem parseFrenchDateIn_eq (raw : String) :
    parseFrenchDateIn zoneInfo raw timezoneId =
      .ok (if Text.normalize raw ∈ emptyMarkers then none
        else ((datetimePatterns ++ [datePattern]).findSome? (strptime · (Text.normalize raw))).map
          fun d ↦ (d, zone), Text.normalize raw) := by
  rw [parseFrenchDateIn]
  split
  · rfl
  · rw [hzone, List.findSome?_append]
    cases datetimePatterns.findSome? (strptime · (Text.normalize raw)) with
    | some d => rfl
    | none =>
      show Except.ok _ = _
      rw [Option.none_or, List.findSome?_cons]
      cases strptime datePattern (Text.normalize raw) <;> rfl

/-- What is read again is read the same. -/
theorem parseFrenchDateIn_normalize (raw : String) :
    parseFrenchDateIn zoneInfo (Text.normalize raw) timezoneId =
      parseFrenchDateIn zoneInfo raw timezoneId := by
  rw [parseFrenchDateIn_eq hzone, parseFrenchDateIn_eq hzone, Text.normalize_normalize]

/-- **The grammar.** -/
theorem parsed_iff {raw : String} (hascii : ∀ c ∈ raw.toList, c.toNat < 128)
    {v : Option (Datetime × Zone)} {t : String}
    (h : parseFrenchDateIn zoneInfo raw timezoneId = .ok (v, t)) (d : Datetime) (z : Zone) :
    v = some (d, z) ↔ z = zone ∧ Denotes t.toList d ∧ d.Exists := by
  rw [parseFrenchDateIn_eq hzone] at h
  cases h
  have hclean : ∀ c ∈ (Text.normalize raw).toList, c.toNat < 128 := by
    intro c hc
    rcases Text.of_mem_normalize hc with rfl | hc
    · decide
    · exact hascii c hc
  rw [← findSome?_formats_iff hclean (Text.isNormal_normalize raw)]
  split
  · rename_i hmarker
    constructor
    · exact fun h ↦ nomatch h
    · rintro ⟨-, h⟩
      rw [findSome?_formats_iff hclean (Text.isNormal_normalize raw)] at h
      exact absurd hmarker h.1.not_emptyMarker
  · rw [Option.map_eq_some_iff]
    constructor
    · rintro ⟨d', hd', heq⟩
      cases heq
      exact ⟨rfl, hd'⟩
    · rintro ⟨rfl, hd⟩
      exact ⟨d, hd, rfl⟩

end

/-! ## Rendering -/

/-- `d.strftime("%d/%m/%Y %H:%M:%S")`, for a year of four digits. -/
def render (d : Datetime) : String := d.display ++ ":" ++ twoDigits d.second

theorem twoDigits_toList {n : ℕ} (h : n < 100) :
    (twoDigits n).toList = [Nat.digitChar (n / 10), Nat.digitChar (n % 10)] := by
  rw [twoDigits]
  split
  · rename_i hlt
    rw [String.toList_append, Nat.toString_eq_repr, Nat.toList_repr, Nat.toDigits_of_lt_base hlt,
      Nat.div_eq_of_lt hlt, Nat.mod_eq_of_lt hlt]
    rfl
  · rename_i hge
    rw [Nat.toString_eq_repr, Nat.toList_repr, Nat.toDigits_of_base_le (by decide) (by omega),
      Nat.toDigits_of_lt_base (by omega)]
    rfl

theorem isShort_twoDigits {n : ℕ} (h : n < 100) :
    IsShort (twoDigits n).toList ∧ decimal (twoDigits n).toList = n := by
  have hmod : n % 10 < 10 := Nat.mod_lt n (by decide)
  rw [twoDigits_toList h]
  refine ⟨⟨Or.inr rfl, ?_⟩, ?_⟩
  · simp only [List.mem_cons, List.not_mem_nil, or_false, forall_eq_or_imp, forall_eq,
      Nat.isDigit_digitChar, decide_eq_true_eq]
    omega
  · rw [decimal, Nat.ofDigitChars_cons_digitChar_of_lt_ten (by omega),
      Nat.ofDigitChars_cons_digitChar_of_lt_ten hmod, Nat.ofDigitChars_nil]
    omega

theorem isYear_toString {n : ℕ} (hlo : 1000 ≤ n) (hhi : n ≤ 9999) :
    IsYear (toString n).toList ∧ decimal (toString n).toList = n := by
  have hdigits : (toString n).toList = Nat.toDigits 10 n := Nat.toList_repr
  rw [hdigits]
  have hle : (Nat.toDigits 10 n).length ≤ 4 :=
    (Nat.length_toDigits_le_iff (by omega) (by omega)).mpr (by omega)
  have hlt : ¬ (Nat.toDigits 10 n).length ≤ 3 := fun h ↦ by
    have := (Nat.length_toDigits_le_iff (by omega) (by omega)).mp h
    omega
  exact ⟨⟨by omega, fun c hc ↦ Nat.isDigit_of_mem_toDigits (by omega) (by omega) hc⟩,
    Nat.ofDigitChars_toDigits (by omega) (by omega)⟩

theorem render_toList {d : Datetime} :
    (render d).toList = dateText (twoDigits d.day).toList (twoDigits d.month).toList
      (toString d.year).toList ++ ' ' :: ((twoDigits d.hour).toList ++ ':' ::
        ((twoDigits d.minute).toList ++ ':' :: (twoDigits d.second).toList)) := by
  simp [render, Datetime.display, dateText]

/-- A rendered date is in the grammar. -/
theorem denotes_render {d : Datetime} (hd : d.Exists) (hlo : 1000 ≤ d.year) (hhi : d.year ≤ 9999)
    (hmicro : d.microsecond = 0) : Denotes (render d).toList d := by
  obtain ⟨haday, hamonth, -⟩ := accepts_of_exists hd
  have hbound : d.day < 100 ∧ d.month < 100 := by
    simp only [Directive.accepts, Bool.and_eq_true, decide_eq_true_eq] at haday hamonth
    omega
  obtain ⟨hday, hdday⟩ := isShort_twoDigits hbound.1
  obtain ⟨hmonth, hdmonth⟩ := isShort_twoDigits hbound.2
  obtain ⟨hyear, hdyear⟩ := isYear_toString hlo hhi
  obtain ⟨hhour, hdhour⟩ := isShort_twoDigits (Nat.lt_of_le_of_lt hd.hour (by decide))
  obtain ⟨hminute, hdminute⟩ := isShort_twoDigits (Nat.lt_of_le_of_lt hd.minute (by decide))
  obtain ⟨hsecond, hdsecond⟩ := isShort_twoDigits (Nat.lt_of_le_of_lt hd.second (by decide))
  have h := Denotes.seconds hday hmonth hyear hhour hminute hsecond
  rw [hdday, hdmonth, hdyear, hdhour, hdminute, hdsecond, ← hmicro] at h
  rw [render_toList]
  exact h

theorem dateText_ne_nil {day month year : List Char} : dateText day month year ≠ [] := by
  simp [dateText]

/-- What denotes a date is normalized. -/
theorem Denotes.isNormal {text : List Char} {d : Datetime} (h : Denotes text d) :
    Text.IsNormal text := by
  cases h with
  | date hday hmonth hyear =>
    exact Text.isNormal_word dateText_ne_nil (isSpace_dateText hday hmonth hyear)
  | minutes hday hmonth hyear hhour hminute =>
    exact Text.isNormal_two_words dateText_ne_nil (by simp) (isSpace_dateText hday hmonth hyear)
      (isSpace_append_cons (isSpace_of_mem_digits hhour.2) rfl (isSpace_of_mem_digits hminute.2))
  | seconds hday hmonth hyear hhour hminute hsecond =>
    exact Text.isNormal_two_words dateText_ne_nil (by simp) (isSpace_dateText hday hmonth hyear)
      (isSpace_append_cons (isSpace_of_mem_digits hhour.2) rfl
        (isSpace_append_cons (isSpace_of_mem_digits hminute.2) rfl
          (isSpace_of_mem_digits hsecond.2)))

/-- What denotes a date is ASCII. -/
theorem Denotes.ascii {text : List Char} {d : Datetime} (h : Denotes text d) :
    ∀ c ∈ text, c.toNat < 128 := by
  have hdigit : ∀ {t : List Char}, (∀ c ∈ t, c.isDigit = true) → ∀ c ∈ t, c.toNat < 128 :=
    fun ht c hc ↦ Nat.lt_of_le_of_lt (isDigit_iff.mp (ht c hc)).2 (by decide)
  have hcons : ∀ {t u : List Char} {c : Char}, (∀ d ∈ t, d.toNat < 128) → c.toNat < 128 →
      (∀ d ∈ u, d.toNat < 128) → ∀ d ∈ t ++ c :: u, d.toNat < 128 := by
    intro t u c ht hc hu d hd
    rw [List.mem_append, List.mem_cons] at hd
    rcases hd with hd | rfl | hd
    · exact ht d hd
    · exact hc
    · exact hu d hd
  have hdate : ∀ {day month year : List Char}, IsShort day → IsShort month → IsYear year →
      ∀ c ∈ dateText day month year, c.toNat < 128 := fun hday hmonth hyear ↦
    hcons (hdigit hday.2) (by decide)
      (hcons (hdigit hmonth.2) (by decide) (hdigit hyear.2))
  cases h with
  | date hday hmonth hyear => exact hdate hday hmonth hyear
  | minutes hday hmonth hyear hhour hminute =>
    exact hcons (hdate hday hmonth hyear) (by decide)
      (hcons (hdigit hhour.2) (by decide) (hdigit hminute.2))
  | seconds hday hmonth hyear hhour hminute hsecond =>
    exact hcons (hdate hday hmonth hyear) (by decide) (hcons (hdigit hhour.2) (by decide)
      (hcons (hdigit hminute.2) (by decide) (hdigit hsecond.2)))

theorem parseFrenchDateIn_of_denotes {Zone : Type} {zoneInfo : String → Except Exn Zone}
    {timezoneId : String} {zone : Zone} (hzone : zoneInfo timezoneId = .ok zone) {s : String}
    {d : Datetime} (h : Denotes s.toList d) (hd : d.Exists) :
    parseFrenchDateIn zoneInfo s timezoneId = .ok (some (d, zone), s) := by
  have hparse := parseFrenchDateIn_eq hzone s
  rw [Text.normalize_eq_self h.isNormal] at hparse
  rw [hparse, (parsed_iff hzone h.ascii hparse d zone).mpr ⟨rfl, h, hd⟩]

/-- **`parse_french_date` accepts exactly its grammar, and loses nothing.**  Whatever the text, the
normalized text is returned, nothing is raised, and reading it again gives the same.  From an ASCII
text a date is read exactly if the normalized text denotes one that exists, and it is that date in
the time zone asked for.  A rendered date of a year with four digits, in whole seconds, is read as
itself. -/
theorem parseFrenchDateIn_spec {Zone : Type} (zoneInfo : String → Except Exn Zone)
    (timezoneId : String) (zone : Zone) (hzone : zoneInfo timezoneId = .ok zone) :
    (∀ raw : String, ∃ v,
      parseFrenchDateIn zoneInfo raw timezoneId = .ok (v, Text.normalize raw) ∧
      parseFrenchDateIn zoneInfo (Text.normalize raw) timezoneId = .ok (v, Text.normalize raw) ∧
      ((∀ c ∈ raw.toList, c.toNat < 128) → ∀ d z,
        v = some (d, z) ↔ z = zone ∧ Denotes (Text.normalize raw).toList d ∧ d.Exists)) ∧
    ∀ d : Datetime, d.Exists → 1000 ≤ d.year → d.year ≤ 9999 → d.microsecond = 0 →
      parseFrenchDateIn zoneInfo (render d) timezoneId = .ok (some (d, zone), render d) := by
  constructor
  · intro raw
    have hparse := parseFrenchDateIn_eq hzone raw
    refine ⟨_, hparse, ?_, fun hascii d z ↦ parsed_iff hzone hascii hparse d z⟩
    rw [parseFrenchDateIn_normalize hzone, hparse]
  · intro d hd hlo hhi hmicro
    exact parseFrenchDateIn_of_denotes hzone (denotes_render hd hlo hhi hmicro) hd

/-- The last second of a leap day, rendered and read again. -/
theorem parseFrenchDateIn_spec_leapDay :
    parseFrenchDateIn (fun _ ↦ .ok ()) (render ⟨2024, 2, 29, 23, 59, 59, 0⟩) "Africa/Casablanca" =
      .ok (some (⟨2024, 2, 29, 23, 59, 59, 0⟩, ()), render ⟨2024, 2, 29, 23, 59, 59, 0⟩) :=
  (parseFrenchDateIn_spec (fun _ ↦ .ok ()) "Africa/Casablanca" () rfl).2 _
    ⟨by decide, by decide, by decide, by decide, by decide, by decide, by decide⟩ (by decide)
    (by decide) rfl

/-- Microseconds are not rendered, and so not read again. -/
theorem not_parse_render :
    ¬ ∀ d : Datetime, d.Exists → 1000 ≤ d.year → d.year ≤ 9999 →
      parseFrenchDateIn (fun _ ↦ .ok ()) (render d) "Africa/Casablanca" =
        .ok (some (d, ()), render d) := by
  intro h
  have hexists : (⟨2024, 1, 1, 0, 0, 0, 0⟩ : Datetime).Exists :=
    ⟨by decide, by decide, by decide, by decide, by decide, by decide, by decide⟩
  have hlost := h ⟨2024, 1, 1, 0, 0, 0, 1⟩
    ⟨by decide, by decide, by decide, by decide, by decide, by decide, by decide⟩ (by decide)
    (by decide)
  have hread := @parseFrenchDateIn_of_denotes Unit (fun _ ↦ .ok ()) "Africa/Casablanca" () rfl _ _
    (denotes_render hexists (by decide) (by decide) rfl) hexists
  rw [show render ⟨2024, 1, 1, 0, 0, 0, 1⟩ = render ⟨2024, 1, 1, 0, 0, 0, 0⟩ from rfl,
    hread] at hlost
  cases hlost

end Parser
end RmaPortal
