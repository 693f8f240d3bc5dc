import RmaPortal.Infrastructure.Portal.Parser

/-!
# The formats of dates, and the grammar behind them

In a format, the directives are matched one after the other, and for each directive its
alternatives one after the other.  What comes out of this is a grammar without any order:
`Denotes text d` says that `text` is a date, with or without a time of day, that is written in one
of three forms, and `Datetime.Exists` that there is such a date and such a time of day.

The two halves are shown for each format by itself.  *Soundness* looks at any way to match a
format, first or not (`mem_results_cons` and what follows), of a text that is ASCII and
normalized.  *Completeness* computes the first way: a number of one or two digits before a
separator can be matched in one way only, since its first digit alone is not followed by the
separator (`results_short_literal`).

## What is here

* `Denotes`, `Datetime.Exists` — the grammar, and the dates there are.  A form is `D/M/YYYY`,
  alone or followed by one space and `H:MM` or `H:MM:SS`; days, months, hours, minutes and seconds
  have one or two digits, and the year four.
* `of_mem_short` — a number that is matched is one or two digits, unless it is a day after white
  space: the alternatives of `%d` include a space followed by a digit.  In a normalized text there
  is no such place, which is why this does not show in the grammar.
* `of_mem_datePattern`, `of_mem_time`, `of_mem_minutes`, `of_mem_seconds` — what any match of a
  part of a format says about the text, and from them `denotes_of_strptime_date` and its two
  siblings.
* `results_append`, `results_two`, `results_one_literal` — the first ways to match a short number.
  Two digits can be read as one number, and sometimes the first of them alone; what follows
  decides.
* `strptime_datePattern`, `results_time` and `strptime_of_denotes` — a text of the grammar is read
  with the format of its form, as what it denotes.

White space in a format matches any amount of white space, and so the two halves meet only on
normalized texts; `Reading.Dates` is about the others.
-/

set_option autoImplicit false

namespace RmaPortal

/-- There is such a date and such a time of day. -/
structure Datetime.Exists (d : Datetime) : Prop where
  year : 1 ≤ d.year
  month : 1 ≤ d.month ∧ d.month ≤ 12
  day : 1 ≤ d.day ∧ d.day ≤ Parser.daysInMonth d.year d.month
  hour : d.hour ≤ 23
  minute : d.minute ≤ 59
  second : d.second ≤ 59
  microsecond : d.microsecond ≤ 999999

namespace Parser

/-! ## The grammar -/

/-- One or two decimal digits. -/
def IsShort (t : List Char) : Prop := (t.length = 1 ∨ t.length = 2) ∧ ∀ c ∈ t, c.isDigit = true

/-- Four decimal digits. -/
def IsYear (t : List Char) : Prop := t.length = 4 ∧ ∀ c ∈ t, c.isDigit = true

/-- The number that decimal digits denote. -/
def decimal (t : List Char) : ℕ := Nat.ofDigitChars 10 t 0

/-- `D/M/YYYY` -/
def dateText (day month year : List Char) : List Char := day ++ '/' :: (month ++ '/' :: year)

/-- What a text denotes that has the form `D/M/YYYY`, `D/M/YYYY H:MM` or `D/M/YYYY H:MM:SS`. -/
inductive Denotes : List Char → Datetime → Prop
  | date {day month year : List Char} (hday : IsShort day) (hmonth : IsShort month)
      (hyear : IsYear year) :
      Denotes (dateText day month year) ⟨decimal year, decimal month, decimal day, 0, 0, 0, 0⟩
  | minutes {day month year hour minute : List Char} (hday : IsShort day) (hmonth : IsShort month)
      (hyear : IsYear year) (hhour : IsShort hour) (hminute : IsShort minute) :
      Denotes (dateText day month year ++ ' ' :: (hour ++ ':' :: minute))
        ⟨decimal year, decimal month, decimal day, decimal hour, decimal minute, 0, 0⟩
  | seconds {day month year hour minute second : List Char} (hday : IsShort day)
      (hmonth : IsShort month) (hyear : IsYear year) (hhour : IsShort hour)
      (hminute : IsShort minute) (hsecond : IsShort second) :
      Denotes (dateText day month year ++ ' ' :: (hour ++ ':' :: (minute ++ ':' :: second)))
        ⟨decimal year, decimal month, decimal day, decimal hour, decimal minute, decimal second, 0⟩

theorem datetime?_eq_some {year month day hour minute second : ℕ} {d : Datetime} :
    datetime? year month day hour minute second = some d ↔
      d = ⟨year, month, day, hour, minute, second, 0⟩ ∧ d.Exists := by
  rw [datetime?]
  constructor
  · intro h
    split at h
    · rename_i hex
      cases h
      obtain ⟨hyear, hmonth, hmonth', hday, hday', hhour, hminute, hsecond⟩ := hex
      exact ⟨rfl, hyear, ⟨hmonth, hmonth'⟩, ⟨hday, hday'⟩, hhour, hminute, hsecond, Nat.zero_le _⟩
    · cases h
  · rintro ⟨rfl, hex⟩
    exact if_pos ⟨hex.year, hex.month.1, hex.month.2, hex.day.1, hex.day.2, hex.hour, hex.minute,
      hex.second⟩

/-! ## Digits -/

theorem isDigit_iff {c : Char} : c.isDigit = true ↔ 48 ≤ c.toNat ∧ c.toNat ≤ 57 := by
  rw [Char.isDigit, Bool.and_eq_true, decide_eq_true_eq, decide_eq_true_eq]
  exact Iff.rfl

theorem isSpace_of_isDigit {c : Char} (h : c.isDigit = true) : Text.isSpace c = false := by
  obtain ⟨hlo, hhi⟩ := isDigit_iff.mp h
  simp only [Text.isSpace, Bool.or_eq_false_iff, Bool.and_eq_false_iff, decide_eq_false_iff_not]
  omega

theorem digit?_of_isDigit {c : Char} (h : c.isDigit = true) :
    Text.digit? c = some (c.toNat - 48) := by
  obtain ⟨hlo, hhi⟩ := isDigit_iff.mp h
  rw [Text.digit?, Text.zeros, List.find?_cons_of_pos]
  · rfl
  · rw [Bool.and_eq_true, decide_eq_true_eq, decide_eq_true_eq]
    omega

/-- Of the ASCII characters, `\d` matches the decimal digits. -/
theorem isDigit_of_digit? {c : Char} {n : ℕ} (hc : c.toNat < 128) (h : Text.digit? c = some n) :
    c.isDigit = true := by
  rw [Text.digit?, Option.map_eq_some_iff] at h
  obtain ⟨z, hz, -⟩ := h
  have hzero : ∀ z ∈ Text.zeros, z = 48 ∨ 128 ≤ z := by decide
  have hbound := List.find?_some hz
  rw [Bool.and_eq_true, decide_eq_true_eq, decide_eq_true_eq] at hbound
  rw [isDigit_iff]
  rcases hzero z (List.mem_of_find?_eq_some hz) with rfl | hz <;> omega

theorem value_filterMap_digit? {t : List Char} (h : ∀ c ∈ t, c.isDigit = true) :
    Text.value (t.filterMap Text.digit?) = decimal t := by
  have hmap : t.filterMap Text.digit? = t.map fun c ↦ c.toNat - 48 := by
    rw [← List.filterMap_eq_map]
    exact List.filterMap_congr fun c hc ↦ digit?_of_isDigit (h c hc)
  rw [hmap, Text.value, List.foldl_map]
  rfl

/-! ## Soundness -/

theorem mem_results_cons {d : Directive} {ds : List Directive} {s r : List Char} {f : List ℕ} :
    (f, r) ∈ results (d :: ds) s ↔
      ∃ f₁ s₁ f₂, (f₁, s₁) ∈ d.results s ∧ (f₂, r) ∈ results ds s₁ ∧ f = f₁ ++ f₂ := by
  rw [results, List.mem_flatMap]
  constructor
  · rintro ⟨⟨f₁, s₁⟩, h₁, h⟩
    obtain ⟨⟨f₂, r'⟩, h₂, heq⟩ := List.mem_map.mp h
    cases heq
    exact ⟨f₁, s₁, f₂, h₁, h₂, rfl⟩
  · rintro ⟨f₁, s₁, f₂, h₁, h₂, rfl⟩
    exact ⟨(f₁, s₁), h₁, List.mem_map.mpr ⟨(f₂, r), h₂, rfl⟩⟩

theorem mem_results_nil {s r : List Char} {f : List ℕ} :
    (f, r) ∈ results [] s ↔ f = [] ∧ r = s := by
  rw [results, List.mem_singleton, Prod.mk.injEq]

theorem mem_literal {c : Char} {s r : List Char} {f : List ℕ} :
    (f, r) ∈ (Directive.literal c).results s ↔ f = [] ∧ s = c :: r := by
  cases s with
  | nil => simp [Directive.results]
  | cons d s =>
    rw [Directive.results]
    split
    · rename_i h
      simp [h, eq_comm]
    · rename_i h
      simp [h]

theorem of_mem_spaces {s r : List Char} {f : List ℕ}
    (h : (f, r) ∈ Directive.spaces.results s) :
    f = [] ∧ ∃ t, t ≠ [] ∧ (∀ c ∈ t, Text.isSpace c = true) ∧ s = t ++ r := by
  rw [Directive.results] at h
  obtain ⟨k, hk, heq⟩ := List.mem_map.mp h
  rw [List.mem_range] at hk
  cases heq
  refine ⟨rfl, s.take ((s.takeWhile Text.isSpace).length - k), ?_, fun c hc ↦ ?_,
    (List.take_append_drop _ s).symm⟩
  · have hlen := (List.takeWhile_sublist (l := s) Text.isSpace).length_le
    intro hnil
    have hzero := congrArg List.length hnil
    rw [List.length_take, List.length_nil] at hzero
    omega
  · have htake : s.take ((s.takeWhile Text.isSpace).length - k) =
        (s.takeWhile Text.isSpace).take ((s.takeWhile Text.isSpace).length - k) :=
      (congrArg (List.take _) List.takeWhile_append_dropWhile.symm).trans
        (List.take_append_of_le_length (Nat.sub_le _ _))
    exact List.mem_takeWhile_imp (List.mem_of_mem_take (htake ▸ hc))

theorem of_number {s r : List Char} {f : List ℕ} {alternative : List (Char → Bool)}
    (h : Directive.number s alternative = some (f, r)) :
    ∃ t, s = t ++ r ∧ t.length = alternative.length ∧
      (∀ p ∈ alternative.zip t, p.1 p.2 = true) ∧ f = [Text.value (t.filterMap Text.digit?)] := by
  rw [Directive.number] at h
  split at h
  · rename_i hmatch
    cases h
    refine ⟨s.take alternative.length, (List.take_append_drop _ s).symm, hmatch.1, ?_, rfl⟩
    exact List.all_eq_true.mp hmatch.2
  · cases h

/-- The directives that stand for a number of one or two digits. -/
def Directive.isShort : Directive → Bool
  | .day | .month | .hour | .minute | .second => true
  | _ => false

theorem results_eq_filterMap {d : Directive} (h : d.isShort = true) (s : List Char) :
    d.results s = d.alternatives.filterMap (Directive.number s) := by
  cases d with
  | day | month | hour | minute | second => rfl
  | year | literal | spaces => cases h

/-- Of the ASCII characters, `p` matches decimal digits only. -/
def IsDigitClass (p : Char → Bool) : Prop :=
  ∀ c : Char, c.toNat < 128 → p c = true → c.isDigit = true

theorem isDigitClass_isDigit : IsDigitClass isDigit := by
  intro c hc h
  obtain ⟨n, hn⟩ := Option.isSome_iff_exists.mp h
  exact isDigit_of_digit? hc hn

theorem isDigitClass_between {a b : Char} (ha : 48 ≤ a.toNat) (hb : b.toNat ≤ 57) :
    IsDigitClass (between a b) := by
  intro c _ h
  rw [between, Bool.and_eq_true, decide_eq_true_eq, decide_eq_true_eq] at h
  have hac : a.toNat ≤ c.toNat := h.1
  have hcb : c.toNat ≤ b.toNat := h.2
  exact isDigit_iff.mpr ⟨by omega, by omega⟩

/-- One or two classes of digits. -/
inductive IsNumeral : List (Char → Bool) → Prop
  | one {p : Char → Bool} (hp : IsDigitClass p) : IsNumeral [p]
  | two {p q : Char → Bool} (hp : IsDigitClass p) (hq : IsDigitClass q) : IsNumeral [p, q]

/-- What the alternatives are made of; a day may have a space in place of its first digit. -/
theorem isNumeral_of_mem_alternatives {d : Directive} (hd : d.isShort = true)
    {alternative : List (Char → Bool)} (h : alternative ∈ d.alternatives) :
    IsNumeral alternative ∨ d = .day ∧ ∃ p, alternative = [between ' ' ' ', p] := by
  have hbetween : ∀ a b : Char, 48 ≤ a.toNat ∧ b.toNat ≤ 57 → IsDigitClass (between a b) :=
    fun a b h ↦ isDigitClass_between h.1 h.2
  cases d with
  | year | literal | spaces => cases hd
  | day =>
    simp only [Directive.alternatives, List.mem_cons, List.not_mem_nil, or_false] at h
    rcases h with rfl | rfl | rfl | rfl | rfl
    · exact Or.inl (.two (hbetween _ _ (by decide)) (hbetween _ _ (by decide)))
    · exact Or.inl (.two (hbetween _ _ (by decide)) isDigitClass_isDigit)
    · exact Or.inl (.two (hbetween _ _ (by decide)) (hbetween _ _ (by decide)))
    · exact Or.inl (.one (hbetween _ _ (by decide)))
    · exact Or.inr ⟨rfl, _, rfl⟩
  | month =>
    simp only [Directive.alternatives, List.mem_cons, List.not_mem_nil, or_false] at h
    rcases h with rfl | rfl | rfl
    · exact Or.inl (.two (hbetween _ _ (by decide)) (hbetween _ _ (by decide)))
    · exact Or.inl (.two (hbetween _ _ (by decide)) (hbetween _ _ (by decide)))
    · exact Or.inl (.one (hbetween _ _ (by decide)))
  | hour =>
    simp only [Directive.alternatives, List.mem_cons, List.not_mem_nil, or_false] at h
    rcases h with rfl | rfl | rfl
    · exact Or.inl (.two (hbetween _ _ (by decide)) (hbetween _ _ (by decide)))
    · exact Or.inl (.two (hbetween _ _ (by decide)) isDigitClass_isDigit)
    · exact Or.inl (.one isDigitClass_isDigit)
  | minute =>
    simp only [Directive.alternatives, List.mem_cons, List.not_mem_nil, or_false] at h
    rcases h with rfl | rfl
    · exact Or.inl (.two (hbetween _ _ (by decide)) isDigitClass_isDigit)
    · exact Or.inl (.one isDigitClass_isDigit)
  | second =>
    simp only [Directive.alternatives, List.mem_cons, List.not_mem_nil, or_false] at h
    rcases h with rfl | rfl | rfl
    · exact Or.inl (.two (hbetween _ _ (by decide)) (hbetween _ _ (by decide)))
    · exact Or.inl (.two (hbetween _ _ (by decide)) isDigitClass_isDigit)
    · exact Or.inl (.one isDigitClass_isDigit)

/-- **A number that is read is one or two digits**, unless it is a day after white space. -/
theorem of_mem_short {d : Directive} (hd : d.isShort = true) {s r : List Char} {f : List ℕ}
    (hascii : ∀ c ∈ s, c.toNat < 128) (hspace : d = .day → ∀ c ∈ s.head?, Text.isSpace c = false)
    (h : (f, r) ∈ d.results s) : ∃ t, IsShort t ∧ s = t ++ r ∧ f = [decimal t] := by
  rw [results_eq_filterMap hd, List.mem_filterMap] at h
  obtain ⟨alternative, hmem, hnumber⟩ := h
  obtain ⟨t, rfl, hlen, hall, rfl⟩ := of_number hnumber
  have hshort : IsShort t := by
    rcases isNumeral_of_mem_alternatives hd hmem with hnum | ⟨hday, p, rfl⟩
    · cases hnum with
      | one hp =>
        obtain ⟨a, rfl⟩ := List.length_eq_one_iff.mp hlen
        simp only [List.singleton_append, List.mem_cons, forall_eq_or_imp] at hascii
        simp only [List.zip_cons_cons, List.zip_nil_right, List.mem_singleton, forall_eq] at hall
        exact ⟨Or.inl rfl, by simpa using hp a hascii.1 hall⟩
      | two hp hq =>
        obtain ⟨a, b, rfl⟩ := List.length_eq_two.mp hlen
        simp only [List.cons_append, List.mem_cons, forall_eq_or_imp] at hascii
        simp only [List.zip_cons_cons, List.zip_nil_right, List.mem_cons, List.not_mem_nil,
          or_false, forall_eq_or_imp, forall_eq] at hall
        exact ⟨Or.inr rfl, by simpa using ⟨hp a hascii.1 hall.1, hq b hascii.2.1 hall.2⟩⟩
    · obtain ⟨a, b, rfl⟩ := List.length_eq_two.mp hlen
      have hsp := hspace hday a rfl
      have ha : between ' ' ' ' a = true := hall (between ' ' ' ', a) (by simp)
      rw [between, Bool.and_eq_true, decide_eq_true_eq, decide_eq_true_eq] at ha
      obtain rfl : a = ' ' := Char.le_antisymm ha.2 ha.1
      cases hsp
  exact ⟨t, hshort, rfl, by rw [value_filterMap_digit? hshort.2]⟩

theorem of_mem_year {s r : List Char} {f : List ℕ} (hascii : ∀ c ∈ s, c.toNat < 128)
    (h : (f, r) ∈ Directive.year.results s) : ∃ t, IsYear t ∧ s = t ++ r ∧ f = [decimal t] := by
  have hnumber : Directive.number s [isDigit, isDigit, isDigit, isDigit] = some (f, r) := by
    simpa [Directive.results, Directive.alternatives] using h
  obtain ⟨t, rfl, hlen, hall, rfl⟩ := of_number hnumber
  have hdigits : ∀ c ∈ t, c.isDigit = true := by
    intro c hc
    obtain ⟨p, hp⟩ : ∃ p, (p, c) ∈ [isDigit, isDigit, isDigit, isDigit].zip t := by
      obtain ⟨i, hi, rfl⟩ := List.getElem_of_mem hc
      rw [hlen] at hi
      refine ⟨[isDigit, isDigit, isDigit, isDigit][i], ?_⟩
      rw [← List.getElem_zip (h := by rw [List.length_zip, hlen]; simpa using hi)]
      exact List.getElem_mem _
    have hmem := (List.of_mem_zip hp).1
    simp only [List.mem_cons, List.not_mem_nil, or_false, or_self] at hmem
    have hpc := hall (p, c) hp
    rw [hmem] at hpc
    exact isDigitClass_isDigit c (hascii c (List.mem_append_left _ hc)) hpc
  exact ⟨t, ⟨hlen, hdigits⟩, rfl, by rw [value_filterMap_digit? hdigits]⟩

theorem of_strptime {format : List Directive} {s : String} {d : Datetime}
    (h : strptime format s = some d) :
    ∃ fields, (fields, []) ∈ results format s.toList ∧ ofFields fields = some d := by
  rw [strptime] at h
  split at h
  · rename_i fields hhead
    exact ⟨fields, List.mem_of_head? hhead, h⟩
  · cases h

/-- A number and a separator after it. -/
theorem of_mem_short_literal {d : Directive} (hd : d.isShort = true) {c : Char}
    {ds : List Directive} {s r : List Char} {f : List ℕ} (hascii : ∀ c ∈ s, c.toNat < 128)
    (hspace : d = .day → ∀ c ∈ s.head?, Text.isSpace c = false)
    (h : (f, r) ∈ results (d :: .literal c :: ds) s) :
    ∃ t s' f', IsShort t ∧ s = t ++ c :: s' ∧ (f', r) ∈ results ds s' ∧ f = decimal t :: f' := by
  obtain ⟨f₁, s₁, f₂, h₁, h₂, rfl⟩ := mem_results_cons.mp h
  obtain ⟨t, ht, rfl, rfl⟩ := of_mem_short hd hascii hspace h₁
  obtain ⟨f₃, s₂, f₄, h₃, h₄, rfl⟩ := mem_results_cons.mp h₂
  obtain ⟨rfl, rfl⟩ := mem_literal.mp h₃
  exact ⟨t, s₂, f₄, ht, rfl, h₄, rfl⟩

/-- A number at the end. -/
theorem of_mem_short_end {d : Directive} (hd : d.isShort = true) {s : List Char} {f : List ℕ}
    (hascii : ∀ c ∈ s, c.toNat < 128) (hday : d ≠ .day) (h : (f, []) ∈ results [d] s) :
    IsShort s ∧ f = [decimal s] := by
  obtain ⟨f₁, s₁, f₂, h₁, h₂, rfl⟩ := mem_results_cons.mp h
  obtain ⟨t, ht, rfl, rfl⟩ := of_mem_short hd hascii (fun h ↦ absurd h hday) h₁
  obtain ⟨rfl, rfl⟩ := mem_results_nil.mp h₂
  rw [List.append_nil]
  exact ⟨ht, rfl⟩

theorem of_mem_datePattern {ds : List Directive} {s r : List Char} {f : List ℕ}
    (hascii : ∀ c ∈ s, c.toNat < 128) (hnormal : Text.IsNormal s)
    (h : (f, r) ∈ results (datePattern ++ ds) s) :
    ∃ day month year s' f', IsShort day ∧ IsShort month ∧ IsYear year ∧
      s = dateText day month year ++ s' ∧ (f', r) ∈ results ds s' ∧
      f = decimal day :: decimal month :: decimal year :: f' := by
  have hhead : ∀ c ∈ s.head?, Text.isSpace c = false := by
    intro c hc
    cases s with
    | nil => cases hc
    | cons d s =>
      obtain rfl : d = c := by simpa using hc
      exact hnormal.isSpace_head
  obtain ⟨day, s₁, f₁, hday, rfl, h₁, rfl⟩ := of_mem_short_literal rfl hascii (fun _ ↦ hhead) h
  have hascii₁ : ∀ c ∈ s₁, c.toNat < 128 := fun c hc ↦
    hascii c (List.mem_append_right _ (List.mem_cons_of_mem _ hc))
  obtain ⟨month, s₂, f₂, hmonth, rfl, h₂, rfl⟩ :=
    of_mem_short_literal (d := .month) rfl hascii₁ (fun h ↦ nomatch h) h₁
  have hascii₂ : ∀ c ∈ s₂, c.toNat < 128 := fun c hc ↦
    hascii₁ c (List.mem_append_right _ (List.mem_cons_of_mem _ hc))
  obtain ⟨f₃, s₃, f₄, h₃, h₄, rfl⟩ := mem_results_cons.mp h₂
  obtain ⟨year, hyear, rfl, rfl⟩ := of_mem_year hascii₂ h₃
  exact ⟨day, month, year, s₃, f₄, hday, hmonth, hyear, by simp [dateText], h₄, rfl⟩

/-! ### The time of day -/

theorem IsShort.ne_nil {t : List Char} (h : IsShort t) : t ≠ [] := by
  rintro rfl
  rcases h.1 with h | h <;> cases h

theorem isSpace_of_mem_digits {t : List Char} (h : ∀ c ∈ t, c.isDigit = true) :
    ∀ c ∈ t, Text.isSpace c = false := fun c hc ↦ isSpace_of_isDigit (h c hc)

theorem isSpace_append_cons {t u : List Char} {c : Char} (ht : ∀ d ∈ t, Text.isSpace d = false)
    (hc : Text.isSpace c = false) (hu : ∀ d ∈ u, Text.isSpace d = false) :
    ∀ d ∈ t ++ c :: u, Text.isSpace d = false := by
  intro d hd
  rw [List.mem_append, List.mem_cons] at hd
  rcases hd with hd | rfl | hd
  · exact ht d hd
  · exact hc
  · exact hu d hd

theorem isSpace_dateText {day month year : List Char} (hday : IsShort day)
    (hmonth : IsShort month) (hyear : IsYear year) :
    ∀ c ∈ dateText day month year, Text.isSpace c = false :=
  isSpace_append_cons (isSpace_of_mem_digits hday.2) rfl
    (isSpace_append_cons (isSpace_of_mem_digits hmonth.2) rfl (isSpace_of_mem_digits hyear.2))

/-- In a normalized text, a time of day is set apart by one space. -/
theorem of_mem_time {v s r : List Char} {ds : List Directive} {f : List ℕ} (hv : v ≠ [])
    (hvs : ∀ c ∈ v, Text.isSpace c = false) (hnormal : Text.IsNormal (v ++ s))
    (h : (f, r) ∈ results (.spaces :: ds) s)
    (hds : ∀ s', s' <:+ s → (f, r) ∈ results ds s' →
      s' ≠ [] ∧ ∀ c ∈ s', Text.isSpace c = false) :
    ∃ s', s = ' ' :: s' ∧ (f, r) ∈ results ds s' := by
  obtain ⟨f₁, s₁, f₂, h₁, h₂, rfl⟩ := mem_results_cons.mp h
  obtain ⟨rfl, t, hne, hspaces, rfl⟩ := of_mem_spaces h₁
  rw [List.nil_append] at h hds ⊢
  obtain ⟨hne₁, hs₁⟩ := hds s₁ (List.suffix_append t s₁) h₂
  obtain rfl := hnormal.eq_space hv hne₁ hne hvs hs₁ hspaces
  exact ⟨s₁, rfl, h₂⟩

theorem of_mem_minutes {s : List Char} {f : List ℕ} (hascii : ∀ c ∈ s, c.toNat < 128)
    (h : (f, []) ∈ results [.hour, .literal ':', .minute] s) :
    ∃ hour minute, IsShort hour ∧ IsShort minute ∧ s = hour ++ ':' :: minute ∧
      f = [decimal hour, decimal minute] := by
  obtain ⟨hour, s₁, f₁, hhour, rfl, h₁, rfl⟩ :=
    of_mem_short_literal (d := .hour) rfl hascii (fun h ↦ nomatch h) h
  have hascii₁ : ∀ c ∈ s₁, c.toNat < 128 := fun c hc ↦
    hascii c (List.mem_append_right _ (List.mem_cons_of_mem _ hc))
  obtain ⟨hminute, rfl⟩ := of_mem_short_end (d := .minute) rfl hascii₁ (fun h ↦ nomatch h) h₁
  exact ⟨hour, s₁, hhour, hminute, rfl, rfl⟩

theorem of_mem_seconds {s : List Char} {f : List ℕ} (hascii : ∀ c ∈ s, c.toNat < 128)
    (h : (f, []) ∈ results [.hour, .literal ':', .minute, .literal ':', .second] s) :
    ∃ hour minute second, IsShort hour ∧ IsShort minute ∧ IsShort second ∧
      s = hour ++ ':' :: (minute ++ ':' :: second) ∧
      f = [decimal hour, decimal minute, decimal second] := by
  obtain ⟨hour, s₁, f₁, hhour, rfl, h₁, rfl⟩ :=
    of_mem_short_literal (d := .hour) rfl hascii (fun h ↦ nomatch h) h
  have hascii₁ : ∀ c ∈ s₁, c.toNat < 128 := fun c hc ↦
    hascii c (List.mem_append_right _ (List.mem_cons_of_mem _ hc))
  obtain ⟨minute, s₂, f₂, hminute, rfl, h₂, rfl⟩ :=
    of_mem_short_literal (d := .minute) rfl hascii₁ (fun h ↦ nomatch h) h₁
  have hascii₂ : ∀ c ∈ s₂, c.toNat < 128 := fun c hc ↦
    hascii₁ c (List.mem_append_right _ (List.mem_cons_of_mem _ hc))
  obtain ⟨hsecond, rfl⟩ := of_mem_short_end (d := .second) rfl hascii₂ (fun h ↦ nomatch h) h₂
  exact ⟨hour, minute, s₂, hhour, hminute, hsecond, rfl, rfl⟩

section Soundness

variable {s : String} {d : Datetime} (hascii : ∀ c ∈ s.toList, c.toNat < 128)
  (hnormal : Text.IsNormal s.toList)

include hascii hnormal

theorem denotes_of_strptime_date (h : strptime datePattern s = some d) :
    Denotes s.toList d ∧ d.Exists := by
  obtain ⟨f, hf, hd⟩ := of_strptime h
  rw [← List.append_nil datePattern] at hf
  obtain ⟨day, month, year, s', f', hday, hmonth, hyear, heq, hf', rfl⟩ :=
    of_mem_datePattern hascii hnormal hf
  obtain ⟨rfl, rfl⟩ := mem_results_nil.mp hf'
  obtain ⟨rfl, hexists⟩ := datetime?_eq_some.mp hd
  rw [heq, List.append_nil]
  exact ⟨.date hday hmonth hyear, hexists⟩

theorem denotes_of_strptime_minutes
    (h : strptime (datePattern ++ [.spaces, .hour, .literal ':', .minute]) s = some d) :
    Denotes s.toList d ∧ d.Exists := by
  obtain ⟨f, hf, hd⟩ := of_strptime h
  obtain ⟨day, month, year, s', f', hday, hmonth, hyear, heq, hf', rfl⟩ :=
    of_mem_datePattern hascii hnormal hf
  rw [heq] at hascii hnormal
  have hascii' : ∀ c ∈ s', c.toNat < 128 := fun c hc ↦ hascii c (List.mem_append_right _ hc)
  obtain ⟨s₁, rfl, h₁⟩ := of_mem_time (by simp [dateText]) (isSpace_dateText hday hmonth hyear)
    hnormal hf' fun s₁ hsuff h₁ ↦ by
      obtain ⟨hour, minute, hhour, hminute, rfl, -⟩ :=
        of_mem_minutes (fun c hc ↦ hascii' c (hsuff.subset hc)) h₁
      exact ⟨by simp, isSpace_append_cons (isSpace_of_mem_digits hhour.2) rfl
        (isSpace_of_mem_digits hminute.2)⟩
  obtain ⟨hour, minute, hhour, hminute, rfl, rfl⟩ :=
    of_mem_minutes (fun c hc ↦ hascii' c (List.mem_cons_of_mem _ hc)) h₁
  obtain ⟨rfl, hexists⟩ := datetime?_eq_some.mp hd
  rw [heq]
  exact ⟨.minutes hday hmonth hyear hhour hminute, hexists⟩

theorem denotes_of_strptime_seconds
    (h : strptime (datePattern ++ [.spaces, .hour, .literal ':', .minute, .literal ':', .second])
      s = some d) : Denotes s.toList d ∧ d.Exists := by
  obtain ⟨f, hf, hd⟩ := of_strptime h
  obtain ⟨day, month, year, s', f', hday, hmonth, hyear, heq, hf', rfl⟩ :=
    of_mem_datePattern hascii hnormal hf
  rw [heq] at hascii hnormal
  have hascii' : ∀ c ∈ s', c.toNat < 128 := fun c hc ↦ hascii c (List.mem_append_right _ hc)
  obtain ⟨s₁, rfl, h₁⟩ := of_mem_time (by simp [dateText]) (isSpace_dateText hday hmonth hyear)
    hnormal hf' fun s₁ hsuff h₁ ↦ by
      obtain ⟨hour, minute, second, hhour, hminute, hsecond, rfl, -⟩ :=
        of_mem_seconds (fun c hc ↦ hascii' c (hsuff.subset hc)) h₁
      exact ⟨by simp, isSpace_append_cons (isSpace_of_mem_digits hhour.2) rfl
        (isSpace_append_cons (isSpace_of_mem_digits hminute.2) rfl
          (isSpace_of_mem_digits hsecond.2))⟩
  obtain ⟨hour, minute, second, hhour, hminute, hsecond, rfl, rfl⟩ :=
    of_mem_seconds (fun c hc ↦ hascii' c (List.mem_cons_of_mem _ hc)) h₁
  obtain ⟨rfl, hexists⟩ := datetime?_eq_some.mp hd
  rw [heq]
  exact ⟨.seconds hday hmonth hyear hhour hminute hsecond, hexists⟩

end Soundness

/-! ## Completeness -/

theorem exists_digitChar {c : Char} (h : c.isDigit = true) : ∃ n : Fin 10, c = Nat.digitChar n := by
  obtain ⟨hlo, hhi⟩ := isDigit_iff.mp h
  refine ⟨⟨c.toNat - 48, by omega⟩, Char.toNat_inj.mp ?_⟩
  rw [Nat.toNat_digitChar_of_lt_ten (by omega)]
  exact (Nat.add_sub_cancel' hlo).symm

/-- The numbers that a directive of one or two digits is there for. -/
def Directive.accepts : Directive → ℕ → Bool
  | .day, n => 1 ≤ n && n ≤ 31
  | .month, n => 1 ≤ n && n ≤ 12
  | .hour, n => n ≤ 23
  | .minute, n | .second, n => n ≤ 59
  | _, _ => false

theorem isShort_of_accepts {d : Directive} {n : ℕ} (h : d.accepts n = true) : d.isShort = true := by
  cases d with
  | day | month | hour | minute | second => rfl
  | year | literal | spaces => cases h

theorem number_append {s : List Char} {alternative : List (Char → Bool)}
    (h : alternative.length ≤ s.length) (rest : List Char) :
    Directive.number (s ++ rest) alternative =
      (Directive.number s alternative).map fun p ↦ (p.1, p.2 ++ rest) := by
  rw [Directive.number, Directive.number, List.take_append_of_le_length h,
    List.drop_append_of_le_length h]
  split <;> rfl

/-- A number is read from the first two characters. -/
theorem results_append {d : Directive} (hd : d.isShort = true) {s : List Char} (hs : 2 ≤ s.length)
    (rest : List Char) :
    d.results (s ++ rest) = (d.results s).map fun p ↦ (p.1, p.2 ++ rest) := by
  rw [results_eq_filterMap hd, results_eq_filterMap hd, List.map_filterMap]
  refine List.filterMap_congr fun alternative hmem ↦ number_append ?_ rest
  rcases isNumeral_of_mem_alternatives hd hmem with hnum | ⟨-, p, rfl⟩
  · cases hnum with
    | one => exact Nat.le_of_succ_le hs
    | two => exact hs
  · exact hs

/-- Two digits can be read as one number, and the first of them perhaps alone. -/
theorem results_two (d : Directive) (a b : Fin 10) (h : d.accepts (10 * a + b) = true) :
    d.results [Nat.digitChar a, Nat.digitChar b] =
      ([10 * a.val + b.val], []) ::
        if d.accepts a = true then [([a.val], [Nat.digitChar b])] else [] := by
  cases d with
  | day | month | hour | minute | second => revert a b; decide +kernel
  | year | literal | spaces => cases h

/-- One digit before a separator can be read in one way. -/
theorem results_one_literal (d : Directive) (a : Fin 10) {c : Char} (hc : c = '/' ∨ c = ':')
    (h : d.accepts a = true) : d.results [Nat.digitChar a, c] = [([a.val], [c])] := by
  rcases hc with rfl | rfl
  · cases d with
    | day | month | hour | minute | second => revert a; decide +kernel
    | year | literal | spaces => cases h
  · cases d with
    | day | month | hour | minute | second => revert a; decide +kernel
    | year | literal | spaces => cases h

theorem results_one (d : Directive) (a : Fin 10) (h : d.accepts a = true) :
    d.results [Nat.digitChar a] = [([a.val], [])] := by
  cases d with
  | day | month | hour | minute | second => revert a; decide +kernel
  | year | literal | spaces => cases h

theorem decimal_one (a : Fin 10) : decimal [Nat.digitChar a] = a := by
  revert a; decide

theorem decimal_two (a b : Fin 10) :
    decimal [Nat.digitChar a, Nat.digitChar b] = 10 * a.val + b.val := by
  revert a b; decide

/-- A short numeral is one digit or two. -/
theorem IsShort.cases {t : List Char} (h : IsShort t) :
    (∃ a : Fin 10, t = [Nat.digitChar a]) ∨
      ∃ a b : Fin 10, t = [Nat.digitChar a, Nat.digitChar b] := by
  obtain ⟨hlen | hlen, hdigits⟩ := h
  · obtain ⟨x, rfl⟩ := List.length_eq_one_iff.mp hlen
    obtain ⟨a, rfl⟩ := exists_digitChar (hdigits x (by simp))
    exact Or.inl ⟨a, rfl⟩
  · obtain ⟨x, y, rfl⟩ := List.length_eq_two.mp hlen
    obtain ⟨a, rfl⟩ := exists_digitChar (hdigits x (by simp))
    obtain ⟨b, rfl⟩ := exists_digitChar (hdigits y (by simp))
    exact Or.inr ⟨a, b, rfl⟩

theorem results_literal_cons (c : Char) (ds : List Directive) (s : List Char) :
    results (.literal c :: ds) (c :: s) = results ds s := by
  rw [results, Directive.results, if_pos rfl, List.flatMap_singleton]
  simp

theorem results_literal_of_ne {c b : Char} (h : b ≠ c) (ds : List Directive) (s : List Char) :
    results (.literal c :: ds) (b :: s) = [] := by
  rw [results, Directive.results, if_neg h, List.flatMap_nil]

/-- **A number before a separator** can be read in one way only. -/
theorem results_short_literal {d : Directive} {t : List Char} (ht : IsShort t)
    (h : d.accepts (decimal t) = true) {c : Char} (hc : c = '/' ∨ c = ':') (ds : List Directive)
    (s : List Char) :
    results (d :: .literal c :: ds) (t ++ c :: s) =
      (results ds s).map fun q ↦ (decimal t :: q.1, q.2) := by
  have hd := isShort_of_accepts h
  rcases ht.cases with ⟨a, rfl⟩ | ⟨a, b, rfl⟩
  · rw [decimal_one] at h ⊢
    rw [results, show [Nat.digitChar a] ++ c :: s = [Nat.digitChar a, c] ++ s from rfl,
      results_append hd (s := [Nat.digitChar a, c]) (Nat.le_refl 2), results_one_literal d a hc h,
      List.map_singleton,
      List.flatMap_singleton, List.singleton_append, results_literal_cons]
    rfl
  · rw [decimal_two] at h ⊢
    rw [results, results_append hd (s := [Nat.digitChar a, Nat.digitChar b]) (Nat.le_refl 2),
      results_two d a b h, List.map_cons,
      List.flatMap_cons, List.nil_append, results_literal_cons]
    -- the first digit alone is not followed by the separator
    have hseparator : ∀ b : Fin 10, Nat.digitChar b ≠ '/' ∧ Nat.digitChar b ≠ ':' := by decide
    have hne : Nat.digitChar b ≠ c := by
      rcases hc with rfl | rfl
      · exact (hseparator b).1
      · exact (hseparator b).2
    split
    · rw [List.map_singleton, List.flatMap_singleton, List.singleton_append,
        results_literal_of_ne hne, List.map_nil, List.append_nil]
      rfl
    · rw [List.map_nil, List.flatMap_nil, List.append_nil]
      rfl

/-- A number at the end is read first. -/
theorem head?_results_short {d : Directive} {t : List Char} (ht : IsShort t)
    (h : d.accepts (decimal t) = true) : (results [d] t).head? = some ([decimal t], []) := by
  rcases ht.cases with ⟨a, rfl⟩ | ⟨a, b, rfl⟩
  · rw [decimal_one] at h ⊢
    rw [results, results_one d a h]
    rfl
  · rw [decimal_two] at h ⊢
    rw [results, results_two d a b h]
    rfl

theorem results_year {year : List Char} (hyear : IsYear year) (ds : List Directive)
    (s : List Char) :
    results (.year :: ds) (year ++ s) =
      (results ds s).map fun q ↦ (decimal year :: q.1, q.2) := by
  obtain ⟨hlen, hdigits⟩ := hyear
  have hall : (([isDigit, isDigit, isDigit, isDigit].zip year).all fun p ↦ p.1 p.2) = true := by
    refine List.all_eq_true.mpr fun p hp ↦ ?_
    obtain ⟨h₁, h₂⟩ := List.of_mem_zip hp
    simp only [List.mem_cons, List.not_mem_nil, or_false, or_self] at h₁
    rw [h₁, isDigit, digit?_of_isDigit (hdigits _ h₂)]
    rfl
  have hnumber : Directive.number (year ++ s) [isDigit, isDigit, isDigit, isDigit] =
      some ([decimal year], s) := by
    rw [Directive.number]
    simp only [List.length_cons, List.length_nil, List.take_left' hlen, List.drop_left' hlen]
    rw [if_pos ⟨hlen, hall⟩, value_filterMap_digit? hdigits]
  have hone : Directive.year.results (year ++ s) = [([decimal year], s)] := by
    show [[isDigit, isDigit, isDigit, isDigit]].filterMap (Directive.number (year ++ s)) = _
    rw [List.filterMap_cons_some hnumber, List.filterMap_nil]
  rw [results, hone, List.flatMap_singleton]
  rfl

theorem results_datePattern {day month year : List Char} (hday : IsShort day)
    (hmonth : IsShort month) (hyear : IsYear year)
    (haday : Directive.day.accepts (decimal day) = true)
    (hamonth : Directive.month.accepts (decimal month) = true) (ds : List Directive)
    (s : List Char) :
    results (datePattern ++ ds) (dateText day month year ++ s) =
      (results ds s).map fun q ↦
        (decimal day :: decimal month :: decimal year :: q.1, q.2) := by
  rw [datePattern, dateText]
  simp only [List.cons_append, List.append_assoc, List.nil_append]
  rw [results_short_literal hday haday (Or.inl rfl),
    results_short_literal hmonth hamonth (Or.inl rfl),
    results_year hyear, List.map_map, List.map_map]
  rfl

theorem results_spaces {c : Char} (hc : Text.isSpace c = false) (ds : List Directive)
    (s : List Char) : results (.spaces :: ds) (' ' :: c :: s) = results ds (c :: s) := by
  have hone : Directive.spaces.results (' ' :: c :: s) = [([], c :: s)] := by
    rw [Directive.results, List.takeWhile_cons_of_pos rfl,
      List.takeWhile_cons_of_neg (by simp [hc])]
    rfl
  rw [results, hone, List.flatMap_singleton]
  simp

theorem accepts_of_exists {d : Datetime} (h : d.Exists) :
    Directive.day.accepts d.day = true ∧ Directive.month.accepts d.month = true ∧
      Directive.hour.accepts d.hour = true ∧ Directive.minute.accepts d.minute = true ∧
      Directive.second.accepts d.second = true := by
  have hdays : daysInMonth d.year d.month ≤ 31 := by
    unfold daysInMonth
    split
    · split <;> decide
    all_goals decide
  have hday := h.day
  have hmonth := h.month
  simp only [Directive.accepts, Bool.and_eq_true, decide_eq_true_eq]
  exact ⟨⟨hday.1, Nat.le_trans hday.2 hdays⟩, hmonth, h.hour, h.minute, h.second⟩

/-- The head of a format that starts with a date. -/
theorem strptime_datePattern {s : String} {day month year rest : List Char}
    (hs : s.toList = dateText day month year ++ rest) (hday : IsShort day) (hmonth : IsShort month)
    (hyear : IsYear year) (haday : Directive.day.accepts (decimal day) = true)
    (hamonth : Directive.month.accepts (decimal month) = true) {ds : List Directive} {f : List ℕ}
    (hrest : (results ds rest).head? = some (f, [])) :
    strptime (datePattern ++ ds) s =
      ofFields (decimal day :: decimal month :: decimal year :: f) := by
  rw [strptime, hs, results_datePattern hday hmonth hyear haday hamonth, List.head?_map, hrest]
  rfl

theorem IsShort.exists_cons {t : List Char} (h : IsShort t) :
    ∃ c t', t = c :: t' ∧ Text.isSpace c = false := by
  obtain ⟨c, t', rfl⟩ := List.exists_cons_of_ne_nil h.ne_nil
  exact ⟨c, t', rfl, isSpace_of_isDigit (h.2 c List.mem_cons_self)⟩

/-- After the date, the time of day. -/
theorem results_time {hour : List Char} (hhour : IsShort hour)
    (hahour : Directive.hour.accepts (decimal hour) = true) (ds : List Directive) (s : List Char) :
    results (.spaces :: .hour :: .literal ':' :: ds) (' ' :: (hour ++ ':' :: s)) =
      (results ds s).map fun q ↦ (decimal hour :: q.1, q.2) := by
  obtain ⟨c, hour', rfl, hc⟩ := hhour.exists_cons
  rw [List.cons_append, results_spaces hc, ← List.cons_append,
    results_short_literal hhour hahour (Or.inr rfl)]

/-- What is in the grammar is read with the format of its form. -/
theorem strptime_of_denotes {s : String} {d : Datetime} (h : Denotes s.toList d) (hd : d.Exists) :
    ∃ format ∈ datetimePatterns ++ [datePattern], strptime format s = some d := by
  generalize hs : s.toList = text at h
  obtain ⟨haday, hamonth, hahour, haminute, hasecond⟩ := accepts_of_exists hd
  cases h with
  | date hday hmonth hyear =>
    refine ⟨datePattern, by simp, ?_⟩
    rw [← List.append_nil datePattern, strptime_datePattern (hs.trans (List.append_nil _).symm)
      hday hmonth hyear haday hamonth (f := []) rfl]
    exact datetime?_eq_some.mpr ⟨rfl, hd⟩
  | minutes hday hmonth hyear hhour hminute =>
    refine ⟨datePattern ++ [.spaces, .hour, .literal ':', .minute], by simp [datetimePatterns], ?_⟩
    rw [strptime_datePattern hs hday hmonth hyear haday hamonth
      (by rw [results_time hhour hahour, List.head?_map, head?_results_short hminute
        haminute]; rfl)]
    exact datetime?_eq_some.mpr ⟨rfl, hd⟩
  | seconds hday hmonth hyear hhour hminute hsecond =>
    refine ⟨datePattern ++ [.spaces, .hour, .literal ':', .minute, .literal ':', .second],
      by simp [datetimePatterns], ?_⟩
    rw [strptime_datePattern hs hday hmonth hyear haday hamonth
      (by rw [results_time hhour hahour, results_short_literal hminute haminute (Or.inr rfl),
            List.map_map, List.head?_map, head?_results_short hsecond hasecond]; rfl)]
    exact datetime?_eq_some.mpr ⟨rfl, hd⟩

end Parser
end RmaPortal
