import Mathlib.Algebra.Order.Ring.Int
import Mathlib.Data.List.DropRight
import Mathlib.Data.Nat.Notation

/-!
# Text

The functions of Python's `str` that a program needs which reads text from a page: `split`,
`strip`, `casefold`, the conversion `int(…)`, and searching for a part.  Texts are strings where a
program keeps them and lists of characters where it takes them apart.

## What is here

* `isSpace`, `words`, `normalize`, `strip` — white space.  What counts as white space for `split`
  and `strip` is a list of characters, those of Unicode and the four separators of ASCII.
* `IsNormal` — a text with single spaces between its words and none at its ends.
  `normalize_eq_self` says that normalizing leaves it alone and `isNormal_normalize` that it makes
  one, so once is enough (`normalize_normalize`).  `IsNormal.eq_space` is what a parser is given
  by this: between two words there is one space and nothing else.
* `repr` — how a text is written in a message.
* `contains`, `containsLike`, `ignoringCase`, `casefold` — searching, for a part, for a pattern of
  characters, and without regard to case, as far as ASCII characters come out of it.
* `zeros`, `digit?`, `int?` — numbers: a sign, digits of any script with single underscores
  between them, white space around, and at most as many digits as the interpreter converts.  White
  space is what Unicode calls so; the four separators of ASCII, which `strip` takes off, are none
  to `int(…)`.

Regular expressions are not modelled as such.  The few patterns the program has are predicates on
characters, one for each position.
-/

set_option autoImplicit false

namespace Text

/-! ## White space -/

/-- `c.isspace()`, the characters at which `split` splits and which `strip` strips. -/
def isSpace (c : Char) : Bool :=
  let n := c.toNat
  (9 ≤ n && n ≤ 13) || (28 ≤ n && n ≤ 32) || n = 133 || n = 160 || n = 5760 ||
    (8192 ≤ n && n ≤ 8202) || n = 8232 || n = 8233 || n = 8239 || n = 8287 || n = 12288

/-- `s.split()` -/
def words (s : List Char) : List (List Char) := (s.splitOnP isSpace).filter (· ≠ [])

/-- `" ".join(s.split())` -/
def normalize (s : String) : String := .ofList ([' '].intercalate (words s.toList))

/-- `s.strip()` -/
def strip (s : String) : String :=
  .ofList ((s.toList.dropWhile isSpace).rdropWhile isSpace)

/-! ### Normalized text -/

/-- A text without white space at its ends, and with single spaces between its words. -/
def IsNormal (s : List Char) : Prop := [' '].intercalate (words s) = s

theorem words_cons_of_isSpace {c : Char} (h : isSpace c = true) (s : List Char) :
    words (c :: s) = words s := by
  have hsplit := List.splitOnP_append_cons [] s h
  rw [List.nil_append, List.splitOnP_nil] at hsplit
  rw [words, words, hsplit]
  rfl

theorem words_append_of_isSpace {t : List Char} (h : ∀ c ∈ t, isSpace c = true) (s : List Char) :
    words (t ++ s) = words s := by
  induction t with
  | nil => rfl
  | cons c t ih =>
    rw [List.cons_append, words_cons_of_isSpace (h c List.mem_cons_self),
      ih fun c hc ↦ h c (List.mem_cons_of_mem _ hc)]

/-- A word, alone. -/
theorem words_eq_singleton {w : List Char} (hne : w ≠ []) (h : ∀ c ∈ w, isSpace c = false) :
    words w = [w] := by
  rw [words, List.splitOnP_eq_singleton h]
  simp [hne]

/-- A word at the beginning. -/
theorem words_append_cons {w : List Char} (hne : w ≠ []) (h : ∀ c ∈ w, isSpace c = false) {c : Char}
    (hc : isSpace c = true) (s : List Char) : words (w ++ c :: s) = w :: words s := by
  rw [words, words, List.splitOnP_append_cons_of_forall_mem h c hc]
  simp [hne]

/-- The parts between white space have none. -/
theorem of_mem_splitOnP {s w : List Char} (h : w ∈ s.splitOnP isSpace) :
    ∀ c ∈ w, isSpace c = false ∧ c ∈ s := by
  induction s generalizing w with
  | nil =>
    rw [List.splitOnP_nil, List.mem_singleton] at h
    rintro c hc
    rw [h] at hc
    cases hc
  | cons d s ih =>
    intro c hc
    rw [List.splitOnP_cons_eq_if_modifyHead] at h
    split at h
    · rcases List.mem_cons.mp h with rfl | h
      · cases hc
      · exact ⟨(ih h c hc).1, List.mem_cons_of_mem _ (ih h c hc).2⟩
    · rename_i hd
      cases hsplit : s.splitOnP isSpace with
      | nil => exact absurd hsplit (List.splitOnP_ne_nil _ _)
      | cons v l =>
        rw [hsplit, List.modifyHead_cons] at h
        rw [hsplit] at ih
        rcases List.mem_cons.mp h with rfl | h
        · rcases List.mem_cons.mp hc with rfl | hc
          · exact ⟨by simpa using hd, List.mem_cons_self⟩
          · have hv := ih List.mem_cons_self c hc
            exact ⟨hv.1, List.mem_cons_of_mem _ hv.2⟩
        · have hw := ih (List.mem_cons_of_mem _ h) c hc
          exact ⟨hw.1, List.mem_cons_of_mem _ hw.2⟩

theorem of_mem_words {s w : List Char} (h : w ∈ words s) :
    w ≠ [] ∧ ∀ c ∈ w, isSpace c = false ∧ c ∈ s := by
  obtain ⟨h, hne⟩ := List.mem_filter.mp h
  exact ⟨of_decide_eq_true hne, of_mem_splitOnP h⟩

/-- Words, with spaces between them, are the words of that. -/
theorem words_intercalate {ws : List (List Char)}
    (h : ∀ w ∈ ws, w ≠ [] ∧ ∀ c ∈ w, isSpace c = false) : words ([' '].intercalate ws) = ws := by
  induction ws with
  | nil => rfl
  | cons w ws ih =>
    obtain ⟨hne, hw⟩ := h w List.mem_cons_self
    cases ws with
    | nil => rw [List.intercalate_singleton, words_eq_singleton hne hw]
    | cons w' ws =>
      rw [List.intercalate_cons_cons, List.append_assoc, List.singleton_append,
        words_append_cons hne hw rfl, ih fun v hv ↦ h v (List.mem_cons_of_mem _ hv)]

theorem isNormal_normalize (s : String) : IsNormal (normalize s).toList := by
  rw [IsNormal, normalize, String.toList_ofList, words_intercalate]
  intro w hw
  obtain ⟨hne, hw⟩ := of_mem_words hw
  exact ⟨hne, fun c hc ↦ (hw c hc).1⟩

theorem normalize_eq_self {s : String} (h : IsNormal s.toList) : normalize s = s := by
  rw [normalize, show [' '].intercalate (words s.toList) = s.toList from h, String.ofList_toList]

/-- Normalizing once is enough. -/
theorem normalize_normalize (s : String) : normalize (normalize s) = normalize s :=
  normalize_eq_self (isNormal_normalize s)

/-- A character of the normalized text is a space or was there before. -/
theorem of_mem_normalize {s : String} {c : Char} (h : c ∈ (normalize s).toList) :
    c = ' ' ∨ c ∈ s.toList := by
  rw [normalize, String.toList_ofList] at h
  have hall : ∀ ws : List (List Char), c ∈ [' '].intercalate ws → c = ' ' ∨ ∃ w ∈ ws, c ∈ w := by
    intro ws
    induction ws with
    | nil => exact fun h ↦ nomatch h
    | cons w ws ih =>
      cases ws with
      | nil =>
        intro h
        rw [List.intercalate_singleton] at h
        exact Or.inr ⟨w, List.mem_cons_self, h⟩
      | cons w' ws =>
        intro h
        rw [List.intercalate_cons_cons, List.append_assoc, List.mem_append, List.mem_append,
          List.mem_singleton] at h
        rcases h with h | h | h
        · exact Or.inr ⟨w, List.mem_cons_self, h⟩
        · exact Or.inl h
        · exact (ih h).imp_right fun ⟨v, hv, hc⟩ ↦ ⟨v, List.mem_cons_of_mem _ hv, hc⟩
  exact (hall _ h).imp_right fun ⟨w, hw, hc⟩ ↦ ((of_mem_words hw).2 c hc).2

theorem IsNormal.isSpace_head {c : Char} {s : List Char} (h : IsNormal (c :: s)) :
    isSpace c = false := by
  by_contra hc
  rw [Bool.not_eq_false] at hc
  rw [IsNormal, words_cons_of_isSpace hc] at h
  cases hws : words s with
  | nil => rw [hws] at h; cases h
  | cons w ws =>
    obtain ⟨hne, hw⟩ := of_mem_words (hws ▸ List.mem_cons_self : w ∈ words s)
    obtain ⟨d, v, rfl⟩ := List.exists_cons_of_ne_nil hne
    rw [hws] at h
    have hd : d = c := by
      cases ws with
      | nil => exact (List.cons.inj h).1
      | cons w' ws => exact (List.cons.inj h).1
    exact Bool.noConfusion ((hw d List.mem_cons_self).1.symm.trans (hd ▸ hc))

/-- Between two words of a normalized text there is one space. -/
theorem IsNormal.eq_space {v t w : List Char} (h : IsNormal (v ++ (t ++ w))) (hv : v ≠ [])
    (hw : w ≠ []) (ht : t ≠ []) (hvs : ∀ c ∈ v, isSpace c = false)
    (hws : ∀ c ∈ w, isSpace c = false) (hts : ∀ c ∈ t, isSpace c = true) : t = [' '] := by
  obtain ⟨c, t, rfl⟩ := List.exists_cons_of_ne_nil ht
  rw [IsNormal, List.cons_append, words_append_cons hv hvs (hts c List.mem_cons_self),
    words_append_of_isSpace (fun d hd ↦ hts d (List.mem_cons_of_mem _ hd)),
    words_eq_singleton hw hws, List.intercalate_cons_cons, List.intercalate_singleton,
    List.append_assoc, List.append_cancel_left_eq, ← List.cons_append,
    List.append_cancel_right_eq] at h
  exact h.symm

/-- A word is normalized. -/
theorem isNormal_word {w : List Char} (hne : w ≠ []) (h : ∀ c ∈ w, isSpace c = false) :
    IsNormal w := by
  rw [IsNormal, words_eq_singleton hne h, List.intercalate_singleton]

/-- Two words with a space between them are normalized. -/
theorem isNormal_two_words {v w : List Char} (hv : v ≠ []) (hw : w ≠ [])
    (hvs : ∀ c ∈ v, isSpace c = false) (hws : ∀ c ∈ w, isSpace c = false) :
    IsNormal (v ++ ' ' :: w) := by
  rw [IsNormal, words_append_cons hv hvs rfl, words_eq_singleton hw hws,
    List.intercalate_cons_cons, List.intercalate_singleton, List.append_assoc,
    List.singleton_append]

/-- How `repr` writes a character between the quotation marks `quote`; other characters that cannot
be printed than the ASCII ones are written as they are. -/
def reprChar (quote c : Char) : List Char :=
  let hex (n : ℕ) : Char := "0123456789abcdef".toList.getD n '0'
  if c = quote || c.toNat = 92 then [Char.ofNat 92, c]
  else
    match c.toNat with
    | 9 => [Char.ofNat 92, 't']
    | 10 => [Char.ofNat 92, 'n']
    | 13 => [Char.ofNat 92, 'r']
    | n => if n < 32 || n = 127 then [Char.ofNat 92, 'x', hex (n / 16), hex (n % 16)] else [c]

/-- `repr(s)` -/
def repr (s : String) : String :=
  let chars := s.toList
  let quote := Char.ofNat (if chars.any (·.toNat = 39) && !chars.any (·.toNat = 34) then 34 else 39)
  .ofList ([quote] ++ chars.flatMap (reprChar quote) ++ [quote])

/-! ## Searching -/

/-- `part in s` -/
def contains (s part : List Char) : Bool := s.tails.any part.isPrefixOf

/-- Whether `s` begins with characters that match the pattern one by one. -/
def startsLike : List (Char → Bool) → List Char → Bool
  | [], _ => true
  | _ :: _, [] => false
  | p :: pattern, c :: s => p c && startsLike pattern s

/-- Whether some part of `s` matches the pattern. -/
def containsLike (pattern : List (Char → Bool)) (s : List Char) : Bool :=
  s.tails.any (startsLike pattern)

/-- Whether `d` matches the character `c` of a regular expression that ignores case; `c` is ASCII
and no capital letter. -/
def ignoringCase (c d : Char) : Bool :=
  let m := c.toNat
  let n := d.toNat
  n = m || (97 ≤ m && m ≤ 122 && n + 32 = m) || (m = 115 && n = 383) || (m = 107 && n = 8490)

/-- `c.casefold()`, as far as ASCII characters come out of it: any other character is left alone. -/
def casefoldChar (c : Char) : List Char :=
  match c.toNat with
  | 223 | 7838 => ['s', 's']
  | 304 => ['i', Char.ofNat 775]
  | 329 => [Char.ofNat 700, 'n']
  | 383 => ['s']
  | 496 => ['j', Char.ofNat 780]
  | 7830 => ['h', Char.ofNat 817]
  | 7831 => ['t', Char.ofNat 776]
  | 7832 => ['w', Char.ofNat 778]
  | 7833 => ['y', Char.ofNat 778]
  | 7834 => ['a', Char.ofNat 702]
  | 8490 => ['k']
  | 64256 => ['f', 'f']
  | 64257 => ['f', 'i']
  | 64258 => ['f', 'l']
  | 64259 => ['f', 'f', 'i']
  | 64260 => ['f', 'f', 'l']
  | 64261 | 64262 => ['s', 't']
  | _ => [c.toLower]

/-- `s.casefold()` -/
def casefold (s : List Char) : List Char := s.flatMap casefoldChar

/-! ## Numbers -/

/-- The digits zero of the scripts of Unicode 16 that have decimal digits. -/
def zeros : List ℕ :=
  [0x30, 0x660, 0x6F0, 0x7C0, 0x966, 0x9E6, 0xA66, 0xAE6, 0xB66, 0xBE6, 0xC66, 0xCE6, 0xD66, 0xDE6,
    0xE50, 0xED0, 0xF20, 0x1040, 0x1090, 0x17E0, 0x1810, 0x1946, 0x19D0, 0x1A80, 0x1A90, 0x1B50,
    0x1BB0, 0x1C40, 0x1C50, 0xA620, 0xA8D0, 0xA900, 0xA9D0, 0xA9F0, 0xAA50, 0xABF0, 0xFF10, 0x104A0,
    0x10D30, 0x10D40, 0x11066, 0x110F0, 0x11136, 0x111D0, 0x112F0, 0x11450, 0x114D0, 0x11650,
    0x116C0, 0x116D0, 0x116DA, 0x11730, 0x118E0, 0x11950, 0x11BF0, 0x11C50, 0x11D50, 0x11DA0,
    0x11F50, 0x16130, 0x16A60, 0x16AC0, 0x16B50, 0x16D70, 0x1CCF0, 0x1D7CE, 0x1D7D8, 0x1D7E2,
    0x1D7EC, 0x1D7F6, 0x1E140, 0x1E2F0, 0x1E4F0, 0x1E5F1, 0x1E950, 0x1FBF0]

/-- The value of a decimal digit. -/
def digit? (c : Char) : Option ℕ :=
  (zeros.find? fun z ↦ z ≤ c.toNat && c.toNat < z + 10).map (c.toNat - ·)

/-- The value of digits, read as a decimal number. -/
def value (digits : List ℕ) : ℕ := digits.foldl (fun n d ↦ 10 * n + d) 0

/-- Digits with single underscores between them; `expected` says that a digit has to follow. -/
def digits? : Bool → List Char → Option (List ℕ)
  | expected, [] => if expected then none else some []
  | expected, c :: s =>
    if c = '_' then (if expected then none else digits? true s)
    else (digit? c).bind fun d ↦ (digits? false s).map (d :: ·)

/-- `sys.get_int_max_str_digits()` -/
def maxStrDigits : ℕ := 4300

/-- A sign and digits. -/
def signed? : List Char → Option ℤ
  | '-' :: s => (nat? s).map fun n ↦ -(n : ℤ)
  | '+' :: s => (nat? s).map fun n ↦ (n : ℤ)
  | s => (nat? s).map fun n ↦ (n : ℤ)
where
  /-- A number without a sign. -/
  nat? (s : List Char) : Option ℕ :=
    (digits? true s).bind fun ds ↦ if ds.length ≤ maxStrDigits then some (value ds) else none

/-- The white space that a number may stand in: not the separators of ASCII, which `strip` strips.
-/
def isNumberSpace (c : Char) : Bool := isSpace c && !(28 ≤ c.toNat && c.toNat ≤ 31)

/-- `int(s)`, unless it raises a `ValueError`. -/
def int? (s : String) : Option ℤ :=
  signed? ((s.toList.dropWhile isNumberSpace).rdropWhile isNumberSpace)

example : (int? " 12 ", int? "-1_0", int? "1__0", int? "x") =
    (some 12, some (-10), none, none) := by
  decide +kernel

example : int? (.ofList [Char.ofNat 0x1F, '7']) = none ∧
    int? (.ofList [Char.ofNat 0x2003, Char.ofNat 0x1CCF7]) = some 7 := by
  decide +kernel

end Text
