import RmaPortal.Infrastructure.Portal.JsonDecoder
import RmaPortal.Infrastructure.Portal.JsonEncoder

/-!
# JSON there and back

`json.loads` undoes `json.dumps` on every value that is not nested too deeply, as long as the
texts of its numbers are such that they are read as these numbers (`Encodable.loads`).  What the
decoder does with the text of a value, it does whatever comes after the value; so the texts of the
parts can be put together.

## What is here

* Strings.  `units` are the units that a character is escaped as; beyond U+FFFF it is two
  surrogates, which the decoder joins again (`joinSurrogates_units`).  `scanUnits_encodeChar` is
  one character, `scanString_encode` a whole string: the text of a string is ASCII, and contains
  neither a quote nor a control character but those that end it or are escaped.
* `Delimited`, `Begins`, `Scans` — a value is scanned as what it was encoded from if what follows
  it is nothing or a delimiter; a number ends there and nowhere else.
* `IsNumberText` — a number is kept as its text, as in `Json`, since the model has no
  floating-point numbers; this says that the text is one that the decoder reads.
* `Encodable` — a value that is nested less deeply than the limit of the decoder, with numbers
  that can be read.  It is defined by recursion on the value and can be decided.
* `scanItems_encode`, `scanPairs_encode` — the items of a list and the fields of an object, by
  induction on the list, with the fuel of the decoder bounded by the length of the text.
* `scans_null` … `scans_obj`, `Encodable.scans`, `Encodable.loads` — the induction on the value.

The round trip is used for the saved session, where `json.dump` and `json.load` are two ends of
the same file; it says nothing about texts that nobody has encoded.
-/

set_option autoImplicit false

namespace RmaPortal

namespace JsonEncoder

open JsonDecoder

/-! ## Strings -/

/-- The units that a character is escaped as: beyond U+FFFF it is two surrogates. -/
def units (c : Char) : List ℕ :=
  if c.toNat < 0x10000 then [c.toNat]
  else [0xd800 + (c.toNat - 0x10000) / 0x400, 0xdc00 + (c.toNat - 0x10000) % 0x400]

theorem hexDigit?_hexDigit : ∀ n < 16, hexDigit? (hexDigit n) = some n := by decide

theorem scanUnits_hexEscape {n : ℕ} (h : n < 0x10000) (s : List Char) :
    scanUnits (hexEscape n ++ s) = (scanUnits s).map fun p ↦ (n :: p.1, p.2) := by
  have hdigit (k : ℕ) : hexDigit? (hexDigit (n / k % 16)) = some (n / k % 16) :=
    hexDigit?_hexDigit _ (Nat.mod_lt _ (by omega))
  have hlast : hexDigit? (hexDigit (n % 16)) = some (n % 16) :=
    hexDigit?_hexDigit _ (Nat.mod_lt _ (by omega))
  have hvalue : (((n / 4096 % 16) * 16 + n / 256 % 16) * 16 + n / 16 % 16) * 16 + n % 16 = n := by
    omega
  rw [hexEscape]
  simp only [List.cons_append, List.nil_append]
  rw [scanUnits, if_neg (by decide), if_neg (by decide), if_pos (by decide)]
  simp only [hdigit, hlast, hvalue]

theorem shortEscape?_eq_some {c e : Char} (h : shortEscape? c = some e) :
    e ≠ 'u' ∧ backslash? e = some c.toNat ∧ c.toNat < 0x10000 := by
  rw [shortEscape?] at h
  split at h
  · rename_i hc
    obtain rfl := Option.some_inj.mp h
    rcases (by simpa using hc : c = quote ∨ c = backslash) with rfl | rfl <;> decide
  split at h
  · rename_i hc
    rw [← Option.some_inj.mp h, hc]
    decide
  split at h
  · rename_i hc
    rw [← Option.some_inj.mp h, hc]
    decide
  split at h
  · rename_i hc
    rw [← Option.some_inj.mp h, hc]
    decide
  split at h
  · rename_i hc
    rw [← Option.some_inj.mp h, hc]
    decide
  split at h
  · rename_i hc
    rw [← Option.some_inj.mp h, hc]
    decide
  · cases h

theorem shortEscape?_quote : shortEscape? quote = some quote := rfl

theorem shortEscape?_backslash : shortEscape? backslash = some backslash := rfl

theorem eq_quote_of_isQuote {c : Char} (h : isQuote c = true) : c = quote := by
  have hnat : c.toNat = 34 := by simpa [isQuote] using h
  rw [← Char.ofNat_toNat c, hnat]
  rfl

theorem eq_backslash_of_isBackslash {c : Char} (h : isBackslash c = true) : c = backslash := by
  have hnat : c.toNat = 92 := by simpa [isBackslash] using h
  rw [← Char.ofNat_toNat c, hnat]
  rfl

/-- **A character of a string** is scanned as its units. -/
theorem scanUnits_encodeChar (c : Char) (s : List Char) :
    scanUnits (encodeChar c ++ s) = (scanUnits s).map fun p ↦ (units c ++ p.1, p.2) := by
  rw [encodeChar]
  cases hshort : shortEscape? c with
  | some e =>
    obtain ⟨hu, hback, hlt⟩ := shortEscape?_eq_some hshort
    simp only [List.cons_append, List.nil_append]
    rw [scanUnits, if_neg (by decide), if_neg (by decide), if_pos (by decide), units, if_pos hlt]
    · simp only [hback]
      rfl
    · exact fun _ _ _ _ _ he _ ↦ hu he
    · exact hu
  | none =>
    dsimp only
    split
    · rename_i hprinting
      obtain ⟨hle, hge⟩ : ' ' ≤ c ∧ c ≤ '~' := by simpa using hprinting
      have h32 : 32 ≤ c.toNat := by simpa [Char.le_def, UInt32.le_iff_toNat_le] using hle
      have h126 : c.toNat ≤ 126 := by simpa [Char.le_def, UInt32.le_iff_toNat_le] using hge
      have hquote : ¬isQuote c = true := by
        intro h
        rw [eq_quote_of_isQuote h, shortEscape?_quote] at hshort
        cases hshort
      have hback : ¬isBackslash c = true := by
        intro h
        rw [eq_backslash_of_isBackslash h, shortEscape?_backslash] at hshort
        cases hshort
      rw [List.singleton_append, scanUnits.eq_def]
      dsimp only
      rw [if_neg hquote, if_neg (by omega), if_neg hback, units, if_pos (by omega)]
      rfl
    · split
      · rename_i hlt
        rw [scanUnits_hexEscape hlt, units, if_pos hlt]
        rfl
      · rename_i hge
        have hbound : c.toNat < 0x110000 := by
          have hvalid : c.toNat < 0xd800 ∨ 0xdfff < c.toNat ∧ c.toNat < 0x110000 := c.valid
          omega
        rw [List.append_assoc, scanUnits_hexEscape (by omega), scanUnits_hexEscape (by omega),
          units, if_neg hge]
        cases scanUnits s <;> rfl

theorem scanUnits_encodeString (l s : List Char) :
    scanUnits (l.flatMap encodeChar ++ quote :: s) = .ok (l.flatMap units, s) := by
  induction l with
  | nil =>
    rw [List.flatMap_nil, List.nil_append, scanUnits.eq_def]
    exact if_pos (by decide)
  | cons c l ih =>
    rw [List.flatMap_cons, List.append_assoc, scanUnits_encodeChar, ih]
    rfl

/-- A character is no surrogate. -/
theorem charOf_toNat (c : Char) : charOf c.toNat = c := by
  have hvalid : c.toNat.isValidChar := c.valid
  rw [charOf, if_pos hvalid, Char.ofNat_toNat]

theorem joinSurrogates_units (c : Char) (us : List ℕ) :
    joinSurrogates (units c ++ us) = c :: joinSurrogates us := by
  have hvalid : c.toNat < 0xd800 ∨ 0xdfff < c.toNat ∧ c.toNat < 0x110000 := c.valid
  rw [units]
  split
  · cases us with
    | nil =>
      change [charOf c.toNat] = [c]
      rw [charOf_toNat]
    | cons u us =>
      rw [List.singleton_append, joinSurrogates, if_neg (by omega), charOf_toNat]
  · have hcode : 0x10000 + ((0xd800 + (c.toNat - 0x10000) / 0x400 - 0xd800) * 0x400 +
        (0xdc00 + (c.toNat - 0x10000) % 0x400 - 0xdc00)) = c.toNat := by omega
    rw [List.cons_append, List.singleton_append, joinSurrogates, if_pos (by omega), hcode,
      charOf_toNat]

theorem joinSurrogates_flatMap (l : List Char) : joinSurrogates (l.flatMap units) = l := by
  induction l with
  | nil => rfl
  | cons c l ih => rw [List.flatMap_cons, joinSurrogates_units, ih]

/-- **A string is scanned as what it was encoded from.** -/
theorem scanString_encode (key : String) (s : List Char) :
    scanString (key.toList.flatMap encodeChar ++ quote :: s) = .ok (key, s) := by
  rw [scanString, scanUnits_encodeString]
  change Except.ok (String.ofList (joinSurrogates _), s) = _
  rw [joinSurrogates_flatMap, String.ofList_toList]

/-! ## Values -/

/-- Nothing follows, or a delimiter: what a number ends at. -/
def Delimited (rest : List Char) : Prop :=
  rest = [] ∨ ∃ c s, rest = c :: s ∧ (c = ',' ∨ c = ']' ∨ c = '}')

/-- A text with which a value can begin. -/
def Begins (l : List Char) : Prop :=
  ∃ c s, l = c :: s ∧ c.toNat < 128 ∧ isSpace c = false ∧ c ≠ ']'

/-- A value that is scanned as what it was encoded from. -/
def Scans (scan : List Char → Scanned Json) (v : Json) : Prop :=
  Begins (encode v) ∧ ∀ rest, Delimited rest → scan (encode v ++ rest) = .ok (v, rest)

/-- A number whose text is read as that number. -/
def IsNumberText (text : String) (isZero : Bool) : Prop :=
  ∀ depth, Scans (scanOnce depth) (.number text isZero)

/-- A value that is nested less deeply than `depth`, with numbers that can be read. -/
def Encodable : ℕ → Json → Prop
  | _, .number text isZero => IsNumberText text isZero
  | 0, .arr _ => False
  | 0, .obj _ => False
  | depth + 1, .arr items => ∀ v ∈ items, Encodable depth v
  | depth + 1, .obj fields => ∀ f ∈ fields, Encodable depth f.2
  | _, _ => True

theorem skip_of_begins {l : List Char} (h : Begins l) (rest : List Char) :
    skip (l ++ rest) = l ++ rest := by
  obtain ⟨c, s, rfl, -, hspace, -⟩ := h
  rw [skip, List.cons_append, List.dropWhile_cons_of_neg (by simp [hspace])]

theorem skip_space (s : List Char) : skip (' ' :: s) = skip s := rfl

theorem begins_quote (s : List Char) : Begins (quote :: s) := ⟨quote, s, rfl, by decide⟩

/-! ## Lists -/

section

variable {scan : List Char → Scanned Json} {items : List Json} {fields : List (String × Json)}
  {n : ℕ}

theorem encodeItems_cons_cons (v w : Json) (items : List Json) :
    encodeItems (v :: w :: items) = encode v ++ ',' :: ' ' :: encodeItems (w :: items) := by
  rw [encodeItems, List.append_assoc]
  · rfl
  · exact List.cons_ne_nil w items

theorem begins_encodeItems (h : ∀ v ∈ items, Scans scan v) (hne : items ≠ []) :
    Begins (encodeItems items) := by
  cases items with
  | nil => exact (hne rfl).elim
  | cons v items =>
    obtain ⟨c, s, hc, hbegins⟩ := (h v List.mem_cons_self).1
    cases items with
    | nil => exact ⟨c, s, hc, hbegins⟩
    | cons w items => exact ⟨c, _, by rw [encodeItems_cons_cons, hc]; rfl, hbegins⟩

theorem length_le_encodeItems (h : ∀ v ∈ items, Scans scan v) :
    items.length ≤ (encodeItems items).length := by
  induction items with
  | nil => exact Nat.zero_le _
  | cons v items ih =>
    have ih := ih fun w hw ↦ h w (List.mem_cons_of_mem _ hw)
    obtain ⟨c, s, hc, -⟩ := (h v List.mem_cons_self).1
    cases items with
    | nil => rw [encodeItems, hc]; simp
    | cons w items =>
      rw [encodeItems_cons_cons, hc]
      simp only [List.length_append, List.length_cons] at ih ⊢
      omega

/-- **The items of a list** are scanned as what they were encoded from. -/
theorem scanItems_encode (h : ∀ v ∈ items, Scans scan v) (hne : items ≠ [])
    (hn : items.length ≤ n) (rest : List Char) :
    scanItems scan n (encodeItems items ++ ']' :: rest) = .ok (items, rest) := by
  induction items generalizing n with
  | nil => exact (hne rfl).elim
  | cons v items ih =>
    obtain ⟨n, rfl⟩ : ∃ k, n = k + 1 := ⟨n - 1, by simp at hn; omega⟩
    obtain ⟨-, hscan⟩ := h v List.mem_cons_self
    cases items with
    | nil =>
      rw [encodeItems, scanItems, hscan _ (.inr ⟨']', rest, rfl, by simp⟩)]
      rfl
    | cons w items =>
      have hrest : ∀ x ∈ w :: items, Scans scan x := fun x hx ↦ h x (List.mem_cons_of_mem _ hx)
      have hbegins := begins_encodeItems hrest (List.cons_ne_nil w items)
      have ih := ih hrest (List.cons_ne_nil w items) (Nat.le_of_succ_le_succ hn)
      rw [encodeItems_cons_cons, List.append_assoc, List.cons_append, List.cons_append, scanItems,
        hscan _ (.inr ⟨',', ' ' :: (encodeItems (w :: items) ++ ']' :: rest), rfl, by simp⟩)]
      change ((scanItems scan n (skip (' ' :: (encodeItems (w :: items) ++ ']' :: rest)))).map _ :
        Except Exn (List Json × List Char)) = _
      rw [skip_space, skip_of_begins hbegins, ih]
      rfl

/-! ## Objects -/

theorem encodeField_append (f : String × Json) (s : List Char) : encodeField f ++ s =
    quote :: (f.1.toList.flatMap encodeChar ++ quote :: ':' :: ' ' :: (encode f.2 ++ s)) := by
  obtain ⟨key, value⟩ := f
  rw [encodeField, encodeString]
  simp only [List.cons_append, List.append_assoc, List.nil_append]
  rfl

theorem encodeFields_cons_cons (f g : String × Json) (fields : List (String × Json)) :
    encodeFields (f :: g :: fields) =
      encodeField f ++ ',' :: ' ' :: encodeFields (g :: fields) := by
  rw [encodeFields, List.append_assoc]
  · rfl
  · exact List.cons_ne_nil g fields

theorem exists_encodeFields (hne : fields ≠ []) : ∃ s, encodeFields fields = quote :: s := by
  cases fields with
  | nil => exact (hne rfl).elim
  | cons f fields =>
    cases fields with
    | nil => exact ⟨_, by rw [encodeFields, ← List.append_nil (encodeField f), encodeField_append]⟩
    | cons g fields => exact ⟨_, by rw [encodeFields_cons_cons, encodeField_append]⟩

theorem skip_encodeFields (hne : fields ≠ []) (rest : List Char) :
    skip (encodeFields fields ++ rest) = encodeFields fields ++ rest := by
  obtain ⟨s, hs⟩ := exists_encodeFields hne
  exact skip_of_begins (hs ▸ begins_quote s) rest

theorem length_le_encodeFields (fields : List (String × Json)) :
    fields.length ≤ (encodeFields fields).length := by
  induction fields with
  | nil => exact Nat.zero_le _
  | cons f fields ih =>
    cases fields with
    | nil =>
      rw [encodeFields, ← List.append_nil (encodeField f), encodeField_append]
      simp
    | cons g fields =>
      rw [encodeFields_cons_cons, encodeField_append]
      simp only [List.length_append, List.length_cons] at ih ⊢
      omega

/-- **The fields of an object** are scanned as what they were encoded from. -/
theorem scanPairs_encode (h : ∀ f ∈ fields, Scans scan f.2) (hne : fields ≠ [])
    (hn : fields.length ≤ n) (rest : List Char) :
    scanPairs scan n (encodeFields fields ++ '}' :: rest) = .ok (fields, rest) := by
  induction fields generalizing n with
  | nil => exact (hne rfl).elim
  | cons f fields ih =>
    obtain ⟨n, rfl⟩ : ∃ k, n = k + 1 := ⟨n - 1, by simp at hn; omega⟩
    obtain ⟨hbegins, hscan⟩ := h f List.mem_cons_self
    have hquote : ¬(!isQuote quote) = true := by decide
    cases fields with
    | nil =>
      rw [encodeFields, encodeField_append, scanPairs, if_neg hquote, scanString_encode]
      change (scan (skip (' ' :: (encode f.2 ++ '}' :: rest))) >>= _ : Except Exn _) = _
      rw [skip_space, skip_of_begins hbegins, hscan _ (.inr ⟨'}', rest, rfl, by simp⟩)]
      rfl
    | cons g fields =>
      have ih := ih (fun x hx ↦ h x (List.mem_cons_of_mem _ hx)) (List.cons_ne_nil g fields)
        (Nat.le_of_succ_le_succ hn)
      rw [encodeFields_cons_cons, List.append_assoc, encodeField_append, scanPairs, if_neg hquote,
        scanString_encode]
      change (scan (skip (' ' :: (encode f.2 ++ ',' :: ' ' ::
        (encodeFields (g :: fields) ++ '}' :: rest)))) >>= _ : Except Exn _) = _
      rw [skip_space, skip_of_begins hbegins, hscan _ (.inr ⟨',', _, rfl, by simp⟩)]
      change ((scanPairs scan n (skip (' ' :: (encodeFields (g :: fields) ++ '}' :: rest)))).map _ :
        Except Exn (List (String × Json) × List Char)) = _
      rw [skip_space, skip_encodeFields (List.cons_ne_nil g fields), ih]
      rfl

end

/-! ## All values -/

theorem scans_null (depth : ℕ) : Scans (scanOnce depth) .null :=
  ⟨⟨'n', _, rfl, by decide⟩, fun rest _ ↦ by cases depth <;> rfl⟩

theorem scans_bool (depth : ℕ) (b : Bool) : Scans (scanOnce depth) (.bool b) := by
  cases b
  · exact ⟨⟨'f', _, rfl, by decide⟩, fun rest _ ↦ by cases depth <;> rfl⟩
  · exact ⟨⟨'t', _, rfl, by decide⟩, fun rest _ ↦ by cases depth <;> rfl⟩

theorem scans_str (depth : ℕ) (s : String) : Scans (scanOnce depth) (.str s) := by
  refine ⟨begins_quote _, fun rest _ ↦ ?_⟩
  have hscan : scanOnce depth (quote :: (s.toList.flatMap encodeChar ++ quote :: rest)) =
      (scanString (s.toList.flatMap encodeChar ++ quote :: rest)).map fun p ↦ (.str p.1, p.2) := by
    cases depth <;> rfl
  simp only [encode, encodeString, List.cons_append, List.append_assoc, List.nil_append]
  rw [hscan, scanString_encode]
  rfl

theorem scans_arr {depth : ℕ} {items : List Json} (h : ∀ v ∈ items, Scans (scanOnce depth) v) :
    Scans (scanOnce (depth + 1)) (.arr items) := by
  refine ⟨⟨'[', _, rfl, by decide⟩, fun rest _ ↦ ?_⟩
  simp only [encode, List.cons_append, List.append_assoc, List.nil_append]
  rcases eq_or_ne items [] with rfl | hne
  · rfl
  · obtain ⟨c, s, hc, hbegins⟩ := begins_encodeItems h hne
    have hlength : items.length ≤ (encodeItems items ++ ']' :: rest).length := by
      have := length_le_encodeItems h
      rw [List.length_append]
      omega
    have hitems := scanItems_encode h hne hlength rest
    rw [scanOnce, skip_of_begins (begins_encodeItems h hne)]
    rw [hc, List.cons_append] at hitems ⊢
    split
    · rename_i s' heq
      exact (hbegins.2.2 (List.cons.inj heq).1).elim
    · rw [hitems]
      rfl

theorem scans_obj {depth : ℕ} {fields : List (String × Json)}
    (h : ∀ f ∈ fields, Scans (scanOnce depth) f.2) :
    Scans (scanOnce (depth + 1)) (.obj fields) := by
  refine ⟨⟨Char.ofNat 123, _, rfl, by decide⟩, fun rest _ ↦ ?_⟩
  simp only [encode, List.cons_append, List.append_assoc, List.nil_append]
  rcases eq_or_ne fields [] with rfl | hne
  · rfl
  · have hlength : fields.length ≤ (encodeFields fields ++ '}' :: rest).length := by
      have := length_le_encodeFields fields
      rw [List.length_append]
      omega
    have hfields := scanPairs_encode h hne hlength rest
    obtain ⟨s, hs⟩ := exists_encodeFields hne
    rw [scanOnce, skip_encodeFields hne]
    rw [hs, List.cons_append] at hfields ⊢
    split
    · rename_i s' heq
      exact absurd (List.cons.inj heq).1 (by decide)
    · rw [hfields]
      rfl

/-- **A value is scanned as what it was encoded from.** -/
theorem Encodable.scans {depth : ℕ} {v : Json} (h : Encodable depth v) :
    Scans (scanOnce depth) v := by
  induction depth generalizing v with
  | zero =>
    cases v with
    | null => exact scans_null 0
    | bool b => exact scans_bool 0 b
    | number text isZero => exact h 0
    | str s => exact scans_str 0 s
    | arr items => exact h.elim
    | obj fields => exact h.elim
  | succ depth ih =>
    cases v with
    | null => exact scans_null _
    | bool b => exact scans_bool _ b
    | number text isZero => exact h _
    | str s => exact scans_str _ s
    | arr items => exact scans_arr fun v hv ↦ ih (h v hv)
    | obj fields => exact scans_obj fun f hf ↦ ih (h f hf)

/-- **`json.loads` undoes `json.dumps`.** -/
theorem Encodable.loads {depth : ℕ} {v : Json} (h : Encodable depth v) :
    loads depth (encode v) = .ok v := by
  obtain ⟨hbegins, hscan⟩ := h.scans
  have hskip := skip_of_begins hbegins []
  have hscan := hscan [] (.inl rfl)
  rw [List.append_nil] at hskip hscan
  obtain ⟨c, s, hc, hascii, -⟩ := hbegins
  have hbom : ¬(encode v).head? = some (Char.ofNat 0xfeff) := by
    rw [hc, List.head?_cons, Option.some_inj]
    rintro rfl
    exact absurd hascii (by decide)
  rw [JsonDecoder.loads, if_neg hbom, hskip, hscan]
  rfl

/-- The only number that the program itself writes. -/
theorem isNumberText_one : IsNumberText "1" false := by
  intro depth
  refine ⟨⟨'1', [], rfl, by decide⟩, fun rest hrest ↦ ?_⟩
  have hscan : scanOnce depth ('1' :: rest) = scanNumber [] ('1' :: rest) := by cases depth <;> rfl
  obtain ⟨hinteger, hfraction, hexponent⟩ : scanInteger ('1' :: rest) = some (['1'], rest) ∧
      scanFraction rest = ([], rest) ∧ scanExponent rest = ((false, []), rest) := by
    rcases hrest with rfl | ⟨c, s, rfl, rfl | rfl | rfl⟩ <;> exact ⟨rfl, rfl, rfl⟩
  change scanOnce depth ('1' :: rest) = _
  rw [hscan, scanNumber, hinteger]
  dsimp only
  rw [hfraction, hexponent]
  have htext : ('1' :: rest).take (('1' :: rest).length - rest.length) = ['1'] := by
    rw [List.length_cons, Nat.add_sub_cancel_left]
    rfl
  dsimp only
  rw [htext]
  rfl

end JsonEncoder

end RmaPortal
