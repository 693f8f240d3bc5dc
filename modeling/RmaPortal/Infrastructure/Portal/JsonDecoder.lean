import Mathlib.Algebra.Group.Nat.Defs
import RmaPortal.Domain.Models
import RmaPortal.Infrastructure.Portal.Json

/-!
# Decoding JSON

`json.loads`, the decoder of Python's standard library.  It takes a text apart character by
character; what is left is handed on (`Scanned`).

## What is here

* `decodeError`, `tooManyDigits`, `recursionError` — what may be wrong with a text.  Most of it is
  a `JSONDecodeError`, of which the position is left out here; but an integer with too many digits
  is a `ValueError`, and values nested more deeply than the interpreter can go (`depth`) are a
  `RecursionError`.  It is these differences that decide which `except` clause of a caller catches
  what.
* `scanUnits`, `joinSurrogates`, `scanString` — strings.  An escape stands for a unit of UTF-16,
  and two that are surrogates of one character are joined.  There is no `Char` for a surrogate
  that has been escaped alone: U+FFFD takes its place.
* `scanInteger`, `scanFraction`, `scanExponent`, `scanNumber` — numbers.  A number that is written
  with a fraction or an exponent is a float, of which only matters whether it is zero
  (`roundsToZero`).
* `constants`, `constant?` — the constants, `NaN` and the infinities among them, which are not
  JSON but are read.
* `scanItems`, `scanPairs`, `scanOnce` — values.  The recursion is on the depth that is left, and
  the loops go on for at most as many rounds as there are characters.
* `loads` — a value with white space around it, and nothing else.

What `json.dumps` writes is in `Infrastructure/Portal/JsonEncoder.lean`, and that it is read back
in `Infrastructure.Portal.JsonRoundTrip`.
-/

set_option autoImplicit false

namespace RmaPortal

namespace JsonDecoder

/-- What has been decoded, and what is left. -/
abbrev Scanned (α : Type) : Type := Except Exn (α × List Char)

def decodeError (message : String) : Exn := .exception "JSONDecodeError" message

def recursionError : Exn := .exception "RecursionError" "maximum recursion depth exceeded"

def tooManyDigits : Exn :=
  .exception "ValueError" "Exceeds the limit (4300 digits) for integer string conversion"

/-- `WHITESPACE` -/
def isSpace (c : Char) : Bool := c = ' ' || c = '\t' || c = '\n' || c = '\r'

/-- Skip white space. -/
def skip (s : List Char) : List Char := s.dropWhile isSpace

/-- The value of a digit of base 16. -/
def hexDigit? (c : Char) : Option ℕ :=
  if '0' ≤ c && c ≤ '9' then some (c.toNat - '0'.toNat)
  else if 'a' ≤ c && c ≤ 'f' then some (c.toNat - 'a'.toNat + 10)
  else if 'A' ≤ c && c ≤ 'F' then some (c.toNat - 'A'.toNat + 10)
  else none

/-! ## Strings -/

def isQuote (c : Char) : Bool := c.toNat = 34

def isBackslash (c : Char) : Bool := c.toNat = 92

/-- What a character stands for after a backslash. -/
def backslash? (c : Char) : Option ℕ :=
  if isQuote c || isBackslash c || c = '/' then some c.toNat
  else if c = 'b' then some 8
  else if c = 'f' then some 12
  else if c = 'n' then some 10
  else if c = 'r' then some 13
  else if c = 't' then some 9
  else none

def invalidEscape {α : Type} : Scanned α := .error (decodeError "Invalid \\escape")

def invalidHexEscape {α : Type} : Scanned α := .error (decodeError "Invalid \\uXXXX escape")

def unterminated {α : Type} : Scanned α := .error (decodeError "Unterminated string starting at")

/-- The units of a string, up to its closing quotation mark. -/
def scanUnits : List Char → Scanned (List ℕ)
  | [] => unterminated
  | c :: s =>
    if isQuote c then .ok ([], s)
    else if c.toNat < 32 then .error (decodeError "Invalid control character at")
    else if isBackslash c then
      match s with
      | [] => unterminated
      | 'u' :: h₁ :: h₂ :: h₃ :: h₄ :: s =>
        match hexDigit? h₁, hexDigit? h₂, hexDigit? h₃, hexDigit? h₄ with
        | some d₁, some d₂, some d₃, some d₄ =>
          (scanUnits s).map fun p ↦ ((((d₁ * 16 + d₂) * 16 + d₃) * 16 + d₄) :: p.1, p.2)
        | _, _, _, _ => invalidHexEscape
      | 'u' :: _ => invalidHexEscape
      | e :: s =>
        match backslash? e with
        | some u => (scanUnits s).map fun p ↦ (u :: p.1, p.2)
        | none => invalidEscape
    else (scanUnits s).map fun p ↦ (c.toNat :: p.1, p.2)

/-- A character, where there is one. -/
def charOf (u : ℕ) : Char := if u.isValidChar then Char.ofNat u else Char.ofNat 0xfffd

/-- Two escaped surrogates are one character. -/
def joinSurrogates : List ℕ → List Char
  | [] => []
  | [u] => [charOf u]
  | u :: v :: us =>
    if 0xd800 ≤ u ∧ u ≤ 0xdbff ∧ 0xdc00 ≤ v ∧ v ≤ 0xdfff then
      charOf (0x10000 + ((u - 0xd800) * 0x400 + (v - 0xdc00))) :: joinSurrogates us
    else charOf u :: joinSurrogates (v :: us)

/-- `scanstring` -/
def scanString (s : List Char) : Scanned String :=
  (scanUnits s).map fun p ↦ (String.ofList (joinSurrogates p.1), p.2)

/-! ## Numbers -/

def isDigit (c : Char) : Bool := '0' ≤ c && c ≤ '9'

def decimal (digits : List Char) : ℕ := digits.foldl (fun n c ↦ 10 * n + (c.toNat - '0'.toNat)) 0

/-- `0` or a number that does not begin with `0`: its digits. -/
def scanInteger (s : List Char) : Option (List Char × List Char) :=
  match s with
  | '0' :: s => some (['0'], s)
  | s => if (s.takeWhile isDigit).isEmpty then none
    else some (s.takeWhile isDigit, s.dropWhile isDigit)

/-- A decimal point and some digits, or nothing. -/
def scanFraction (s : List Char) : List Char × List Char :=
  match s with
  | '.' :: s' =>
    if (s'.takeWhile isDigit).isEmpty then ([], s) else (s'.takeWhile isDigit, s'.dropWhile isDigit)
  | _ => ([], s)

/-- An exponent, or nothing: whether it is negative, and its digits. -/
def scanExponent (s : List Char) : (Bool × List Char) × List Char :=
  match s with
  | e :: s' =>
    if e = 'e' || e = 'E' then
      let negative := s'.head? = some '-'
      let s' := if s'.head? = some '-' ∨ s'.head? = some '+' then s'.tail else s'
      if (s'.takeWhile isDigit).isEmpty then ((false, []), s)
      else ((negative, s'.takeWhile isDigit), s'.dropWhile isDigit)
    else ((false, []), s)
  | [] => ((false, []), s)

/-- Whether the floating-point number nearest to `digits * 10 ^ (exponent - scale)` is zero: half of
the least positive one is `2 ^ (-1075)`. -/
def roundsToZero (digits scale : ℕ) (negative : Bool) (exponent : ℕ) : Bool :=
  digits = 0 || decide (
    if negative then digits * 2 ^ 1075 ≤ 10 ^ (scale + exponent)
    else digits * 10 ^ exponent * 2 ^ 1075 ≤ 10 ^ scale)

/-- A number, with its sign already taken off. -/
def scanNumber (sign s : List Char) : Scanned Json :=
  match scanInteger s with
  | none => .error (decodeError "Expecting value")
  | some (digits, s₁) =>
    let (fraction, s₂) := scanFraction s₁
    let ((negative, exponent), s₃) := scanExponent s₂
    let text := String.ofList (sign ++ s.take (s.length - s₃.length))
    if fraction.isEmpty && exponent.isEmpty then
      if 4300 < digits.length then .error tooManyDigits
      else .ok (.number text (decide (decimal digits = 0)), s₃)
    else .ok (.number text
      (roundsToZero (decimal (digits ++ fraction)) fraction.length negative (decimal exponent)), s₃)

/-! ## Values -/

/-- The constants, and what they stand for. -/
def constants : List (String × Json) :=
  [("null", .null), ("true", .bool true), ("false", .bool false), ("NaN", .number "NaN" false),
    ("Infinity", .number "Infinity" false), ("-Infinity", .number "-Infinity" false)]

/-- The constant at the beginning of a text. -/
def constant? (s : List Char) : Option (Json × List Char) :=
  constants.findSome? fun c ↦
    if c.1.toList.isPrefixOf s then some (c.2, s.drop c.1.length) else none

/-- The rest of a list, which has no more items than the text has characters. -/
def scanItems (scan : List Char → Scanned Json) :
    ℕ → List Char → Except Exn (List Json × List Char)
  | 0, _ => .error (decodeError "Expecting value")
  | n + 1, s => do
    let (item, s) ← scan s
    match skip s with
    | ']' :: s => pure ([item], s)
    | ',' :: s => (scanItems scan n (skip s)).map fun p ↦ (item :: p.1, p.2)
    | _ => .error (decodeError "Expecting ',' delimiter")

/-- The rest of an object, likewise. -/
def scanPairs (scan : List Char → Scanned Json) :
    ℕ → List Char → Except Exn (List (String × Json) × List Char)
  | 0, _ => .error (decodeError "Expecting value")
  | _, [] => .error (decodeError "Expecting property name enclosed in double quotes")
  | n + 1, c :: s =>
    if !isQuote c then
      .error (decodeError "Expecting property name enclosed in double quotes")
    else do
      let (key, s) ← scanString s
      match skip s with
      | ':' :: s =>
        let (v, s) ← scan (skip s)
        match skip s with
        | '}' :: s => pure ([(key, v)], s)
        | ',' :: s => (scanPairs scan n (skip s)).map fun p ↦ ((key, v) :: p.1, p.2)
        | _ => .error (decodeError "Expecting ',' delimiter")
      | _ => .error (decodeError "Expecting ':' delimiter")

/-- `scan_once` -/
def scanOnce : ℕ → List Char → Scanned Json
  | _, [] => .error (decodeError "Expecting value")
  | 0, '[' :: _ => .error recursionError
  | 0, '{' :: _ => .error recursionError
  | depth + 1, '[' :: s =>
    match skip s with
    | ']' :: s => .ok (.arr [], s)
    | s => (scanItems (scanOnce depth) s.length s).map fun p ↦ (.arr p.1, p.2)
  | depth + 1, '{' :: s =>
    match skip s with
    | '}' :: s => .ok (.obj [], s)
    | s => (scanPairs (scanOnce depth) s.length s).map fun p ↦ (.obj p.1, p.2)
  | _, c :: s =>
    if isQuote c then (scanString s).map fun p ↦ (.str p.1, p.2)
    else
      match constant? (c :: s) with
      | some p => .ok p
      | none => if c = '-' then scanNumber [c] s else scanNumber [] (c :: s)

/-- `json.loads` -/
def loads (depth : ℕ) (s : List Char) : Except Exn Json :=
  if s.head? = some (Char.ofNat 0xfeff) then
    .error (decodeError "Unexpected UTF-8 BOM (decode using utf-8-sig)")
  else do
    let (v, s) ← scanOnce depth (skip s)
    if (skip s).isEmpty then pure v else .error (decodeError "Extra data")

example : ((loads 1 "[1, -0.0]".toList).toOption.bind Json.elements).map (List.map Json.truthy) =
    some [true, false] := by decide +kernel

end JsonDecoder

end RmaPortal
