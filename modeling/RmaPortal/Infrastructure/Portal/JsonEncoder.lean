import RmaPortal.Infrastructure.Portal.Json

/-!
# Encoding JSON

`json.dumps`, the encoder of Python's standard library with its default settings: on one line,
with everything escaped that is not a printing ASCII character.

## What is here

* `shortEscape?`, `hexEscape`, `encodeChar` — a character of a string.  Some have an escape of
  their own, others are written as a unit of UTF-16 in base 16, and a character beyond U+FFFF is
  two of those.
* `encodeString` — a string, in quotation marks.
* `encode`, with `encodeItems` and `encodeFields` — a value.  Items are separated by a comma and a
  space, and a key is followed by a colon and a space.
* `dumps` — the text.

A number carries the text it is written with.  That what is written is read back is shown in
`Infrastructure.Portal.JsonRoundTrip`.
-/

set_option autoImplicit false

namespace RmaPortal

namespace JsonEncoder

def quote : Char := Char.ofNat 34

def backslash : Char := Char.ofNat 92

/-- A digit of base 16. -/
def hexDigit (n : ℕ) : Char := if n < 10 then Char.ofNat (48 + n) else Char.ofNat (87 + n)

/-- `u` and four digits of base 16, after a backslash. -/
def hexEscape (n : ℕ) : List Char :=
  [backslash, 'u', hexDigit (n / 4096 % 16), hexDigit (n / 256 % 16), hexDigit (n / 16 % 16),
    hexDigit (n % 16)]

/-- `ESCAPE_DCT`: the characters with an escape of their own. -/
def shortEscape? (c : Char) : Option Char :=
  if c = quote || c = backslash then some c
  else if c.toNat = 10 then some 'n'
  else if c.toNat = 13 then some 'r'
  else if c.toNat = 9 then some 't'
  else if c.toNat = 12 then some 'f'
  else if c.toNat = 8 then some 'b'
  else none

/-- A character of a string; beyond U+FFFF it is two surrogates. -/
def encodeChar (c : Char) : List Char :=
  match shortEscape? c with
  | some e => [backslash, e]
  | none =>
    if ' ' ≤ c && c ≤ '~' then [c]
    else if c.toNat < 0x10000 then hexEscape c.toNat
    else hexEscape (0xd800 + (c.toNat - 0x10000) / 0x400) ++
      hexEscape (0xdc00 + (c.toNat - 0x10000) % 0x400)

/-- `encode_basestring_ascii` -/
def encodeString (s : String) : List Char := quote :: s.toList.flatMap encodeChar ++ [quote]

mutual

/-- `JSONEncoder.encode` -/
def encode : Json → List Char
  | .null => "null".toList
  | .bool true => "true".toList
  | .bool false => "false".toList
  | .number text _ => text.toList
  | .str s => encodeString s
  | .arr items => '[' :: encodeItems items ++ [']']
  | .obj fields => '{' :: encodeFields fields ++ ['}']

def encodeItems : List Json → List Char
  | [] => []
  | [item] => encode item
  | item :: items => encode item ++ ", ".toList ++ encodeItems items

def encodeFields : List (String × Json) → List Char
  | [] => []
  | [field] => encodeField field
  | field :: fields => encodeField field ++ ", ".toList ++ encodeFields fields

def encodeField : String × Json → List Char
  | (key, value) => encodeString key ++ ": ".toList ++ encode value

end

/-- `json.dumps` -/
def dumps (v : Json) : String := String.ofList (encode v)

example : encode (.arr [.null, .str "é"]) =
    "[null, ".toList ++ [quote, backslash, 'u', '0', '0', 'e', '9', quote, ']'] := by decide +kernel

end JsonEncoder

end RmaPortal
