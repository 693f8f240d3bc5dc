import Mathlib.Data.List.Basic

/-!
# JSON values, as Python handles them

What `json.load` returns, with the few things the program does to such values.

## What is here

* `Json` — a JSON value.  A number is its text, and whether it is zero, which is all the program
  ever asks of it.
* `truthy` — truth testing, which never raises: `None`, zero, and whatever is empty is false.
* `field`, `get` — the value of a key of an object; of several, the last counts, as in a
  dictionary that is filled from left to right.  On anything but an object `get` raises an
  `AttributeError`.
* `elements` — what `for … in value` goes through: items of a list, keys of an object, characters
  of a string.  Other values raise a `TypeError`.
* `hasLen`, `isStr` — whether `len(value)` is defined, and comparing with a string, which never
  raises.
-/

set_option autoImplicit false

namespace RmaPortal

/-- A JSON value.  All the program ever asks of a number is whether it is zero. -/
inductive Json
  | null
  | bool (b : Bool)
  | number (text : String) (isZero : Bool)
  | str (s : String)
  | arr (items : List Json)
  | obj (fields : List (String × Json))

namespace Json

/-- `bool(value)` -/
def truthy : Json → Bool
  | null => false
  | bool b => b
  | number _ isZero => !isZero
  | str s => !s.isEmpty
  | arr items => !items.isEmpty
  | obj fields => !fields.isEmpty

/-- The value of a key of an object: of several, the last counts. -/
def field (fields : List (String × Json)) (key : String) : Option Json :=
  (fields.reverse.find? fun f ↦ f.1 == key).map Prod.snd

/-- `value.get(key, default)`; `none` where Python raises `AttributeError`. -/
def get (v : Json) (key : String) (default : Json) : Option Json :=
  match v with
  | obj fields => some ((field fields key).getD default)
  | _ => none

/-- What `for … in value` goes through; `none` where Python raises `TypeError`. -/
def elements : Json → Option (List Json)
  | str s => some (s.toList.map fun c ↦ str (String.singleton c))
  | arr items => some items
  | obj fields => some (fields.map fun f ↦ str f.1)
  | _ => none

/-- Whether `len(value)` is defined. -/
def hasLen : Json → Bool
  | str _ => true
  | arr _ => true
  | obj _ => true
  | _ => false

/-- `value == s` for a string `s` -/
def isStr (v : Json) (s : String) : Bool :=
  match v with
  | str s' => s' == s
  | _ => false

end Json

end RmaPortal
