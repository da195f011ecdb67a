/-
**The values that `JSON.parse` makes.**

A value of a parsed text, and what the language does with it: whether it counts as true, its text, its
properties, its items and the comparison `==` with a number.  An exception is `none`.  The numbers and
what has to do with their notation are a parameter.

Main definitions:

* `JSEngine` — the parser, and the numbers;
* `JSONValue` — the values;
* `JSONValue.toText`, `JSONValue.get`, `JSONValue.items`, `JSONValue.looselyEquals` — their use.
-/

import U2F.Extension.WebRequest

set_option relaxedAutoImplicit false
set_option autoImplicit false

namespace U2F

/-- What `JSON.parse` makes, with numbers of some type. -/
inductive JSONValue (Num : Type)
  | null
  | bool (b : Bool)
  | number (n : Num)
  | string (s : JSString)
  | array (items : List (JSONValue Num))
  | object (properties : List (JSString × JSONValue Num))

/-- The built-in functions that have to do with numbers, and `JSON.parse`. -/
structure JSEngine where
  Num : Type
  /-- `n == k` -/
  numberEquals : Num → ℤ → Bool
  /-- `s == k`, for which the string is converted to a number. -/
  stringEquals : JSString → ℤ → Bool
  numberToString : Num → JSString
  parse : JSString → Option (JSONValue Num)

namespace JSONValue

variable (E : JSEngine)

/-- The value counts as true. -/
def isTruthy : JSONValue E.Num → Bool
  | .null => false
  | .bool b => b
  | .number n => !E.numberEquals n 0
  | .string s => s ≠ []
  | .array _ => true
  | .object _ => true

def isNull : JSONValue E.Num → Bool
  | .null => true
  | _ => false

mutual

/-- `String(value)`.  An array is the texts of its items, with commas between them.  An object of which
`toString` is a property of its own has no text, since that is not a function. -/
def toText : JSONValue E.Num → Option JSString
  | .null => some (js "null")
  | .bool b => some (if b then js "true" else js "false")
  | .number n => some (E.numberToString n)
  | .string s => some s
  | .array items => (itemTexts items).map fun texts => [44].intercalate texts
  | .object properties =>
      if properties.any fun property => property.1 = js "toString" then none
      else some (js "[object Object]")

/-- The texts of the items of an array.  `null` has none. -/
def itemTexts : List (JSONValue E.Num) → Option (List JSString)
  | [] => some []
  | item :: items => do
      let text ← toText item
      let texts ← itemTexts items
      return (if item.isNull then [] else text) :: texts

end

/-- `value[key]`, for a key that is not an index; `some none` is `undefined`. -/
def get (value : JSONValue E.Num) (key : JSString) : Option (Option (JSONValue E.Num)) :=
  match value with
  | .null => none
  | .object properties => some (properties.lookup key)
  | _ => some none

/-- `value[0]`, `value[1]` and so on, before the first one that is not there. -/
def items : JSONValue E.Num → List (JSONValue E.Num)
  | .array items => items
  | .string s => s.map fun c => .string [c]
  | .object properties =>
      (((List.range properties.length).map fun i => properties.lookup (js (toString i))).takeWhile
        Option.isSome).reduceOption
  | _ => []

/-- `value == n` -/
def looselyEquals (value : Option (JSONValue E.Num)) (n : ℤ) : Option Bool :=
  match value with
  | none | some .null => some false
  | some (.bool b) => some (n = if b then 1 else 0)
  | some (.number m) => some (E.numberEquals m n)
  | some (.string s) => some (E.stringEquals s n)
  | some value => (value.toText E).map fun text => E.stringEquals text n

end JSONValue

end U2F
