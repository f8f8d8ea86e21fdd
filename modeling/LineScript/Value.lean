import LineScript.Decimal.Layout
import LineScript.Decimal.Numeral

/-!
Values: texts, numbers, and handles to stores of variables.
-/

namespace LineScript

/-- A handle to a store.  Two handles are the same store iff their numbers are equal. -/
abbrev StoreId := Nat

inductive Value
  | text (chars : String)
  | number (value : Float)
  | mapping (store : StoreId)
deriving DecidableEq

namespace Value

/-- What an unbound variable holds. -/
def zero : Value := .number 0.0

/-- The name of the value's type in messages. -/
def typeName : Value → String
  | text _ => "string"
  | number _ => "number"
  | mapping _ => "mapping"

def asNumber? : Value → Option Float
  | number x => some x
  | _ => none

/-- Equality of programs: numbers compare as numbers, so the two zeros are equal and NaN is
unequal to itself; handles are equal if they are the same store. -/
def equals : Value → Value → Bool
  | text a, text b => a == b
  | number a, number b => a == b
  | mapping a, mapping b => a == b
  | _, _ => false

end Value

def formatNumber (x : Float) : String :=
  Decimal.Layout.value.write x

/-- What stands between the double quotes around a text, if it has them. -/
def unquoted? (text : String) : Option String :=
  match text.toList with
  | '"' :: rest => if rest.getLast? = some '"' then some (String.ofList rest.dropLast) else none
  | _ => none

/-- The text without the double quotes around it, if it has them. -/
def unquote (text : String) : String :=
  (unquoted? text).getD text

example : unquoted? "\"a\"b\"" = some "a\"b" := by decide
example : unquoted? "\"" = none := by decide

end LineScript
