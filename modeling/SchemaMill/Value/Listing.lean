import SchemaMill.Text.Printable
import SchemaMill.Value.Basic

/-!
# Values in lists

How a value is written for people where it stands in a list: a text alone is written as it is, and
within arrays and objects it stands in quotes.
-/

namespace SchemaMill.Value

mutual

/-- A value within an array or an object. -/
def listed : Value → Text
  | null => "None"
  | bool b => if b then "True" else "False"
  | int n => decimalInt n
  | double d => d.text
  | text t => quotedText t
  | array items => '[' :: joinWith ", " (listedItems items) ++ [']']
  | object fields => '\x7b' :: joinWith ", " (listedFields fields) ++ ['\x7d']

/-- The items of an array. -/
def listedItems : List Value → List Text
  | [] => []
  | v :: rest => listed v :: listedItems rest

/-- The fields of an object. -/
def listedFields : List (Text × Value) → List Text
  | [] => []
  | (k, v) :: rest => (quotedText k ++ ": ".toList ++ listed v) :: listedFields rest

end

/-- A value as an element of a list; null is no element. -/
def element? : Value → Option Text
  | null => none
  | text t => some t
  | v => some (listed v)

end SchemaMill.Value
