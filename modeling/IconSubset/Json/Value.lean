import IconSubset.Decimal.Notation

/-!
# JSON values

The values of JSON. The fields of an object keep the order in which they are given.
-/

namespace IconSubset.Json

/-- A value of JSON. -/
inductive Value where
  | null
  | bool (b : Bool)
  | integer (n : Int)
  | float (x : Decimal.Binary64)
  | string (s : String)
  | array (items : List Value)
  | object (fields : List (String × Value))
deriving Repr, Inhabited

/-- A natural number as a value. -/
def Value.ofNat (n : Nat) : Value := .integer n

/-- A list of texts as a value. -/
def Value.ofStrings (xs : List String) : Value := .array (xs.map .string)

end IconSubset.Json
