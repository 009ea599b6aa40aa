import IconSubset.Decimal.Notation
import IconSubset.Json.Value

/-!
# Values of a configuration

The values that a configuration may hold, whatever it is written in. The fields of a table are in
the order of their names, each once.
-/

namespace IconSubset.Config

/-- A value of a configuration. -/
inductive Value where
  | null
  | bool (b : Bool)
  /-- A whole number that was written with a sign or in a notation that allows one. -/
  | signed (n : Int)
  /-- A whole number in a notation for numbers without a sign. -/
  | unsigned (n : Nat)
  | float (x : Decimal.Binary64)
  | character (c : Char)
  | string (s : String)
  | list (items : List Value)
  | table (fields : List (String × Value))
deriving Repr, Inhabited

/-- The value of a name in a list of fields. -/
def lookup {α : Type} (name : String) : List (String × α) → Option α
  | [] => none
  | (n, v) :: rest => if n = name then some v else lookup name rest

/-- Fields in the order of their names with one set. -/
def putField {α : Type} (name : String) (value : α) : List (String × α) → List (String × α)
  | [] => [(name, value)]
  | (n, v) :: rest =>
    if name < n then (name, value) :: (n, v) :: rest
    else if name = n then (n, value) :: rest
    else (n, v) :: putField name value rest

/-- Fields in the order of their names; of two of the same name the later one counts. -/
def fieldsOf {α : Type} (fields : List (String × α)) : List (String × α) :=
  fields.foldl (fun acc (n, v) => putField n v acc) []

mutual

/-- A JSON value as a value of a configuration. -/
def Value.ofJson : Json.Value → Value
  | .null => .null
  | .bool b => .bool b
  | .integer n => if n < 0 then .signed n else .unsigned n.toNat
  | .float x => .float x
  | .string s => .string s
  | .array items => .list (ofJsonItems items)
  | .object fields => .table (fieldsOf (ofJsonFields fields))

/-- The items of an array. -/
def ofJsonItems : List Json.Value → List Value
  | [] => []
  | v :: rest => Value.ofJson v :: ofJsonItems rest

/-- The fields of an object. -/
def ofJsonFields : List (String × Json.Value) → List (String × Value)
  | [] => []
  | (n, v) :: rest => (n, Value.ofJson v) :: ofJsonFields rest

end

/-- Nested tables that lead along a list of names to a value. -/
def nest : List String → Value → Value
  | [], v => v
  | name :: names, v => .table [(name, nest names v)]

end IconSubset.Config
