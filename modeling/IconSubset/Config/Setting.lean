import IconSubset.Config.Value

/-!
# Layers of a configuration

A configuration is put together from layers. What a later layer sets replaces what an earlier one
set; only tables are united, field by field. Each setting remembers where it was written.
-/

namespace IconSubset.Config

/-- Where a setting was written. -/
inductive Origin where
  /-- A configuration file. -/
  | file (path : String)
  /-- Environment variables. -/
  | environment
  /-- The program itself: its defaults, and the options that it was given. -/
  | code
deriving DecidableEq, Repr, Inhabited

/-- A setting with the place where it was written. -/
inductive Setting where
  /-- A value that is no table. -/
  | value (origin : Origin) (value : Value)
  | table (origin : Origin) (fields : List (String × Setting))
deriving Repr, Inhabited

/-- Where a setting was written. -/
def Setting.origin : Setting → Origin
  | value origin _ => origin
  | table origin _ => origin

/-- A setting without the place where it was written; of a table only that it is one. -/
def Setting.outline : Setting → Value
  | value _ v => v
  | table _ _ => .table []

mutual

/-- The settings of a value that was written somewhere. -/
def Setting.of (origin : Origin) : Value → Setting
  | .table fields => .table origin (settingsOf origin fields)
  | .null => .value origin .null
  | .bool b => .value origin (.bool b)
  | .signed n => .value origin (.signed n)
  | .unsigned n => .value origin (.unsigned n)
  | .float x => .value origin (.float x)
  | .character c => .value origin (.character c)
  | .string s => .value origin (.string s)
  | .list items => .value origin (.list items)

/-- The settings of fields that were written somewhere. -/
def settingsOf (origin : Origin) : List (String × Value) → List (String × Setting)
  | [] => []
  | (n, v) :: rest => (n, Setting.of origin v) :: settingsOf origin rest

end

mutual

/-- A setting over an earlier one: tables are united, anything else is replaced. -/
def Setting.over (earlier : Setting) : Setting → Setting
  | .value origin v => .value origin v
  | .table origin fields =>
    match earlier with
    | .table _ old => .table origin (overlay old fields)
    | .value _ _ => .table origin fields

/-- Fields over earlier ones. -/
def overlay (earlier : List (String × Setting)) : List (String × Setting) → List (String × Setting)
  | [] => earlier
  | (n, s) :: rest =>
    let s := match lookup n earlier with
      | some old => Setting.over old s
      | none => s
    overlay (putField n s earlier) rest

end

end IconSubset.Config
