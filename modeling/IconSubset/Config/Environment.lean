import IconSubset.Config.Setting
import IconSubset.Config.Variable

/-!
# Settings from the environment

Environment variables whose names begin with `GLYPHSET_` set what the rest of their names says. The
case of names does not matter, and two underscores or a dot lead into a table.
-/

namespace IconSubset.Config

/-- Environment variables in order, each with its value. -/
abbrev Environment := List (String × String)

namespace Environment

/-- What the names of variables begin with that count. -/
def marker : String := "GLYPHSET_"

/-- The characters of a text after those that it begins with, whatever their case. -/
def afterPrefix : List Char → List Char → Option (List Char)
  | [], cs => some cs
  | p :: ps, c :: cs => if p.toLower = c.toLower then afterPrefix ps cs else none
  | _ :: _, [] => none

/-- The parts of a name between dots and pairs of underscores. -/
def splitName : List Char → List (List Char)
  | [] => [[]]
  | '_' :: '_' :: cs => [] :: splitName cs
  | '.' :: cs => [] :: splitName cs
  | c :: cs =>
    match splitName cs with
    | [] => [[c]]
    | part :: parts => (c :: part) :: parts

/-- What the name of a variable sets: the names of a setting and of the tables around it. Variables
of other programs, and those with an empty name in them, set nothing. -/
def settingNames? (name : String) : Option (List String) :=
  (afterPrefix marker.toList (Text.trimChars name.toList)).bind fun rest =>
    let parts := splitName rest
    if parts.any (· == []) then none
    else some (parts.map fun part => Text.lowerAscii (String.ofList part))

/-- What one variable sets. -/
def settingsOfVariable (name value : String) : List (String × Setting) :=
  match settingNames? name with
  | none => []
  | some names =>
    match Setting.of .environment (nest names (Variable.read value)) with
    | .table _ fields => fields
    | .value .. => []

/-- What the variables set; later ones count. -/
def settings (environment : Environment) : List (String × Setting) :=
  environment.foldl
    (fun earlier (name, value) => overlay earlier (settingsOfVariable name value)) []

/-- The value of a variable. -/
def get? (environment : Environment) (name : String) : Option String := lookup name environment

end Environment

end IconSubset.Config
