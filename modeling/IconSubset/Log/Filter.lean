import IconSubset.Log.Event
import IconSubset.Text.Blank

/-!
# Which reports are shown

A filter is a list of directives with commas between them. A directive is a level for everything, or
the beginning of the names of some parts of the program with a level for these. The directive with
the longest name decides; of two with the same name, the later one.
-/

namespace IconSubset

/-- A level up to which reports are shown; zero shows none. -/
abbrev LogLimit := Nat

/-- A part of a filter. -/
inductive LogDirective where
  /-- For the parts of the program whose names begin so. -/
  | target (beginning : String) (limit : LogLimit)
  /-- For work in progress of a certain kind, of which there is none. -/
  | span
deriving DecidableEq, Repr, Inhabited

/-- A filter. -/
abbrev LogFilter := List LogDirective

namespace LogDirective

/-- The level of a name or a number. -/
def limit? (text : String) : Option LogLimit :=
  match Text.lowerAscii text with
  | "off" | "0" => some 0
  | "error" | "1" => some 1
  | "warn" | "2" => some 2
  | "info" | "3" => some 3
  | "debug" | "4" => some 4
  | "trace" | "5" => some 5
  | _ => none

/-- Whether a directive may begin so. -/
def canBegin (c : Char) : Bool :=
  c.isAlphanum || c == '-' || c == ':' || c == '_' || ('\u00aa' ≤ c && !Text.isBlank c)

/-- Reads a directive. A name without a level shows everything. -/
def read? (cs : List Char) : Option LogDirective :=
  match cs with
  | [] => none
  | c :: _ =>
    if c = '[' then if cs.contains ']' then some .span else none
    else if !canBegin c then none
    else
      let head := cs.takeWhile fun c => c ≠ '=' && c ≠ '['
      match cs.drop head.length with
      | '=' :: level =>
        (if level = [] then some LogLevel.trace.rank else limit? (String.ofList level)).map
          (.target (String.ofList head))
      | '[' :: rest => if rest.contains ']' then some .span else none
      | _ =>
        match limit? (String.ofList head) with
        | some limit => some (.target "" limit)
        | none => some (.target (String.ofList head) LogLevel.trace.rank)

end LogDirective

namespace LogFilter

/-- The parts of a list of characters between commas. -/
def splitCommas : List Char → List (List Char)
  | [] => [[]]
  | c :: cs =>
    if c = ',' then [] :: splitCommas cs
    else
      match splitCommas cs with
      | [] => [[c]]
      | part :: parts => (c :: part) :: parts

/-- Reads a filter. One without directives shows errors only. -/
def read? (text : String) : Option LogFilter :=
  let parts := (splitCommas text.toList).filter (· ≠ [])
  if parts = [] then some [.target "" LogLevel.error.rank] else parts.mapM LogDirective.read?

/-- The better of two choices for a part of the program: the longer name, or else the later one. -/
def better (best : Option (String × LogLimit)) (name : String) (limit : LogLimit) :
    Option (String × LogLimit) :=
  match best with
  | some (old, oldLimit) =>
    if name.length < old.length then some (old, oldLimit) else some (name, limit)
  | none => some (name, limit)

/-- The level up to which reports of a part of the program are shown. -/
def limitFor (filter : LogFilter) (target : String) : LogLimit :=
  let best := filter.foldl (fun best d =>
    match d with
    | .target name limit => if target.startsWith name then better best name limit else best
    | .span => best) none
  (best.map (·.2)).getD 0

/-- Whether a report is shown. -/
def shows (filter : LogFilter) (e : LogEvent) : Bool := e.level.rank ≤ filter.limitFor e.target

end LogFilter

end IconSubset
