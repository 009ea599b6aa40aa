/-!
# What is logged

While it works, the program reports what it does. Each report has a level, tells which part of the
program it comes from, and names what it is about.
-/

namespace IconSubset

/-- How important a report is. -/
inductive LogLevel where
  | error
  | warn
  | info
  | debug
  | trace
deriving DecidableEq, Repr, Inhabited

namespace LogLevel

/-- How many levels are more important. -/
def rank : LogLevel → Nat
  | error => 1
  | warn => 2
  | info => 3
  | debug => 4
  | trace => 5

/-- The name of a level in a report. -/
def name : LogLevel → String
  | error => "ERROR"
  | warn => "WARN"
  | info => "INFO"
  | debug => "DEBUG"
  | trace => "TRACE"

end LogLevel

/-- A report. -/
structure LogEvent where
  /-- How important it is. -/
  level : LogLevel
  /-- The part of the program that it comes from. -/
  target : String
  /-- What happened. -/
  message : String
  /-- What it is about: names and values. -/
  fields : List (String × String) := []
deriving DecidableEq, Repr, Inhabited

/-- A report as a line. -/
def LogEvent.line (e : LogEvent) : String :=
  e.level.name ++ " " ++ e.target ++ ": " ++ e.message ++
    String.join (e.fields.map fun (name, value) => " " ++ name ++ "=" ++ value)

end IconSubset
