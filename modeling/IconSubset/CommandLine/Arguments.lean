import IconSubset.Output.Format
import IconSubset.Text.ByteString
import IconSubset.Variant

/-!
# What the command line says

The program has three commands. All take the options that a scan needs, and some options stand on
their own and may be given before a command or after it.
-/

namespace IconSubset

/-- The options of a scan. -/
structure ScanOptions where
  /-- The directories whose source files are scanned. -/
  paths : List ByteString := []
  /-- The style of the font. -/
  variant : Option Variant := none
  /-- Further files to scan. -/
  files : List ByteString := []
  /-- Icons to keep whether a source names them or not. -/
  safelist : List String := []
  /-- The attributes that hold icon names. -/
  iconProps : List String := []
  /-- The optical size. -/
  opsz : Option String := none
  /-- The weight. -/
  wght : Option String := none
  /-- How far the icons are filled. -/
  fill : Option String := none
  /-- The grade. -/
  grad : Option String := none
deriving DecidableEq, Repr, Inhabited

/-- A command. -/
inductive Command where
  /-- Lists the icons of a project. -/
  | scan (options : ScanOptions)
  /-- Gives the address of the stylesheet. -/
  | url (options : ScanOptions)
  /-- Puts a link to the stylesheet into a document. -/
  | inject (input : ByteString) (output : Option ByteString) (options : ScanOptions)
deriving DecidableEq, Repr, Inhabited

/-- The options of the scan that a command needs. -/
def Command.options : Command → ScanOptions
  | scan options | url options | inject _ _ options => options

/-- What the command line says. -/
structure CommandLine where
  /-- The command. -/
  command : Command
  /-- The format of the output. -/
  format : OutputFormat := .json
  /-- Whether to say as little as possible. -/
  quiet : Bool := false
  /-- Whether to say as much as possible. -/
  verbose : Bool := false
  /-- The configuration file. -/
  config : Option ByteString := none
deriving DecidableEq, Repr, Inhabited

/-- Why there is no command to run. -/
inductive UsageError where
  /-- Help is asked for. -/
  | help
  /-- The version is asked for. -/
  | version
  /-- Nothing is given. -/
  | nothingGiven
  | missingCommand
  | unknownCommand
  | unknownArgument
  | missingArgument
  /-- A value is missing, or it is not one of those that it can be. -/
  | invalidValue
  /-- A value that must be a text is none. -/
  | notText
  | unknownVariant
  | repeatedOption
  /-- An option that takes no value is given one. -/
  | unwantedValue
deriving DecidableEq, Repr, Inhabited

/-- The exit status: zero when the user gets what was asked for. -/
def UsageError.status : UsageError → Nat
  | help | version => 0
  | _ => 2

end IconSubset
