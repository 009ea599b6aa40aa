import IconSubset.CommandLine.Arguments

/-!
# Reading the command line

Arguments are read from left to right. An option takes its value from the same argument, after an
equals sign or right after a single letter, or else from the next one. A value that begins with a
hyphen must stand in the same argument, except for the one option whose values are often negative.
After two hyphens nothing is an option any more. What is neither option nor value is the command,
and after the command an operand.

A value is checked when the next thing is read, so of two mistakes the first to be noticed counts,
which need not be the first to be made.
-/

namespace IconSubset.CommandLine

/-- The byte of a hyphen. -/
@[match_pattern]
abbrev hyphen : UInt8 := 0x2d

/-- The byte of an equals sign. -/
@[match_pattern]
abbrev equals : UInt8 := 0x3d

/-- Where in the command line an argument stands: before the command, or after it. -/
inductive Position where
  | start
  | scan
  | url
  | inject
deriving DecidableEq, Repr, Inhabited

/-- The position after a command of that name. -/
def Position.ofName? (name : ByteString) : Option Position :=
  if name = "scan" then some .scan
  else if name = "url" then some .url
  else if name = "inject" then some .inject
  else none

/-- An option. -/
inductive Flag where
  | format
  | quiet
  | verbose
  | config
  | help
  | version
  | variant
  | file
  | safelist
  | iconProp
  | opsz
  | wght
  | fill
  | grad
  | output
deriving DecidableEq, Repr, Inhabited

namespace Flag

/-- All options. -/
def all : List Flag :=
  [.format, .quiet, .verbose, .config, .help, .version, .variant, .file, .safelist, .iconProp,
   .opsz,
    .wght, .fill, .grad, .output]

/-- The name of an option. -/
def name : Flag → String
  | format => "format"
  | quiet => "quiet"
  | verbose => "verbose"
  | config => "config"
  | help => "help"
  | version => "version"
  | variant => "variant"
  | file => "file"
  | safelist => "safelist"
  | iconProp => "icon-prop"
  | opsz => "opsz"
  | wght => "wght"
  | fill => "fill"
  | grad => "grad"
  | output => "output"

/-- The letter of an option. -/
def letter? : Flag → Option Char
  | format => some 'f'
  | quiet => some 'q'
  | verbose => some 'v'
  | config => some 'c'
  | help => some 'h'
  | version => some 'V'
  | output => some 'o'
  | _ => none

/-- Whether an option takes a value. -/
def takesValue : Flag → Bool
  | quiet | verbose | help | version => false
  | _ => true

/-- Whether the next argument is the value of an option even when it begins with a hyphen. -/
def takesHyphens : Flag → Bool
  | grad => true
  | _ => false

/-- Whether an option may stand at a position. -/
def allowedAt (p : Position) : Flag → Bool
  | format | quiet | verbose | config | help => true
  | version => p = .start
  | output => p = .inject
  | _ => p ≠ .start

/-- The option of a name at a position. -/
def ofName? (p : Position) (name : ByteString) : Option Flag :=
  all.find? fun f => f.allowedAt p && ByteString.ofString f.name == name

/-- The option of a letter at a position. -/
def ofLetter? (p : Position) (b : UInt8) : Option Flag :=
  all.find? fun f => f.allowedAt p && f.letter?.map Char.toUInt8 == some b

end Flag

/-- What has been given at a position. -/
structure Given where
  /-- The format of the output. -/
  format : Option OutputFormat := none
  /-- Whether to say as little as possible. -/
  quiet : Bool := false
  /-- Whether to say as much as possible. -/
  verbose : Bool := false
  /-- The configuration file. -/
  config : Option ByteString := none
  /-- The file that the output goes to. -/
  output : Option ByteString := none
  /-- The options of a scan, apart from its paths. -/
  options : ScanOptions := {}
  /-- The operands. -/
  operands : List ByteString := []
deriving DecidableEq, Repr, Inhabited

/-- Sets an option that may be given once. -/
def once {α : Type} (old : Option α) (value : Except UsageError α) :
    Except UsageError (Option α) :=
  match old with
  | some _ => .error .repeatedOption
  | none => value.map some

/-- A path, which must not be empty. -/
def pathValue (value : ByteString) : Except UsageError ByteString :=
  if value.bytes = [] then .error .invalidValue else .ok value

/-- A text. -/
def textValue (value : ByteString) : Except UsageError String :=
  match value.text? with
  | some text => .ok text
  | none => .error .notText

/-- The format of the output. -/
def formatValue (value : ByteString) : Except UsageError OutputFormat := do
  match OutputFormat.ofName? (← textValue value) with
  | some format => return format
  | none => throw .invalidValue

/-- A style of the font. -/
def variantValue (value : ByteString) : Except UsageError Variant := do
  match Variant.parse? (← textValue value) with
  | some v => return v
  | none => throw .unknownVariant

/-- Takes an option with its value. -/
def Given.take (g : Given) (value : ByteString) : Flag → Except UsageError Given
  | .format => do return { g with format := ← once g.format (formatValue value) }
  | .config => do return { g with config := ← once g.config (pathValue value) }
  | .output => do return { g with output := ← once g.output (pathValue value) }
  | .variant => do
    return { g with options.variant := ← once g.options.variant (variantValue value) }
  | .file => do return { g with options.files := g.options.files ++ [← pathValue value] }
  | .safelist => do return { g with options.safelist := g.options.safelist ++ [← textValue value] }
  | .iconProp => do
    return { g with options.iconProps := g.options.iconProps ++ [← textValue value] }
  | .opsz => do return { g with options.opsz := ← once g.options.opsz (textValue value) }
  | .wght => do return { g with options.wght := ← once g.options.wght (textValue value) }
  | .fill => do return { g with options.fill := ← once g.options.fill (textValue value) }
  | .grad => do return { g with options.grad := ← once g.options.grad (textValue value) }
  | .quiet | .verbose | .help | .version => .ok g

/-- Takes an option without a value. -/
def Given.takeBare (g : Given) : Flag → Except UsageError Given
  | .quiet => if g.quiet then .error .repeatedOption else .ok { g with quiet := true }
  | .verbose => if g.verbose then .error .repeatedOption else .ok { g with verbose := true }
  | .help => .error .help
  | .version => .error .version
  | _ => .ok g

/-- What has been read but not yet checked. -/
inductive Pending where
  | nothing
  /-- An option whose value comes next. -/
  | awaiting (f : Flag)
  | option (f : Flag) (value : ByteString)
  /-- Operands, the latest first. -/
  | operands (latestFirst : List ByteString)
deriving DecidableEq, Repr, Inhabited

/-- How far the reading has come. -/
structure State where
  /-- What has been given. -/
  given : Given := {}
  /-- What is still to be checked. -/
  pending : Pending := .nothing
deriving DecidableEq, Repr, Inhabited

/-- Checks what is still to be checked. -/
def State.settle (s : State) : Except UsageError Given :=
  match s.pending with
  | .nothing => .ok s.given
  | .awaiting _ => .error .invalidValue
  | .option f value => s.given.take value f
  | .operands latestFirst =>
    if latestFirst.any (·.bytes == []) then .error .invalidValue
    else .ok { s.given with operands := s.given.operands ++ latestFirst.reverse }

/-- Whether the next operand is one of a list that has been begun. -/
def State.inOperands (p : Position) (s : State) : Bool :=
  match s.pending with
  | .operands _ => p ≠ .inject || !s.given.operands.isEmpty
  | _ => false

/-- Reads an operand. -/
def State.operand (p : Position) (s : State) (text : ByteString) : Except UsageError State :=
  match s.pending with
  | .operands latestFirst =>
    if s.inOperands p then .ok { s with pending := .operands (text :: latestFirst) }
    else s.settle.map fun given => { given, pending := .operands [text] }
  | _ => s.settle.map fun given => { given, pending := .operands [text] }

/-- Reads an option with a value in the same argument. -/
def State.attached (s : State) (f : Flag) (value : ByteString) : Except UsageError State := do
  let given ← s.settle
  return { given := ← given.take value f }

/-- Reads an option whose value comes next. -/
def State.await (s : State) (f : Flag) : Except UsageError State :=
  s.settle.map fun given => { given, pending := .awaiting f }

/-- Reads an option without a value. -/
def State.bare (s : State) (f : Flag) : Except UsageError State := do
  let given ← s.settle
  return { given := ← given.takeBare f }

/-- Reads an argument after its two hyphens. -/
def State.long (p : Position) (s : State) (bs : List UInt8) : Except UsageError State :=
  let name := bs.takeWhile (· ≠ equals)
  match Flag.ofName? p ⟨name⟩ with
  | none => .error .unknownArgument
  | some f =>
    match bs.drop name.length with
    | _ :: value => if f.takesValue then s.attached f ⟨value⟩ else .error .unwantedValue
    | [] => if f.takesValue then s.await f else s.bare f

/-- Reads an argument after its one hyphen: letters of options, of which the last may have a
value. -/
def State.letters (p : Position) (s : State) : List UInt8 → Except UsageError State
  | [] => .ok s
  | b :: bs =>
    match Flag.ofLetter? p b with
    | none => .error .unknownArgument
    | some f =>
      if f.takesValue then
        match bs with
        | [] => s.await f
        | equals :: value => s.attached f ⟨value⟩
        | value => s.attached f ⟨value⟩
      else (s.bare f).bind fun s => s.letters p bs

/-- The names of all commands, with the one that helps. -/
def commandNames : List ByteString := ["scan", "url", "inject", "help"]

/-- The answer to a request for help about commands of these names. -/
def helpOn : List ByteString → UsageError
  | [] => .help
  | [name] => if name ∈ commandNames then .help else .unknownCommand
  | _ :: _ :: _ => .unknownCommand

/-- Reads an argument that is neither option nor value. -/
def State.plain (p : Position) (afterHyphens : Bool) (s : State) (text : ByteString) :
    Except UsageError State :=
  if p = .start then
    if afterHyphens ∧ text ∈ commandNames then .error .unknownArgument else .error .unknownCommand
  else s.operand p text

/-- Whether the next argument is the value of an option, whatever it is. -/
def State.takesAnything (s : State) : Bool :=
  match s.pending with
  | .awaiting f => f.takesHyphens
  | _ => false

/-- Whether the next argument can be the value of an option. -/
def State.isAwaiting (s : State) : Bool :=
  match s.pending with
  | .awaiting _ => true
  | _ => false

/-- Reads an argument that is the value of an option, when one is awaited, or else an operand. -/
def State.value (p : Position) (s : State) (text : ByteString) : Except UsageError State :=
  match s.pending with
  | .awaiting f => .ok { s with pending := .option f text }
  | _ => s.plain p false text

/-- Reads an argument that is no command. -/
def State.argument (p : Position) (s : State) (text : ByteString) : Except UsageError State :=
  if s.takesAnything then s.value p text
  else
    match text.bytes with
    | hyphen :: hyphen :: bs => s.long p bs
    | hyphen :: b :: bs => s.letters p (b :: bs)
    | _ => s.value p text

/-- Reads operands only. -/
def State.rest (p : Position) (s : State) : List ByteString → Except UsageError State
  | [] => .ok s
  | text :: args => (s.plain p true text).bind fun s => s.rest p args

/-- Reads the arguments at a position up to a command: what has been read, and the command with the
arguments after it. -/
def State.arguments (p : Position) (s : State) :
    List ByteString → Except UsageError (State × Option (Position × List ByteString))
  | [] => .ok (s, none)
  | text :: args =>
    if p = .start ∧ !s.isAwaiting ∧ text = "help" then .error (helpOn args)
    else
      match (if p = .start ∧ !s.isAwaiting then Position.ofName? text else none) with
      | some command => .ok (s, some (command, args))
      | none =>
        if text = "--" ∧ !s.takesAnything then (s.rest p args).map fun s => (s, none)
        else (s.argument p text).bind fun s => s.arguments p args

/-- The command of a position with what has been given after it. -/
def commandOf (p : Position) (g : Given) : Except UsageError Command :=
  match p, g.operands with
  | .inject, [] => .error .missingArgument
  | .inject, input :: paths => .ok (.inject input g.output { g.options with paths })
  | .url, paths => .ok (.url { g.options with paths })
  | .scan, paths => .ok (.scan { g.options with paths })
  | .start, _ => .error .missingCommand

/-- Reads the arguments of the program. What is given after the command counts before what is given
ahead of it. -/
def parse (args : List ByteString) : Except UsageError CommandLine := do
  let (s, found) ← State.arguments .start {} args
  match found with
  | none =>
    let given ← s.settle
    if given = {} then .error .nothingGiven else .error .missingCommand
  | some (p, args) =>
    let (inner, _) ← State.arguments p {} args
    let late ← inner.settle
    let command ← commandOf p late
    let early ← s.settle
    return {
      command
      format := (late.format.or early.format).getD .json
      quiet := late.quiet || early.quiet
      verbose := late.verbose || early.verbose
      config := late.config.or early.config }

end IconSubset.CommandLine
