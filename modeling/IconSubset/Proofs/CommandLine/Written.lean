import IconSubset.CommandLine.Parser
import IconSubset.Proofs.Text.Bytes
import Mathlib.Tactic.Common

/-!
# Options that are written on the command line

What is asked of the program (`Request`) can be written in many ways: the options in any order,
those that stand on their own before the command or behind it (`Arrangement`). However it is
written, it is read back exactly (`parse_arguments`).

Options are read one by one (`arguments_written`), and what they come to is described option by
option: the values that were written for it, in their order (`valuesOf`). So what is read of a row
of options does not depend on how different options are mixed (`gather`).
-/

namespace IconSubset.CommandLine

/-! ## Requests and their arrangements -/

/-- What is asked of the program. -/
structure Request where
  /-- The command with its options. -/
  command : Command
  /-- The format of the output. -/
  format : Option OutputFormat
  /-- Whether to say as little as possible. -/
  quiet : Bool
  /-- Whether to say as much as possible. -/
  verbose : Bool
  /-- The configuration file. -/
  config : Option ByteString

/-- What is to be read of a request. -/
def Request.commandLine (r : Request) : CommandLine where
  command := r.command
  format := r.format.getD .json
  quiet := r.quiet
  verbose := r.verbose
  config := r.config

/-- The name of a command. -/
def commandName : Command → String
  | .scan _ => "scan"
  | .url _ => "url"
  | .inject .. => "inject"

/-- The position behind the name of a command. -/
def positionOf : Command → Position
  | .scan _ => .scan
  | .url _ => .url
  | .inject .. => .inject

/-- The file that a command writes its output to. -/
def outputOf : Command → Option ByteString
  | .inject _ output _ => output
  | _ => none

/-- The operands of a command, the document first. -/
def operandsOf : Command → List ByteString
  | .inject input _ options => input :: options.paths
  | c => c.options.paths

/-- The values of an option in a request, in their order. An option without a value is there once or
not at all. -/
def Request.values (r : Request) : Flag → List ByteString
  | .format => r.format.toList.map fun f => f.name
  | .quiet => if r.quiet then [↑""] else []
  | .verbose => if r.verbose then [↑""] else []
  | .config => r.config.toList
  | .help => []
  | .version => []
  | .variant => r.command.options.variant.toList.map fun v => v.name
  | .file => r.command.options.files
  | .safelist => r.command.options.safelist.map ByteString.ofString
  | .iconProp => r.command.options.iconProps.map ByteString.ofString
  | .opsz => r.command.options.opsz.toList.map ByteString.ofString
  | .wght => r.command.options.wght.toList.map ByteString.ofString
  | .fill => r.command.options.fill.toList.map ByteString.ofString
  | .grad => r.command.options.grad.toList.map ByteString.ofString
  | .output => (outputOf r.command).toList

/-- No path in a request is empty. -/
structure Request.NamesPaths (r : Request) : Prop where
  /-- The operands. -/
  operands : ↑"" ∉ operandsOf r.command
  /-- The further files. -/
  files : ↑"" ∉ r.command.options.files
  /-- The configuration file. -/
  config : r.config ≠ some ↑""
  /-- The file that the output goes to. -/
  output : outputOf r.command ≠ some ↑""

/-- An option with its value. -/
structure Written where
  /-- The option. -/
  flag : Flag
  /-- The value; an option that takes none has the empty one. -/
  value : ByteString

/-- How an option is written. -/
def Written.text (o : Written) : ByteString :=
  if o.flag.takesValue then "--" ++ o.flag.name ++ "=" ++ o.value else "--" ++ o.flag.name

/-- The values that are written for an option, in their order. -/
def valuesOf (f : Flag) (row : List Written) : List ByteString :=
  (row.filter fun o => o.flag = f).map Written.value

/-- A way to write the options of a request. -/
structure Arrangement (r : Request) where
  /-- The options before the command. -/
  early : List Written
  /-- The options behind the command. -/
  late : List Written
  /-- Only options that stand on their own are put before the command. -/
  standing : ∀ o ∈ early, o.flag.allowedAt .start = true
  /-- Every option is written with its values. -/
  complete : ∀ f, valuesOf f (early ++ late) = r.values f

/-- The arguments of the program: the options around the command, and its operands behind two
hyphens. -/
def Arrangement.arguments {r : Request} (a : Arrangement r) : List ByteString :=
  a.early.map Written.text ++
    ↑(commandName r.command) :: (a.late.map Written.text ++ ↑"--" :: operandsOf r.command)

/-! ## What options come to -/

/-- Takes an option as it is written. -/
def Given.add (g : Given) (o : Written) : Except UsageError Given :=
  if o.flag.takesValue then g.take o.value o.flag else g.takeBare o.flag

/-- What a row of options comes to. -/
def gather (row : List Written) : Given where
  format := (valuesOf .format row).head?.bind fun value => value.text?.bind OutputFormat.ofName?
  quiet := !(valuesOf .quiet row).isEmpty
  verbose := !(valuesOf .verbose row).isEmpty
  config := (valuesOf .config row).head?
  output := (valuesOf .output row).head?
  options := {
    variant := (valuesOf .variant row).head?.bind fun value => value.text?.bind Variant.parse?
    files := valuesOf .file row
    safelist := (valuesOf .safelist row).filterMap ByteString.text?
    iconProps := (valuesOf .iconProp row).filterMap ByteString.text?
    opsz := (valuesOf .opsz row).head?.bind ByteString.text?
    wght := (valuesOf .wght row).head?.bind ByteString.text?
    fill := (valuesOf .fill row).head?.bind ByteString.text?
    grad := (valuesOf .grad row).head?.bind ByteString.text? }

/-- Whether an option may be given more than once. -/
def Flag.isRepeatable : Flag → Bool
  | .file | .safelist | .iconProp => true
  | _ => false

/-- An option has a value that it can have. -/
def Written.Valid (o : Written) : Prop :=
  match o.flag with
  | .format => ∃ f : OutputFormat, o.value = f.name
  | .variant => ∃ v : Variant, o.value = v.name
  | .config | .output | .file => o.value ≠ ""
  | .help | .version => False
  | .quiet | .verbose => True
  | _ => ∃ text : String, o.value = text

/-- The values of two rows one after the other. -/
theorem valuesOf_append (f : Flag) (row more : List Written) :
    valuesOf f (row ++ more) = valuesOf f row ++ valuesOf f more := by
  unfold valuesOf
  rw [List.filter_append, List.map_append]

/-- A single option has its value, and no other has one. -/
theorem valuesOf_singleton (f : Flag) (o : Written) :
    valuesOf f [o] = if o.flag = f then [o.value] else [] := by
  unfold valuesOf
  by_cases h : o.flag = f
  · simp [h]
  · simp [h]

/-- The name of a format chooses it. -/
theorem ofName?_name (f : OutputFormat) : OutputFormat.ofName? f.name = some f := by
  cases f <;> rfl

/-- The name of a style chooses it. -/
theorem parse?_name (v : Variant) : Variant.parse? v.name = some v := by
  cases v <;> decide

/-- A path that is not empty is taken as it is. -/
theorem pathValue_of_ne {path : ByteString} (h : path ≠ "") : pathValue path = .ok path :=
  if_neg fun hbytes => h (ByteString.eq_empty_iff.2 hbytes)

/-- A text is taken as it is. -/
theorem textValue_ofString (text : String) : textValue text = .ok text := by
  rw [textValue, ByteString.text?_ofString]

/-- The name of a format is taken as the format. -/
theorem formatValue_name (f : OutputFormat) : formatValue f.name = .ok f := by
  have hname := ofName?_name f
  simp only [formatValue, textValue_ofString, bind, Except.bind, hname]
  rfl

/-- The name of a style is taken as the style. -/
theorem variantValue_name (v : Variant) : variantValue v.name = .ok v := by
  have hname := parse?_name v
  simp only [variantValue, textValue_ofString, bind, Except.bind, hname]
  rfl

/-- An option that is added to a row is taken, unless it is there already and cannot be repeated. -/
theorem add_gather {row : List Written} {o : Written} (hvalid : o.Valid)
    (honce : o.flag.isRepeatable = false → valuesOf o.flag row = []) :
    (gather row).add o = .ok (gather (row ++ [o])) := by
  obtain ⟨flag, value⟩ := o
  unfold gather Given.add
  simp only [valuesOf_append, valuesOf_singleton]
  cases flag with
  | help => exact hvalid.elim
  | version => exact hvalid.elim
  | format =>
    obtain ⟨f, rfl⟩ : ∃ f : OutputFormat, value = f.name := hvalid
    simp [Given.take, Flag.takesValue, honce rfl, once, formatValue_name, ofName?_name]
    rfl
  | variant =>
    obtain ⟨v, rfl⟩ : ∃ v : Variant, value = v.name := hvalid
    simp [Given.take, Flag.takesValue, honce rfl, once, variantValue_name, parse?_name]
    rfl
  | config | output =>
    have hpath : value ≠ "" := hvalid
    simp [Given.take, Flag.takesValue, honce rfl, once, pathValue_of_ne hpath]
    rfl
  | file =>
    have hpath : value ≠ "" := hvalid
    simp [Given.take, Flag.takesValue, pathValue_of_ne hpath]
  | safelist | iconProp =>
    obtain ⟨text, rfl⟩ : ∃ text : String, value = text := hvalid
    simp [Given.take, Flag.takesValue, textValue_ofString]
  | quiet | verbose => simp [Given.takeBare, Flag.takesValue, honce rfl]
  | _ =>
    obtain ⟨text, rfl⟩ : ∃ text : String, value = text := hvalid
    simp [Given.take, Flag.takesValue, honce rfl, once, textValue_ofString]
    rfl

/-- Options are taken one after the other, each in its turn. -/
theorem foldlM_add_gather (done : List Written) {row : List Written} (hvalid : ∀ o ∈ row, o.Valid)
    (honce : ∀ f : Flag, f.isRepeatable = false → (valuesOf f (done ++ row)).length ≤ 1) :
    row.foldlM Given.add (gather done) = .ok (gather (done ++ row)) := by
  induction row generalizing done with
  | nil =>
    rw [List.append_nil]
    rfl
  | cons o row ih =>
    have hnew : o.flag.isRepeatable = false → valuesOf o.flag done = [] := by
      intro hflag
      have hlength := honce o.flag hflag
      rw [← List.singleton_append, valuesOf_append, valuesOf_append, valuesOf_singleton, if_pos rfl,
        List.length_append, List.length_append, List.length_singleton] at hlength
      exact List.length_eq_zero_iff.1 (by omega)
    rw [List.foldlM_cons, add_gather (hvalid o List.mem_cons_self) hnew]
    have hrest := ih (done ++ [o]) (fun p hp => hvalid p (List.mem_cons_of_mem o hp))
    rw [List.append_assoc, List.singleton_append] at hrest
    exact hrest honce

/-! ## Reading -/

/-- Where an option may stand, its name is read as the option. -/
theorem ofName?_of_allowedAt {p : Position} {f : Flag} (h : f.allowedAt p = true) :
    Flag.ofName? p f.name = some f := by
  revert h
  cases p <;> cases f <;> decide +kernel

/-- The bytes of an option as it is written. -/
theorem Written.bytes_text (o : Written) :
    o.text.bytes = hyphen :: hyphen ::
      ((ByteString.ofString o.flag.name).bytes ++
        if o.flag.takesValue then equals :: o.value.bytes else []) := by
  have hhyphens : (ByteString.ofString "--").bytes = [hyphen, hyphen] := rfl
  have hequals : (ByteString.ofString "=").bytes = [equals] := rfl
  unfold Written.text
  split_ifs <;> simp [hhyphens, hequals]

/-- An argument that an option is written as is read as the option. -/
theorem argument_written {p : Position} {g : Given} {o : Written}
    (hallowed : o.flag.allowedAt p = true) :
    State.argument p { given := g } o.text = (g.add o).map fun given => { given } := by
  -- No name has an equals sign in it, so the name ends where the value begins.
  have hname : ((ByteString.ofString o.flag.name).bytes.all fun b => b ≠ equals) = true := by
    cases o.flag <;> decide
  have hnothing : ¬({ given := g } : State).takesAnything = true := Bool.false_ne_true
  unfold State.argument
  rw [if_neg hnothing, o.bytes_text]
  show State.long p { given := g } _ = _
  unfold State.long Given.add
  rw [List.takeWhile_append_of_pos (List.all_eq_true.1 hname)]
  by_cases hvalue : o.flag.takesValue = true
  · rw [if_pos hvalue, List.takeWhile_cons_of_neg (by decide), List.append_nil]
    dsimp only
    rw [ofName?_of_allowedAt hallowed, List.drop_left]
    dsimp only
    rw [if_pos hvalue, if_pos hvalue]
    unfold State.attached
    show (g.take o.value o.flag >>= _) = _
    cases g.take o.value o.flag <;> rfl
  · rw [if_neg hvalue, List.takeWhile_nil, List.append_nil]
    dsimp only
    rw [ofName?_of_allowedAt hallowed, List.drop_length]
    dsimp only
    rw [if_neg hvalue, if_neg hvalue]
    unfold State.bare
    show (g.takeBare o.flag >>= _) = _
    cases g.takeBare o.flag <;> rfl

/-- An option is neither a command nor the two hyphens behind which nothing is an option. -/
theorem Written.text_ne (o : Written) :
    o.text ≠ "help" ∧ Position.ofName? o.text = none ∧ o.text ≠ "--" := by
  have hword : ∀ b : ByteString, b.bytes.head? ≠ some hyphen → o.text ≠ b := by
    rintro b hb rfl
    rw [o.bytes_text] at hb
    exact hb rfl
  refine ⟨hword _ (by decide), ?_, fun h => ?_⟩
  · unfold Position.ofName?
    rw [if_neg (hword _ (by decide)), if_neg (hword _ (by decide)), if_neg (hword _ (by decide))]
  · have hlist : hyphen :: hyphen :: ((ByteString.ofString o.flag.name).bytes ++ _) =
        [hyphen, hyphen] := o.bytes_text.symm.trans (congrArg ByteString.bytes h)
    have hname : (ByteString.ofString o.flag.name).bytes ≠ [] := by
      cases o.flag <;> decide
    exact hname (List.append_eq_nil_iff.1 (List.cons.inj (List.cons.inj hlist).2).2).1

/-- A row of options is read up to what follows it. -/
theorem arguments_written {p : Position} {row : List Written} {g g' : Given}
    (rest : List ByteString)
    (hallowed : ∀ o ∈ row, o.flag.allowedAt p = true) (h : row.foldlM Given.add g = .ok g') :
    State.arguments p { given := g } (row.map Written.text ++ rest) =
      State.arguments p { given := g' } rest := by
  induction row generalizing g with
  | nil =>
    obtain rfl : g = g' := Except.ok.inj h
    rfl
  | cons o row ih =>
    rw [List.foldlM_cons] at h
    obtain ⟨g₁, hadd, hrest⟩ : ∃ g₁, g.add o = .ok g₁ ∧ row.foldlM Given.add g₁ = .ok g' := by
      cases hadd : g.add o with
      | error e => rw [hadd] at h; cases h
      | ok g₁ => rw [hadd] at h; exact ⟨g₁, rfl, h⟩
    obtain ⟨hhelp, hcommand, hhyphens⟩ := o.text_ne
    rw [List.map_cons, List.cons_append, State.arguments, if_neg (fun h => hhelp h.2.2), hcommand,
      ite_self]
    dsimp only
    rw [if_neg (fun h => hhyphens h.1), argument_written (hallowed o List.mem_cons_self), hadd]
    exact ih (fun q hq => hallowed q (List.mem_cons_of_mem o hq)) hrest

/-! ## Operands -/

section Operands

variable {p : Position} {g : Given}

/-- Operands are checked together when nothing follows them. -/
theorem settle_operands {latestFirst : List ByteString} (h : ↑"" ∉ latestFirst) :
    State.settle { given := g, pending := .operands latestFirst } =
      .ok { g with operands := g.operands ++ latestFirst.reverse } := by
  refine if_neg fun hany => ?_
  obtain ⟨text, htext, hempty⟩ := List.any_eq_true.1 hany
  obtain rfl : text = "" := ByteString.eq_empty_iff.2 (beq_iff_eq.1 hempty)
  exact h htext

/-- Once a list of operands has been begun, all that follow belong to it. -/
theorem rest_operands (hp : p ≠ .start) (hlist : p ≠ .inject ∨ g.operands ≠ [])
    (latestFirst texts : List ByteString) :
    State.rest p { given := g, pending := .operands latestFirst } texts =
      .ok { given := g, pending := .operands (texts.reverse ++ latestFirst) } := by
  have hin : ∀ latestFirst, State.inOperands p { given := g, pending := .operands latestFirst } =
      true := by
    intro latestFirst
    unfold State.inOperands
    rcases hlist with hlist | hlist
    · simp [hlist]
    · simp [hlist]
  induction texts generalizing latestFirst with
  | nil => rfl
  | cons text texts ih =>
    have hone : State.plain p true { given := g, pending := .operands latestFirst } text =
        .ok { given := g, pending := .operands (text :: latestFirst) } := by
      unfold State.plain State.operand
      rw [if_neg hp]
      exact if_pos (hin latestFirst)
    rw [State.rest, hone, List.reverse_cons, List.append_assoc, List.singleton_append]
    exact ih (text :: latestFirst)

/-- A list of operands is read as it is written, behind the operands that have been checked. -/
theorem rest_list (hp : p ≠ .start) (hlist : p ≠ .inject ∨ g.operands ≠ [])
    {texts : List ByteString}
    (h : ↑"" ∉ texts) : ∃ s, State.rest p { given := g } texts = .ok s ∧
      s.settle = .ok { g with operands := g.operands ++ texts } := by
  cases texts with
  | nil =>
    refine ⟨_, rfl, ?_⟩
    rw [List.append_nil]
    rfl
  | cons text texts =>
    have hone : State.plain p true { given := g } text =
        .ok { given := g, pending := .operands [text] } := if_neg hp
    refine ⟨{ given := g, pending := .operands (texts.reverse ++ [text]) }, ?_, ?_⟩
    · rw [State.rest, hone]
      exact rest_operands hp hlist [text] texts
    · rw [settle_operands, List.reverse_append, List.reverse_reverse]
      · rfl
      · rw [← List.reverse_cons, List.mem_reverse]
        exact h

/-- A document is read before a list of paths. It is no part of the list, which the first path
begins. -/
theorem rest_document {input : ByteString} {paths : List ByteString} (hg : g.operands = [])
    (hinput : input ≠ "") (hpaths : ↑"" ∉ paths) :
    ∃ s, State.rest .inject { given := g } (input :: paths) = .ok s ∧
      s.settle = .ok { g with operands := input :: paths } := by
  have hsettle : State.settle { given := g, pending := .operands [input] } =
      .ok { g with operands := [input] } := by
    rw [settle_operands fun hmem => hinput (List.mem_singleton.1 hmem).symm, hg]
    rfl
  obtain ⟨s, hread, hsettled⟩ := rest_list (p := .inject) (g := { g with operands := [input] })
    nofun (.inr (List.cons_ne_nil _ _)) hpaths
  cases paths with
  | nil => exact ⟨_, rfl, hsettle⟩
  | cons path paths =>
    have hnext : State.plain .inject true { given := g, pending := .operands [input] } path =
        .ok { given := { g with operands := [input] }, pending := .operands [path] } := by
      show (if State.inOperands .inject { given := g, pending := .operands [input] } = true then _
        else (State.settle _).map _) = _
      have hout :
          State.inOperands .inject { given := g, pending := .operands [input] } = false := by
        simp [State.inOperands, hg]
      rw [hout, if_neg Bool.false_ne_true, hsettle]
      rfl
    refine ⟨s, ?_, hsettled⟩
    show (State.plain .inject true { given := g, pending := .operands [input] } path).bind
      (fun s => s.rest .inject paths) = .ok s
    rw [hnext]
    exact hread

/-- The operands of a command are read as they are written. -/
theorem rest_operandsOf {c : Command} (hg : g.operands = []) (h : ↑"" ∉ operandsOf c) :
    ∃ s, State.rest (positionOf c) { given := g } (operandsOf c) = .ok s ∧
      s.settle = .ok { g with operands := operandsOf c } := by
  cases c with
  | scan options =>
    have hread := rest_list (p := .scan) (g := g) nofun (.inl nofun) h
    rwa [hg, List.nil_append] at hread
  | url options =>
    have hread := rest_list (p := .url) (g := g) nofun (.inl nofun) h
    rwa [hg, List.nil_append] at hread
  | inject input output options =>
    obtain ⟨hinput, hpaths⟩ : ↑"" ≠ input ∧ ↑"" ∉ options.paths :=
      List.ne_and_not_mem_of_not_mem_cons h
    exact rest_document hg (Ne.symm hinput) hpaths

end Operands

/-! ## Reading a request -/

section Request

variable {r : Request}

/-- The values of an option that cannot be repeated are one at most. -/
theorem Request.length_values (r : Request) {f : Flag} (h : f.isRepeatable = false) :
    (r.values f).length ≤ 1 := by
  have hoption : ∀ {α : Type} (o : Option α), o.toList.length ≤ 1 := by
    intro α o
    cases o <;> simp
  have hbare : ∀ b : Bool, (if b then [ByteString.ofString ""] else []).length ≤ 1 := by decide
  cases f with
  | file | safelist | iconProp => cases h
  | help | version => exact Nat.zero_le 1
  | quiet => exact hbare r.quiet
  | verbose => exact hbare r.verbose
  | config | output => exact hoption _
  | _ =>
    unfold Request.values
    rw [List.length_map]
    exact hoption _

/-- The values of a request are such as the options can have, and the options are such as may stand
behind the command. -/
theorem Request.valid_of_mem (hpaths : r.NamesPaths) {o : Written}
    (h : o.value ∈ r.values o.flag) :
    o.Valid ∧ o.flag.allowedAt (positionOf r.command) = true := by
  have hcommand : decide (positionOf r.command ≠ .start) = true := by
    cases r.command <;> rfl
  obtain ⟨flag, value⟩ := o
  dsimp only at h ⊢
  cases flag with
  | help | version => exact absurd h List.not_mem_nil
  | format =>
    obtain ⟨f, -, hname⟩ := List.mem_map.1 h
    exact ⟨⟨f, hname.symm⟩, rfl⟩
  | variant =>
    obtain ⟨v, -, hname⟩ := List.mem_map.1 h
    exact ⟨⟨v, hname.symm⟩, hcommand⟩
  | config =>
    refine ⟨?_, rfl⟩
    rintro rfl
    exact hpaths.config (Option.mem_toList.1 h)
  | output =>
    have houtput : outputOf r.command = some value := Option.mem_toList.1 h
    constructor
    · rintro rfl
      exact hpaths.output houtput
    · cases hr : r.command with
      | inject input output options => rfl
      | scan options => rw [hr] at houtput; cases houtput
      | url options => rw [hr] at houtput; cases houtput
  | file =>
    refine ⟨?_, hcommand⟩
    rintro rfl
    exact hpaths.files h
  | quiet | verbose => exact ⟨trivial, rfl⟩
  | _ =>
    obtain ⟨text, -, rfl⟩ := List.mem_map.1 h
    exact ⟨⟨text, rfl⟩, hcommand⟩

/-- Of a value that is given once at most, it is of no account on which side it is given. -/
theorem or_head? {α : Type} {early late values : List ByteString} (h : early ++ late = values)
    (hlength : values.length ≤ 1) (read : ByteString → Option α) :
    (late.head?.bind read).or (early.head?.bind read) = values.head?.bind read := by
  subst h
  cases early with
  | nil => exact Option.or_none
  | cons value early =>
    rw [List.length_append, List.length_cons] at hlength
    obtain rfl : late = [] := List.length_eq_zero_iff.1 (by omega)
    rfl

/-- A value that names something is read as it. -/
theorem bind_head? {α : Type} {name : α → ByteString} {read : ByteString → Option α}
    (h : ∀ a, read (name a) = some a) (o : Option α) :
    (o.toList.map name).head?.bind read = o := by
  cases o with
  | none => rfl
  | some a => exact h a

namespace Arrangement

variable (a : Arrangement r)

/-- Every option that is written has a value of the request. -/
theorem mem_values {o : Written} (h : o ∈ a.early ++ a.late) : o.value ∈ r.values o.flag := by
  rw [← a.complete]
  exact List.mem_map_of_mem (List.mem_filter.2 ⟨h, decide_eq_true rfl⟩)

/-- Options that belong to the command are all written behind it. -/
theorem valuesOf_late {f : Flag} (h : f.allowedAt .start = false) :
    valuesOf f a.late = r.values f := by
  have hearly : valuesOf f a.early = [] := by
    unfold valuesOf
    rw [List.map_eq_nil_iff, List.filter_eq_nil_iff]
    intro o ho hflag
    have hstanding := a.standing o ho
    rw [of_decide_eq_true hflag, h] at hstanding
    exact Bool.false_ne_true hstanding
  rw [← a.complete f, valuesOf_append, hearly, List.nil_append]

/-- What is written behind a command comes to its options and its output. -/
theorem gather_late : (gather a.late).options = { r.command.options with paths := [] } ∧
    (gather a.late).output = outputOf r.command := by
  unfold gather
  rw [a.valuesOf_late (f := .variant) rfl, a.valuesOf_late (f := .file) rfl,
    a.valuesOf_late (f := .safelist) rfl, a.valuesOf_late (f := .iconProp) rfl,
    a.valuesOf_late (f := .opsz) rfl, a.valuesOf_late (f := .wght) rfl,
    a.valuesOf_late (f := .fill) rfl, a.valuesOf_late (f := .grad) rfl,
    a.valuesOf_late (f := .output) rfl]
  have hvariant : ∀ o : Option Variant, ((o.toList.map fun v => (v.name : ByteString)).head?.bind
      fun value => value.text?.bind Variant.parse?) = o :=
    bind_head? fun v => by rw [ByteString.text?_ofString, Option.bind_some, parse?_name]
  simp only [Request.values, hvariant, bind_head? ByteString.text?_ofString,
    List.filterMap_map, Function.comp_def, ByteString.text?_ofString, List.filterMap_some,
    Option.head?_toList, and_self]

/-- What is written on both sides comes to the options that stand on their own. -/
theorem gather_sides :
    (gather a.late).format.or (gather a.early).format = r.format ∧
      ((gather a.late).quiet || (gather a.early).quiet) = r.quiet ∧
      ((gather a.late).verbose || (gather a.early).verbose) = r.verbose ∧
      (gather a.late).config.or (gather a.early).config = r.config := by
  have hsides : ∀ f, valuesOf f a.early ++ valuesOf f a.late = r.values f := fun f => by
    rw [← valuesOf_append, a.complete]
  have hbare : ∀ {f : Flag} {b : Bool}, r.values f = (if b then [↑""] else []) →
      (!(valuesOf f a.late).isEmpty || !(valuesOf f a.early).isEmpty) = b := by
    intro f b hvalues
    have hall := hsides f
    rw [hvalues] at hall
    cases b with
    | false =>
      obtain ⟨hearly, hlate⟩ := List.append_eq_nil_iff.1 hall
      rw [hearly, hlate]
      rfl
    | true =>
      cases hlate : valuesOf f a.late with
      | nil =>
        rw [hlate, List.append_nil] at hall
        rw [hall]
        rfl
      | cons value late => rfl
  have hformat : ∀ f : OutputFormat,
      (ByteString.ofString f.name).text?.bind OutputFormat.ofName? = some f :=
    fun f => by rw [ByteString.text?_ofString, Option.bind_some, ofName?_name]
  refine ⟨?_, hbare rfl, hbare rfl, ?_⟩
  · exact (or_head? (hsides .format) (r.length_values rfl) _).trans (bind_head? hformat _)
  · have hconfig := or_head? (hsides .config) (r.length_values rfl) some
    simp only [Option.bind_fun_some, Request.values, Option.head?_toList] at hconfig
    exact hconfig

/-- The options on each side come to what they are gathered to. -/
theorem foldlM_sides (hpaths : r.NamesPaths) :
    a.early.foldlM Given.add {} = .ok (gather a.early) ∧
      a.late.foldlM Given.add {} = .ok (gather a.late) := by
  have hvalid : ∀ o ∈ a.early ++ a.late, o.Valid := fun o ho =>
    (Request.valid_of_mem hpaths (a.mem_values ho)).1
  have hlength : ∀ f : Flag, f.isRepeatable = false →
      (valuesOf f a.early).length + (valuesOf f a.late).length ≤ 1 := by
    intro f hf
    rw [← List.length_append, ← valuesOf_append, a.complete]
    exact r.length_values hf
  constructor
  · refine foldlM_add_gather [] (fun o ho => hvalid o (List.mem_append_left _ ho)) ?_
    intro f hf
    exact Nat.le_trans (Nat.le_add_right _ _) (hlength f hf)
  · refine foldlM_add_gather [] (fun o ho => hvalid o (List.mem_append_right _ ho)) ?_
    intro f hf
    exact Nat.le_trans (Nat.le_add_left _ _) (hlength f hf)

end Arrangement

/-- What is given behind a command makes it up. -/
theorem commandOf_given {c : Command} {g : Given}
    (hoptions : g.options = { c.options with paths := [] }) (houtput : g.output = outputOf c) :
    commandOf (positionOf c) { g with operands := operandsOf c } = .ok c := by
  have hpaths : ∀ o : ScanOptions, g.options = { o with paths := [] } →
      { g.options with paths := o.paths } = o := by
    intro o h
    rw [h]
  cases c with
  | scan options => exact congrArg (fun o => Except.ok (Command.scan o)) (hpaths options hoptions)
  | url options => exact congrArg (fun o => Except.ok (Command.url o)) (hpaths options hoptions)
  | inject input output options =>
    have houtput' : g.output = output := houtput
    show Except.ok (Command.inject input g.output { g.options with paths := options.paths }) = _
    rw [houtput', hpaths options hoptions]

/-- The name of a command is read as the command, wherever one may stand. -/
theorem arguments_command (c : Command) (g : Given) (args : List ByteString) :
    State.arguments .start { given := g } (↑(commandName c) :: args) =
      .ok ({ given := g }, some (positionOf c, args)) := by
  have hnames : ∀ p ∈ [("scan", Position.scan), ("url", .url), ("inject", .inject)],
      (p.1 : ByteString) ≠ "help" ∧ Position.ofName? p.1 = some p.2 := by
    decide
  have hname : (commandName c : ByteString) ≠ "help" ∧
      Position.ofName? (commandName c) = some (positionOf c) := by
    cases c with
    | scan => exact hnames ("scan", .scan) (by decide)
    | url => exact hnames ("url", .url) (by decide)
    | inject => exact hnames ("inject", .inject) (by decide)
  rw [State.arguments, if_neg fun h => hname.1 h.2.2, hname.2]
  rfl

/-- Behind two hyphens there are operands only. -/
theorem arguments_hyphens {p : Position} (hp : p ≠ .start) (g : Given) (texts : List ByteString) :
    State.arguments p { given := g } (↑"--" :: texts) =
      (State.rest p { given := g } texts).map fun s => (s, none) := by
  rw [State.arguments, if_neg fun h => hp h.1, if_neg fun h => hp h.1]
  rfl

/-- A request is read back exactly, however it is written. -/
theorem parse_arguments (hpaths : r.NamesPaths) (a : Arrangement r) :
    parse a.arguments = .ok r.commandLine := by
  have hposition : positionOf r.command ≠ .start := by
    cases r.command <;> exact nofun
  obtain ⟨hearly, hlate⟩ := a.foldlM_sides hpaths
  obtain ⟨hoptions, houtput⟩ := a.gather_late
  obtain ⟨hformat, hquiet, hverbose, hconfig⟩ := a.gather_sides
  have hallowed : ∀ o ∈ a.late, o.flag.allowedAt (positionOf r.command) = true := fun o ho =>
    (Request.valid_of_mem hpaths (a.mem_values (List.mem_append_right _ ho))).2
  obtain ⟨s, hrest, hsettle⟩ := rest_operandsOf (c := r.command) (g := gather a.late) rfl
    hpaths.operands
  -- The options before the command, the command, the options behind it, and its operands.
  have hstart : State.arguments .start {} a.arguments = .ok ({ given := gather a.early },
      some (positionOf r.command, a.late.map Written.text ++ ↑"--" :: operandsOf r.command)) := by
    unfold Arrangement.arguments
    rw [arguments_written _ a.standing hearly, arguments_command]
  have hinner : State.arguments (positionOf r.command) {}
      (a.late.map Written.text ++ ↑"--" :: operandsOf r.command) = .ok (s, none) := by
    rw [arguments_written _ hallowed hlate, arguments_hyphens hposition, hrest]
    rfl
  unfold parse
  rw [hstart]
  show (State.arguments (positionOf r.command) {} _ >>= _) = _
  rw [hinner]
  show (s.settle >>= _) = _
  rw [hsettle]
  show (commandOf (positionOf r.command) _ >>= _) = _
  rw [commandOf_given hoptions houtput]
  unfold Request.commandLine
  rw [← hformat, ← hquiet, ← hverbose, ← hconfig]
  rfl

end Request

/-- Values with hyphens and equals signs and empty ones, in options that are mixed. -/
theorem parse_arguments_mixed :
    let r : Request := {
      command := .inject "-" (some "--out=a.html") {
        paths := ["--file", "src"], files := ["a=b", "-c"], safelist := ["", "--quiet"],
        grad := some "-25..0" }
      format := some .text
      quiet := false
      verbose := true
      config := some "=" }
    let a : Arrangement r := {
      early := [⟨.verbose, ""⟩, ⟨.config, "="⟩]
      late := [⟨.safelist, ""⟩, ⟨.file, "a=b"⟩, ⟨.grad, "-25..0"⟩, ⟨.format, "text"⟩,
        ⟨.safelist, "--quiet"⟩, ⟨.output, "--out=a.html"⟩, ⟨.file, "-c"⟩]
      standing := by decide
      complete := fun f => by cases f <;> rfl }
    r.NamesPaths ∧
      a.arguments = ["--verbose", "--config==", "inject", "--safelist=", "--file=a=b",
        "--grad=-25..0", "--format=text", "--safelist=--quiet", "--output=--out=a.html",
        "--file=-c",
        "--", "-", "--file", "src"] ∧
      parse a.arguments = .ok r.commandLine := by
  intro r a
  have hpaths : r.NamesPaths := ⟨by decide, by decide, by decide, by decide⟩
  exact ⟨hpaths, by decide, parse_arguments hpaths a⟩

end IconSubset.CommandLine
