import IconSubset.Config.Reading
import IconSubset.Proofs.Config.Layering

/-!
# Reading the values that count

A configuration is read from one value for each of its options. When all of them are of the right
types they stand for a configuration, which `configuration?` gives without a word about places and
causes; when one is not, reading fails. The words of a failure depend on the surface of settings
alone, with one exception: a table in the place of the name of a style is looked into.
-/

namespace IconSubset.Config

/-- The options of a configuration. -/
inductive Key where
  | variant
  | paths
  | files
  | safelist
  | iconProps
  | opsz
  | wght
  | fill
  | grad
deriving DecidableEq, Repr

/-- The name of an option. -/
def Key.name : Key → String
  | variant => "variant"
  | paths => "paths"
  | files => "files"
  | safelist => "safelist"
  | iconProps => "icon_props"
  | opsz => "opsz"
  | wght => "wght"
  | fill => "fill"
  | grad => "grad"

/-- The style that a value names. -/
def Value.variant? : Value → Option Variant
  | .string name => Variant.ofName? name
  | _ => none

/-- The texts that a list stands for, given what one item stands for. -/
def Value.texts? (textOf : Value → Option String) : Value → Option (List String)
  | .list items => items.mapM textOf
  | _ => none

/-- The paths that a list of texts stands for. -/
def Value.paths? (v : Value) : Option (List ByteString) :=
  (v.texts? Value.text?).map (List.map ByteString.ofString)

/-- The configuration that values for the options stand for; nothing when one of them is of a wrong
type. An option without a value keeps its default, or stays open. -/
def configuration? (chosen : Key → Option Value) : Option Configuration := do
  let files ← (chosen .files).mapM Value.paths?
  let iconProps ← (chosen .iconProps).mapM (Value.texts? Value.text?)
  let paths ← (chosen .paths).mapM Value.paths?
  let safelist ← (chosen .safelist).mapM (Value.texts? Value.scalarText?)
  let variant ← (chosen .variant).mapM Value.variant?
  let fill ← (chosen .fill).mapM Value.scalarText?
  let grad ← (chosen .grad).mapM Value.scalarText?
  let opsz ← (chosen .opsz).mapM Value.scalarText?
  let wght ← (chosen .wght).mapM Value.scalarText?
  let axes : FontAxes := {}
  return {
    variant, paths
    files := files.getD []
    safelist := safelist.getD []
    iconProps := iconProps.getD []
    axes := {
      opsz := opsz.getD axes.opsz
      wght := wght.getD axes.wght
      fill := fill.getD axes.fill
      grad := grad.getD axes.grad } }

section Results

variable {ε ε' α β : Type}

/-- Results in a row, without what went wrong. -/
theorem toOption_bind (x : Except ε α) (f : α → Except ε β) :
    (x >>= f).toOption = x.toOption.bind fun a => (f a).toOption := by
  match x with
  | .ok _ => rfl
  | .error _ => rfl

/-- A result that is worked on, without what went wrong. -/
theorem toOption_map (x : Except ε α) (f : α → β) : (x.map f).toOption = x.toOption.map f := by
  match x with
  | .ok _ => rfl
  | .error _ => rfl

/-- It does not matter then what is told of an error. -/
theorem toOption_mapError (x : Except ε α) (f : ε → ε') : (x.mapError f).toOption = x.toOption := by
  match x with
  | .ok _ => rfl
  | .error _ => rfl

end Results

/-- A reader of settings that accepts what a reading of values does, and gives the same. -/
def Agrees {α : Type} (read : List String → Setting → Except ReadError α)
    (typed? : Value → Option α) : Prop :=
  ∀ names s, s.NullFree → (read names s).toOption = typed? s.outline

/-- The items of a list are read one by one, wherever they are in it. -/
theorem toOption_readItems (names : List String) (origin : Origin) (shape : Shape)
    (textOf : Value → Option String) (index : Nat) (items : List Value) :
    (readItems names origin shape textOf index items).toOption = items.mapM textOf := by
  induction items generalizing index with
  | nil => rfl
  | cons v rest ih =>
    rw [readItems, List.mapM_cons]
    cases textOf v with
    | none => rfl
    | some text =>
      rw [toOption_map, ih]
      cases rest.mapM textOf <;> rfl

/-- A list of texts is read as its items are. -/
theorem agrees_readList (listShape itemShape : Shape) (textOf : Value → Option String) :
    Agrees (readList listShape itemShape textOf) (Value.texts? textOf) := by
  intro names s _
  match s with
  | .value origin (.list items) => exact toOption_readItems ..
  | .table _ _ => rfl
  | .value _ .null | .value _ (.bool _) | .value _ (.signed _) | .value _ (.unsigned _)
  | .value _ (.float _) | .value _ (.character _) | .value _ (.string _)
  | .value _ (.table _) => rfl

/-- Paths are read as a list of texts. -/
theorem agrees_readPaths : Agrees readPaths Value.paths? := by
  intro names s hfree
  rw [readPaths, toOption_map, agrees_readList _ _ _ names s hfree, Value.paths?]

/-- A scalar is read as its text. -/
theorem agrees_readScalar : Agrees readScalar Value.scalarText? := by
  intro names s _
  unfold readScalar
  split
  next text h => rw [h]; rfl
  next h => rw [h]; rfl

/-- A table never stands for a style: under its first name there would have to be null. -/
theorem agrees_readVariant : Agrees readVariant Value.variant? := by
  intro names s hfree
  match s, hfree with
  | .value origin (.string name), _ =>
    rw [readVariant, Setting.outline, Value.variant?]
    cases Variant.ofName? name <;> rfl
  | .value _ .null, _ | .value _ (.bool _), _ | .value _ (.signed _), _
  | .value _ (.unsigned _), _ | .value _ (.float _), _ | .value _ (.character _), _
  | .value _ (.list _), _ | .value _ (.table _), _ => rfl
  | .table _ [], _ => rfl
  | .table origin ((name, inner) :: rest), .table hfields =>
    have hinner : inner.NullFree := hfields _ List.mem_cons_self
    rw [readVariant]
    split
    next => rfl
    next v _ =>
      split
      next =>
        obtain ⟨⟩ := hinner
        next h => cases h
      next => rfl

/-- A field is read like its value, and has its default where it is not set. -/
theorem toOption_readField {α : Type} {read : List String → Setting → Except ReadError α}
    {typed? : Value → Option α} (h : Agrees read typed?) {fields : List (String × Setting)}
    (hfree : ∀ field ∈ fields, field.2.NullFree) (name : String) (default : α) :
    (readField read name default fields).toOption =
      (((lookup name fields).map Setting.outline).mapM typed?).map (·.getD default) := by
  unfold readField
  split
  next hnone => rw [hnone]; rfl
  next s hsome =>
    rw [hsome, h _ s (hfree _ (mem_of_lookup hsome)), Option.map_some, Option.mapM_some]
    cases typed? s.outline <;> rfl

/-- An option that may be left open is read like any other, since nothing says that it is. -/
theorem toOption_readField_optional {α : Type} {read : List String → Setting → Except ReadError α}
    {typed? : Value → Option α} (h : Agrees read typed?) {fields : List (String × Setting)}
    (hfree : ∀ field ∈ fields, field.2.NullFree) (name : String) :
    (readField (readOptional read) name none fields).toOption =
      ((lookup name fields).map Setting.outline).mapM typed? := by
  have hoptional : Agrees (readOptional read) fun v => (typed? v).map some := by
    intro names s hs
    unfold readOptional
    split
    next =>
      obtain ⟨⟩ := hs
      next hnull => cases hnull
    next => rw [toOption_map, h names s hs]
  rw [toOption_readField hoptional hfree]
  match (lookup name fields).map Setting.outline with
  | none => rfl
  | some v =>
    simp only [Option.mapM_some]
    cases typed? v <;> rfl

/-- A configuration is read from the values of its options, and from nothing else. -/
theorem toOption_readConfiguration {fields : List (String × Setting)}
    (hfree : ∀ field ∈ fields, field.2.NullFree) :
    (readConfiguration readVariant fields).toOption =
      configuration? fun key => (lookup key.name fields).map Setting.outline := by
  have hpaths := agrees_readPaths
  have htexts := agrees_readList .list .text Value.text?
  have hscalars := agrees_readList .scalars .scalar Value.scalarText?
  simp only [readConfiguration, readAxes, toOption_bind, toOption_mapError, readTexts,
    readScalars, toOption_readField hpaths hfree, toOption_readField htexts hfree,
    toOption_readField hscalars hfree, toOption_readField agrees_readScalar hfree,
    toOption_readField_optional hpaths hfree, toOption_readField_optional agrees_readVariant hfree,
    configuration?, Key.name, Option.bind_assoc, Option.bind_map, Function.comp_def]
  rfl

/-- What each part of a configuration comes from. -/
structure ReadsFrom (chosen : Key → Option Value) (conf : Configuration) : Prop where
  variant : (chosen .variant).mapM Value.variant? = some conf.variant
  paths : (chosen .paths).mapM Value.paths? = some conf.paths
  files : ((chosen .files).mapM Value.paths?).map (·.getD []) = some conf.files
  safelist : ((chosen .safelist).mapM (Value.texts? Value.scalarText?)).map (·.getD []) =
    some conf.safelist
  iconProps : ((chosen .iconProps).mapM (Value.texts? Value.text?)).map (·.getD []) =
    some conf.iconProps
  opsz : ((chosen .opsz).mapM Value.scalarText?).map (·.getD "20..48") = some conf.axes.opsz
  wght : ((chosen .wght).mapM Value.scalarText?).map (·.getD "100..700") = some conf.axes.wght
  fill : ((chosen .fill).mapM Value.scalarText?).map (·.getD "0..1") = some conf.axes.fill
  grad : ((chosen .grad).mapM Value.scalarText?).map (·.getD "-50..200") = some conf.axes.grad

/-- The parts of a configuration are read one after the other, each from its own values. -/
theorem readsFrom_of_configuration? {chosen : Key → Option Value} {conf : Configuration}
    (h : configuration? chosen = some conf) : ReadsFrom chosen conf := by
  obtain ⟨files, hfiles, h⟩ := Option.bind_eq_some_iff.1 h
  obtain ⟨iconProps, hprops, h⟩ := Option.bind_eq_some_iff.1 h
  obtain ⟨paths, hpaths, h⟩ := Option.bind_eq_some_iff.1 h
  obtain ⟨safelist, hsafelist, h⟩ := Option.bind_eq_some_iff.1 h
  obtain ⟨variant, hvariant, h⟩ := Option.bind_eq_some_iff.1 h
  obtain ⟨fill, hfill, h⟩ := Option.bind_eq_some_iff.1 h
  obtain ⟨grad, hgrad, h⟩ := Option.bind_eq_some_iff.1 h
  obtain ⟨opsz, hopsz, h⟩ := Option.bind_eq_some_iff.1 h
  obtain ⟨wght, hwght, ⟨⟩⟩ := Option.bind_eq_some_iff.1 h
  constructor <;> simp only [*, Option.map_some]

/-- A reader that looks at the surface of a setting only, also when it tells what is wrong. -/
def Shallow {α : Type} (read : List String → Setting → Except ReadError α) : Prop :=
  ∀ names s t, s.surface = t.surface → read names s = read names t

section Shallow

variable {α : Type} {read : List String → Setting → Except ReadError α}

/-- A reader that tells no two tables apart looks at the surface only. -/
theorem shallow_of_table (h : ∀ names origin fields,
    read names (.table origin fields) = read names (.value origin (.table []))) : Shallow read := by
  have hface : ∀ names s, read names s = read names (.value s.surface.1 s.surface.2) := by
    intro names s
    match s with
    | .value _ _ => rfl
    | .table origin fields => exact h names origin fields
  intro names s t hst
  rw [hface names s, hface names t, hst]

/-- A reader of lists takes no table, whatever its fields. -/
theorem shallow_readList (listShape itemShape : Shape) (textOf : Value → Option String) :
    Shallow (readList listShape itemShape textOf) := shallow_of_table fun _ _ _ => rfl

/-- Nor does one of paths. -/
theorem shallow_readPaths : Shallow readPaths := shallow_of_table fun _ _ _ => rfl

/-- Nor does one of scalars. -/
theorem shallow_readScalar : Shallow readScalar := shallow_of_table fun _ _ _ => rfl

/-- A setting that may be null is looked at no deeper than one that may not. -/
theorem Shallow.optional (h : Shallow read) : Shallow (readOptional read) := by
  refine shallow_of_table fun names origin fields => ?_
  have htable : read names (.table origin fields) = read names (.value origin (.table [])) :=
    h names _ _ rfl
  simp only [readOptional, htable]

/-- Settings that show the same are both missing or both there. -/
theorem missing_or_same {o o' : Option Setting}
    (h : o.map Setting.surface = o'.map Setting.surface) :
    (o = none ∧ o' = none) ∨ ∃ s t, o = some s ∧ o' = some t ∧ s.surface = t.surface := by
  match o, o' with
  | none, none => exact .inl ⟨rfl, rfl⟩
  | some s, some t => exact .inr ⟨s, t, rfl, rfl, Option.some.inj h⟩
  | none, some _ | some _, none => cases h

/-- Two lists of fields that show the same under a name are read the same there. -/
theorem Shallow.readField_congr (h : Shallow read) {name : String} {fields fields' :
    List (String × Setting)} (hsame : (lookup name fields).map Setting.surface =
      (lookup name fields').map Setting.surface) (default : α) :
    readField read name default fields = readField read name default fields' := by
  obtain ⟨hs, ht⟩ | ⟨s, t, hs, ht, hst⟩ := missing_or_same hsame
  · rw [readField, readField, hs, ht]
  · rw [readField, readField, hs, ht]
    exact h [name] s t hst

end Shallow

/-- A setting that is no table lies open at its surface. -/
theorem Setting.eq_of_surface {s t : Setting} (h : s.surface = t.surface)
    (hs : ∀ fields, s.outline ≠ .table fields) : s = t := by
  match s, t with
  | .value _ _, .value _ _ =>
    obtain ⟨⟩ := h
    rfl
  | .table _ _, _ => exact absurd rfl (hs [])
  | .value _ v, .table _ _ => exact absurd (congrArg Prod.snd h) (hs [])

/-- What reading a configuration comes to, an error and its words included, depends on what its
options show, and on what there is for the style. -/
theorem readConfiguration_eq_of_surface {fields fields' : List (String × Setting)}
    (hsame : ∀ key : Key, (lookup key.name fields).map Setting.surface =
      (lookup key.name fields').map Setting.surface)
    (hstyle : lookup Key.variant.name fields = lookup Key.variant.name fields') :
    readConfiguration readVariant fields = readConfiguration readVariant fields' := by
  have hvariant : readField (readOptional readVariant) "variant" none fields =
      readField (readOptional readVariant) "variant" none fields' := by
    rw [Key.name] at hstyle
    rw [readField, readField, hstyle]
  have hfiles := shallow_readPaths.readField_congr (hsame .files) []
  have hpaths := shallow_readPaths.optional.readField_congr (hsame .paths) none
  have hprops := (shallow_readList .list .text Value.text?).readField_congr (hsame .iconProps) []
  have hsafelist := (shallow_readList .scalars .scalar Value.scalarText?).readField_congr
    (hsame .safelist) []
  have hfill := shallow_readScalar.readField_congr (hsame .fill)
  have hgrad := shallow_readScalar.readField_congr (hsame .grad)
  have hopsz := shallow_readScalar.readField_congr (hsame .opsz)
  have hwght := shallow_readScalar.readField_congr (hsame .wght)
  simp only [Key.name] at hfiles hpaths hprops hsafelist hfill hgrad hopsz hwght
  simp only [readConfiguration, readAxes, readTexts, readScalars, hvariant, hfiles,
    hpaths, hprops, hsafelist, hfill, hgrad, hopsz, hwght]

/-- Only a table for the style can say more than what the options show. -/
theorem readConfiguration_congr {fields fields' : List (String × Setting)}
    (hsame : ∀ key : Key, (lookup key.name fields).map Setting.surface =
      (lookup key.name fields').map Setting.surface)
    (hvariant : ∀ inner, (lookup Key.variant.name fields).map Setting.outline ≠
      some (.table inner)) :
    readConfiguration readVariant fields = readConfiguration readVariant fields' := by
  refine readConfiguration_eq_of_surface hsame ?_
  obtain ⟨hs, ht⟩ | ⟨s, t, hs, ht, hst⟩ := missing_or_same (hsame .variant)
  · exact hs.trans ht.symm
  · have hopen : ∀ inner, s.outline ≠ .table inner := fun inner heq =>
      hvariant inner (by rw [hs, Option.map_some, heq])
    exact hs.trans (Setting.eq_of_surface hst hopen ▸ ht.symm)

end IconSubset.Config
