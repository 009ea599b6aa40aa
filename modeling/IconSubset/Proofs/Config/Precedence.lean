import IconSubset.CommandLine.Program
import IconSubset.Proofs.Config.Naming
import IconSubset.Proofs.Text.Bytes
import Mathlib.Data.Set.List

/-!
# Where settings come from

Each option of a run is settled by the highest layer that has it: the flags of the command line, the
variables that the file of environment variables adds, the variables of the process, the
configuration file. What lower layers say about it and what any layer says under other names counts
for nothing. When the values that count are of the right types, the settings are these values and
defaults for what is missing, unless an option that must be given is not, or an attribute has a
blank name.

The flags are laid over the other layers as texts, so a path among them that is no text fails the
run (`ScanOptions.Textual`).
-/

namespace IconSubset

open Config

namespace ScanOptions

/-- The paths among the flags are texts. -/
def Textual (o : ScanOptions) : Prop := ∀ path ∈ o.paths ++ o.files, ∃ text : String, path = text

/-- The list of texts that paths make. -/
def listedPaths (paths : List ByteString) : Option Value :=
  (paths.mapM ByteString.text?).bind listed

/-- What the flags say about an option. A list counts only when it has items. -/
def flag? (o : ScanOptions) : Key → Option Value
  | .variant => o.variant.map fun v => .string v.name
  | .paths => listedPaths o.paths
  | .files => listedPaths o.files
  | .safelist => listed o.safelist
  | .iconProps => listed o.iconProps
  | .opsz => o.opsz.map .string
  | .wght => o.wght.map .string
  | .fill => o.fill.map .string
  | .grad => o.grad.map .string

/-- A setting that is given stands under its name alone. -/
theorem lookup_given (name n : String) (v : Option Value) :
    lookup name (given n v) = if n = name then v else none := by
  match v with
  | none => exact (ite_self none).symm
  | some v => rfl

/-- A setting that is given is one field at most. -/
theorem reverse_given (n : String) (v : Option Value) : (given n v).reverse = given n v := by
  match v with
  | none => rfl
  | some v => rfl

/-- A list of texts holds no null. -/
theorem nullFree_listed {xs : List String} {v : Value} (h : listed xs = some v) : v.NullFree := by
  unfold listed at h
  split_ifs at h
  obtain ⟨⟩ := h
  refine .list fun v hv => ?_
  obtain ⟨x, -, rfl⟩ := List.mem_map.1 hv
  exact .string x

/-- Flags set nothing to null. -/
theorem nullFree_flag? {o : ScanOptions} {key : Key} {v : Value} (h : o.flag? key = some v) :
    v.NullFree := by
  have htext : ∀ text : Option String, text.map Value.string = some v → v.NullFree := by
    intro text h
    obtain ⟨x, -, rfl⟩ := Option.map_eq_some_iff.1 h
    exact .string x
  match key with
  | .variant =>
    obtain ⟨x, -, rfl⟩ := Option.map_eq_some_iff.1 h
    exact .string x.name
  | .paths | .files =>
    obtain ⟨texts, -, h⟩ := Option.bind_eq_some_iff.1 h
    exact nullFree_listed h
  | .safelist | .iconProps => exact nullFree_listed h
  | .opsz | .wght | .fill | .grad => exact htext _ h

/-- Paths are texts one by one. -/
theorem mapM_text?_eq_some_iff {paths : List ByteString} {texts : List String} :
    paths.mapM ByteString.text? = some texts ↔ paths = texts.map ByteString.ofString := by
  induction paths generalizing texts with
  | nil => cases texts <;> simp
  | cons path paths ih =>
    rw [List.mapM_cons]
    cases texts with
    | nil => simp [Option.bind_eq_some_iff]
    | cons text texts => simp [Option.bind_eq_some_iff, ByteString.text?_eq_some_iff, ih]

/-- Paths that are texts are told as these texts. -/
theorem exists_textsOf {paths : List ByteString}
    (h : ∀ path ∈ paths, ∃ text : String, path = text) :
    ∃ texts : List String, paths = texts.map ByteString.ofString ∧ textsOf paths = .ok texts := by
  obtain ⟨texts, rfl⟩ : paths ∈ Set.range (List.map ByteString.ofString) := by
    rw [Set.range_list_map]
    intro path hpath
    obtain ⟨text, rfl⟩ := h path hpath
    exact ⟨text, rfl⟩
  refine ⟨texts, rfl, ?_⟩
  rw [textsOf, mapM_text?_eq_some_iff.2 rfl]

/-- The settings of flags whose paths are texts have under the name of each option what the flags
say about it. -/
theorem exists_overrides_eq {o : ScanOptions} (h : o.Textual) :
    ∃ direct, o.overrides = .ok direct ∧ InOrder direct ∧
      (∀ field ∈ direct, field.2.NullFree) ∧ ∀ key, lookup key.name direct = o.flag? key := by
  obtain ⟨hpaths, hfiles⟩ := List.forall_mem_append.1 h
  obtain ⟨paths, hpaths, htexts⟩ := exists_textsOf hpaths
  obtain ⟨files, hfiles, htexts'⟩ := exists_textsOf hfiles
  have hlisted : listed paths = o.flag? .paths := by
    rw [flag?, listedPaths, mapM_text?_eq_some_iff.2 hpaths, Option.bind_some]
  have hlisted' : listed files = o.flag? .files := by
    rw [flag?, listedPaths, mapM_text?_eq_some_iff.2 hfiles, Option.bind_some]
  have hover : o.overrides = .ok (fieldsOf
      (given "variant" (o.flag? .variant) ++ given "paths" (o.flag? .paths) ++
        given "files" (o.flag? .files) ++ given "safelist" (o.flag? .safelist) ++
        given "icon_props" (o.flag? .iconProps) ++ given "opsz" (o.flag? .opsz) ++
        given "wght" (o.flag? .wght) ++ given "fill" (o.flag? .fill) ++
        given "grad" (o.flag? .grad))) := by
    rw [overrides, htexts, htexts', ← hlisted, ← hlisted']
    rfl
  refine ⟨_, hover, inOrder_fieldsOf _, fun field hfield => ?_, fun key => ?_⟩
  · have hgiven : ∀ (n : String) (key : Key), field ∈ given n (o.flag? key) →
        field.2.NullFree := by
      intro n key h
      obtain ⟨v, hv, rfl⟩ := Option.map_eq_some_iff.1 (Option.mem_toList.1 h)
      exact nullFree_flag? hv
    have hmem := mem_fieldsOf hfield
    simp only [List.mem_append] at hmem
    obtain (((((((h | h) | h) | h) | h) | h) | h) | h) | h := hmem
    · exact hgiven _ .variant h
    · exact hgiven _ .paths h
    · exact hgiven _ .files h
    · exact hgiven _ .safelist h
    · exact hgiven _ .iconProps h
    · exact hgiven _ .opsz h
    · exact hgiven _ .wght h
    · exact hgiven _ .fill h
    · exact hgiven _ .grad h
  · rw [lookup_fieldsOf]
    simp only [List.reverse_append, reverse_given, lookup_append, lookup_given]
    cases key <;> simp [Key.name]

/-- Flags with a path that is no text make no settings. -/
theorem overrides_of_not_textual {o : ScanOptions} (h : ¬o.Textual) :
    o.overrides = .error .pathNotText := by
  -- Paths that are told as texts are texts.
  have htexts : ∀ (paths : List ByteString) (texts : List String), textsOf paths = .ok texts →
      ∀ path ∈ paths, ∃ text : String, path = text := by
    intro paths texts htold path hpath
    unfold textsOf at htold
    split at htold
    next found hfound =>
      rw [mapM_text?_eq_some_iff.1 hfound] at hpath
      obtain ⟨text, -, rfl⟩ := List.mem_map.1 hpath
      exact ⟨text, rfl⟩
    next => cases htold
  have herror : ∀ (paths : List ByteString) (e : LayerError), textsOf paths = .error e →
      e = .pathNotText := by
    intro paths e htold
    unfold textsOf at htold
    split at htold <;> cases htold
    rfl
  unfold overrides
  match hpaths : textsOf o.paths, hfiles : textsOf o.files with
  | .error e, _ => rw [herror _ e hpaths]; rfl
  | .ok paths, .error e => rw [herror _ e hfiles]; rfl
  | .ok paths, .ok files =>
    exact absurd (List.forall_mem_append.2 ⟨htexts _ paths hpaths, htexts _ files hfiles⟩) h

/-- A configuration with what the flags say in it, word for word. -/
structure Kept (o : ScanOptions) (conf : Configuration) : Prop where
  variant : ∀ v, o.variant = some v → conf.variant = some v
  paths : o.paths ≠ [] → conf.paths = some o.paths
  files : o.files ≠ [] → conf.files = o.files
  safelist : o.safelist ≠ [] → conf.safelist = o.safelist
  iconProps : o.iconProps ≠ [] → conf.iconProps = o.iconProps
  opsz : ∀ text, o.opsz = some text → conf.axes.opsz = text
  wght : ∀ text, o.wght = some text → conf.axes.wght = text
  fill : ∀ text, o.fill = some text → conf.axes.fill = text
  grad : ∀ text, o.grad = some text → conf.axes.grad = text

end ScanOptions

/-- What loading settings comes to when the values that count stand for a configuration. -/
structure Settles (chosen : Key → Option Value) (conf : Configuration)
    (result : Except CommandError Settings) : Prop where
  /-- The style is missing exactly when no layer has it. -/
  noVariant : result = .error (.incomplete .noVariant) ↔ chosen .variant = none
  /-- Otherwise the directories are missing exactly when no layer has them. -/
  noPaths : result = .error (.incomplete .noPaths) ↔
    chosen .variant ≠ none ∧ chosen .paths = none
  /-- Otherwise a blank name of an attribute is refused, and the first such name is told. -/
  blankProp : ∀ index, result = .error (.incomplete (.blankProp index)) ↔
    chosen .variant ≠ none ∧ chosen .paths ≠ none ∧ ∃ h : index < conf.iconProps.length,
      Text.isBlankText conf.iconProps[index] = true ∧
        ∀ i (hi : i < index), Text.isBlankText conf.iconProps[i] = false
  /-- Otherwise there are settings, and they are what the configuration says. -/
  ok : ∀ s, result = .ok s ↔
    conf = { variant := some s.variant, paths := some s.paths, files := s.files,
             safelist := s.safelist, iconProps := s.iconProps, axes := s.axes } ∧
      ∀ name ∈ s.iconProps, Text.isBlankText name = false

namespace CommandLine

/-- What counts for an option: what the flags say, else the added variables, else the variables of
the process, else the configuration file. -/
def source? (c : CommandLine) (w : World) (file : List (String × Setting)) (key : Key) :
    Option Setting :=
  ((c.command.options.flag? key).map (Setting.of .code)).or
    (((fileVariables w.files w.environment).setting? key.name).or
      ((w.environment.setting? key.name).or (lookup key.name file)))

/-- The value that counts for an option. -/
def chosen (c : CommandLine) (w : World) (file : List (String × Setting)) (key : Key) :
    Option Value :=
  (c.source? w file key).map Setting.outline

/-- What shows tells the value. -/
theorem map_outline (o : Option Setting) :
    o.map Setting.outline = (o.map Setting.surface).map Prod.snd := by
  rw [Option.map_map]
  rfl

/-- Settings are read from fields that show, for each option, what counts. -/
theorem exists_fields {c : CommandLine} (htexts : c.command.options.Textual) (w : World)
    {file : List (String × Setting)} (hfile : fileLayer w.files c.config = .ok file) :
    ∃ fields : List (String × Setting),
      (∀ key : Key, (lookup key.name fields).map Setting.surface =
        (c.source? w file key).map Setting.surface) ∧
      (readConfiguration readVariant fields).toOption = configuration? (c.chosen w file) ∧
      c.settings w = match readConfiguration readVariant fields with
        | .error e => .error (.unloadable [.unfit e])
        | .ok conf => conf.settings.mapError .incomplete := by
  obtain ⟨direct, hover, horder, hfree, hflag⟩ := ScanOptions.exists_overrides_eq htexts
  obtain ⟨fields, hlayers, hfields, hshow⟩ :=
    surface_lookup_layers w.environment hfile horder hfree
  have hsame : ∀ key : Key, (lookup key.name fields).map Setting.surface =
      (c.source? w file key).map Setting.surface := by
    intro key
    rw [hshow, hflag]
    rfl
  have hvalues : (fun key : Key => (lookup key.name fields).map Setting.outline) =
      c.chosen w file := by
    funext key
    rw [chosen, map_outline, map_outline, hsame]
  refine ⟨fields, hsame, hvalues ▸ toOption_readConfiguration hfields, ?_⟩
  have hload : loadUnder w.files (fullEnvironment w.files w.environment) c.config
      (c.command.options.overrides.map (settingsOf .code)) =
        (readConfiguration readVariant fields).mapError fun e => [LayerError.unfit e] := by
    rw [hover, loadUnder, Except.map, hlayers]
    rfl
  rw [settings, hload]
  cases readConfiguration readVariant fields <;> rfl

/-- A list of texts is read back as it was written. -/
theorem mapM_string {textOf : Value → Option String} (h : ∀ x, textOf (.string x) = some x)
    (xs : List String) : (xs.map Value.string).mapM textOf = some xs := by
  induction xs with
  | nil => rfl
  | cons x rest ih =>
    rw [List.map_cons, List.mapM_cons, ih, h]
    rfl

/-- What the flags say arrives word for word. -/
theorem kept_of_readsFrom {c : CommandLine} (htexts : c.command.options.Textual) {w : World}
    {file : List (String × Setting)} {conf : Configuration}
    (h : ReadsFrom (c.chosen w file) conf) : c.command.options.Kept conf := by
  obtain ⟨hpaths, hfiles⟩ := List.forall_mem_append.1 htexts
  -- nothing lies over the flags
  have hflag : ∀ (key : Key) (v : Value), c.command.options.flag? key = some v →
      c.chosen w file key = some (Setting.of .code v).outline := by
    intro key v hv
    rw [chosen, source?, hv]
    rfl
  have htext : ∀ (key : Key) (given : Option String) (default text out : String),
      c.command.options.flag? key = given.map .string → given = some text →
      ((c.chosen w file key).mapM Value.scalarText?).map (·.getD default) = some out →
      out = text := by
    intro key given default text out hkey hgiven hout
    rw [hflag key (.string text) (by rw [hkey, hgiven]; rfl)] at hout
    exact (Option.some.inj hout).symm
  have hlist : ∀ (key : Key) (xs : List String) (textOf : Value → Option String),
      c.command.options.flag? key = ScanOptions.listed xs →
      (∀ x, textOf (.string x) = some x) → xs ≠ [] →
      (c.chosen w file key).mapM (Value.texts? textOf) = some (some xs) := by
    intro key xs textOf hkey hread hxs
    have hlisted : ScanOptions.listed xs = some (.list (xs.map .string)) :=
      if_neg (by rwa [List.isEmpty_iff])
    rw [hflag key _ (hkey.trans hlisted), Option.mapM_some]
    exact congrArg (Option.map some) (mapM_string hread xs)
  have hpathList : ∀ (key : Key) (xs : List ByteString),
      c.command.options.flag? key = ScanOptions.listedPaths xs →
      (∀ path ∈ xs, ∃ text : String, path = text) → xs ≠ [] →
      (c.chosen w file key).mapM Value.paths? = some (some xs) := by
    intro key xs hkey htexts hxs
    obtain ⟨texts, rfl, -⟩ := ScanOptions.exists_textsOf htexts
    rw [ScanOptions.listedPaths, ScanOptions.mapM_text?_eq_some_iff.2 rfl, Option.bind_some] at hkey
    have hread := hlist key texts Value.text? hkey (fun _ => rfl) (mt List.map_eq_nil_iff.2 hxs)
    obtain ⟨v, hv, htext⟩ : ∃ v, c.chosen w file key = some v ∧
        v.texts? Value.text? = some texts := by
      cases hv : c.chosen w file key with
      | none => rw [hv] at hread; cases hread
      | some v =>
        rw [hv, Option.mapM_some] at hread
        obtain ⟨found, hfound, heq⟩ := Option.map_eq_some_iff.1 hread
        exact ⟨v, rfl, hfound.trans heq⟩
    rw [hv, Option.mapM_some, Value.paths?, htext]
    rfl
  refine
    { variant := fun v hv => ?_
      paths := fun hne => ?_
      files := fun hne => ?_
      safelist := fun hne => ?_
      iconProps := fun hne => ?_
      opsz := fun text heq => htext .opsz _ _ text _ rfl heq h.opsz
      wght := fun text heq => htext .wght _ _ text _ rfl heq h.wght
      fill := fun text heq => htext .fill _ _ text _ rfl heq h.fill
      grad := fun text heq => htext .grad _ _ text _ rfl heq h.grad }
  · have hread := h.variant
    have hname : Variant.ofName? v.name = some v := by cases v <;> decide
    have hv : c.command.options.flag? .variant = some (.string v.name) := by
      rw [ScanOptions.flag?, hv, Option.map_some]
    rw [hflag .variant _ hv, Option.mapM_some] at hread
    exact (Option.some.inj ((congrArg (Option.map some) hname).symm.trans hread)).symm
  · have hread := h.paths
    rw [hpathList .paths _ rfl hpaths hne] at hread
    exact (Option.some.inj hread).symm
  · have hread := h.files
    rw [hpathList .files _ rfl hfiles hne] at hread
    exact (Option.some.inj hread).symm
  · have hread := h.safelist
    rw [hlist .safelist _ _ rfl (fun _ => rfl) hne] at hread
    exact (Option.some.inj hread).symm
  · have hread := h.iconProps
    rw [hlist .iconProps _ _ rfl (fun _ => rfl) hne] at hread
    exact (Option.some.inj hread).symm

/-- What becomes of a configuration: the first thing that is wrong with it is told, or the settings
in it are given. -/
theorem settings_cases (conf : Configuration) :
    (conf.variant = none ∧ conf.settings = .error .noVariant) ∨
      (conf.variant ≠ none ∧ conf.paths = none ∧ conf.settings = .error .noPaths) ∨
      (conf.variant ≠ none ∧ conf.paths ≠ none ∧ ∃ index,
        conf.iconProps.findIdx? Text.isBlankText = some index ∧
          conf.settings = .error (.blankProp index)) ∨
      ∃ s : Settings, conf.iconProps.findIdx? Text.isBlankText = none ∧ conf.settings = .ok s ∧
        conf = { variant := some s.variant, paths := some s.paths, files := s.files,
                 safelist := s.safelist, iconProps := s.iconProps, axes := s.axes } := by
  obtain ⟨variant, paths, files, safelist, iconProps, axes⟩ := conf
  match variant, paths with
  | none, _ => exact .inl ⟨rfl, rfl⟩
  | some _, none => exact .inr (.inl ⟨by simp, rfl, rfl⟩)
  | some variant, some paths =>
    match hblank : iconProps.findIdx? Text.isBlankText with
    | some index =>
      refine .inr (.inr (.inl ⟨by simp, by simp, index, rfl, ?_⟩))
      simp only [Configuration.settings, hblank]
    | none =>
      refine .inr (.inr (.inr
        ⟨{ variant, paths, files, safelist, iconProps, axes }, rfl, ?_, rfl⟩))
      simp only [Configuration.settings, hblank]

/-- A gap is told as what it is. -/
theorem mapError_incomplete_eq_error {α : Type} (x : Except ConfigurationGap α)
    (gap : ConfigurationGap) :
    x.mapError CommandError.incomplete = .error (.incomplete gap) ↔ x = .error gap := by
  match x with
  | .ok _ => exact ⟨nofun, nofun⟩
  | .error found => simp only [Except.mapError, Except.error.injEq, CommandError.incomplete.injEq]

/-- Where there is no gap nothing changes. -/
theorem mapError_incomplete_eq_ok {α : Type} (x : Except ConfigurationGap α) (a : α) :
    x.mapError CommandError.incomplete = .ok a ↔ x = .ok a := by
  match x with
  | .ok _ => simp only [Except.mapError, Except.ok.injEq]
  | .error found => exact ⟨nofun, nofun⟩

/-- A value that may be missing is missing exactly when nothing was read from it. -/
theorem eq_none_of_mapM {α β : Type} {f : α → Option β} {o : Option α} {read : Option β}
    (h : o.mapM f = some read) : o = none ↔ read = none := by
  match o with
  | none =>
    obtain ⟨⟩ := h
    exact ⟨fun _ => rfl, fun _ => rfl⟩
  | some v =>
    rw [Option.mapM_some] at h
    obtain ⟨b, -, rfl⟩ := Option.map_eq_some_iff.1 h
    exact ⟨nofun, nofun⟩

/-- A configuration with or without what must be given settles a run. -/
theorem settles_of_readsFrom {chosen : Key → Option Value} {conf : Configuration}
    (h : ReadsFrom chosen conf) : Settles chosen conf (conf.settings.mapError .incomplete) := by
  have hvariant : chosen .variant = none ↔ conf.variant = none := eq_none_of_mapM h.variant
  have hpaths : chosen .paths = none ↔ conf.paths = none := eq_none_of_mapM h.paths
  have hblank : ∀ index, (∃ h : index < conf.iconProps.length,
      Text.isBlankText conf.iconProps[index] = true ∧
        ∀ i (hi : i < index), Text.isBlankText conf.iconProps[i] = false) ↔
      conf.iconProps.findIdx? Text.isBlankText = some index := by
    intro index
    simp only [List.findIdx?_eq_some_iff_getElem, Bool.not_eq_true]
  -- each of the four outcomes decides what the statements below say of it
  have hcases := settings_cases conf
  constructor
  · rw [mapError_incomplete_eq_error, hvariant]
    obtain ⟨hv, hr⟩ | ⟨hv, -, hr⟩ | ⟨hv, -, i, -, hr⟩ | ⟨s, -, hr, rfl⟩ := hcases <;>
      rw [hr] <;> simp [*]
  · simp only [mapError_incomplete_eq_error, ne_eq, hvariant, hpaths]
    obtain ⟨hv, hr⟩ | ⟨hv, hp, hr⟩ | ⟨hv, hp, i, -, hr⟩ | ⟨s, -, hr, rfl⟩ := hcases <;>
      rw [hr] <;> simp [*]
  · intro index
    simp only [mapError_incomplete_eq_error, ne_eq, hvariant, hpaths, hblank]
    obtain ⟨hv, hr⟩ | ⟨hv, hp, hr⟩ | ⟨hv, hp, i, hi, hr⟩ | ⟨s, hi, hr, rfl⟩ := hcases <;>
      rw [hr] <;> simp [*]
  · intro s
    rw [mapError_incomplete_eq_ok]
    obtain ⟨hv, hr⟩ | ⟨-, hp, hr⟩ | ⟨-, -, i, hi, hr⟩ | ⟨found, hi, hr, rfl⟩ := hcases
    · rw [hr]
      exact ⟨nofun, by rintro ⟨rfl, -⟩; cases hv⟩
    · rw [hr]
      exact ⟨nofun, by rintro ⟨rfl, -⟩; cases hp⟩
    · rw [hr]
      refine ⟨nofun, ?_⟩
      rintro ⟨rfl, hfree⟩
      rw [List.findIdx?_eq_none_iff.2 hfree] at hi
      cases hi
    · rw [hr]
      constructor
      · rintro ⟨⟩
        exact ⟨rfl, List.findIdx?_eq_none_iff.1 hi⟩
      · rintro ⟨heq, -⟩
        obtain ⟨variant, paths, files, safelist, iconProps, axes⟩ := s
        obtain ⟨⟩ := heq
        rfl

/-- Values of the right types settle a run. -/
theorem settings_of_configuration? {c : CommandLine} (htexts : c.command.options.Textual)
    {w : World} {file : List (String × Setting)} (hfile : fileLayer w.files c.config = .ok file)
    {conf : Configuration}
    (hconf : configuration? (c.chosen w file) = some conf) :
    c.settings w = conf.settings.mapError .incomplete := by
  obtain ⟨fields, -, hread, hsettings⟩ := exists_fields htexts w hfile
  match hresult : readConfiguration readVariant fields with
  | .ok found =>
    rw [hresult, hconf] at hread
    rw [hsettings, hresult, Option.some.inj hread]
  | .error e =>
    rw [hresult, hconf] at hread
    cases hread

/-- A value of a wrong type does not. -/
theorem settings_of_configuration?_none {c : CommandLine} (htexts : c.command.options.Textual)
    {w : World} {file : List (String × Setting)} (hfile : fileLayer w.files c.config = .ok file)
    (hnone : configuration? (c.chosen w file) = none) :
    ∃ e, c.settings w = .error (.unloadable [.unfit e]) := by
  obtain ⟨fields, -, hread, hsettings⟩ := exists_fields htexts w hfile
  match hresult : readConfiguration readVariant fields with
  | .ok found =>
    rw [hresult, hnone] at hread
    cases hread
  | .error e =>
    rw [hsettings, hresult]
    exact ⟨e, rfl⟩

/-- Runs for which the same counts come to the same, unless a table counts for the style. -/
theorem settings_congr {c c' : CommandLine} (htexts : c.command.options.Textual)
    (htexts' : c'.command.options.Textual) {w w' : World} {file file' : List (String × Setting)}
    (hfile : fileLayer w.files c.config = .ok file)
    (hfile' : fileLayer w'.files c'.config = .ok file')
    (hshow : ∀ key, (c'.source? w' file' key).map Setting.surface =
      (c.source? w file key).map Setting.surface)
    (hvariant : ∀ inner, c.chosen w file .variant ≠ some (.table inner)) :
    c'.settings w' = c.settings w := by
  obtain ⟨fields, hsame, -, hsettings⟩ := exists_fields htexts w hfile
  obtain ⟨fields', hsame', -, hsettings'⟩ := exists_fields htexts' w' hfile'
  have heq : readConfiguration readVariant fields = readConfiguration readVariant fields' := by
    refine readConfiguration_congr (fun key => ?_) fun inner => ?_
    · rw [hsame, hsame', hshow]
    · rw [map_outline, hsame, ← map_outline]
      exact hvariant inner
  rw [hsettings, hsettings', heq]

/-- Flags with a path that is no text fail the run, whatever else is given; when the configuration
file cannot be used either, both are told. -/
theorem settings_of_not_textual {c : CommandLine} (h : ¬c.command.options.Textual) (w : World) :
    c.settings w = .error (.unloadable (.pathNotText :: match fileLayer w.files c.config with
      | .ok _ => []
      | .error e => [e])) := by
  have hlayers : ∀ environment, layers w.files environment c.config (.error .pathNotText) =
      .error (.pathNotText :: match fileLayer w.files c.config with
        | .ok _ => []
        | .error e => [e]) := by
    intro environment
    unfold layers
    cases fileLayer w.files c.config <;> rfl
  rw [settings, ScanOptions.overrides_of_not_textual h, loadUnder, Except.map, hlayers]
  rfl

/-- Each option is settled by the highest layer that has it: the flags, the variables that a file
adds (none of which has the name of a variable of the process), the variables of the process, the
configuration file. A variable sets an option by its name, whatever the case. A path among the flags
that is no text fails the run, and so does a configuration file that cannot be used. With one that
can, values of the right types settle the run as `Settles` says, with what the flags say in it word
for word, and a value of a wrong type fails it. Nothing else counts: runs for which the same counts
come to the same. Only a table for the style, which never is of the right type, may be told in
different words. -/
theorem settings_layered (c : CommandLine) (w : World) :
    fullEnvironment w.files w.environment =
        w.environment ++ fileVariables w.files w.environment ∧
      (∀ var ∈ fileVariables w.files w.environment, w.environment.get? var.1 = none) ∧
      (∀ (key : Key) (var : String × String), Text.lowerAscii var.1 = "glyphset_" ++ key.name →
        Environment.settingOf? key.name var =
          some (Setting.of .environment (Variable.read var.2))) ∧
      (¬c.command.options.Textual → c.settings w = .error (.unloadable
        (.pathNotText :: match fileLayer w.files c.config with
          | .ok _ => []
          | .error e => [e]))) ∧
      (c.command.options.Textual →
        (∀ e, fileLayer w.files c.config = .error e → c.settings w = .error (.unloadable [e])) ∧
        ∀ file, fileLayer w.files c.config = .ok file →
          (∀ conf, configuration? (c.chosen w file) = some conf →
            Settles (c.chosen w file) conf (c.settings w) ∧ c.command.options.Kept conf) ∧
          (configuration? (c.chosen w file) = none →
            ∃ e, c.settings w = .error (.unloadable [.unfit e])) ∧
          ∀ (c' : CommandLine) (w' : World) (file' : List (String × Setting)),
            c'.command.options.Textual → fileLayer w'.files c'.config = .ok file' →
            (∀ key, (c'.source? w' file' key).map Setting.surface =
              (c.source? w file key).map Setting.surface) →
            (∀ inner, c.chosen w file .variant ≠ some (.table inner)) →
            c'.settings w' = c.settings w) := by
  obtain ⟨hfull, hadded⟩ := fullEnvironment_eq w.files w.environment
  refine ⟨hfull, hadded, Environment.settingOf?_of_lowerAscii, fun h => settings_of_not_textual h w,
    fun htexts => ⟨fun e he => ?_, fun file hfile => ⟨fun conf hconf => ?_, ?_, ?_⟩⟩⟩
  · obtain ⟨direct, hover, -⟩ := ScanOptions.exists_overrides_eq htexts
    have hlayers : layers w.files (fullEnvironment w.files w.environment) c.config
        (.ok (settingsOf .code direct)) = .error [e] := by
      unfold layers
      rw [he]
    rw [settings, hover, loadUnder, Except.map, hlayers]
    rfl
  · have hfrom : ReadsFrom (c.chosen w file) conf := readsFrom_of_configuration? hconf
    rw [settings_of_configuration? htexts hfile hconf]
    exact ⟨settles_of_readsFrom hfrom, kept_of_readsFrom htexts hfrom⟩
  · exact settings_of_configuration?_none htexts hfile
  · exact fun c' w' file' htexts' hfile' => settings_congr htexts htexts' hfile hfile'

/-- A project whose configuration file has a style that is no style, and directories that the
process sets too. The file of environment variables sets those once more, and something of its
own. -/
def shadowed : World where
  files := .directory [(".env", .file (.text "GLYPHSET_PATHS=[old]\nGLYPHSET_FILL=1\n")),
    ("glyphset.toml", .file (.text "variant = 5\npaths = [\"lib\"]\nicon_props = [\"icon\"]\n"))]
  environment := [("GLYPHSET_PATHS", "[app, web]")]

/-- A scan for the sharp style. -/
def sharpScan : CommandLine where
  command := .scan { variant := some .sharp }

/-- Each of the four layers counts for one option, and what is shadowed does no harm. -/
theorem settings_shadowed : sharpScan.settings shadowed = .ok
    { variant := .sharp, paths := ["app", "web"], iconProps := ["icon"],
      axes := { fill := "1" } } := by
  have htexts : sharpScan.command.options.Textual := fun _ h => absurd h List.not_mem_nil
  obtain ⟨-, -, -, -, htextual⟩ := settings_layered sharpScan shadowed
  obtain ⟨-, hlayered⟩ := htextual htexts
  have hfile : fileLayer shadowed.files sharpScan.config = .ok
      [("icon_props", .value (.file "glyphset.toml") (.list [.string "icon"])),
        ("paths", .value (.file "glyphset.toml") (.list [.string "lib"])),
        ("variant", .value (.file "glyphset.toml") (.signed 5))] := by
    cbv
  obtain ⟨htyped, -, -⟩ := hlayered _ hfile
  obtain ⟨hsettles, -⟩ := htyped
    { variant := some .sharp, paths := some ["app", "web"], iconProps := ["icon"],
      axes := { fill := "1" } } (by cbv)
  exact (hsettles.ok _).2 ⟨rfl, List.forall_mem_singleton.2 (by cbv)⟩

/-- A project whose file of environment variables and whose process set the weight of the font,
under names that differ in case. -/
def twoNames : World where
  files := .directory [(".env", .file (.text "glyphset_wght=300\n")),
    ("glyphset.toml", .file (.text "variant = \"sharp\"\nsafelist = [\"home\"]\n"))]
  environment := [("GLYPHSET_WGHT", "500")]

/-- A scan of `src` for the rounded style. -/
def roundedScan : CommandLine where
  command := .scan { paths := ["src"], variant := some .rounded }

/-- The weight in the file counts, though the process sets it too and no flag does. -/
theorem settings_twoNames :
    roundedScan.command.options.flag? .wght = none ∧
      twoNames.environment.setting? "wght" = some (.value .environment (.unsigned 500)) ∧
      fileVariables twoNames.files twoNames.environment = [("glyphset_wght", "300")] ∧
      roundedScan.settings twoNames = .ok
        { variant := .rounded, paths := ["src"], safelist := ["home"],
          axes := { wght := "300" } } := by
  refine ⟨rfl, by cbv, by cbv, ?_⟩
  have hfile : fileLayer twoNames.files roundedScan.config = .ok
      [("safelist", .value (.file "glyphset.toml") (.list [.string "home"])),
        ("variant", .value (.file "glyphset.toml") (.string "sharp"))] := by
    cbv
  have htexts : roundedScan.command.options.Textual := List.forall_mem_singleton.2 ⟨"src", rfl⟩
  have hsettings : roundedScan.settings twoNames = Except.mapError CommandError.incomplete
      (Configuration.settings
        { variant := some .rounded, paths := some ["src"], safelist := ["home"],
          axes := { wght := "300" } }) :=
    settings_of_configuration? htexts hfile (by cbv)
  rw [hsettings]
  cbv

end CommandLine

end IconSubset
