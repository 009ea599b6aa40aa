import IconSubset.Proofs.Config.Independence
import IconSubset.Proofs.Config.ListText
import IconSubset.Proofs.Config.Naming
import IconSubset.Proofs.Config.Numerals

/-!
# Numbers for options that are texts

The ranges of the font and the icons to keep are texts, and environment variables may set them to
numbers. What a variable says about an option arrives there and changes nothing else (`load_axis`,
`load_safelist`): under the names of other options nothing of it is found, and under its own name
the last variable shows. Which text arrives for a number, and when it is the one that was given, is
said for all numbers in `load_numeral`.
-/

namespace IconSubset.Config

/-! ## One variable -/

namespace Environment

/-- A variable that sets an option, and none after it does. -/
structure SetsLast (key : Key) (name : String) (after : Environment) : Prop where
  /-- The name of the variable, in any case. -/
  name : Text.lowerAscii name = "glyphset_" ++ key.name
  /-- The variables after it do not set the option. -/
  last : setting? key.name after = none

variable {key : Key} {name : String} {before after : Environment}

/-- A variable for one option says nothing about another. -/
theorem settingOf?_other (h : Text.lowerAscii name = "glyphset_" ++ key.name) {other : Key}
    (hne : other ≠ key) (text : String) : settingOf? other.name (name, text) = none := by
  have hname : key.name ≠ other.name := by
    revert hne
    cases key <;> cases other <;> decide
  rw [settingOf?, ← settingNames?_lowerAscii, h, settingNames?_key]
  exact if_neg hname

/-- Under the names of other options a variable leaves everything as it is. -/
theorem lookup_settings_other (h : Text.lowerAscii name = "glyphset_" ++ key.name) {other : Key}
    (hne : other ≠ key) (text text' : String) :
    lookup other.name (before ++ (name, text) :: after : Environment).settings =
      lookup other.name (before ++ (name, text') :: after : Environment).settings := by
  have hrun : ∀ start start' : List (String × Setting),
      lookup other.name start = lookup other.name start' →
      lookup other.name (after.foldl
          (fun earlier var => overlay earlier (settingsOfVariable var.1 var.2)) start) =
        lookup other.name (after.foldl
          (fun earlier var => overlay earlier (settingsOfVariable var.1 var.2)) start') := by
    induction after with
    | nil => exact fun start start' hstart => hstart
    | cons var rest ih =>
      intro start start' hstart
      have hvar := inOrder_settingsOfVariable var
      exact ih _ _ (lookup_overlay_congr hvar hvar hstart rfl)
  rw [settings, settings, List.foldl_append, List.foldl_append, List.foldl_cons, List.foldl_cons]
  refine hrun _ _ (lookup_overlay_congr (inOrder_settingsOfVariable (name, text))
    (inOrder_settingsOfVariable (name, text')) rfl ?_)
  rw [lookup_settingsOfVariable other.name (name, text), settingOf?_other h hne,
    lookup_settingsOfVariable other.name (name, text'), settingOf?_other h hne]

/-- Under the name of its option the last variable for it shows. -/
theorem surface_lookup_settings_last (h : SetsLast key name after) (text : String) :
    (lookup key.name (before ++ (name, text) :: after : Environment).settings).map
        Setting.surface =
      some (Setting.of .environment (Variable.read text)).surface := by
  have hvar := settingOf?_of_lowerAscii key (name, text) h.name
  rw [surface_lookup_settings, setting?_append, ← List.singleton_append, setting?_append, h.last,
    setting?_singleton, hvar]
  rfl

end Environment

/-! ## Options that are read -/

section Reading

variable {α : Type} {fields fields' : List (String × Setting)}

/-- A setting is read from what stands under its name. -/
theorem readField_congr {name : String} (h : lookup name fields = lookup name fields')
    (read : List String → Setting → Except ReadError α) (default : α) :
    readField read name default fields = readField read name default fields' := by
  rw [readField, readField, h]

/-- The ranges of the font. -/
inductive Axis where
  | opsz
  | wght
  | fill
  | grad
deriving DecidableEq, Repr

/-- The option for a range. -/
def Axis.key : Axis → Key
  | opsz => .opsz
  | wght => .wght
  | fill => .fill
  | grad => .grad

/-- Ranges with another text for one of them. -/
def Axis.putAxes (text : String) (axes : FontAxes) : Axis → FontAxes
  | opsz => { axes with opsz := text }
  | wght => { axes with wght := text }
  | fill => { axes with fill := text }
  | grad => { axes with grad := text }

/-- A configuration with another text for a range. -/
def Axis.put (axis : Axis) (text : String) (conf : Configuration) : Configuration :=
  { conf with axes := axis.putAxes text conf.axes }

/-- Where only the text for a range differs, the ranges differ in it only, and what is wrong is the
same. -/
theorem readAxes_axis (axis : Axis) {text text' : String}
    (hother : ∀ key : Key, key ≠ axis.key → lookup key.name fields = lookup key.name fields')
    (htext : ∀ default, readField readScalar axis.key.name default fields = .ok text)
    (htext' : ∀ default, readField readScalar axis.key.name default fields' = .ok text') :
    readAxes fields = (readAxes fields').map fun axes => axis.putAxes text axes := by
  have hscalar : ∀ key : Key, key ≠ axis.key → ∀ default,
      readField readScalar key.name default fields =
        readField readScalar key.name default fields' :=
    fun key hne default => readField_congr (hother key hne) readScalar default
  have hopsz := hscalar .opsz
  have hwght := hscalar .wght
  have hfill := hscalar .fill
  have hgrad := hscalar .grad
  show readAxes fields = (fun axes => axis.putAxes text axes) <$> readAxes fields'
  unfold readAxes
  simp only [map_bind, map_pure]
  cases axis
  all_goals
    simp only [Axis.key, Key.name, ne_eq, reduceCtorEq, not_false_eq_true, not_true_eq_false,
      forall_true_left, IsEmpty.forall_iff] at hopsz hwght hfill hgrad htext htext'
    simp only [*]
    rfl

/-- Where only the text for a range differs, the configurations differ in it only, and what is wrong
is the same. -/
theorem readConfiguration_axis (axis : Axis) {text text' : String}
    (hother : ∀ key : Key, key ≠ axis.key → lookup key.name fields = lookup key.name fields')
    (htext : ∀ default, readField readScalar axis.key.name default fields = .ok text)
    (htext' : ∀ default, readField readScalar axis.key.name default fields' = .ok text') :
    readConfiguration readVariant fields =
      (readConfiguration readVariant fields').map (axis.put text) := by
  have hfiles := readField_congr (hother .files (by cases axis <;> decide)) readPaths []
  have hprops := readField_congr (hother .iconProps (by cases axis <;> decide)) readTexts []
  have hpaths := readField_congr (hother .paths (by cases axis <;> decide))
    (readOptional readPaths) none
  have hsafelist := readField_congr (hother .safelist (by cases axis <;> decide)) readScalars []
  have hvariant := readField_congr (hother .variant (by cases axis <;> decide))
    (readOptional readVariant) none
  have haxes := readAxes_axis axis hother htext htext'
  simp only [Key.name] at hfiles hprops hpaths hsafelist hvariant
  show _ = axis.put text <$> readConfiguration readVariant fields'
  unfold readConfiguration
  simp only [hfiles, hprops, hpaths, hsafelist, hvariant, haxes, map_bind, map_pure]
  cases readAxes fields' <;> rfl

/-- Where only the icons to keep differ, the configurations differ in them only, and what is wrong
is the same. -/
theorem readConfiguration_safelist {texts texts' : List String}
    (hother : ∀ key : Key, key ≠ .safelist → lookup key.name fields = lookup key.name fields')
    (htexts : readField readScalars "safelist" [] fields = .ok texts)
    (htexts' : readField readScalars "safelist" [] fields' = .ok texts') :
    readConfiguration readVariant fields =
      (readConfiguration readVariant fields').map fun conf => { conf with safelist := texts } := by
  have hfiles := readField_congr (hother .files (by decide)) readPaths []
  have hprops := readField_congr (hother .iconProps (by decide)) readTexts []
  have hpaths := readField_congr (hother .paths (by decide)) (readOptional readPaths) none
  have hvariant := readField_congr (hother .variant (by decide)) (readOptional readVariant) none
  have haxes : readAxes fields = readAxes fields' := by
    have hscalar : ∀ key : Key, key ≠ .safelist → ∀ default,
        readField readScalar key.name default fields =
          readField readScalar key.name default fields' :=
      fun key hne default => readField_congr (hother key hne) readScalar default
    have hopsz := hscalar .opsz (by decide)
    have hwght := hscalar .wght (by decide)
    have hfill := hscalar .fill (by decide)
    have hgrad := hscalar .grad (by decide)
    simp only [Key.name] at hopsz hwght hfill hgrad
    unfold readAxes
    simp only [hopsz, hwght, hfill, hgrad]
  simp only [Key.name] at hfiles hprops hpaths hvariant
  show _ = (fun conf : Configuration => { conf with safelist := texts }) <$>
    readConfiguration readVariant fields'
  unfold readConfiguration
  simp only [hfiles, hprops, hpaths, htexts, htexts', hvariant, haxes, map_bind, map_pure]
  rfl

/-- A range is read from a value that stands for a text. -/
theorem readField_readScalar {name text : String} {s : Setting}
    (hs : s.outline.scalarText? = some text)
    (h : (lookup name fields).map Setting.surface = some s.surface) (default : String) :
    readField readScalar name default fields = .ok text := by
  obtain ⟨found, hfound, hsurface⟩ := Option.map_eq_some_iff.1 h
  have houtline : found.outline = s.outline := congrArg Prod.snd hsurface
  rw [readField, hfound]
  dsimp only
  rw [readScalar, houtline, hs]

/-- Texts are read from a list of values that stand for them. -/
theorem readField_readScalars {name : String} {vs : List Value} {texts : List String}
    (hvs : List.Forall₂ (fun v text => Value.scalarText? v = some text) vs texts) {origin : Origin}
    (h : (lookup name fields).map Setting.surface = some (origin, .list vs))
    (default : List String) :
    readField readScalars name default fields = .ok texts := by
  have hitems : ∀ index,
      readItems [name] origin .scalar Value.scalarText? index vs = .ok texts := by
    clear h
    induction hvs with
    | nil => exact fun index => rfl
    | cons hv _ ih =>
      intro index
      rw [readItems, hv]
      dsimp only
      rw [ih]
      rfl
  obtain ⟨found, hfound, hsurface⟩ := Option.map_eq_some_iff.1 h
  obtain rfl : found = .value origin (.list vs) :=
    Setting.eq_of_surface hsurface fun inner hinner => by
      have hlist : found.outline = .list vs := congrArg Prod.snd hsurface
      rw [hlist] at hinner
      cases hinner
  rw [readField, hfound]
  exact hitems 0

end Reading

/-! ## Loading -/

section Loading

variable {name : String} {before after : Environment}

/-- Where two texts of a variable make configurations that differ by a change, so do the results of
loading. -/
theorem load_map {key : Key} (h : Environment.SetsLast key name after) {text text' : String}
    {change : Configuration → Configuration}
    (hread : ∀ fields fields' : List (String × Setting),
      (∀ other : Key, other ≠ key → lookup other.name fields = lookup other.name fields') →
      (lookup key.name fields).map Setting.surface =
        some (Setting.of .environment (Variable.read text)).surface →
      (lookup key.name fields').map Setting.surface =
        some (Setting.of .environment (Variable.read text')).surface →
      readConfiguration readVariant fields = (readConfiguration readVariant fields').map change)
    (tree : Entry) (configFile : Option ByteString) :
    load tree (before ++ (name, text) :: after) configFile none =
      (load tree (before ++ (name, text') :: after) configFile none).map change := by
  unfold load loadUnder layers
  cases fileLayer tree configFile with
  | error e => rfl
  | ok file =>
    have hshow : ∀ text, (lookup key.name
          (overlay file (before ++ (name, text) :: after : Environment).settings)).map
            Setting.surface =
        some (Setting.of .environment (Variable.read text)).surface := by
      intro text
      rw [surface_lookup_overlay _ _ (Environment.inOrder_settings _), Option.map_or,
        Environment.surface_lookup_settings_last h text]
      rfl
    have hfields := hread _ _ (fun other hne => lookup_overlay_congr
      (Environment.inOrder_settings _) (Environment.inOrder_settings _) rfl
      (Environment.lookup_settings_other h.name hne text text')) (hshow text) (hshow text')
    have hcommute : ∀ result : Except ReadError Configuration,
        (result.map change).mapError (fun error => [LayerError.unfit error]) =
          (result.mapError fun error => [LayerError.unfit error]).map change := by
      intro result
      cases result <;> rfl
    exact (congrArg (Except.mapError fun error => [LayerError.unfit error]) hfields).trans
      (hcommute _)

/-- A text for a range arrives there, and changes nothing else. -/
theorem load_axis (axis : Axis) (h : Environment.SetsLast axis.key name after)
    {text arrived : String}
    (hread : (Variable.read text).scalarText? = some arrived) (tree : Entry)
    (configFile : Option ByteString) :
    load tree (before ++ (name, text) :: after) configFile none =
      (load tree (before ++ (name, "") :: after) configFile none).map (axis.put arrived) := by
  refine load_map h (fun fields fields' hother hshow hshow' => ?_) tree configFile
  have houtline : ∀ {v : Value} {text : String}, v.scalarText? = some text →
      (Setting.of .environment v).outline.scalarText? = some text := by
    intro v text hv
    cases v <;> exact hv
  have hempty : (Variable.read "").scalarText? = some "" := by decide
  exact readConfiguration_axis axis hother (readField_readScalar (houtline hread) hshow)
    (readField_readScalar (houtline hempty) hshow')

/-- A list of entries that stand for texts arrives as these texts, and changes nothing else. -/
theorem load_safelist (h : Environment.SetsLast .safelist name after) {entries : List (List Char)}
    {texts : List String} (hentries : List.Forall₂ Variable.IsTextEntry entries texts)
    (tree : Entry)
    (configFile : Option ByteString) :
    load tree (before ++ (name, Variable.listText entries) :: after) configFile none =
      (load tree (before ++ (name, "[]") :: after) configFile none).map fun conf =>
        { conf with safelist := texts } := by
  obtain ⟨vs, hreads, htexts⟩ := Variable.exists_values hentries
  have hlist := Variable.read_listText hreads
  have hempty : Variable.read "[]" = .list [] := Variable.read_listText .nil
  refine load_map h (fun fields fields' hother hshow hshow' => ?_) tree configFile
  rw [hlist] at hshow
  rw [hempty] at hshow'
  exact readConfiguration_safelist hother (readField_readScalars htexts hshow [])
    (readField_readScalars .nil hshow' [])

end Loading

/-! ## Numbers -/

section Numbers

variable (n : Numeral)

/-- A number begins a value without quotes, and no separator is in it. -/
theorem isPlain_numeral : (∀ c ∈ n.chars.head?, Variable.IsPlainStart c) ∧
    ∀ c ∈ n.chars, Variable.isSeparator c = false := by
  constructor
  · intro c hc
    have hstart := (n.isNumeralChar (List.mem_of_mem_head? hc)).elim
      (p := fun c => decide (Variable.IsPlainStart c)) (by decide) (by decide) (by decide)
      (by decide)
    exact of_decide_eq_true hstart
  · intro c hc
    have hinside := (n.isNumeralChar hc).elim (p := fun c => !Variable.isSeparator c) (by decide)
      (by decide) (by decide) (by decide)
    simpa using hinside

/-- A variable with a number stands for its text. -/
theorem scalarText?_read_numeral : (Variable.read n.text).scalarText? = some n.stored := by
  obtain ⟨hstart, hinside⟩ := isPlain_numeral n
  have hnone : ∀ c ∈ ([] : List Char), Text.isBlank c = true := fun c hc => absurd hc (by simp)
  have hvalue : Variable.value (2 * n.chars.length + 2) n.chars =
      some (Variable.plain n.chars, []) := by
    have hplain : Variable.value (2 * n.chars.length + 2) ([] ++ (n.chars ++ [])) = _ :=
      Variable.value_plain (by simp) n.chars_ne_nil hstart hinside (by simp) _
    rwa [List.nil_append, List.append_nil] at hplain
  have hread : Variable.read n.text = Variable.plain n.chars := by
    unfold Variable.read Numeral.text
    rw [String.toList_ofList]
    dsimp only
    rw [hvalue]
  have htext := n.scalarText?_plain hnone
  rwa [List.append_nil, ← hread] at htext

/-- The blanks around an entry are blanks, and no separators. -/
theorem isBlank_of_isSpace {c : Char} (h : Variable.isSpace c = true) :
    Text.isBlank c = true ∧ Variable.isSeparator c = false := by
  simp only [Variable.isSpace, Bool.or_eq_true, beq_iff_eq] at h
  obtain (((rfl | rfl) | rfl) | rfl) | rfl := h <;> decide

/-- A number is an entry of a list, with blanks around it. -/
theorem isTextEntry_numeral {left right : List Char}
    (hblank : ∀ c ∈ left ++ right, Variable.isSpace c = true) :
    Variable.IsTextEntry (left ++ n.chars ++ right) n.stored := by
  obtain ⟨hstart, hinside⟩ := isPlain_numeral n
  obtain ⟨hleft, hright⟩ := List.forall_mem_append.1 hblank
  rw [List.append_assoc]
  refine ⟨Variable.plain (n.chars ++ right), Variable.isEntry_plain hleft (by simp [n.chars_ne_nil])
    (fun c hc => ?_) (fun c hc => ?_), n.scalarText?_plain fun c hc =>
      (isBlank_of_isSpace (hright c hc)).1⟩
  · rw [List.head?_append_of_ne_nil _ n.chars_ne_nil] at hc
    exact hstart c hc
  · rcases List.mem_append.1 hc with hc | hc
    · exact hinside c hc
    · exact (isBlank_of_isSpace (hright c hc)).2

/-- A number that a variable sets a range to, or that it lists among the icons to keep, arrives as
the text `stored` and changes nothing else. That is the text that was given exactly when one of the
rules of `Kept` applies. -/
theorem load_numeral :
    (n.stored = n.text ↔ n.Kept) ∧
      (∀ (axis : Axis) (name : String) (before after : Environment),
        Environment.SetsLast axis.key name after →
          ∀ (tree : Entry) (configFile : Option ByteString),
          load tree (before ++ (name, n.text) :: after) configFile none =
            (load tree (before ++ (name, "") :: after) configFile none).map
              (axis.put n.stored)) ∧
      ∀ (name : String) (before after : Environment),
        Environment.SetsLast .safelist name after →
        ∀ (front back : List (List Char)) (frontTexts backTexts : List String)
          (left right : List Char), List.Forall₂ Variable.IsTextEntry front frontTexts →
          List.Forall₂ Variable.IsTextEntry back backTexts →
          (∀ c ∈ left ++ right, Variable.isSpace c = true) →
          ∀ (tree : Entry) (configFile : Option ByteString),
            load tree (before ++ (name, Variable.listText
                (front ++ (left ++ n.chars ++ right) :: back)) :: after) configFile none =
              (load tree (before ++ (name, "[]") :: after) configFile none).map fun conf =>
                { conf with safelist := frontTexts ++ n.stored :: backTexts } := by
  refine ⟨n.stored_eq_text_iff, ?_, ?_⟩
  · intro axis name before after hlast tree configFile
    exact load_axis axis hlast (scalarText?_read_numeral n) tree configFile
  · intro name before after hlast front back frontTexts backTexts left right hfront hback hblank
      tree configFile
    have hentries := List.rel_append hfront (.cons (isTextEntry_numeral n hblank) hback)
    exact load_safelist hlast hentries tree configFile

/-- Without files a configuration is read from the environment. -/
theorem load_empty (environment : Environment) :
    load (.directory []) environment none none =
      (readConfiguration readVariant (overlay [] environment.settings)).mapError
        fun error => [.unfit error] := by
  have hnone : (Entry.directory []).isFile projectFile = false := by cbv
  have hfile : fileLayer (.directory []) none = .ok [] := if_neg (Bool.eq_false_iff.1 hnone)
  unfold load loadUnder layers
  rw [hfile]
  rfl

/-- One and a half. -/
def oneAndAHalf : Numeral where
  sign := .none
  whole := [⟨⟨1, by omega⟩⟩]
  fraction := [⟨⟨5, by omega⟩⟩]
  whole_ne_nil := List.cons_ne_nil _ _

/-- It arrives as it is written, on its own and after another entry of a list. -/
theorem load_numeral_oneAndAHalf :
    load (.directory []) [("GLYPHSET_WGHT", "1.5")] none none =
        .ok { axes := { wght := "1.5" } } ∧
      load (.directory []) [("GLYPHSET_SAFELIST", "[home, 1.5]")] none none =
        .ok { safelist := ["home", "1.5"] } := by
  obtain ⟨hkept, haxis, hlist⟩ := load_numeral oneAndAHalf
  have htext : oneAndAHalf.text = "1.5" := by decide
  have hstored : oneAndAHalf.stored = "1.5" :=
    (hkept.2 ((Numeral.kept_iff_of_length_le (by decide) (by decide)).2 (by decide))).trans htext
  have hhome : Variable.IsTextEntry ['h', 'o', 'm', 'e'] "home" := by
    have hinside : (['h', 'o', 'm', 'e'].all fun c => !Variable.isSeparator c) = true := by decide
    have hentry : Variable.IsEntry ([] ++ ['h', 'o', 'm', 'e'])
        (Variable.plain ['h', 'o', 'm', 'e']) := by
      refine Variable.isEntry_plain (by simp) (by simp) (fun c hc => ?_) fun c hc => ?_
      · obtain rfl := Option.some.inj hc
        decide
      · simpa using List.all_eq_true.1 hinside c hc
    exact ⟨_, hentry, by cbv⟩
  have hspace : ∀ c ∈ [' '] ++ ([] : List Char), Variable.isSpace c = true := by
    intro c hc
    obtain rfl := List.mem_singleton.1 hc
    decide
  have hwght : load (.directory []) [("GLYPHSET_WGHT", oneAndAHalf.text)] none none =
      (load (.directory []) [("GLYPHSET_WGHT", "")] none none).map
        (Axis.wght.put oneAndAHalf.stored) :=
    haxis .wght "GLYPHSET_WGHT" [] [] ⟨by decide, rfl⟩ (.directory []) none
  have hsafelist : load (.directory []) [("GLYPHSET_SAFELIST", "[home, 1.5]")] none none =
      (load (.directory []) [("GLYPHSET_SAFELIST", "[]")] none none).map fun conf =>
        { conf with safelist := ["home", oneAndAHalf.stored] } :=
    hlist "GLYPHSET_SAFELIST" [] [] ⟨by decide, rfl⟩ [['h', 'o', 'm', 'e']] []
      ["home"] [] [' '] [] (.cons hhome .nil) .nil hspace (.directory []) none
  rw [hstored, load_empty [("GLYPHSET_WGHT", "")]] at hwght
  rw [hstored, load_empty [("GLYPHSET_SAFELIST", "[]")]] at hsafelist
  rw [htext] at hwght
  constructor
  · exact hwght.trans (by cbv)
  · exact hsafelist.trans (by cbv)

/-- Numbers that do not arrive as they are written: one with a zero in front, on its own and in a
list. -/
theorem load_numerals_rewritten :
    load (.directory []) [("GLYPHSET_WGHT", "0400")] none none =
        .ok { axes := { wght := "400" } } ∧
      load (.directory []) [("GLYPHSET_SAFELIST", "[home, 007]")] none none =
        .ok { safelist := ["home", "7"] } := by
  rw [load_empty, load_empty]
  constructor <;> cbv

end Numbers

end IconSubset.Config
