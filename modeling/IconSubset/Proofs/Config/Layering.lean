import IconSubset.Config.Loading
import IconSubset.Proofs.Toml.NullFree

/-!
# What counts of several layers

Of each setting the highest layer that has it counts. For tables that is true of what shows at the
surface only, since their fields are united; nothing but the style of the font looks deeper than
that, and it does so only to tell what is wrong.

Within the environment the last variable that sets a name counts. The variables that a file adds
stand behind those of the process, so they count before them, though none of them has the name of a
variable of the process: two variables may have different names and set the same.
-/

namespace IconSubset.Config

/-- What shows of a setting at its surface: where it was written, and its value; of a table only
that it is one. -/
def Setting.surface (s : Setting) : Origin × Value := (s.origin, s.outline)

/-- A setting over another shows at the surface. -/
@[simp] theorem Setting.surface_over (earlier s : Setting) :
    (Setting.over earlier s).surface = s.surface := by
  match s, earlier with
  | .value _ _, _ => rw [Setting.over]
  | .table _ _, .value _ _ => rw [Setting.over]
  | .table _ _, .table _ _ =>
    rw [Setting.over]
    rfl

/-- A setting over what there is, if anything. -/
def Setting.overAny (earlier? : Option Setting) (s : Setting) : Setting :=
  match earlier? with
  | some old => Setting.over old s
  | none => s

/-- What is put over another setting shows, and that one does not. -/
@[simp] theorem Setting.surface_overAny (earlier? : Option Setting) (s : Setting) :
    (Setting.overAny earlier? s).surface = s.surface := by
  cases earlier? with
  | none => rfl
  | some old => exact surface_over old s

/-- Fields over others: under each name what the upper ones have there, over what the lower ones
have. -/
theorem lookup_overlay (name : String) (earlier : List (String × Setting))
    {fields : List (String × Setting)} (h : InOrder fields) :
    lookup name (overlay earlier fields) =
      ((lookup name fields).map (Setting.overAny (lookup name earlier))).or
        (lookup name earlier) := by
  induction fields generalizing earlier with
  | nil => rfl
  | cons field rest ih =>
    obtain ⟨n, s⟩ := field
    obtain ⟨hfirst, hrest⟩ := List.pairwise_cons.1 h
    rw [overlay, ih _ hrest, lookup_putField, lookup_cons]
    by_cases hn : n = name
    · -- the name stands once in the upper fields, so nothing after it takes its place
      subst hn
      have hnone : lookup n rest = none := lookup_eq_none_of_lt hfirst
      rw [hnone, if_pos rfl, if_pos rfl]
      rfl
    · rw [if_neg hn, if_neg hn]

/-- Fields over others show under each name what the upper ones have there, and else what the lower
ones have. -/
theorem surface_lookup_overlay (name : String) (earlier : List (String × Setting))
    {fields : List (String × Setting)} (h : InOrder fields) :
    (lookup name (overlay earlier fields)).map Setting.surface =
      ((lookup name fields).or (lookup name earlier)).map Setting.surface := by
  rw [lookup_overlay name earlier h, Option.map_or, Option.map_or, Option.map_map]
  congr 2
  exact funext fun s => Setting.surface_overAny _ s

/-- An overlay keeps the order of the names. -/
theorem InOrder.overlay {earlier : List (String × Setting)} (h : InOrder earlier)
    (fields : List (String × Setting)) : InOrder (overlay earlier fields) := by
  induction fields generalizing earlier with
  | nil => exact h
  | cons field rest ih =>
    obtain ⟨n, s⟩ := field
    rw [Config.overlay]
    exact ih (h.putField n _)

/-- Settings are in the order of the fields that they come from. -/
theorem InOrder.settingsOf {fields : List (String × Value)} (h : InOrder fields) (origin : Origin) :
    InOrder (settingsOf origin fields) := by
  have hmap : Config.settingsOf origin fields =
      fields.map fun field => (field.1, Setting.of origin field.2) := by
    clear h
    induction fields with
    | nil => rfl
    | cons field rest ih => rw [Config.settingsOf, ih, List.map_cons]
  rw [hmap]
  exact List.pairwise_map.2 h

namespace Environment

/-- What a variable sets under a name, if its own name leads there. -/
def settingOf? (name : String) (var : String × String) : Option Setting :=
  match settingNames? var.1 with
  | some (first :: inner) =>
    if first = name then
      some (Setting.of .environment (nest inner (Variable.read var.2)))
    else none
  | _ => none

/-- What the last of the variables that set a name sets it to. -/
def setting? (name : String) (environment : Environment) : Option Setting :=
  environment.reverse.findSome? (settingOf? name)

/-- There is always a first part of a name. -/
theorem splitName_ne_nil (cs : List Char) : splitName cs ≠ [] := by
  fun_induction splitName cs <;> simp

/-- A variable that sets something names it. -/
theorem settingNames?_ne_nil (name : String) : settingNames? name ≠ some [] := by
  intro h
  obtain ⟨rest, -, h⟩ := Option.bind_eq_some_iff.1 h
  dsimp only at h
  split_ifs at h
  exact splitName_ne_nil rest (List.map_eq_nil_iff.1 (Option.some.inj h))

/-- The setting that a variable makes stands under the first of the names that its own leads to. -/
theorem lookup_settingsOfVariable (name : String) (var : String × String) :
    lookup name (settingsOfVariable var.1 var.2) = settingOf? name var := by
  unfold settingsOfVariable settingOf?
  split
  next heq => rw [heq]; rfl
  next names heq =>
    match names with
    | [] => exact absurd heq (settingNames?_ne_nil _)
    | first :: inner =>
      rw [heq, nest, Setting.of]
      rfl

/-- One variable sets at most one field, so its settings are in order. -/
theorem inOrder_settingsOfVariable (var : String × String) :
    InOrder (settingsOfVariable var.1 var.2) := by
  unfold settingsOfVariable
  split
  next => exact List.Pairwise.nil
  next names heq =>
    match names with
    | [] => exact absurd heq (settingNames?_ne_nil _)
    | first :: inner =>
      rw [nest, Setting.of]
      exact List.pairwise_singleton ..

/-- Of more variables than one the later count. -/
theorem setting?_append (name : String) (earlier later : Environment) :
    setting? name (earlier ++ later) = (setting? name later).or (setting? name earlier) := by
  rw [setting?, List.reverse_append, List.findSome?_append]
  rfl

/-- What one variable alone sets. -/
theorem setting?_singleton (name : String) (var : String × String) :
    setting? name [var] = settingOf? name var := by
  simp only [setting?, List.reverse_singleton, List.findSome?_cons, List.findSome?_nil]
  split <;> simp_all

/-- Under each name the settings of an environment show what the last variable for it says. -/
theorem surface_lookup_settings (name : String) (environment : Environment) :
    (lookup name environment.settings).map Setting.surface =
      (setting? name environment).map Setting.surface := by
  have hrun : ∀ start : List (String × Setting),
      (lookup name (environment.foldl
        (fun earlier var => overlay earlier (settingsOfVariable var.1 var.2)) start)).map
          Setting.surface =
        ((setting? name environment).or (lookup name start)).map Setting.surface := by
    induction environment with
    | nil => exact fun start => rfl
    | cons var rest ih =>
      intro start
      have hstep := surface_lookup_overlay name start (inOrder_settingsOfVariable var)
      rw [lookup_settingsOfVariable] at hstep
      have hlast : setting? name (var :: rest) =
          (setting? name rest).or (settingOf? name var) := by
        rw [← List.singleton_append, setting?_append, setting?_singleton]
      rw [List.foldl_cons, ih, hlast, Option.map_or, hstep, ← Option.map_or, Option.or_assoc]
  have hend := hrun []
  rwa [lookup_nil, Option.or_none] at hend

/-- The settings of an environment are in order, since each variable is laid over those before. -/
theorem inOrder_settings (environment : Environment) : InOrder environment.settings :=
  List.foldlRecOn (motive := InOrder) environment _ List.Pairwise.nil fun _ h _ _ => h.overlay _

/-- A nest of tables around a value without null holds none. -/
theorem nullFree_nest {v : Value} (h : v.NullFree) (names : List String) :
    (nest names v).NullFree := by
  induction names with
  | nil => exact h
  | cons name rest ih => exact .table (List.forall_mem_singleton.2 ih)

/-- The text of a variable never means null. -/
theorem nullFree_settingsOfVariable (var : String × String) :
    ∀ field ∈ settingsOfVariable var.1 var.2, field.2.NullFree := by
  intro field hfield
  unfold settingsOfVariable at hfield
  split at hfield
  next => exact absurd hfield List.not_mem_nil
  next names _ =>
    have hnest : (Setting.of .environment (nest names (Variable.read var.2))).NullFree :=
      (nullFree_nest (Variable.nullFree_read var.2) names).setting .environment
    split at hfield
    next _ fields heq =>
      rw [heq] at hnest
      obtain ⟨⟩ := hnest
      next h => exact h field hfield
    next => exact absurd hfield List.not_mem_nil

/-- Environment variables set nothing to null. -/
theorem nullFree_settings (environment : Environment) :
    ∀ field ∈ environment.settings, field.2.NullFree :=
  List.foldlRecOn
    (motive := fun fields : List (String × Setting) => ∀ field ∈ fields, field.2.NullFree)
    environment _ (fun _ h => absurd h List.not_mem_nil)
    fun _ h var _ => nullFree_overlay h (nullFree_settingsOfVariable var)

end Environment

/-- A file of environment variables leaves those of the process as they are. It adds variables
behind them, under names that the process has not. -/
theorem EnvironmentFile.exists_assign_eq (known : Environment) (lines : List (List Char)) :
    ∃ added, assign known lines = known ++ added ∧ ∀ var ∈ added, known.get? var.1 = none := by
  have hnothing : ∀ known : Environment,
      ∃ added, known = known ++ added ∧ ∀ var ∈ added, known.get? var.1 = none :=
    fun known => ⟨[], (List.append_nil known).symm, fun var h => absurd h List.not_mem_nil⟩
  fun_induction assign known lines with
  | case1 known | case3 known | case4 known => exact hnothing known
  | case2 known line rest cs hblank ih => exact ih
  | case5 known line rest cs hline key value htarget read v hread name hknown ih => exact ih
  | case6 known line rest cs hline key value htarget read v hread name hfree ih =>
    obtain ⟨added, heq, hadded⟩ := ih
    refine ⟨(name, String.ofList v) :: added, by rw [heq, List.append_assoc]; rfl, ?_⟩
    refine List.forall_mem_cons.2 ⟨Option.not_isSome_iff_eq_none.1 hfree, fun var hvar => ?_⟩
    have hlookup := hadded var hvar
    rw [Environment.get?, lookup_append, Option.or_eq_none_iff] at hlookup
    exact hlookup.1

/-- The variables that the file of environment variables of a project adds to those of the
process. -/
def fileVariables (tree : Entry) (environment : Environment) : Environment :=
  (fullEnvironment tree environment).drop environment.length

/-- The variables that a run knows: those of the process, and those that the file adds. -/
theorem fullEnvironment_eq (tree : Entry) (environment : Environment) :
    fullEnvironment tree environment = environment ++ fileVariables tree environment ∧
      ∀ var ∈ fileVariables tree environment, environment.get? var.1 = none := by
  have hload : ∀ text, ∃ added, EnvironmentFile.load environment text = environment ++ added ∧
      ∀ var ∈ added, environment.get? var.1 = none :=
    fun text => EnvironmentFile.exists_assign_eq environment _
  have hfull : ∃ added, fullEnvironment tree environment = environment ++ added ∧
      ∀ var ∈ added, environment.get? var.1 = none := by
    unfold fullEnvironment
    split
    · exact hload _
    · exact hload _
    · exact ⟨[], (List.append_nil environment).symm, fun var h => absurd h List.not_mem_nil⟩
  obtain ⟨added, heq, hadded⟩ := hfull
  have hfile : fileVariables tree environment = added := by
    rw [fileVariables, heq, List.drop_left]
  rw [hfile]
  exact ⟨heq, hadded⟩

/-- A configuration file sets nothing to null. -/
theorem nullFree_fileLayer {tree : Entry} {configFile : Option ByteString}
    {file : List (String × Setting)} (hfile : fileLayer tree configFile = .ok file) :
    ∀ field ∈ file, field.2.NullFree := by
  have hread : ∀ path, fileSettings tree path = .ok file → ∀ field ∈ file, field.2.NullFree := by
    intro path h
    unfold fileSettings at h
    split at h
    next => cases h
    next text _ =>
      split at h
      next => cases h
      next fields hfields =>
        obtain ⟨⟩ := h
        exact nullFree_settingsOf _ (Toml.nullFree_read? hfields)
  unfold fileLayer at hfile
  split at hfile
  next path => exact hread path hfile
  next =>
    split_ifs at hfile
    · exact hread projectFile hfile
    · obtain ⟨⟩ := hfile
      exact fun field h => absurd h List.not_mem_nil

/-- What each name shows once all layers lie over one another: what the program is told directly,
else what the last variable for it says, the added variables before those of the process, else what
the configuration file says. -/
theorem surface_lookup_layers {tree : Entry} (environment : Environment)
    {configFile : Option ByteString} {file : List (String × Setting)}
    (hfile : fileLayer tree configFile = .ok file)
    {direct : List (String × Value)} (horder : InOrder direct)
    (hdirect : ∀ field ∈ direct, field.2.NullFree) :
    ∃ fields, layers tree (fullEnvironment tree environment) configFile
        (.ok (settingsOf .code direct)) = .ok fields ∧
      (∀ field ∈ fields, field.2.NullFree) ∧
      ∀ name, (lookup name fields).map Setting.surface =
        (((lookup name direct).map (Setting.of .code)).or
          (((fileVariables tree environment).setting? name).or
            ((environment.setting? name).or (lookup name file)))).map Setting.surface := by
  have hlayers : layers tree (fullEnvironment tree environment) configFile
      (.ok (settingsOf .code direct)) = .ok (overlay
        (overlay file (fullEnvironment tree environment).settings) (settingsOf .code direct)) := by
    simp only [layers, hfile]
  refine ⟨_, hlayers, ?_, fun name => ?_⟩
  · have hlower := nullFree_overlay (nullFree_fileLayer hfile)
      (Environment.nullFree_settings (fullEnvironment tree environment))
    exact nullFree_overlay hlower (nullFree_settingsOf .code hdirect)
  · have henv := surface_lookup_overlay name file
      (Environment.inOrder_settings (fullEnvironment tree environment))
    rw [surface_lookup_overlay name _ (horder.settingsOf .code), lookup_settingsOf, Option.map_or,
      henv, Option.map_or, Environment.surface_lookup_settings,
      (fullEnvironment_eq tree environment).1, Environment.setting?_append]
    simp only [Option.map_or, Option.or_assoc]

end IconSubset.Config
