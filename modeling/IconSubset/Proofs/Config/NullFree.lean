import IconSubset.Config.Environment
import IconSubset.Proofs.Config.Fields

/-!
# Values without null

Null stands for an option that is left open. Neither the notation of environment variables nor TOML
can write it, at any depth, and putting layers over one another brings none in. So an option that
some layer sets is never left open, and a table never stands for the name of a style.
-/

namespace IconSubset.Config

/-- Values without null in them. -/
inductive Value.NullFree : Value → Prop where
  | bool (b : Bool) : NullFree (.bool b)
  | signed (n : Int) : NullFree (.signed n)
  | unsigned (n : Nat) : NullFree (.unsigned n)
  | float (x : Decimal.Binary64) : NullFree (.float x)
  | character (c : Char) : NullFree (.character c)
  | string (s : String) : NullFree (.string s)
  | list {items : List Value} (h : ∀ v ∈ items, NullFree v) : NullFree (.list items)
  | table {fields : List (String × Value)} (h : ∀ field ∈ fields, NullFree field.2) :
    NullFree (.table fields)

/-- Settings without null in them. -/
inductive Setting.NullFree : Setting → Prop where
  | value {origin : Origin} {v : Value} (h : v.NullFree) : NullFree (.value origin v)
  | table {origin : Origin} {fields : List (String × Setting)}
    (h : ∀ field ∈ fields, NullFree field.2) : NullFree (.table origin fields)

/-- What is found under a name is one of the fields. -/
theorem mem_of_lookup {α : Type} {name : String} {v : α} {fields : List (String × α)}
    (h : lookup name fields = some v) : (name, v) ∈ fields := by
  induction fields with
  | nil => cases h
  | cons field rest ih =>
    obtain ⟨n, u⟩ := field
    rw [lookup_cons] at h
    split_ifs at h with hn
    · rw [← hn, ← Option.some.inj h]
      exact List.mem_cons_self
    · exact List.mem_cons_of_mem _ (ih h)

/-- The fields of a setting, one by one. -/
theorem mem_settingsOf {origin : Origin} {field : String × Setting}
    {fields : List (String × Value)} (h : field ∈ settingsOf origin fields) :
    ∃ source ∈ fields, field = (source.1, Setting.of origin source.2) := by
  induction fields with
  | nil => cases h
  | cons source rest ih =>
    rw [settingsOf, List.mem_cons] at h
    obtain h | h := h
    · exact ⟨source, List.mem_cons_self, h⟩
    · obtain ⟨source, hsource, heq⟩ := ih h
      exact ⟨source, List.mem_cons_of_mem _ hsource, heq⟩

/-- The settings of a value without null have none. -/
theorem Value.NullFree.setting {v : Value} (h : v.NullFree) (origin : Origin) :
    (Setting.of origin v).NullFree := by
  induction h with
  | table _ ih =>
    refine .table fun field hfield => ?_
    obtain ⟨source, hsource, rfl⟩ := mem_settingsOf hfield
    exact ih source hsource
  | list h => exact .value (.list h)
  | bool | signed | unsigned | float | character | string => exact .value (by constructor)

/-- Fields without null give settings without null. -/
theorem nullFree_settingsOf {fields : List (String × Value)} (origin : Origin)
    (h : ∀ field ∈ fields, field.2.NullFree) :
    ∀ field ∈ settingsOf origin fields, field.2.NullFree := by
  intro field hfield
  obtain ⟨source, hsource, rfl⟩ := mem_settingsOf hfield
  exact (h source hsource).setting origin

mutual

/-- A setting over another brings no null in. -/
theorem Setting.NullFree.over {earlier s : Setting} (he : earlier.NullFree) (hs : s.NullFree) :
    (Setting.over earlier s).NullFree :=
  match s, earlier, he, hs with
  | .value _ _, _, _, hs => by rwa [Setting.over]
  | .table _ _, .table _ _, .table he, .table hs => by
    rw [Setting.over]
    exact .table (nullFree_overlay he hs)
  | .table _ _, .value _ _, _, hs => by rwa [Setting.over]

/-- Fields over others bring no null in. -/
theorem nullFree_overlay {earlier fields : List (String × Setting)}
    (he : ∀ field ∈ earlier, field.2.NullFree) (hf : ∀ field ∈ fields, field.2.NullFree) :
    ∀ field ∈ overlay earlier fields, field.2.NullFree :=
  match fields, hf with
  | [], _ => by rwa [overlay]
  | (n, s) :: rest, hf => by
    have hs : s.NullFree := hf (n, s) List.mem_cons_self
    have hput : ∀ new : Setting, new.NullFree → ∀ field ∈ putField n new earlier,
        field.2.NullFree := by
      intro new hnew field hfield
      obtain rfl | hfield := mem_putField hfield
      · exact hnew
      · exact he field hfield
    rw [overlay]
    refine nullFree_overlay (hput _ ?_) fun field hfield => hf field (List.mem_cons_of_mem _ hfield)
    split
    next old hold => exact Setting.NullFree.over (he _ (mem_of_lookup hold)) hs
    next => exact hs

end

namespace Variable

/-- A text without separators stands for a number or for itself. -/
theorem nullFree_plain (cs : List Char) : (plain cs).NullFree := by
  have hinteger : ∀ cs v, integer? cs = some v → v.NullFree := by
    intro cs v h
    unfold integer? at h
    split at h
    · split_ifs at h
      obtain rfl := Option.some.inj h
      exact .unsigned _
    · split at h
      · split_ifs at h
        obtain rfl := Option.some.inj h
        exact .signed _
      · cases h
  unfold plain
  dsimp only
  split
  · exact .float _
  · rename_i h
    cases hi : integer? (Text.trimChars cs) with
    | none => exact .string _
    | some v => exact hinteger _ _ hi

/-- What the three readers give with some fuel holds no null. -/
structure NullFreeAt (fuel : Nat) : Prop where
  ofValue : ∀ cs v rest, value fuel cs = some (v, rest) → v.NullFree
  ofItems : ∀ cs vs rest, items fuel cs = some (vs, rest) → ∀ v ∈ vs, v.NullFree
  ofFields : ∀ cs fs rest, fields fuel cs = some (fs, rest) → ∀ field ∈ fs, field.2.NullFree

namespace NullFreeAt

variable {fuel : Nat} {cs rest : List Char}

/-- A value is what its first characters say, with white space around it. -/
theorem value_succ (ih : NullFreeAt fuel) {v : Value} (h : value (fuel + 1) cs = some (v, rest)) :
    v.NullFree := by
  rw [value] at h
  obtain ⟨⟨u, after⟩, hread, ⟨⟩⟩ := Option.map_eq_some_iff.1 h
  split at hread
  · obtain ⟨⟩ := hread
    exact .bool true
  · obtain ⟨⟩ := hread
    exact .bool false
  · obtain ⟨⟨fs, more⟩, hfs, ⟨⟩⟩ := Option.map_eq_some_iff.1 hread
    exact .table fun field hfield => ih.ofFields _ _ _ hfs field (mem_fieldsOf hfield)
  · obtain ⟨⟨vs, more⟩, hvs, ⟨⟩⟩ := Option.map_eq_some_iff.1 hread
    exact .list (ih.ofItems _ _ _ hvs)
  · obtain ⟨⟨text, more⟩, -, ⟨⟩⟩ := Option.map_eq_some_iff.1 hread
    exact .string text
  · obtain ⟨⟩ := hread
    exact .character _
  · cases hread
  · obtain ⟨⟩ := hread
    exact nullFree_plain _

/-- A list ends at once, after one more item, or goes on behind that. -/
theorem items_succ (ih : NullFreeAt fuel) {vs : List Value}
    (h : items (fuel + 1) cs = some (vs, rest)) : ∀ v ∈ vs, v.NullFree := by
  unfold items at h
  split at h
  next => cases h
  next =>
    obtain ⟨⟩ := h
    exact fun v hv => absurd hv List.not_mem_nil
  next _ _ heq _ =>
    obtain rfl := Nat.succ.inj heq
    split at h
    next v more hv =>
      obtain ⟨⟨us, after⟩, hus, ⟨⟩⟩ := Option.map_eq_some_iff.1 h
      exact List.forall_mem_cons.2 ⟨ih.ofValue _ _ _ hv, ih.ofItems _ _ _ hus⟩
    next v more hv =>
      obtain ⟨⟩ := h
      exact List.forall_mem_singleton.2 (ih.ofValue _ _ _ hv)
    next => cases h

/-- A table likewise, each value behind a name. -/
theorem fields_succ (ih : NullFreeAt fuel) {fs : List (String × Value)}
    (h : fields (fuel + 1) cs = some (fs, rest)) : ∀ field ∈ fs, field.2.NullFree := by
  unfold fields at h
  split at h
  next => cases h
  next =>
    obtain ⟨⟩ := h
    exact fun field hfield => absurd hfield List.not_mem_nil
  next _ _ heq _ =>
    obtain rfl := Nat.succ.inj heq
    split at h
    next => cases h
    next n after _ =>
      split at h
      next tail _ =>
        split at h
        next v more hv =>
          obtain ⟨⟨us, after⟩, hus, ⟨⟩⟩ := Option.map_eq_some_iff.1 h
          exact List.forall_mem_cons.2 ⟨ih.ofValue _ _ _ hv, ih.ofFields _ _ _ hus⟩
        next v more hv =>
          obtain ⟨⟩ := h
          exact List.forall_mem_singleton.2 (ih.ofValue _ _ _ hv)
        next => cases h
      next => cases h

end NullFreeAt

/-- The notation of environment variables has no null. -/
theorem nullFreeAt (fuel : Nat) : NullFreeAt fuel := by
  induction fuel with
  | zero => exact ⟨by simp [value], by simp [items], by simp [fields]⟩
  | succ fuel ih =>
    exact ⟨fun _ _ _ h => ih.value_succ h, fun _ _ _ h => ih.items_succ h,
      fun _ _ _ h => ih.fields_succ h⟩

/-- What a variable holds is never null. -/
theorem nullFree_read (text : String) : (read text).NullFree := by
  unfold read
  dsimp only
  split
  next v h => exact (nullFreeAt _).ofValue _ _ _ h
  next => exact .string text

end Variable

end IconSubset.Config
