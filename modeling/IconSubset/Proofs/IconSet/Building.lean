import IconSubset.Json.Reading
import IconSubset.Proofs.IconSet.Membership
import IconSubset.Proofs.Text.Trimming

/-!
# Sets that the operations build

A set comes into being by operations on sets, one after another (`Built`). Those that take names
trim them and leave blank ones out, and the union of two sets has no other names. Only reading a set
back from its serialized form takes names as they are written. So a set holds trimmed names only,
each of which it says that it contains, exactly when that is so of the names that were read back on
the way (`built_trimmed_iff`).
-/

namespace IconSubset.IconSet

/-- A set that operations build, with the names that were read back from serialized sets on the
way. -/
inductive Built : IconSet → List String → Prop where
  | new : Built empty []
  | insert {s : IconSet} {loaded : List String} (name : String) (h : Built s loaded) :
    Built (s.insert name) loaded
  | extend {s : IconSet} {loaded : List String} (names : List String) (h : Built s loaded) :
    Built (s.insertMany names) loaded
  | collect (names : List String) : Built (ofList names) []
  | merge {a b : IconSet} {loaded loaded' : List String} (ha : Built a loaded)
    (hb : Built b loaded') : Built (a.union b) (loaded ++ loaded')
  | load {s : IconSet} {names : List String} (h : Json.toIconSet (.ofStrings names) = .ok s) :
    Built s names

/-! ## Reading a set back -/

/-- The items of a list of texts are texts. -/
theorem ofJsonItems_strings (names : List String) :
    Config.ofJsonItems (names.map Json.Value.string) = names.map Config.Value.string := by
  induction names with
  | nil => rfl
  | cons name names ih =>
    rw [List.map_cons, Config.ofJsonItems, ih]
    rfl

/-- A list of texts is read as it is. -/
theorem readItems_strings (path : List String) (origin : Config.Origin) (index : Nat)
    (names : List String) : Config.readItems path origin .text Config.Value.text? index
      (names.map Config.Value.string) = .ok names := by
  induction names generalizing index with
  | nil => rfl
  | cons name names ih =>
    rw [List.map_cons, Config.readItems]
    show (Config.readItems path origin .text Config.Value.text? (index + 1) _).map _ = _
    rw [ih]
    rfl

/-- A set that is read back from a list of texts has them as they are written. -/
theorem toIconSet_ofStrings (names : List String) :
    Json.toIconSet (.ofStrings names) = .ok (ofVerbatim names) := by
  unfold Json.toIconSet
  show (Config.readItems [] .code .text Config.Value.text? 0
    (Config.ofJsonItems (names.map Json.Value.string))).map ofVerbatim = _
  rw [ofJsonItems_strings, readItems_strings]
  rfl

/-- The names of a set that was read back. -/
theorem mem_ofVerbatim {names : List String} {x : String} : x ∈ ofVerbatim names ↔ x ∈ names := by
  unfold ofVerbatim
  rw [mem_foldl_insertVerbatim]
  simp

/-! ## The names of a set -/

/-- A set contains a name when the trim of the name is one of its names. -/
theorem contains_iff {s : IconSet} {name : String} :
    s.contains name = true ↔ Text.trim name ∈ s := by
  unfold contains
  rw [List.contains_iff_mem]
  rfl

/-- The names that were read back stay in the set. -/
theorem Built.loaded_mem {s : IconSet} {loaded : List String} (h : Built s loaded) :
    ∀ name ∈ loaded, name ∈ s := by
  induction h with
  | new => exact fun _ h => absurd h List.not_mem_nil
  | insert name _ ih => exact fun x hx => mem_insert.2 (.inl (ih x hx))
  | extend names _ ih => exact fun x hx => mem_insertMany.2 (.inl (ih x hx))
  | collect names => exact fun _ h => absurd h List.not_mem_nil
  | merge _ _ iha ihb =>
    intro x hx
    obtain hx | hx := List.mem_append.1 hx
    · exact mem_union.2 (.inl (iha x hx))
    · exact mem_union.2 (.inr (ihb x hx))
  | load hload =>
    rw [toIconSet_ofStrings] at hload
    obtain rfl := Except.ok.inj hload
    exact fun x hx => mem_ofVerbatim.2 hx

/-- A name of a set is trimmed, unless it was read back. -/
theorem Built.trimmed_or_loaded {s : IconSet} {loaded : List String} (h : Built s loaded) :
    ∀ name ∈ s, Text.Trimmed name ∨ name ∈ loaded := by
  induction h with
  | new => exact fun _ h => absurd h not_mem_empty
  | insert name _ ih =>
    intro x hx
    obtain hx | ⟨rfl, hne⟩ := mem_insert.1 hx
    · exact ih x hx
    · exact .inl (Text.trimmed_trim hne)
  | extend names _ ih =>
    intro x hx
    obtain hx | ⟨⟨name, -, rfl⟩, hne⟩ := mem_insertMany.1 hx
    · exact ih x hx
    · exact .inl (Text.trimmed_trim hne)
  | collect names =>
    intro x hx
    obtain ⟨⟨name, -, rfl⟩, hne⟩ := mem_ofList.1 hx
    exact .inl (Text.trimmed_trim hne)
  | merge _ _ iha ihb =>
    intro x hx
    obtain hx | hx := mem_union.1 hx
    · exact (iha x hx).imp_right (List.mem_append_left _)
    · exact (ihb x hx).imp_right (List.mem_append_right _)
  | load hload =>
    rw [toIconSet_ofStrings] at hload
    obtain rfl := Except.ok.inj hload
    exact fun x hx => .inr (mem_ofVerbatim.1 hx)

/-- A set holds trimmed names only, and says of each that it contains it, exactly when the names
that were read back on the way are trimmed. -/
theorem built_trimmed_iff {s : IconSet} {loaded : List String} (h : Built s loaded) :
    (∀ name ∈ s, Text.Trimmed name ∧ s.contains name = true) ↔
      ∀ name ∈ loaded, Text.Trimmed name := by
  constructor
  · exact fun hall name hname => (hall name (h.loaded_mem name hname)).1
  · intro hloaded name hname
    -- A trimmed name is its own trim, which is what the set looks for.
    have htrimmed : Text.Trimmed name :=
      (h.trimmed_or_loaded name hname).elim id (hloaded name)
    refine ⟨htrimmed, contains_iff.2 ?_⟩
    rw [htrimmed.trim_eq]
    exact hname

/-- A set that was read back, with a name put in and another set united with it. -/
def mixed : IconSet := ((ofVerbatim ["home"]).insert " menu ").union (ofList ["add\n", " "])

/-- That set holds trimmed names only and contains them. -/
theorem built_trimmed_mixed :
    Built mixed ["home"] ∧ ∀ name ∈ mixed, Text.Trimmed name ∧ mixed.contains name = true := by
  have hbuilt : Built mixed ["home"] :=
    .merge (.insert " menu " (.load (toIconSet_ofStrings ["home"]))) (.collect ["add\n", " "])
  refine ⟨hbuilt, (built_trimmed_iff hbuilt).2 fun name hname => ?_⟩
  obtain rfl := List.mem_singleton.1 hname
  exact Text.trimmed_iff.2 ⟨by decide, by decide⟩

/-- A padded name that is read back stays padded, and the set does not say that it contains it. -/
theorem built_padded :
    Built (ofVerbatim [" home "]) [" home "] ∧ " home " ∈ ofVerbatim [" home "] ∧
      ¬Text.Trimmed " home " ∧ (ofVerbatim [" home "]).contains " home " = false := by
  have hmem : " home " ∈ ofVerbatim [" home "] := mem_ofVerbatim.2 List.mem_cons_self
  refine ⟨.load (toIconSet_ofStrings [" home "]), hmem, fun h => ?_, by decide⟩
  exact absurd h.trim_eq (by decide)

end IconSubset.IconSet
