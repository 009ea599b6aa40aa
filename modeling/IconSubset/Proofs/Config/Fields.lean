import Mathlib.Data.String.Basic
import IconSubset.Config.Setting

/-!
# Fields as finite maps

Fields are observed through `lookup`. Setting one field changes what is found under its name and
nothing else, whatever the fields look like. When the names are in order, as they are in all fields
that were put together by setting one after another, each name stands once, and then an overlay too
can be described name by name.
-/

namespace IconSubset.Config

variable {α : Type}

/-- Fields in the order of their names, each name once. -/
def InOrder (fields : List (String × α)) : Prop := fields.Pairwise fun a b => a.1 < b.1

/-- Without fields, nothing is found. -/
@[simp] theorem lookup_nil (name : String) : lookup name ([] : List (String × α)) = none := rfl

/-- The first field of a name is the one that is found. -/
theorem lookup_cons (name n : String) (v : α) (fields : List (String × α)) :
    lookup name ((n, v) :: fields) = if n = name then some v else lookup name fields := rfl

/-- What comes later is looked at when nothing is found before. -/
theorem lookup_append (name : String) (first second : List (String × α)) :
    lookup name (first ++ second) = (lookup name first).or (lookup name second) := by
  induction first with
  | nil => rfl
  | cons field rest ih =>
    rw [List.cons_append, ← Prod.mk.eta (p := field), lookup_cons, lookup_cons, ih]
    split_ifs <;> rfl

/-- Setting a field changes what is found under its name only. -/
theorem lookup_putField (name n : String) (v : α) (fields : List (String × α)) :
    lookup name (putField n v fields) = if n = name then some v else lookup name fields := by
  induction fields with
  | nil => rfl
  | cons field rest ih =>
    obtain ⟨m, old⟩ := field
    by_cases hlt : n < m
    · simp only [putField, if_pos hlt, lookup_cons]
    · by_cases heq : n = m
      · subst heq
        simp only [putField, if_neg hlt, if_true, lookup_cons]
        split_ifs <;> rfl
      · simp only [putField, if_neg hlt, if_neg heq, lookup_cons, ih]
        -- the field that is passed over has another name than the one that is set
        split_ifs with hm hn
        · exact absurd (hn.trans hm.symm) heq
        all_goals rfl

/-- What stands among the fields after one is set is that field, or stood there before. -/
theorem mem_putField {n : String} {v : α} {fields : List (String × α)} {field : String × α}
    (h : field ∈ putField n v fields) : field = (n, v) ∨ field ∈ fields := by
  induction fields with
  | nil => exact .inl (List.mem_singleton.1 h)
  | cons head rest ih =>
    obtain ⟨m, old⟩ := head
    by_cases hlt : n < m
    · rw [putField, if_pos hlt] at h
      exact List.mem_cons.1 h
    · by_cases heq : n = m
      · rw [putField, if_neg hlt, if_pos heq, List.mem_cons] at h
        exact h.imp (fun h => heq ▸ h) (List.mem_cons_of_mem _)
      · rw [putField, if_neg hlt, if_neg heq, List.mem_cons] at h
        obtain h | h := h
        · exact .inr (h ▸ List.mem_cons_self)
        · exact (ih h).imp_right (List.mem_cons_of_mem _)

/-- Setting a field keeps the order of the names. -/
theorem InOrder.putField {fields : List (String × α)} (h : InOrder fields) (n : String) (v : α) :
    InOrder (putField n v fields) := by
  induction fields with
  | nil => exact List.pairwise_singleton ..
  | cons head rest ih =>
    obtain ⟨m, old⟩ := head
    obtain ⟨hfirst, hrest⟩ := List.pairwise_cons.1 h
    by_cases hlt : n < m
    · rw [Config.putField, if_pos hlt]
      refine List.pairwise_cons.2 ⟨fun field hfield => ?_, h⟩
      obtain rfl | hfield := List.mem_cons.1 hfield
      · exact hlt
      · exact lt_trans hlt (hfirst field hfield)
    · by_cases heq : n = m
      · rw [Config.putField, if_neg hlt, if_pos heq]
        exact List.pairwise_cons.2 ⟨hfirst, hrest⟩
      · rw [Config.putField, if_neg hlt, if_neg heq]
        have hgt : m < n := lt_of_le_of_ne (not_lt.1 hlt) (Ne.symm heq)
        refine List.pairwise_cons.2 ⟨fun field hfield => ?_, ih hrest⟩
        obtain rfl | hfield := mem_putField hfield
        · exact hgt
        · exact hfirst field hfield

/-- Fields that are set one after another are in order. -/
theorem inOrder_fieldsOf (fields : List (String × α)) : InOrder (fieldsOf fields) :=
  List.foldlRecOn (motive := InOrder) fields _ List.Pairwise.nil fun _ h field _ =>
    h.putField field.1 field.2

/-- Putting fields in order leaves nothing but them. -/
theorem mem_fieldsOf {field : String × α} {fields : List (String × α)}
    (h : field ∈ fieldsOf fields) : field ∈ fields := by
  have hall : ∀ found ∈ fieldsOf fields, found ∈ fields := by
    refine List.foldlRecOn (motive := fun acc => ∀ found ∈ acc, found ∈ fields) fields _
      (fun _ h => absurd h List.not_mem_nil) fun acc hacc next hnext found hfound => ?_
    obtain rfl | hfound := mem_putField hfound
    · exact hnext
    · exact hacc found hfound
  exact hall field h

/-- Of two fields of the same name the later one counts. -/
theorem lookup_fieldsOf (name : String) (fields : List (String × α)) :
    lookup name (fieldsOf fields) = lookup name fields.reverse := by
  have hfold : ∀ acc : List (String × α),
      lookup name (fields.foldl (fun acc field => putField field.1 field.2 acc) acc) =
        (lookup name fields.reverse).or (lookup name acc) := by
    induction fields with
    | nil => exact fun acc => rfl
    | cons field rest ih =>
      obtain ⟨n, v⟩ := field
      intro acc
      rw [List.foldl_cons, ih, lookup_putField, List.reverse_cons, lookup_append, lookup_cons,
        lookup_nil, Option.or_assoc]
      split_ifs <;> rfl
  have hend := hfold []
  rwa [lookup_nil, Option.or_none] at hend

/-- A name that comes before all others in fields is not found behind them. -/
theorem lookup_eq_none_of_lt {n : String} {fields : List (String × α)}
    (h : ∀ field ∈ fields, n < field.1) : lookup n fields = none := by
  induction fields with
  | nil => rfl
  | cons field rest ih =>
    have hne : field.1 ≠ n := (h field List.mem_cons_self).ne'
    rw [← Prod.mk.eta (p := field), lookup_cons, if_neg hne]
    exact ih fun other hother => h other (List.mem_cons_of_mem _ hother)

/-- The fields of a setting, found by their names. -/
theorem lookup_settingsOf (origin : Origin) (name : String) (fields : List (String × Value)) :
    lookup name (settingsOf origin fields) = (lookup name fields).map (Setting.of origin) := by
  induction fields with
  | nil => rfl
  | cons field rest ih =>
    obtain ⟨n, v⟩ := field
    rw [settingsOf, lookup_cons, lookup_cons, ih]
    split_ifs <;> rfl

end IconSubset.Config
