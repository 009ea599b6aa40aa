import IconSubset.Proofs.Config.NullFree
import IconSubset.Toml.Document

/-!
# TOML has no null

Every value that a document sets is free of null, since scalars are and tables and lists are made of
what was read before. The tables that headers and names with dots open on the way hold nothing but
such values.
-/

namespace IconSubset.Toml

open Config (Value lookup putField mem_of_lookup mem_putField)

/-- Fields of a document that is being read, when no value in them holds null. -/
def NullFree (fields : Fields) : Prop := ∀ field ∈ fields, field.2.toValue.NullFree

/-- There is nothing in an empty table. -/
theorem nullFree_nil : NullFree [] := fun _ h => absurd h List.not_mem_nil

/-- What is found under a name holds no null. -/
theorem NullFree.lookup {fields : Fields} (h : NullFree fields) {name : String} {item : Item}
    (hitem : lookup name fields = some item) : item.toValue.NullFree :=
  h (name, item) (mem_of_lookup hitem)

/-- One more field without null. -/
theorem NullFree.putField {fields : Fields} (h : NullFree fields) {name : String} {item : Item}
    (hitem : item.toValue.NullFree) : NullFree (putField name item fields) := by
  intro field hfield
  obtain rfl | hfield := mem_putField hfield
  · exact hitem
  · exact h field hfield

/-- The values of fields are those of the items, name by name. -/
theorem fieldValues_eq (fields : Fields) :
    fieldValues fields = fields.map fun field => (field.1, field.2.toValue) := by
  induction fields with
  | nil => rfl
  | cons field rest ih => rw [fieldValues, ih, List.map_cons]

/-- The values of a list of tables are those of its tables. -/
theorem tableValues_eq (tables : List Fields) :
    tableValues tables = tables.map fun fields => .table (fieldValues fields) := by
  induction tables with
  | nil => rfl
  | cons fields rest ih => rw [tableValues, ih, List.map_cons]

/-- Fields hold no null exactly when their table does not. -/
theorem nullFree_table {fields : Fields} :
    (Value.table (fieldValues fields)).NullFree ↔ NullFree fields := by
  rw [fieldValues_eq]
  constructor
  · rintro ⟨⟩
    next h => exact fun field hfield => h _ (List.mem_map_of_mem hfield)
  · intro h
    refine .table fun field hfield => ?_
    obtain ⟨source, hsource, rfl⟩ := List.mem_map.1 hfield
    exact h source hsource

/-- A table among the items holds no null exactly when its fields do not. -/
theorem nullFree_toValue_table {kind : TableKind} {fields : Fields} :
    (Item.table kind fields).toValue.NullFree ↔ NullFree fields := by
  rw [Item.toValue]
  exact nullFree_table

/-- A list of tables holds no null exactly when none of the tables does. -/
theorem nullFree_toValue_tables {latest : Fields} {earlier : List Fields} :
    (Item.tables latest earlier).toValue.NullFree ↔
      NullFree latest ∧ ∀ fields ∈ earlier, NullFree fields := by
  rw [Item.toValue, tableValues_eq]
  constructor
  · rintro ⟨⟩
    next h =>
      refine ⟨nullFree_table.1 (h _ (by simp)), fun fields hfields => nullFree_table.1 (h _ ?_)⟩
      exact List.mem_append_left _ (List.mem_reverse.2 (List.mem_map_of_mem hfields))
  · rintro ⟨hlatest, hearlier⟩
    refine .list fun v hv => ?_
    obtain hv | hv := List.mem_append.1 hv
    · obtain ⟨fields, hfields, rfl⟩ := List.mem_map.1 (List.mem_reverse.1 hv)
      exact nullFree_table.2 (hearlier fields hfields)
    · rw [List.mem_singleton.1 hv]
      exact nullFree_table.2 hlatest

/-- An assignment of a value without null leaves fields without null. -/
theorem NullFree.assign {v : Value} (hv : v.NullFree) {kind : TableKind} {names : List String}
    {fields new : Fields} (h : NullFree fields) (hnew : assign v kind names fields = some new) :
    NullFree new := by
  fun_induction Toml.assign v kind names fields generalizing new with
  | case1 => cases hnew
  | case2 => cases hnew
  | case3 kind fields name hfree hkind =>
    obtain ⟨⟩ := hnew
    exact h.putField (by rwa [Item.toValue])
  | case4 => cases hnew
  | case5 kind fields name names hnames hfree ih =>
    obtain ⟨fs, hfs, rfl⟩ := Option.map_eq_some_iff.1 hnew
    exact h.putField (nullFree_toValue_table.2 (ih nullFree_nil hfs))
  | case6 => cases hnew
  | case7 => cases hnew
  | case8 kind fields name names hnames inner fs hkind hfound ih =>
    obtain ⟨gs, hgs, rfl⟩ := Option.map_eq_some_iff.1 hnew
    have hfs : NullFree fs := nullFree_toValue_table.1 (h.lookup hfound)
    exact h.putField (nullFree_toValue_table.2 (ih hfs hgs))
  | case9 => cases hnew
  | case10 kind fields name names hnames latest earlier hfound hlong ih =>
    obtain ⟨gs, hgs, rfl⟩ := Option.map_eq_some_iff.1 hnew
    obtain ⟨hlatest, hearlier⟩ := nullFree_toValue_tables.1 (h.lookup hfound)
    exact h.putField (nullFree_toValue_tables.2 ⟨ih hlatest hgs, hearlier⟩)

/-- A change that brings no null in leaves fields without null. -/
theorem NullFree.change {f : Option Item → Option Item}
    (hf : ∀ found item, (∀ old, found = some old → old.toValue.NullFree) → f found = some item →
      item.toValue.NullFree)
    {names : List String} {fields new : Fields} (h : NullFree fields)
    (hnew : change f names fields = some new) : NullFree new := by
  fun_induction Toml.change f names fields generalizing new with
  | case1 => cases hnew
  | case2 fields name =>
    obtain ⟨item, hitem, rfl⟩ := Option.map_eq_some_iff.1 hnew
    exact h.putField (hf _ _ (fun old hold => h.lookup hold) hitem)
  | case3 fields name names hnames hfree ih =>
    obtain ⟨fs, hfs, rfl⟩ := Option.map_eq_some_iff.1 hnew
    exact h.putField (nullFree_toValue_table.2 (ih nullFree_nil hfs))
  | case4 => cases hnew
  | case5 fields name names hnames kind fs hfound ih =>
    obtain ⟨gs, hgs, rfl⟩ := Option.map_eq_some_iff.1 hnew
    have hfs : NullFree fs := nullFree_toValue_table.1 (h.lookup hfound)
    exact h.putField (nullFree_toValue_table.2 (ih hfs hgs))
  | case6 fields name names hnames latest earlier hfound ih =>
    obtain ⟨gs, hgs, rfl⟩ := Option.map_eq_some_iff.1 hnew
    obtain ⟨hlatest, hearlier⟩ := nullFree_toValue_tables.1 (h.lookup hfound)
    exact h.putField (nullFree_toValue_tables.2 ⟨ih hlatest hgs, hearlier⟩)

/-- What every step of a run that may fail keeps holds in the end of a run that does not. -/
theorem of_foldlM {σ α : Type} {P : σ → Prop} {step : σ → α → Option σ} {xs : List α}
    (hstep : ∀ x ∈ xs, ∀ s s', P s → step s x = some s' → P s') {s s' : σ} (hs : P s)
    (hrun : xs.foldlM step s = some s') : P s' := by
  induction xs generalizing s with
  | nil =>
    obtain ⟨⟩ := hrun
    exact hs
  | cons x rest ih =>
    rw [List.foldlM_cons] at hrun
    obtain ⟨next, hnext, hrun⟩ := Option.bind_eq_some_iff.1 hrun
    obtain ⟨hfirst, hrest⟩ := List.forall_mem_cons.1 hstep
    exact ih hrest (hfirst s next hs hnext) hrun

/-- Assignments in a row, each of a value without null, leave fields without null. -/
theorem NullFree.assignAll {entries : List (List String × Value)}
    (hentries : ∀ entry ∈ entries, entry.2.NullFree) {fields new : Fields} (h : NullFree fields)
    (hnew : entries.foldlM (fun fields (names, v) => Toml.assign v .headed names fields) fields =
      some new) : NullFree new :=
  of_foldlM (fun entry hentry _ _ hs hstep => hs.assign (hentries entry hentry) hstep) h hnew

/-- A whole number in range. -/
theorem nullFree_inRange? {n : Int} {v : Value} (h : inRange? n = some v) : v.NullFree := by
  unfold inRange? at h
  split_ifs at h
  obtain ⟨⟩ := h
  exact .signed n

/-- A number in another base. -/
theorem nullFree_based? {digit? : Char → Option Nat} {base : Nat} {cs rest : List Char} {v : Value}
    (h : based? digit? base cs = some (v, rest)) : v.NullFree := by
  obtain ⟨⟨digits, after⟩, -, hdigits⟩ := Option.bind_eq_some_iff.1 h
  obtain ⟨u, hu, ⟨⟩⟩ := Option.map_eq_some_iff.1 hdigits
  obtain ⟨n, -, hn⟩ := Option.bind_eq_some_iff.1 hu
  exact nullFree_inRange? hn

/-- A number in base ten, whole or not. -/
theorem nullFree_decimal? {negative : Bool} {cs rest : List Char} {v : Value}
    (h : decimal? negative cs = some (v, rest)) : v.NullFree := by
  obtain ⟨⟨whole, afterWhole⟩, -, h⟩ := Option.bind_eq_some_iff.1 h
  obtain ⟨⟨fraction, afterFraction⟩, -, h⟩ := Option.bind_eq_some_iff.1 h
  obtain ⟨⟨exponent, afterExponent⟩, -, h⟩ := Option.bind_eq_some_iff.1 h
  dsimp only at h
  by_cases hwhole : fraction = [] ∧ exponent = []
  · rw [if_pos hwhole] at h
    obtain ⟨u, hu, ⟨⟩⟩ := Option.map_eq_some_iff.1 h
    obtain ⟨n, -, hn⟩ := Option.bind_eq_some_iff.1 hu
    exact nullFree_inRange? hn
  · rw [if_neg hwhole] at h
    split at h
    next x _ =>
      by_cases hx : x = .infinite false
      · rw [if_pos hx] at h
        cases h
      · rw [if_neg hx] at h
        obtain ⟨⟩ := h
        exact .float x
    next => cases h

/-- Numbers, dates and truth values are not null. -/
theorem nullFree_scalar? {cs rest : List Char} {v : Value} (h : scalar? cs = some (v, rest)) :
    v.NullFree := by
  unfold scalar? at h
  split at h
  · obtain ⟨⟩ := h
    exact .bool true
  · obtain ⟨⟩ := h
    exact .bool false
  · split_ifs at h
    · -- a date is a table with its text
      obtain ⟨after, -, ⟨⟩⟩ := Option.map_eq_some_iff.1 h
      exact .table (List.forall_mem_singleton.2 (.string _))
    · unfold number? at h
      split at h
      · exact nullFree_based? h
      · exact nullFree_based? h
      · exact nullFree_based? h
      · dsimp only at h
        split at h
        · obtain ⟨⟩ := h
          exact .float _
        · obtain ⟨⟩ := h
          exact .float _
        · exact nullFree_decimal? h

/-- What the four readers of values give with some fuel holds no null. -/
structure NullFreeAt (fuel : Nat) : Prop where
  ofValue : ∀ cs v rest, value? fuel cs = some (v, rest) → v.NullFree
  ofItems : ∀ cs vs rest, items? fuel cs = some (vs, rest) → ∀ v ∈ vs, v.NullFree
  ofEntries : ∀ cs es rest, entries? fuel cs = some (es, rest) → ∀ entry ∈ es, entry.2.NullFree
  ofAssignment : ∀ cs entry rest, assignment? fuel cs = some (entry, rest) → entry.2.NullFree

namespace NullFreeAt

variable {fuel : Nat} {cs rest : List Char}

/-- The first character of a value tells what it is; a table in braces is put together from its
assignments. -/
theorem value?_succ (ih : NullFreeAt fuel) {v : Value}
    (h : value? (fuel + 1) cs = some (v, rest)) : v.NullFree := by
  rw [value?.eq_def] at h
  dsimp only at h
  split at h
  · obtain ⟨⟨text, more⟩, -, ⟨⟩⟩ := Option.map_eq_some_iff.1 h
    exact .string text
  · obtain ⟨⟨text, more⟩, -, ⟨⟩⟩ := Option.map_eq_some_iff.1 h
    exact .string text
  · obtain ⟨⟨vs, more⟩, hvs, ⟨⟩⟩ := Option.map_eq_some_iff.1 h
    exact .list (ih.ofItems _ _ _ hvs)
  · split at h
    · obtain ⟨⟩ := h
      exact .table fun field hfield => absurd hfield List.not_mem_nil
    · obtain ⟨⟨es, more⟩, hes, h⟩ := Option.bind_eq_some_iff.1 h
      obtain ⟨fields, hfields, ⟨⟩⟩ := Option.map_eq_some_iff.1 h
      exact nullFree_table.2 (nullFree_nil.assignAll (ih.ofEntries _ _ _ hes) hfields)
  · exact nullFree_scalar? h

/-- A list ends at once, after one more item, or goes on behind that. -/
theorem items?_succ (ih : NullFreeAt fuel) {vs : List Value}
    (h : items? (fuel + 1) cs = some (vs, rest)) : ∀ v ∈ vs, v.NullFree := by
  rw [items?] at h
  split at h
  · obtain ⟨⟩ := h
    exact fun v hv => absurd hv List.not_mem_nil
  · split at h
    next => cases h
    next v after hv =>
      split at h
      · obtain ⟨⟨us, more⟩, hus, ⟨⟩⟩ := Option.map_eq_some_iff.1 h
        exact List.forall_mem_cons.2 ⟨ih.ofValue _ _ _ hv, ih.ofItems _ _ _ hus⟩
      · obtain ⟨⟩ := h
        exact List.forall_mem_singleton.2 (ih.ofValue _ _ _ hv)
      · cases h

/-- A table in braces has one assignment, or goes on behind it. -/
theorem entries?_succ (ih : NullFreeAt fuel) {es : List (List String × Value)}
    (h : entries? (fuel + 1) cs = some (es, rest)) : ∀ entry ∈ es, entry.2.NullFree := by
  rw [entries?] at h
  split at h
  next => cases h
  next entry after hentry =>
    split at h
    · obtain ⟨⟨us, more⟩, hus, ⟨⟩⟩ := Option.map_eq_some_iff.1 h
      exact List.forall_mem_cons.2 ⟨ih.ofAssignment _ _ _ hentry, ih.ofEntries _ _ _ hus⟩
    · obtain ⟨⟩ := h
      exact List.forall_mem_singleton.2 (ih.ofAssignment _ _ _ hentry)
    · cases h

/-- An assignment sets a value. -/
theorem assignment?_succ (ih : NullFreeAt fuel) {entry : List String × Value}
    (h : assignment? (fuel + 1) cs = some (entry, rest)) : entry.2.NullFree := by
  rw [assignment?] at h
  split at h
  next names after _ =>
    obtain ⟨⟨v, more⟩, hv, ⟨⟩⟩ := Option.map_eq_some_iff.1 h
    exact ih.ofValue _ _ _ hv
  next => cases h

end NullFreeAt

/-- The notation of values has no null. -/
theorem nullFreeAt (fuel : Nat) : NullFreeAt fuel := by
  induction fuel with
  | zero =>
    exact ⟨by simp [value?], by simp [items?], by simp [entries?], by simp [assignment?]⟩
  | succ fuel ih =>
    exact ⟨fun _ _ _ h => ih.value?_succ h, fun _ _ _ h => ih.items?_succ h,
      fun _ _ _ h => ih.entries?_succ h, fun _ _ _ h => ih.assignment?_succ h⟩

/-- What a line of a document sets is not null. -/
def Line.NullFree : Line → Prop
  | .entry _ v => v.NullFree
  | .header _ | .listHeader _ => True

/-- A line that is read sets nothing to null. -/
theorem nullFree_line? {cs rest : List Char} {line : Line} (h : line? cs = some (line, rest)) :
    line.NullFree := by
  unfold line? at h
  split at h
  · split at h
    · obtain ⟨⟩ := h
      trivial
    · cases h
  · obtain ⟨⟨names, more⟩, -, ⟨⟩⟩ := Option.map_eq_some_iff.1 h
    trivial
  · obtain ⟨⟨⟨names, v⟩, more⟩, hentry, ⟨⟩⟩ := Option.map_eq_some_iff.1 h
    exact (nullFreeAt _).ofAssignment _ _ _ hentry

/-- Nor does any line of a document. -/
theorem nullFree_lines? {fuel : Nat} {cs : List Char} {lines : List Line}
    (h : lines? fuel cs = some lines) : ∀ line ∈ lines, line.NullFree := by
  induction fuel generalizing cs lines with
  | zero => cases h
  | succ fuel ih =>
    rw [lines?] at h
    split at h
    · obtain ⟨⟩ := h
      exact fun line hline => absurd hline List.not_mem_nil
    · split at h
      next => cases h
      next line after hline =>
        split at h
        · obtain ⟨⟩ := h
          exact List.forall_mem_singleton.2 (nullFree_line? hline)
        · split at h
          · obtain ⟨others, hothers, rfl⟩ := Option.map_eq_some_iff.1 h
            exact List.forall_mem_cons.2 ⟨nullFree_line? hline, ih hothers⟩
          · cases h

/-- No assignment of a section sets null. -/
def Section.NullFree (s : Section) : Prop := ∀ entry ∈ s.entries, entry.2.NullFree

/-- Lines are gathered into sections, and each section has assignments of the lines only. -/
theorem nullFree_sections {current : Section} (hcurrent : current.NullFree) {lines : List Line}
    (hlines : ∀ line ∈ lines, line.NullFree) : ∀ s ∈ sections current lines, s.NullFree := by
  have hempty : ∀ (names : List String) (isList : Bool),
      Section.NullFree { names, isList } := fun _ _ entry h => absurd h List.not_mem_nil
  induction lines generalizing current with
  | nil => exact List.forall_mem_singleton.2 hcurrent
  | cons line rest ih =>
    obtain ⟨hline, hrest⟩ := List.forall_mem_cons.1 hlines
    match line with
    | .entry names v =>
      refine ih (fun entry hentry => ?_) hrest
      obtain hentry | hentry := List.mem_append.1 hentry
      · exact hcurrent entry hentry
      · rw [List.mem_singleton.1 hentry]
        exact hline
    | .header names => exact List.forall_mem_cons.2 ⟨hcurrent, ih (hempty names false) hrest⟩
    | .listHeader names => exact List.forall_mem_cons.2 ⟨hcurrent, ih (hempty names true) hrest⟩

/-- What a section makes of a table, or of a list of tables, that holds no null. -/
theorem Section.NullFree.open {s : Section} (hs : s.NullFree) (found : Option Item) (item : Item)
    (hfound : ∀ old, found = some old → old.toValue.NullFree) (h : s.open found = some item) :
    item.toValue.NullFree := by
  unfold Section.open at h
  split_ifs at h
  · split at h
    next =>
      obtain ⟨fs, hfs, rfl⟩ := Option.map_eq_some_iff.1 h
      exact nullFree_toValue_tables.2
        ⟨nullFree_nil.assignAll hs hfs, fun fields hfields => absurd hfields List.not_mem_nil⟩
    next latest earlier =>
      obtain ⟨fs, hfs, rfl⟩ := Option.map_eq_some_iff.1 h
      have hold := nullFree_toValue_tables.1 (hfound _ rfl)
      exact nullFree_toValue_tables.2
        ⟨nullFree_nil.assignAll hs hfs, List.forall_mem_cons.2 hold⟩
    next => cases h
  · split at h
    next =>
      obtain ⟨fs, hfs, rfl⟩ := Option.map_eq_some_iff.1 h
      exact nullFree_toValue_table.2 (nullFree_nil.assignAll hs hfs)
    next fs =>
      obtain ⟨gs, hgs, rfl⟩ := Option.map_eq_some_iff.1 h
      have hold := nullFree_toValue_table.1 (hfound _ rfl)
      exact nullFree_toValue_table.2 (hold.assignAll hs hgs)
    next => cases h

/-- A table that gets the assignments of a section gets no null. -/
theorem Section.NullFree.add {s : Section} (hs : s.NullFree) {fields new : Fields}
    (h : Toml.NullFree fields) (hnew : Section.add fields s = some new) : Toml.NullFree new := by
  unfold Section.add at hnew
  split_ifs at hnew
  · exact h.assignAll hs hnew
  · exact h.change hs.open hnew

/-- The fields of a document hold no null. -/
theorem nullFree_read? {text : String} {fields : List (String × Value)}
    (h : read? text = some fields) : ∀ field ∈ fields, field.2.NullFree := by
  obtain ⟨lines, hlines, h⟩ := Option.bind_eq_some_iff.1 h
  obtain ⟨items, hitems, ⟨⟩⟩ := Option.bind_eq_some_iff.1 h
  have hempty : Section.NullFree { names := [] } := fun entry h => absurd h List.not_mem_nil
  have hsections := nullFree_sections hempty (nullFree_lines? hlines)
  have hnew : NullFree items :=
    of_foldlM (fun s hs _ _ hold hstep => (hsections s hs).add hold hstep) nullFree_nil hitems
  obtain ⟨⟩ := nullFree_table.2 hnew
  next h => exact h

end IconSubset.Toml
