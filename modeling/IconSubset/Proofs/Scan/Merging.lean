import IconSubset.Proofs.IconSet.Operations
import IconSubset.Proofs.Scan.Accumulation

/-!
# Merging the sets of workers

Source files are scanned side by side into several sets, and the sets are merged. Nothing says in
which order: a worker may merge sets as they come, merge what another worker has merged, or come
upon a set a second time. Such a way of merging is a tree with the sets at its leaves (`Merging`).
It merges a family of sets when each of them stands at one leaf or more and no other set does
(`Merging.Covers`).

What a tree comes to has the names of the sets at its leaves (`mem_result`), by induction on the
tree, where one step is `IconSet.mem_union`. Members determine a set, so the family alone decides
what a tree comes to (`Covers.result_eq`). No step asks what the names are, so that the sets may as
well have been read back with padded or empty names in them.

However the source files of a scan are dealt out to workers, merging the sets of the workers gives
the icons of its report (`Covers.icons_eq_of_shares`), and so does merging the sets of single files.
-/

namespace IconSubset

/-- A way of merging sets into one. -/
inductive Merging where
  /-- A worker that has merged nothing yet. -/
  | fresh
  /-- One of the sets. -/
  | one (s : IconSet)
  /-- What the second way comes to is merged into what the first way comes to. -/
  | merge (into other : Merging)

namespace Merging

/-- What a way of merging comes to. -/
def result : Merging → IconSet
  | fresh => .empty
  | one s => s
  | merge into other => into.result.union other.result

/-- The sets that are merged, from left to right, each as often as it is merged. -/
def sets : Merging → List IconSet
  | fresh => []
  | one s => [s]
  | merge into other => into.sets ++ other.sets

/-- Each set of a family is merged once or more often, and no other set is. -/
def Covers (m : Merging) (family : List IconSet) : Prop := ∀ s, s ∈ m.sets ↔ s ∈ family

/-- The sets of a family are merged one after another, in their order. -/
def inOrder (family : List IconSet) : Merging := family.foldl (fun m s => .merge m (.one s)) .fresh

/-- The names of what a way of merging comes to are those of the sets that are merged. -/
theorem mem_result {m : Merging} {name : String} :
    name ∈ m.result ↔ ∃ s ∈ m.sets, name ∈ s := by
  -- A union has the names of both sides, whichever is empty: the tree needs no further cases.
  induction m with
  | fresh => exact iff_of_false IconSet.not_mem_empty fun ⟨_, hs, _⟩ => List.not_mem_nil hs
  | one s =>
    constructor
    · exact fun hname => ⟨s, List.mem_singleton_self s, hname⟩
    · rintro ⟨t, ht, hname⟩
      obtain rfl := List.mem_singleton.1 ht
      exact hname
  | merge into other ihInto ihOther =>
    show name ∈ into.result.union other.result ↔ ∃ s ∈ into.sets ++ other.sets, name ∈ s
    rw [IconSet.mem_union, ihInto, ihOther, ← exists_or]
    refine exists_congr fun s => ?_
    rw [List.mem_append, or_and_right]

/-- Merging more sets one after another merges them as well. -/
theorem sets_foldl (m : Merging) (family : List IconSet) :
    (family.foldl (fun m s => .merge m (.one s)) m).sets = m.sets ++ family := by
  induction family generalizing m with
  | nil => rw [List.foldl_nil, List.append_nil]
  | cons s rest ih =>
    rw [List.foldl_cons, ih]
    show (m.sets ++ [s]) ++ rest = m.sets ++ s :: rest
    rw [List.append_assoc, List.singleton_append]

/-- Merging sets one after another comes to the union of all of them, taken from the left. -/
theorem result_foldl (m : Merging) (family : List IconSet) :
    (family.foldl (fun m s => .merge m (.one s)) m).result = family.foldl .union m.result := by
  induction family generalizing m with
  | nil => rfl
  | cons s rest ih =>
    rw [List.foldl_cons, List.foldl_cons, ih]
    rfl

/-- Merging the sets of a family one after another merges all of them. -/
theorem covers_inOrder (family : List IconSet) : (inOrder family).Covers family := by
  intro s
  unfold inOrder
  rw [sets_foldl]
  exact Iff.rfl

variable {m other : Merging} {family : List IconSet}

/-- The names of what a way of merging a family comes to are those of its sets. -/
theorem Covers.mem_result (h : m.Covers family) {name : String} :
    name ∈ m.result ↔ ∃ s ∈ family, name ∈ s :=
  Merging.mem_result.trans (exists_congr fun s => and_congr_left' (h s))

/-- All ways of merging a family come to the same set. -/
theorem Covers.result_eq (h : m.Covers family) (h' : other.Covers family) :
    other.result = m.result :=
  IconSet.ext_mem fun _ => h'.mem_result.trans h.mem_result.symm

/-- Any way of merging a family comes to what merging its sets one after another comes to. -/
theorem Covers.result_eq_foldl (h : m.Covers family) : m.result = family.foldl .union .empty :=
  calc m.result = (inOrder family).result := (covers_inOrder family).result_eq h
    _ = family.foldl .union .empty := result_foldl .fresh family

end Merging

/-! ## The sets of a scan -/

namespace Settings

variable {s : Settings}

/-- The set of a worker that has put in the icons of its share of the source files, one file after
another. -/
def shareSet (s : Settings) (share : List SourceFile) : IconSet :=
  (s.extractor.processAll share .empty).2

/-- The set of a source file on its own. -/
def ownSet (s : Settings) (file : SourceFile) : IconSet := (s.extractor.process file .empty).2

/-- The sets that a scan merges: the icons that the project always keeps, and the set of each source
file. -/
def ownSets (s : Settings) (sources : List SourceFile) : List IconSet :=
  .ofList s.safelist :: sources.map s.ownSet

/-- The names in the set of a worker are the icons of the well-formed files of its share. -/
theorem mem_shareSet {share : List SourceFile} {name : String} : name ∈ s.shareSet share ↔
    ∃ file ∈ share, ∃ found, s.extractor.extract file.text = .ok found ∧ name ∈ found :=
  Extractor.mem_processAll_snd.trans (or_iff_right IconSet.not_mem_empty)

end Settings

namespace Merging

variable {s : Settings} {sources : List SourceFile} {m : Merging}

/-- Source files are dealt out to workers, a file perhaps to several of them. Any way of merging the
sets of the workers with the icons that the project keeps comes to the icons of the report. -/
theorem Covers.icons_eq_of_shares {shares : List (List SourceFile)}
    (hshares : ∀ file, (∃ share ∈ shares, file ∈ share) ↔ file ∈ sources)
    (h : m.Covers (.ofList s.safelist :: shares.map s.shareSet)) :
    m.result = (s.scanSources sources).icons := by
  refine IconSet.ext_mem fun name => ?_
  rw [h.mem_result, Settings.mem_icons_scanSources, List.exists_mem_cons_iff]
  refine or_congr_right ?_
  constructor
  · rintro ⟨own, hown, hname⟩
    obtain ⟨share, hshare, rfl⟩ := List.mem_map.1 hown
    obtain ⟨file, hfile, hfound⟩ := Settings.mem_shareSet.1 hname
    exact ⟨file, (hshares file).1 ⟨share, hshare, hfile⟩, hfound⟩
  · rintro ⟨file, hfile, hfound⟩
    obtain ⟨share, hshare, hin⟩ := (hshares file).2 hfile
    exact ⟨s.shareSet share, List.mem_map_of_mem hshare,
      Settings.mem_shareSet.2 ⟨file, hin, hfound⟩⟩

/-- Any way of merging the sets of a scan comes to the icons of its report. -/
theorem Covers.icons_eq (h : m.Covers (s.ownSets sources)) :
    m.result = (s.scanSources sources).icons := by
  -- Each file is the share of a worker of its own.
  have hshares (file : SourceFile) :
      (∃ share ∈ sources.map fun f => [f], file ∈ share) ↔ file ∈ sources := by
    constructor
    · rintro ⟨share, hshare, hfile⟩
      obtain ⟨f, hf, rfl⟩ := List.mem_map.1 hshare
      obtain rfl := List.mem_singleton.1 hfile
      exact hf
    · exact fun hfile => ⟨[file], List.mem_map.2 ⟨file, hfile, rfl⟩, List.mem_singleton_self file⟩
  refine Covers.icons_eq_of_shares hshares ?_
  rw [List.map_map]
  exact h

/-- The union of two sets, whatever names they hold, has the names of both, in the order of their
bytes, and is the same as if the names of the second were put in one by one, the shortcut for an
empty first set included. It is commutative, associative and idempotent, with the empty set as its
unit. Therefore all ways of merging a family of sets, in any order and bracketing and with any set
merged more than once, come to the same set in the same order: the one of merging them one after
another, which has the names of all of them. For the sets of a scan this is the set that it
reports. -/
theorem result_determined :
    (∀ a b : IconSet, a.union b = b.toList.foldl .insertVerbatim a ∧
      IconSet.InByteOrder (a.union b).toList ∧
      ∀ x, x ∈ (a.union b).toList ↔ x ∈ a.toList ∨ x ∈ b.toList) ∧
    (∀ a b : IconSet, a.union b = b.union a) ∧
    (∀ a b c : IconSet, (a.union b).union c = a.union (b.union c)) ∧
    (∀ a : IconSet, a.union a = a ∧ IconSet.empty.union a = a ∧ a.union .empty = a) ∧
    (∀ (family : List IconSet) (m : Merging), m.Covers family →
      m.result = family.foldl .union .empty ∧
      IconSet.InByteOrder m.result.toList ∧
      (∀ x, x ∈ m.result.toList ↔ ∃ s ∈ family, x ∈ s.toList) ∧
      ∀ other : Merging, other.Covers family →
        other.result = m.result ∧ other.result.toList = m.result.toList) ∧
    (∀ (settings : Settings) (sources : List SourceFile) (m : Merging),
      m.Covers (settings.ownSets sources) → m.result = (settings.scanSources sources).icons) := by
  refine ⟨fun a b => ?_, IconSet.union_comm, IconSet.union_assoc, fun a => ?_,
    fun family m h => ?_, fun settings sources m h => h.icons_eq⟩
  · exact ⟨IconSet.union_eq_foldl a b, IconSet.inByteOrder_toList _,
      fun _ => IconSet.mem_union⟩
  · exact ⟨IconSet.union_self a, IconSet.empty_union a, IconSet.union_empty a⟩
  -- Another way of merging the family differs in the tree only, and the tree does not matter.
  · refine ⟨h.result_eq_foldl, IconSet.inByteOrder_toList _, fun _ => h.mem_result,
      fun other hother => ?_⟩
    have hresult : other.result = m.result := h.result_eq hother
    exact ⟨hresult, congrArg IconSet.toList hresult⟩

/-- Two workers share three sets, and the second has merged its own before the first takes them
over. -/
def sideBySide (a b c : IconSet) : Merging :=
  .merge (.merge .fresh (.one a)) (.merge (.one c) (.one b))

/-- Three sets in another order and bracketing, the last of them twice. -/
def repeated (a b c : IconSet) : Merging :=
  .merge (.one c) (.merge (.merge (.one b) (.one a)) (.one c))

/-- Two workers merge all three sets. -/
theorem covers_sideBySide (a b c : IconSet) : (sideBySide a b c).Covers [a, b, c] := by
  intro s
  simp only [sideBySide, sets, List.nil_append, List.cons_append, List.mem_cons]
  tauto

/-- Merging a set twice merges all three sets as well. -/
theorem covers_repeated (a b c : IconSet) : (repeated a b c).Covers [a, b, c] := by
  intro s
  simp only [repeated, sets, List.cons_append, List.nil_append, List.mem_cons]
  tauto

/-- A set that was read back with a padded and an empty name in it comes to the same names in the
same order in both ways of merging it with two others, and a scan does not change when the set of
one of its two source files is merged twice. -/
theorem result_determined_mixed :
    let loaded : IconSet := .ofVerbatim [" menu ", ""]
    let family : List IconSet := [loaded, .ofList ["home"], .ofList ["add", "home"]]
    let settings : Settings := { variant := .rounded, safelist := ["home"] }
    let first : SourceFile :=
      ⟨"a.tsx", "const a = <i className='material-symbols-rounded'>menu</i>;"⟩
    let second : SourceFile := ⟨"b.tsx", "const b = ;"⟩
    let own : Merging :=
      repeated (.ofList settings.safelist) (settings.ownSet first) (settings.ownSet second)
    (∃ m other : Merging, m.Covers family ∧ other.Covers family ∧ m.sets ≠ other.sets ∧
      other.result = m.result ∧ m.result.toList = ["", " menu ", "add", "home"]) ∧
    own.Covers (settings.ownSets [first, second]) ∧
      own.result = (settings.scanSources [first, second]).icons := by
  intro loaded family settings first second own
  obtain ⟨-, -, -, -, hfamily, hscan⟩ := result_determined
  have hside := covers_sideBySide loaded (.ofList ["home"]) (.ofList ["add", "home"])
  have hrepeated := covers_repeated loaded (.ofList ["home"]) (.ofList ["add", "home"])
  obtain ⟨-, -, -, hsame⟩ := hfamily family _ hside
  have hown : own.Covers (settings.ownSets [first, second]) := covers_repeated _ _ _
  exact ⟨⟨_, _, hside, hrepeated, by decide, (hsame _ hrepeated).1, by decide⟩, hown,
    hscan settings [first, second] own hown⟩

end Merging

end IconSubset
