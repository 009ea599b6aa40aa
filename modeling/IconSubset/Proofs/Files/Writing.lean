import IconSubset.Proofs.Files.Walking

/-!
# What writing changes

Making directories changes no file and no link, also when it fails half way
(`leafAt?_makeDirectories`). Writing a text to a path puts it at one place and changes nothing else:
the path leads to that place afterwards, and reading it gives the text (`writes_of_writeText`).

A path leads to the same place before and after, since it is followed through directories and links,
and writing changes neither (`Walks.written`).
-/

namespace IconSubset.Entry

/-! ## Files -/

/-- Putting an entry where there is no directory changes no leaf elsewhere, when nothing is in the
entry. -/
theorem leafAt?_put_place {tree e : Entry} {place : Place} {final : Bool}
    (hplace : place.Sound tree final)
    (hfree : ∀ entries, tree.at? place.names ≠ some (.directory entries))
    (he : ∀ below, below ≠ [] → e.leafAt? below = none) {others : List ByteString}
    (hother : others ≠ place.names) :
    (put e tree place.names).leafAt? others = tree.leafAt? others := by
  obtain hnil | ⟨above, name, hnames⟩ := List.eq_nil_or_concat' place.names
  · -- The tree itself is replaced.
    rw [hnil] at hfree hother
    rw [hnil, put, he others hother]
    have hnone : tree.leafAt? ([] ++ others) = none := leafAt?_below hother hfree
    exact hnone.symm
  · obtain ⟨entries, hentries⟩ := hplace.inside above name hnames
    rw [hnames] at hfree hother ⊢
    by_cases hprefix : above ++ [name] <+: others
    · -- There was nothing in the place, and there is nothing in the entry.
      obtain ⟨below, rfl⟩ := hprefix
      have hbelow : below ≠ [] := by
        rintro rfl
        exact hother (List.append_nil _)
      have hnew : (put e tree (above ++ [name])).leafAt? (above ++ [name] ++ below) =
          e.leafAt? below := by
        unfold leafAt?
        rw [List.append_assoc, List.singleton_append, at?_put_append e name hentries]
      rw [hnew, he below hbelow, leafAt?_below hbelow hfree]
    · exact leafAt?_put e name hentries hprefix

/-- A file is written only to a place in a directory where there is no directory. -/
theorem exists_place_of_writeText {tree tree' : Entry} {path : ByteString} {text : String}
    (h : tree.writeText path text = .ok tree') :
    ∃ place, tree.locate path = .ok place ∧
      (∀ entries, place.occupant ≠ some (.directory entries)) ∧
      (place.occupant = none → place.slash = false) ∧
        tree' = put (.file (.text text)) tree place.names := by
  unfold writeText at h
  cases hlocate : tree.locate path with
  | error error =>
    rw [hlocate] at h
    cases h
  | ok place =>
    rw [hlocate] at h
    refine ⟨place, rfl, ?_⟩
    match place, h with
    | { names, occupant := some (.file _), .. }, h =>
      exact ⟨nofun, nofun, (Except.ok.inj h).symm⟩
    | { names, occupant := some (.link _), .. }, h =>
      exact ⟨nofun, nofun, (Except.ok.inj h).symm⟩
    | { names, occupant := none, slash := false }, h =>
      exact ⟨nofun, fun _ => rfl, (Except.ok.inj h).symm⟩

/-- A path leads to the same place after a file has been put there: the directories on the way are
still directories, and the links are still the same links. -/
theorem Walks.written {tree tree' : Entry} {links : Nat} {position : List ByteString}
    {parts : List (List UInt8)} {place : Place} {content : FileContent}
    (h : Walks tree true links position parts place)
    (hfile : tree'.at? place.names = some (.file content))
    (hdirectories : ∀ names entries, tree.at? names = some (.directory entries) →
      ∃ new, tree'.at? names = some (.directory new))
    (hleaves : ∀ names, names ≠ place.names → tree'.leafAt? names = tree.leafAt? names)
    (hlink : ∀ target, tree.at? place.names ≠ some (.link target))
    (hslash : place.occupant = none → place.slash = false) :
    Walks tree' true links position parts
      { names := place.names, occupant := some (.file content) } := by
  have hdir : ∀ {names : List ByteString}, (∃ entries, tree.at? names = some (.directory entries)) →
      ∃ new, tree'.at? names = some (.directory new) := fun ⟨entries, h⟩ =>
    hdirectories _ entries h
  have hnames' : ∀ {position : List ByteString} {part : List UInt8}, Names tree position part →
      Names tree' position part := fun h => ⟨hdir h.directory, h.not_idle, h.not_up⟩
  induction h with
  | @done links position =>
    have hdone : Walks tree' true links position [] _ := .done
    rwa [hfile] at hdone
  | idle hdirectory hidle _ ih =>
    exact .idle (hdir hdirectory) hidle (ih hfile hleaves hlink hslash)
  | up hdirectory _ ih => exact .up (hdir hdirectory) (ih hfile hleaves hlink hslash)
  | stop _ hfinal _ => cases hfinal
  | @follow _ position part _ target place hnames hgo hat hinside _ ih =>
    have hne : (ByteString.mk part :: position).reverse ≠ place.names := fun heq =>
      hlink target (heq ▸ hat)
    have hat' : tree'.at? (ByteString.mk part :: position).reverse = some (.link target) :=
      at?_of_leafAt?_eq (hleaves _ hne) hat nofun
    exact .follow (hnames' hnames) hgo hat' hinside (ih hfile hleaves hlink hslash)
  | @step _ position part _ e place hnames hat hnot _ ih =>
    have hrest := ih hfile hleaves hlink hslash
    by_cases heq : (ByteString.mk part :: position).reverse = place.names
    · rw [← heq] at hfile
      exact .step (hnames' hnames) hfile nofun hrest
    · cases e with
      | file old =>
        have hat' : tree'.at? (ByteString.mk part :: position).reverse = some (.file old) :=
          at?_of_leafAt?_eq (hleaves _ heq) hat nofun
        exact .step (hnames' hnames) hat' nofun hrest
      | link target => exact absurd rfl (hnot target)
      | directory entries =>
        obtain ⟨new, hnew⟩ := hdirectories _ entries hat
        exact .step (hnames' hnames) hnew nofun hrest
  | @missing links position part parts hnames _ _ =>
    -- The name leads to nothing before, and to the file now.
    have hnil : parts = [] := by simpa using hslash rfl
    subst hnil
    have hdone : Walks tree' true links (ByteString.mk part :: position) [] _ := .done
    dsimp only at hfile ⊢
    rw [hfile] at hdone
    exact .step (hnames' hnames) hfile nofun hdone

/-- Directories stay directories when an entry is put where there is none. -/
theorem exists_entries_put_place {tree e : Entry} {place : Place} {final : Bool}
    (hplace : place.Sound tree final)
    (hfree : ∀ entries, tree.at? place.names ≠ some (.directory entries)) {names : List ByteString}
    {entries : List (ByteString × Entry)} (h : tree.at? names = some (.directory entries)) :
    ∃ new, (put e tree place.names).at? names = some (.directory new) := by
  obtain hnil | ⟨above, name, hnames⟩ := List.eq_nil_or_concat' place.names
  · rw [hnil] at hfree
    obtain ⟨inner, hinner⟩ : ∃ inner, tree.at? [] = some (.directory inner) := by
      cases names with
      | nil => exact ⟨entries, h⟩
      | cons name names => exact exists_entries_of_at? (List.cons_ne_nil name names) h
    exact absurd hinner (hfree inner)
  · obtain ⟨outer, houter⟩ := hplace.inside above name hnames
    rw [hnames] at hfree ⊢
    have hother : ¬above ++ [name] <+: names := by
      rintro ⟨below, rfl⟩
      cases below with
      | nil =>
        rw [List.append_nil] at h
        exact hfree entries h
      | cons n below =>
        obtain ⟨inner, hinner⟩ := exists_entries_of_at? (List.cons_ne_nil n below) h
        exact hfree inner hinner
    obtain hsame | ⟨_, new, _, hnew⟩ := at?_put_other e name houter hother
    · exact ⟨entries, hsame.trans h⟩
    · exact ⟨new, hnew⟩

/-- An entry stands where it has been put. -/
theorem at?_put_place {tree e : Entry} {place : Place} {final : Bool}
    (hplace : place.Sound tree final) : (put e tree place.names).at? place.names = some e := by
  obtain hnil | ⟨above, name, hnames⟩ := List.eq_nil_or_concat' place.names
  · rw [hnil, put, at?_nil]
  · obtain ⟨entries, hentries⟩ := hplace.inside above name hnames
    rw [hnames, at?_put_append e name hentries [], at?_nil]

/-- Writing a text to a path puts it at the place that the path leads to, and changes no other file
and no link. -/
theorem writes_of_writeText {tree tree' : Entry} {path : ByteString} {text : String}
    (h : tree.writeText path text = .ok tree') :
    ∃ names, tree'.locate path = .ok { names, occupant := some (.file (.text text)) } ∧
      ∀ others, others ≠ names → tree'.leafAt? others = tree.leafAt? others := by
  obtain ⟨place, hlocate, hdirectory, hslash, rfl⟩ := exists_place_of_writeText h
  have hplace := locate_sound hlocate
  have hfree : ∀ entries, tree.at? place.names ≠ some (.directory entries) := by
    rw [hplace.occupant_eq]
    exact hdirectory
  have hleaves : ∀ others, others ≠ place.names →
      (put (.file (.text text)) tree place.names).leafAt? others = tree.leafAt? others := by
    intro others hother
    exact leafAt?_put_place hplace hfree (fun below hbelow => leafAt?_file _ hbelow) hother
  refine ⟨place.names, ?_, hleaves⟩
  unfold locate at hlocate ⊢
  split_ifs at hlocate with hempty
  rw [if_neg hempty]
  -- The steps that led to the place lead there in the new tree too.
  refine (Walks.written (walks_of_walk tree true _ _ _ hlocate) (at?_put_place hplace) ?_ hleaves ?_
    hslash).walk_eq
  · exact fun names entries => exists_entries_put_place hplace hfree
  · rw [hplace.occupant_eq]
    exact hplace.not_link rfl

/-- What has been written to a path is read from it. -/
theorem readText_writeText {tree tree' : Entry} {path : ByteString} {text : String}
    (h : tree.writeText path text = .ok tree') : tree'.readText path = .ok text := by
  obtain ⟨names, hlocate, -⟩ := writes_of_writeText h
  unfold readText read find
  rw [hlocate]
  rfl

/-! ## Directories -/

/-- Making a directory changes no file and no link. -/
theorem leafAt?_makeDirectory {tree tree' : Entry} {path : ByteString}
    (h : tree.makeDirectory path = .ok tree') (names : List ByteString) :
    tree'.leafAt? names = tree.leafAt? names := by
  unfold makeDirectory at h
  split at h
  · next place _ hlocate =>
    obtain rfl := Except.ok.inj h
    have hplace := locate_sound hlocate
    have hnone := hplace.occupant_eq
    dsimp only at hnone
    have hfree : ∀ entries, tree.at? place ≠ some (.directory entries) := by
      rw [hnone]
      nofun
    by_cases hnames : names = place
    · subst hnames
      rw [leafAt?_of_none hnone]
      exact leafAt?_of_directory (at?_put_place hplace)
    · refine leafAt?_put_place hplace hfree (fun below hbelow => ?_) hnames
      obtain ⟨name, below, rfl⟩ := List.exists_cons_of_ne_nil hbelow
      exact leafAt?_directory [] name below
  · cases h
  · cases h

/-- Making a directory unless there is one changes no file and no link. -/
theorem leafAt?_ensureDirectory (tree : Entry) (path : ByteString) (names : List ByteString) :
    (tree.ensureDirectory path).1.leafAt? names = tree.leafAt? names := by
  unfold ensureDirectory
  split
  · next tree' h => exact leafAt?_makeDirectory h names
  · rfl

/-- Making directories one above the other changes no file and no link, wherever it stops. -/
theorem leafAt?_makeDirectoriesUpTo (tree : Entry) (levels : Nat) (path : ByteString)
    (names : List ByteString) :
    (tree.makeDirectoriesUpTo levels path).1.leafAt? names = tree.leafAt? names := by
  induction levels generalizing path with
  | zero => rfl
  | succ levels ih =>
    unfold makeDirectoriesUpTo
    split_ifs
    · rfl
    · split
      · split
        · rfl
        · next above _ =>
          have habove := ih above
          split
          · next hmade => rw [hmade] at habove; exact habove
          · next hmade =>
            rw [hmade] at habove
            rw [leafAt?_ensureDirectory, habove]
      · exact leafAt?_ensureDirectory tree path names

/-- Making directories changes no file and no link, also when it fails. -/
theorem leafAt?_makeDirectories (tree : Entry) (path : ByteString) (names : List ByteString) :
    (tree.makeDirectories path).1.leafAt? names = tree.leafAt? names :=
  leafAt?_makeDirectoriesUpTo tree _ path names

end IconSubset.Entry
