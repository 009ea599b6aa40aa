import IconSubset.Proofs.Files.Leaves

/-!
# Following a path

A path is followed part by part, with a rule for each kind of part (`Walks`). The place that it
comes to lies in a directory, and no link stands there that should have been followed
(`locate_sound`).
-/

namespace IconSubset

/-- A path has a part. -/
theorem Path.splitSlashes_ne_nil (cs : List UInt8) : Path.splitSlashes cs ≠ [] := by
  cases cs with
  | nil => exact List.cons_ne_nil _ _
  | cons c cs =>
    unfold splitSlashes
    split
    · exact List.cons_ne_nil _ _
    · split
      · exact List.cons_ne_nil _ _
      · exact List.cons_ne_nil _ _

namespace Entry

/-! ## Walks -/

/-- The part of a path is a name, and is looked for in a directory. -/
structure Names (tree : Entry) (position : List ByteString) (part : List UInt8) : Prop where
  /-- There is a directory at the position. -/
  directory : ∃ entries, tree.at? position.reverse = some (.directory entries)
  /-- The part stays where it is said. -/
  not_idle : Path.isIdle part = false
  /-- The part does not lead up. -/
  not_up : part ≠ [Path.dot, Path.dot]

/-- How a walk comes to a place, with a rule for each of its steps. -/
inductive Walks (tree : Entry) (final : Bool) :
    Nat → List ByteString → List (List UInt8) → Place → Prop
  /-- Nothing is left of the path. -/
  | done {links : Nat} {position : List ByteString} : Walks tree final links position []
      { names := position.reverse, occupant := tree.at? position.reverse }
  /-- A part adds nothing. -/
  | idle {links : Nat} {position : List ByteString} {part : List UInt8} {parts : List (List UInt8)}
      {place : Place} (hdir : ∃ entries, tree.at? position.reverse = some (.directory entries))
      (hidle : Path.isIdle part = true) (h : Walks tree final links position parts place) :
      Walks tree final links position (part :: parts) place
  /-- Two dots lead up. -/
  | up {links : Nat} {name : ByteString} {above : List ByteString} {parts : List (List UInt8)}
      {place : Place}
      (hdir : ∃ entries, tree.at? (name :: above).reverse = some (.directory entries))
      (h : Walks tree final links above parts place) :
      Walks tree final links (name :: above) ([Path.dot, Path.dot] :: parts) place
  /-- A link at the end is not followed. -/
  | stop {links : Nat} {position : List ByteString} {part : List UInt8} {target : ByteString}
      (hnames : Names tree position part) (hfinal : final = false)
      (hlink : tree.at? (ByteString.mk part :: position).reverse = some (.link target)) :
      Walks tree final links position [part]
        { names := (ByteString.mk part :: position).reverse, occupant := some (.link target) }
  /-- A link is followed, so that one less can be followed from there on. -/
  | follow {links : Nat} {position : List ByteString} {part : List UInt8}
    {parts : List (List UInt8)}
      {target : ByteString} {place : Place} (hnames : Names tree position part)
      (hgo : ¬(parts = [] ∧ (!final) = true))
      (hlink : tree.at? (ByteString.mk part :: position).reverse = some (.link target))
      (hinside : Path.leadsAway target = false)
      (h : Walks tree final links position (Path.splitSlashes target.bytes ++ parts) place) :
      Walks tree final (links + 1) position (part :: parts) place
  /-- A name leads on. -/
  | step {links : Nat} {position : List ByteString} {part : List UInt8} {parts : List (List UInt8)}
      {e : Entry} {place : Place} (hnames : Names tree position part)
      (he : tree.at? (ByteString.mk part :: position).reverse = some e)
      (hnot : ∀ target, e ≠ .link target)
      (h : Walks tree final links (ByteString.mk part :: position) parts place) :
      Walks tree final links position (part :: parts) place
  /-- The last name is that of nothing yet. -/
  | missing {links : Nat} {position : List ByteString} {part : List UInt8}
    {parts : List (List UInt8)}
      (hnames : Names tree position part)
      (hnone : tree.at? (ByteString.mk part :: position).reverse = none)
      (hparts : parts.all (· == []) = true) :
      Walks tree final links position (part :: parts)
        { names := (ByteString.mk part :: position).reverse, occupant := none,
          slash := !parts.isEmpty }

/-- A walk that comes to a place does so by its steps. -/
theorem walks_of_walk (tree : Entry) (final : Bool) {place : Place} :
    ∀ (links : Nat) (position : List ByteString) (parts : List (List UInt8)),
      walk tree final links position parts = .ok place → Walks tree final links position parts place
  | links, position, [], h => by
    rw [walk.eq_def] at h
    cases h
    exact .done
  | links, position, part :: parts, h => by
    rw [walk.eq_def] at h
    dsimp only at h
    split at h
    · next entries hentries =>
      have hdir : ∃ entries, tree.at? position.reverse = some (.directory entries) :=
        ⟨entries, hentries⟩
      by_cases hidle : Path.isIdle part = true
      · rw [if_pos hidle] at h
        exact .idle hdir hidle (walks_of_walk tree final links position parts h)
      rw [if_neg hidle] at h
      by_cases hup : part = [Path.dot, Path.dot]
      · rw [if_pos hup] at h
        subst hup
        cases position with
        | nil => cases h
        | cons _ above => exact .up hdir (walks_of_walk tree final links above parts h)
      rw [if_neg hup] at h
      have hnames : Names tree position part := ⟨hdir, Bool.eq_false_iff.2 hidle, hup⟩
      split at h
      · next target htarget =>
        by_cases hstop : parts = [] ∧ (!final) = true
        · rw [if_pos hstop] at h
          obtain ⟨rfl, hfinal⟩ := hstop
          cases h
          exact .stop hnames (Bool.not_eq_true' final ▸ hfinal) htarget
        · rw [if_neg hstop] at h
          cases links with
          | zero => cases h
          | succ links =>
            dsimp only at h
            split_ifs at h with hinside
            exact .follow hnames hstop htarget (Bool.eq_false_iff.2 hinside)
              (walks_of_walk tree final links position _ h)
      · next e hnot he =>
        exact .step hnames he hnot
          (walks_of_walk tree final links _ parts h)
      · next hnone =>
        split_ifs at h with hparts
        cases h
        exact .missing hnames hnone hparts
    · cases h
    · cases h
  termination_by links _ parts => (links, parts.length)

/-- The steps of a walk lead to the place that it comes to. -/
theorem Walks.walk_eq {tree : Entry} {final : Bool} {links : Nat} {position : List ByteString}
    {parts : List (List UInt8)} {place : Place} (h : Walks tree final links position parts place) :
    walk tree final links position parts = .ok place := by
  induction h with
  | done => rw [walk.eq_def]
  | idle hdir hidle _ ih =>
    obtain ⟨entries, hentries⟩ := hdir
    rw [walk.eq_def]
    dsimp only
    rw [hentries]
    dsimp only
    rw [if_pos hidle, ih]
  | up hdir _ ih =>
    obtain ⟨entries, hentries⟩ := hdir
    rw [walk.eq_def]
    dsimp only
    rw [hentries]
    exact ih
  | stop hnames hfinal hlink =>
    obtain ⟨⟨entries, hentries⟩, hidle, hup⟩ := hnames
    rw [walk.eq_def]
    dsimp only
    rw [hentries]
    dsimp only
    rw [if_neg (Bool.eq_false_iff.1 hidle), if_neg hup, hlink]
    dsimp only
    rw [if_pos ⟨rfl, by rw [hfinal]; rfl⟩]
  | follow hnames hgo hlink hinside _ ih =>
    obtain ⟨⟨entries, hentries⟩, hidle, hup⟩ := hnames
    rw [walk.eq_def]
    dsimp only
    rw [hentries]
    dsimp only
    rw [if_neg (Bool.eq_false_iff.1 hidle), if_neg hup, hlink]
    dsimp only
    rw [if_neg hgo, if_neg (Bool.eq_false_iff.1 hinside), ih]
  | step hnames he hnot _ ih =>
    obtain ⟨⟨entries, hentries⟩, hidle, hup⟩ := hnames
    rw [walk.eq_def]
    dsimp only
    rw [hentries]
    dsimp only
    rw [if_neg (Bool.eq_false_iff.1 hidle), if_neg hup, he]
    split
    · next target htarget => exact absurd (Option.some.inj htarget) (hnot target)
    · exact ih
    · next hnone => cases hnone
  | missing hnames hnone hparts =>
    obtain ⟨⟨entries, hentries⟩, hidle, hup⟩ := hnames
    rw [walk.eq_def]
    dsimp only
    rw [hentries]
    dsimp only
    rw [if_neg (Bool.eq_false_iff.1 hidle), if_neg hup, hnone]
    dsimp only
    rw [if_pos hparts]

/-! ## Places -/

/-- A place that a walk can come to. -/
structure Place.Sound (tree : Entry) (final : Bool) (place : Place) : Prop where
  /-- The occupant is what stands there. -/
  occupant_eq : tree.at? place.names = place.occupant
  /-- The place lies in a directory. -/
  inside : ∀ above name, place.names = above ++ [name] →
    ∃ entries, tree.at? above = some (.directory entries)
  /-- A link stands there only when it was not to be followed. -/
  not_link : final = true → ∀ target, place.occupant ≠ some (.link target)

/-- What is known of the position of a walk: it lies in a directory, and a link stands there only at
the start, before anything has been looked for. -/
structure Stands (tree : Entry) (position : List ByteString) (parts : List (List UInt8)) :
    Prop where
  /-- The position lies in a directory. -/
  inside : ∀ name above, position = name :: above →
    ∃ entries, tree.at? above.reverse = some (.directory entries)
  /-- When the walk ends here, no link stands here. -/
  not_link : parts = [] → ∀ target, tree.at? position.reverse ≠ some (.link target)

/-- A walk stands at a directory in it. -/
theorem Stands.of_directory {tree : Entry} {position : List ByteString}
    (h : ∃ entries, tree.at? position.reverse = some (.directory entries))
    (parts : List (List UInt8)) : Stands tree position parts := by
  obtain ⟨entries, hentries⟩ := h
  refine ⟨fun name above hposition => ?_, fun _ target => ?_⟩
  · subst hposition
    rw [List.reverse_cons] at hentries
    exact exists_entries_of_at? (List.cons_ne_nil _ _) hentries
  · rw [hentries]
    nofun

/-- A walk comes to a place in a directory, and to no link that it should have followed. -/
theorem Walks.sound {tree : Entry} {final : Bool} {links : Nat} {position : List ByteString}
    {parts : List (List UInt8)} {place : Place} (h : Walks tree final links position parts place)
    (hstands : Stands tree position parts) : place.Sound tree final := by
  -- The place at the end of the names is in the directory at the position.
  have hinside : ∀ {position : List ByteString} {part : List UInt8}, Names tree position part →
      ∀ above name, (ByteString.mk part :: position).reverse = above ++ [name] →
        ∃ entries, tree.at? above = some (.directory entries) := by
    intro position part hnames above name heq
    rw [List.reverse_cons] at heq
    rw [← (List.append_inj' heq rfl).1]
    exact hnames.directory
  induction h with
  | @done _ position =>
    refine ⟨rfl, fun above name heq => ?_, fun _ => hstands.not_link rfl⟩
    dsimp only at heq
    have hposition : position = name :: above.reverse := by
      rw [← List.reverse_reverse position, heq, List.reverse_append]
      rfl
    obtain ⟨entries, hentries⟩ := hstands.inside name above.reverse hposition
    rw [List.reverse_reverse] at hentries
    exact ⟨entries, hentries⟩
  | idle hdir _ _ ih => exact ih (.of_directory hdir _)
  | up hdir _ ih =>
    obtain ⟨entries, hentries⟩ := hdir
    rw [List.reverse_cons] at hentries
    exact ih (.of_directory (exists_entries_of_at? (List.cons_ne_nil _ _) hentries) _)
  | stop hnames hfinal hlink =>
    exact ⟨hlink, hinside hnames, fun htrue => absurd (hfinal.symm.trans htrue) Bool.false_ne_true⟩
  | follow hnames _ _ _ _ ih => exact ih (.of_directory hnames.directory _)
  | step hnames he hnot _ ih =>
    refine ih ⟨fun name above heq => ?_, fun _ target htarget => ?_⟩
    · rw [← (List.cons.inj heq).2]
      exact hnames.directory
    · exact hnot target (Option.some.inj (he.symm.trans htarget))
  | missing hnames hnone _ => exact ⟨hnone, hinside hnames, fun _ => nofun⟩

/-- A path leads to a place in a directory, and to no link that should have been followed. -/
theorem locate_sound {tree : Entry} {path : ByteString} {final : Bool} {place : Place}
    (h : tree.locate path final = .ok place) : place.Sound tree final := by
  unfold locate at h
  split_ifs at h
  have hwalks := walks_of_walk tree final _ _ _ h
  have hparts : Path.splitSlashes path.bytes ≠ [] := Path.splitSlashes_ne_nil _
  exact hwalks.sound ⟨nofun, fun hnil => absurd hnil hparts⟩

end Entry

end IconSubset
