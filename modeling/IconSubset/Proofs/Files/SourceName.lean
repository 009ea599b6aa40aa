import IconSubset.Proofs.Files.PathOrder
import IconSubset.Proofs.Files.Tree
import IconSubset.Proofs.Files.Walking

/-!
# What a file is called where it lies

Whether a path is that of a source file depends on its last name alone. So a file that lies below a
directory is a source file whatever path the directory is reached by (`isSource_foldl_child`), as
long as the name is no dot, which a path passes over. In a tree of files no name is one
(`Entry.Undotted`).
-/

namespace IconSubset

namespace Path

/-! ## The last step of a path -/

/-- A part behind a slash is the last part. -/
theorem splitSlashes_concat (cs : List UInt8) {part : List UInt8} (h : slash ∉ part) :
    splitSlashes (cs ++ slash :: part) = splitSlashes cs ++ [part] := by
  induction cs with
  | nil =>
    show splitSlashes (slash :: part) = [[], part]
    rw [splitSlashes, if_pos rfl, splitSlashes_part h]
  | cons c cs ih =>
    rw [List.cons_append, splitSlashes, splitSlashes, ih]
    by_cases hc : c = slash
    · rw [if_pos hc, if_pos hc, List.cons_append]
    · obtain ⟨first, rest, hparts⟩ := List.exists_cons_of_ne_nil (splitSlashes_ne_nil cs)
      rw [if_neg hc, if_neg hc, hparts]
      rfl

/-- Only nothing has one part that is empty. -/
theorem splitSlashes_eq_singleton_nil {cs : List UInt8} (h : splitSlashes cs = [[]]) : cs = [] := by
  cases cs with
  | nil => rfl
  | cons c cs =>
    rw [splitSlashes] at h
    split_ifs at h
    · exact absurd (List.cons.inj h).2 (splitSlashes_ne_nil cs)
    · split at h
      · cases h
      · cases h

/-- A part that adds something is kept behind the others. -/
theorem filter_concat_of_not_idle (parts : List (List UInt8)) {part : List UInt8}
    (h : isIdle part = false) : ((parts ++ [part]).filter fun p => !isIdle p) =
      (parts.filter fun p => !isIdle p) ++ [part] := by
  rw [List.filter_append, List.filter_singleton, h]
  rfl

/-- A part behind the parts of a path is one step more, when it adds something. Idle parts between
make no difference. -/
theorem steps_of_splitSlashes {path other : ByteString} {first part : List UInt8}
    {rest before : List (List UInt8)} (hpath : splitSlashes path.bytes = first :: rest)
    (hother : splitSlashes other.bytes = first :: (before ++ [part]))
    (hbefore : (before.filter fun p => !isIdle p) = rest.filter fun p => !isIdle p)
    (hrest : first = [] → rest ≠ []) (hpart : isIdle part = false) :
    steps other = steps path ++ [stepOf part] := by
  unfold steps
  rw [hpath, hother]
  dsimp only
  rw [filter_concat_of_not_idle before hpart, hbefore, List.map_append, List.map_singleton]
  by_cases hfirst : first = []
  · simp [hfirst, hrest hfirst]
  · by_cases hhere : first = [dot]
    · simp [hhere]
    · simp [hfirst, hhere]

/-- The path of something in a directory has one step more than that of the directory. -/
theorem steps_child (directory : ByteString) {name : ByteString} (h : IsName name)
    (hdot : name ≠ ".") :
    steps (child directory name) = steps directory ++ [stepOf name.bytes] := by
  have hhere : name.bytes ≠ [dot] := fun he => hdot (ByteString.ext he)
  have hidle : isIdle name.bytes = false := by simp [isIdle, h.ne_nil, hhere]
  by_cases hstem : directory.bytes = [] ∨ directory.bytes.getLast? = some slash
  · have hchild : (child directory name).bytes = directory.bytes ++ name.bytes := by
      rw [bytes_child, stem, if_pos hstem]
    rcases hstem with hempty | hend
    · -- The name is the whole path.
      have hparts : splitSlashes (child directory name).bytes = [name.bytes] := by
        rw [hchild, hempty]
        exact splitSlashes_part h.slash
      unfold steps
      rw [hparts, hempty]
      simp [h.ne_nil, hhere, splitSlashes]
    · obtain ⟨bs, hbs⟩ := List.getLast?_eq_some_iff.1 hend
      obtain ⟨first, rest, hparts⟩ := List.exists_cons_of_ne_nil (splitSlashes_ne_nil bs)
      have hdirectory : splitSlashes directory.bytes = first :: (rest ++ [[]]) := by
        rw [hbs]
        exact (splitSlashes_concat bs List.not_mem_nil).trans (by rw [hparts]; rfl)
      have hpath : splitSlashes (child directory name).bytes =
          first :: (rest ++ [name.bytes]) := by
        rw [hchild, hbs, List.append_assoc]
        exact (splitSlashes_concat bs h.slash).trans (by rw [hparts]; rfl)
      refine steps_of_splitSlashes hdirectory hpath ?_ (fun _ => by simp) hidle
      rw [List.filter_append]
      exact (List.append_nil _).symm
  · have hchild : (child directory name).bytes = directory.bytes ++ slash :: name.bytes := by
      rw [bytes_child, stem, if_neg hstem, List.append_assoc]
      rfl
    obtain ⟨first, rest, hparts⟩ :=
      List.exists_cons_of_ne_nil (splitSlashes_ne_nil directory.bytes)
    have hpath : splitSlashes (child directory name).bytes = first :: (rest ++ [name.bytes]) := by
      rw [hchild, splitSlashes_concat _ h.slash, hparts]
      rfl
    refine steps_of_splitSlashes hparts hpath rfl (fun hfirst hrest => ?_) hidle
    -- The only path whose one part is empty is the empty one.
    rw [hfirst, hrest] at hparts
    exact hstem (.inl (splitSlashes_eq_singleton_nil hparts))

/-- The last step of the path of something in a directory is that of its name. -/
theorem getLast?_steps_child (directory : ByteString) {name : ByteString} (h : IsName name)
    (hdot : name ≠ ".") : (steps (child directory name)).getLast? = some (stepOf name.bytes) := by
  rw [steps_child directory h hdot, List.getLast?_concat]

/-- Whether a path is that of a source file depends on its last name alone. -/
theorem isSource_child (directory other : ByteString) {name : ByteString} (h : IsName name)
    (hdot : name ≠ ".") : isSource (child directory name) = isSource (child other name) := by
  unfold isSource extension? fileName?
  rw [getLast?_steps_child directory h hdot, getLast?_steps_child other h hdot]

/-- What lies below a directory is a source file whatever the path of the directory. -/
theorem isSource_foldl_child (directory other : ByteString) {names : List ByteString}
    (hne : names ≠ [])
    (h : ∀ n ∈ names, IsName n) (hdots : ("." : ByteString) ∉ names) :
    isSource (names.foldl child directory) = isSource (names.foldl child other) := by
  obtain ⟨above, name, rfl⟩ := (List.eq_nil_or_concat' names).resolve_left hne
  have hname : name ∈ above ++ [name] := List.mem_append_right above (List.mem_singleton_self name)
  rw [List.foldl_append, List.foldl_append]
  exact isSource_child _ _ (h name hname) fun hdot => hdots (hdot ▸ hname)

end Path

/-! ## Names in a tree -/

namespace Entry

/-- No file lies under a name that a path passes over. -/
def Undotted (e : Entry) : Prop :=
  ∀ content names, Holds content names e → ("." : ByteString) ∉ names

/-- There are no names that lead to a file in itself. -/
theorem undotted_file (content : FileContent) : (Entry.file content).Undotted := by
  intro _ names h
  cases h
  exact List.not_mem_nil

/-- The names in a directory are those of its entries and those in the entries. -/
theorem undotted_directory {entries : List (ByteString × Entry)}
    (h : ∀ x ∈ entries, x.1 ≠ "." ∧ x.2.Undotted) : (Entry.directory entries).Undotted := by
  intro content names hholds
  cases hholds with
  | inside hx hinner =>
    obtain ⟨hname, hentry⟩ := h _ hx
    intro hdot
    rcases List.mem_cons.1 hdot with hdot | hdot
    · exact hname hdot.symm
    · exact hentry content _ hinner hdot

/-- What lies in an entry lies in every entry that names lead from to it. -/
theorem Holds.of_at? {content : FileContent} {names below : List ByteString} {e inner : Entry}
    (hat : e.at? names = some inner) (h : Holds content below inner) :
    Holds content (names ++ below) e := by
  induction names generalizing e with
  | nil =>
    rw [at?_nil] at hat
    obtain rfl := Option.some.inj hat
    exact h
  | cons name names ih =>
    cases e with
    | file _ => cases hat
    | link _ => cases hat
    | directory entries =>
      rw [at?_directory, Option.bind_eq_some_iff] at hat
      obtain ⟨next, hnext, hat⟩ := hat
      exact .inside (mem_of_lookup hnext) (ih hat)

/-- What a path leads to has no such names either. -/
theorem Undotted.of_find {tree e : Entry} (h : tree.Undotted) {path : ByteString}
    (hfind : tree.find path = .ok e) : e.Undotted := by
  obtain ⟨above, habove⟩ := exists_at?_of_find hfind
  intro content names hholds hdot
  exact h content (above ++ names) (hholds.of_at? habove) (List.mem_append_right above hdot)

end Entry

end IconSubset
