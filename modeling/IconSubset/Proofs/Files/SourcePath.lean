import IconSubset.Proofs.Files.SourceName
import Mathlib.Data.List.DropRight

/-!
# Which paths are those of source files

Whether a path is that of a source file is told by its bytes alone: the slashes and the single dots
at its end are dropped (`bare`), and what then stands behind the last slash (`lastPart`) ends in a
dot and one of four extensions, with something before the dot (`isSource_iff`).

The last name of a path is found by going back from its end, slash by slash: a part that adds
nothing is passed over, and any other part decides (`fileName?_concat`).
-/

namespace IconSubset.Path

/-- A path, read from its end, without the slashes and the single dots behind slashes there. -/
def dropEnding : List UInt8 → List UInt8
  | slash :: before => dropEnding before
  | dot :: slash :: before => dropEnding before
  | rest => rest

/-- A path without the slashes, and the single dots behind slashes, at its end. -/
def bare (path : List UInt8) : List UInt8 := (dropEnding path.reverse).reverse

/-- What stands behind the last slash of a path. -/
def lastPart (path : List UInt8) : List UInt8 := path.rtakeWhile (· ≠ slash)

/-! ## Back from the end -/

/-- A path has no slash, or it has a last one. -/
theorem notMem_or_exists_last (cs : List UInt8) :
    slash ∉ cs ∨ ∃ before part, cs = before ++ slash :: part ∧ slash ∉ part := by
  by_cases h : slash ∈ cs
  · obtain ⟨behind, ahead, hcs, hbehind⟩ := List.eq_append_cons_of_mem (List.mem_reverse.2 h)
    refine .inr ⟨ahead.reverse, behind.reverse, ?_, by rwa [List.mem_reverse]⟩
    rw [← List.reverse_reverse cs, hcs]
    simp
  · exact .inl h

/-- A path without slashes is its last part. -/
theorem lastPart_of_notMem {part : List UInt8} (h : slash ∉ part) : lastPart part = part := by
  unfold lastPart
  rw [List.rtakeWhile_eq_self_iff]
  intro c hc
  simpa using fun he : c = slash => h (he ▸ hc)

/-- The last part of a path stands behind the last slash. -/
theorem lastPart_concat (cs : List UInt8) {part : List UInt8} (h : slash ∉ part) :
    lastPart (cs ++ slash :: part) = part := by
  have hpart : ∀ c ∈ part.reverse, decide (c ≠ slash) = true := by
    intro c hc
    simpa using fun he : c = slash => h (he ▸ List.mem_reverse.1 hc)
  unfold lastPart List.rtakeWhile
  rw [List.reverse_append, List.reverse_cons, List.append_assoc, List.takeWhile_append_of_pos hpart]
  simp

/-- A path without slashes is bare. -/
theorem bare_of_notMem {part : List UInt8} (h : slash ∉ part) : bare part = part := by
  have hreverse : slash ∉ part.reverse := by rwa [List.mem_reverse]
  have hkeep : dropEnding part.reverse = part.reverse := by
    unfold dropEnding
    split
    · next heq => exact absurd (heq ▸ List.mem_cons_self) hreverse
    · next heq => exact absurd (heq ▸ List.mem_cons_of_mem _ List.mem_cons_self) hreverse
    · rfl
  rw [bare, hkeep, List.reverse_reverse]

/-- A part at the end of a path that adds something is kept, with all that stands before it. -/
theorem dropEnding_part {part : List UInt8} (h : slash ∉ part) (hidle : isIdle part = false)
    (before : List UInt8) : dropEnding (part.reverse ++ before) = part.reverse ++ before := by
  have hslash : slash ∉ part.reverse := by rwa [List.mem_reverse]
  obtain ⟨hempty, hdot⟩ : part ≠ [] ∧ part ≠ [dot] := by simpa [isIdle] using hidle
  -- The last character is no slash, and when it is a dot there is one more before it.
  cases hpart : part.reverse with
  | nil => exact absurd (List.reverse_eq_nil_iff.1 hpart) hempty
  | cons c rest =>
    have hc : c ≠ slash := fun he => hslash (by simp [hpart, he])
    cases rest with
    | nil =>
      have hc' : c ≠ dot := fun he => hdot (by rw [← List.reverse_reverse part, hpart, he]; rfl)
      unfold dropEnding
      split <;> simp_all
    | cons d rest =>
      have hd : d ≠ slash := fun he => hslash (by simp [hpart, he])
      unfold dropEnding
      split <;> simp_all

/-- A part at the end that adds nothing is dropped with its slash. -/
theorem bare_concat (cs : List UInt8) {part : List UInt8} (h : slash ∉ part) :
    bare (cs ++ slash :: part) = if isIdle part then bare cs else cs ++ slash :: part := by
  unfold bare
  rw [List.reverse_append, List.reverse_cons, List.append_assoc, List.singleton_append]
  split_ifs with hidle
  · rw [isIdle, Bool.or_eq_true, beq_iff_eq, beq_iff_eq] at hidle
    rcases hidle with rfl | rfl
    · rfl
    · rfl
  · rw [dropEnding_part h (Bool.eq_false_iff.2 hidle)]
    simp

/-! ## The last name -/

/-- The name that a part is, when it is one. -/
def nameOf? (part : List UInt8) : Option ByteString :=
  if isIdle part ∨ part = [dot, dot] then none else some (ByteString.mk part)

/-- A part that is neither empty nor dots that lead to a directory is a name. -/
theorem nameOf?_eq_some_iff {part name : ByteString} : nameOf? part.bytes = some name ↔
    part = name ∧ part ≠ "" ∧ part ≠ "." ∧ part ≠ ".." := by
  have hdots : (isIdle part.bytes = true ∨ part.bytes = [dot, dot]) ↔
      part = "" ∨ part = "." ∨ part = ".." := by
    rw [isIdle, Bool.or_eq_true, beq_iff_eq, beq_iff_eq, or_assoc, ByteString.ext_iff,
      ByteString.ext_iff, ByteString.ext_iff]
    rfl
  unfold nameOf?
  by_cases h : part = "" ∨ part = "." ∨ part = ".."
  · rw [if_pos (hdots.2 h)]
    refine iff_of_false (Option.some_ne_none name).symm fun hname => ?_
    obtain ⟨-, hempty, hhere, hup⟩ := hname
    exact h.elim hempty fun h => h.elim hhere hup
  · rw [if_neg (mt hdots.1 h), Option.some.injEq]
    rw [not_or, not_or] at h
    exact (and_iff_left h).symm

/-- A path without slashes is a name when it can be one. -/
theorem fileName?_of_notMem {part : List UInt8} (h : slash ∉ part) :
    fileName? (ByteString.mk part) = nameOf? part := by
  unfold fileName? steps nameOf?
  rw [splitSlashes_part h]
  by_cases hempty : part = []
  · simp [hempty, isIdle]
  by_cases hdot : part = [dot]
  · simp [hdot, isIdle]
  by_cases hup : part = [dot, dot]
  · simp [hup, isIdle, stepOf]
  · simp [hempty, hdot, hup, isIdle, stepOf]

/-- The last step of a path is that of its last part, when there is another and this adds
something. -/
theorem getLast?_steps_of_splitSlashes {path : ByteString} {first part : List UInt8}
    {rest : List (List UInt8)} (h : splitSlashes path.bytes = first :: (rest ++ [part]))
    (hidle : isIdle part = false) : (steps path).getLast? = some (stepOf part) := by
  unfold steps
  rw [h]
  dsimp only
  rw [filter_concat_of_not_idle rest hidle, List.map_append, List.map_singleton]
  split_ifs with hfirst hrest
  · simp at hrest
  · exact List.getLast?_concat (l := Step.root :: _)
  · exact List.getLast?_concat (l := Step.here :: _)
  · exact List.getLast?_concat (l := stepOf first :: _)

/-- A part at the end that adds nothing is no step, though its slash may be the one that the path
begins with. -/
theorem fileName?_of_idle {path other : ByteString} {first part : List UInt8}
    {rest : List (List UInt8)}
    (hpath : splitSlashes path.bytes = first :: rest)
    (hother : splitSlashes other.bytes = first :: (rest ++ [part])) (hidle : isIdle part = true) :
    fileName? other = fileName? path := by
  have htail : (rest ++ [part]).filter (fun p => !isIdle p) = rest.filter fun p => !isIdle p := by
    rw [List.filter_append, List.filter_singleton, hidle]
    exact List.append_nil _
  unfold fileName? steps
  rw [hpath, hother]
  dsimp only
  rw [htail]
  by_cases hfirst : first = []
  · by_cases hrest : rest = []
    · simp [hfirst, hrest]
    · simp [hfirst, hrest]
  · simp [hfirst]

/-- The last name of a path is its last part, unless this adds nothing. -/
theorem fileName?_concat (cs : List UInt8) {part : List UInt8} (h : slash ∉ part) :
    fileName? (ByteString.mk (cs ++ slash :: part)) =
      if isIdle part then fileName? (ByteString.mk cs) else nameOf? part := by
  obtain ⟨first, rest, hparts⟩ := List.exists_cons_of_ne_nil (splitSlashes_ne_nil cs)
  have hpath : splitSlashes (ByteString.mk cs).bytes = first :: rest := hparts
  have hother : splitSlashes (ByteString.mk (cs ++ slash :: part)).bytes =
      first :: (rest ++ [part]) := by
    rw [splitSlashes_concat cs h, hparts, List.cons_append]
  split_ifs with hidle
  · exact fileName?_of_idle hpath hother hidle
  · rw [fileName?, getLast?_steps_of_splitSlashes hother (Bool.eq_false_iff.2 hidle)]
    unfold nameOf? stepOf
    by_cases hup : part = [dot, dot]
    · simp [hup]
    · simp [hup, hidle]

/-- The last name of a path is the last part of the bare path. -/
theorem fileName?_eq (path : List UInt8) :
    fileName? (ByteString.mk path) = nameOf? (lastPart (bare path)) := by
  induction hlength : path.length using Nat.strong_induction_on generalizing path with
  | _ n ih =>
    rcases notMem_or_exists_last path with h | ⟨before, part, rfl, hpart⟩
    · rw [bare_of_notMem h, lastPart_of_notMem h, fileName?_of_notMem h]
    · rw [fileName?_concat before hpart, bare_concat before hpart]
      split_ifs with hidle
      · exact ih before.length (by simp [← hlength]) before rfl
      · rw [lastPart_concat before hpart]

/-- What stands before the last part of a path does not matter, unless this adds nothing. -/
theorem lastPart_bare_append (directories name : List UInt8) :
    lastPart (bare (directories ++ slash :: name)) =
      if isIdle (lastPart (bare name)) then lastPart (bare directories)
      else lastPart (bare name) := by
  induction hlength : name.length using Nat.strong_induction_on generalizing name with
  | _ n ih =>
    rcases notMem_or_exists_last name with h | ⟨before, part, rfl, hpart⟩
    · rw [bare_concat directories h, bare_of_notMem h, lastPart_of_notMem h]
      split_ifs with hidle
      · rfl
      · rw [lastPart_concat directories h]
    · have hsplit : directories ++ slash :: (before ++ slash :: part) =
          (directories ++ slash :: before) ++ slash :: part := by simp
      rw [hsplit, bare_concat _ hpart, bare_concat before hpart]
      by_cases hidle : isIdle part = true
      · rw [if_pos hidle, if_pos hidle]
        exact ih before.length (by simp [← hlength]) before rfl
      · rw [if_neg hidle, if_neg hidle, lastPart_concat _ hpart, lastPart_concat before hpart,
          if_neg hidle]

/-! ## The extension -/

/-- The extension of a name is what stands behind its last dot, when something stands before it. -/
theorem extensionOf?_eq_some_iff {name extension : ByteString} :
    extensionOf? name = some extension ↔
      ∃ stem : ByteString, name = stem ++ "." ++ extension ∧ stem ≠ "" ∧ dot ∉ extension.bytes := by
  unfold extensionOf?
  dsimp only
  constructor
  · intro h
    split at h
    · next b rest hdrop =>
      obtain rfl := Option.some.inj h
      have hsplit : name.bytes.reverse =
          name.bytes.reverse.takeWhile (· ≠ dot) ++ dot :: b :: rest := by
        exact (List.takeWhile_append_dropWhile.symm).trans (congrArg _ hdrop)
      refine ⟨⟨(b :: rest).reverse⟩, ?_, fun he => ?_, fun hmem => ?_⟩
      · have hbytes := congrArg List.reverse hsplit
        rw [List.reverse_reverse, List.reverse_append, List.reverse_cons] at hbytes
        exact ByteString.ext hbytes
      · simpa using ByteString.eq_empty_iff.1 he
      · simpa using List.mem_takeWhile_imp (List.mem_reverse.1 hmem)
    · cases h
  · rintro ⟨stem, rfl, hstem, hdot⟩
    have hreverse : (stem ++ "." ++ extension).bytes.reverse =
        extension.bytes.reverse ++ dot :: stem.bytes.reverse := by
      rw [ByteString.bytes_append, ByteString.bytes_append, List.reverse_append,
        List.reverse_append]
      rfl
    have hbehind : ∀ b ∈ extension.bytes.reverse, decide (b ≠ dot) = true := by
      intro b hb
      simpa using fun he : b = dot => hdot (he ▸ List.mem_reverse.1 hb)
    have hne : stem.bytes.reverse ≠ [] := by
      rw [Ne, List.reverse_eq_nil_iff]
      exact mt ByteString.eq_empty_iff.2 hstem
    obtain ⟨b, rest, hcons⟩ := List.exists_cons_of_ne_nil hne
    rw [hreverse, List.dropWhile_append_of_pos hbehind, List.takeWhile_append_of_pos hbehind, hcons,
      List.takeWhile_cons_of_neg (by decide), List.append_nil, List.reverse_reverse]
    rfl

/-- The extensions of source files have no dots. -/
theorem dot_notMem_sourceExtensions : ∀ extension ∈ sourceExtensions, dot ∉ extension.bytes := by
  decide

/-! ## Source files -/

/-- What stands behind the last slash of a path, when the slashes at its end, and the single dots
behind slashes there, do not count. -/
def lastComponent (path : ByteString) : ByteString := ⟨lastPart (bare path.bytes)⟩

/-- Whether a path is that of a source file is said by its last component. -/
theorem isSource_eq_true_iff {path : ByteString} : isSource path = true ↔
    ∃ name ∈ nameOf? (lastComponent path).bytes, ∃ extension ∈ sourceExtensions,
      extensionOf? name = some extension := by
  have hname : fileName? path = nameOf? (lastComponent path).bytes := by
    rw [lastComponent, ← fileName?_eq]
  unfold isSource extension?
  rw [hname]
  constructor
  · intro h
    split at h
    · next extension hextension =>
      obtain ⟨name, hmem, hof⟩ := Option.bind_eq_some_iff.1 hextension
      exact ⟨name, hmem, extension, List.contains_iff_mem.1 h, hof⟩
    · cases h
  · rintro ⟨name, hmem, extension, hextension, hof⟩
    rw [Option.mem_def.1 hmem, Option.bind_some, hof]
    exact List.contains_iff_mem.2 hextension

/-- Paths with the same last component are both those of source files, or neither is. -/
theorem isSource_congr {path other : ByteString} (h : lastComponent path = lastComponent other) :
    isSource path = isSource other := by
  rw [Bool.eq_iff_iff, isSource_eq_true_iff, isSource_eq_true_iff, h]

/-- The last component does not depend on what stands before it. -/
theorem lastComponent_append (directories path : ByteString) :
    lastComponent (directories ++ "/" ++ path) =
      if lastComponent path = "" ∨ lastComponent path = "." then lastComponent directories
      else lastComponent path := by
  have hbytes : (directories ++ "/" ++ path).bytes = directories.bytes ++ slash :: path.bytes := by
    rw [ByteString.bytes_append, ByteString.bytes_append, List.append_assoc]
    rfl
  have hidle : isIdle (lastPart (bare path.bytes)) = true ↔
      lastComponent path = "" ∨ lastComponent path = "." := by
    rw [isIdle, Bool.or_eq_true, beq_iff_eq, beq_iff_eq, ByteString.ext_iff, ByteString.ext_iff]
    rfl
  unfold lastComponent at hidle ⊢
  rw [hbytes, lastPart_bare_append]
  by_cases h : isIdle (lastPart (bare path.bytes)) = true
  · rw [if_pos h, if_pos (hidle.1 h)]
  · rw [if_neg h, if_neg (mt hidle.2 h)]

/-- A path is that of a source file when its last component is neither of the dots that lead to
directories and consists of something that is not empty, a dot and one of four extensions. What
stands before the last component does not matter. -/
theorem isSource_iff (path : ByteString) :
    (isSource path = true ↔ lastComponent path ≠ ".." ∧ lastComponent path ≠ "." ∧
      ∃ stem extension : ByteString, lastComponent path = stem ++ "." ++ extension ∧ stem ≠ "" ∧
        extension ∈ (["js", "jsx", "ts", "tsx"] : List ByteString)) ∧
    ∀ directories : ByteString, isSource (directories ++ "/" ++ path) =
      if lastComponent path = "" ∨ lastComponent path = "." then isSource directories
      else isSource path := by
  constructor
  · rw [isSource_eq_true_iff]
    constructor
    · rintro ⟨name, hname, extension, hextension, hof⟩
      obtain ⟨rfl, -, hhere, hup⟩ := nameOf?_eq_some_iff.1 hname
      obtain ⟨stem, hsplit, hstem, -⟩ := extensionOf?_eq_some_iff.1 hof
      exact ⟨hup, hhere, stem, extension, hsplit, hstem, hextension⟩
    · rintro ⟨hup, hhere, stem, extension, hsplit, hstem, hextension⟩
      have hempty : lastComponent path ≠ "" := by
        intro he
        have hbytes := congrArg ByteString.bytes (hsplit.symm.trans he)
        rw [ByteString.bytes_append, ByteString.bytes_append] at hbytes
        obtain ⟨hfront, -⟩ := List.append_eq_nil_iff.1 hbytes
        exact hstem (ByteString.eq_empty_iff.2 (List.append_eq_nil_iff.1 hfront).1)
      exact ⟨_, nameOf?_eq_some_iff.2 ⟨rfl, hempty, hhere, hup⟩, extension, hextension,
        extensionOf?_eq_some_iff.2
          ⟨stem, hsplit, hstem, dot_notMem_sourceExtensions extension hextension⟩⟩
  · intro directories
    have hlast := lastComponent_append directories path
    split_ifs at hlast ⊢ with hidle
    · exact isSource_congr hlast
    · exact isSource_congr hlast

example : List.map isSource ["src/Button.test.tsx", "a.ts//./", "src/.tsx", "App.TSX", "a.js/.."] =
    [true, true, false, false, false] := by
  cbv

end IconSubset.Path
