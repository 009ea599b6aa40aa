import IconSubset.Proofs.Files.Reordering
import IconSubset.Proofs.Scan.Redundancy

/-!
# The files below a directory, told by their bytes and in strict order

A collection gathers each source file below its directory once: as a text when its bytes are that of
one, and apart from the texts otherwise (`Gathers`). Below a directory that can be walked, the texts
are strictly in the order of their paths, since different names below a directory make different
steps (`steps_foldl_child`). So the order in which directories list their entries does not matter
(`exists_collection_gathers_iff`), and the one directory below which nothing is found is that of the
name `-`.
-/

namespace IconSubset

open Entry (Holds IsTree Reorders Undotted)

/-! ## The order of the paths below a directory -/

namespace Path

/-- A step is told by its key. -/
theorem Step.key_injective : Function.Injective Step.key := by
  intro a b h
  have hbytes : Function.Injective (List.map UInt8.toNat) :=
    List.map_injective_iff.2 fun _ _ => UInt8.toNat_inj.1
  cases a <;> cases b <;> simp_all [key, hbytes.eq_iff, ByteString.ext_iff]

/-- A part is told by its step. -/
theorem stepOf_injective : Function.Injective stepOf := by
  intro part other h
  unfold stepOf at h
  split_ifs at h with hpart hother hother
  · rw [hpart, hother]
  · exact congrArg ByteString.bytes (Step.name.inj h)

/-- Names below a directory are the steps of their path behind those of the directory. -/
theorem steps_foldl_child (directory : ByteString) {names : List ByteString}
    (h : ∀ n ∈ names, IsName n) (hdots : ↑"." ∉ names) : steps (names.foldl child directory) =
      steps directory ++ names.map fun name => stepOf name.bytes := by
  induction names generalizing directory with
  | nil => simp
  | cons name names ih =>
    obtain ⟨hname, hnames⟩ := List.forall_mem_cons.1 h
    have hdot : name ≠ "." := fun he => hdots (List.mem_cons.2 (.inl he.symm))
    have hrest : ↑"." ∉ names := fun hmem => hdots (List.mem_cons_of_mem name hmem)
    rw [List.foldl_cons, ih _ hnames hrest, steps_child directory hname hdot, List.append_assoc,
      List.map_cons, List.singleton_append]

/-- Of two different paths below a directory the one that does not stand behind the other stands
before it. -/
theorem stepsBefore_of_atMost {directory : ByteString} {names others : List ByteString}
    (hnames : ∀ n ∈ names, IsName n) (hothers : ∀ n ∈ others, IsName n) (hdots : ↑"." ∉ names)
    (hdots' : ↑"." ∉ others) (hne : names ≠ others)
    (h : atMost (names.foldl child directory) (others.foldl child directory) = true) :
    stepsBefore (steps (names.foldl child directory)) (steps (others.foldl child directory)) =
      true := by
  rw [stepsBefore_iff]
  refine lt_of_le_of_ne ((atMost_iff _ _).1 h) fun heq => hne ?_
  have hsteps := List.map_injective_iff.2 Step.key_injective heq
  rw [steps_foldl_child directory hnames hdots,
    steps_foldl_child directory hothers hdots'] at hsteps
  have hinjective : Function.Injective fun name : ByteString => stepOf name.bytes :=
    fun _ _ he => ByteString.ext (stepOf_injective he)
  exact List.map_injective_iff.2 hinjective (List.append_cancel_left hsteps)

end Path

/-! ## The bytes of a file -/

/-- Bytes are those of a text when the file holds it. -/
theorem FileContent.ofBytes_eq_text_iff {bytes : ByteArray} {text : String} :
    FileContent.ofBytes bytes = .text text ↔ text.toUTF8 = bytes := by
  unfold FileContent.ofBytes String.fromUTF8?
  constructor
  · intro h
    split_ifs at h with hvalid
    obtain rfl := FileContent.text.inj h
    rfl
  · rintro rfl
    have hvalid : text.toUTF8.IsValidUTF8 := text.isValidUTF8
    rw [dif_pos hvalid]
    rfl

/-- The content of other bytes is no text. -/
theorem FileContent.exists_ofBytes_eq_binary {bytes : ByteArray}
    (h : ∀ text : String, text.toUTF8 ≠ bytes) :
    ∃ readable, FileContent.ofBytes bytes = .binary readable := by
  cases hcontent : FileContent.ofBytes bytes with
  | text text => exact absurd (ofBytes_eq_text_iff.1 hcontent) (h text)
  | binary readable => exact ⟨readable, rfl⟩

/-! ## What a collection gathers -/

/-- A source file lies below a directory: names lead to it there, and no link stands on that way. -/
def SourceBelow (top : Entry) (root path : ByteString) (content : FileContent) : Prop :=
  ∃ names, Holds content names top ∧ path = names.foldl Path.child root ∧ Path.isSource path = true

/-- A collection has each source file below a directory once. -/
structure Gathers (top : Entry) (root : ByteString) (c : Collection) : Prop where
  /-- Its files are the texts below the directory, and nothing else. -/
  mem_files : ∀ f, f ∈ c.files ↔ SourceBelow top root f.path (.text f.text)
  /-- Apart from them the others are listed as files that cannot be read, and nothing else. -/
  mem_skipped : ∀ f, f ∈ c.skipped ↔ (∃ readable, SourceBelow top root f.path (.binary readable)) ∧
    f.reason = .read ∧ f.message = FileError.notText.message
  /-- No path stands twice. -/
  nodup : (c.files.map SourceFile.path ++ c.skipped.map SkippedFile.path).Nodup
  /-- A file with the bytes of a text is there with the whole text, and not listed apart. -/
  decoded : ∀ path bytes text, SourceBelow top root path (.ofBytes bytes) → text.toUTF8 = bytes →
    ⟨path, text⟩ ∈ c.files ∧ path ∉ c.skipped.map SkippedFile.path
  /-- A file with other bytes is listed apart, and not among the files. -/
  undecoded : ∀ path bytes, SourceBelow top root path (.ofBytes bytes) →
    (∀ text : String, text.toUTF8 ≠ bytes) →
      path ∈ c.skipped.map SkippedFile.path ∧ path ∉ c.files.map SourceFile.path
  /-- The files are strictly in the order of their paths, step by step. -/
  increasing : c.files.Pairwise fun a b =>
    Path.stepsBefore (Path.steps a.path) (Path.steps b.path) = true

/-- Nothing lies under the standard input. -/
theorem LiesUnder.not_standardInput {tree : Entry} {root path : ByteString} {content : FileContent}
    (h : LiesUnder tree root path content) : Path.isStandardInput root = false := by
  obtain ⟨hroot, -, -, -⟩ := h
  exact hroot

/-- Below a directory that can be walked, source files lie under the root. -/
theorem liesUnder_iff {tree top : Entry} {root path : ByteString} {content : FileContent}
    (hroot : Path.isStandardInput root = false) (hfind : tree.find root = .ok top) :
    LiesUnder tree root path content ↔ SourceBelow top root path content := by
  constructor
  · rintro ⟨-, hfind', hholds, hsource⟩
    obtain rfl := Except.ok.inj (hfind.symm.trans hfind')
    exact ⟨_, hholds, rfl, hsource⟩
  · rintro ⟨names, hholds, rfl, hsource⟩
    exact .intro hroot hfind hholds hsource

/-- Of two paths of files under a root the one that does not stand behind the other stands before
it. -/
theorem LiesUnder.stepsBefore {tree : Entry} {root path path' : ByteString}
    {content content' : FileContent} (h : LiesUnder tree root path content)
    (h' : LiesUnder tree root path' content') (htree : tree.IsTree) (hdots : tree.Undotted)
    (hle : Path.atMost path path' = true) (hne : path ≠ path') :
    Path.stepsBefore (Path.steps path) (Path.steps path') = true := by
  obtain ⟨-, hfind, hholds, -⟩ := h
  obtain ⟨-, hfind', hholds', -⟩ := h'
  obtain rfl := Except.ok.inj (hfind.symm.trans hfind')
  have htop := htree.of_find hfind
  have hundotted := hdots.of_find hfind
  exact Path.stepsBefore_of_atMost (hholds.isName htop) (hholds'.isName htop)
    (hundotted _ _ hholds) (hundotted _ _ hholds') (fun he => hne (by rw [he])) hle

/-- The files of a collection are strictly in the order of their paths. -/
theorem Collects.increasing {tree : Entry} {root : ByteString} {c : Collection}
    (h : Collects tree root c) (htree : tree.IsTree) (hdots : tree.Undotted) :
    c.files.Pairwise fun a b =>
      Path.stepsBefore (Path.steps a.path) (Path.steps b.path) = true := by
  have hpaths : c.files.Pairwise fun a b => a.path ≠ b.path :=
    List.pairwise_map.1 (List.Nodup.of_append_left h.nodup)
  refine (h.sorted.and hpaths).imp_of_mem fun {a b} ha hb hab => ?_
  exact ((h.mem_files a).1 ha).stepsBefore ((h.mem_files b).1 hb) htree hdots hab.1 hab.2

/-- A collection of what lies under a root gathers what lies below a directory, when this is the
same. -/
theorem Collects.gathers {tree top : Entry} {root : ByteString} {c : Collection}
    (h : Collects tree root c) (htree : tree.IsTree) (hdots : tree.Undotted)
    (hiff : ∀ path content, LiesUnder tree root path content ↔ SourceBelow top root path content) :
    Gathers top root c where
  mem_files f := (h.mem_files f).trans (hiff _ _)
  mem_skipped f := (h.mem_skipped f).trans (and_congr_left' (exists_congr fun _ => hiff _ _))
  nodup := h.nodup
  decoded path bytes text hbelow hbytes := by
    rw [FileContent.ofBytes_eq_text_iff.2 hbytes] at hbelow
    have hfile : ⟨path, text⟩ ∈ c.files := (h.mem_files ⟨path, text⟩).2 ((hiff _ _).2 hbelow)
    exact ⟨hfile, List.disjoint_of_nodup_append h.nodup (List.mem_map.2 ⟨_, hfile, rfl⟩)⟩
  undecoded path bytes hbelow hbytes := by
    obtain ⟨readable, hbinary⟩ := FileContent.exists_ofBytes_eq_binary hbytes
    rw [hbinary] at hbelow
    have hskipped : path ∈ c.skipped.map SkippedFile.path :=
      List.mem_map.2 ⟨⟨path, .read, FileError.notText.message⟩,
        (h.mem_skipped _).2 ⟨⟨readable, (hiff _ _).2 hbelow⟩, rfl, rfl⟩, rfl⟩
    exact ⟨hskipped, fun hfile => List.disjoint_of_nodup_append h.nodup hfile hskipped⟩
  increasing := h.increasing htree hdots

/-- A collection that gathers what lies below a directory is not that of the standard input, unless
there is nothing. -/
theorem Gathers.none_below {tree top : Entry} {root : ByteString} {c : Collection}
    (h : Gathers top root c) (hcollects : Collects tree root c)
    (hroot : Path.isStandardInput root = true) (path : ByteString) (content : FileContent) :
    ¬SourceBelow top root path content := by
  intro hbelow
  have hlies : ∃ content, LiesUnder tree root path content := by
    cases content with
    | text text => exact ⟨_, (hcollects.mem_files ⟨path, text⟩).1 ((h.mem_files _).2 hbelow)⟩
    | binary readable =>
      have hskipped := (h.mem_skipped ⟨path, .read, FileError.notText.message⟩).2
        ⟨⟨readable, hbelow⟩, rfl, rfl⟩
      obtain ⟨⟨readable', hlies⟩, -⟩ := (hcollects.mem_skipped _).1 hskipped
      exact ⟨_, hlies⟩
  obtain ⟨content', hlies⟩ := hlies
  exact Bool.false_ne_true (hlies.not_standardInput.symm.trans hroot)

/-! ## The order of the entries -/

/-- The same source files lie under a root in trees that are alike. -/
theorem LiesUnder.alike {tree tree' : Entry} {root path : ByteString} {content : FileContent}
    (h : LiesUnder tree root path content) (htree : tree.IsTree) (halike : tree.Alike tree') :
    LiesUnder tree' root path content := by
  obtain ⟨hroot, hfind, hholds, hsource⟩ := h
  obtain ⟨e', hfind', hentry⟩ := halike.exists_find hfind
  exact .intro hroot hfind' (hentry.holds (htree.of_find hfind) hholds) hsource

/-- Collections of the same files are the same, apart from the order of the files that are no
text. -/
theorem Collects.files_eq {tree tree' : Entry} {root : ByteString} {c c' : Collection}
    (h : Collects tree root c) (h' : Collects tree' root c') (htree : tree.IsTree)
    (hdots : tree.Undotted)
    (hiff : ∀ path content, LiesUnder tree root path content ↔ LiesUnder tree' root path content) :
    c'.files = c.files ∧ c'.skipped.Perm c.skipped := by
  have hfiles : c'.files.Perm c.files := by
    refine (List.perm_ext_iff_of_nodup ?_ ?_).2 fun f => ?_
    · exact (List.Nodup.of_append_left h'.nodup).of_map
    · exact (List.Nodup.of_append_left h.nodup).of_map
    · rw [h.mem_files, h'.mem_files, hiff]
  constructor
  · refine hfiles.eq_of_pairwise (fun a b ha hb hab hba => ?_) h'.sorted h.sorted
    replace ha := hfiles.mem_iff.1 ha
    by_contra hne
    -- Different files have different paths, so one would stand strictly before the other.
    have hpath : a.path ≠ b.path := fun he =>
      hne (List.inj_on_of_nodup_map (List.Nodup.of_append_left h.nodup) ha hb he)
    have hbefore :=
      ((h.mem_files a).1 ha).stepsBefore ((h.mem_files b).1 hb) htree hdots hab hpath
    rw [Path.atMost, hbefore] at hba
    cases hba
  · refine (List.perm_ext_iff_of_nodup ?_ ?_).2 fun f => ?_
    · exact (List.Nodup.of_append_right h'.nodup).of_map
    · exact (List.Nodup.of_append_right h.nodup).of_map
    · simp only [h.mem_skipped, h'.mem_skipped, hiff]

/-- A directory in a tree of files is collected, and the collection gathers what lies below it
unless the path of the directory stands for the standard input and something lies there. The order
in which the directories of the tree list their entries does not matter. -/
theorem exists_collection_gathers_iff {tree : Entry} (htree : tree.IsTree) (hdots : tree.Undotted)
    {root : ByteString} {entries : List (ByteString × Entry)}
    (hfind : tree.find root = .ok (.directory entries)) :
    ∃ c, Collection.of tree root = .ok c ∧
      (Gathers (.directory entries) root c ↔ (Path.isStandardInput root = true →
        ∀ path content, ¬SourceBelow (.directory entries) root path content)) ∧
      ∀ tree', Relation.ReflTransGen Reorders tree tree' →
        ∃ c', Collection.of tree' root = .ok c' ∧ c'.files = c.files ∧
          c'.skipped.Perm c.skipped := by
  obtain ⟨c, hc⟩ := exists_collection_iff.2 (.inr ⟨_, hfind⟩)
  have hcollects := collects_of htree hc
  refine ⟨c, hc, ⟨fun h => h.none_below hcollects, fun hnone => ?_⟩, fun tree' hreorders => ?_⟩
  · refine hcollects.gathers htree hdots fun path content => ?_
    cases hroot : Path.isStandardInput root with
    | false => exact liesUnder_iff hroot hfind
    | true =>
      refine iff_of_false (fun hlies => ?_) (hnone hroot path content)
      exact Bool.false_ne_true (hlies.not_standardInput.symm.trans hroot)
  · obtain ⟨htree', halike⟩ := Entry.isTree_and_alike_of_reorders hreorders htree
    obtain ⟨e', hfind', -⟩ := halike.exists_find hfind
    obtain ⟨c', hc'⟩ := exists_collection_iff.2 (.inr ⟨_, hfind'⟩)
    refine ⟨c', hc', hcollects.files_eq (collects_of htree' hc') htree hdots fun path content => ?_⟩
    exact ⟨fun hlies => hlies.alike htree halike, fun hlies => hlies.alike htree' halike.symm⟩

/-- A directory with a hidden one, with one that is named like a source file, with a source file
that is no text, and with a link. -/
def mixedEntries : List (ByteString × Entry) :=
  [ (".hidden", .directory [(".gitignore", .file (.text "*.tsx\n")), ("A.tsx", .file (.text "a"))]),
    ("x.tsx", .directory [("B.tsx", .file (.text "b"))]),
    ("C.tsx", .file (.ofBytes ⟨#[0xff, 0xfe]⟩)),
    ("D.tsx", .link "x.tsx/B.tsx") ]

/-- A project with that directory. -/
def mixedTree : Entry := .directory [("src", .directory mixedEntries)]

/-- The names in that project are different and can stand in paths. -/
theorem isTree_mixedTree : mixedTree.IsTree := by
  refine .directory (by decide) (by decide) (List.forall_mem_singleton.2 ?_)
  refine .directory (by decide) (by decide) (List.forall_mem_cons.2 ⟨?_, List.forall_mem_cons.2
    ⟨?_, List.forall_mem_cons.2 ⟨.file _, List.forall_mem_singleton.2 (.link _)⟩⟩⟩)
  · exact .directory (by decide) (by decide)
      (List.forall_mem_cons.2 ⟨.file _, List.forall_mem_singleton.2 (.file _)⟩)
  · exact .directory (by decide) (by decide) (List.forall_mem_singleton.2 (.file _))

/-- No name in that project is a dot. -/
theorem undotted_mixedTree : mixedTree.Undotted := by
  have hlink : (Entry.link "x.tsx/B.tsx").Undotted := fun _ _ h => nomatch h
  refine Entry.undotted_directory (List.forall_mem_singleton.2 ⟨by decide, ?_⟩)
  refine Entry.undotted_directory (List.forall_mem_cons.2 ⟨⟨by decide, ?_⟩, List.forall_mem_cons.2
    ⟨⟨by decide, ?_⟩, List.forall_mem_cons.2 ⟨⟨by decide, Entry.undotted_file _⟩,
      List.forall_mem_singleton.2 ⟨by decide, hlink⟩⟩⟩⟩)
  · exact Entry.undotted_directory (List.forall_mem_cons.2 ⟨⟨by decide, Entry.undotted_file _⟩,
      List.forall_mem_singleton.2 ⟨by decide, Entry.undotted_file _⟩⟩)
  · exact Entry.undotted_directory
      (List.forall_mem_singleton.2 ⟨by decide, Entry.undotted_file _⟩)

/-- The collection of that directory gathers what lies below it, also when the directory lists its
entries from the last to the first. -/
theorem collection_gathers_mixed :
    mixedTree.find "src" = .ok (.directory mixedEntries) ∧
    ∃ c c', Collection.of mixedTree "src" = .ok c ∧ Gathers (.directory mixedEntries) "src" c ∧
      Collection.of (.directory [("src", .directory mixedEntries.reverse)]) "src" = .ok c' ∧
        c'.files = c.files := by
  have hfind : mixedTree.find "src" = .ok (.directory mixedEntries) := by cbv
  have hinput : Path.isStandardInput "src" = false := by cbv
  have hreorders : Reorders mixedTree (.directory [("src", .directory mixedEntries.reverse)]) :=
    @Reorders.inside [] [] "src" _ _ (.here (List.reverse_perm mixedEntries).symm)
  obtain ⟨c, hc, hgathers, horder⟩ :=
    exists_collection_gathers_iff isTree_mixedTree undotted_mixedTree hfind
  obtain ⟨c', hc', hfiles, -⟩ := horder _ (.single hreorders)
  refine ⟨hfind, c, c', hc, hgathers.2 fun hroot => ?_, hc', hfiles⟩
  exact absurd (hinput.symm.trans hroot) Bool.false_ne_true

/-- The path `-` stands for the standard input also where a directory has that name, and the source
file that lies below the directory is not collected. -/
theorem collection_hyphen :
    let top : Entry := .directory [("sub", .directory innerEntries)]
    hyphenTree.IsTree ∧ hyphenTree.Undotted ∧ hyphenTree.find "-" = .ok top ∧
      (∃ content, SourceBelow top "-" "-/sub/A.tsx" content) ∧
        Collection.of hyphenTree "-" = .ok { root := "-" } ∧ ¬Gathers top "-" { root := "-" } := by
  intro top
  have hbelow : SourceBelow top "-" "-/sub/A.tsx"
      (.text "const a = <i className=\"material-symbols-rounded\">home</i>;") := by
    refine ⟨["sub", "A.tsx"], ?_, by cbv, by cbv⟩
    exact @Holds.inside _ [_] ("sub", .directory innerEntries) _ List.mem_cons_self
      (@Holds.inside _ innerEntries ("A.tsx", _) [] List.mem_cons_self .file)
  have hundotted : hyphenTree.Undotted := by
    refine Entry.undotted_directory (List.forall_mem_singleton.2 ⟨by decide, ?_⟩)
    refine Entry.undotted_directory (List.forall_mem_singleton.2 ⟨by decide, ?_⟩)
    exact Entry.undotted_directory
      (List.forall_mem_singleton.2 ⟨by decide, Entry.undotted_file _⟩)
  refine ⟨isTree_hyphenTree, hundotted, by cbv, ⟨_, hbelow⟩, by cbv, fun h => ?_⟩
  exact absurd ((h.mem_files ⟨_, _⟩).2 hbelow) List.not_mem_nil

end IconSubset
