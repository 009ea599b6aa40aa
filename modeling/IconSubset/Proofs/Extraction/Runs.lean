import IconSubset.Proofs.Extraction.Contribution

/-!
# The runs of text among the children of an element

The children of a marked element add one name for each longest run of text among them, and the
literals of each expression in braces, and nothing else (`mem_insertMany_childTexts`). A run is said
here by where it stands (`IsTextRun`): its children are neighbours that are all text or character
references, and neither the child before them nor the one after them is. So no two runs are joined,
and none is lost, also not the last.

The search splits the children where a run ends. `isTextRun_iff` shows that the pieces, apart from
the empty ones, are the longest runs, by splitting at a child that is no part of a run until none is
left.
-/

namespace IconSubset.Extraction

open Syntax

/-- Children of an element that are a longest run of text among all of them. -/
inductive IsTextRun : List Node → List Node → Prop
  /-- They stand next to each other, and what stands beside them belongs to no run. -/
  | intro {before run after : List Node} (hne : run ≠ [])
      (hrun : ∀ n ∈ run, isRunPart n = true)
      (hbefore : ∀ n ∈ before.getLast?, isRunPart n = false)
      (hafter : ∀ n ∈ after.head?, isRunPart n = false) :
      IsTextRun run (before ++ run ++ after)

/-- The text of a run: that of its texts as it is written, and that of its character references
decoded. -/
def runText (run : List Node) : String := String.ofList (run.flatMap runPart)

section Splitting

variable {run : List Node}

/-- A longest run stays one when children come behind that begin with one that is no part of a
run. -/
theorem IsTextRun.append_right {children : List Node} (h : IsTextRun run children) {n : Node}
    (hn : isRunPart n = false) (rest : List Node) : IsTextRun run (children ++ n :: rest) := by
  obtain @⟨before, run, after, hne, hrun, hbefore, hafter⟩ := h
  rw [List.append_assoc]
  refine .intro hne hrun hbefore fun m hm => ?_
  cases after with
  | nil =>
    obtain rfl : n = m := by simpa using hm
    exact hn
  | cons a after => exact hafter m hm

/-- A longest run stays one when children come before that end with one that is no part of a
run. -/
theorem IsTextRun.append_left {children : List Node} (h : IsTextRun run children) {n : Node}
    (hn : isRunPart n = false) (rest : List Node) : IsTextRun run (rest ++ n :: children) := by
  obtain @⟨before, run, after, hne, hrun, hbefore, hafter⟩ := h
  have hsplit : rest ++ n :: (before ++ run ++ after) = rest ++ n :: before ++ run ++ after := by
    simp
  rw [hsplit]
  refine .intro hne hrun (fun m hm => ?_) hafter
  rw [List.getLast?_append_of_ne_nil _ (List.cons_ne_nil n before)] at hm
  cases before with
  | nil =>
    obtain rfl : n = m := by simpa using hm
    exact hn
  | cons b before => exact hbefore m (by rwa [List.getLast?_cons_cons] at hm)

/-- A piece between two children that are no part of a run is a longest run, unless it is empty. -/
theorem isTextRun_of_mem_splitOnP (hne : run ≠ []) (children : List Node)
    (h : run ∈ children.splitOnP fun n => !isRunPart n) : IsTextRun run children := by
  by_cases hparts : ∀ n ∈ children, isRunPart n = true
  · -- All children are one run.
    rw [List.splitOnP_eq_singleton (by simpa using hparts)] at h
    obtain rfl := List.mem_singleton.1 h
    simpa using @IsTextRun.intro [] run [] hne hparts (by simp) (by simp)
  · push Not at hparts
    obtain ⟨n, hmem, hn⟩ := hparts
    replace hn : isRunPart n = false := Bool.eq_false_iff.2 hn
    obtain ⟨before, after, hsplit⟩ := List.append_of_mem hmem
    have hlength : before.length < children.length ∧ after.length < children.length := by
      rw [hsplit, List.length_append, List.length_cons]
      omega
    rw [hsplit, List.splitOnP_append_cons _ _ (by simp [hn])] at h
    rw [hsplit]
    rcases List.mem_append.1 h with h | h
    · exact (isTextRun_of_mem_splitOnP hne before h).append_right hn after
    · exact (isTextRun_of_mem_splitOnP hne after h).append_left hn before
  termination_by children.length
  decreasing_by
    · exact hlength.1
    · exact hlength.2

/-- The longest runs are the pieces between children that are no part of a run, apart from empty
ones. -/
theorem isTextRun_iff {children : List Node} : IsTextRun run children ↔
    (run ∈ children.splitOnP fun n => !isRunPart n) ∧ run ≠ [] := by
  constructor
  · rintro @⟨before, run, after, hne, hrun, hbefore, hafter⟩
    refine ⟨?_, hne⟩
    -- The run is the first piece from where it begins.
    have hfirst : run ∈ (run ++ after).splitOnP fun n => !isRunPart n := by
      cases after with
      | nil =>
        rw [List.append_nil, List.splitOnP_eq_singleton (by simpa using hrun)]
        exact List.mem_singleton_self run
      | cons a after =>
        rw [List.splitOnP_append_cons _ _ (by simpa using hafter),
          List.splitOnP_eq_singleton (by simpa using hrun)]
        exact List.mem_append_left _ (List.mem_singleton_self run)
    rw [List.append_assoc]
    rcases List.eq_nil_or_concat before with rfl | ⟨before, b, rfl⟩
    · exact hfirst
    · rw [List.concat_eq_append] at hbefore ⊢
      rw [List.append_assoc, List.singleton_append,
        List.splitOnP_append_cons _ _ (by simpa using hbefore)]
      exact List.mem_append_right _ hfirst
  · rintro ⟨h, hne⟩
    exact isTextRun_of_mem_splitOnP hne children h

end Splitting

/-- A longest run gives its text, and an empty piece gives nothing that is not blank. -/
theorem mem_textRuns_iff {children : List Node} {text : String} (hne : text ≠ "") :
    text ∈ textRuns children ↔ ∃ run, IsTextRun run children ∧ text = runText run := by
  unfold textRuns
  rw [List.mem_map]
  simp only [isTextRun_iff]
  constructor
  · rintro ⟨run, hrun, rfl⟩
    refine ⟨run, ⟨hrun, ?_⟩, rfl⟩
    rintro rfl
    exact hne rfl
  · rintro ⟨run, ⟨hrun, -⟩, rfl⟩
    exact ⟨run, hrun, rfl⟩

/-- The children of a marked element put into a set the trim of the text of each longest run of text
among them and the trims of the literals of each expression in braces, unless they are blank, and
nothing else. -/
theorem mem_insertMany_childTexts (children : List Node) (seed : IconSet) (name : String) :
    name ∈ seed.insertMany (childTexts [] children) ↔ name ∈ seed ∨
      (∃ run, IsTextRun run children ∧ name = Text.trim (runText run) ∧ name ≠ "") ∨
      ∃ container ∈ children, container.kind = .jsxExpression ∧
        ∃ expression, inner? container = some expression ∧
          ∃ text ∈ literals expression, name = Text.trim text ∧ name ≠ "" := by
  rw [IconSet.mem_insertMany]
  refine or_congr_right ?_
  constructor
  · rintro ⟨⟨text, htext, rfl⟩, hblank⟩
    have hne : text ≠ "" := by
      rintro rfl
      exact hblank rfl
    cases mem_childTexts.1 htext with
    | run h =>
      obtain ⟨run, hrun, rfl⟩ := (mem_textRuns_iff hne).1 h
      exact .inl ⟨run, hrun, rfl, hblank⟩
    | literal hmem hkind hinner h =>
      exact .inr ⟨_, hmem, hkind, _, hinner, text, h, rfl, hblank⟩
  · rintro (⟨run, hrun, rfl, hblank⟩ |
      ⟨container, hmem, hkind, expression, hinner, text, h, rfl, hblank⟩)
    · have hne : runText run ≠ "" := fun he => hblank (by rw [he]; rfl)
      exact ⟨⟨_, mem_childTexts.2 (.run ((mem_textRuns_iff hne).2 ⟨run, hrun, rfl⟩)), rfl⟩, hblank⟩
    · exact ⟨⟨_, mem_childTexts.2 (.literal hmem hkind hinner h), rfl⟩, hblank⟩

end IconSubset.Extraction
