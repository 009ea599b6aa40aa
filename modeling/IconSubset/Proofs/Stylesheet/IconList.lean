import IconSubset.Proofs.IconSet.Membership
import IconSubset.Proofs.Text.Trimming
import IconSubset.Stylesheet.Address

/-!
# The list of icons in an address

An address lists the trims of the given names that are not blank, sorted, and each once. That is how
the set that is collected from the names lists them as well (`iconList_eq`): sorting puts
repetitions next to each other, so that dropping names next to themselves leaves the list strictly
increasing. The list of a set whose names are trimmed is the list of its names (`iconList_toList`).
-/

namespace IconSubset.Stylesheet

/-- Dropping repetitions drops no name. -/
theorem mem_dropRepeats {names : List String} {x : String} : x ∈ dropRepeats names ↔ x ∈ names := by
  fun_induction dropRepeats names with
  | case1 => exact Iff.rfl
  | case2 => exact Iff.rfl
  | case3 y rest ih =>
    rw [ih]
    simp
  | case4 y z rest hne ih => rw [List.mem_cons, ih, List.mem_cons (b := y)]

/-- Without repetitions a sorted list is strictly increasing. -/
theorem pairwise_dropRepeats {names : List String} (h : names.Pairwise (· ≤ ·)) :
    (dropRepeats names).Pairwise (· < ·) := by
  fun_induction dropRepeats names with
  | case1 => exact .nil
  | case2 x => exact List.pairwise_singleton _ x
  | case3 y rest ih => exact ih (List.pairwise_cons.1 h).2
  | case4 y z rest hne ih =>
    obtain ⟨hy, hrest⟩ := List.pairwise_cons.1 h
    refine List.pairwise_cons.2 ⟨fun x hx => ?_, ih hrest⟩
    have hyz : y < z := Std.lt_of_le_of_ne (hy z List.mem_cons_self) hne
    -- What follows is no smaller than the next name, which is greater.
    obtain rfl | hx := List.mem_cons.1 (mem_dropRepeats.1 hx)
    · exact hyz
    · exact Std.lt_of_lt_of_le hyz ((List.pairwise_cons.1 hrest).1 x hx)

/-- Names are sorted by their order. -/
theorem pairwise_mergeSort_names (names : List String) :
    (names.mergeSort fun a b => decide (a ≤ b)).Pairwise (· ≤ ·) := by
  refine (List.pairwise_mergeSort ?_ ?_ names).imp of_decide_eq_true
  · intro a b c hab hbc
    exact decide_eq_true (String.le_trans (of_decide_eq_true hab) (of_decide_eq_true hbc))
  · intro a b
    rw [Bool.or_eq_true, decide_eq_true_iff, decide_eq_true_iff]
    exact String.le_total a b

/-- The list of icons is strictly increasing. -/
theorem pairwise_iconList (names : List String) : (iconList names).Pairwise (· < ·) :=
  pairwise_dropRepeats (pairwise_mergeSort_names _)

/-- The list of icons has the trims of the names that are not blank. -/
theorem mem_iconList {names : List String} {x : String} :
    x ∈ iconList names ↔ (∃ name ∈ names, x = Text.trim name) ∧ x ≠ "" := by
  unfold iconList
  rw [mem_dropRepeats, List.mem_mergeSort, List.mem_filter, List.mem_map, decide_eq_true_iff]
  refine and_congr_left fun _ => exists_congr fun name => and_congr_right fun _ => ?_
  exact eq_comm

/-- The list of icons is that of the set collected from the names. -/
theorem iconList_eq (names : List String) : iconList names = (IconSet.ofList names).toList := by
  have hset : (⟨iconList names, pairwise_iconList names⟩ : IconSet) = IconSet.ofList names :=
    IconSet.ext_mem fun _ => mem_iconList.trans IconSet.mem_ofList.symm
  exact congrArg IconSet.names hset

/-- The list of icons of a set whose names are trimmed is the list of its names. -/
theorem iconList_toList {s : IconSet} (h : ∀ name ∈ s, Text.Trimmed name) :
    iconList s.toList = s.toList := by
  have hset : IconSet.ofList s.toList = s := by
    refine IconSet.ext_mem fun x => IconSet.mem_ofList.trans ?_
    constructor
    · rintro ⟨⟨name, hname, rfl⟩, -⟩
      rw [(h name hname).trim_eq]
      exact hname
    · exact fun hx => ⟨⟨x, hx, (h x hx).trim_eq.symm⟩, (h x hx).ne_empty⟩
  rw [iconList_eq, hset]

end IconSubset.Stylesheet
