import IconSubset.IconSet
import IconSubset.Proofs.Text.Trimming
import Mathlib.Data.List.Basic

/-!
# What is in a set of icon names

A set is determined by its members (`ext_mem`), so every operation is described by the members of
what it gives. Inserting adds the trim of a name unless that is blank (`mem_insert`), inserting one
name after another adds the trims of all of them (`mem_insertMany`), and the union of two sets has
the members of both, whichever way it is built up (`mem_union`). Hence the union is commutative,
associative and idempotent, and the empty set is its unit.
-/

namespace IconSubset.IconSet

/-- A name is a member of a set when it is one of its names. -/
instance : Membership String IconSet := ⟨fun s name => name ∈ s.names⟩

/-- The members of a set are its names. -/
@[simp]
theorem mem_names {s : IconSet} {name : String} : name ∈ s.names ↔ name ∈ s := Iff.rfl

/-- The names of a set are different. -/
theorem nodup_names (s : IconSet) : s.names.Nodup := by
  rw [List.nodup_iff_pairwise_ne]
  refine s.sorted.imp ?_
  rintro x y hlt rfl
  exact String.lt_irrefl x hlt

/-- Sets with the same members are equal. -/
theorem ext_mem {a b : IconSet} (h : ∀ name, name ∈ a ↔ name ∈ b) : a = b := by
  have hperm : a.names.Perm b.names := (List.perm_ext_iff_of_nodup a.nodup_names b.nodup_names).2 h
  apply ext
  refine hperm.eq_of_pairwise ?_ a.sorted b.sorted
  intro x y _ _ hxy hyx
  exact absurd (String.lt_trans hxy hyx) (String.lt_irrefl x)

/-- The set without names has no member. -/
@[simp]
theorem not_mem_empty {name : String} : name ∉ empty := List.not_mem_nil

/-- Putting a name in as it is written adds it and nothing else. -/
@[simp]
theorem mem_insertVerbatim {s : IconSet} {name x : String} :
    x ∈ s.insertVerbatim name ↔ x = name ∨ x ∈ s := mem_place

/-- Inserting a name adds its trim, unless it is blank, and nothing else. -/
theorem mem_insert {s : IconSet} {name x : String} :
    x ∈ s.insert name ↔ x ∈ s ∨ (x = Text.trim name ∧ x ≠ "") := by
  unfold insert
  dsimp only
  split_ifs with hblank
  · constructor
    · exact Or.inl
    · rintro (h | ⟨rfl, hx⟩)
      · exact h
      · exact absurd hblank hx
  · rw [mem_insertVerbatim, or_comm]
    refine or_congr_right ?_
    constructor
    · rintro rfl
      exact ⟨rfl, hblank⟩
    · exact And.left

/-- Inserting names one after another adds their trims, unless they are blank, and nothing else. -/
theorem mem_insertMany {s : IconSet} {names : List String} {x : String} :
    x ∈ s.insertMany names ↔ x ∈ s ∨ (∃ name ∈ names, x = Text.trim name) ∧ x ≠ "" := by
  unfold insertMany
  induction names generalizing s with
  | nil => simp
  | cons name rest ih =>
    rw [List.foldl_cons, ih, mem_insert, or_assoc]
    refine or_congr_right ?_
    rw [List.exists_mem_cons_iff, or_and_right]

/-- The set of a list of names has their trims, unless they are blank, and nothing else. -/
theorem mem_ofList {names : List String} {x : String} :
    x ∈ ofList names ↔ (∃ name ∈ names, x = Text.trim name) ∧ x ≠ "" := by
  unfold ofList
  rw [mem_insertMany]
  simp

/-- The set of a single text holds its trim, and nothing when the text is blank. -/
theorem toList_ofList_singleton (text : String) :
    (ofList [text]).toList = if Text.isBlankText text then [] else [Text.trim text] := by
  show (empty.insert text).names = _
  unfold insert
  dsimp only
  by_cases hblank : Text.isBlankText text = true
  · rw [if_pos (Text.trim_eq_empty_iff.2 hblank), if_pos hblank]
    rfl
  · rw [if_neg (mt Text.trim_eq_empty_iff.1 hblank), if_neg hblank]
    rfl

/-- Putting names in as they are written adds them and nothing else. -/
theorem mem_foldl_insertVerbatim {s : IconSet} {names : List String} {x : String} :
    x ∈ names.foldl insertVerbatim s ↔ x ∈ s ∨ x ∈ names := by
  induction names generalizing s with
  | nil => simp
  | cons name rest ih =>
    rw [List.foldl_cons, ih, mem_insertVerbatim, List.mem_cons]
    tauto

/-- A set is empty when it has no member. -/
theorem eq_empty_of_isEmpty {s : IconSet} (h : s.isEmpty = true) : s = empty := by
  apply ext
  rw [isEmpty, List.isEmpty_iff] at h
  exact h

/-- The union of two sets has the members of both, also when the first is empty and the second is
taken as it is. -/
@[simp]
theorem mem_union {a b : IconSet} {x : String} : x ∈ a.union b ↔ x ∈ a ∨ x ∈ b := by
  unfold union
  split_ifs with hempty
  · rw [eq_empty_of_isEmpty hempty]
    simp
  · exact mem_foldl_insertVerbatim

/-! ## The laws of the union -/

/-- A union is what putting in the names of the second set one by one gives, also when the first set
is empty and nothing is put in one by one. -/
theorem union_eq_foldl (a b : IconSet) : a.union b = b.toList.foldl insertVerbatim a :=
  ext_mem fun _ => mem_union.trans mem_foldl_insertVerbatim.symm

/-- A union does not depend on which set comes first. -/
theorem union_comm (a b : IconSet) : a.union b = b.union a := by
  refine ext_mem fun x => ?_
  rw [mem_union, mem_union, or_comm]

/-- A union of three sets does not depend on its bracketing. -/
theorem union_assoc (a b c : IconSet) : (a.union b).union c = a.union (b.union c) := by
  refine ext_mem fun x => ?_
  rw [mem_union, mem_union, mem_union, mem_union, or_assoc]

/-- The union of a set with itself is that set. -/
@[simp]
theorem union_self (a : IconSet) : a.union a = a := by
  refine ext_mem fun x => ?_
  rw [mem_union, or_self_iff]

/-- The empty set adds nothing to a set. -/
@[simp]
theorem union_empty (a : IconSet) : a.union empty = a := by
  refine ext_mem fun x => ?_
  rw [mem_union, or_iff_left not_mem_empty]

/-- The union of the empty set with another is the other. -/
@[simp]
theorem empty_union (a : IconSet) : empty.union a = a :=
  (union_comm empty a).trans (union_empty a)

end IconSubset.IconSet
