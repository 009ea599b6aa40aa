import IconSubset.Proofs.IconSet.Membership
import IconSubset.Proofs.Text.Bytes
import Mathlib.Data.Finset.Card

/-!
# Runs of operations on a set

A set of icon names is worked on by operations, one after another: names are put in singly or many
at a time, asked for, replaced, united with another collection, and taken out all together. Whatever
the run, the set stands for the names that were supplied since it was last replaced or drained: it
holds their trims, without the empty one, in the order of their bytes (`Represents`), and every
reply is the one that those trims give (`Answers`). `represents_step` and `answers_step` say so for
one operation, and `run_refines` for every step of a run that starts with the empty set.
-/

namespace IconSubset.IconSet

/-- An operation on a set of icon names. -/
inductive Operation where
  /-- Puts a name in. -/
  | insert (name : String)
  /-- Asks whether a name is in the set. -/
  | contains (name : String)
  /-- Puts many names in. -/
  | extend (names : List String)
  /-- Replaces the set by the one that is collected from names. -/
  | collect (names : List String)
  /-- Unites the set with the one that is collected from names. -/
  | merge (names : List String)
  /-- Takes all names out. -/
  | drain
deriving DecidableEq, Repr

/-- What an operation replies. -/
inductive Reply where
  /-- Nothing. -/
  | nothing
  /-- Whether something is so. -/
  | truth (holds : Bool)
  /-- Names in some order. -/
  | names (names : List String)
deriving DecidableEq, Repr

/-- Does one operation: the set afterwards, and the reply. -/
def step (s : IconSet) : Operation → IconSet × Reply
  | .insert name => (s.insert name, .truth (s.accepts name))
  | .contains name => (s, .truth (s.contains name))
  | .extend names => (s.insertMany names, .nothing)
  | .collect names => (ofList names, .nothing)
  | .merge names => (s.union (ofList names), .nothing)
  | .drain => (empty, .names s.toList)

/-- Does operations one after another: for each the set afterwards, and the reply. -/
def run (s : IconSet) : List Operation → List (IconSet × Reply)
  | [] => []
  | op :: rest => s.step op :: run (s.step op).1 rest

/-! ## What a set stands for -/

/-- The names supplied since the set was last replaced or drained, after one more operation. -/
def supply (given : List String) : Operation → List String
  | .insert name => given ++ [name]
  | .contains _ => given
  | .extend names => given ++ names
  | .collect names => names
  | .merge names => given ++ names
  | .drain => []

/-- The names supplied by operations since the set was last replaced or drained. -/
def supplied (ops : List Operation) : List String := ops.foldl supply []

/-- The trims of names, without the empty one. -/
def trims (names : List String) : Finset String := (names.map Text.trim).toFinset.erase ""

/-- Names stand in the order of their UTF-8 bytes, each once. -/
def InByteOrder (names : List String) : Prop :=
  names.Pairwise fun a b => Text.bytes a < Text.bytes b

/-- A set is gone through in the order of the bytes of its names. -/
theorem inByteOrder_toList (s : IconSet) : InByteOrder s.toList := s.sorted.imp Text.bytes_lt_iff.2

/-- A set stands for the trims of given names. -/
structure Represents (s : IconSet) (given : List String) : Prop where
  /-- It is gone through in the order of the bytes. -/
  ordered : InByteOrder s.toList
  /-- What is found in it are the trims. -/
  mem_iff : ∀ x, x ∈ s.toList ↔ x ∈ trims given
  /-- It counts them. -/
  size_eq : s.size = (trims given).card

/-- A reply to an operation is right for the names supplied before it. -/
def Answers (given : List String) : Operation → Reply → Prop
  | .insert name, reply => reply = .truth (decide (Text.trim name ≠ "" ∧
      ∀ earlier ∈ given, Text.trim earlier ≠ Text.trim name))
  | .contains name, reply => reply = .truth (decide (Text.trim name ∈ trims given))
  | .drain, reply => ∃ names, reply = .names names ∧ InByteOrder names ∧
      ∀ x, x ∈ names ↔ x ∈ trims given
  | .extend _, reply | .collect _, reply | .merge _, reply => reply = .nothing

/-- The trims of names are what their trims are, apart from the empty one. -/
theorem mem_trims (names : List String) (x : String) :
    x ∈ trims names ↔ (∃ name ∈ names, x = Text.trim name) ∧ x ≠ "" := by
  unfold trims
  rw [Finset.mem_erase, List.mem_toFinset, List.mem_map, and_comm]
  refine and_congr_left fun _ => exists_congr fun name => and_congr_right fun _ => ?_
  exact eq_comm

/-- The trims of names that are put together. -/
theorem mem_trims_append {names more : List String} {x : String} :
    x ∈ trims (names ++ more) ↔ x ∈ trims names ∨ x ∈ trims more := by
  rw [mem_trims, mem_trims, mem_trims, ← or_and_right, ← exists_or]
  refine and_congr_left fun _ => exists_congr fun name => ?_
  rw [List.mem_append, or_and_right]

/-- A set with the trims of names as its members stands for them. -/
theorem Represents.of_mem {s : IconSet} {given : List String}
    (h : ∀ x, x ∈ s ↔ x ∈ trims given) : Represents s given where
  ordered := inByteOrder_toList s
  mem_iff := h
  size_eq := by
    have hnames : s.names.toFinset = trims given :=
      Finset.ext fun x => List.mem_toFinset.trans (h x)
    rw [← hnames, List.toFinset_card_of_nodup s.nodup_names]
    rfl

/-- The empty set stands for no names. -/
theorem represents_empty : Represents empty [] :=
  .of_mem fun _ => iff_of_false not_mem_empty (Finset.notMem_empty _)

variable {s : IconSet} {given : List String}

/-- A set that stands for the names supplied before an operation stands for those supplied after
it. -/
theorem represents_step (h : Represents s given) (op : Operation) :
    Represents (s.step op).1 (supply given op) := by
  refine .of_mem fun x => ?_
  have hs : x ∈ s ↔ x ∈ trims given := h.mem_iff x
  cases op with
  | insert name =>
    show x ∈ s.insert name ↔ x ∈ trims (given ++ [name])
    rw [mem_insert, mem_trims_append, hs, mem_trims [name]]
    simp
  | contains name => exact hs
  | extend names =>
    show x ∈ s.insertMany names ↔ x ∈ trims (given ++ names)
    rw [mem_insertMany, mem_trims_append, hs, mem_trims names]
  | collect names => exact mem_ofList.trans (mem_trims names x).symm
  | merge names =>
    show x ∈ s.union (ofList names) ↔ x ∈ trims (given ++ names)
    rw [mem_union, mem_trims_append, hs, mem_ofList, mem_trims names]
  | drain => exact represents_empty.mem_iff x

/-- The reply of a set that stands for the names supplied before an operation is right for them. -/
theorem answers_step (h : Represents s given) (op : Operation) :
    Answers given op (s.step op).2 := by
  cases op with
  | insert name =>
    refine congrArg Reply.truth (Bool.eq_iff_iff.2 ?_)
    unfold accepts
    have hname : Text.trim name ∈ s.names ↔ Text.trim name ∈ trims given := h.mem_iff _
    rw [decide_eq_true_iff, Bool.and_eq_true, decide_eq_true_iff, Bool.not_eq_true',
      List.contains_eq_mem, decide_eq_false_iff_not, hname, mem_trims]
    -- Only a trim that is not empty can have been supplied before.
    refine and_congr_right fun hne => ?_
    constructor
    · exact fun hnew earlier hearlier heq => hnew ⟨⟨earlier, hearlier, heq.symm⟩, hne⟩
    · rintro hnew ⟨⟨earlier, hearlier, heq⟩, -⟩
      exact hnew earlier hearlier heq.symm
  | contains name =>
    refine congrArg Reply.truth (Bool.eq_iff_iff.2 ?_)
    unfold contains
    rw [decide_eq_true_iff, List.contains_iff_mem]
    exact h.mem_iff _
  | drain => exact ⟨s.toList, rfl, h.ordered, h.mem_iff⟩
  | extend names => rfl
  | collect names => rfl
  | merge names => rfl

/-- Every step of a run that starts with a set that stands for given names. -/
theorem getElem?_run (h : Represents s given) (before after : List Operation) (op : Operation) :
    ∃ entry, (run s (before ++ op :: after))[before.length]? = some entry ∧
      Answers (before.foldl supply given) op entry.2 ∧
      Represents entry.1 (supply (before.foldl supply given) op) ∧
        (op = .drain → entry.1 = empty) := by
  induction before generalizing s given with
  | nil => exact ⟨s.step op, rfl, answers_step h op, represents_step h op, fun hop => hop ▸ rfl⟩
  | cons first rest ih => exact ih (represents_step h first)

/-- In every run that starts with the empty set, and at each of its steps, the reply is right for
the names supplied before the step since the set was last replaced or drained, and the set
afterwards stands for the names supplied up to and with the step. Taking all names out leaves the
set empty. -/
theorem run_refines (before after : List Operation) (op : Operation) :
    ∃ s reply, (run empty (before ++ op :: after))[before.length]? = some (s, reply) ∧
      Answers (supplied before) op reply ∧ Represents s (supplied (before ++ [op])) ∧
      (op = .drain → s = empty) := by
  obtain ⟨⟨s, reply⟩, hentry, hreply, hset, hdrain⟩ := getElem?_run represents_empty before after op
  refine ⟨s, reply, hentry, hreply, ?_, hdrain⟩
  unfold supplied
  rw [List.foldl_append]
  exact hset

/-- A run whose names differ in their blanks only. -/
example : run empty [.insert " b\n", .insert "b", .merge ["é", "a", " "], .contains "a ", .drain] =
    [ (ofList ["b"], .truth true), (ofList ["b"], .truth false), (ofList ["a", "b", "é"], .nothing),
      (ofList ["a", "b", "é"], .truth true), (empty, .names ["a", "b", "é"]) ] := by
  decide

end IconSubset.IconSet
