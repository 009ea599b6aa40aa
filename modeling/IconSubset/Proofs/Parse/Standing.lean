import IconSubset.Parse.Tree
import IconSubset.Proofs.Syntax.Address

/-!
# Where the nodes of a parse tree stand

Whatever a parser makes of a source, the nodes of the syntax tree are stretches of the source: each
has the text, the byte and the row that the source has at its place (`allStand_rootNode`). A place
is found by adding up lengths in characters, so it is a boundary between characters.
-/

namespace IconSubset.Parse

open Syntax (Node Position Role)
open Grammar (Grammar Step Alias)

/-- The characters of a source are those before a place, some more, and those behind them. -/
theorem take_slice (s : Source) (i k : Nat) :
    s.chars.toList = s.chars.toList.take i ++ (s.slice i (i + k)).toList ++
      s.chars.toList.drop (i + k) := by
  rw [Source.slice, String.toList_ofList, Array.toList_extract, List.extract_eq_take_drop,
    Nat.add_sub_cancel_left, List.append_assoc, ← List.drop_drop, List.take_append_drop,
    List.take_append_drop]

/-- A place behind a character is one byte or more, and perhaps a row, further. -/
theorem after_cons (p : Position) (c : Char) (cs : List Char) :
    p.after (c :: cs) =
      Position.after ⟨p.byte + c.utf8Size, if c == '\n' then p.row + 1 else p.row⟩ cs := by
  rw [← List.singleton_append, Position.after_append]
  congr 1
  unfold Position.after
  rw [List.count_singleton]
  congr 1
  · simp
  · split <;> rfl

/-- The stretch before a place has the bytes and the line feeds of the characters before it. -/
theorem extent_eq (s : Source) (i : Nat) :
    (⟨(s.extent 0 i).bytes, (s.extent 0 i).rows⟩ : Position) =
      Position.after 0 (s.chars.toList.take i) := by
  have hcount : ∀ (cs : List Char) (e : Extent), (⟨(cs.foldl (fun e c =>
      ⟨e.chars + 1, e.bytes + c.utf8Size, if c == '\n' then e.rows + 1 else e.rows⟩) e).bytes,
      (cs.foldl (fun e c => ⟨e.chars + 1, e.bytes + c.utf8Size,
        if c == '\n' then e.rows + 1 else e.rows⟩) e).rows⟩ : Position) =
      Position.after ⟨e.bytes, e.rows⟩ cs := by
    intro cs
    induction cs with
    | nil => exact fun e => rfl
    | cons c cs ih =>
      intro e
      rw [List.foldl_cons, ih, after_cons]
  rw [Source.extent, ← Array.foldl_toList, hcount, Array.toList_extract, List.extract_eq_take_drop,
    Nat.sub_zero, List.drop_zero]
  rfl

mutual

/-- The nodes of a parse tree stand in the source, wherever the tree is put. -/
theorem allStand_treeNodes (g : Grammar) (s : Source) : ∀ (t : Subtree) (byname : Option Alias)
    (role : Option Role) (place : Nat), ∀ n ∈ treeNodes g s byname role place t,
      n.AllStand s.chars.toList
  | .node t children, byname, role, place, n, hn => by
    rw [treeNodes] at hn
    split at hn
    · obtain rfl := List.mem_singleton.1 hn
      refine Node.Stands.all ⟨_, _, take_slice s _ _, extent_eq s _⟩ ?_
      exact allStand_forestNodes g s children none place _
    · exact allStand_forestNodes g s children role place _ n hn

/-- The nodes of parse trees that follow each other stand in the source. -/
theorem allStand_forestNodes (g : Grammar) (s : Source) : ∀ (ts : List Subtree)
    (role : Option Role) (place : Nat) (steps : List Step),
      ∀ n ∈ forestNodes g s role place steps ts, n.AllStand s.chars.toList
  | [], _, _, _, n, hn => by cases hn
  | .node t cs :: rest, role, place, steps, n, hn => by
    rw [forestNodes] at hn
    obtain hn | hn := List.mem_append.1 hn
    · exact allStand_treeNodes g s (.node t cs) _ _ place n hn
    · exact allStand_forestNodes g s rest role _ _ n hn

end

/-- Every node of the syntax tree of a parse tree is a stretch of the source. -/
theorem allStand_rootNode (g : Grammar) (source : String) (t : Subtree) :
    (rootNode g source t).AllStand source.toList := by
  have hchars : (Source.ofString source).chars.toList = source.toList := List.toList_toArray
  unfold rootNode
  split
  · next root rest hnodes =>
    rw [← hchars]
    exact allStand_treeNodes _ _ _ none none 0 root (hnodes ▸ List.mem_cons_self)
  · exact Node.Stands.all ⟨[], [], (List.append_nil _).symm, rfl⟩ nofun

end IconSubset.Parse
