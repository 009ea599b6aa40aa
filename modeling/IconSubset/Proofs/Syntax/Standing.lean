import IconSubset.Proofs.Parse.Standing
import IconSubset.Proofs.Syntax.FirstFault
import IconSubset.Proofs.Tsx.Lossless

/-!
# Where nodes stand

Every node of the tree of a source is a stretch of the source: its text is that stretch, its byte is
the one at which the stretch starts, and its row is the number of line feeds before it
(`tree_stands`). A tree that was read by descent has this from its shape, whose text is the source,
each part behind the ones before it. A tree by the grammar has it whatever the parser made of the
source.
-/

namespace IconSubset.Tsx

open Syntax (Node Position)

namespace Shape

variable {source : List Char}

mutual

/-- The nodes of a shape stand where its text does. -/
theorem allStand_nodes : ∀ (s : Shape) {before after : List Char},
    source = before ++ s.chars ++ after → ∀ n ∈ s.nodes (Position.after 0 before), n.AllStand source
  | blanks _, _, _, _, n, hn => by cases hn
  | token kind role text, before, after, hsource, n, hn => by
    obtain rfl := List.mem_singleton.1 hn
    exact Node.Stands.all ⟨before, after, by rw [hsource]; simp [chars, Node.text], rfl⟩ nofun
  | branch kind role parts, before, after, hsource, n, hn => by
    obtain rfl := List.mem_singleton.1 hn
    refine Node.Stands.all ⟨before, after, by rw [hsource]; simp [chars, Node.text], rfl⟩ ?_
    exact allStand_nodesOfAll parts hsource

/-- The nodes of shapes that follow each other stand where their text does. -/
theorem allStand_nodesOfAll : ∀ (ss : List Shape) {before after : List Char},
    source = before ++ charsOfAll ss ++ after →
      ∀ n ∈ nodesOfAll (Position.after 0 before) ss, n.AllStand source
  | [], _, _, _, n, hn => by cases hn
  | s :: rest, before, after, hsource, n, hn => by
    rw [charsOfAll] at hsource
    rw [nodesOfAll, ← Position.after_append] at hn
    obtain hn | hn := List.mem_append.1 hn
    · have hfirst : source = before ++ s.chars ++ (charsOfAll rest ++ after) := by
        rw [hsource]
        simp only [List.append_assoc]
      exact allStand_nodes s hfirst n hn
    · have hrest : source = before ++ s.chars ++ charsOfAll rest ++ after := by
        rw [hsource]
        simp only [List.append_assoc]
      exact allStand_nodesOfAll rest hrest n hn

end

end Shape

/-- The tree of a module that declares one constant stands in the source. -/
theorem allStand_of_tree? {source : List Char} {n : Node} (h : Constant.tree? source = some n) :
    n.AllStand source := by
  obtain ⟨s, hshape, hnode⟩ := Option.bind_eq_some_iff.1 h
  have hsource : source = [] ++ s.chars ++ [] := by
    rw [Constant.chars_of_shape? hshape, List.nil_append, List.append_nil]
  exact s.allStand_nodes hsource n (List.mem_of_head? hnode)

/-- Every node of the tree of a source by the grammar is a stretch of the source. -/
theorem allStand_treeByGrammar (source : String) :
    (treeByGrammar source).AllStand source.toList := by
  unfold treeByGrammar
  generalize table.get = t
  exact Parse.allStand_rootNode t.grammar source _

/-- Every node of the tree of a source is a stretch of the source. -/
theorem tree_stands (source : String) : (tree source).AllStand source.toList := by
  unfold tree
  split
  · exact allStand_of_tree? ‹_›
  · exact allStand_treeByGrammar source

end IconSubset.Tsx
