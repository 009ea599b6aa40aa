import IconSubset.Extraction.SourceFile
import IconSubset.Proofs.IconSet.Membership
import IconSubset.Proofs.Printing.ElementTexts

/-!
# Modules that declare a constant

A module that declares the constant `x`, whatever its value. When the value is read as an
expression of a shape, the module has the tree of that shape (`parse_constantText`), the value is
what the first declaration in the tree sets (`initializer?_constantShape`), and the elements of the
module are those of the value (`forestTexts_constant`). So its icons are those of the value
(`extract_constantText`).
-/

namespace IconSubset

namespace Syntax

mutual

/-- The value that the first declaration of a variable sets, in the order of the document. -/
def initializer? : Node → Option Node
  | .mk kind role start text missing children =>
    if kind = .variableDeclarator then
      (Node.mk kind role start text missing children).child? .value
    else firstInitializer? children

/-- The value that the first declaration in several trees sets. -/
def firstInitializer? : List Node → Option Node
  | [] => none
  | n :: rest => (initializer? n).or (firstInitializer? rest)

end

end Syntax

namespace Printing

open Extraction
open Syntax (Kind Node Role)
open Tsx Tsx.Constant Tsx.Shape

/-- How the declaration of a constant is written. -/
def constantText (value : List Char) : List Char := "const x = ".toList ++ (value ++ ";".toList)

/-- The shape of the declaration of a constant. -/
def constantShape (value : Shape) : Shape :=
  .branch .program none
    [.branch (.other "lexical_declaration") none
      [markShape "const", spaceShape,
        .branch .variableDeclarator none
          [.token (.other "identifier") none ['x'], spaceShape, markShape "=", spaceShape,
            value.withRole .value],
        markShape ";"]]

/-! ## Reading -/

/-- The name of the constant is read. -/
theorem reads_constantName {rest : List Char} :
    Reads constantName ['x'] (.token (.other "identifier") none ['x']) (' ' :: rest) := rfl

section Value

variable {value : List Char} {shape : Shape}

/-- A declaration is read as it is written when its value is. -/
theorem shape?_constantText (hdark : Dark value)
    (hread : ∀ depth, value.length ≤ depth → ∀ next,
      Reads (expression depth .value) value shape (';' :: next)) :
    shape? (constantText value) = some (constantShape shape) := by
  have htext : constantText value = "const".toList ++ ([' '] ++ (['x'] ++ ([' '] ++ ("=".toList ++
      ([' '] ++ (value ++ ";".toList)))))) := rfl
  have hdepth : value.length ≤ (constantText value).length := by
    unfold constantText
    rw [List.length_append, List.length_append, ← Nat.add_assoc, Nat.add_right_comm]
    exact Nat.le_add_left _ _
  have hmodule : Reads (declaration (constantText value).length) (constantText value)
      (constantShape shape) [] := by
    -- The depth stays as it is when the text is taken apart.
    generalize (constantText value).length = depth at hdepth ⊢
    rw [htext]
    refine Reads.bind (reads_mark "const") (Reads.bind (reads_someSpace (dark_cons rfl)) ?_)
    refine Reads.bind reads_constantName (Reads.bind (reads_space (dark_cons rfl)) ?_)
    refine Reads.bind (reads_mark "=") (Reads.bind (reads_space ?_) ?_)
    · exact (hdark.append _).append _
    -- The value, and what ends the module.
    refine Reads.bind (hread depth hdepth _).orElse ?_
    refine Reads.skip (reads_noBlanks (dark_cons rfl)) (Reads.finish (reads_mark ";") ?_)
    exact Reads.finish rfl Reads.pure
  unfold Reads at hmodule
  rw [List.append_nil] at hmodule
  unfold shape?
  rw [hmodule]

/-- A declaration has the tree of its shape when its value is read as it is written, and has no
errors in it. -/
theorem parse_constantText (hdark : Dark value)
    (hread : ∀ depth, value.length ≤ depth → ∀ next,
      Reads (expression depth .value) value shape (';' :: next))
    (hkinds : shape.allKinds (· ≠ .error) = true) :
    Tsx.parse (String.ofList (constantText value)) = .ok ((constantShape shape).node 0) := by
  have htree : Tsx.tree (String.ofList (constantText value)) = (constantShape shape).node 0 := by
    unfold Tsx.tree Constant.tree?
    rw [String.toList_ofList, shape?_constantText hdark hread]
    rfl
  have hall : (constantShape shape).allKinds (· ≠ .error) = true := by
    simp only [constantShape, allKinds, allKindsOfAll, allKinds_withRole, hkinds, Bool.and_true]
    rfl
  have hfault : Syntax.firstFault (String.ofList (constantText value)).toList
      ((constantShape shape).node 0) = none := by
    refine Syntax.firstFault_eq_none _ _ fun e he => ?_
    obtain ⟨hmissing, hkind⟩ := kind_of_within _ hall _ (List.mem_singleton_self _) e he
    exact ⟨hmissing, of_decide_eq_true hkind⟩
  unfold Tsx.parse
  rw [htree]
  dsimp only
  rw [hfault]

end Value

/-- The value of the constant is what the first declaration of the module sets. -/
theorem initializer?_constantShape {shape : Shape} (h : shape.isBlanks = false) :
    ∃ start, Syntax.initializer? ((constantShape shape).node 0) =
      some ((shape.node start).withRole .value) := by
  -- The declaration stands behind the keyword, and its name, which is in no role, before the value.
  have hdeclared : ∀ start : Syntax.Position, ∃ start',
      ((Shape.branch .variableDeclarator none
        [.token (.other "identifier") none ['x'], spaceShape, markShape "=", spaceShape,
          shape.withRole .value]).node start).child? .value =
        some ((shape.node start').withRole .value) := by
    intro start
    refine ⟨(((start.after ['x']).after [' ']).after ['=']).after [' '], ?_⟩
    unfold Node.child?
    show (nodesOfAll start _).find? _ = _
    rw [nodesOfAll_cons rfl, nodesOfAll_space, nodesOfAll_mark, nodesOfAll_space,
      nodesOfAll_withRole h]
    rfl
  obtain ⟨start, hvalue⟩ :=
    hdeclared ((Syntax.Position.after 0 (markShape "const").chars).after spaceShape.chars)
  -- What follows the declaration is looked at only if it sets nothing.
  have hfirst := congrArg (fun v => (Option.or v none).or none) hvalue
  exact ⟨start, hfirst⟩

/-! ## Texts -/

section Texts

variable (marker : String) (properties : List String)

/-- An inert shape gives nothing. -/
theorem forestTexts_inert {s : Shape} (h : s.allKinds isInert = true) (start : Syntax.Position) :
    forestTexts marker properties (s.nodes start) = [] := by
  have hall : allKindsOfAll isInert [s] = true := by
    rw [allKindsOfAll, h]
    rfl
  have hnodes : nodesOfAll start [s] = s.nodes start := List.append_nil _
  rw [← hnodes]
  exact forestTexts_of_allKinds marker properties hall start

/-- Shapes that follow each other give what each gives. -/
theorem forestTexts_cons (s : Shape) (rest : List Shape) (start : Syntax.Position) :
    forestTexts marker properties (nodesOfAll start (s :: rest)) =
      forestTexts marker properties (s.nodes start) ++
        forestTexts marker properties (nodesOfAll (start.after s.chars) rest) := by
  rw [nodesOfAll, forestTexts_append]

/-- Without shapes nothing is given. -/
theorem forestTexts_nil (start : Syntax.Position) :
    forestTexts marker properties (nodesOfAll start []) = [] := by
  rw [nodesOfAll, forestTexts]

/-- A branch that gives nothing as an element gives what is inside it. -/
theorem forestTexts_branch {kind : Kind} {role : Option Syntax.Role} {parts : List Shape}
    {start : Syntax.Position}
    (h : elementTexts marker properties ((Shape.branch kind role parts).node start) = []) :
    forestTexts marker properties ((Shape.branch kind role parts).nodes start) =
      forestTexts marker properties (nodesOfAll start parts) := by
  show forestTexts marker properties [.mk kind role start _ false (nodesOfAll start parts)] = _
  rw [forestTexts, forestTexts, List.append_nil, treeTexts]
  show elementTexts marker properties ((Shape.branch kind role parts).node start) ++ _ = _
  rw [h, List.nil_append]

/-- A module gives what the value of its constant gives. -/
theorem forestTexts_constant (value : Shape) : ∃ start,
    forestTexts marker properties ((constantShape value).nodes 0) =
      forestTexts marker properties ((value.withRole .value).nodes start) := by
  have hname : (Shape.token (.other "identifier") none ['x']).allKinds isInert = true := rfl
  unfold constantShape
  rw [forestTexts_branch _ _ rfl, forestTexts_cons, forestTexts_nil, List.append_nil,
    forestTexts_branch _ _ rfl]
  simp only [forestTexts_cons, forestTexts_nil, forestTexts_inert _ _ (allKinds_markShape _),
    forestTexts_inert _ _ allKinds_spaceShape, List.nil_append, List.append_nil]
  rw [forestTexts_branch _ _ rfl]
  simp only [forestTexts_cons, forestTexts_nil, forestTexts_inert _ _ hname,
    forestTexts_inert _ _ (allKinds_markShape _), forestTexts_inert _ _ allKinds_spaceShape,
    List.nil_append, List.append_nil]
  exact ⟨_, rfl⟩

end Texts

end Printing

end IconSubset
