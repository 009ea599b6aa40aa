import IconSubset.Proofs.Printing.Expression
import IconSubset.Proofs.Tsx.ShapeNodes

/-!
# The literals of printed expressions

The literals of the tree of a printed expression are the names among which the expression chooses,
each as often as it is written and in the same order (`Expression.literals_node`). No element stands
in such a tree, and nothing in it is faulty.
-/

namespace IconSubset.Printing

open Extraction
open Syntax (Kind Node stringText templateSegments)
open Tsx Tsx.Constant Tsx.Shape

/-- The name of an icon as a text. -/
def IconName.string (n : IconName) : String := String.ofList n.text

/-- Whether a kind is neither that of an element nor that of an error. -/
def isInert (k : Kind) : Bool := k ≠ .error && k ≠ .jsxElement && k ≠ .jsxSelfClosing

/-- An inert kind is none of the three. -/
theorem isInert_iff {k : Kind} :
    isInert k = true ↔ k ≠ .error ∧ k ≠ .jsxElement ∧ k ≠ .jsxSelfClosing := by
  simp [isInert, and_assoc]

/-- Inert kinds are no errors. -/
theorem ne_error_of_isInert (k : Kind) (h : isInert k = true) : (k ≠ .error : Bool) = true :=
  decide_eq_true (isInert_iff.1 h).1

/-- A mark is neither an element nor an error. -/
theorem allKinds_markShape (text : String) : (markShape text).allKinds isInert = true := rfl

/-- A space is neither an element nor an error. -/
theorem allKinds_spaceShape : spaceShape.allKinds isInert = true := rfl

/-- An identifier is neither an element nor an error. -/
theorem allKinds_identifier (id : Identifier) : id.shape.allKinds isInert = true := rfl

namespace Expression

/-- An expression is no blanks. -/
theorem isBlanks_shape (e : Expression) : e.shape.isBlanks = false := by
  cases e with
  | call function arguments => cases arguments <;> rfl
  | _ => rfl

mutual

/-- There are neither elements nor errors in an expression. -/
theorem allKinds_shape : ∀ e : Expression, e.shape.allKinds isInert = true
  | name quote n => by cases quote <;> rfl
  | identifier id => rfl
  | conditional test consequence alternative => by
    have hconsequence := allKinds_shape consequence
    have halternative := allKinds_shape alternative
    simp only [shape, allKinds, allKindsOfAll, allKinds_withRole, allKinds_markShape,
      allKinds_spaceShape, allKinds_identifier, hconsequence, halternative, Bool.and_true]
    rfl
  | logical op left right => by
    have hleft := allKinds_shape left
    have hright := allKinds_shape right
    simp only [shape, allKinds, allKindsOfAll, allKinds_withRole, allKinds_markShape,
      allKinds_spaceShape, hleft, hright, Bool.and_true]
    rfl
  | call function [] => rfl
  | call function (first :: rest) => by
    have hfirst := allKinds_shape first
    have hrest := allKinds_shapesOfMore rest
    simp only [shape, allKinds, allKindsOfAll, allKindsOfAll_append, List.cons_append,
      allKinds_markShape, allKinds_identifier, hfirst, hrest, Bool.and_true]
    rfl

/-- There are neither elements nor errors in the arguments after the first. -/
theorem allKinds_shapesOfMore : ∀ arguments : List Expression,
    allKindsOfAll isInert (shapesOfMore arguments) = true
  | [] => rfl
  | e :: rest => by
    have he := allKinds_shape e
    have hrest := allKinds_shapesOfMore rest
    simp only [shapesOfMore, allKindsOfAll, allKinds_markShape, allKinds_spaceShape, he, hrest,
      Bool.and_true]

end

end Expression

/-! ## Literals -/

/-- A name between quotes is the only literal of a string. -/
theorem literals_stringShape (quote : Char) (n : IconName) (start : Syntax.Position) :
    literals ((Shape.branch .string none [markShape (String.singleton quote),
      .token .stringFragment none n.text, markShape (String.singleton quote)]).node start) =
      [n.string] := by
  rw [literals_string rfl]
  show [String.ofList ([] ++ ((String.ofList n.text).toList ++ ([] ++ [])))] = _
  rw [String.toList_ofList, List.append_nil, List.nil_append, List.append_nil]
  rfl

/-- A name between backticks is the only literal of a template. -/
theorem literals_templateShape (quote : Char) (n : IconName) (start : Syntax.Position) :
    literals ((Shape.branch .templateString none [markShape (String.singleton quote),
      .token .stringFragment none n.text, markShape (String.singleton quote)]).node start) =
      [n.string] := by
  refine literals_template rfl ?_
  show [String.ofList ([] ++ ((String.ofList n.text).toList ++ ([] ++ [])))] = _
  rw [String.toList_ofList, List.append_nil, List.nil_append, List.append_nil]
  rfl

/-- A space has no node. -/
theorem nodesOfAll_space (start : Syntax.Position) (rest : List Shape) :
    nodesOfAll start (spaceShape :: rest) = nodesOfAll (start.after [' ']) rest := rfl

/-- A mark has a node. -/
theorem nodesOfAll_mark (text : String) (start : Syntax.Position) (rest : List Shape) :
    nodesOfAll start (markShape text :: rest) =
      (markShape text).node start :: nodesOfAll (start.after text.toList) rest := rfl

section Shapes

variable {first second third : Shape} {xs ys : List String}

/-- A conditional gives the literals of its branches. -/
theorem literals_ternaryShape (hfirst : first.isBlanks = false) (hsecond : second.isBlanks = false)
    (hthird : third.isBlanks = false) (hxs : ∀ start, literals (second.node start) = xs)
    (hys : ∀ start, literals (third.node start) = ys) (start : Syntax.Position) :
    literals ((Shape.branch .ternary none
      [first.withRole .condition, spaceShape, markShape "?", spaceShape,
        second.withRole .consequence, spaceShape, markShape ":", spaceShape,
        third.withRole .alternative]).node start) = xs ++ ys := by
  rw [literals_ternary rfl]
  unfold Node.child?
  show (List.find? _ (nodesOfAll start _)).elim [] literals ++
    (List.find? _ (nodesOfAll start _)).elim [] literals = _
  -- Once the children are listed, the branches are those in the two roles.
  rw [nodesOfAll_withRole hfirst, nodesOfAll_space, nodesOfAll_mark, nodesOfAll_space,
    nodesOfAll_withRole hsecond, nodesOfAll_space, nodesOfAll_mark, nodesOfAll_space,
    nodesOfAll_withRole hthird]
  show literals _ ++ literals _ = _
  rw [literals_withRole, literals_withRole, hxs, hys]

/-- A logical operation gives the literals of its operands. -/
theorem literals_binaryShape (op : LogicalOperator) (hfirst : first.isBlanks = false)
    (hsecond : second.isBlanks = false) (hxs : ∀ start, literals (first.node start) = xs)
    (hys : ∀ start, literals (second.node start) = ys) (start : Syntax.Position) :
    literals ((Shape.branch .binary none
      [first.withRole .left, spaceShape, (markShape op.mark).withRole .operator, spaceShape,
        second.withRole .right]).node start) = xs ++ ys := by
  have hop : IsOperation op ((Shape.branch .binary none
      [first.withRole .left, spaceShape, (markShape op.mark).withRole .operator, spaceShape,
        second.withRole .right]).node start) := by
    refine ⟨rfl, ((markShape op.mark).node
      ((start.after (first.withRole .left).chars).after [' '])).withRole .operator, ?_,
      String.ofList_toList⟩
    show List.find? _ (nodesOfAll start _) = _
    rw [nodesOfAll_withRole hfirst, nodesOfAll_space, nodesOfAll_withRole rfl]
    rfl
  rw [literals_logical rfl hop.isLogical]
  unfold Node.child?
  show (List.find? _ (nodesOfAll start _)).elim [] literals ++
    (List.find? _ (nodesOfAll start _)).elim [] literals = _
  rw [nodesOfAll_withRole hfirst, nodesOfAll_space, nodesOfAll_withRole rfl, nodesOfAll_space,
    nodesOfAll_withRole hsecond]
  show literals _ ++ literals _ = _
  rw [literals_withRole, literals_withRole, hxs, hys]

/-- Parentheses give the literals of what is in them. -/
theorem literals_parenthesizedShape (hfirst : first.isBlanks = false)
    (htrivia : ∀ start, isTrivia (first.node start) = false)
    (hxs : ∀ start, literals (first.node start) = xs) (start : Syntax.Position) :
    literals ((Shape.branch .parenthesized none
      [markShape "(", first, markShape ")"]).node start) = xs := by
  rw [literals_parenthesized rfl]
  show (List.find? _ (nodesOfAll start _)).elim [] literals = _
  rw [nodesOfAll_mark, nodesOfAll_cons hfirst, List.find?_cons_of_neg, List.find?_cons_of_pos]
  · exact hxs _
  · rw [htrivia]
    rfl
  · exact Bool.false_ne_true

/-- A call gives the literals of its arguments. -/
theorem literals_callShape {parts : List Shape} (hfirst : first.isBlanks = false)
    (hrole : ∀ start, (first.node start).role = none)
    (hxs : ∀ start, ((nodesOfAll start parts).filter fun c => !isTrivia c).flatMap literals = xs)
    (start : Syntax.Position) :
    literals ((Shape.branch .call none
      [first, .branch .arguments (some .arguments) parts]).node start) = xs := by
  -- The function is in no role, so the child in the role of the arguments is their list.
  have hchild : ((Shape.branch .call none
      [first, .branch .arguments (some .arguments) parts]).node start).child? .arguments =
        some ((Shape.branch .arguments (some .arguments) parts).node
          (start.after first.chars)) := by
    unfold Node.child?
    show (nodesOfAll start _).find? _ = _
    rw [nodesOfAll_cons hfirst, List.find?_cons_of_neg]
    · rfl
    · rw [hrole]
      exact Bool.false_ne_true
  have hlist : argumentsOf ((Shape.branch .call none
      [first, .branch .arguments (some .arguments) parts]).node start) =
        (nodesOfAll (start.after first.chars) parts).filter fun c => !isTrivia c := by
    unfold argumentsOf
    rw [hchild]
    rfl
  rw [literals_call rfl, hlist, hxs]

end Shapes

namespace Expression

/-- An expression is neither a comment nor a mark. -/
theorem isTrivia_node (e : Expression) (start : Syntax.Position) :
    isTrivia (e.shape.node start) = false := by
  cases e with
  | name quote n => cases quote <;> rfl
  | call function arguments => cases arguments <;> rfl
  | _ => rfl

mutual

/-- The literals of an expression are the names among which it chooses. -/
theorem literals_node : ∀ (e : Expression) (start : Syntax.Position),
    literals (e.shape.node start) = e.names.map IconName.string
  | name .single n, start => literals_stringShape _ n start
  | name .double n, start => literals_stringShape _ n start
  | name .backtick n, start => literals_templateShape _ n start
  | identifier id, start => rfl
  | conditional test consequence alternative, start => by
    rw [names, List.map_append]
    exact literals_parenthesizedShape rfl (fun _ => rfl) (literals_ternaryShape rfl
      (isBlanks_shape _) (isBlanks_shape _) (literals_node consequence)
      (literals_node alternative)) start
  | logical op left right, start => by
    rw [names, List.map_append]
    exact literals_parenthesizedShape rfl (fun _ => rfl) (literals_binaryShape op
      (isBlanks_shape _) (isBlanks_shape _) (literals_node left) (literals_node right)) start
  | call function [], start => literals_callShape rfl (fun _ => rfl) (fun _ => rfl) start
  | call function (first :: rest), start => by
    have harguments : ∀ start, ((nodesOfAll start (markShape "(" :: first.shape ::
        shapesOfMore rest ++ [markShape ")"])).filter fun c => !isTrivia c).flatMap literals =
          first.names.map IconName.string ++ (namesOfAll rest).map IconName.string := by
      intro start
      rw [List.cons_append, List.cons_append, nodesOfAll_mark, nodesOfAll_cons (isBlanks_shape _),
        nodesOfAll_append, List.filter_cons_of_neg Bool.false_ne_true,
        List.filter_cons_of_pos (by rw [isTrivia_node]; rfl), List.filter_append, List.flatMap_cons,
        List.flatMap_append, literals_node first, literals_nodesOfMore rest]
      exact congrArg _ (List.append_nil _)
    rw [names, namesOfAll, List.map_append]
    exact literals_callShape rfl (fun _ => rfl) harguments start

/-- The literals of the arguments after the first are the names among which they choose. -/
theorem literals_nodesOfMore : ∀ (arguments : List Expression) (start : Syntax.Position),
    ((nodesOfAll start (shapesOfMore arguments)).filter fun c => !isTrivia c).flatMap literals =
      (namesOfAll arguments).map IconName.string
  | [], start => rfl
  | e :: rest, start => by
    rw [shapesOfMore, nodesOfAll_mark, nodesOfAll_space, nodesOfAll_cons (isBlanks_shape _),
      List.filter_cons_of_neg Bool.false_ne_true,
      List.filter_cons_of_pos (by rw [isTrivia_node]; rfl), List.flatMap_cons, literals_node e,
      literals_nodesOfMore rest, namesOfAll, List.map_append]

end

end Expression

end IconSubset.Printing
