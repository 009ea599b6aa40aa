import IconSubset.Extraction.Literals
import Mathlib.Tactic.Common

/-!
# The search for literals by the parts of a node

The search goes through the parts of a node one by one. Here it is described by the parts that it
finds: the expression inside parentheses or braces (`inner?`), the expression that an attribute's
value stands for (`expression?`), the arguments of a call (`argumentsOf`), the operator of a logical
operation (`IsOperation`), and the part in a role (`Node.child?`). For each kind of node that is
looked into there is one equation that gives its literals by those of the expressions inside it.
-/

namespace IconSubset.Extraction

open Syntax

/-- The expression inside parentheses or braces. -/
def inner? (n : Node) : Option Node := n.children.find? fun c => !isTrivia c

/-- The expression that the value of an attribute stands for. -/
def expression? (value : Node) : Option Node :=
  if value.kind = .jsxExpression then inner? value else some value

/-- The arguments of a call. A template in their place has none. -/
def argumentsOf (n : Node) : List Node :=
  match n.child? .arguments with
  | some list => if list.kind = .arguments then list.children.filter fun c => !isTrivia c else []
  | none => []

/-- An operator that gives one of its operands. -/
inductive LogicalOperator where
  /-- Conjunction. -/
  | and
  /-- Disjunction. -/
  | or
  /-- The replacement of null and undefined. -/
  | coalesce
deriving DecidableEq, Repr

/-- How an operator is written. -/
def LogicalOperator.mark : LogicalOperator → String
  | and => "&&"
  | or => "||"
  | coalesce => "??"

/-- A node is an operation with a logical operator. -/
def IsOperation (op : LogicalOperator) (n : Node) : Prop :=
  n.kind = .binary ∧ ∃ mark, n.child? .operator = some mark ∧ mark.text = op.mark

/-- The operator of a logical operation is found among its parts. -/
theorem IsOperation.isLogical {op : LogicalOperator} {n : Node} (h : IsOperation op n) :
    isLogical n.children = true := by
  obtain ⟨-, mark, hmark, htext⟩ := h
  unfold Extraction.isLogical
  rw [show n.children.find? (·.role == some .operator) = some mark from hmark]
  dsimp only
  rw [htext]
  cases op with
  | and => decide
  | or => decide
  | coalesce => decide

/-- The first part that is no trivia gives the literals of what stands in parentheses. -/
theorem literalsOfInner_eq (parts : List Node) :
    literalsOfInner parts = (parts.find? fun c => !isTrivia c).elim [] literals := by
  induction parts with
  | nil => rw [literalsOfInner]; rfl
  | cons n rest ih =>
    rw [literalsOfInner, List.find?_cons]
    cases isTrivia n with
    | true => exact ih
    | false => rfl

/-- The first part in a role gives its literals. -/
theorem literalsOfPart_eq (role : Role) (parts : List Node) :
    literalsOfPart role parts = (parts.find? (·.role == some role)).elim [] literals := by
  induction parts with
  | nil => rw [literalsOfPart]; rfl
  | cons n rest ih =>
    rw [literalsOfPart, List.find?_cons]
    cases n.role == some role with
    | true => rfl
    | false => exact ih

/-- Every part of an argument list that is no trivia gives its literals. -/
theorem literalsOfEach_eq (parts : List Node) :
    literalsOfEach parts = (parts.filter fun c => !isTrivia c).flatMap literals := by
  induction parts with
  | nil => rw [literalsOfEach]; rfl
  | cons n rest ih =>
    rw [literalsOfEach, List.filter_cons, ih]
    cases isTrivia n with
    | true => rfl
    | false => rfl

/-- The argument list of a call gives the literals of its arguments. -/
theorem literalsOfArguments_eq (parts : List Node) :
    literalsOfArguments parts = (parts.find? (·.role == some .arguments)).elim []
      fun list => if list.kind = .arguments then literalsOfEach list.children else [] := by
  induction parts with
  | nil => rw [literalsOfArguments]; rfl
  | cons n rest ih =>
    obtain ⟨kind, role, start, text, missing, children⟩ := n
    rw [literalsOfArguments, List.find?_cons]
    dsimp only [Node.role]
    cases role == some .arguments with
    | true => rfl
    | false => exact ih

/-- A string gives its text. -/
theorem literals_string {n : Node} (h : n.kind = .string) :
    literals n = [stringText n.children] := by
  obtain ⟨kind, role, start, text, missing, parts⟩ := n
  obtain rfl : kind = .string := h
  rw [literals]; rfl

/-- A template without substitutions gives its text. -/
theorem literals_template {n : Node} {text : String} (h : n.kind = .templateString)
    (hsegments : templateSegments n.children = [text]) : literals n = [text] := by
  obtain ⟨kind, role, start, _, missing, parts⟩ := n
  obtain rfl : kind = .templateString := h
  rw [literals, show templateSegments parts = [text] from hsegments]

/-- A conditional gives what its branches give. -/
theorem literals_ternary {n : Node} (h : n.kind = .ternary) :
    literals n = (n.child? .consequence).elim [] literals ++
      (n.child? .alternative).elim [] literals := by
  obtain ⟨kind, role, start, text, missing, parts⟩ := n
  obtain rfl : kind = .ternary := h
  rw [literals, literalsOfPart_eq, literalsOfPart_eq]; rfl

/-- A logical operation gives what its operands give. -/
theorem literals_logical {n : Node} (h : n.kind = .binary)
    (hlogical : isLogical n.children = true) :
    literals n = (n.child? .left).elim [] literals ++ (n.child? .right).elim [] literals := by
  obtain ⟨kind, role, start, text, missing, parts⟩ := n
  obtain rfl : kind = .binary := h
  rw [literals, if_pos (show isLogical parts = true from hlogical), literalsOfPart_eq,
    literalsOfPart_eq]
  rfl

/-- A call gives what its arguments give. -/
theorem literals_call {n : Node} (h : n.kind = .call) :
    literals n = (argumentsOf n).flatMap literals := by
  obtain ⟨kind, role, start, text, missing, parts⟩ := n
  obtain rfl : kind = .call := h
  rw [literals, literalsOfArguments_eq]
  unfold argumentsOf Node.child? Node.children
  cases parts.find? (·.role == some .arguments) with
  | none => rfl
  | some list =>
    dsimp only [Option.elim]
    split_ifs with hkind
    · exact literalsOfEach_eq list.children
    · rfl

/-- Parentheses give what the expression inside them gives. -/
theorem literals_parenthesized {n : Node} (h : n.kind = .parenthesized) :
    literals n = (inner? n).elim [] literals := by
  obtain ⟨kind, role, start, text, missing, parts⟩ := n
  obtain rfl : kind = .parenthesized := h
  rw [literals, literalsOfInner_eq]; rfl

/-- The value of an attribute gives what its expression gives. -/
theorem literalsOfValue_eq (value : Node) :
    literalsOfValue value = (expression? value).elim [] literals := by
  unfold expression?
  obtain ⟨kind, role, start, text, missing, parts⟩ := value
  by_cases hkind : kind = .jsxExpression
  · subst hkind
    rw [literalsOfValue, literalsOfInner_eq]
    rfl
  · rw [if_neg (show ¬(Node.mk kind role start text missing parts).kind = _ from hkind)]
    unfold literalsOfValue
    split
    · next h => cases h; exact absurd rfl hkind
    · rfl

end IconSubset.Extraction
