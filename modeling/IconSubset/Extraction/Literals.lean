import IconSubset.Syntax.Cooked

/-!
# The literals that an expression can give

An expression gives a literal when it is one, or when it selects among expressions that give it:
both branches of a conditional, both operands of a logical operator and every argument of a call are
followed, since which of them counts is not known before the program runs. Nothing else is looked
into.
-/

namespace IconSubset.Extraction

open Syntax

/-- Whether a node stands beside the expression in parentheses, braces or an argument list. -/
def isTrivia (n : Node) : Bool :=
  match n.kind with
  | .comment => true
  | .token t => t ∈ ["\x7b", "\x7d", "(", ")", ","]
  | _ => false

/-- Whether an expression with these parts has a logical operator. -/
def isLogical (parts : List Node) : Bool :=
  match parts.find? (·.role == some .operator) with
  | some op => op.text ∈ ["&&", "||", "??"]
  | none => false

mutual

/-- The texts that an expression can give. -/
def literals : Node → List String
  | .mk .string _ _ _ _ parts => [stringText parts]
  | .mk .ternary _ _ _ _ parts =>
    literalsOfPart .consequence parts ++ literalsOfPart .alternative parts
  | .mk .binary _ _ _ _ parts =>
    if isLogical parts then literalsOfPart .left parts ++ literalsOfPart .right parts else []
  | .mk .templateString _ _ _ _ parts =>
    match templateSegments parts with
    | [only] => [only]
    | _ => []
  | .mk .call _ _ _ _ parts => literalsOfArguments parts
  | .mk .parenthesized _ _ _ _ parts => literalsOfInner parts
  | _ => []

/-- The texts that the first part with a role can give. -/
def literalsOfPart (role : Role) : List Node → List String
  | [] => []
  | n :: rest => if n.role == some role then literals n else literalsOfPart role rest

/-- The texts that the arguments can give, among the parts of a call. A template in their place is
not looked into. -/
def literalsOfArguments : List Node → List String
  | [] => []
  | .mk kind role _ _ _ parts :: rest =>
    if role == some .arguments then
      if kind = .arguments then literalsOfEach parts else []
    else literalsOfArguments rest

/-- The texts that the expressions of an argument list can give. -/
def literalsOfEach : List Node → List String
  | [] => []
  | n :: rest => if isTrivia n then literalsOfEach rest else literals n ++ literalsOfEach rest

/-- The texts that the expression inside parentheses or braces can give. -/
def literalsOfInner : List Node → List String
  | [] => []
  | n :: rest => if isTrivia n then literalsOfInner rest else literals n

end

/-- The texts that the value of an attribute can give. -/
def literalsOfValue : Node → List String
  | .mk .jsxExpression _ _ _ _ parts => literalsOfInner parts
  | n => literals n

end IconSubset.Extraction
