import IconSubset.Proofs.Extraction.Literals
import IconSubset.Proofs.IconSet.Membership

/-!
# Expressions and what they evaluate to

The search for literals is sound: a string that an expression evaluates to is among its literals, so
no icon is missed that a program chooses when it runs (`trim_mem_of_evaluates`). `Evaluates` is the
evaluation of expressions as far as strings are concerned. Conditionals and logical operators select
by the value of what stands before the mark, a call gives one of its arguments or a value of its
own, and every expression of another kind has the value, which is no string, that the environment
gives it.

The proof is by induction on the evaluation (`mem_literals_of_evaluates`), where each rule passes a
value on from one expression inside another to the other, and `Literals` says that literals are
passed on alike.
-/

namespace IconSubset.Extraction

open Syntax

/-- A value that is no string, as far as conditionals and logical operators tell values apart. -/
inductive NonString where
  /-- Neither null nor undefined, and true as a condition. -/
  | truthy
  /-- Neither null nor undefined, and false as a condition. -/
  | falsy
  /-- Null or undefined. -/
  | nullish
deriving DecidableEq, Repr

/-- The value of an expression. -/
inductive Value where
  /-- A string. -/
  | string (text : String)
  /-- Anything else. -/
  | other (value : NonString)
deriving DecidableEq, Repr

namespace Value

/-- Whether a value counts as true; of the strings, all but the empty one do. -/
def isTruthy : Value → Bool
  | string text => text ≠ ""
  | other value => value = .truthy

/-- Whether a value is null or undefined. -/
def isNullish : Value → Bool
  | string _ => false
  | other value => value = .nullish

end Value

/-- Whether an operation has the value of its left operand, given that value. -/
def LogicalOperator.keeps : LogicalOperator → Value → Bool
  | and, v => !v.isTruthy
  | or, v => v.isTruthy
  | coalesce, v => !v.isNullish

/-- A node is of none of the kinds that can have a string as their value. -/
structure IsOther (n : Node) : Prop where
  /-- It is no quoted string. -/
  string : n.kind ≠ .string
  /-- It is no template. -/
  template : n.kind ≠ .templateString
  /-- It is no conditional. -/
  conditional : n.kind ≠ .ternary
  /-- It is no operation with a logical operator. -/
  operation : ∀ op, ¬IsOperation op n
  /-- It is no expression in parentheses. -/
  parenthesized : n.kind ≠ .parenthesized
  /-- It is no call. -/
  call : n.kind ≠ .call

/-- An expression can evaluate to a value, when the environment gives the value of every expression
of another kind. -/
inductive Evaluates (environment : Node → NonString) : Node → Value → Prop
  /-- A quoted string is what it stands for. -/
  | string {n : Node} (hkind : n.kind = .string) :
      Evaluates environment n (.string (stringText n.children))
  /-- A template without substitutions is what it stands for. -/
  | template {n : Node} (hkind : n.kind = .templateString)
      (hfree : ∀ c ∈ n.children, c.kind ≠ .templateSubstitution) :
      Evaluates environment n (.string (String.join (templateSegments n.children)))
  /-- A template with substitutions has a value that may be empty or not, and that does not count as
  a string here. -/
  | placeholder {n c : Node} {value : NonString} (hkind : n.kind = .templateString)
      (hc : c ∈ n.children) (hsubstitution : c.kind = .templateSubstitution)
      (hvalue : value ≠ .nullish) : Evaluates environment n (.other value)
  /-- A conditional with a true condition has the value of the first branch. -/
  | consequence {n condition branch : Node} {v w : Value} (hkind : n.kind = .ternary)
      (hcondition : n.child? .condition = some condition) (hv : Evaluates environment condition v)
      (htruthy : v.isTruthy = true) (hbranch : n.child? .consequence = some branch)
      (hw : Evaluates environment branch w) : Evaluates environment n w
  /-- A conditional with a false condition has the value of the second branch. -/
  | alternative {n condition branch : Node} {v w : Value} (hkind : n.kind = .ternary)
      (hcondition : n.child? .condition = some condition) (hv : Evaluates environment condition v)
      (hfalsy : v.isTruthy = false) (hbranch : n.child? .alternative = some branch)
      (hw : Evaluates environment branch w) : Evaluates environment n w
  /-- A logical operation can have the value of its left operand. -/
  | left {n operand : Node} {op : LogicalOperator} {v : Value} (hop : IsOperation op n)
      (hleft : n.child? .left = some operand) (hv : Evaluates environment operand v)
      (hkeeps : op.keeps v = true) : Evaluates environment n v
  /-- A logical operation has the value of its right operand otherwise. -/
  | right {n operand other : Node} {op : LogicalOperator} {v w : Value} (hop : IsOperation op n)
      (hleft : n.child? .left = some operand) (hv : Evaluates environment operand v)
      (hkeeps : op.keeps v = false) (hright : n.child? .right = some other)
      (hw : Evaluates environment other w) : Evaluates environment n w
  /-- Parentheses have the value of the expression inside them. -/
  | parenthesized {n expression : Node} {v : Value} (hkind : n.kind = .parenthesized)
      (hinner : inner? n = some expression) (hv : Evaluates environment expression v) :
      Evaluates environment n v
  /-- A call can have any value that is no string. -/
  | call {n : Node} {value : NonString} (hkind : n.kind = .call) :
      Evaluates environment n (.other value)
  /-- A call can have the value of an argument. -/
  | argument {n a : Node} {v : Value} (hkind : n.kind = .call) (ha : a ∈ argumentsOf n)
      (hv : Evaluates environment a v) : Evaluates environment n v
  /-- The environment gives the value of any other expression. -/
  | other {n : Node} (hother : IsOther n) : Evaluates environment n (.other (environment n))

/-- A template has a segment. -/
theorem exists_segments_eq_cons (parts : List Node) : ∃ s more, segments parts = s :: more := by
  cases parts with
  | nil => exact ⟨_, _, rfl⟩
  | cons n rest =>
    unfold segments
    split_ifs
    · exact ⟨_, _, rfl⟩
    · split
      · exact ⟨_, _, rfl⟩
      · exact ⟨_, _, rfl⟩

/-- A template has exactly one segment when it has no substitutions, and then the segment is what
its parts stand for. -/
theorem segments_eq_singleton_iff {parts : List Node} {text : List Char} :
    segments parts = [text] ↔
      (∀ c ∈ parts, c.kind ≠ .templateSubstitution) ∧ text = parts.flatMap templatePartText := by
  induction parts generalizing text with
  | nil => simp [segments, eq_comm]
  | cons n rest ih =>
    obtain ⟨s, more, hsegments⟩ := exists_segments_eq_cons rest
    rw [segments, hsegments, List.forall_mem_cons, List.flatMap_cons]
    by_cases hkind : n.kind = .templateSubstitution
    · -- A substitution parts two segments.
      rw [if_pos hkind]
      exact iff_of_false (fun h => by simp at h) fun h => h.1.1 hkind
    · rw [if_neg hkind]
      constructor
      · intro h
        obtain ⟨rfl, rfl⟩ := List.cons_eq_cons.1 h
        obtain ⟨hfree, rfl⟩ := ih.1 hsegments
        exact ⟨⟨hkind, hfree⟩, rfl⟩
      · rintro ⟨⟨-, hfree⟩, rfl⟩
        obtain ⟨rfl, rfl⟩ := List.cons_eq_cons.1 (hsegments.symm.trans (ih.2 ⟨hfree, rfl⟩))
        rfl

/-- A template without substitutions gives what it stands for. -/
theorem literals_template_free {n : Node} (hkind : n.kind = .templateString)
    (hfree : ∀ c ∈ n.children, c.kind ≠ .templateSubstitution) :
    literals n = [String.join (templateSegments n.children)] := by
  have hsegments : templateSegments n.children =
      [String.ofList (n.children.flatMap templatePartText)] := by
    rw [templateSegments, segments_eq_singleton_iff.2 ⟨hfree, rfl⟩, List.map_singleton]
  rw [literals_template hkind hsegments, hsegments]
  simp [String.join]

/-- A string that an expression can evaluate to is among its literals. -/
theorem mem_literals_of_evaluates {environment : Node → NonString} {n : Node} {text : String}
    (h : Evaluates environment n (.string text)) : text ∈ literals n := by
  generalize hresult : Value.string text = result at h
  -- Each rule passes on the value of an expression inside, except those whose value is no string.
  induction h with
  | string hkind =>
    cases hresult
    rw [literals_string hkind]
    exact List.mem_singleton_self _
  | template hkind hfree =>
    cases hresult
    rw [literals_template_free hkind hfree]
    exact List.mem_singleton_self _
  | placeholder => cases hresult
  | consequence hkind _ _ _ hbranch _ _ ih =>
    rw [literals_ternary hkind, hbranch]
    exact List.mem_append_left _ (ih hresult)
  | alternative hkind _ _ _ hbranch _ _ ih =>
    rw [literals_ternary hkind, hbranch]
    exact List.mem_append_right _ (ih hresult)
  | left hop hleft _ _ ih =>
    rw [literals_logical hop.1 hop.isLogical, hleft]
    exact List.mem_append_left _ (ih hresult)
  | right hop _ _ _ hright _ _ ih =>
    rw [literals_logical hop.1 hop.isLogical, hright]
    exact List.mem_append_right _ (ih hresult)
  | parenthesized hkind hinner _ ih =>
    rw [literals_parenthesized hkind, hinner]
    exact ih hresult
  | call => cases hresult
  | argument hkind ha _ ih =>
    rw [literals_call hkind]
    exact List.mem_flatMap.2 ⟨_, ha, ih hresult⟩
  | other => cases hresult

/-- Whatever the environment, the trim of a string that an expression can evaluate to is put into
the set with the literals of the expression, unless it is blank. -/
theorem trim_mem_of_evaluates (environment : Node → NonString) (n : Node) (text : String)
    (seed : IconSet) (h : Evaluates environment n (.string text)) (hblank : Text.trim text ≠ "") :
    Text.trim text ∈ seed.insertMany (literals n) := by
  rw [IconSet.mem_insertMany]
  exact .inr ⟨⟨text, mem_literals_of_evaluates h, rfl⟩, hblank⟩

/-- The tree of `open ? pick(name ?? ' home ') : 'menu'`. -/
def chosenIcon : Node :=
  .mk .ternary none 0 "open ? pick(name ?? ' home ') : 'menu'" false
    [ .mk (.other "identifier") (some .condition) 0 "open" false [],
      .mk (.token "?") none 5 "?" false [],
      .mk .call (some .consequence) 7 "pick(name ?? ' home ')" false
        [ .mk (.other "identifier") none 7 "pick" false [],
          .mk .arguments (some .arguments) 11 "(name ?? ' home ')" false
            [ .mk (.token "(") none 11 "(" false [],
              .mk .binary none 12 "name ?? ' home '" false
                [ .mk (.other "identifier") (some .left) 12 "name" false [],
                  .mk (.token "??") (some .operator) 17 "??" false [],
                  .mk .string (some .right) 20 "' home '" false
                    [.mk .stringFragment none 21 " home " false []] ],
              .mk (.token ")") none 28 ")" false [] ] ],
      .mk (.token ":") none 30 ":" false [],
      .mk .string (some .alternative) 32 "'menu'" false
        [.mk .stringFragment none 33 "menu" false []] ]

/-- An identifier has the value that the environment gives it. -/
theorem isOther_identifier (role : Option Role) (start : Syntax.Position) (text : String) :
    IsOther (.mk (.other "identifier") role start text false []) where
  string := by simp [Node.kind]
  template := by simp [Node.kind]
  conditional := by simp [Node.kind]
  operation := fun op h => absurd h.1 (by simp [Node.kind])
  parenthesized := by simp [Node.kind]
  call := by simp [Node.kind]

/-- Where `open` is true and `name` is undefined, the expression evaluates to a string whose trim is
put into an empty set. -/
theorem home_mem_chosenIcon :
    let environment := fun n : Node => if n.text = "open" then NonString.truthy else .nullish
    Evaluates environment chosenIcon (.string " home ") ∧ Text.trim " home " ≠ "" ∧
      "home" ∈ IconSet.empty.insertMany (literals chosenIcon) := by
  intro environment
  have hname : Evaluates environment chosenIcon (.string " home ") := by
    -- The condition is true, and the call gives its argument.
    refine .consequence rfl rfl (.other (isOther_identifier _ _ _)) rfl rfl ?_
    refine .argument rfl (List.mem_singleton_self _) ?_
    -- The left operand is undefined, so the right one is the value.
    refine @Evaluates.right _ _ _ _ .coalesce _ _ ?_ rfl
      (.other (isOther_identifier _ _ _)) ?_ rfl ?_
    · exact ⟨rfl, _, rfl, rfl⟩
    · decide
    · exact .string rfl
  exact ⟨hname, by decide, trim_mem_of_evaluates environment chosenIcon " home " .empty hname
    (by decide)⟩

end IconSubset.Extraction
