import IconSubset.Proofs.Extraction.Literals
import IconSubset.Proofs.Printing.Words

/-!
# Expressions that choose among names

Expressions that choose among icon names: names between quotes, identifiers, conditionals and
logical operations in parentheses, and calls. `Expression.text` is how one is written and
`Expression.shape` is its tree; `reads_expression` says that the one is read as the other.

The proof is by induction on the depth to which expressions are read. What follows an expression
matters only for identifiers, which are read as far as their letters go (`Closed`).
-/

namespace IconSubset.Printing

open Extraction (LogicalOperator)
open Tsx Tsx.Constant

/-- Whether a character may stand in the name of an icon. -/
def isIconChar (c : Char) : Bool := c.isLower || c.isDigit || c == '_'

/-- The name of an icon. -/
structure IconName where
  /-- The characters. -/
  text : List Char
  /-- There is a character. -/
  ne_nil : text ≠ []
  /-- They are lower case letters, digits and underscores. -/
  chars : text.all isIconChar = true

/-- The characters of a name are none that has another meaning. -/
theorem IconName.ne_of_mem {n : IconName} {c d : Char} (hc : c ∈ n.text)
    (hd : isIconChar d = false) : c ≠ d := by
  rintro rfl
  exact Bool.false_ne_true (hd.symm.trans (List.all_eq_true.1 n.chars _ hc))

/-- What a name is written between. -/
inductive Quote where
  /-- Single quotes. -/
  | single
  /-- Double quotes. -/
  | double
  /-- The backticks of a template. -/
  | backtick

namespace Quote

/-- The character of a quote. -/
def char : Quote → Char
  | single => '\''
  | double => '"'
  | backtick => '`'

/-- The kind of what is written between quotes. -/
def kind : Quote → Syntax.Kind
  | single => .string
  | double => .string
  | backtick => .templateString

end Quote

/-- An expression that chooses among names. -/
inductive Expression where
  /-- A name between quotes. -/
  | name (quote : Quote) (name : IconName)
  /-- An identifier. -/
  | identifier (id : Identifier)
  /-- A conditional in parentheses. -/
  | conditional (test : Identifier) (consequence alternative : Expression)
  /-- A logical operation in parentheses. -/
  | logical (op : LogicalOperator) (left right : Expression)
  /-- A call of a function. -/
  | call (function : Identifier) (arguments : List Expression)

namespace Expression

mutual

/-- How an expression is written. -/
def text : Expression → List Char
  | name quote n => [quote.char] ++ n.text ++ [quote.char]
  | identifier id => id.text
  | conditional test consequence alternative =>
    "(".toList ++ test.text ++ " ? ".toList ++ consequence.text ++ " : ".toList ++
      alternative.text ++ ")".toList
  | logical op left right =>
    "(".toList ++ left.text ++ " ".toList ++ op.mark.toList ++ " ".toList ++ right.text ++
      ")".toList
  | call function [] => function.text ++ "()".toList
  | call function (first :: rest) =>
    function.text ++ "(".toList ++ first.text ++ textOfMore rest ++ ")".toList

/-- How the arguments after the first are written. -/
def textOfMore : List Expression → List Char
  | [] => []
  | e :: rest => ", ".toList ++ e.text ++ textOfMore rest

end

mutual

/-- The shape of an expression. -/
def shape : Expression → Shape
  | name quote n => .branch quote.kind none
      [markShape (String.singleton quote.char), .token .stringFragment none n.text,
        markShape (String.singleton quote.char)]
  | identifier id => id.shape
  | conditional test consequence alternative => .branch .parenthesized none
      [markShape "(",
        .branch .ternary none
          [test.shape.withRole .condition, spaceShape, markShape "?", spaceShape,
            consequence.shape.withRole .consequence, spaceShape, markShape ":", spaceShape,
            alternative.shape.withRole .alternative],
        markShape ")"]
  | logical op left right => .branch .parenthesized none
      [markShape "(",
        .branch .binary none
          [left.shape.withRole .left, spaceShape, (markShape op.mark).withRole .operator,
            spaceShape, right.shape.withRole .right],
        markShape ")"]
  | call function [] => .branch .call none
      [function.shape, .branch .arguments (some .arguments) [markShape "(", markShape ")"]]
  | call function (first :: rest) => .branch .call none
      [function.shape, .branch .arguments (some .arguments)
        (markShape "(" :: first.shape :: shapesOfMore rest ++ [markShape ")"])]

/-- The shapes of the arguments after the first. -/
def shapesOfMore : List Expression → List Shape
  | [] => []
  | e :: rest => markShape "," :: spaceShape :: e.shape :: shapesOfMore rest

end

mutual

/-- The names among which an expression chooses. -/
def names : Expression → List IconName
  | name _ n => [n]
  | identifier _ => []
  | conditional _ consequence alternative => consequence.names ++ alternative.names
  | logical _ left right => left.names ++ right.names
  | call _ arguments => namesOfAll arguments

/-- The names among which the arguments of a call choose. -/
def namesOfAll : List Expression → List IconName
  | [] => []
  | e :: rest => e.names ++ namesOfAll rest

end

end Expression

/-! ## Calls of `override` -/

namespace Expression

/-- Whether an expression is a call of `override`. -/
def isOverrideCall : Expression → Bool
  | call function _ => function.text == "override".toList
  | _ => false

mutual

/-- Whether no operation in an expression has a call of `override` as its left operand. There it is
not read as a call, since the grammar takes the word for the modifier of a parameter. -/
def isReadable : Expression → Bool
  | name _ _ => true
  | identifier _ => true
  | conditional _ consequence alternative => consequence.isReadable && alternative.isReadable
  | logical _ left right => !left.isOverrideCall && (left.isReadable && right.isReadable)
  | call _ arguments => areReadable arguments

/-- Whether the arguments of a call are readable. -/
def areReadable : List Expression → Bool
  | [] => true
  | e :: rest => e.isReadable && areReadable rest

end

/-- Every argument is readable when all of them are. -/
theorem isReadable_of_mem {arguments : List Expression} (h : areReadable arguments = true) :
    ∀ e ∈ arguments, e.isReadable = true := by
  induction arguments with
  | nil => exact fun e he => absurd he List.not_mem_nil
  | cons first rest ih =>
    obtain ⟨hfirst, hrest⟩ := Bool.and_eq_true_iff.1 h
    intro e he
    rcases List.mem_cons.1 he with rfl | he
    · exact hfirst
    · exact ih hrest e he

/-- The shape of an expression tells whether it is a call of `override`. -/
theorem isOverrideCall_shape (e : Expression) :
    Constant.isOverrideCall e.shape = e.isOverrideCall := by
  cases e with
  | name quote n => cases quote <;> rfl
  | call function arguments => cases arguments <;> rfl
  | _ => rfl

end Expression

/-! ## How expressions start and what follows them -/

/-- What may follow an expression. -/
inductive Closed : List Char → Prop
  /-- A space. -/
  | space (rest : List Char) : Closed (' ' :: rest)
  /-- The end of parentheses. -/
  | parenthesis (rest : List Char) : Closed (')' :: rest)
  /-- The next argument. -/
  | comma (rest : List Char) : Closed (',' :: rest)
  /-- The end of braces. -/
  | brace (rest : List Char) : Closed ('}' :: rest)

/-- No letter follows an expression. -/
theorem Closed.letter_eq_none {next : List Char} (h : Closed next) : letter next = none := by
  cases h <;> rfl

/-- No argument list follows an expression. -/
theorem Closed.not_arguments {next : List Char} (h : Closed next) :
    "(".toList.isPrefixOf next = false := by
  cases h <;> rfl

/-- An identifier starts with a character of words. -/
theorem Identifier.exists_cons_append (id : Identifier) (more : List Char) :
    ∃ c rest, id.text ++ more = c :: rest ∧ isWordChar c = true := by
  obtain ⟨c, rest, htext, hc⟩ := id.exists_cons
  exact ⟨c, rest ++ more, by rw [htext]; rfl, hc⟩

namespace Expression

/-- An expression starts neither with a blank nor with the end of parentheses. -/
theorem exists_cons (e : Expression) :
    ∃ c rest, e.text = c :: rest ∧ isAsciiBlank c = false ∧ c ≠ ')' := by
  have hword : ∀ (id : Identifier) (more : List Char), ∃ c rest, id.text ++ more = c :: rest ∧
      isAsciiBlank c = false ∧ c ≠ ')' := by
    intro id more
    obtain ⟨c, rest, htext, hc⟩ := id.exists_cons_append more
    refine ⟨c, rest, htext, not_isAsciiBlank_of_isWordChar hc, ?_⟩
    rintro rfl
    exact absurd hc (by decide)
  cases e with
  | name quote n =>
    refine ⟨quote.char, n.text ++ [quote.char], by simp [text], ?_⟩
    cases quote <;> decide
  | identifier id =>
    have h := hword id []
    rwa [List.append_nil] at h
  | conditional test consequence alternative =>
    exact ⟨'(', _, by simp only [text, List.append_assoc]; rfl, by decide, by decide⟩
  | logical op left right =>
    exact ⟨'(', _, by simp only [text, List.append_assoc]; rfl, by decide, by decide⟩
  | call function arguments =>
    cases arguments with
    | nil => exact hword function _
    | cons first rest =>
      simp only [text, List.append_assoc]
      exact hword function _

/-- No blank stands before an expression. -/
theorem dark_text (e : Expression) : Dark e.text := by
  obtain ⟨c, rest, htext, hc, -⟩ := e.exists_cons
  exact ⟨c, rest, htext, hc⟩

/-- What starts with an expression is not the end of parentheses. -/
theorem not_parenthesis (e : Expression) {cs : List Char} (h : e.text <+: cs) :
    ")".toList.isPrefixOf cs = false := by
  obtain ⟨more, rfl⟩ := h
  obtain ⟨c, rest, htext, -, hc⟩ := e.exists_cons
  rw [htext]
  exact isPrefixOf_eq_false (p := (· != ')')) (bne_iff_ne.2 hc) rfl

/-- A reader reads an expression as it is written, whatever may follow it. -/
def ReadBy (inner : Reader Shape) (e : Expression) : Prop :=
  ∀ next, Closed next → Reads inner e.text e.shape next

end Expression

/-! ## Strings and identifiers -/

section Reading

variable {inner : Reader Shape} {next : List Char}

/-- A name between quotes is read as it is written. -/
theorem reads_quoted {kind : Syntax.Kind} {quote : Char} {piece : Reader (List Piece)}
    (n : IconName) (hquote : isIconChar quote = false)
    (hplain : ∀ c ∈ n.text, ∀ rest, piece (c :: rest) = some ([.plain c], rest)) :
    Reads (between kind quote piece) ([quote] ++ n.text ++ [quote])
      (.branch kind none [markShape (String.singleton quote), .token .stringFragment none n.text,
        markShape (String.singleton quote)]) next := by
  have hshapes : plainShapes .stringFragment n.text = [.token .stringFragment none n.text] :=
    if_neg n.ne_nil
  have hmem : quote ∉ n.text := fun hmem => IconName.ne_of_mem hmem hquote rfl
  have hread : Reads (between kind quote piece) ([quote] ++ (n.text ++ [quote])) _ next :=
    reads_between hmem fun c rest hsuffix => hplain c (hsuffix.subset List.mem_cons_self) _
  rw [hshapes] at hread
  rw [List.append_assoc]
  exact hread

/-- A character of a name stands for itself in a string. -/
theorem stringPiece_iconChar {n : IconName} {c : Char} (hc : c ∈ n.text) (rest : List Char) :
    stringPiece (c :: rest) = some ([.plain c], rest) := by
  rw [stringPiece]
  · rw [if_neg]
    rintro (rfl | rfl | rfl) <;> exact IconName.ne_of_mem hc (by decide) rfl
  · exact fun h => IconName.ne_of_mem hc (by decide) h

/-- A character of a name stands for itself in a template. -/
theorem templatePiece_iconChar {n : IconName} {c : Char} (hc : c ∈ n.text) (rest : List Char) :
    templatePiece (c :: rest) = some ([.plain c], rest) := by
  rw [templatePiece]
  · exact if_neg (IconName.ne_of_mem hc (by decide))
  · exact fun h => IconName.ne_of_mem hc (by decide) h
  · exact fun _ h => absurd h (IconName.ne_of_mem hc (by decide))

/-! ## Expressions made of others -/

/-- A conditional is read as it is written, by a reader that reads what it is made of. -/
theorem reads_conditional {test : Identifier} {consequence alternative : Expression}
    (htest : (Expression.identifier test).ReadBy inner) (hconsequence : consequence.ReadBy inner)
    (halternative : alternative.ReadBy inner) :
    Reads (parenthesized inner) (Expression.conditional test consequence alternative).text
      (Expression.conditional test consequence alternative).shape next := by
  have htext : (Expression.conditional test consequence alternative).text =
      "(".toList ++ (test.text ++ ([' '] ++ ("?".toList ++ ([' '] ++ (consequence.text ++ ([' '] ++
        (":".toList ++ ([' '] ++ (alternative.text ++ ")".toList))))))))) := by
    simp [Expression.text]
  rw [htext]
  -- The test, up to the mark that tells a conditional from an operation.
  refine Reads.bind (reads_mark "(") (Reads.skip (reads_noBlanks ?_) ?_)
  · exact ((Expression.dark_text (.identifier test)).append _).append _
  refine Reads.bind (htest _ (.space _)) ?_
  refine Reads.bind (reads_space (dark_cons rfl)) ?_
  refine Reads.skip (reads_firstOf? rfl) ?_
  -- The first branch.
  refine Reads.bind (reads_mark "?") (Reads.bind (reads_space ?_) ?_)
  · exact (consequence.dark_text.append _).append _
  refine Reads.bind (hconsequence _ (.space _)) (Reads.bind (reads_space (dark_cons rfl)) ?_)
  -- The second branch.
  refine Reads.bind (reads_mark ":") (Reads.bind (reads_space ?_) ?_)
  · exact (alternative.dark_text.append _).append _
  refine Reads.bind (halternative _ (.parenthesis _)) ?_
  exact Reads.skip (reads_noBlanks (dark_cons rfl)) (Reads.finish (reads_mark ")") Reads.pure)

/-- A logical operation is read as it is written, by a reader that reads what it is made of. -/
theorem reads_logical {op : LogicalOperator} {left right : Expression} (hleft : left.ReadBy inner)
    (hright : right.ReadBy inner) (hcall : left.isOverrideCall = false) :
    Reads (parenthesized inner) (Expression.logical op left right).text
      (Expression.logical op left right).shape next := by
  have htext : (Expression.logical op left right).text =
      "(".toList ++ (left.text ++ ([' '] ++ (op.mark.toList ++ ([' '] ++ (right.text ++
        ")".toList))))) := by
    simp [Expression.text]
  rw [htext]
  refine Reads.bind (reads_mark "(") (Reads.skip (reads_noBlanks ?_) ?_)
  · exact (left.dark_text.append _).append _
  refine Reads.bind (hleft _ (.space _)) ?_
  show Reads (if Constant.isOverrideCall left.shape then _ else _) _ _ _
  rw [left.isOverrideCall_shape, hcall, if_neg Bool.false_ne_true]
  -- Which operator it is tells how the reader goes on, always in the same way.
  cases op
  all_goals
    refine Reads.bind (reads_space (dark_cons rfl)) (Reads.skip (reads_firstOf? rfl) ?_)
    refine Reads.bind (reads_mark _) (Reads.bind (reads_space ?_) ?_)
    · exact (right.dark_text.append _).append _
    refine Reads.bind (hright _ (.parenthesis _)) ?_
    exact Reads.skip (reads_noBlanks (dark_cons rfl)) (Reads.finish (reads_mark ")") Reads.pure)

/-- An argument is followed by the comma before the next one, or by the end of the list. -/
theorem closed_textOfMore (arguments : List Expression) (next : List Char) :
    Closed (Expression.textOfMore arguments ++ ')' :: next) ∧
      Dark (Expression.textOfMore arguments ++ ')' :: next) := by
  cases arguments with
  | nil => exact ⟨.parenthesis _, dark_cons rfl⟩
  | cons e rest =>
    simp only [Expression.textOfMore, List.append_assoc]
    exact ⟨.comma _, dark_cons rfl⟩

/-- The arguments after the first are read as they are written. -/
theorem readsAll_arguments : ∀ {arguments : List Expression}, (∀ e ∈ arguments, e.ReadBy inner) →
    ReadsAll (comesNext [')']) (argument inner) (')' :: next) (Expression.textOfMore arguments)
      (Expression.shapesOfMore arguments)
  | [], _ => .nil rfl
  | e :: rest, h => by
    have hmore := readsAll_arguments fun e he => h e (List.mem_cons_of_mem _ he)
    have hclosed := closed_textOfMore rest next
    have hone : Reads (argument inner) (",".toList ++ ([' '] ++ e.text))
        [markShape ",", spaceShape, e.shape] (Expression.textOfMore rest ++ ')' :: next) := by
      refine Reads.bind (reads_mark ",") (Reads.bind (reads_space (e.dark_text.append _)) ?_)
      exact Reads.finish (h e List.mem_cons_self _ hclosed.1)
        (Reads.skip (reads_noBlanks hclosed.2) Reads.pure)
    exact .cons (List.cons_ne_nil _ _) rfl hone hmore

/-- A call is read as it is written, by a reader that reads its arguments. -/
theorem reads_call {function : Identifier} {arguments : List Expression}
    (harguments : ∀ e ∈ arguments, e.ReadBy inner) :
    Reads (identifierOrCall inner) (Expression.call function arguments).text
      (Expression.call function arguments).shape next := by
  cases arguments with
  | nil =>
    have htext : (Expression.call function []).text =
        function.text ++ ("(".toList ++ ")".toList) := by
      simp [Expression.text]
    rw [htext]
    refine Reads.bind (reads_identifier function rfl) (Reads.skip (reads_startsWith rfl) ?_)
    have hlist : Reads (argumentList inner) ("(".toList ++ ")".toList)
        (.branch .arguments none [markShape "(", markShape ")"]) next := by
      refine Reads.bind (reads_mark "(") (Reads.skip (reads_noBlanks (dark_cons rfl)) ?_)
      refine Reads.skip (reads_startsWith rfl) (Reads.skip Reads.pure ?_)
      exact Reads.finish (reads_mark ")") Reads.pure
    exact Reads.finish hlist Reads.pure
  | cons first rest =>
    have htext : (Expression.call function (first :: rest)).text =
        function.text ++ ("(".toList ++ (first.text ++ (Expression.textOfMore rest ++
          ")".toList))) := by
      simp [Expression.text]
    rw [htext]
    refine Reads.bind (reads_identifier function rfl) (Reads.skip (reads_startsWith rfl) ?_)
    have hprefix :
        first.text <+: first.text ++ (Expression.textOfMore rest ++ ")".toList) ++ next :=
      (List.prefix_append _ _).trans (List.prefix_append _ _)
    have hmore : Reads (repeated (comesNext [')']) (argument inner)) (Expression.textOfMore rest)
        (Expression.shapesOfMore rest) (')' :: next) :=
      (readsAll_arguments fun e he => harguments e (List.mem_cons_of_mem _ he)).repeated
    have hfirst : Closed (Expression.textOfMore rest ++ ')' :: next) ∧
        Dark (Expression.textOfMore rest ++ ')' :: next) := closed_textOfMore rest next
    have hlist : Reads (argumentList inner) ("(".toList ++ (first.text ++
        (Expression.textOfMore rest ++ ")".toList)))
        (.branch .arguments none
          (markShape "(" :: first.shape :: Expression.shapesOfMore rest ++ [markShape ")"]))
        next := by
      refine Reads.bind (reads_mark "(") (Reads.skip (reads_noBlanks ?_) ?_)
      · exact (first.dark_text.append _).append _
      refine Reads.skip (reads_startsWith (first.not_parenthesis hprefix)) ?_
      refine Reads.bind (harguments first List.mem_cons_self _ ?_) ?_
      · rw [List.append_assoc]
        exact hfirst.1
      refine Reads.skip (reads_noBlanks ?_) (Reads.bind hmore (Reads.skip Reads.pure ?_))
      · rw [List.append_assoc]
        exact hfirst.2
      exact Reads.finish (reads_mark ")") Reads.pure
    exact Reads.finish hlist Reads.pure

end Reading

/-! ## All expressions -/

/-- An argument after the first is no longer than all of them. -/
theorem Expression.length_le_textOfMore {e : Expression} {arguments : List Expression}
    (he : e ∈ arguments) : e.text.length ≤ (textOfMore arguments).length := by
  induction arguments with
  | nil => exact absurd he List.not_mem_nil
  | cons first rest ih =>
    unfold textOfMore
    rw [List.length_append, List.length_append]
    rcases List.mem_cons.1 he with rfl | he
    · omega
    · have hrest := ih he
      omega

/-- An argument is shorter than the call. -/
theorem Expression.length_lt_call {e : Expression} {function : Identifier}
    {arguments : List Expression} (he : e ∈ arguments) :
    e.text.length < (call function arguments).text.length := by
  cases arguments with
  | nil => exact absurd he List.not_mem_nil
  | cons first rest =>
    have hparenthesis : (")".toList).length = 1 := rfl
    rw [show (call function (first :: rest)).text = _ by rw [text], List.length_append,
      List.length_append, List.length_append]
    rcases List.mem_cons.1 he with rfl | he
    · omega
    · have hrest := length_le_textOfMore he
      omega

/-- What starts with a word starts with none of the marks at which other expressions start. -/
theorem firstOf?_word {c : Char} (hc : isWordChar c = true) (rest : List Char) :
    (["\"", "'", "`", "(", "<"].find? fun text => text.toList.isPrefixOf (c :: rest)) = none :=
  find?_isPrefixOf_eq_none hc (by decide)

/-- A readable expression is read as it is written when it is no longer than the depth allows. -/
theorem reads_expression (depth : Nat) : ∀ e : Expression, e.isReadable = true →
    e.text.length ≤ depth → e.ReadBy (expression depth .value) := by
  induction depth with
  | zero =>
    intro e _ hdepth
    obtain ⟨c, rest, htext, -⟩ := e.exists_cons
    rw [htext] at hdepth
    exact absurd hdepth (Nat.not_succ_le_zero _)
  | succ depth ih =>
    intro e hreadable hdepth next hnext
    cases e with
    | name quote n =>
      cases quote
      · exact Reads.skip (reads_firstOf? rfl)
          (reads_quoted n rfl fun c hc rest => stringPiece_iconChar hc rest)
      · exact Reads.skip (reads_firstOf? rfl)
          (reads_quoted n rfl fun c hc rest => stringPiece_iconChar hc rest)
      · exact Reads.skip (reads_firstOf? rfl)
          (reads_quoted n rfl fun c hc rest => templatePiece_iconChar hc rest)
    | identifier id =>
      obtain ⟨c, rest, htext, hc⟩ := id.exists_cons_append next
      have hfirst := firstOf?_word hc rest
      rw [← htext] at hfirst
      refine Reads.skip (reads_firstOf? hfirst) ?_
      refine Reads.finish (reads_identifier id hnext.letter_eq_none) ?_
      exact Reads.skip (reads_startsWith hnext.not_arguments) Reads.pure
    | conditional test consequence alternative =>
      -- What stands in parentheses is shorter, so the depth that is left is enough for it.
      have hlengths : test.text.length ≤ depth ∧ consequence.text.length ≤ depth ∧
          alternative.text.length ≤ depth := by
        simp [Expression.text] at hdepth
        omega
      obtain ⟨hconsequence, halternative⟩ := Bool.and_eq_true_iff.1 hreadable
      have hread : Reads (parenthesized (expression depth .value)) _ _ next :=
        reads_conditional (ih (.identifier test) rfl hlengths.1)
          (ih _ hconsequence hlengths.2.1) (ih _ halternative hlengths.2.2)
      refine Reads.skip (a := some "(") (reads_firstOf? ?_) hread
      simp only [Expression.text, List.append_assoc]
      rfl
    | logical op left right =>
      have hlengths : left.text.length ≤ depth ∧ right.text.length ≤ depth := by
        simp [Expression.text] at hdepth
        omega
      obtain ⟨hcall, hoperands⟩ := Bool.and_eq_true_iff.1 hreadable
      obtain ⟨hleft, hright⟩ := Bool.and_eq_true_iff.1 hoperands
      have hread : Reads (parenthesized (expression depth .value))
          (Expression.logical op left right).text _ next :=
        reads_logical (ih _ hleft hlengths.1) (ih _ hright hlengths.2)
          (Bool.not_eq_eq_eq_not.1 hcall)
      refine Reads.skip (a := some "(") (reads_firstOf? ?_) hread
      simp only [Expression.text, List.append_assoc]
      rfl
    | call function arguments =>
      have hread : Reads (identifierOrCall (expression depth .value))
          (Expression.call function arguments).text
          (Expression.call function arguments).shape next := by
        refine reads_call fun e he => ih e (Expression.isReadable_of_mem hreadable e he) ?_
        have hlt : e.text.length < (Expression.call function arguments).text.length :=
          Expression.length_lt_call he
        omega
      -- The name of the function tells the reader that no mark begins the expression.
      have hstart : function.text <+: (Expression.call function arguments).text := by
        cases arguments with
        | nil => exact List.prefix_append _ _
        | cons first rest =>
          simp only [Expression.text, List.append_assoc]
          exact List.prefix_append _ _
      obtain ⟨more, hmore⟩ := hstart
      obtain ⟨c, rest, htext, hc⟩ := function.exists_cons_append (more ++ next)
      have hfirst := firstOf?_word hc rest
      rw [← htext, ← List.append_assoc, hmore] at hfirst
      exact Reads.skip (reads_firstOf? hfirst) hread

end IconSubset.Printing
