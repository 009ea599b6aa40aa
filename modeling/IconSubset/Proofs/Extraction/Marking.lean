import IconSubset.Extraction.Marking
import IconSubset.Proofs.Extraction.Contribution
import IconSubset.Proofs.Extraction.Evaluation
import IconSubset.Proofs.Text.Trimming

/-!
# The search for the marker and the search for literals

Whether a class attribute marks its element is decided by one search, and which names an icon
property gives is found by another. They go the same way (`isMarking_agrees`): a value that gives a
name with the marker in it is marking, and a marking value gives such a name, unless the marker
stands in a template with substitutions, whose texts are no names.

Both searches are described by the texts of the expressions that they come to. `branches` are the
expressions that a search goes on with, `Followed` speaks of all that it comes to, and `ownTexts`
are the texts of one expression on its own. One step of each search is `mem_literals_iff_step` and
`isMarking_iff_step`; `mem_literals_iff` and `isMarking_iff` follow by induction on the size of the
expression.
-/

namespace IconSubset.Extraction

open Syntax

/-- The texts of an expression on its own: that of a string, and those between the substitutions of
a template. -/
def ownTexts (n : Node) : List String :=
  match n.kind with
  | .string => [stringText n.children]
  | .templateString => templateSegments n.children
  | _ => []

/-- The expressions inside an expression that a search goes on with. -/
def branches (n : Node) : List Node :=
  match n.kind with
  | .ternary => (n.child? .consequence).toList ++ (n.child? .alternative).toList
  | .binary =>
    if isLogical n.children then (n.child? .left).toList ++ (n.child? .right).toList else []
  | .call => argumentsOf n
  | .parenthesized => (inner? n).toList
  | _ => []

/-- A search that begins at an expression comes to another one. -/
inductive Followed (e : Node) : Node → Prop
  /-- It begins there. -/
  | self : Followed e e
  /-- It comes to what it comes to from where it goes on. -/
  | branch {n m : Node} (hm : m ∈ branches n) (h : Followed e m) : Followed e n

/-- The search in the value of an attribute comes to an expression. -/
def FollowedIn (e value : Node) : Prop := ∃ n, expression? value = some n ∧ Followed e n

/-- A marker that can be part of a trimmed name: it is not empty and has no blanks at its ends. -/
structure IsMarker (marker : String) : Prop where
  /-- It is not empty. -/
  ne_empty : marker ≠ ""
  /-- Its first character is not blank. -/
  head : ∀ c ∈ marker.toList.head?, Text.isBlank c = false
  /-- Its last character is not blank. -/
  last : ∀ c ∈ marker.toList.getLast?, Text.isBlank c = false

/-- What a search comes to is where it begins or is come to from where it goes on. -/
theorem followed_iff {e n : Node} : Followed e n ↔ e = n ∨ ∃ m ∈ branches n, Followed e m := by
  constructor
  · intro h
    cases h with
    | self => exact .inl rfl
    | branch hm h => exact .inr ⟨_, hm, h⟩
  · rintro (rfl | ⟨m, hm, h⟩)
    · exact .self
    · exact .branch hm h

/-- What holds of all expressions that a search comes to holds where it begins and of all that it
comes to from where it goes on. -/
theorem forall_followed_iff {p : Node → Prop} {n : Node} : (∀ e, Followed e n → p e) ↔
    p n ∧ ∀ m ∈ branches n, ∀ e, Followed e m → p e := by
  constructor
  · exact fun h => ⟨h n .self, fun m hm e he => h e (.branch hm he)⟩
  · rintro ⟨hself, hbranches⟩ e he
    rcases followed_iff.1 he with rfl | ⟨m, hm, he⟩
    · exact hself
    · exact hbranches m hm e he

/-! ## The expressions inside are smaller -/

/-- The first child that plays a part is a child. -/
theorem mem_children_of_child? {n m : Node} {role : Role} (h : n.child? role = some m) :
    m ∈ n.children := List.mem_of_find?_eq_some h

/-- The expression inside parentheses or braces is a child. -/
theorem mem_children_of_inner? {n m : Node} (h : inner? n = some m) : m ∈ n.children :=
  List.mem_of_find?_eq_some h

/-- An argument of a call is smaller than the call. -/
theorem sizeOf_lt_of_mem_argumentsOf {n m : Node} (h : m ∈ argumentsOf n) :
    sizeOf m < sizeOf n := by
  unfold argumentsOf at h
  split at h
  · next list hlist =>
    split_ifs at h
    · have hm : sizeOf m < sizeOf list := Node.sizeOf_lt_of_mem (List.mem_of_mem_filter h)
      have hn : sizeOf list < sizeOf n := Node.sizeOf_lt_of_mem (mem_children_of_child? hlist)
      omega
    · exact absurd h List.not_mem_nil
  · exact absurd h List.not_mem_nil

/-- An expression that a search goes on with is smaller. -/
theorem sizeOf_lt_of_mem_branches {n m : Node} (h : m ∈ branches n) : sizeOf m < sizeOf n := by
  have hpart : ∀ {role : Role}, m ∈ (n.child? role).toList → sizeOf m < sizeOf n := fun hm =>
    Node.sizeOf_lt_of_mem (mem_children_of_child? (Option.mem_toList.1 hm))
  unfold branches at h
  split at h
  · rcases List.mem_append.1 h with h | h
    · exact hpart h
    · exact hpart h
  · split_ifs at h
    · rcases List.mem_append.1 h with h | h
      · exact hpart h
      · exact hpart h
    · exact absurd h List.not_mem_nil
  · exact sizeOf_lt_of_mem_argumentsOf h
  · exact Node.sizeOf_lt_of_mem (mem_children_of_inner? (Option.mem_toList.1 h))
  · exact absurd h List.not_mem_nil

/-! ## The search for the marker by the parts of a node -/

section Parts

variable (marker : String)

/-- The first part that is no trivia decides about what stands in parentheses or braces. -/
theorem isMarkingInside_eq (parts : List Node) :
    isMarkingInside marker parts =
      (parts.find? fun c => !isTrivia c).elim false (isMarking marker) := by
  induction parts with
  | nil => rw [isMarkingInside]; rfl
  | cons n rest ih =>
    rw [isMarkingInside, List.find?_cons]
    cases isTrivia n with
    | true => exact ih
    | false => rfl

/-- The first part in a role decides about it. -/
theorem isMarkingPart_eq (role : Role) (parts : List Node) :
    isMarkingPart marker role parts =
      (parts.find? (·.role == some role)).elim false (isMarking marker) := by
  induction parts with
  | nil => rw [isMarkingPart]; rfl
  | cons n rest ih =>
    rw [isMarkingPart, List.find?_cons]
    cases n.role == some role with
    | true => rfl
    | false => exact ih

/-- Some part of an argument list that is no trivia has the marker. -/
theorem isMarkingOneOf_eq (parts : List Node) :
    isMarkingOneOf marker parts =
      (parts.filter fun c => !isTrivia c).any (isMarking marker) := by
  induction parts with
  | nil => rw [isMarkingOneOf]; rfl
  | cons n rest ih =>
    rw [isMarkingOneOf, List.filter_cons, ih]
    cases isTrivia n with
    | true => rfl
    | false => rfl

/-- The argument list decides about a call. -/
theorem isMarkingArgument_eq (parts : List Node) :
    isMarkingArgument marker parts = (parts.find? (·.role == some .arguments)).elim false
      fun list => decide (list.kind = .arguments) && isMarkingOneOf marker list.children := by
  induction parts with
  | nil => rw [isMarkingArgument]; rfl
  | cons n rest ih =>
    obtain ⟨kind, role, start, text, missing, children⟩ := n
    rw [isMarkingArgument, List.find?_cons]
    dsimp only [Node.role]
    cases role == some .arguments with
    | true => rfl
    | false => exact ih

/-- A call is marking when one of its arguments is. -/
theorem isMarking_call {n : Node} (h : n.kind = .call) :
    isMarking marker n = (argumentsOf n).any (isMarking marker) := by
  obtain ⟨kind, role, start, text, missing, parts⟩ := n
  obtain rfl : kind = .call := h
  rw [isMarking, isMarkingArgument_eq]
  unfold argumentsOf Node.child? Node.children
  cases parts.find? (·.role == some .arguments) with
  | none => rfl
  | some list =>
    dsimp only [Option.elim]
    rw [isMarkingOneOf_eq]
    split_ifs with hkind
    · rw [decide_eq_true hkind, Bool.true_and]
    · rw [decide_eq_false hkind, Bool.false_and]; rfl

end Parts

/-! ## One step of each search -/

/-- The members that a part which may be missing gives. -/
theorem mem_elim_nil {o : Option Node} {f : Node → List String} {text : String} :
    text ∈ o.elim [] f ↔ ∃ m ∈ o.toList, text ∈ f m := by
  cases o with
  | none => simp
  | some m => simp

/-- What a part which may be missing decides. -/
theorem elim_false_iff {o : Option Node} {f : Node → Bool} :
    o.elim false f = true ↔ ∃ m ∈ o.toList, f m = true := by
  cases o with
  | none => simp
  | some m => simp

/-- An expression gives its own text, when it has exactly one, and what those expressions give that
the search goes on with. -/
theorem mem_literals_iff_step {n : Node} {text : String} : text ∈ literals n ↔
    ownTexts n = [text] ∨ ∃ m ∈ branches n, text ∈ literals m := by
  obtain ⟨kind, role, start, source, missing, parts⟩ := n
  cases kind with
  | string =>
    rw [literals_string rfl]
    simp [ownTexts, branches, Node.kind, eq_comm]
  | templateString =>
    simp only [literals, ownTexts, branches, Node.kind, Node.children]
    split
    · next only honly => simp [honly, eq_comm]
    · next hmany => simpa using hmany text
  | ternary =>
    rw [literals_ternary rfl, List.mem_append, mem_elim_nil, mem_elim_nil]
    simp [ownTexts, branches, Node.kind, or_and_right, exists_or]
  | binary =>
    by_cases hlogical : isLogical parts = true
    · have hstep := @literals_logical (.mk .binary role start source missing parts) rfl hlogical
      rw [hstep, List.mem_append, mem_elim_nil, mem_elim_nil]
      simp [ownTexts, branches, Node.kind, Node.children, hlogical, or_and_right, exists_or]
    · simp [literals, ownTexts, branches, Node.kind, Node.children, hlogical]
  | call =>
    rw [literals_call rfl, List.mem_flatMap]
    simp [ownTexts, branches, Node.kind]
  | parenthesized =>
    rw [literals_parenthesized rfl, mem_elim_nil]
    simp [ownTexts, branches, Node.kind]
  | _ => simp [literals, ownTexts, branches, Node.kind]

/-- An expression other than one in braces is marking when a text of its own has the marker in it or
an expression is marking that the search goes on with. -/
theorem isMarking_iff_step {marker : String} {n : Node} (hbraces : n.kind ≠ .jsxExpression) :
    isMarking marker n = true ↔ (∃ text ∈ ownTexts n, Text.contains text marker = true) ∨
      ∃ m ∈ branches n, isMarking marker m = true := by
  obtain ⟨kind, role, start, source, missing, parts⟩ := n
  cases kind with
  | string => simp [isMarking, ownTexts, branches, Node.kind, Node.children]
  | templateString => simp [isMarking, ownTexts, branches, Node.kind, Node.children]
  | jsxExpression => exact absurd rfl hbraces
  | ternary =>
    rw [isMarking, isMarkingPart_eq, isMarkingPart_eq, Bool.or_eq_true, elim_false_iff,
      elim_false_iff]
    simp [ownTexts, branches, Node.kind, Node.child?, Node.children, or_and_right, exists_or]
  | binary =>
    rw [isMarking, isMarkingPart_eq, isMarkingPart_eq, Bool.and_eq_true, Bool.or_eq_true,
      elim_false_iff, elim_false_iff]
    by_cases hlogical : isLogical parts = true
    · simp [ownTexts, branches, Node.kind, Node.child?, Node.children, hlogical, or_and_right,
        exists_or]
    · simp [ownTexts, branches, Node.kind, Node.children, hlogical]
  | call =>
    rw [isMarking_call marker rfl, List.any_eq_true]
    simp [ownTexts, branches, Node.kind]
  | parenthesized =>
    rw [isMarking, isMarkingInside_eq, elim_false_iff]
    simp [ownTexts, branches, Node.kind, inner?, Node.children]
  | _ => simp [isMarking, ownTexts, branches, Node.kind]

/-! ## The whole search -/

/-- An expression gives the texts of those expressions that the search comes to and that have
exactly one text. -/
theorem mem_literals_iff {text : String} (n : Node) :
    text ∈ literals n ↔ ∃ e, Followed e n ∧ ownTexts e = [text] := by
  rw [mem_literals_iff_step]
  constructor
  · rintro (h | ⟨m, hm, h⟩)
    · exact ⟨n, .self, h⟩
    · obtain ⟨e, he, h⟩ := (mem_literals_iff m).1 h
      exact ⟨e, .branch hm he, h⟩
  · rintro ⟨e, he, h⟩
    rcases followed_iff.1 he with rfl | ⟨m, hm, he⟩
    · exact .inl h
    · exact .inr ⟨m, hm, (mem_literals_iff m).2 ⟨e, he, h⟩⟩
  termination_by sizeOf n
  decreasing_by all_goals exact sizeOf_lt_of_mem_branches hm

/-- When the search comes to no expression in braces, an expression is marking when the search comes
to a text with the marker in it. -/
theorem isMarking_iff {marker : String} (n : Node)
    (hbraces : ∀ e, Followed e n → e.kind ≠ .jsxExpression) : isMarking marker n = true ↔
      ∃ e, Followed e n ∧ ∃ text ∈ ownTexts e, Text.contains text marker = true := by
  rw [isMarking_iff_step (hbraces n .self)]
  constructor
  · rintro (h | ⟨m, hm, h⟩)
    · exact ⟨n, .self, h⟩
    · obtain ⟨e, he, h⟩ := (isMarking_iff m fun e he => hbraces e (.branch hm he)).1 h
      exact ⟨e, .branch hm he, h⟩
  · rintro ⟨e, he, h⟩
    rcases followed_iff.1 he with rfl | ⟨m, hm, he⟩
    · exact .inl h
    · exact .inr ⟨m, hm, (isMarking_iff m fun e he => hbraces e (.branch hm he)).2 ⟨e, he, h⟩⟩
  termination_by sizeOf n
  decreasing_by all_goals exact sizeOf_lt_of_mem_branches hm

/-- The value of an attribute is marking when its expression is. -/
theorem isMarking_value_iff {marker : String} {value : Node} : isMarking marker value = true ↔
    ∃ n, expression? value = some n ∧ isMarking marker n = true := by
  unfold expression?
  obtain ⟨kind, role, start, text, missing, parts⟩ := value
  by_cases hkind : kind = .jsxExpression
  · subst hkind
    rw [isMarking, isMarkingInside_eq, elim_false_iff, if_pos (by rfl)]
    simp [inner?, Node.children]
  · rw [if_neg (show ¬(Node.mk kind role start text missing parts).kind = _ from hkind)]
    simp

/-- A template without substitutions has exactly one text. -/
theorem exists_ownTexts_eq_singleton {e : Node} {text : String} (htext : text ∈ ownTexts e)
    (hfree : e.kind = .templateString → ∀ c ∈ e.children, c.kind ≠ .templateSubstitution) :
    ownTexts e = [text] := by
  unfold ownTexts at htext ⊢
  split at htext
  · rw [List.mem_singleton.1 htext]
  · next hkind =>
    have hsegments := segments_eq_singleton_iff.2 ⟨hfree hkind, rfl⟩
    rw [templateSegments, hsegments, List.map_singleton, List.mem_singleton] at htext
    rw [templateSegments, hsegments, List.map_singleton, htext]
  · exact absurd htext List.not_mem_nil

/-- The names that an icon property with a value puts into a set. -/
def propertyNames (value : Node) : IconSet := .ofList (literalsOfValue value)

/-- The search for the marker and the search for names agree on a value in which braces stand only
around the whole: the value is marking when a name that it gives has the marker in it, and when it
is marking it gives such a name, provided that no template has substitutions to which the search
comes. -/
theorem isMarking_agrees (value : Node) (marker : String) (hmarker : IsMarker marker)
    (hbraces : ∀ e, FollowedIn e value → e.kind ≠ .jsxExpression) :
    ((∃ name ∈ propertyNames value, marker.toList <:+: name.toList) →
      isMarking marker value = true) ∧
    (isMarking marker value = true →
      (∀ e, FollowedIn e value → e.kind = .templateString →
        ∀ c ∈ e.children, c.kind ≠ .templateSubstitution) →
      ∃ name ∈ propertyNames value, marker.toList <:+: name.toList) := by
  have hbraces' : ∀ {n : Node}, expression? value = some n →
      ∀ e, Followed e n → e.kind ≠ .jsxExpression := fun hn e he => hbraces e ⟨_, hn, he⟩
  constructor
  · rintro ⟨name, hname, hinfix⟩
    obtain ⟨⟨text, htext, rfl⟩, -⟩ := IconSet.mem_ofList.1 hname
    obtain ⟨n, hn, htext⟩ := mem_literalsOfValue.1 htext
    obtain ⟨e, he, hown⟩ := (mem_literals_iff n).1 htext
    -- What the trim of a text has in it, the text has in it.
    have hcontains : Text.contains text marker = true := by
      rw [Text.contains_iff]
      exact (Text.infix_trim_iff hmarker.ne_empty hmarker.head hmarker.last).1 hinfix
    refine isMarking_value_iff.2 ⟨n, hn, (isMarking_iff n (hbraces' hn)).2 ⟨e, he, text, ?_,
      hcontains⟩⟩
    rw [hown]
    exact List.mem_singleton_self text
  · intro hmarking hfree
    obtain ⟨n, hn, hmarking⟩ := isMarking_value_iff.1 hmarking
    obtain ⟨e, he, text, htext, hcontains⟩ := (isMarking_iff n (hbraces' hn)).1 hmarking
    have hown : ownTexts e = [text] :=
      exists_ownTexts_eq_singleton htext (hfree e ⟨n, hn, he⟩)
    have hinfix : marker.toList <:+: (Text.trim text).toList :=
      (Text.infix_trim_iff hmarker.ne_empty hmarker.head hmarker.last).2
        (Text.contains_iff.1 hcontains)
    -- The trim has the marker in it, so it is not blank.
    have hblank : Text.trim text ≠ "" := by
      intro hempty
      rw [hempty] at hinfix
      exact hmarker.ne_empty (String.toList_eq_nil_iff.1 (List.infix_nil.1 hinfix))
    refine ⟨Text.trim text, IconSet.mem_ofList.2 ⟨⟨text, ?_, rfl⟩, hblank⟩, hinfix⟩
    exact mem_literalsOfValue.2 ⟨n, hn, (mem_literals_iff n).2 ⟨e, he, hown⟩⟩

/-- The tree of ``{open ? cx('btn', ' material-symbols-rounded ') : `icon`}``. -/
def chosenClass : Node :=
  .mk .jsxExpression none 0 "\x7bopen ? cx('btn', ' material-symbols-rounded ') : `icon`\x7d"
    false
    [ .mk (.token "\x7b") none 0 "\x7b" false [],
      .mk .ternary none 1 "open ? cx('btn', ' material-symbols-rounded ') : `icon`" false
        [ .mk (.other "identifier") (some .condition) 1 "open" false [],
          .mk (.token "?") none 6 "?" false [],
          .mk .call (some .consequence) 8 "cx('btn', ' material-symbols-rounded ')" false
            [ .mk (.other "identifier") none 8 "cx" false [],
              .mk .arguments (some .arguments) 10 "('btn', ' material-symbols-rounded ')" false
                [ .mk (.token "(") none 10 "(" false [],
                  .mk .string none 11 "'btn'" false
                    [.mk .stringFragment none 12 "btn" false []],
                  .mk (.token ",") none 16 "," false [],
                  .mk .string none 18 "' material-symbols-rounded '" false
                    [.mk .stringFragment none 19 " material-symbols-rounded " false []],
                  .mk (.token ")") none 46 ")" false [] ] ],
          .mk (.token ":") none 48 ":" false [],
          .mk .templateString (some .alternative) 50 "`icon`" false
            [.mk .stringFragment none 51 "icon" false []] ],
      .mk (.token "\x7d") none 56 "\x7d" false [] ]

/-- The searches agree on it: it gives a name with the marker in it, and it is marking. -/
theorem isMarking_chosenClass :
    let marker := "material-symbols-rounded"
    IsMarker marker ∧ (∀ e, FollowedIn e chosenClass → e.kind ≠ .jsxExpression) ∧
      (∀ e, FollowedIn e chosenClass → e.kind = .templateString →
        ∀ c ∈ e.children, c.kind ≠ .templateSubstitution) ∧
      isMarking marker chosenClass = true ∧
      ∃ name ∈ propertyNames chosenClass, marker.toList <:+: name.toList := by
  intro marker
  have hmarker : IsMarker marker := by
    have hhead : marker.toList.head? = some 'm' := by decide
    have hlast : marker.toList.getLast? = some 'd' := by decide
    refine ⟨by decide, fun c hc => ?_, fun c hc => ?_⟩
    · obtain rfl := Option.some.inj (hhead.symm.trans (Option.mem_def.mp hc))
      decide
    · obtain rfl := Option.some.inj (hlast.symm.trans (Option.mem_def.mp hc))
      decide
  -- The search comes to the conditional, its branches and the arguments.
  have hfollowed : ∀ e, FollowedIn e chosenClass → e.kind ≠ .jsxExpression ∧
      (e.kind = .templateString → ∀ c ∈ e.children, c.kind ≠ .templateSubstitution) := by
    rintro e ⟨n, hn, he⟩
    obtain rfl := Option.some.inj hn
    revert e
    refine forall_followed_iff.2 ⟨by decide, List.forall_mem_cons.2 ⟨?_, ?_⟩⟩
    · refine forall_followed_iff.2 ⟨by decide, List.forall_mem_cons.2 ⟨?_, ?_⟩⟩
      · exact forall_followed_iff.2 ⟨by decide, fun m hm => absurd hm List.not_mem_nil⟩
      · refine List.forall_mem_cons.2 ⟨?_, fun m hm => absurd hm List.not_mem_nil⟩
        exact forall_followed_iff.2 ⟨by decide, fun m hm => absurd hm List.not_mem_nil⟩
    · refine List.forall_mem_cons.2 ⟨?_, fun m hm => absurd hm List.not_mem_nil⟩
      exact forall_followed_iff.2 ⟨by decide, fun m hm => absurd hm List.not_mem_nil⟩
  have hbraces := fun e he => (hfollowed e he).1
  have hfree := fun e he => (hfollowed e he).2
  have hagrees := isMarking_agrees chosenClass marker hmarker hbraces
  have hname : marker ∈ propertyNames chosenClass :=
    IconSet.mem_ofList.2 ⟨⟨" material-symbols-rounded ", by decide, by decide⟩, by decide⟩
  have hmarking : isMarking marker chosenClass = true :=
    hagrees.1 ⟨marker, hname, List.infix_rfl⟩
  exact ⟨hmarker, hbraces, hfree, hmarking, hagrees.2 hmarking hfree⟩

end IconSubset.Extraction
