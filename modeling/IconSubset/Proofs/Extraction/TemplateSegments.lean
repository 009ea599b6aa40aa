import IconSubset.Proofs.Extraction.Evaluation
import IconSubset.Proofs.Tsx.Children

/-!
# The texts between the substitutions of a template

A template stands for one text between each two of its substitutions. Which text a part belongs to
is told by the substitutions before it (`getElem?_segments`), and no part is lost: put together, the
texts are what the parts stand for in a quoted string (`template_segments`).
-/

namespace IconSubset.Extraction

open Syntax

/-- Whether a part of a template is a substitution. -/
def isSubstitution (c : Node) : Bool := c.kind = .templateSubstitution

/-- What a stretch or an escape stands for; other parts stand for nothing. -/
def pieceText? (c : Node) : Option String :=
  match c.kind with
  | .stringFragment => some c.text
  | .escapeSequence => some (String.ofList (escapedText (afterBackslash c.text.toList)))
  | _ => none

/-! ## Segments -/

/-- There is one segment more than there are substitutions. -/
theorem length_segments (parts : List Node) :
    (segments parts).length = parts.countP isSubstitution + 1 := by
  induction parts with
  | nil => rfl
  | cons c rest ih =>
    obtain ⟨s, more, hsegments⟩ := exists_segments_eq_cons rest
    rw [hsegments] at ih
    by_cases hc : c.kind = .templateSubstitution
    · have hpart : isSubstitution c = true := decide_eq_true hc
      rw [segments, if_pos hc, hsegments, List.length_cons, ih, List.countP_cons_of_pos hpart]
    · have hpart : ¬isSubstitution c = true := fun h => hc (of_decide_eq_true h)
      rw [segments, if_neg hc, hsegments, List.countP_cons_of_neg hpart]
      exact ih

/-- Put together, the segments are what the parts stand for. -/
theorem flatten_segments (parts : List Node) :
    (segments parts).flatten = parts.flatMap templatePartText := by
  induction parts with
  | nil => rfl
  | cons c rest ih =>
    obtain ⟨s, more, hsegments⟩ := exists_segments_eq_cons rest
    rw [List.flatMap_cons, ← ih, segments, hsegments]
    split_ifs with hc
    · have hnone : templatePartText c = [] := by
        unfold templatePartText
        rw [hc]
      rw [hnone]
      rfl
    · simp

/-- The first segment is what the parts before the first substitution stand for. -/
theorem head?_segments {run after : List Node} (hrun : ∀ c ∈ run, isSubstitution c = false)
    (hafter : ∀ c ∈ after.head?, isSubstitution c = true) :
    (segments (run ++ after)).head? = some (run.flatMap templatePartText) := by
  induction run with
  | nil =>
    cases after with
    | nil => rfl
    | cons c after =>
      have hc : c.kind = .templateSubstitution := of_decide_eq_true (hafter c rfl)
      rw [List.nil_append, segments, if_pos hc]
      rfl
  | cons c run ih =>
    obtain ⟨hc, hrun⟩ := List.forall_mem_cons.1 hrun
    obtain ⟨s, more, hsegments⟩ := exists_segments_eq_cons (run ++ after)
    have hfirst := ih hrun
    rw [hsegments] at hfirst
    obtain rfl := Option.some.inj hfirst
    rw [List.cons_append, segments, if_neg (of_decide_eq_false hc), hsegments]
    rfl

/-- A substitution parts the segments before it from those behind it. -/
theorem segments_append_cons (before after : List Node) {c : Node} (hc : isSubstitution c = true) :
    segments (before ++ c :: after) = segments before ++ segments after := by
  induction before with
  | nil =>
    have hkind : c.kind = .templateSubstitution := of_decide_eq_true hc
    rw [List.nil_append, segments.eq_def (c :: after)]
    dsimp only
    rw [if_pos hkind]
    rfl
  | cons d before ih =>
    obtain ⟨s, more, hsegments⟩ := exists_segments_eq_cons before
    rw [List.cons_append, segments, segments, ih, hsegments]
    split_ifs <;> rfl

/-- A segment is what the parts between two neighbouring substitutions stand for, and its number is
that of the substitutions before it. -/
theorem getElem?_segments {before run after : List Node}
    (hbefore : ∀ c ∈ before.getLast?, isSubstitution c = true)
    (hrun : ∀ c ∈ run, isSubstitution c = false)
    (hafter : ∀ c ∈ after.head?, isSubstitution c = true) :
    (segments (before ++ (run ++ after)))[before.countP isSubstitution]? =
      some (run.flatMap templatePartText) := by
  have hhead := head?_segments hrun hafter
  rcases List.eq_nil_or_concat' before with rfl | ⟨front, c, rfl⟩
  · rw [List.nil_append, List.countP_nil, ← List.head?_eq_getElem?, hhead]
  · have hc : isSubstitution c = true := hbefore c (by rw [List.getLast?_concat]; rfl)
    have hcount : (front ++ [c]).countP isSubstitution = (segments front).length := by
      rw [length_segments, List.countP_append, List.countP_singleton, if_pos hc]
    rw [List.append_assoc, List.singleton_append, segments_append_cons front _ hc, hcount,
      List.getElem?_append_right le_rfl, Nat.sub_self, ← List.head?_eq_getElem?, hhead]

/-- A part of a template stands for its piece of text, if it has one. -/
theorem ofList_templatePartText (c : Node) :
    String.ofList (templatePartText c) = (pieceText? c).getD "" := by
  unfold templatePartText pieceText?
  cases c.kind with
  | stringFragment => exact String.ofList_toList
  | _ => rfl

/-- What the parts of a template stand for is their pieces of text put together. -/
theorem ofList_flatMap_templatePartText (run : List Node) :
    String.ofList (run.flatMap templatePartText) = String.join (run.filterMap pieceText?) := by
  induction run with
  | nil => rfl
  | cons c run ih =>
    rw [List.flatMap_cons, String.ofList_append, ih, ofList_templatePartText, List.filterMap_cons]
    cases pieceText? c with
    | none => exact String.empty_append
    | some text => exact String.join_cons.symm

/-- Texts put together have their characters in turn. -/
theorem join_map_ofList (texts : List (List Char)) :
    String.join (texts.map String.ofList) = String.ofList texts.flatten := by
  induction texts with
  | nil => rfl
  | cons text texts ih =>
    rw [List.map_cons, String.join_cons, ih, List.flatten_cons, String.ofList_append]

/-- Parts that are neither substitutions nor character references stand for the same in a template
and in a quoted string. -/
theorem flatMap_partText {parts : List Node} (h : ∀ c ∈ parts, c.kind ≠ .characterReference) :
    (parts.filter fun c => !isSubstitution c).flatMap partText =
      parts.flatMap templatePartText := by
  induction parts with
  | nil => rfl
  | cons c parts ih =>
    obtain ⟨hc, hparts⟩ := List.forall_mem_cons.1 h
    have hpart : (if isSubstitution c then [] else partText c) = templatePartText c := by
      unfold isSubstitution partText templatePartText
      cases hkind : c.kind with
      | characterReference => exact absurd hkind hc
      | _ => rfl
    rw [List.flatMap_cons, ← ih hparts, ← hpart, List.filter_cons]
    cases isSubstitution c with
    | true => rfl
    | false => rfl

/-! ## Templates and quoted strings -/

/-- The quoted string with these parts, where a node stands. -/
def quoted (n : Node) (parts : List Node) : Node :=
  .mk .string n.role n.start n.text n.missing parts

/-- A template with a substitution gives no literal. -/
theorem literals_template_of_mem {n c : Node} (hkind : n.kind = .templateString)
    (hc : c ∈ n.children) (hsubstitution : isSubstitution c = true) : literals n = [] := by
  have hmany : 2 ≤ (templateSegments n.children).length := by
    rw [templateSegments, List.length_map, length_segments]
    have := List.countP_pos_iff.2 ⟨c, hc, hsubstitution⟩
    omega
  obtain ⟨kind, role, start, text, missing, parts⟩ := n
  obtain rfl : kind = .templateString := hkind
  rw [literals]
  split
  · next only honly =>
    simp [Node.children, honly] at hmany
  · rfl

/-- A template of the grammar has one segment more than it has substitutions. Each segment puts the
stretches and escapes together that stand between two neighbouring substitutions, or before the
first or behind the last one, and all segments together are what a quoted string with the same parts
less the substitutions stands for. So a template gives a literal exactly when it has no
substitutions, and then the one of the quoted string. -/
theorem template_segments {n : Node} (h : Tsx.definition.Makes "template_string" n) :
    (templateSegments n.children).length = n.children.countP isSubstitution + 1 ∧
    (∀ before run after, n.children = before ++ (run ++ after) →
      (∀ c ∈ before.getLast?, isSubstitution c = true) → (∀ c ∈ run, isSubstitution c = false) →
      (∀ c ∈ after.head?, isSubstitution c = true) →
        (templateSegments n.children)[before.countP isSubstitution]? =
          some (String.join (run.filterMap pieceText?))) ∧
    String.join (templateSegments n.children) =
      stringText (n.children.filter fun c => !isSubstitution c) ∧
    literals n =
      if n.children.any isSubstitution then [] else literals (quoted n n.children) := by
  have hkind : n.kind = .templateString := h.kind_eq
  have hjoin : String.join (templateSegments n.children) =
      stringText (n.children.filter fun c => !isSubstitution c) := by
    have hreferences : ∀ c ∈ n.children, c.kind ≠ .characterReference :=
      fun c hc => Tsx.kind_ne_reference_of_mem_template h hc
    rw [stringText, flatMap_partText hreferences, ← flatten_segments, templateSegments,
      join_map_ofList]
  refine ⟨?_, ?_, hjoin, ?_⟩
  · rw [templateSegments, List.length_map, length_segments]
  · intro before run after hparts hbefore hrun hafter
    rw [templateSegments, hparts, List.getElem?_map, getElem?_segments hbefore hrun hafter,
      Option.map_some, ofList_flatMap_templatePartText]
  · split_ifs with hany
    · obtain ⟨c, hc, hsubstitution⟩ := List.any_eq_true.1 hany
      exact literals_template_of_mem hkind hc hsubstitution
    · have hfree : ∀ c ∈ n.children, isSubstitution c = false := by
        simpa using hany
      have hall : n.children.filter (fun c => !isSubstitution c) = n.children :=
        List.filter_eq_self.2 fun c hc => by rw [hfree c hc]; rfl
      have hquoted : literals (quoted n n.children) = [stringText n.children] := literals_string rfl
      rw [literals_template_free hkind fun c hc => of_decide_eq_false (hfree c hc), hjoin, hall,
        hquoted]

/-- The tree of a template with one substitution, between a stretch and an escape. -/
def numberedIcon : Node :=
  .mk .templateString none 0 "`home_$\x7bn\x7d\\x41`" false
    [ .mk (.token "`") none 0 "`" false [],
      .mk .stringFragment none 1 "home_" false [],
      .mk .templateSubstitution none 6 "$\x7bn\x7d" false
        [ .mk (.token "$\x7b") none 6 "$\x7b" false [],
          .mk (.other "identifier") none 8 "n" false [],
          .mk (.token "\x7d") none 9 "\x7d" false [] ],
      .mk .escapeSequence none 10 "\\x41" false [],
      .mk (.token "`") none 14 "`" false [] ]

/-- The grammar makes this template. -/
theorem makes_numberedIcon : Tsx.definition.Makes "template_string" numberedIcon where
  kind_eq := by decide +kernel
  gives := by
    have hkinds : (numberedIcon.children.map Node.kind).filter (· ∉ Tsx.definition.anywhere) =
        [.token "`"] ++ (([.stringFragment] ++ ([.templateSubstitution] ++ [.escapeSequence])) ++
          ([.token "`"] ++ [])) := by decide +kernel
    refine ⟨_, Tsx.lookup_template, ?_⟩
    rw [hkinds]
    refine .seqCons .literal (.seqCons (.choice (.head _) ?_) (.seqCons .literal .seqNil))
    refine .again (.choice (.head _) (.aliased .symbolAs)) (.again ?_ (.once ?_))
    · exact .choice (.tail _ (.tail _ (.head _))) (.symbol (by decide +kernel))
    · exact .choice (.tail _ (.head _)) (.symbol (by decide +kernel))

/-- Its second segment is the escape behind the substitution, and it gives no literal. -/
theorem template_segments_numberedIcon :
    Tsx.definition.Makes "template_string" numberedIcon ∧
      (templateSegments numberedIcon.children)[1]? = some "A" ∧ literals numberedIcon = [] := by
  obtain ⟨-, hsegment, -, hliterals⟩ := template_segments makes_numberedIcon
  refine ⟨makes_numberedIcon, ?_, ?_⟩
  · exact hsegment (numberedIcon.children.take 3) (numberedIcon.children.drop 3) [] rfl (by decide)
      (by decide) (by decide)
  · exact hliterals.trans (if_pos (by decide))

end IconSubset.Extraction
