import IconSubset.Proofs.Extraction.Padding

/-!
# Elements with comments and parentheses in them

Comments and parentheses that are put into a tree change nothing of what a scan finds in it
(`scanElements_padded`). The attributes of a tag keep their names, and their values only have more
in them (`PaddedAttribute`); the children of an element stay in their places. So every node gives
the same texts as an element (`Padded.mem_elementTexts`), a comment gives none, and an expression in
parentheses gives those of the expression.
-/

namespace IconSubset.Extraction

open Syntax

/-- Attributes correspond to each other: they have one name, and the value of one is that of the
other with more in it. -/
structure PaddedAttribute (a a' : Attribute) : Prop where
  /-- The names are the same. -/
  name_eq : a'.name = a.name
  /-- There may be more in the value. -/
  value_rel : Option.Rel Padded a.value? a'.value?

namespace Padded

variable {n n' : Node}

/-- An attribute has the same name and its value with more in it. -/
theorem ofParts?_rel (h : Padded n n') (hkind : n.kind = .jsxAttribute) :
    Option.Rel PaddedAttribute (Attribute.ofParts? n.children)
      (Attribute.ofParts? n'.children) := by
  have hname := h.attributeName?_eq hkind
  have hparts := h.parts.forall₂_padded
    (p := fun c => decide (c.kind ≠ .token "=" ∧ c.kind ≠ .comment))
    (fun _ c hc => by simp [hc.kind_eq]) (fun c c' hc => by rw [hc.kind_eq])
    (fun c => by simp [takesParentheses, hkind])
  unfold attributeName? at hname
  unfold Attribute.ofParts? at hname ⊢
  generalize n.children.filter _ = cs at hparts hname ⊢
  generalize n'.children.filter _ = cs' at hparts hname ⊢
  cases hparts with
  | nil => exact .none
  | cons hc hrest =>
    cases hrest with
    | nil => exact .some ⟨Option.some.inj hname, .none⟩
    | cons hvalue _ => exact .some ⟨Option.some.inj hname, .some hvalue⟩

/-- The attributes of a tag correspond to each other. -/
theorem attributes_rel (h : Padded n n') :
    List.Forall₂ PaddedAttribute (attributes n) (attributes n') := by
  have hfilter : List.Forall₂ (fun c c' => c.kind = .jsxAttribute ∧ Padded c c')
      (n.children.filter fun c => decide (c.kind = .jsxAttribute))
      (n'.children.filter fun c => decide (c.kind = .jsxAttribute)) := by
    refine h.parts.forall₂_filter ?_ ?_ ?_
    · intro _ c hc
      simp [hc.kind_eq]
    · exact fun c c' hc => ⟨by rw [hc.kind_eq], fun hkind => ⟨of_decide_eq_true hkind, hc⟩⟩
    · -- An attribute is no expression, so none is in parentheses.
      intro c outer c' hplace houter hc
      have hkind : c.kind ≠ .jsxAttribute := by
        intro hkind
        have hexpression := takesParentheses_canBeExpression hplace
        simp [canBeExpression, hkind] at hexpression
      simp [hkind, hc.kind_eq, houter.kind_eq]
  have hattributes : ∀ m : Node, attributes m =
      (m.children.filter fun c => decide (c.kind = .jsxAttribute)).filterMap
        fun c => Attribute.ofParts? c.children := by
    intro m
    rw [List.filterMap_filter]
    simp [attributes]
  rw [hattributes, hattributes]
  refine List.rel_filterMap (fun c c' hc => ?_) hfilter
  exact hc.2.ofParts?_rel hc.1

end Padded

/-- The values that are found for a name correspond to each other. -/
theorem attributeValue?_rel {attrs attrs' : List Attribute}
    (h : List.Forall₂ PaddedAttribute attrs attrs') (name : String) :
    Option.Rel Padded (attributeValue? attrs name) (attributeValue? attrs' name) := by
  unfold attributeValue?
  induction h with
  | nil => exact .none
  | cons ha _ ih =>
    rw [List.find?_cons, List.find?_cons, ha.name_eq]
    split
    · exact ha.value_rel
    · exact ih

/-- Icon properties keep the texts that they give. -/
theorem mem_propertyTexts_padded {properties : List String} {attrs attrs' : List Attribute}
    (h : List.Forall₂ PaddedAttribute attrs attrs') {text : String} :
    text ∈ propertyTexts properties attrs' ↔ text ∈ propertyTexts properties attrs := by
  rw [mem_propertyTexts_iff, mem_propertyTexts_iff]
  refine exists_congr fun name => and_congr_right fun _ => ?_
  have hvalue := attributeValue?_rel h name
  generalize attributeValue? attrs name = o at hvalue ⊢
  generalize attributeValue? attrs' name = o' at hvalue ⊢
  cases hvalue with
  | none => simp
  | some hvalue => simpa using hvalue.mem_literalsOfValue

/-- A tag stays marked, and none becomes so. -/
theorem isMarked_padded {marker : String} {attrs attrs' : List Attribute}
    (h : List.Forall₂ PaddedAttribute attrs attrs') :
    isMarked marker attrs' = isMarked marker attrs := by
  have hvalue := attributeValue?_rel h classAttribute
  unfold isMarked
  generalize attributeValue? attrs classAttribute = o at hvalue ⊢
  generalize attributeValue? attrs' classAttribute = o' at hvalue ⊢
  cases hvalue with
  | none => rfl
  | some hvalue => exact Bool.eq_iff_iff.2 hvalue.isMarking_iff

/-- The children of an element keep their texts. -/
theorem mem_childTexts_padded {cs cs' : List Node} (h : List.Forall₂ Padded cs cs')
    {text : String} (run : List Char) :
    text ∈ childTexts run cs' ↔ text ∈ childTexts run cs := by
  induction h generalizing run with
  | nil => rfl
  | @cons c c' cs cs' hc _ ih =>
    unfold childTexts
    rw [hc.kind_eq]
    cases hkind : c.kind with
    | jsxText =>
      dsimp only
      rw [hc.text_eq (by simp [isVerbatim, hkind]), ih]
    | characterReference =>
      dsimp only
      rw [hc.text_eq (by simp [isVerbatim, hkind]), ih]
    | jsxExpression =>
      dsimp only
      rw [List.mem_append, List.mem_append, List.mem_cons, List.mem_cons, ih,
        hc.mem_literalsOfInner]
    | _ =>
      dsimp only
      rw [List.mem_cons, List.mem_cons, ih]

/-- A tag keeps the texts that are found for it. -/
theorem mem_tagTexts_padded {marker : String} {properties : List String} {tag tag' : Node}
    {children children' : Option (List Node)} {text : String} (htag : Padded tag tag')
    (hchildren : Option.Rel (List.Forall₂ Padded) children children') :
    text ∈ tagTexts marker properties tag' children' ↔
      text ∈ tagTexts marker properties tag children := by
  have hattributes := htag.attributes_rel
  unfold tagTexts
  dsimp only
  rw [List.mem_append, List.mem_append, mem_propertyTexts_padded hattributes,
    isMarked_padded hattributes]
  refine or_congr_left ?_
  cases hchildren with
  | none => rfl
  | some h =>
    dsimp only
    split_ifs
    · exact mem_childTexts_padded h []
    · rfl

namespace Padded

variable {marker : String} {properties : List String} {text : String}

/-- A node keeps the texts that it gives as an element. -/
theorem mem_elementTexts {n n' : Node} (h : Padded n n') :
    text ∈ elementTexts marker properties n' ↔ text ∈ elementTexts marker properties n := by
  unfold elementTexts
  rw [h.kind_eq]
  cases hkind : n.kind with
  | jsxElement =>
    have hparentheses : ∀ c, takesParentheses n c = false := fun c => by
      simp [takesParentheses, hkind]
    have htag := h.child?_padded (by rw [hkind]; rfl) hparentheses .openTag
    have hchildren := h.parts.forall₂ (by rw [hkind]; rfl) hparentheses
    dsimp only
    generalize n.child? .openTag = o at htag ⊢
    generalize n'.child? .openTag = o' at htag ⊢
    cases htag with
    | none => rfl
    | some htag => exact mem_tagTexts_padded htag (.some hchildren)
  | jsxSelfClosing => exact mem_tagTexts_padded h .none
  | _ => rfl

end Padded

/-- Comments give no texts. -/
theorem treeTexts_comment {marker : String} {properties : List String} {n : Node}
    (h : IsComment n) : treeTexts marker properties n = [] := by
  obtain ⟨kind, role, start, text, missing, children⟩ := n
  obtain rfl : kind = .comment := h.kind_eq
  obtain rfl : children = [] := h.children_eq
  rfl

/-- Punctuation marks give no texts. -/
theorem treeTexts_punctuation {marker : String} {properties : List String} {mark : String}
    {n : Node} (h : IsPunctuation mark n) : treeTexts marker properties n = [] := by
  obtain ⟨kind, role, start, text, missing, children⟩ := n
  obtain rfl : kind = .token mark := h.kind_eq
  obtain rfl : children = [] := h.children_eq
  rfl

/-- The texts of a tree depend on its kind and its parts. -/
theorem treeTexts_congr {marker : String} {properties : List String} {n m : Node}
    (hkind : n.kind = m.kind) (hchildren : n.children = m.children) :
    treeTexts marker properties n = treeTexts marker properties m := by
  obtain ⟨kind, role, start, text, missing, parts⟩ := n
  obtain ⟨kind', role', start', text', missing', parts'⟩ := m
  obtain rfl : kind = kind' := hkind
  obtain rfl : parts = parts' := hchildren
  rfl

/-- An expression in parentheses gives the texts of the expression. -/
theorem Parenthesizes.treeTexts_eq {marker : String} {properties : List String}
    {outer inner : Node} (h : Parenthesizes outer inner) :
    treeTexts marker properties outer = treeTexts marker properties inner := by
  obtain ⟨hkind, -, opening, n, closing, hparts, hopening, hclosing, hn, -, hchildren⟩ := h
  obtain ⟨kind, role, start, text, missing, parts⟩ := outer
  obtain rfl : kind = .parenthesized := hkind
  obtain rfl : parts = [opening, n, closing] := hparts
  simp [treeTexts, forestTexts, elementTexts, Node.kind, treeTexts_punctuation hopening,
    treeTexts_punctuation hclosing, treeTexts_congr hn hchildren]

/-- The parts of a node keep the texts of the elements within them, when each part keeps those. -/
theorem mem_forestTexts_padded {marker : String} {properties : List String} {text : String}
    {n : Node} : ∀ {cs cs' : List Node}, PaddedParts n cs cs' →
      (∀ c c', c' ∈ cs' → Padded c c' →
        (text ∈ treeTexts marker properties c' ↔ text ∈ treeTexts marker properties c)) →
      (text ∈ forestTexts marker properties cs' ↔ text ∈ forestTexts marker properties cs)
  | _, _, .nil, _ => Iff.rfl
  | _, _, .part h hrest, hkeep => by
    have ih := mem_forestTexts_padded hrest fun c c' hc' => hkeep c c' (List.mem_cons_of_mem _ hc')
    rw [forestTexts, forestTexts, List.mem_append, List.mem_append, ih,
      hkeep _ _ List.mem_cons_self h]
  | _, _, .comment _ hcomment hrest, hkeep => by
    have ih := mem_forestTexts_padded hrest fun c c' hc' => hkeep c c' (List.mem_cons_of_mem _ hc')
    rw [forestTexts, treeTexts_comment hcomment, List.nil_append, ih]
  | _, _, .parentheses _ houter h hrest, hkeep => by
    have ih := mem_forestTexts_padded hrest fun c c' hc' => hkeep c c' (List.mem_cons_of_mem _ hc')
    rw [forestTexts, forestTexts, List.mem_append, List.mem_append, ih,
      hkeep _ _ List.mem_cons_self h, houter.treeTexts_eq]

/-- A tree keeps the texts of the elements within it. -/
theorem Padded.mem_treeTexts {marker : String} {properties : List String} {text : String}
    {n n' : Node} (h : Padded n n') :
    text ∈ treeTexts marker properties n' ↔ text ∈ treeTexts marker properties n := by
  have htree : ∀ m : Node, treeTexts marker properties m =
      elementTexts marker properties m ++ forestTexts marker properties m.children := by
    rintro ⟨kind, role, start, text, missing, children⟩
    rfl
  rw [htree, htree, List.mem_append, List.mem_append, h.mem_elementTexts,
    mem_forestTexts_padded h.parts fun c c' hc' hc => hc.mem_treeTexts]
  termination_by sizeOf n'
  decreasing_by exact Node.sizeOf_lt_of_mem hc'

/-- Comments and parentheses in a tree change nothing of what a scan of the tree puts into a set. -/
theorem scanElements_padded {tree tree' : Node} (h : Padded tree tree') (marker : String)
    (properties : List String) (seed : IconSet) :
    scanElements tree' marker properties seed = scanElements tree marker properties seed := by
  refine IconSet.ext_mem fun name => ?_
  unfold scanElements
  simp only [IconSet.mem_insertMany, h.mem_treeTexts]

/-- A punctuation mark that starts at a place. -/
def markAt (start : Position) (text : String) : Node :=
  .mk (.token text) none start text false []

/-- The string `'home'` that starts at a place. -/
def homeAt (start : Position) : Node :=
  .mk .string none start "'home'" false
    [.mk .stringFragment none (start.after ['\'']) "home" false []]

/-- The tree of `<Button icon={pick('home')} />`. -/
def plainButton : Node :=
  .mk .jsxSelfClosing none 0 "<Button icon=\x7bpick('home')\x7d />" false
    [ markAt 0 "<",
      .mk (.other "identifier") none 1 "Button" false [],
      .mk .jsxAttribute none 8 "icon=\x7bpick('home')\x7d" false
        [ .mk (.other "property_identifier") none 8 "icon" false [],
          markAt 12 "=",
          .mk .jsxExpression none 13 "\x7bpick('home')\x7d" false
            [ markAt 13 "\x7b",
              .mk .call none 14 "pick('home')" false
                [ .mk (.other "identifier") none 14 "pick" false [],
                  .mk .arguments (some .arguments) 18 "('home')" false
                    [markAt 18 "(", homeAt 19, markAt 25 ")"] ],
              markAt 26 "\x7d" ] ],
      markAt 28 "/>" ]

/-- The tree of `<Button /*a*/ icon/*b*/={(/*c*/pick(/*d*/('home')))} />`. -/
def paddedButton : Node :=
  .mk .jsxSelfClosing none 0 "<Button /*a*/ icon/*b*/=\x7b(/*c*/pick(/*d*/('home')))\x7d />" false
    [ markAt 0 "<",
      .mk (.other "identifier") none 1 "Button" false [],
      .mk .comment none 8 "/*a*/" false [],
      .mk .jsxAttribute none 14 "icon/*b*/=\x7b(/*c*/pick(/*d*/('home')))\x7d" false
        [ .mk (.other "property_identifier") none 14 "icon" false [],
          .mk .comment none 18 "/*b*/" false [],
          markAt 23 "=",
          .mk .jsxExpression none 24 "\x7b(/*c*/pick(/*d*/('home')))\x7d" false
            [ markAt 24 "\x7b",
              .mk .parenthesized none 25 "(/*c*/pick(/*d*/('home')))" false
                [ markAt 25 "(",
                  .mk .comment none 26 "/*c*/" false [],
                  .mk .call none 31 "pick(/*d*/('home'))" false
                    [ .mk (.other "identifier") none 31 "pick" false [],
                      .mk .arguments (some .arguments) 35 "(/*d*/('home'))" false
                        [ markAt 35 "(",
                          .mk .comment none 36 "/*d*/" false [],
                          .mk .parenthesized none 41 "('home')" false
                            [markAt 41 "(", homeAt 42, markAt 48 ")"],
                          markAt 49 ")" ] ],
                  markAt 50 ")" ],
              markAt 51 "\x7d" ] ],
      markAt 53 "/>" ]

/-- A node without parts may stand elsewhere. -/
theorem Padded.leaf {kind : Kind} {role : Option Role} {start start' : Position}
    {text : String} :
    Padded (.mk kind role start text false []) (.mk kind role start' text false []) :=
  .intro rfl rfl (fun _ => rfl) (fun _ => rfl) .nil

/-- An expression in parentheses. -/
def inParentheses (n : Node) : Node :=
  .mk .parenthesized n.role n.start ("(" ++ n.text ++ ")") false
    [markAt n.start "(", n, markAt n.start ")"]

/-- An expression is in parentheses then. -/
theorem parenthesizes_inParentheses (n : Node) : Parenthesizes (inParentheses n) n :=
  ⟨rfl, rfl, _, n, _, rfl, ⟨rfl, rfl⟩, ⟨rfl, rfl⟩, rfl, rfl, rfl⟩

/-- The second tree is the first with four comments and two pairs of parentheses put in. -/
theorem padded_button : Padded plainButton paddedButton := by
  have hcomment : ∀ {start : Position} {text : String},
      IsComment (.mk .comment none start text false []) := ⟨rfl, rfl⟩
  have hhome : Padded (homeAt 19) (homeAt 42) :=
    .intro rfl rfl (fun _ => rfl) nofun (.part .leaf .nil)
  -- A comment in the tag.
  refine .intro rfl rfl nofun nofun ?_
  refine .part .leaf (.part .leaf (.comment rfl hcomment (.part ?_ (.part .leaf .nil))))
  -- One in the attribute.
  refine .intro rfl rfl nofun (fun _ => rfl) ?_
  refine .part .leaf (.comment rfl hcomment (.part .leaf (.part ?_ .nil)))
  -- Parentheses around the call, with a comment in them.
  refine .intro rfl rfl nofun nofun ?_
  refine .part .leaf (.parentheses rfl (parenthesizes_inParentheses _) ?_ (.part .leaf .nil))
  refine .intro rfl rfl nofun nofun ?_
  refine .part .leaf (.comment rfl hcomment (.part ?_ (.part .leaf .nil)))
  -- A comment and parentheses in the argument list.
  refine .intro rfl rfl nofun nofun (.part .leaf (.part ?_ .nil))
  refine .intro rfl rfl nofun nofun (.part .leaf (.comment rfl hcomment ?_))
  refine .parentheses rfl (parenthesizes_inParentheses _) ?_ (.part .leaf .nil)
  exact .intro rfl rfl nofun nofun (.part .leaf (.part hhome (.part .leaf .nil)))

/-- A scan finds the same icon in both. -/
theorem scanElements_button :
    Padded plainButton paddedButton ∧
      scanElements paddedButton "material-symbols-rounded" ["icon"] .empty = .ofList ["home"] := by
  have hplain : scanElements plainButton "material-symbols-rounded" ["icon"] .empty =
      .ofList ["home"] := by decide
  exact ⟨padded_button, (scanElements_padded padded_button _ _ _).trans hplain⟩

end IconSubset.Extraction
