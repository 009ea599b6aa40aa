import IconSubset.Proofs.Printing.Expression

/-!
# Elements as they are written

Elements with attributes whose values are plain strings or expressions, and with a name or an
expression between their tags. `Element.text` is how one is written and `Element.shape` is its tree;
`reads_element` says that the one is read as the other by a reader of expressions that reads those
in it.
-/

namespace IconSubset.Printing

open Tsx Tsx.Constant

/-! ## Attributes -/

/-- Whether a character stands for itself between the quotes of an attribute. -/
def isPlainChar (c : Char) : Bool := !"\"'&<>\x00".toList.contains c

/-- Text of which every character stands for itself. -/
structure PlainText where
  /-- The characters. -/
  text : List Char
  /-- They stand for themselves. -/
  chars : text.all isPlainChar = true

/-- The characters of plain text are none that has another meaning. -/
theorem PlainText.ne_of_mem {t : PlainText} {c d : Char} (hc : c ∈ t.text)
    (hd : isPlainChar d = false) : c ≠ d := by
  rintro rfl
  exact Bool.false_ne_true (hd.symm.trans (List.all_eq_true.1 t.chars _ hc))

/-- What the value of an attribute is written between. -/
inductive AttributeQuote where
  /-- Single quotes. -/
  | single
  /-- Double quotes. -/
  | double

/-- The character of a quote. -/
def AttributeQuote.char : AttributeQuote → Char
  | single => '\''
  | double => '"'

/-- The value of an attribute. -/
inductive AttributeValue where
  /-- Text between quotes. -/
  | string (quote : AttributeQuote) (t : PlainText)
  /-- A readable expression in braces. -/
  | expression (e : Expression) (he : e.isReadable = true)

/-- How an expression in braces is written. -/
def containerText (e : Expression) : List Char := "\x7b".toList ++ e.text ++ "\x7d".toList

/-- The shape of an expression in braces. -/
def containerShape (e : Expression) : Shape :=
  .branch .jsxExpression none [markShape "\x7b", e.shape, markShape "\x7d"]

namespace AttributeValue

/-- How a value is written. -/
def text : AttributeValue → List Char
  | string quote t => [quote.char] ++ t.text ++ [quote.char]
  | expression e _ => containerText e

/-- The expression of a value. -/
def expression? : AttributeValue → Option Expression
  | string .. => none
  | expression e _ => some e

/-- The shape of a value. -/
def shape : AttributeValue → Shape
  | string quote t => .branch .string none
      (markShape (String.singleton quote.char) :: plainShapes .stringFragment t.text ++
        [markShape (String.singleton quote.char)])
  | expression e _ => containerShape e

end AttributeValue

/-- An attribute with a value. -/
structure Attribute where
  /-- The name. -/
  name : QualifiedName
  /-- The value. -/
  value : AttributeValue

namespace Attribute

/-- How an attribute is written, after a space. -/
def text (a : Attribute) : List Char := " ".toList ++ a.name.text ++ "=".toList ++ a.value.text

/-- Whether an attribute may stand in a tag at a place. -/
def fits (a : Attribute) (place : Place) : Bool :=
  place.admitsAttribute (a.name.shape (.other "property_identifier"))

/-- The shapes of the space and the attribute. -/
def shapes (a : Attribute) : List Shape :=
  [spaceShape, .branch .jsxAttribute none
    [a.name.shape (.other "property_identifier"), markShape "=", a.value.shape]]

end Attribute

section Attributes

variable {inner : Reader Shape} {place : Place} {next : List Char}

/-- An expression in braces is read as it is written. -/
theorem reads_container {e : Expression} (he : e.ReadBy inner) :
    Reads (container inner) (containerText e) (containerShape e) next := by
  have htext : containerText e = "\x7b".toList ++ (e.text ++ "\x7d".toList) := by
    unfold containerText
    rw [List.append_assoc]
  rw [htext]
  refine Reads.bind (reads_mark _) (Reads.skip (reads_noBlanks ?_) ?_)
  · exact (e.dark_text.append _).append _
  refine Reads.bind (he _ (.brace _)) (Reads.skip (reads_noBlanks (dark_cons rfl)) ?_)
  exact Reads.finish (reads_mark _) Reads.pure

/-- Between quotes a character that begins no reference and no comment stands for itself, since no
text is the end of a comment. -/
theorem attributePiece_character {c quote : Char} {rest : List Char} (hreference : c ≠ '&')
    (hcomment : c ≠ '<') (hzero : c ≠ '\x00') (hgreater : '>' ∉ rest)
    (hquote : quote ≠ '-' ∧ quote ≠ '>') :
    attributePiece (c :: (rest ++ quote :: next)) = some ([.plain c], rest ++ quote :: next) := by
  rw [attributePiece]
  · exact if_neg hzero
  · exact hreference
  · exact fun _ h => absurd h hcomment
  · intro more _ hmore
    -- What follows a hyphen is the rest of the text and then a quote.
    match rest, hmore, hgreater with
    | [], hmore, _ => exact hquote.1 (List.cons.inj hmore).1
    | [_], hmore, _ => exact hquote.2 (List.cons.inj (List.cons.inj hmore).2).1
    | _ :: d :: _, hmore, hgreater =>
      obtain rfl : d = '>' := (List.cons.inj (List.cons.inj hmore).2).1
      exact hgreater (List.mem_cons_of_mem _ List.mem_cons_self)

/-- A character of plain text stands for itself. -/
theorem attributePiece_plain {t : PlainText} {c quote : Char} {rest : List Char}
    (hsuffix : c :: rest <:+ t.text) (hquote : quote ≠ '-' ∧ quote ≠ '>') :
    attributePiece (c :: (rest ++ quote :: next)) = some ([.plain c], rest ++ quote :: next) := by
  have hc : c ∈ t.text := hsuffix.subset List.mem_cons_self
  have hgreater : '>' ∉ rest := by
    intro h
    exact PlainText.ne_of_mem (hsuffix.subset (List.mem_cons_of_mem c h)) (by decide) rfl
  exact attributePiece_character (PlainText.ne_of_mem hc (by decide))
    (PlainText.ne_of_mem hc (by decide)) (PlainText.ne_of_mem hc (by decide)) hgreater hquote

/-- A value is read as it is written. -/
theorem reads_attributeValue {v : AttributeValue} (hv : ∀ e ∈ v.expression?, e.ReadBy inner) :
    Reads (attributeValue inner) v.text v.shape next := by
  cases v with
  | string quote t =>
    have hstring : Reads (between .string quote.char attributePiece)
        ([quote.char] ++ (t.text ++ [quote.char])) (AttributeValue.string quote t).shape next := by
      refine reads_between ?_ fun c rest hsuffix => attributePiece_plain hsuffix ?_
      · cases quote <;> exact fun h => PlainText.ne_of_mem h (by decide) rfl
      · cases quote <;> exact ⟨by decide, by decide⟩
    rw [AttributeValue.text, List.append_assoc]
    cases quote
    · exact Reads.skip (reads_firstOf? rfl) hstring
    · exact Reads.skip (reads_firstOf? rfl) hstring
  | expression e he =>
    have hfirst : (["\"", "'"].find? fun text => text.toList.isPrefixOf (containerText e ++ next)) =
        none := by
      unfold containerText
      rw [List.append_assoc, List.append_assoc]
      rfl
    exact Reads.skip (reads_firstOf? hfirst) (reads_container (hv e rfl))

/-- What starts with a name is no end of a tag. -/
theorem QualifiedName.not_tagEnd (n : QualifiedName) (more : List Char) :
    (["/>", ">"].find? fun text => text.toList.isPrefixOf (n.text ++ more)) = none := by
  obtain ⟨c, rest, htext, hc⟩ := n.exists_cons
  rw [htext]
  exact find?_isPrefixOf_eq_none (p := fun c => isWordChar c || c == '-') hc (by decide)

/-- A name starts with no blank. -/
theorem QualifiedName.dark_text (n : QualifiedName) : Dark n.text := by
  obtain ⟨c, rest, htext, hc⟩ := n.exists_cons
  refine ⟨c, rest, htext, ?_⟩
  rcases Bool.or_eq_true_iff.1 hc with hc | hc
  · exact not_isAsciiBlank_of_isWordChar hc
  · obtain rfl := beq_iff_eq.1 hc
    decide

/-- An attribute is read as it is written when its value is. -/
theorem reads_property_value (name : QualifiedName) {value : List Char} {shape : Shape}
    (hplace : place.admitsAttribute (name.shape (.other "property_identifier")) = true)
    (hvalue : Reads (attributeValue inner) value shape next) :
    Reads (property place inner) ([' '] ++ (name.text ++ ("=".toList ++ value)))
      [spaceShape, .branch .jsxAttribute none
        [name.shape (.other "property_identifier"), markShape "=", shape]] next := by
  refine Reads.bind (reads_someSpace ?_) ?_
  · exact (name.dark_text.append _).append _
  refine Reads.skip (a := none) (reads_firstOf? ?_) ?_
  · rw [List.append_assoc]
    exact name.not_tagEnd _
  refine Reads.bind (reads_qualifiedName _ name rfl rfl) (Reads.unless hplace ?_)
  refine Reads.skip (reads_startsWith rfl) ?_
  exact Reads.bind (reads_mark "=") (Reads.finish hvalue Reads.pure)

/-- An attribute is read as it is written. -/
theorem reads_property {a : Attribute} (hplace : a.fits place = true)
    (ha : ∀ e ∈ a.value.expression?, e.ReadBy inner) :
    Reads (property place inner) a.text a.shapes next := by
  have htext : a.text = [' '] ++ (a.name.text ++ ("=".toList ++ a.value.text)) := by
    simp [Attribute.text]
  rw [htext]
  exact reads_property_value _ hplace (reads_attributeValue ha)

/-- The attributes of a tag are read one after the other, before what is read after them. -/
theorem readsAll_properties {after : List Char} {found : List Shape}
    (hafter : ReadsAll (comesNext ['/', '>']) (property place inner) next after found) :
    ∀ {attributes : List Attribute}, (∀ a ∈ attributes, a.fits place = true) →
      (∀ a ∈ attributes, ∀ e ∈ a.value.expression?, e.ReadBy inner) →
      ReadsAll (comesNext ['/', '>']) (property place inner) next
        (attributes.flatMap Attribute.text ++ after) (attributes.flatMap Attribute.shapes ++ found)
  | [], _, _ => hafter
  | a :: rest, hplace, h => by
    have hrest := readsAll_properties hafter (fun b hb => hplace b (List.mem_cons_of_mem a hb))
      fun b hb => h b (List.mem_cons_of_mem a hb)
    have hone : Reads (property place inner) a.text a.shapes
        (rest.flatMap Attribute.text ++ after ++ next) :=
      reads_property (hplace a List.mem_cons_self) (h a List.mem_cons_self)
    have htext : ∃ more, a.text = ' ' :: more := ⟨_, by simp [Attribute.text]; rfl⟩
    obtain ⟨more, hmore⟩ := htext
    rw [List.flatMap_cons, List.flatMap_cons, List.append_assoc, List.append_assoc]
    refine .cons ?_ ?_ hone hrest
    · rw [hmore]
      exact List.cons_ne_nil _ _
    · rw [hmore]
      rfl

end Attributes

/-! ## Elements -/

/-- What stands between the tags of an element. -/
inductive Content where
  /-- A name as text. -/
  | name (n : IconName)
  /-- A readable expression in braces. -/
  | expression (e : Expression) (he : e.isReadable = true)

namespace Content

/-- How content is written. -/
def text : Content → List Char
  | name n => n.text
  | expression e _ => containerText e

/-- The expression of content. -/
def expression? : Content → Option Expression
  | name _ => none
  | expression e _ => some e

/-- The shape of content. -/
def shape : Content → Shape
  | name n => .token .jsxText none n.text
  | expression e _ => containerShape e

end Content

/-- An element. -/
inductive Element where
  /-- An element with an opening and a closing tag. -/
  | paired (tag : TagName) (attributes : List Attribute) (content : Content)
  /-- An element that is one tag. -/
  | selfClosing (tag : TagName) (attributes : List Attribute)

namespace Element

/-- How an element is written. -/
def text : Element → List Char
  | paired tag attributes content =>
    "<".toList ++ tag.text ++ attributes.flatMap Attribute.text ++ ">".toList ++ content.text ++
      "</".toList ++ tag.text ++ ">".toList
  | selfClosing tag attributes =>
    "<".toList ++ tag.text ++ attributes.flatMap Attribute.text ++ " />".toList

/-- The shape of an opening tag. -/
def openingShape (tag : TagName) (attributes : List Attribute) : Shape :=
  .branch (.other "jsx_opening_element") (some .openTag)
    (markShape "<" :: tag.shape :: attributes.flatMap Attribute.shapes ++ [markShape ">"])

/-- The shape of a closing tag. -/
def closingShape (tag : TagName) : Shape :=
  .branch (.other "jsx_closing_element") none [markShape "</", tag.shape, markShape ">"]

/-- The shape of an element. -/
def shape : Element → Shape
  | paired tag attributes content => .branch .jsxElement none
      [openingShape tag attributes, content.shape, closingShape tag]
  | selfClosing tag attributes => .branch .jsxSelfClosing none
      (markShape "<" :: tag.shape :: (attributes.flatMap Attribute.shapes ++ [spaceShape]) ++
        [markShape "/>"])

/-- Whether an element may stand at a place. -/
def fits (place : Place) : Element → Bool
  | paired tag attributes _ | selfClosing tag attributes =>
    place.admitsTag tag.firstShape && attributes.all (·.fits place)

/-- Between tags every element may stand. -/
theorem fits_child (x : Element) : x.fits .child = true := by
  cases x <;> simp [fits, Attribute.fits, Place.admitsTag, Place.admitsAttribute]

/-- The expressions in an element. -/
def expressions : Element → List Expression
  | paired _ attributes content =>
    attributes.filterMap (·.value.expression?) ++ content.expression?.toList
  | selfClosing _ attributes => attributes.filterMap (·.value.expression?)

end Element

section Elements

variable {inner : Place → Reader Shape} {place : Place} {next : List Char}

/-- A character of a name stands for itself in text. -/
theorem textPiece_iconChar {n : IconName} {c : Char} (hc : c ∈ n.text) (rest : List Char) :
    textPiece (c :: rest) = some ([.plain c], rest) := by
  rw [textPiece]
  · rw [if_neg]
    rintro (rfl | rfl | rfl) <;> exact IconName.ne_of_mem hc (by decide) rfl
  · exact fun h => IconName.ne_of_mem hc (by decide) h

/-- The text of a name is a token. -/
theorem settleText_name (n : IconName) :
    (Piece.shapes .jsxText (n.text.map .plain)).map settleText = [.token .jsxText none n.text] := by
  obtain ⟨c, rest, htext⟩ := List.exists_cons_of_ne_nil n.ne_nil
  have hc : c ≠ '\n' := by
    have hmem : c ∈ n.text := by
      rw [htext]
      exact List.mem_cons_self
    exact IconName.ne_of_mem hmem (by decide)
  rw [shapes_plain, plainShapes, if_neg n.ne_nil, List.map_singleton, settleText, if_neg]
  rw [htext]
  exact fun h => hc (Option.some.inj h.1)

/-- A name starts with one of its characters. -/
theorem IconName.exists_cons (n : IconName) :
    ∃ c rest, n.text = c :: rest ∧ isIconChar c = true := by
  obtain ⟨c, rest, htext⟩ := List.exists_cons_of_ne_nil n.ne_nil
  refine ⟨c, rest, htext, List.all_eq_true.1 n.chars c ?_⟩
  rw [htext]
  exact List.mem_cons_self

/-- Content is read as it is written, up to the closing tag. -/
theorem reads_child {c : Content} (hc : ∀ e ∈ c.expression?, e.ReadBy (inner .value)) :
    Reads (child inner) c.text [c.shape] ('<' :: next) := by
  cases c with
  | name n =>
    have hfirst : (["<", "\x7b"].find? fun text => text.toList.isPrefixOf (n.text ++ '<' :: next)) =
        none := by
      obtain ⟨c, rest, htext, hc⟩ := n.exists_cons
      rw [htext]
      exact find?_isPrefixOf_eq_none hc (by decide)
    -- The characters of the name, up to the closing tag.
    have hpieces : Reads (repeated (comesNext ['<', '{']) textPiece) n.text (n.text.map .plain)
        ('<' :: next) := by
      refine (readsAll_plain rfl fun c rest hsuffix => ?_).repeated
      have hmem : c ∈ n.text := hsuffix.subset List.mem_cons_self
      refine ⟨?_, textPiece_iconChar hmem _⟩
      have htag : c ≠ '<' := IconName.ne_of_mem hmem (by decide)
      have hbrace : c ≠ '{' := IconName.ne_of_mem hmem (by decide)
      simp [comesNext, htag, hbrace]
    refine Reads.skip (reads_firstOf? hfirst) (Reads.finish hpieces ?_)
    rw [settleText_name]
    exact Reads.pure
  | expression e he =>
    refine Reads.skip (a := some "\x7b") (reads_firstOf? ?_) ?_
    · rw [Content.text, containerText, List.append_assoc, List.append_assoc]
      rfl
    · exact Reads.finish (reads_container (hc e rfl)) Reads.pure

/-- A closing tag is read as it is written. -/
theorem reads_closingTag (tag : TagName) :
    Reads (closingTag true) ("</".toList ++ (tag.text ++ ">".toList)) (Element.closingShape tag)
      next := by
  refine Reads.bind (reads_mark "</") ?_
  have hname : Reads (do return [← tagName .child]) tag.text [tag.shape] ('>' :: next) :=
    Reads.finish (reads_tagName tag rfl (.inr rfl)) Reads.pure
  exact Reads.bind hname (Reads.finish (reads_mark ">") Reads.pure)

/-- Attributes start with a space. -/
theorem head_attributes (attributes : List Attribute) :
    ∀ c ∈ (attributes.flatMap Attribute.text).head?, c = ' ' := by
  cases attributes with
  | nil => exact nofun
  | cons a rest =>
    intro c hc
    simp only [List.flatMap_cons, Attribute.text, List.append_assoc] at hc
    exact (Option.some.inj hc).symm

/-- The name of an element is followed by an attribute or by the end of the tag. -/
theorem reads_tagName_before (tag : TagName) (hplace : place.admitsTag tag.firstShape = true)
    {attributes : List Char} {c : Char} {rest : List Char}
    (hstart : ∀ d ∈ attributes.head?, d = ' ') (hc : c = ' ' ∨ c = '>') :
    Reads (tagName place) tag.text tag.shape (attributes ++ c :: rest) := by
  cases attributes with
  | nil => exact reads_tagName tag hplace hc
  | cons d more => exact reads_tagName tag hplace (.inl (hstart d rfl))

/-- What starts with the name of an element is not the end of a tag. -/
theorem TagName.not_tagEnd (tag : TagName) {cs : List Char} (h : tag.text <+: cs) :
    ">".toList.isPrefixOf cs = false := by
  obtain ⟨more, rfl⟩ := h
  obtain ⟨c, rest, htext, hc⟩ := tag.exists_cons
  rw [htext]
  exact isPrefixOf_eq_false (p := fun c => isWordChar c || c == '-') hc (by decide)

section Tags

variable {expression : Reader Shape} {part : Reader (List Shape)} {tag : TagName}
variable {attributes inside : List Char} {found children : List Shape}

/-- An element with two tags is read when its attributes and what stands between the tags are. -/
theorem reads_paired_of (hplace : place.admitsTag tag.firstShape = true)
    (hstart : ∀ c ∈ attributes.head?, c = ' ')
    (hattributes : ∀ rest, ReadsAll (comesNext ['/', '>']) (property place expression) ('>' :: rest)
      attributes found)
    (hinside : ∀ rest, ReadsAll (['<', '/'].isPrefixOf ·) part ('<' :: '/' :: rest)
      inside children) :
    Reads (element place expression part)
      ("<".toList ++ (tag.text ++ (attributes ++ (">".toList ++ (inside ++
        ("</".toList ++ (tag.text ++ ">".toList)))))))
      (.branch .jsxElement none
        (.branch (.other "jsx_opening_element") (some .openTag)
          (markShape "<" :: tag.shape :: found ++ [markShape ">"]) ::
            children ++ [Element.closingShape tag])) next := by
  -- A name follows, so the tag is not that of a fragment.
  refine Reads.bind (reads_mark "<") (Reads.skip (a := false) (reads_startsWith ?_) ?_)
  · rw [List.append_assoc]
    exact tag.not_tagEnd (List.prefix_append _ _)
  refine Reads.bind (a := tag.shape) ?_ (Reads.bind (hattributes _).repeated ?_)
  · rw [List.append_assoc]
    exact reads_tagName_before tag hplace hstart (.inr rfl)
  refine Reads.skip (reads_startsWith rfl) (Reads.bind (reads_mark ">") ?_)
  exact Reads.bind (hinside _).repeated (Reads.finish (reads_closingTag tag) Reads.pure)

/-- An element that is one tag is read when its attributes are, with a space after them. -/
theorem reads_selfClosing_of (hplace : place.admitsTag tag.firstShape = true)
    (hstart : ∀ c ∈ attributes.head?, c = ' ')
    (hattributes : ReadsAll (comesNext ['/', '>']) (property place expression)
      ('/' :: '>' :: next) (attributes ++ [' ']) (found ++ [spaceShape])) :
    Reads (element place expression part)
      ("<".toList ++ (tag.text ++ ((attributes ++ [' ']) ++ "/>".toList)))
      (.branch .jsxSelfClosing none
        (markShape "<" :: tag.shape :: (found ++ [spaceShape]) ++ [markShape "/>"])) next := by
  refine Reads.bind (reads_mark "<") (Reads.skip (a := false) (reads_startsWith ?_) ?_)
  · rw [List.append_assoc]
    exact tag.not_tagEnd (List.prefix_append _ _)
  refine Reads.bind (a := tag.shape) ?_ (Reads.bind hattributes.repeated ?_)
  · rw [List.append_assoc, List.append_assoc]
    exact reads_tagName_before tag hplace hstart (.inl rfl)
  exact Reads.skip (reads_startsWith rfl) (Reads.finish (reads_mark "/>") Reads.pure)

/-- The space before the end of a tag is read as if an attribute followed. -/
theorem readsAll_lastSpace :
    ReadsAll (comesNext ['/', '>']) (property place expression) ('/' :: '>' :: next) [' ']
      [spaceShape] := by
  have hspace : Reads (property place expression) [' '] [spaceShape] ('/' :: '>' :: next) :=
    Reads.finish (reads_someSpace (dark_cons rfl)) (Reads.skip (reads_firstOf? rfl) Reads.pure)
  exact .single (List.cons_ne_nil _ _) rfl hspace rfl

end Tags

/-- What stands between the tags of an element is read as it is written. -/
theorem readsAll_content {c : Content} (hcontent : ∀ e ∈ c.expression?, e.ReadBy (inner .value)) :
    ReadsAll (['<', '/'].isPrefixOf ·) (child inner) ('<' :: '/' :: next) c.text [c.shape] := by
  have hgo : ['<', '/'].isPrefixOf (c.text ++ '<' :: '/' :: next) = false := by
    cases c with
    | name n =>
      obtain ⟨d, rest, htext, hd⟩ := n.exists_cons
      rw [Content.text, htext]
      exact isPrefixOf_eq_false hd (by decide)
    | expression e he =>
      rw [Content.text, containerText, List.append_assoc, List.append_assoc]
      rfl
  have hne : c.text ≠ [] := by
    cases c with
    | name n => exact n.ne_nil
    | expression e he =>
      rw [Content.text, containerText, List.append_assoc]
      exact List.cons_ne_nil _ _
  exact .single hne hgo (reads_child hcontent) rfl

/-- An element with two tags is read as it is written. -/
theorem reads_paired {tag : TagName} {attributes : List Attribute} {c : Content}
    (hplace : (Element.paired tag attributes c).fits place = true)
    (hattributes : ∀ a ∈ attributes, ∀ e ∈ a.value.expression?, e.ReadBy (inner .value))
    (hcontent : ∀ e ∈ c.expression?, e.ReadBy (inner .value)) :
    Reads (element place (inner .value) (child inner)) (Element.paired tag attributes c).text
      (Element.paired tag attributes c).shape next := by
  have htext : (Element.paired tag attributes c).text =
      "<".toList ++ (tag.text ++ (attributes.flatMap Attribute.text ++ (">".toList ++ (c.text ++
        ("</".toList ++ (tag.text ++ ">".toList)))))) := by
    simp [Element.text]
  obtain ⟨htag, hfit⟩ := Bool.and_eq_true_iff.1 hplace
  have hproperties : ∀ rest, ReadsAll (comesNext ['/', '>']) (property place (inner .value))
      ('>' :: rest) (attributes.flatMap Attribute.text ++ [])
      (attributes.flatMap Attribute.shapes ++ []) :=
    fun rest => readsAll_properties (.nil rfl) (List.all_eq_true.1 hfit) hattributes
  simp only [List.append_nil] at hproperties
  rw [htext]
  exact reads_paired_of htag (head_attributes attributes) hproperties fun rest =>
    readsAll_content hcontent

/-- An element that is one tag is read as it is written. -/
theorem reads_selfClosing {tag : TagName} {attributes : List Attribute}
    (hplace : (Element.selfClosing tag attributes).fits place = true)
    (hattributes : ∀ a ∈ attributes, ∀ e ∈ a.value.expression?, e.ReadBy (inner .value)) :
    Reads (element place (inner .value) (child inner)) (Element.selfClosing tag attributes).text
      (Element.selfClosing tag attributes).shape next := by
  have htext : (Element.selfClosing tag attributes).text =
      "<".toList ++ (tag.text ++
        ((attributes.flatMap Attribute.text ++ [' ']) ++ "/>".toList)) := by
    simp [Element.text]
  obtain ⟨htag, hfit⟩ := Bool.and_eq_true_iff.1 hplace
  rw [htext]
  exact reads_selfClosing_of htag (head_attributes attributes)
    (readsAll_properties readsAll_lastSpace (List.all_eq_true.1 hfit) hattributes)

/-- An element is read as it is written where it may stand, by a reader that reads the expressions
in it. -/
theorem reads_element {x : Element} (hplace : x.fits place = true)
    (h : ∀ e ∈ x.expressions, e.ReadBy (inner .value)) :
    Reads (element place (inner .value) (child inner)) x.text x.shape next := by
  cases x with
  | paired tag attributes c =>
    refine reads_paired hplace (fun a ha e he => h e ?_) fun e he => h e ?_
    · exact List.mem_append_left _ (List.mem_filterMap.2 ⟨a, ha, he⟩)
    · exact List.mem_append_right _ (Option.mem_toList.2 he)
  | selfClosing tag attributes =>
    exact reads_selfClosing hplace fun a ha e he => h e (List.mem_filterMap.2 ⟨a, ha, he⟩)

end Elements

/-! ## Elements as expressions -/

namespace Element

/-- The expression of an attribute is no longer than the attributes. -/
theorem length_le_attributes {attributes : List Attribute} {e : Expression}
    (he : e ∈ attributes.filterMap (·.value.expression?)) :
    e.text.length ≤ (attributes.flatMap Attribute.text).length := by
  obtain ⟨a, ha, hvalue⟩ := List.mem_filterMap.1 he
  have hlength : e.text.length ≤ a.text.length := by
    obtain ⟨name, value⟩ := a
    cases value with
    | string quote t => cases hvalue
    | expression e' he' =>
      obtain rfl : e' = e := Option.some.inj hvalue
      simp [Attribute.text, AttributeValue.text, containerText]
      omega
  have hsublist : a.text.length ≤ (attributes.flatMap Attribute.text).length := by
    rw [List.flatMap_def]
    exact (List.sublist_flatten_of_mem (List.mem_map_of_mem ha)).length_le
  omega

/-- The expressions in an element are readable. -/
theorem isReadable_of_mem {x : Element} {e : Expression} (he : e ∈ x.expressions) :
    e.isReadable = true := by
  have hattribute : ∀ {attributes : List Attribute},
      e ∈ attributes.filterMap (·.value.expression?) → e.isReadable = true := by
    intro attributes he
    obtain ⟨⟨name, value⟩, -, hvalue⟩ := List.mem_filterMap.1 he
    cases value with
    | string quote t => cases hvalue
    | expression e' he' => exact Option.some.inj hvalue ▸ he'
  cases x with
  | paired tag attributes c =>
    rcases List.mem_append.1 he with he | he
    · exact hattribute he
    · cases c with
      | name n => exact absurd he List.not_mem_nil
      | expression e' he' => exact List.mem_singleton.1 he ▸ he'
  | selfClosing tag attributes => exact hattribute he

/-- The expressions in an element are shorter than the element. -/
theorem length_lt {x : Element} {e : Expression} (he : e ∈ x.expressions) :
    e.text.length < x.text.length := by
  cases x with
  | paired tag attributes c =>
    have htext : (paired tag attributes c).text.length =
        (attributes.flatMap Attribute.text).length + c.text.length + 2 * tag.text.length + 5 := by
      simp [text]
      omega
    rcases List.mem_append.1 he with he | he
    · have hle := length_le_attributes he
      omega
    · cases c with
      | name n => exact absurd he List.not_mem_nil
      | expression e' he' =>
        obtain rfl := List.mem_singleton.1 he
        have hcontent : (Content.expression e he').text.length = e.text.length + 2 := by
          simp [Content.text, containerText]
        omega
  | selfClosing tag attributes =>
    have htext : (selfClosing tag attributes).text.length =
        (attributes.flatMap Attribute.text).length + tag.text.length + 4 := by
      simp [text]
      omega
    have hle := length_le_attributes he
    omega

/-- An element starts with the start of a tag that is no closing tag. -/
theorem exists_cons (x : Element) : ∃ c rest, x.text = '<' :: c :: rest ∧ c ≠ '/' := by
  have htag : ∀ (tag : TagName) (more : List Char), ∃ c rest, tag.text ++ more = c :: rest ∧
      c ≠ '/' := by
    intro tag more
    obtain ⟨c, rest, htext, hc⟩ := tag.exists_cons
    refine ⟨c, rest ++ more, by rw [htext]; rfl, ?_⟩
    rintro rfl
    exact absurd hc (by decide)
  cases x with
  | paired tag attributes c =>
    obtain ⟨d, rest, htext, hne⟩ := htag tag (attributes.flatMap Attribute.text ++
      (">".toList ++ (c.text ++ ("</".toList ++ (tag.text ++ ">".toList)))))
    refine ⟨d, rest, ?_, hne⟩
    rw [← htext]
    simp [text]
  | selfClosing tag attributes =>
    obtain ⟨d, rest, htext, hne⟩ := htag tag (attributes.flatMap Attribute.text ++ " />".toList)
    refine ⟨d, rest, ?_, hne⟩
    rw [← htext]
    simp [text]

end Element

/-- An element is an expression, read as it is written where it may stand when it is no longer than
the depth allows. -/
theorem reads_expression_element {depth : Nat} {place : Place} {x : Element}
    (hplace : x.fits place = true) (hdepth : x.text.length ≤ depth) (next : List Char) :
    Reads (expression depth place) x.text x.shape next := by
  obtain ⟨c, rest, htext, -⟩ := x.exists_cons
  cases depth with
  | zero =>
    rw [htext] at hdepth
    exact absurd hdepth (Nat.not_succ_le_zero _)
  | succ depth =>
    have hread : Reads (element place (expression depth .value) (child (expression depth))) x.text
        x.shape next := by
      refine reads_element hplace fun e he =>
        reads_expression depth e (Element.isReadable_of_mem he) ?_
      have hlt := Element.length_lt he
      omega
    refine Reads.skip (a := some "<") (reads_firstOf? ?_) hread
    rw [htext]
    rfl

end IconSubset.Printing
