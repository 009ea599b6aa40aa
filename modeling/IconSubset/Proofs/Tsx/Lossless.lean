import IconSubset.Proofs.Tsx.StringReading

/-!
# Nothing is lost in reading

What a reader took from a source can be told from its result: the text of the result and what is
left behind it are what was there (`Keeps`). Each reader of modules keeps the text in this way,
those of pieces up to those of elements, since the readers that it is put together from do. So the
shape of a module has the source for its text (`chars_of_shape?`).
-/

namespace IconSubset.Tsx.Constant

open Syntax (Kind Role)
open Shape

/-- Whatever a reader takes, the text of its result, with what is left, is what was there with some
text before it. That text is what the readers before it took. -/
def Keeps {α : Type} (before : List Char) (text : α → List Char) (r : Reader α) : Prop :=
  ∀ cs a rest, r cs = some (a, rest) → before ++ cs = text a ++ rest

section Rows

variable {α β : Type} {before : List Char} {text : α → List Char} {r s : Reader α}

/-- A result by itself has the text that was taken before it. -/
theorem keeps_pure {a : α} (h : before = text a) : Keeps before text (pure a) := by
  intro cs b rest hread
  obtain ⟨rfl, rfl⟩ := Prod.mk.inj (Option.some.inj hread)
  rw [h]

/-- A reader that fails takes nothing. -/
theorem keeps_failure : Keeps before text failure := fun _ _ _ hread => by cases hread

/-- Two readers in a row. The second knows what the first took. -/
theorem Keeps.bind {more : β → List Char} {f : α → Reader β} (hr : Keeps [] text r)
    (hf : ∀ a, Keeps (before ++ text a) more (f a)) : Keeps before more (r >>= f) := by
  intro cs b rest hread
  obtain ⟨⟨a, middle⟩, hfirst, hsecond⟩ := Option.bind_eq_some_iff.1
    (show (r cs).bind (fun x => f x.1 x.2) = some (b, rest) from hread)
  have hsplit : cs = text a ++ middle := hr cs a middle hfirst
  rw [hsplit, ← List.append_assoc]
  exact hf a middle b rest hsecond

/-- A reader that is tried where another one fails. -/
theorem Keeps.orElse (hr : Keeps before text r) (hs : Keeps before text s) :
    Keeps before text (r <|> s) := by
  intro cs a rest hread
  have hread : (r cs <|> s cs) = some (a, rest) := hread
  cases hfirst : r cs with
  | none =>
    rw [hfirst] at hread
    exact hs cs a rest hread
  | some found =>
    rw [hfirst] at hread
    exact hr cs a rest (hfirst.trans hread)

/-- A reader whose results are sifted. -/
theorem Keeps.filter (hr : Keeps before text r) (p : α × List Char → Bool) :
    Keeps before text fun cs => (r cs).filter p := by
  intro cs a rest hread
  exact hr cs a rest (Option.filter_eq_some_iff.1 hread).1

/-- A choice between two readers. -/
theorem Keeps.ite {c : Prop} [Decidable c] (hr : c → Keeps before text r)
    (hs : ¬c → Keeps before text s) : Keeps before text (if c then r else s) := by
  split
  · exact hr ‹_›
  · exact hs ‹_›

/-- A reader that is repeated takes what its turns take. -/
theorem Keeps.repeated {one : Reader (List β)} {all : List β → List Char} (hone : Keeps [] all one)
    (hnil : all [] = []) (happend : ∀ bs cs, all (bs ++ cs) = all bs ++ all cs)
    (atEnd : List Char → Bool) : Keeps [] all (repeated atEnd one) := by
  suffices hmany : ∀ limit, Keeps [] all (many atEnd one limit) from
    fun cs => hmany (cs.length + 1) cs
  intro limit
  induction limit with
  | zero => exact keeps_failure
  | succ limit ih =>
    intro cs found rest hread
    unfold many at hread
    dsimp only at hread
    split at hread
    · obtain ⟨rfl, rfl⟩ := Prod.mk.inj (Option.some.inj hread)
      rw [hnil]
    · obtain ⟨⟨turn, middle⟩, hturn, hmore⟩ := Option.bind_eq_some_iff.1 hread
      obtain ⟨⟨others, left⟩, hothers, heq⟩ := Option.map_eq_some_iff.1 hmore
      obtain ⟨rfl, rfl⟩ := Prod.mk.inj heq
      have hfirst : cs = all turn ++ middle := hone cs turn middle hturn
      have hrest : middle = all others ++ left := ih middle others left hothers
      rw [List.nil_append, happend, List.append_assoc, ← hrest, ← hfirst]

end Rows

/-! ## Marks and blanks -/

/-- A given text is what it takes. -/
theorem keeps_exactly (text : List Char) : Keeps [] (fun _ => text) (exactly text) := by
  intro cs a rest hread
  unfold exactly at hread
  split at hread
  · next hprefix =>
    obtain ⟨-, rfl⟩ := Prod.mk.inj (Option.some.inj hread)
    obtain ⟨rest, rfl⟩ := List.isPrefixOf_iff_prefix.1 hprefix
    rw [List.drop_left, List.nil_append]
  · cases hread

/-- A mark has its own text. -/
theorem keeps_mark (text : String) : Keeps [] chars (mark text) :=
  .bind (keeps_exactly text.toList) fun _ => keeps_pure rfl

/-- A run of characters is the characters that it takes. -/
theorem keeps_run (p : Char → Bool) : Keeps [] id (run p) := by
  intro cs a rest hread
  obtain ⟨rfl, rfl⟩ := Prod.mk.inj (Option.some.inj hread)
  exact List.takeWhile_append_dropWhile.symm

/-- White space, of which there may be none, is a shape of its own. -/
theorem keeps_blanks : Keeps [] charsOfAll blanks := by
  refine .bind (keeps_run isAsciiBlank) fun text => ?_
  split
  · exact keeps_pure rfl
  · exact keeps_pure (by simp [charsOfAll, chars])

/-- White space that must be there. -/
theorem keeps_someBlanks : Keeps [] charsOfAll someBlanks := by
  refine .bind (keeps_run isAsciiBlank) fun text => ?_
  split
  · exact keeps_failure
  · exact keeps_pure (by simp [charsOfAll, chars])

/-- Looking at what comes next takes nothing. -/
theorem keeps_startsWith (text : String) : Keeps [] (fun _ => []) (startsWith text) := by
  intro cs a rest hread
  obtain ⟨-, rfl⟩ := Prod.mk.inj (Option.some.inj hread)
  rfl

/-- Looking for one of several texts takes nothing. -/
theorem keeps_firstOf? (texts : List String) : Keeps [] (fun _ => []) (firstOf? texts) := by
  intro cs a rest hread
  obtain ⟨-, rfl⟩ := Prod.mk.inj (Option.some.inj hread)
  rfl

/-! ## Words -/

/-- The text of two runs of shapes. -/
theorem charsOfAll_append (ss ts : List Shape) :
    charsOfAll (ss ++ ts) = charsOfAll ss ++ charsOfAll ts := by
  induction ss with
  | nil => rfl
  | cons s ss ih => rw [List.cons_append, charsOfAll, charsOfAll, ih, List.append_assoc]

/-- A shape in another role has the same text. -/
theorem chars_withRole (role : Role) (s : Shape) : (s.withRole role).chars = s.chars := by
  cases s <;> rfl

/-- A word is the characters of its name. -/
theorem keeps_word (part : Char → Bool) (except : List String) :
    Keeps [] id (word part except) := by
  intro cs a rest hread
  unfold word at hread
  split at hread
  · dsimp only at hread
    split at hread
    · obtain ⟨rfl, rfl⟩ := Prod.mk.inj (Option.some.inj hread)
      rw [id, List.cons_append, List.takeWhile_append_dropWhile]
      rfl
    · cases hread
  · cases hread

/-- The name of the constant. -/
theorem keeps_constantName : Keeps [] chars constantName :=
  .bind (keeps_word _ _) fun _ => keeps_pure rfl

/-- A letter of a name, when it is one. -/
theorem keeps_letter : Keeps [] id letter := by
  intro cs a rest hread
  unfold letter at hread
  split at hread
  · obtain ⟨⟨body, left⟩, hbody, heq⟩ := Option.map_eq_some_iff.1 hread
    obtain ⟨rfl, rfl⟩ := Prod.mk.inj heq
    rw [(unicodeBody_eq_some hbody).1]
    rfl
  · split at hread
    · obtain ⟨rfl, rfl⟩ := Prod.mk.inj (Option.some.inj hread)
      rfl
    · cases hread
  · cases hread

/-- The letters of a name, one after the other. -/
theorem keeps_letters : Keeps [] id letters := by
  have hrun := keeps_letter.repeated rfl (fun _ _ => rfl) fun cs => (letter cs).isNone
  intro cs a rest hread
  unfold letters at hread
  split at hread
  · cases hread
  · exact hrun.filter _ cs a rest hread

/-- An identifier has its letters for its text. -/
theorem keeps_identifier : Keeps [] chars identifier :=
  .bind keeps_letters fun _ => keeps_pure rfl

/-- A letter of the name of a tag, which may be a hyphen. -/
theorem keeps_letterOrHyphen : Keeps [] id letterOrHyphen := by
  intro cs a rest hread
  unfold letterOrHyphen at hread
  split at hread
  · obtain ⟨rfl, rfl⟩ := Prod.mk.inj (Option.some.inj hread)
    rfl
  · exact keeps_letter _ a rest hread

/-- A name without dots and colons. -/
theorem keeps_simpleName : Keeps [] id simpleName :=
  (keeps_letterOrHyphen.repeated rfl (fun _ _ => rfl) _).filter _

/-- A name behind a colon keeps the name in front of it, and the colon. -/
theorem keeps_qualifiedName (kind : Kind) : Keeps [] chars (qualifiedName kind) := by
  refine .bind keeps_simpleName fun text => .bind (keeps_startsWith ":") fun colon => ?_
  refine .ite (fun _ => ?_) fun _ => keeps_pure (by simp [chars])
  refine .bind (keeps_mark ":") fun mark => .bind keeps_simpleName fun localText => keeps_pure ?_
  simp [chars, charsOfAll]

/-- A member is written behind a dot. -/
def memberChars (members : List (List Char)) : List Char := members.flatMap ('.' :: ·)

/-- The names of members keep the dots in front of them. -/
theorem keeps_memberName : Keeps [] memberChars memberName := by
  have hdot : Keeps [] (fun _ => ['.']) (mark ".") :=
    .bind (keeps_exactly ['.']) fun _ => keeps_pure rfl
  refine .bind hdot fun dot => .bind keeps_simpleName fun text => ?_
  refine .ite (fun _ => keeps_failure) fun _ => keeps_pure ?_
  simp [memberChars]

/-- The shape of a member has the text of the object, and behind it what names the members. -/
theorem chars_foldl_memberOf (members : List (List Char)) (object : Shape) :
    (members.foldl memberOf object).chars = object.chars ++ memberChars members := by
  induction members generalizing object with
  | nil => exact (List.append_nil _).symm
  | cons text members ih =>
    rw [List.foldl_cons, ih]
    simp [memberOf, memberChars, chars, charsOfAll]

/-- The name of a tag in all its forms, as far as the place allows them. -/
theorem keeps_tagName (place : Place) : Keeps [] chars (tagName place) := by
  refine .bind (keeps_qualifiedName _) fun name => .ite (fun _ => keeps_failure) fun _ => ?_
  refine .bind (keeps_startsWith ".") fun dot => ?_
  refine .ite (fun _ => .ite (fun _ => keeps_failure) fun _ => ?_) fun _ => ?_
  · have hmembers : Keeps [] memberChars (repeated (fun cs => cs.head? != some '.') memberName) :=
      keeps_memberName.repeated rfl (fun _ _ => List.flatMap_append) _
    refine .bind hmembers fun members => keeps_pure ?_
    rw [chars_foldl_memberOf, List.nil_append, List.append_nil]
  · refine .ite (fun _ => keeps_failure) fun _ => keeps_pure ?_
    simp

/-! ## Strings and text -/

/-- The shapes of pieces have the text of the pieces. -/
theorem chars_shapes (kind : Kind) (pieces : List Piece) :
    charsOfAll (Piece.shapes kind pieces) = pieces.flatMap Piece.text := by
  induction pieces with
  | nil => rfl
  | cons p rest ih =>
    cases p with
    | plain c =>
      rw [List.flatMap_cons, ← ih]
      obtain ⟨role, text, more, hshapes, hjoined⟩ | hown := Piece.shapes_plain_cons kind c rest
      · rw [hjoined, hshapes]
        rfl
      · rw [hown]
        rfl
    | escape body | reference body =>
      rw [List.flatMap_cons, ← ih]
      rfl

/-- What text between tags is counted as does not change its characters. -/
theorem chars_settleText (s : Shape) : (settleText s).chars = s.chars := by
  unfold settleText
  split
  · split <;> rfl
  · rfl

/-- Nor does it change those of a whole row. -/
theorem charsOfAll_map_settleText (ss : List Shape) :
    charsOfAll (ss.map settleText) = charsOfAll ss := by
  induction ss with
  | nil => rfl
  | cons s ss ih => rw [List.map_cons, charsOfAll, charsOfAll, ih, chars_settleText]

/-- The body of a character reference is cut off the front of what is there. -/
theorem referenceBody_eq_some {cs body rest : List Char}
    (h : referenceBody cs = some (body, rest)) : cs = body ++ rest := by
  have hname : ∀ {p : Char → Bool} {cs after : List Char},
      cs.dropWhile p = ';' :: after → cs = cs.takeWhile p ++ [';'] ++ after := by
    intro p cs after hdrop
    conv_lhs => rw [← List.takeWhile_append_dropWhile (p := p) (l := cs), hdrop]
    rw [List.append_assoc, List.singleton_append]
  unfold referenceBody at h
  dsimp only at h
  -- the four kinds of references differ in how they begin
  split at h
  all_goals
    split at h
    · next hdrop =>
      split_ifs at h
      obtain ⟨rfl, rfl⟩ := Prod.mk.inj (Option.some.inj h)
      simpa using hname hdrop
    · cases h

/-- How pieces are written. -/
def piecesChars (pieces : List Piece) : List Char := pieces.flatMap Piece.text

section Pieces

variable {cs rest : List Char} {found : List Piece}

/-- A piece that a mark begins keeps what is read behind the mark. -/
theorem keeps_marked {mark : Char} {body : Reader (List Char)} {piece : List Char → Piece}
    (hpiece : ∀ text, (piece text).text = mark :: text)
    (hbody : ∀ {cs text rest}, body cs = some (text, rest) → cs = text ++ rest)
    (h : (body cs).map (fun (text, rest) => ([piece text], rest)) = some (found, rest)) :
    mark :: cs = piecesChars found ++ rest := by
  obtain ⟨⟨text, left⟩, hread, heq⟩ := Option.map_eq_some_iff.1 h
  obtain ⟨rfl, rfl⟩ := Prod.mk.inj heq
  rw [hbody hread, piecesChars, List.flatMap_singleton, hpiece, List.cons_append]

/-- A character that stands for itself is kept. -/
theorem keeps_plain {c : Char} {p : Prop} [Decidable p]
    (h : (if p then none else some ([Piece.plain c], cs)) = some (found, rest)) :
    c :: cs = piecesChars found ++ rest := by
  split at h
  · cases h
  · obtain ⟨rfl, rfl⟩ := Prod.mk.inj (Option.some.inj h)
    rfl

end Pieces

/-- A piece of a string. -/
theorem keeps_stringPiece : Keeps [] piecesChars stringPiece := by
  intro cs found rest hread
  obtain ⟨p, rfl, hcs, -⟩ := stringPiece_eq_some_iff.1 hread
  rw [hcs, piecesChars, List.flatMap_singleton, List.nil_append]

/-- A piece of a template. -/
theorem keeps_templatePiece : Keeps [] piecesChars templatePiece := by
  intro cs found rest hread
  unfold templatePiece at hread
  split at hread
  · exact keeps_marked (fun _ => rfl) (fun hbody => (escapeBody_eq_some hbody).1) hread
  · cases hread
  · exact keeps_plain hread
  · cases hread

/-- A piece of the value of a property. -/
theorem keeps_attributePiece : Keeps [] piecesChars attributePiece := by
  intro cs found rest hread
  unfold attributePiece at hread
  split at hread
  · exact keeps_marked (fun _ => rfl) referenceBody_eq_some hread
  · cases hread
  · cases hread
  · exact keeps_plain hread
  · cases hread

/-- A piece of the text between tags. -/
theorem keeps_textPiece : Keeps [] piecesChars textPiece := by
  intro cs found rest hread
  unfold textPiece at hread
  split at hread
  · exact keeps_marked (fun _ => rfl) referenceBody_eq_some hread
  · exact keeps_plain hread
  · cases hread

/-- Pieces in a row keep what each of them keeps. -/
theorem keeps_pieces {piece : Reader (List Piece)} (h : Keeps [] piecesChars piece)
    (atEnd : List Char → Bool) : Keeps [] piecesChars (repeated atEnd piece) :=
  h.repeated rfl (fun _ _ => List.flatMap_append) atEnd

/-- Pieces between quotation marks keep the marks too. -/
theorem keeps_between (kind : Kind) (quote : Char) {piece : Reader (List Piece)}
    (h : Keeps [] piecesChars piece) : Keeps [] chars (between kind quote piece) := by
  refine .bind (keeps_mark _) fun opening => .bind (keeps_pieces h _) fun pieces => ?_
  refine .bind (keeps_mark _) fun closing => keeps_pure ?_
  simp [chars, charsOfAll, charsOfAll_append, chars_shapes, piecesChars]

/-! ## Expressions -/

section Expressions

variable {expression : Reader Shape} {part : Reader (List Shape)}

/-- An expression in parentheses, with the white space on both sides of it. -/
theorem keeps_parenthesized (h : Keeps [] chars expression) :
    Keeps [] chars (parenthesized expression) := by
  refine .bind (keeps_mark "(") fun opening => .bind keeps_blanks fun before => ?_
  refine .bind h fun first => .ite (fun _ => keeps_failure) fun _ =>
    .bind keeps_blanks fun gap => ?_
  extract_lets close
  have hclose : ∀ (inner : List Shape) {done : List Char},
      done = charsOfAll (opening :: before ++ inner) → Keeps done chars (close inner) := by
    rintro inner done rfl
    refine .bind (keeps_mark ")") fun closing => keeps_pure ?_
    simp [chars, charsOfAll, charsOfAll_append]
  refine .bind (keeps_firstOf? _) fun found => ?_
  split
  · refine hclose _ ?_
    simp [charsOfAll, charsOfAll_append]
  · refine .bind (keeps_mark "?") fun question => .bind keeps_blanks fun gap₁ => ?_
    refine .bind h fun consequence => .bind keeps_blanks fun gap₂ => ?_
    refine .bind (keeps_mark ":") fun colon => .bind keeps_blanks fun gap₃ => ?_
    refine .bind h fun alternative => .bind keeps_blanks fun gap₄ => hclose _ ?_
    simp [chars, charsOfAll, charsOfAll_append, chars_withRole]
  · refine .bind (keeps_mark _) fun operator => .bind keeps_blanks fun gap₁ => ?_
    refine .bind h fun second => .bind keeps_blanks fun gap₂ => hclose _ ?_
    simp [chars, charsOfAll, charsOfAll_append, chars_withRole]

/-- One more argument of a call, behind its comma. -/
theorem keeps_argument (h : Keeps [] chars expression) :
    Keeps [] charsOfAll (argument expression) := by
  refine .bind (keeps_mark ",") fun comma => .bind keeps_blanks fun before => ?_
  refine .bind h fun value => .bind keeps_blanks fun gap => keeps_pure ?_
  simp [charsOfAll, charsOfAll_append]

/-- The arguments of a call in their parentheses. -/
theorem keeps_argumentList (h : Keeps [] chars expression) :
    Keeps [] chars (argumentList expression) := by
  have harguments : Keeps [] charsOfAll (repeated (comesNext [')']) (argument expression)) :=
    (keeps_argument h).repeated rfl charsOfAll_append _
  refine .bind (keeps_mark "(") fun opening => .bind keeps_blanks fun before => ?_
  refine .bind (keeps_startsWith ")") fun none => ?_
  extract_lets close
  have hclose : ∀ values, Keeps (opening.chars ++ charsOfAll before ++ charsOfAll values) chars
      (close values) := by
    refine fun values => .bind (keeps_mark ")") fun closing => keeps_pure ?_
    simp [chars, charsOfAll, charsOfAll_append]
  refine .ite (fun _ => ?_) fun _ => ?_
  · exact hclose []
  · refine .bind h fun first => .bind keeps_blanks fun gap => .bind harguments fun others => ?_
    have hvalues := hclose (first :: gap ++ others)
    simpa [charsOfAll, charsOfAll_append] using hvalues

/-- An identifier, alone or called. -/
theorem keeps_identifierOrCall (h : Keeps [] chars expression) :
    Keeps [] chars (identifierOrCall expression) := by
  refine .bind keeps_identifier fun name => .bind (keeps_startsWith "(") fun call => ?_
  refine .ite (fun _ => .bind (keeps_argumentList h) fun arguments => ?_) fun _ => ?_
  · exact keeps_pure (by simp [chars, charsOfAll, chars_withRole])
  · exact keeps_pure (by simp)

/-- An expression in braces, with the white space on both sides of it. -/
theorem keeps_container (h : Keeps [] chars expression) :
    Keeps [] chars (container expression) := by
  refine .bind (keeps_mark _) fun opening => .bind keeps_blanks fun before =>
    .bind h fun value => ?_
  refine .bind keeps_blanks fun gap => .bind (keeps_mark _) fun closing => keeps_pure ?_
  simp [chars, charsOfAll, charsOfAll_append]

/-! ## Elements -/

/-- The value of a property, in quotation marks or in braces. -/
theorem keeps_attributeValue (h : Keeps [] chars expression) :
    Keeps [] chars (attributeValue expression) := by
  refine .bind (keeps_firstOf? _) fun found => ?_
  split
  · exact keeps_between _ _ keeps_attributePiece
  · exact keeps_between _ _ keeps_attributePiece
  · exact keeps_container h

/-- A property with its value, or without one. -/
theorem keeps_property (place : Place) (h : Keeps [] chars expression) :
    Keeps [] charsOfAll (property place expression) := by
  refine .bind keeps_someBlanks fun before => .bind (keeps_firstOf? _) fun found => ?_
  refine .ite (fun _ => keeps_pure (by simp)) fun _ => ?_
  refine .bind (keeps_qualifiedName _) fun name => .ite (fun _ => keeps_failure) fun _ => ?_
  refine .bind (keeps_startsWith "=") fun valued => ?_
  refine .ite (fun _ => ?_) fun _ => .ite (fun _ => keeps_failure) fun _ => keeps_pure ?_
  · refine .bind (keeps_mark "=") fun equals => .bind (keeps_attributeValue h) fun value => ?_
    exact keeps_pure (by simp [chars, charsOfAll, charsOfAll_append])
  · simp [chars, charsOfAll, charsOfAll_append]

/-- The end tag of an element or of a fragment. -/
theorem keeps_closingTag (named : Bool) : Keeps [] chars (closingTag named) := by
  refine .bind (keeps_mark "</") fun opening => ?_
  extract_lets close
  have hclose : ∀ name, Keeps (opening.chars ++ charsOfAll name) chars (close name) := by
    refine fun name => .bind (keeps_mark ">") fun closing => keeps_pure ?_
    simp [chars, charsOfAll, charsOfAll_append]
  have hname : Keeps [] charsOfAll (do return [← tagName .child]) :=
    .bind (keeps_tagName .child) fun name => keeps_pure (by simp [charsOfAll])
  have hnone : Keeps [] charsOfAll (pure []) := keeps_pure rfl
  exact .ite (fun _ => .bind hname hclose) fun _ => .bind hnone hclose

/-- What follows an opening tag keeps the tag, which is handed to it. -/
theorem keeps_content (hpart : Keeps [] charsOfAll part) (openingTag : List Shape) (named : Bool) :
    Keeps (charsOfAll openingTag) chars (content part openingTag named) := by
  have hinside := hpart.repeated rfl charsOfAll_append fun cs => ['<', '/'].isPrefixOf cs
  refine .bind hinside fun inside => .bind (keeps_closingTag named) fun closing => keeps_pure ?_
  simp [chars, charsOfAll, charsOfAll_append]

/-- An element, whether it closes itself or has content. -/
theorem keeps_element (place : Place) (h : Keeps [] chars expression)
    (hpart : Keeps [] charsOfAll part) : Keeps [] chars (element place expression part) := by
  have hattributes :=
    (keeps_property place h).repeated rfl charsOfAll_append (comesNext ['/', '>'])
  refine .bind (keeps_mark "<") fun opening => .bind (keeps_startsWith ">") fun bare => ?_
  refine .ite (fun _ => .bind (keeps_mark ">") fun closing => ?_) fun _ => ?_
  · have hcontent := keeps_content hpart [opening, closing] false
    simpa [charsOfAll] using hcontent
  · refine .bind (keeps_tagName place) fun name => .bind hattributes fun attributes => ?_
    refine .bind (keeps_startsWith ">") fun paired => .ite (fun _ => ?_) fun _ => ?_
    · refine .bind (keeps_mark ">") fun closing => ?_
      have hcontent := keeps_content hpart (opening :: name :: attributes ++ [closing]) true
      simpa [charsOfAll, charsOfAll_append] using hcontent
    · refine .bind (keeps_mark "/>") fun closing => keeps_pure ?_
      simp [chars, charsOfAll, charsOfAll_append]

end Expressions

section Depth

variable {inner : Place → Reader Shape}

/-- What may stand between tags: text, or one of the shapes that stand inside. -/
theorem keeps_child (h : ∀ place, Keeps [] chars (inner place)) :
    Keeps [] charsOfAll (child inner) := by
  refine .bind (keeps_firstOf? _) fun found => ?_
  split
  · exact .bind (h _) fun nested => keeps_pure (by simp [charsOfAll])
  · exact .bind (keeps_container (h _)) fun nested => keeps_pure (by simp [charsOfAll])
  · refine .bind (keeps_pieces keeps_textPiece _) fun pieces => keeps_pure ?_
    rw [charsOfAll_map_settleText, chars_shapes]
    rfl

/-- An expression keeps the text when those inside it do. -/
theorem keeps_expressionStep (h : ∀ place, Keeps [] chars (inner place)) (place : Place) :
    Keeps [] chars (expressionStep inner place) := by
  refine .bind (keeps_firstOf? _) fun found => ?_
  split
  · exact keeps_between _ _ keeps_stringPiece
  · exact keeps_between _ _ keeps_stringPiece
  · exact keeps_between _ _ keeps_templatePiece
  · exact keeps_parenthesized (h _)
  · exact keeps_element place (h _) (keeps_child h)
  · exact keeps_identifierOrCall (h _)

end Depth

/-- Expressions keep the text at every depth, since those inside do. -/
theorem keeps_expression (depth : Nat) (place : Place) :
    Keeps [] chars (expression depth place) := by
  induction depth generalizing place with
  | zero => exact keeps_failure
  | succ depth ih => exact keeps_expressionStep ih place

/-! ## Words out of place -/

/-- Braces around words that make no expression. -/
theorem keeps_strayContainer : Keeps [] chars strayContainer := by
  refine .bind (keeps_mark _) fun opening => .bind keeps_blanks fun before => ?_
  refine .bind (keeps_run isNamePart) fun text => .ite (fun _ => keeps_failure) fun _ => ?_
  refine .bind keeps_blanks fun gap => .bind (keeps_mark _) fun closing => keeps_pure ?_
  simp [chars, charsOfAll, charsOfAll_append]

/-- Elements with words out of place keep the text at every depth, since those inside do. -/
theorem keeps_strayElement (depth : Nat) (place : Place) :
    Keeps [] chars (strayElement depth place) := by
  induction depth generalizing place with
  | zero => exact keeps_failure
  | succ depth ih =>
    have halone : ∀ {r : Reader Shape}, Keeps [] chars r → Keeps [] charsOfAll (do return [← r]) :=
      fun hr => .bind hr fun s => keeps_pure (by simp [charsOfAll])
    exact keeps_element place (keeps_expression depth _) (.orElse
      (keeps_child (keeps_expression depth)) (.orElse (halone keeps_strayContainer)
        (halone (ih _))))

/-- One of the things that may be out of place. -/
theorem keeps_oneStray (depth : Nat) : Keeps [] chars (oneStray depth) :=
  .bind (keeps_strayElement depth _) fun s =>
    .ite (fun _ => keeps_failure) fun _ => keeps_pure (by simp)

/-! ## Modules -/

/-- A declaration, up to the semicolon behind it. -/
theorem keeps_declaration (depth : Nat) : Keeps [] chars (declaration depth) := by
  refine .bind (keeps_mark "const") fun keyword => .bind keeps_someBlanks fun gap₁ => ?_
  refine .bind keeps_constantName fun name => .bind keeps_blanks fun gap₂ => ?_
  refine .bind (keeps_mark "=") fun equals => .bind keeps_blanks fun gap₃ => ?_
  refine .bind ((keeps_expression depth _).orElse (keeps_oneStray depth)) fun value => ?_
  refine .bind keeps_blanks fun gap₄ => .bind (keeps_mark ";") fun semicolon => ?_
  refine .bind keeps_blanks fun after => keeps_pure ?_
  simp [chars, charsOfAll, charsOfAll_append, chars_withRole]

/-- The shape of a module has the source for its text. -/
theorem chars_of_shape? {source : List Char} {s : Shape} (h : shape? source = some s) :
    s.chars = source := by
  unfold shape? at h
  split at h
  · next shape hread =>
    obtain rfl := Option.some.inj h
    have hsource := keeps_declaration _ source shape [] hread
    rw [List.append_nil] at hsource
    exact hsource.symm
  · cases h

end IconSubset.Tsx.Constant
