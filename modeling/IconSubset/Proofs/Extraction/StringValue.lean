import IconSubset.Proofs.Printing.Declaration
import IconSubset.Proofs.Tsx.StringReading
import Mathlib.Algebra.Order.BigOperators.Group.List

/-!
# The values of string literals

What the text between the quotes of a literal stands for is fixed by the standard of the language:
`Denotes` says what stands behind a backslash and what it gives, `StringValue` what a text gives.
There is one value at most (`StringValue.unique`).

The decoding of a literal agrees with it but for a few escapes (`misread`): the backspace, the
vertical tab and the form feed, which come out as letters, and backslashes before a carriage return
on its own and before the line and paragraph separators, which keep the line end.
`literals_quoted_iff` shows that these are all: a literal without octal escapes and without escapes
that number no character stands for its value exactly when it has none of them.
-/

namespace IconSubset.Extraction

open Printing (constantText constantShape)
open Syntax (escapedText)
open Text (HexDigit hexadecimal)
open Tsx Tsx.Constant

/-! ## The standard -/

/-- The characters that give another one behind a backslash, or nothing, which the ends of lines
do. -/
def singleEscapes : List (Char × List Char) :=
  [ ('b', ['\x08']), ('t', ['\t']), ('n', ['\n']), ('v', ['\x0b']), ('f', ['\x0c']),
    ('r', ['\r']), ('0', ['\x00']), ('\n', []), ('\r', []), ('\u2028', []), ('\u2029', []) ]

/-- What a single character behind a backslash gives: itself, unless it has a meaning there. -/
def singleValue (c : Char) : List Char := (singleEscapes.lookup c).getD [c]

/-- What a text gives where a backslash stands in front of it, up to what comes next. -/
inductive Denotes : List Char → List Char → List Char → Prop
  /-- The number of a character in two digits. -/
  | two {c : Char} (d₁ d₂ : HexDigit) (h : hexadecimal [d₁, d₂] = c.toNat) (next : List Char) :
      Denotes ('x' :: ([d₁, d₂].map HexDigit.char ++ next)) [c] next
  /-- The number of a character in four digits. -/
  | four {c : Char} (d₁ d₂ d₃ d₄ : HexDigit) (h : hexadecimal [d₁, d₂, d₃, d₄] = c.toNat)
      (next : List Char) :
      Denotes ('u' :: ([d₁, d₂, d₃, d₄].map HexDigit.char ++ next)) [c] next
  /-- The number of a character in braces. -/
  | braced {c : Char} {digits : List HexDigit} (hne : digits ≠ [])
      (h : hexadecimal digits = c.toNat) (next : List Char) :
      Denotes ('u' :: '{' :: (digits.map HexDigit.char ++ '}' :: next)) [c] next
  /-- A carriage return and a line feed, which are one end of a line. -/
  | returnFeed (next : List Char) : Denotes ('\r' :: '\n' :: next) [] next
  /-- A single character. Of the octal digits only a zero may stand there, and none behind it. -/
  | single {c : Char} {next : List Char} (hx : c ≠ 'x') (hu : c ≠ 'u')
      (hoctal : isOctalDigit c = true → c = '0' ∧ ∀ d ∈ next.head?, isOctalDigit d = false)
      (hreturn : c = '\r' → next.head? ≠ some '\n') : Denotes (c :: next) (singleValue c) next

/-- What a text between quotes gives. -/
inductive StringValue : List Char → List Char → Prop
  /-- Nothing gives nothing. -/
  | nil : StringValue [] []
  /-- A character that is no backslash stands for itself. -/
  | plain {c : Char} {text value : List Char} (hc : c ≠ '\\') (h : StringValue text value) :
      StringValue (c :: text) (c :: value)
  /-- A backslash and what stands behind it. -/
  | escape {text next given value : List Char} (hdenotes : Denotes text given next)
      (h : StringValue next value) : StringValue ('\\' :: text) (given ++ value)

/-- The digits in front of a closing brace are where it stands first. -/
theorem digits_of_brace_eq {digits digits' : List HexDigit} {next next' : List Char}
    (h : digits.map HexDigit.char ++ '}' :: next = digits'.map HexDigit.char ++ '}' :: next') :
    digits.map HexDigit.char = digits'.map HexDigit.char ∧ next = next' := by
  induction digits generalizing digits' with
  | nil =>
    cases digits' with
    | nil => simpa using h
    | cons d' digits' => exact absurd (List.cons.inj h).1.symm (Printing.char_ne_brace d').2
  | cons d digits ih =>
    cases digits' with
    | nil => exact absurd (List.cons.inj h).1 (Printing.char_ne_brace d).2
    | cons d' digits' =>
      obtain ⟨hd, hrest⟩ := List.cons.inj h
      obtain ⟨hdigits, rfl⟩ := ih hrest
      exact ⟨by rw [List.map_cons, List.map_cons, hd, hdigits], rfl⟩

/-- Digits that are written alike number the same character. -/
theorem character_of_digits_eq {digits digits' : List HexDigit} {c c' : Char} (hne : digits ≠ [])
    (h : hexadecimal digits = c.toNat) (h' : hexadecimal digits' = c'.toNat)
    (heq : digits.map HexDigit.char = digits'.map HexDigit.char) : c = c' := by
  have hne' : digits' ≠ [] := by
    rintro rfl
    exact hne (List.map_eq_nil_iff.1 heq)
  have hc := Printing.hexCharacter?_map hne h
  rw [heq, Printing.hexCharacter?_map hne' h'] at hc
  exact (Option.some.inj hc).symm

/-- A text gives one thing where a backslash stands in front of it. -/
theorem Denotes.unique {text value next value' next' : List Char}
    (h : Denotes text value next) (h' : Denotes text value' next') :
    value = value' ∧ next = next' := by
  generalize htext : text = text' at h'
  -- The rules differ in the first character, or in whether a brace or a line feed stands behind it.
  cases h with
  | two d₁ d₂ h =>
    cases h' with
    | two e₁ e₂ h' =>
      obtain ⟨hdigits, rfl⟩ := List.append_inj (List.cons.inj htext).2 rfl
      exact ⟨by rw [character_of_digits_eq (List.cons_ne_nil _ _) h h' hdigits], rfl⟩
    | single hx => exact absurd (List.cons.inj htext).1.symm hx
    | _ => cases htext
  | four d₁ d₂ d₃ d₄ h =>
    cases h' with
    | four e₁ e₂ e₃ e₄ h' =>
      obtain ⟨hdigits, rfl⟩ := List.append_inj (List.cons.inj htext).2 rfl
      exact ⟨by rw [character_of_digits_eq (List.cons_ne_nil _ _) h h' hdigits], rfl⟩
    | braced =>
      have hbrace : d₁.char = '{' := (List.cons.inj (List.cons.inj htext).2).1
      exact absurd hbrace (Printing.char_ne_brace d₁).1
    | single hx hu => exact absurd (List.cons.inj htext).1.symm hu
    | _ => cases htext
  | braced hne h =>
    cases h' with
    | four e₁ =>
      have hbrace : '{' = e₁.char := (List.cons.inj (List.cons.inj htext).2).1
      exact absurd hbrace.symm (Printing.char_ne_brace e₁).1
    | braced hne' h' =>
      obtain ⟨hdigits, rfl⟩ := digits_of_brace_eq (List.cons.inj (List.cons.inj htext).2).2
      exact ⟨by rw [character_of_digits_eq hne h h' hdigits], rfl⟩
    | single hx hu => exact absurd (List.cons.inj htext).1.symm hu
    | _ => cases htext
  | returnFeed =>
    cases h' with
    | returnFeed => exact ⟨rfl, (List.cons.inj (List.cons.inj htext).2).2⟩
    | single hx hu hoctal hreturn =>
      obtain ⟨rfl, rfl⟩ := List.cons.inj htext
      exact absurd rfl (hreturn rfl)
    | _ => cases htext
  | single hx hu hoctal hreturn =>
    cases h' with
    | two => exact absurd (List.cons.inj htext).1 hx
    | four => exact absurd (List.cons.inj htext).1 hu
    | braced => exact absurd (List.cons.inj htext).1 hu
    | returnFeed =>
      obtain ⟨rfl, rfl⟩ := List.cons.inj htext
      exact absurd rfl (hreturn rfl)
    | single =>
      obtain ⟨rfl, rfl⟩ := List.cons.inj htext
      exact ⟨rfl, rfl⟩

/-- A text between quotes has one value at most. -/
theorem StringValue.unique {text value other : List Char} (h : StringValue text value)
    (h' : StringValue text other) : value = other := by
  induction h generalizing other with
  | nil => cases h'; rfl
  | plain hc _ ih =>
    cases h' with
    | plain _ h' => rw [ih h']
    | escape => exact absurd rfl hc
  | escape hdenotes _ ih =>
    cases h' with
    | plain hc => exact absurd rfl hc
    | escape hdenotes' h' =>
      obtain ⟨rfl, rfl⟩ := hdenotes.unique hdenotes'
      rw [ih h']

/-! ## What is misread -/

/-- An octal escape other than that of the null character. -/
def IsOctalEscape (body : List Char) : Prop :=
  body ≠ ['0'] ∧ ∃ c rest, body = c :: rest ∧ isOctalDigit c = true

/-- An escape by a number that no character has: that of a surrogate, or one that is too large. -/
def NumbersNoCharacter (body : List Char) : Prop :=
  ∃ digits : List HexDigit, (body = 'u' :: digits.map HexDigit.char ∨
      body = 'u' :: '{' :: (digits.map HexDigit.char ++ ['}'])) ∧
    (0xd800 ≤ hexadecimal digits ∧ hexadecimal digits ≤ 0xdfff ∨ 0x10ffff < hexadecimal digits)

/-- The escapes that are not read as the standard says, with what they give by it. Where a carriage
return and another end of a line follow each other, the second one stands for itself. -/
def misread : List (List Char × List Char) :=
  [ (['b'], ['\x08']), (['v'], ['\x0b']), (['f'], ['\x0c']), (['\r'], []), (['\u2028'], []),
    (['\u2029'], []), (['\r', '\u2028'], ['\u2028']), (['\r', '\u2029'], ['\u2029']) ]

/-- What an escape gives by the standard. -/
def standardText (body : List Char) : List Char := (misread.lookup body).getD (escapedText body)

/-- What a piece of a string gives by the standard. -/
def standardPiece : Piece → List Char
  | .plain c => [c]
  | .escape body => standardText body
  | .reference body => (Piece.reference body).decoded

/-- What stands behind the backslash, for the shape of an escape. -/
def escapeOf? : Shape → Option (List Char)
  | .token .escapeSequence _ text => some (Syntax.afterBackslash text)
  | _ => none

/-- The escapes of a string, without their backslashes. -/
def escapesOf : Shape → List (List Char)
  | .branch _ _ parts => parts.filterMap escapeOf?
  | _ => []

/-- Misread escapes give something else than by the standard, and no less. -/
theorem misread_spec {body value : List Char} (h : (body, value) ∈ misread) :
    escapedText body ≠ value ∧ value.length ≤ (escapedText body).length := by
  have hall : misread.all (fun e => escapedText e.1 ≠ e.2 ∧
      e.2.length ≤ (escapedText e.1).length) = true := by
    decide
  exact of_decide_eq_true (List.all_eq_true.1 hall _ h)

/-- Nothing is found in a table for what is none of its keys. -/
theorem lookup_eq_none_iff {α β : Type} [BEq α] [LawfulBEq α] {table : List (α × β)} {key : α} :
    table.lookup key = none ↔ key ∉ table.map Prod.fst := by
  rw [List.lookup_eq_none_iff]
  constructor
  · intro h hmem
    obtain ⟨e, he, rfl⟩ := List.mem_map.1 hmem
    exact absurd (h e he) (by simp)
  · rintro h e he
    simpa using fun heq => h (List.mem_map.2 ⟨e, he, heq.symm⟩)

/-- An escape is read as the standard says exactly when it is none of those that are misread; by the
standard it never gives more. -/
theorem standardText_spec (body : List Char) :
    (escapedText body = standardText body ↔ body ∉ misread.map Prod.fst) ∧
      (standardText body).length ≤ (escapedText body).length := by
  unfold standardText
  cases hlookup : misread.lookup body with
  | none => exact ⟨iff_of_true rfl (lookup_eq_none_iff.1 hlookup), le_rfl⟩
  | some value =>
    have hmem : (body, value) ∈ misread := by
      obtain ⟨before, after, hsplit, -⟩ := List.lookup_eq_some_iff.1 hlookup
      rw [hsplit]
      exact List.mem_append_right _ List.mem_cons_self
    obtain ⟨hne, hlength⟩ := misread_spec hmem
    exact ⟨iff_of_false hne (not_not_intro (List.mem_map_of_mem hmem)), hlength⟩

/-- Texts that are put together of parts, none longer on the one side, are the same only when the
parts are. -/
theorem flatMap_eq_iff {α β : Type} {f g : α → List β} {items : List α}
    (h : ∀ i ∈ items, (g i).length ≤ (f i).length) :
    items.flatMap f = items.flatMap g ↔ ∀ i ∈ items, f i = g i := by
  induction items with
  | nil => simp
  | cons i items ih =>
    have hrest := ih fun j hj => h j (List.mem_cons_of_mem i hj)
    have hshorter : (items.flatMap g).length ≤ (items.flatMap f).length := by
      rw [List.length_flatMap, List.length_flatMap]
      exact List.sum_le_sum fun j hj => h j (List.mem_cons_of_mem i hj)
    have hfirst : (g i).length ≤ (f i).length := h i List.mem_cons_self
    rw [List.flatMap_cons, List.flatMap_cons, List.forall_mem_cons, ← hrest]
    constructor
    · intro heq
      have hlength := congrArg List.length heq
      rw [List.length_append, List.length_append] at hlength
      exact List.append_inj heq (by omega)
    · rintro ⟨hhead, htail⟩
      rw [hhead, htail]

/-! ## Pieces -/

/-- The escapes of a string of pieces are those among the pieces. -/
theorem mem_escapesOf {quote : Char} {pieces : List Piece} {body : List Char} :
    body ∈ escapesOf (quotedShape quote pieces) ↔ .escape body ∈ pieces := by
  have hshapes : body ∈ (Piece.shapes .stringFragment pieces).filterMap escapeOf? ↔
      .escape body ∈ pieces := by
    induction pieces with
    | nil => simp [Piece.shapes]
    | cons p rest ih =>
      cases p with
      | plain c =>
        -- The character is joined to the token behind it, or is a token of its own.
        obtain ⟨role, text, more, hshapes, hjoined⟩ | hown :=
          Piece.shapes_plain_cons .stringFragment c rest
        · rw [hshapes] at ih
          rw [hjoined]
          simpa [escapeOf?] using ih
        · rw [hown]
          simpa [escapeOf?] using ih
      | escape other => simp [Piece.shapes, escapeOf?, Syntax.afterBackslash, ih]
      | reference other => simpa [Piece.shapes, escapeOf?] using ih
  rw [← hshapes]
  simp [escapesOf, quotedShape, markShape, escapeOf?]

/-- Where no longer escape begins, a single character gives what it gives by the standard. -/
theorem standardText_single {c : Char} (hx : c ≠ 'x') (hu : c ≠ 'u') :
    standardText [c] = singleValue c := by
  by_cases hc : c ∈ singleEscapes.map Prod.fst
  · have hall : ((singleEscapes.map Prod.fst).all fun c =>
        standardText [c] = singleValue c) = true := by
      decide
    exact of_decide_eq_true (List.all_eq_true.1 hall c hc)
  · have hvalue : singleValue c = [c] := by
      rw [singleValue, lookup_eq_none_iff.2 hc]
      rfl
    have hright : [c] ∉ misread.map Prod.fst := by
      intro hmem
      simp only [misread, List.map_cons, List.map_nil, List.mem_cons, List.cons.injEq, and_true,
        List.not_mem_nil, or_false, List.nil_eq, reduceCtorEq, and_false] at hmem
      exact hc (by rcases hmem with rfl | rfl | rfl | rfl | rfl | rfl <;> decide)
    have hstandard : standardText [c] = escapedText [c] := ((standardText_spec [c]).1.2 hright).symm
    have htext : escapedText [c] = [c] := by
      have hnumber : Syntax.numericEscape? [c] = none := by
        simp [Syntax.numericEscape?, hx, hu]
      unfold escapedText
      split
      case h_7 => rw [hnumber]
      all_goals
        next heq =>
          obtain ⟨rfl, -⟩ := List.cons.inj heq
          exact absurd (by decide) hc
    rw [hvalue, hstandard, htext]

/-- An escape by number gives the character that is numbered, by the standard as well. -/
theorem standardText_number {first : Char} {rest : List Char} {c : Char}
    (hfirst : first = 'x' ∨ first = 'u')
    (h : Syntax.numericEscape? (first :: rest) = some c) : standardText (first :: rest) = [c] := by
  have hlookup : misread.lookup (first :: rest) = none := by
    rcases hfirst with rfl | rfl <;> rfl
  rw [standardText, hlookup]
  exact Printing.escapedText_number hfirst h

/-- A number that is no surrogate and not too large is that of a character. -/
theorem exists_toNat_eq {n : Nat} (h : ¬(0xd800 ≤ n ∧ n ≤ 0xdfff ∨ 0x10ffff < n)) :
    ∃ c : Char, n = c.toNat := by
  have hvalid : n.isValidChar := by
    unfold Nat.isValidChar
    omega
  refine ⟨Char.ofNat n, ?_⟩
  rw [Char.ofNat, dif_pos hvalid]
  rfl

/-- Two hexadecimal digits number a character. -/
theorem hexadecimal_two_le (d₁ d₂ : HexDigit) : hexadecimal [d₁, d₂] ≤ 0xff := by
  have h₁ := d₁.value.isLt
  have h₂ := d₂.value.isLt
  simp only [hexadecimal, List.map_cons, List.map_nil, Text.numeral_cons, List.length_cons,
    List.length_nil]
  simp only [Text.numeral, List.reverse_nil, Nat.ofDigits_nil]
  omega

section Escape

variable {body next more value : List Char}

/-- An escape in front of a text that has a value gives with it what it gives by the standard. -/
theorem StringValue.of_isEscape (h : IsEscape next body)
    (hnext : ∀ d ∈ more.head?, d ∈ next.head?) (hoctal : ¬IsOctalEscape body)
    (hnumber : ¬NumbersNoCharacter body) (hmore : StringValue more value) :
    StringValue ('\\' :: (body ++ more)) (standardText body ++ value) := by
  have hchar : ∀ digits : List HexDigit, (body = 'u' :: digits.map HexDigit.char ∨
      body = 'u' :: '{' :: (digits.map HexDigit.char ++ ['}'])) →
        ∃ c : Char, hexadecimal digits = c.toNat := fun digits hbody =>
    exists_toNat_eq fun hnone => hnumber ⟨digits, hbody, hnone⟩
  cases h with
  | two d₁ d₂ =>
    obtain ⟨c, hc⟩ := exists_toNat_eq (n := hexadecimal [d₁, d₂]) <| by
      have hle := hexadecimal_two_le d₁ d₂
      omega
    have hread : Syntax.numericEscape? ('x' :: [d₁, d₂].map HexDigit.char) = some c :=
      Printing.hexCharacter?_map (List.cons_ne_nil _ _) hc
    have hstandard : standardText ['x', d₁.char, d₂.char] = [c] :=
      standardText_number (.inl rfl) hread
    rw [hstandard]
    exact .escape (.two d₁ d₂ hc more) hmore
  | four d₁ d₂ d₃ d₄ =>
    obtain ⟨c, hc⟩ := hchar [d₁, d₂, d₃, d₄] (.inl rfl)
    have hread : Syntax.numericEscape? ('u' :: [d₁, d₂, d₃, d₄].map HexDigit.char) = some c :=
      (Printing.numericEscape?_bare (List.cons_ne_nil _ _)).trans
        (Printing.hexCharacter?_map (List.cons_ne_nil _ _) hc)
    have hstandard : standardText ['u', d₁.char, d₂.char, d₃.char, d₄.char] = [c] :=
      standardText_number (.inr rfl) hread
    rw [hstandard]
    exact .escape (.four d₁ d₂ d₃ d₄ hc more) hmore
  | braced digits hne =>
    obtain ⟨c, hc⟩ := hchar digits (.inr rfl)
    have hread := (Printing.numericEscape?_braced hne).trans (Printing.hexCharacter?_map hne hc)
    have htext : 'u' :: '{' :: (digits.map HexDigit.char ++ ['}']) ++ more =
        'u' :: '{' :: (digits.map HexDigit.char ++ '}' :: more) := by
      simp
    rw [standardText_number (.inr rfl) hread, htext]
    exact .escape (.braced hne hc more) hmore
  | octal c digits hall hlength hend =>
    have hzero : c :: digits = ['0'] := by
      by_contra hne
      exact hoctal ⟨hne, c, digits, rfl, hall c List.mem_cons_self⟩
    obtain ⟨rfl, rfl⟩ := List.cons.inj hzero
    have hnone : ∀ d ∈ more.head?, isOctalDigit d = false :=
      fun d hd => hend (by decide) d (hnext d hd)
    exact .escape
      (.single (by decide) (by decide) (fun _ => ⟨rfl, hnone⟩) fun h => absurd h (by decide))
      hmore
  | single c hu hx hc hnull hend =>
    rw [standardText_single hx hu]
    refine .escape (.single hx hu (fun h => ?_) fun hreturn hfeed => ?_) hmore
    · exact absurd h (by simp [hc])
    · exact absurd (hend (.inl hreturn) '\n' (hnext '\n' hfeed)) (by decide)
  | beforeLineEnd c d hc hd =>
    have hend : d = '\n' ∨ d = '\u2028' ∨ d = '\u2029' := by
      simpa [isLineEnd, or_assoc] using hd
    have hplain : d ≠ '\\' := by rcases hend with rfl | rfl | rfl <;> decide
    have hrest : StringValue (d :: more) (d :: value) := .plain hplain hmore
    have halone : (['\r', '?'].all fun c =>
        c ≠ 'x' ∧ c ≠ 'u' ∧ isOctalDigit c = false) = true := by
      decide
    obtain ⟨hx, hu, hc'⟩ := of_decide_eq_true (List.all_eq_true.1 halone c (by simpa using hc))
    -- Unless the two are one end of a line, the second character stands for itself.
    have hfirst : (c = '\r' → d ≠ '\n') →
        StringValue ('\\' :: c :: d :: more) (singleValue c ++ d :: value) := fun hne =>
      .escape
        (.single hx hu (fun h => absurd h (by simp [hc'])) fun h => by simpa using hne h) hrest
    rcases hc with rfl | rfl
    · rcases hend with rfl | rfl | rfl
      · exact .escape (.returnFeed more) hmore
      · exact hfirst (by decide)
      · exact hfirst (by decide)
    · have hstandard : standardText ['?', d] = ['?', d] := by
        rcases hend with rfl | rfl | rfl <;> decide
      rw [hstandard]
      exact hfirst fun h => absurd h (by decide)

end Escape

/-- A string of pieces, without octal escapes and escapes that number no character, has the value
that its pieces have by the standard. -/
theorem stringValue_pieces {quote : Char} {next : List Char} {pieces : List Piece}
    (h : IsString quote next pieces)
    (hescapes : ∀ body, .escape body ∈ pieces → ¬IsOctalEscape body ∧ ¬NumbersNoCharacter body) :
    StringValue (pieces.flatMap Piece.text) (pieces.flatMap standardPiece) := by
  induction h with
  | nil => exact .nil
  | @cons p rest _ hp _ ih =>
    have hrest := ih fun body hbody => hescapes body (List.mem_cons_of_mem p hbody)
    cases hp with
    | plain c hbackslash => exact .plain hbackslash hrest
    | escape body hescape =>
      obtain ⟨hoctal, hnumber⟩ := hescapes body List.mem_cons_self
      have hnext : ∀ d ∈ (rest.flatMap Piece.text).head?,
          d ∈ (rest.flatMap Piece.text ++ quote :: next).head? := by
        intro d hd
        rw [List.head?_append, Option.mem_def.1 hd]
        rfl
      exact StringValue.of_isEscape hescape hnext hoctal hnumber hrest

/-- The pieces of a string stand for what they give by the standard exactly when no escape among
them is misread. -/
theorem flatMap_decoded_eq_iff {pieces : List Piece} :
    pieces.flatMap Piece.decoded = pieces.flatMap standardPiece ↔
      ∀ body, .escape body ∈ pieces → body ∉ misread.map Prod.fst := by
  rw [flatMap_eq_iff]
  · constructor
    · intro hall body hbody
      exact (standardText_spec body).1.1 (hall _ hbody)
    · rintro hall (c | body | body) hp
      · rfl
      · exact (standardText_spec body).1.2 (hall body hp)
      · rfl
  · rintro (c | body | body) _
    · exact le_rfl
    · exact (standardText_spec body).2
    · exact le_rfl

/-! ## Literals -/

/-- The only literal of a string is what its pieces stand for. -/
theorem literals_quotedShape (quote : Char) (pieces : List Piece) (start : Syntax.Position) :
    literals ((quotedShape quote pieces).node start) =
      [String.ofList (pieces.flatMap Piece.decoded)] := by
  rw [literals_string rfl, ← stringText_pieces (String.singleton quote) pieces start]
  rfl

/-- A constant can be set to a string, and its only literal is what the pieces of the string stand
for. -/
theorem exists_initializer {quote : Char} {next : List Char} {pieces : List Piece}
    (hquote : quote = '"' ∨ quote = '\'') (h : IsString quote next pieces) :
    ∃ tree node, Tsx.parse (String.ofList (constantText (quotedText quote pieces))) = .ok tree ∧
      Syntax.initializer? tree = some node ∧
      literals node = [String.ofList (pieces.flatMap Piece.decoded)] := by
  have hdark : Dark (quotedText quote pieces) := by
    rcases hquote with rfl | rfl <;> exact dark_cons rfl
  have hdepth : ∀ depth, (quotedText quote pieces).length ≤ depth → depth ≠ 0 := by
    rintro depth hlength rfl
    simp [quotedText] at hlength
  have hparse := Printing.parse_constantText hdark
    (fun depth hlength next => h.reads_expression hquote (hdepth depth hlength) (';' :: next))
    allKinds_quotedShape
  have hblanks : (quotedShape quote pieces).isBlanks = false := rfl
  obtain ⟨start, hnode⟩ := Printing.initializer?_constantShape hblanks
  refine ⟨_, _, hparse, hnode, ?_⟩
  rw [literals_withRole, literals_quotedShape]

/-- A quoted string that the grammar accepts, without octal escapes other than that of the null
character and without escapes that number no character, has exactly one value by the standard. A
constant can be set to it, and the only literal of the constant is that value exactly when no escape
of the string is one of those that are misread. -/
theorem literals_quoted_iff {quote : Char} (hquote : quote = '"' ∨ quote = '\'')
    {literal : List Char} {shape : Shape}
    (hread : between .string quote stringPiece literal = some (shape, []))
    (hescapes : ∀ body ∈ escapesOf shape, ¬IsOctalEscape body ∧ ¬NumbersNoCharacter body) :
    ∃ text value tree node, literal = [quote] ++ (text ++ [quote]) ∧ StringValue text value ∧
      (∀ other, StringValue text other → other = value) ∧
      Tsx.parse (String.ofList (constantText literal)) = .ok tree ∧
      Syntax.initializer? tree = some node ∧
      (literals node = [String.ofList value] ↔
        ∀ body ∈ escapesOf shape, body ∉ misread.map Prod.fst) := by
  obtain ⟨pieces, htext, rfl, hstring⟩ := between_eq_some hread
  rw [List.append_nil] at htext
  subst htext
  simp only [mem_escapesOf] at hescapes ⊢
  have hvalue : StringValue (pieces.flatMap Piece.text) (pieces.flatMap standardPiece) :=
    stringValue_pieces hstring hescapes
  obtain ⟨tree, node, hparse, hnode, hliterals⟩ := exists_initializer hquote hstring
  refine ⟨_, _, tree, node, rfl, hvalue, fun other hother => hother.unique hvalue, hparse,
    hnode, ?_⟩
  rw [hliterals, List.singleton_inj, String.ofList_inj]
  exact flatMap_decoded_eq_iff

/-- A string with an escape by number stands for its value. -/
theorem literals_quoted_iff_number :
    between .string '\'' stringPiece "'\\x41'".toList =
      some (quotedShape '\'' [.escape ['x', '4', '1']], []) ∧
    ∃ value tree node, StringValue "\\x41".toList value ∧
      Tsx.parse "const x = '\\x41';" = .ok tree ∧
      Syntax.initializer? tree = some node ∧ literals node = [String.ofList value] := by
  have hstring : IsString '\'' [] [.escape ['x', '4', '1']] :=
    .cons (by decide) (.escape _ (.two ⟨4, false⟩ ⟨1, false⟩)) .nil
  have hread : between .string '\'' stringPiece "'\\x41'".toList =
      some (quotedShape '\'' [.escape ['x', '4', '1']], []) := hstring.reads []
  have hescapes : escapesOf (quotedShape '\'' [.escape ['x', '4', '1']]) = [['x', '4', '1']] := rfl
  have hallowed : ∀ body ∈ escapesOf (quotedShape '\'' [.escape ['x', '4', '1']]),
      ¬IsOctalEscape body ∧ ¬NumbersNoCharacter body := by
    rw [hescapes]
    simp only [List.forall_mem_singleton]
    constructor
    · rintro ⟨-, c, rest, hbody, hc⟩
      obtain ⟨rfl, -⟩ := List.cons.inj hbody
      exact absurd hc (by decide)
    · rintro ⟨digits, hbody | hbody, -⟩
      · exact absurd (List.cons.inj hbody).1 (by decide)
      · exact absurd (List.cons.inj hbody).1 (by decide)
  obtain ⟨text, value, tree, node, htext, hvalue, -, hparse, hnode, hiff⟩ :=
    literals_quoted_iff (.inr rfl) hread hallowed
  have hinside : "\\x41".toList = text := List.append_cancel_right (List.cons.inj htext).2
  have hsource : String.ofList (constantText "'\\x41'".toList) = "const x = '\\x41';" := by decide
  rw [← hinside] at hvalue
  rw [hsource] at hparse
  exact ⟨hread, value, tree, node, hvalue, hparse, hnode, hiff.2 (by rw [hescapes]; decide)⟩

/-- A backspace comes out as a letter, and a line separator behind a backslash is kept. -/
theorem literals_misread :
    (between .string '\'' stringPiece "'a\\b\\\u2028c'".toList).isSome ∧
    StringValue "a\\b\\\u2028c".toList ['a', '\x08', 'c'] ∧
    ∃ tree node, Tsx.parse "const x = 'a\\b\\\u2028c';" = .ok tree ∧
      Syntax.initializer? tree = some node ∧ literals node = ["ab\u2028c"] ∧
      literals node ≠ [String.ofList ['a', '\x08', 'c']] := by
  have hline : StringValue ['\\', '\u2028', 'c'] ['c'] :=
    .escape (.single (by decide) (by decide) (by decide) (by decide)) (.plain (by decide) .nil)
  have hbackspace : StringValue ['\\', 'b', '\\', '\u2028', 'c'] ['\x08', 'c'] :=
    .escape (.single (by decide) (by decide) (by decide) (by decide)) hline
  have hstring : IsString '\'' [] [.plain 'a', .escape ['b'], .escape ['\u2028'], .plain 'c'] :=
    .cons (by decide) (.plain 'a' (by decide) (by decide))
      (.cons (by decide) (.escape _
        (.single 'b' (by decide) (by decide) rfl (by decide) (by decide)))
        (.cons (by decide)
          (.escape _ (.single '\u2028' (by decide) (by decide) rfl (by decide) (by decide)))
          (.cons (by decide) (.plain 'c' (by decide) (by decide)) .nil)))
  obtain ⟨tree, node, hparse, hnode, hliterals⟩ := exists_initializer (.inr rfl) hstring
  have hsource : String.ofList (constantText (quotedText '\''
      [.plain 'a', .escape ['b'], .escape ['\u2028'], .plain 'c'])) =
        "const x = 'a\\b\\\u2028c';" := by decide
  have hkept : literals node = ["ab\u2028c"] := hliterals
  rw [hsource] at hparse
  exact ⟨by decide +kernel, .plain (by decide) hbackspace, tree, node, hparse, hnode, hkept,
    by rw [hkept]; decide⟩

end IconSubset.Extraction
