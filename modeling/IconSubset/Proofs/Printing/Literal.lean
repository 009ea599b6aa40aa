import IconSubset.Proofs.IconSet.Membership
import IconSubset.Proofs.Printing.Declaration
import IconSubset.Proofs.Text.Digits
import IconSubset.Proofs.Tsx.Pieces

/-!
# Spellings of string literals

A text can be spelled in many ways between quotes: each of its characters as itself or by an escape,
with line ends behind backslashes anywhere (`Spelling`). Whatever the spelling, a constant that is
set to the literal has a value, and its only literal is the text (`literals_spelled`).

Each spelling is one piece for the reader of the literal, which takes it whatever follows
(`Spelling.reads`), and the piece stands for what is spelled (`Spelling.decoded_piece`).
-/

namespace IconSubset.Printing

open Extraction
open Syntax (Kind)
open Text (HexDigit hexadecimal)
open Tsx Tsx.Constant Tsx.Shape

/-- Whether a character is a control character. -/
def isControl (c : Char) : Bool := c.toNat < 0x20 || (0x7f ≤ c.toNat && c.toNat < 0xa0)

/-- Whether a character may stand for itself between quotes: it is no control character, no
backslash, not the quote, and no dollar sign in a template. -/
def Quote.isPlain (quote : Quote) (c : Char) : Bool :=
  !isControl c && c ≠ '\\' && c ≠ quote.char && (quote.kind = .string || c ≠ '$')

/-- The characters that a backslash is put before to write them. -/
def marks : List Char := ['\'', '"', '`', '$', '\\']

/-- A way to spell a character between quotes, or nothing at all. -/
inductive Spelling (quote : Quote) where
  /-- The character stands for itself. -/
  | plain (c : Char) (h : quote.isPlain c = true)
  /-- A backslash before a mark. -/
  | mark (c : Char) (h : c ∈ marks)
  /-- A line feed. -/
  | lineFeed
  /-- A tab. -/
  | tab
  /-- A carriage return. -/
  | carriageReturn
  /-- The number of the character in two digits. -/
  | two (c : Char) (d₁ d₂ : HexDigit) (h : hexadecimal [d₁, d₂] = c.toNat)
  /-- The number of the character in four digits. -/
  | four (c : Char) (d₁ d₂ d₃ d₄ : HexDigit) (h : hexadecimal [d₁, d₂, d₃, d₄] = c.toNat)
  /-- The number of the character in braces, in as many digits as one likes. -/
  | braced (c : Char) (first : HexDigit) (rest : List HexDigit)
    (h : hexadecimal (first :: rest) = c.toNat)
  /-- A backslash before a line end, which spells nothing. -/
  | continuation (withReturn : Bool)

namespace Spelling

variable {quote : Quote}

/-- What is spelled. -/
def denoted : Spelling quote → List Char
  | plain c _ => [c]
  | mark c _ => [c]
  | lineFeed => ['\n']
  | tab => ['\t']
  | carriageReturn => ['\r']
  | two c _ _ _ => [c]
  | four c _ _ _ _ _ => [c]
  | braced c _ _ _ => [c]
  | continuation _ => []

/-- The piece of a literal that a spelling is. -/
def piece : Spelling quote → Piece
  | plain c _ => .plain c
  | mark c _ => .escape [c]
  | lineFeed => .escape ['n']
  | tab => .escape ['t']
  | carriageReturn => .escape ['r']
  | two _ d₁ d₂ _ => .escape ['x', d₁.char, d₂.char]
  | four _ d₁ d₂ d₃ d₄ _ => .escape ['u', d₁.char, d₂.char, d₃.char, d₄.char]
  | braced _ first rest _ => .escape ('u' :: '{' :: ((first :: rest).map HexDigit.char ++ ['}']))
  | continuation true => .escape ['\r', '\n']
  | continuation false => .escape ['\n']

end Spelling

/-- How a text is written between quotes when it is spelled so. -/
def literalText {quote : Quote} (spelled : List (Spelling quote)) : List Char :=
  [quote.char] ++ (spelled.flatMap (fun s => s.piece.text) ++ [quote.char])

/-- The text that is spelled. -/
def spelledText {quote : Quote} (spelled : List (Spelling quote)) : String :=
  String.ofList (spelled.flatMap Spelling.denoted)

/-! ## What escapes denote -/

section Digits

/-- The character of a digit is a hexadecimal digit. -/
theorem isHexDigit_char (d : HexDigit) : isHexDigit d.char = true := by
  unfold isHexDigit
  rw [Text.hexDigit?_char]
  rfl

/-- The characters of digits are hexadecimal digits. -/
theorem all_isHexDigit_map (digits : List HexDigit) :
    (digits.map HexDigit.char).all isHexDigit = true := by
  rw [List.all_map, List.all_eq_true]
  exact fun d _ => isHexDigit_char d

/-- Digits are no braces. -/
theorem char_ne_brace (d : HexDigit) : d.char ≠ '{' ∧ d.char ≠ '}' := by
  have h := isHexDigit_char d
  constructor
  · intro heq
    rw [heq] at h
    exact absurd h (by decide)
  · intro heq
    rw [heq] at h
    exact absurd h (by decide)

/-- Digits that write the number of a character are read as the character. -/
theorem hexCharacter?_map {digits : List HexDigit} {c : Char} (hne : digits ≠ [])
    (h : hexadecimal digits = c.toNat) :
    Syntax.hexCharacter? (digits.map HexDigit.char) = some c := by
  unfold hexadecimal at h
  unfold Syntax.hexCharacter?
  rw [Text.number?_map Text.hexDigit?_char hne, h, Option.bind_some, Text.character?_toNat]

/-- Opening braces are dropped in front of digits only. -/
theorem dropWhile_map {digits : List HexDigit} (hne : digits ≠ []) (more : List Char) :
    (digits.map HexDigit.char ++ more).dropWhile (· = '{') =
      digits.map HexDigit.char ++ more := by
  obtain ⟨d, rest, rfl⟩ := List.exists_cons_of_ne_nil hne
  refine Text.dropWhile_eq_self fun c hc => ?_
  obtain rfl : d.char = c := Option.some.inj hc
  exact decide_eq_false (char_ne_brace d).1

/-- No closing braces are dropped where digits end. -/
theorem dropTrailing_map (digits : List HexDigit) :
    Syntax.dropTrailing '}' (digits.map HexDigit.char) = digits.map HexDigit.char := by
  unfold Syntax.dropTrailing
  rw [Text.dropWhile_eq_self, List.reverse_reverse]
  intro c hc
  obtain ⟨d, -, rfl⟩ := List.mem_map.1 (List.mem_reverse.1 (List.mem_of_head? hc))
  exact decide_eq_false (char_ne_brace d).2

/-- The braces around digits are of no account for the character that they number. -/
theorem numericEscape?_braced {digits : List HexDigit} (hne : digits ≠ []) :
    Syntax.numericEscape? ('u' :: '{' :: (digits.map HexDigit.char ++ ['}'])) =
      Syntax.hexCharacter? (digits.map HexDigit.char) := by
  have hopen : ('{' :: (digits.map HexDigit.char ++ ['}'])).dropWhile (· = '{') =
      digits.map HexDigit.char ++ ['}'] := by
    rw [List.dropWhile_cons_of_pos (by decide), dropWhile_map hne]
  have hclose : Syntax.dropTrailing '}' (digits.map HexDigit.char ++ ['}']) =
      Syntax.dropTrailing '}' (digits.map HexDigit.char) := by
    unfold Syntax.dropTrailing
    rw [List.reverse_append, List.reverse_singleton, List.singleton_append,
      List.dropWhile_cons_of_pos (by decide)]
  show Syntax.hexCharacter? (Syntax.dropTrailing '}' (List.dropWhile _ _)) = _
  rw [hopen, hclose, dropTrailing_map]

/-- Digits without braces number a character as they are. -/
theorem numericEscape?_bare {digits : List HexDigit} (hne : digits ≠ []) :
    Syntax.numericEscape? ('u' :: digits.map HexDigit.char) =
      Syntax.hexCharacter? (digits.map HexDigit.char) := by
  have hopen := dropWhile_map hne []
  rw [List.append_nil] at hopen
  show Syntax.hexCharacter? (Syntax.dropTrailing '}' (List.dropWhile _ _)) = _
  rw [hopen, dropTrailing_map]

/-- An escape by number denotes the character that is numbered. -/
theorem escapedText_number {first : Char} {body : List Char} {c : Char}
    (hfirst : first = 'x' ∨ first = 'u') (h : Syntax.numericEscape? (first :: body) = some c) :
    Syntax.escapedText (first :: body) = [c] := by
  -- The other escapes start with other characters.
  rcases hfirst with rfl | rfl
  · unfold Syntax.escapedText
    rw [h]
    rfl
  · unfold Syntax.escapedText
    rw [h]
    rfl

end Digits

namespace Spelling

variable {quote : Quote}

/-- The piece that a spelling is stands for what is spelled. -/
theorem decoded_piece (s : Spelling quote) : s.piece.decoded = s.denoted := by
  cases s with
  | plain c h => rfl
  | mark c h =>
    have hall : (marks.all fun m => Syntax.escapedText [m] = [m]) = true := by decide
    exact of_decide_eq_true (List.all_eq_true.1 hall c h)
  | lineFeed => rfl
  | tab => rfl
  | carriageReturn => rfl
  | two c d₁ d₂ h =>
    have hnumber : Syntax.numericEscape? ('x' :: [d₁, d₂].map HexDigit.char) = some c :=
      hexCharacter?_map (List.cons_ne_nil _ _) h
    exact escapedText_number (.inl rfl) hnumber
  | four c d₁ d₂ d₃ d₄ h =>
    have hnumber : Syntax.numericEscape? ('u' :: [d₁, d₂, d₃, d₄].map HexDigit.char) = some c :=
      (numericEscape?_bare (List.cons_ne_nil _ _)).trans
        (hexCharacter?_map (List.cons_ne_nil _ _) h)
    exact escapedText_number (.inr rfl) hnumber
  | braced c first rest h =>
    have hnumber := (numericEscape?_braced (List.cons_ne_nil first rest)).trans
      (hexCharacter?_map (List.cons_ne_nil _ _) h)
    exact escapedText_number (.inr rfl) hnumber
  | continuation withReturn => cases withReturn <;> rfl

/-- What spellings stand for is the text that is spelled. -/
theorem flatMap_decoded (spelled : List (Spelling quote)) :
    (spelled.map piece).flatMap Piece.decoded = spelled.flatMap denoted := by
  rw [List.flatMap_map]
  exact List.flatMap_congr fun s _ => decoded_piece s

/-- No spelling is a character reference. -/
theorem isReference_piece (s : Spelling quote) : s.piece.isReference = false := by
  cases s with
  | continuation withReturn => cases withReturn <;> rfl
  | _ => rfl

end Spelling

/-! ## Reading -/

/-- The reader of what stands between quotes. -/
def Quote.reader : Quote → Reader (List Piece)
  | .single => stringPiece
  | .double => stringPiece
  | .backtick => templatePiece

/-- A plain character is taken as it is, whatever follows. -/
theorem Quote.reads_plain {quote : Quote} {c : Char} (h : quote.isPlain c = true)
    (next : List Char) : Reads quote.reader [c] [.plain c] next := by
  unfold Quote.isPlain at h
  simp only [Bool.and_eq_true, Bool.not_eq_true', decide_eq_true_eq] at h
  obtain ⟨⟨⟨hcontrol, hbackslash⟩, -⟩, hdollar⟩ := h
  have hne : ∀ d, isControl d = true → c ≠ d := by
    rintro d hd rfl
    exact Bool.false_ne_true (hcontrol.symm.trans hd)
  have hstring : Reads stringPiece [c] [.plain c] next := by
    unfold Reads stringPiece
    split
    · next heq => exact absurd (List.cons.inj heq).1 hbackslash
    · next heq =>
      obtain ⟨rfl, rfl⟩ := List.cons.inj heq
      rw [if_neg]
      · rfl
      · rintro (hc | hc | hc)
        · exact hne _ (by decide) hc
        · exact hne _ (by decide) hc
        · exact hne _ (by decide) hc
    · next heq => cases heq
  cases quote with
  | single => exact hstring
  | double => exact hstring
  | backtick =>
    have hne' : c ≠ '$' := by simpa [Quote.kind] using hdollar
    show templatePiece (c :: next) = some ([.plain c], next)
    unfold templatePiece
    split
    · next heq => exact absurd (List.cons.inj heq).1 hbackslash
    · next heq => exact absurd (List.cons.inj heq).1 hne'
    · next heq =>
      obtain ⟨rfl, rfl⟩ := List.cons.inj heq
      exact if_neg (hne _ (by decide))
    · next heq => cases heq

/-- An escape is taken when its body is, in each kind of quotes. -/
theorem Quote.reads_escape {quote : Quote} {body next : List Char}
    (h : Reads escapeBody body body next) :
    Reads quote.reader ('\\' :: body) [.escape body] next := by
  have hbody : escapeBody (body ++ next) = some (body, next) := h
  cases quote with
  | single | double | backtick =>
    show (escapeBody (body ++ next)).map _ = _
    rw [hbody]
    rfl

/-- A single character behind a backslash is taken alone, when it begins no longer escape. -/
theorem reads_escapeBody_single {c : Char} (hc : c ∈ 'n' :: 't' :: 'r' :: '\n' :: marks)
    (next : List Char) : Reads escapeBody [c] [c] next := by
  have halone : (('n' :: 't' :: 'r' :: '\n' :: marks).all fun c =>
      c ≠ 'u' ∧ c ≠ 'x' ∧ isOctalDigit c = false ∧ c ≠ '\x00' ∧ c ≠ '\r' ∧ c ≠ '?') = true := by
    decide
  obtain ⟨hu, hx, hoctal, hzero, hreturn, hquestion⟩ :=
    of_decide_eq_true (List.all_eq_true.1 halone c hc)
  show escapeBody (c :: next) = some ([c], next)
  unfold escapeBody
  split
  · next heq => exact absurd (List.cons.inj heq).1 hu
  · next heq => exact absurd (List.cons.inj heq).1 hx
  · next heq => exact absurd (List.cons.inj heq).1 hx
  · next heq =>
    obtain ⟨rfl, rfl⟩ := List.cons.inj heq
    rw [hoctal, if_neg Bool.false_ne_true, if_neg hzero]
    cases next with
    | nil => rfl
    | cons d more =>
      refine if_neg ?_
      rintro ⟨hc | hc, -⟩
      · exact hreturn hc
      · exact hquestion hc
  · next heq => cases heq

namespace Spelling

variable {quote : Quote}

/-- A spelling is taken as its piece, whatever follows. -/
theorem reads (s : Spelling quote) (next : List Char) :
    Reads quote.reader s.piece.text [s.piece] next := by
  have hsingle : ∀ c ∈ 'n' :: 't' :: 'r' :: '\n' :: marks,
      Reads quote.reader ['\\', c] [.escape [c]] next := fun c hc =>
    Quote.reads_escape (reads_escapeBody_single hc next)
  have hunicode : ∀ body, unicodeBody (body ++ next) = some (body, next) →
      Reads quote.reader ('\\' :: 'u' :: body) [.escape ('u' :: body)] next := by
    intro body h
    refine Quote.reads_escape ?_
    show (unicodeBody (body ++ next)).map _ = _
    rw [h]
    rfl
  cases s with
  | plain c h => exact Quote.reads_plain h next
  | mark c h => exact hsingle c (by simp [h])
  | lineFeed => exact hsingle 'n' (by decide)
  | tab => exact hsingle 't' (by decide)
  | carriageReturn => exact hsingle 'r' (by decide)
  | two c d₁ d₂ h => exact Quote.reads_escape (if_pos (all_isHexDigit_map [d₁, d₂]))
  | four c d₁ d₂ d₃ d₄ h =>
    exact hunicode _ (unicodeBody_digits (all_isHexDigit_map [d₁, d₂, d₃, d₄]))
  | braced c first rest h =>
    refine hunicode _ ?_
    rw [List.cons_append, List.append_assoc]
    exact unicodeBody_braces (all_isHexDigit_map (first :: rest))
  | continuation withReturn =>
    cases withReturn with
    | true => exact Quote.reads_escape rfl
    | false => exact hsingle '\n' (by decide)

/-- A spelling begins with a character that is not the quote. -/
theorem exists_cons (s : Spelling quote) : ∃ c rest, s.piece.text = c :: rest ∧ c ≠ quote.char := by
  have hbackslash : '\\' ≠ quote.char := by cases quote <;> decide
  cases s with
  | plain c h =>
    unfold Quote.isPlain at h
    simp only [Bool.and_eq_true, decide_eq_true_eq] at h
    exact ⟨c, [], rfl, h.1.2⟩
  | continuation withReturn => cases withReturn <;> exact ⟨_, _, rfl, hbackslash⟩
  | _ => exact ⟨_, _, rfl, hbackslash⟩

end Spelling

section Literal

variable {quote : Quote} (spelled : List (Spelling quote))

/-- The shapes of the parts of a literal. -/
def literalParts : List Shape :=
  markShape (String.singleton quote.char) ::
    Piece.shapes .stringFragment (spelled.map Spelling.piece) ++
      [markShape (String.singleton quote.char)]

/-- The shape of a literal. -/
def literalShape : Shape := .branch quote.kind none (literalParts spelled)

/-- The pieces of a literal are taken one after the other. -/
theorem readsAll_spelled (next : List Char) :
    ReadsAll (comesNext [quote.char]) quote.reader (quote.char :: next)
      (spelled.flatMap fun s => s.piece.text) (spelled.map Spelling.piece) := by
  refine readsAll_pieces (by simp [comesNext]) fun s after _ => ?_
  obtain ⟨c, rest, htext, hne⟩ := s.exists_cons
  refine ⟨by rw [htext]; exact List.cons_ne_nil c rest, ?_, s.reads _⟩
  rw [htext]
  simp [comesNext, hne]

/-- A literal is an expression, read as it is written. -/
theorem reads_literal {depth : Nat} (hdepth : (literalText spelled).length ≤ depth)
    (next : List Char) :
    Reads (expression depth .value) (literalText spelled) (literalShape spelled) next := by
  cases depth with
  | zero => exact absurd hdepth (Nat.not_succ_le_zero _)
  | succ depth =>
    have hread : Reads (between quote.kind quote.char quote.reader) (literalText spelled)
        (literalShape spelled) next := reads_between_pieces (readsAll_spelled spelled next)
    cases quote with
    | single => exact Reads.skip (reads_firstOf? rfl) hread
    | double => exact Reads.skip (reads_firstOf? rfl) hread
    | backtick => exact Reads.skip (reads_firstOf? rfl) hread

/-- There are no errors in a literal. -/
theorem allKinds_literalShape : (literalShape spelled).allKinds (· ≠ .error) = true := by
  have hquote : decide (quote.kind ≠ Kind.error) = true := by cases quote <;> rfl
  unfold literalShape literalParts
  rw [allKinds, hquote, List.cons_append, allKindsOfAll, allKindsOfAll_append,
    Piece.allKinds_shapes rfl (fun _ _ => rfl) fun _ _ => rfl]
  rfl

/-- The only literal of a literal is the text that is spelled. -/
theorem literals_literalShape (start : Syntax.Position) :
    literals ((literalShape spelled).node start) = [spelledText spelled] := by
  have hstring : Syntax.stringText (nodesOfAll start (literalParts spelled)) =
      spelledText spelled := by
    unfold literalParts
    rw [stringText_pieces, Spelling.flatMap_decoded]
    rfl
  have htemplate : Syntax.templateSegments (nodesOfAll start (literalParts spelled)) =
      [spelledText spelled] := by
    unfold literalParts
    rw [templateSegments_pieces, Spelling.flatMap_decoded]
    · rfl
    · intro p hp
      obtain ⟨s, -, rfl⟩ := List.mem_map.1 hp
      exact s.isReference_piece
  cases quote with
  | single => rw [literals_string rfl, ← hstring]; rfl
  | double => rw [literals_string rfl, ← hstring]; rfl
  | backtick => exact literals_template rfl htemplate

end Literal

/-- Decoding undoes every spelling: a constant that is set to a literal has a value, and the
literals of the value are exactly the trim of the text that is spelled, or nothing when the text is
blank. -/
theorem literals_spelled {quote : Quote} (spelled : List (Spelling quote)) :
    ∃ tree value, Tsx.parse (String.ofList (constantText (literalText spelled))) = .ok tree ∧
      Syntax.initializer? tree = some value ∧
      (IconSet.ofList (literals value)).toList =
        if Text.isBlankText (spelledText spelled) then []
        else [Text.trim (spelledText spelled)] := by
  have hdark : Dark (literalText spelled) := by
    cases quote <;> exact dark_cons rfl
  have hparse := parse_constantText hdark
    (fun depth hdepth next => reads_literal spelled hdepth (';' :: next))
    (allKinds_literalShape spelled)
  have hblanks : (literalShape spelled).isBlanks = false := rfl
  obtain ⟨start, hvalue⟩ := initializer?_constantShape hblanks
  refine ⟨_, _, hparse, hvalue, ?_⟩
  rw [literals_withRole, literals_literalShape, IconSet.toList_ofList_singleton]

/-- A spelling of `home` that goes on behind a line end. -/
example :
    let spelled : List (Spelling .double) :=
      [ .plain 'h' rfl, .two 'o' ⟨6, false⟩ ⟨15, true⟩ rfl, .continuation false,
        .braced 'm' ⟨0, false⟩ [⟨6, false⟩, ⟨13, false⟩] rfl, .plain 'e' rfl ]
    String.ofList (literalText spelled) = "\"h\\x6F\\\n\\u\x7b06d\x7de\"" ∧
      spelledText spelled = "home" := by
  decide

end IconSubset.Printing
