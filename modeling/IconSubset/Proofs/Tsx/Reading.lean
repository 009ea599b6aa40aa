import IconSubset.Tsx.Constant
import Mathlib.Tactic.Common

/-!
# What readers read

A reader reads a text when, given the text and what follows it, it takes exactly the text and
leaves what follows (`Reads`). What comes next is part of the statement, since most readers take the
longest run that they can. `Reads.bind` puts readers in a row; `Reads.skip` and `Reads.finish` are
its cases in which one of them takes nothing. For a reader that is repeated, `ReadsAll` lists what
each of its turns takes, and `ReadsAll.repeated` counts the turns: each takes at least a character,
so the limit on their number is never met.
-/

namespace IconSubset.Tsx.Constant

open Syntax (Kind)

/-- A reader takes a text before what comes next, and gives a result. -/
def Reads {α : Type} (r : Reader α) (text : List Char) (a : α) (next : List Char) : Prop :=
  r (text ++ next) = some (a, next)

section Rows

variable {α β : Type} {r : Reader α} {f : α → Reader β} {text more next : List Char} {a : α} {b : β}

/-- A result by itself takes nothing. -/
theorem Reads.pure : Reads (Pure.pure a) [] a next := rfl

/-- Two readers in a row take the text of the first and then that of the second. -/
theorem Reads.bind (hr : Reads r text a (more ++ next)) (hf : Reads (f a) more b next) :
    Reads (r >>= f) (text ++ more) b next := by
  unfold Reads at hr ⊢
  rw [List.append_assoc]
  show (r (text ++ (more ++ next))).bind (fun x => f x.1 x.2) = _
  rw [hr]
  exact hf

/-- A reader that takes nothing leaves the text to the next one. -/
theorem Reads.skip (hr : Reads r [] a (text ++ next)) (hf : Reads (f a) text b next) :
    Reads (r >>= f) text b next :=
  Reads.bind hr hf

/-- A reader after which nothing is taken takes the whole text. -/
theorem Reads.finish (hr : Reads r text a next) (hf : Reads (f a) [] b next) :
    Reads (r >>= f) text b next := by
  have h := (Reads.bind hr hf : Reads (r >>= f) (text ++ []) b next)
  rwa [List.append_nil] at h

/-- What a reader takes is taken as well where another reader may be tried after it. -/
theorem Reads.orElse {s : Reader α} (hr : Reads r text a next) : Reads (r <|> s) text a next := by
  unfold Reads at hr ⊢
  show (r (text ++ next) <|> s (text ++ next)) = _
  rw [hr]
  rfl

/-- What is read where a condition holds is read where otherwise the reader fails. -/
theorem Reads.unless {c : Bool} {other : Reader α} (h : c = true) (hr : Reads r text a next) :
    Reads (if !c then other else r) text a next := by
  subst h
  exact hr

end Rows

/-! ## Marks and blanks -/

section Marks

variable {next : List Char}

/-- A token is taken exactly. -/
theorem reads_exactly (text : List Char) : Reads (exactly text) text () next := by
  unfold Reads exactly
  rw [if_pos (List.isPrefixOf_iff_prefix.2 (List.prefix_append text next)), List.drop_left]

/-- The shape of a keyword or a punctuation mark. -/
def markShape (text : String) : Shape := .token (.token text) none text.toList

/-- A mark is taken exactly. -/
theorem reads_mark (text : String) : Reads (mark text) text.toList (markShape text) next :=
  Reads.finish (reads_exactly text.toList) Reads.pure

/-- Characters start with one that is no blank. -/
def Dark (cs : List Char) : Prop := ∃ c rest, cs = c :: rest ∧ isAsciiBlank c = false

/-- A character that is no blank starts what it is put before. -/
theorem dark_cons {c : Char} {rest : List Char} (h : isAsciiBlank c = false) : Dark (c :: rest) :=
  ⟨c, rest, rfl, h⟩

/-- What starts with no blank does so whatever follows. -/
theorem Dark.append {cs : List Char} (h : Dark cs) (more : List Char) : Dark (cs ++ more) := by
  obtain ⟨c, rest, rfl, hc⟩ := h
  exact dark_cons hc

/-- Where no blank comes, none is taken. -/
theorem run_of_dark (h : Dark next) : run isAsciiBlank next = some ([], next) := by
  obtain ⟨c, rest, rfl, hc⟩ := h
  unfold run
  rw [List.takeWhile_cons_of_neg (by simp [hc]), List.dropWhile_cons_of_neg (by simp [hc])]

/-- A single space is taken when no blank follows it. -/
theorem run_space_of_dark (h : Dark next) :
    run isAsciiBlank (' ' :: next) = some ([' '], next) := by
  have hrest := run_of_dark h
  unfold run at hrest ⊢
  obtain ⟨htake, hdrop⟩ := Prod.mk.inj (Option.some.inj hrest)
  rw [List.takeWhile_cons_of_pos (by decide), List.dropWhile_cons_of_pos (by decide), htake, hdrop]

/-- Where no blank comes, none is read. -/
theorem reads_noBlanks (h : Dark next) : Reads blanks [] [] next :=
  Reads.skip (run_of_dark h) Reads.pure

/-- The shape of a space. -/
def spaceShape : Shape := .blanks [' ']

/-- A single space is read where blanks may stand. -/
theorem reads_space (h : Dark next) : Reads blanks [' '] [spaceShape] next :=
  Reads.finish (run_space_of_dark h) Reads.pure

/-- A single space is read where blanks must stand. -/
theorem reads_someSpace (h : Dark next) : Reads someBlanks [' '] [spaceShape] next :=
  Reads.finish (run_space_of_dark h) Reads.pure

/-- Looking for a text at the start takes nothing. -/
theorem reads_startsWith {text : String} {b : Bool} (h : text.toList.isPrefixOf next = b) :
    Reads (startsWith text) [] b next := by
  subst h
  rfl

/-- Looking for one of several texts at the start takes nothing. -/
theorem reads_firstOf? {texts : List String} {found : Option String}
    (h : (texts.find? fun text => text.toList.isPrefixOf next) = found) :
    Reads (firstOf? texts) [] found next := by
  subst h
  rfl

/-- A text whose first character does not have a property that the next character has is not what
comes next. -/
theorem isPrefixOf_eq_false {p : Char → Bool} {c : Char} {text : List Char} (hc : p c = true)
    (h : (text.head?.any fun d => !p d) = true) : text.isPrefixOf (c :: next) = false := by
  cases text with
  | nil => cases h
  | cons d rest =>
    have hne : d ≠ c := by
      rintro rfl
      exact Bool.false_ne_true ((Bool.not_eq_eq_eq_not.1 h).symm.trans hc)
    rw [List.isPrefixOf, beq_false_of_ne hne, Bool.false_and]

/-- None of several such texts is what comes next. -/
theorem find?_isPrefixOf_eq_none {p : Char → Bool} {c : Char} {texts : List String}
    (hc : p c = true)
    (h : (texts.all fun text => text.toList.head?.any fun d => !p d) = true) :
    (texts.find? fun text => text.toList.isPrefixOf (c :: next)) = none := by
  rw [List.find?_eq_none]
  intro text htext
  rw [isPrefixOf_eq_false hc (List.all_eq_true.1 h text htext)]
  exact Bool.false_ne_true

end Marks

/-! ## Repetition -/

/-- What the turns of a repeated reader take, one after the other, until the predicate holds of what
comes next. -/
inductive ReadsAll {α : Type} (atEnd : List Char → Bool) (one : Reader (List α))
    (next : List Char) : List Char → List α → Prop
  /-- There is no turn where the predicate holds. -/
  | nil (hend : atEnd next = true) : ReadsAll atEnd one next [] []
  /-- A turn takes something, and the others go on from there. -/
  | cons {text more : List Char} {found others : List α} (hne : text ≠ [])
      (hgo : atEnd (text ++ (more ++ next)) = false) (hone : Reads one text found (more ++ next))
      (hrest : ReadsAll atEnd one next more others) :
      ReadsAll atEnd one next (text ++ more) (found ++ others)

/-- A limit above the length of the text lets all turns be taken. -/
theorem ReadsAll.many {α : Type} {atEnd : List Char → Bool} {one : Reader (List α)}
    {next text : List Char} {found : List α} (h : ReadsAll atEnd one next text found) :
    ∀ {limit : Nat}, text.length < limit →
      many atEnd one limit (text ++ next) = some (found, next) := by
  induction h with
  | nil hend =>
    intro limit hlimit
    obtain ⟨limit, rfl⟩ := Nat.exists_eq_succ_of_ne_zero (Nat.ne_of_gt hlimit)
    unfold Constant.many
    exact if_pos hend
  | @cons text more found others hne hgo hone _ ih =>
    intro limit hlimit
    rw [List.length_append] at hlimit
    have hpos : 0 < text.length := List.length_pos_iff.2 hne
    obtain ⟨limit, rfl⟩ := Nat.exists_eq_succ_of_ne_zero (Nat.ne_of_gt (Nat.zero_lt_of_lt hlimit))
    -- The turn takes a character at least, so the limit that is left is above what remains.
    have hmore : Constant.many atEnd one limit (more ++ next) = some (others, next) :=
      ih (by omega)
    unfold Constant.many
    dsimp only
    rw [List.append_assoc, if_neg (by simp [hgo]), hone, Option.bind_some, hmore, Option.map_some]

/-- A repeated reader takes what its turns take. -/
theorem ReadsAll.repeated {α : Type} {atEnd : List Char → Bool} {one : Reader (List α)}
    {next text : List Char} {found : List α} (h : ReadsAll atEnd one next text found) :
    Reads (repeated atEnd one) text found next := by
  unfold Reads Constant.repeated
  refine h.many ?_
  rw [List.length_append]
  omega

/-- A single turn. -/
theorem ReadsAll.single {α : Type} {atEnd : List Char → Bool} {one : Reader (List α)}
    {next text : List Char} {found : List α} (hne : text ≠ []) (hgo : atEnd (text ++ next) = false)
    (hone : Reads one text found next) (hend : atEnd next = true) :
    ReadsAll atEnd one next text found := by
  have h := ReadsAll.cons hne hgo hone (.nil hend)
  rwa [List.append_nil, List.append_nil] at h

/-! ## Text between quotes and tags -/

/-- The shape of plain text: none where there is no text. -/
def plainShapes (kind : Kind) (text : List Char) : List Shape :=
  if text = [] then [] else [.token kind none text]

/-- Plain characters in a row are one token. -/
theorem shapes_plain (kind : Kind) (text : List Char) :
    Piece.shapes kind (text.map .plain) = plainShapes kind text := by
  induction text with
  | nil => rfl
  | cons c rest ih =>
    rw [List.map_cons, Piece.shapes, ih]
    cases rest with
    | nil => rfl
    -- The character is joined with the token that follows it.
    | cons d rest => exact if_pos rfl

/-- Items that a reader of pieces takes one by one, each as one piece, are taken in a row. -/
theorem readsAll_pieces {α : Type} {atEnd : List Char → Bool} {piece : Reader (List Piece)}
    {next : List Char} {text : α → List Char} {toPiece : α → Piece} (hend : atEnd next = true) :
    ∀ {items : List α},
    (∀ i after, i :: after <:+ items → text i ≠ [] ∧
      atEnd (text i ++ (after.flatMap text ++ next)) = false ∧
      Reads piece (text i) [toPiece i] (after.flatMap text ++ next)) →
    ReadsAll atEnd piece next (items.flatMap text) (items.map toPiece)
  | [], _ => .nil hend
  | i :: after, h => by
    obtain ⟨hne, hgo, hone⟩ := h i after List.suffix_rfl
    have hrest : ReadsAll atEnd piece next (after.flatMap text) (after.map toPiece) :=
      readsAll_pieces hend fun j more hj => h j more (hj.trans (List.suffix_cons i after))
    rw [List.flatMap_cons]
    exact ReadsAll.cons hne hgo hone hrest

/-- Characters that a reader of pieces takes as plain ones are read as their text. -/
theorem readsAll_plain {atEnd : List Char → Bool} {piece : Reader (List Piece)} {next : List Char}
    (hend : atEnd next = true) {text : List Char}
    (h : ∀ c rest, c :: rest <:+ text → atEnd (c :: (rest ++ next)) = false ∧
      piece (c :: (rest ++ next)) = some ([.plain c], rest ++ next)) :
    ReadsAll atEnd piece next text (text.map .plain) := by
  have hread : ReadsAll atEnd piece next (text.flatMap ([·])) (text.map .plain) := by
    refine readsAll_pieces hend fun c rest hsuffix => ⟨List.cons_ne_nil c [], ?_⟩
    rw [List.flatMap_singleton']
    exact h c rest hsuffix
  rwa [List.flatMap_singleton'] at hread

/-- Pieces between quotes are a string of them, when a repeated reader takes them. -/
theorem reads_between_pieces {kind : Kind} {quote : Char} {piece : Reader (List Piece)}
    {text next : List Char} {pieces : List Piece}
    (h : ReadsAll (comesNext [quote]) piece (quote :: next) text pieces) :
    Reads (between kind quote piece) ([quote] ++ (text ++ [quote]))
      (.branch kind none (markShape (String.singleton quote) ::
        Piece.shapes .stringFragment pieces ++ [markShape (String.singleton quote)])) next := by
  have hmark : ∀ rest, Reads (mark (String.singleton quote)) [quote]
      (markShape (String.singleton quote)) rest := by
    intro rest
    have hread : Reads (mark (String.singleton quote)) _ _ rest := reads_mark _
    rwa [String.toList_singleton] at hread
  unfold between
  exact Reads.bind (hmark _) (Reads.bind h.repeated (Reads.finish (hmark _) Reads.pure))

/-- Quoted text is a string of that text, when its characters are taken as plain ones. -/
theorem reads_between {kind : Kind} {quote : Char} {piece : Reader (List Piece)}
    {text next : List Char} (hquote : quote ∉ text)
    (hplain : ∀ c rest, c :: rest <:+ text → piece (c :: (rest ++ quote :: next)) =
      some ([.plain c], rest ++ quote :: next)) :
    Reads (between kind quote piece) ([quote] ++ (text ++ [quote]))
      (.branch kind none (markShape (String.singleton quote) :: plainShapes .stringFragment text ++
        [markShape (String.singleton quote)])) next := by
  rw [← shapes_plain]
  refine reads_between_pieces (readsAll_plain ?_ fun c rest hsuffix => ?_)
  · simp [comesNext]
  · refine ⟨?_, hplain c rest hsuffix⟩
    have hc : c ≠ quote := by
      rintro rfl
      exact hquote (hsuffix.subset List.mem_cons_self)
    simp [comesNext, hc]

end IconSubset.Tsx.Constant
