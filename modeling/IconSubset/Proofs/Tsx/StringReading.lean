import IconSubset.Proofs.Printing.Literal

/-!
# What the reader of quoted strings takes

`Reads` says what a reader does with a text that is known. Here it goes the other way as well:
whatever the reader of quoted strings took was there, and has the form that the grammar gives it. A
piece is a plain character or one of the escapes of the grammar (`stringPiece_eq_some_iff`), and a
string is its quotes with pieces between them (`between_eq_some`). A piece looks no further than the
character behind it, so a string is read in the same way whatever follows it
(`IsString.reads`).
-/

namespace IconSubset.Tsx.Constant

open Syntax (Kind)
open Text (HexDigit)

/-! ## Digits -/

/-- A hexadecimal digit is one of ASCII. -/
theorem toNat_lt_of_isHexDigit {c : Char} (h : isHexDigit c = true) : c.toNat < 128 := by
  have hle : ∀ {d : Char}, c ≤ d → c.toNat ≤ d.toNat := fun h => h
  unfold isHexDigit Text.hexDigit? at h
  split_ifs at h with hdigit hlower hupper
  · exact lt_of_le_of_lt (hle hdigit.2) (by decide)
  · exact lt_of_le_of_lt (hle hlower.2) (by decide)
  · exact lt_of_le_of_lt (hle hupper.2) (by decide)
  · cases h

/-- A hexadecimal digit is the character of its value, in one case or the other. -/
theorem exists_hexDigit {c : Char} (h : isHexDigit c = true) : ∃ d : HexDigit, d.char = c := by
  have hall : ∀ n : Fin 128, isHexDigit (Char.ofNat n) = true →
      ∃ (v : Fin 16) (upper : Bool), HexDigit.char ⟨v, upper⟩ = Char.ofNat n := by
    decide +kernel
  obtain ⟨v, upper, hchar⟩ := hall ⟨c.toNat, toNat_lt_of_isHexDigit h⟩ (by simpa using h)
  exact ⟨⟨v, upper⟩, by simpa using hchar⟩

/-- Hexadecimal digits are the characters of their values. -/
theorem exists_map_char {cs : List Char} (h : ∀ c ∈ cs, isHexDigit c = true) :
    ∃ digits : List HexDigit, digits.map HexDigit.char = cs := by
  induction cs with
  | nil => exact ⟨[], rfl⟩
  | cons c cs ih =>
    obtain ⟨d, rfl⟩ := exists_hexDigit (h c List.mem_cons_self)
    obtain ⟨digits, rfl⟩ := ih fun c hc => h c (List.mem_cons_of_mem _ hc)
    exact ⟨d :: digits, rfl⟩

/-! ## Escapes -/

/-- What the grammar takes for an escape, without the backslash, before what comes next. -/
inductive IsEscape (next : List Char) : List Char → Prop
  /-- The letter `x` and two digits. -/
  | two (d₁ d₂ : HexDigit) : IsEscape next ['x', d₁.char, d₂.char]
  /-- The letter `u` and four digits. -/
  | four (d₁ d₂ d₃ d₄ : HexDigit) : IsEscape next ['u', d₁.char, d₂.char, d₃.char, d₄.char]
  /-- The letter `u` and digits in braces. -/
  | braced (digits : List HexDigit) (hne : digits ≠ []) :
      IsEscape next ('u' :: '{' :: (digits.map HexDigit.char ++ ['}']))
  /-- Octal digits, three of them unless there are no more. -/
  | octal (c : Char) (digits : List Char) (hall : ∀ d ∈ c :: digits, isOctalDigit d = true)
      (hlength : digits.length ≤ 2)
      (hend : digits.length < 2 → ∀ d ∈ next.head?, isOctalDigit d = false) :
      IsEscape next (c :: digits)
  /-- Any other character. -/
  | single (c : Char) (hu : c ≠ 'u') (hx : c ≠ 'x') (hc : isOctalDigit c = false)
      (hnull : c ≠ '\x00') (hend : c = '\r' ∨ c = '?' → ∀ d ∈ next.head?, isLineEnd d = false) :
      IsEscape next [c]
  /-- A carriage return or a question mark, and a line end. -/
  | beforeLineEnd (c d : Char) (hc : c = '\r' ∨ c = '?') (hd : isLineEnd d = true) :
      IsEscape next [c, d]

/-- An escape looks no further than the character behind it. -/
theorem IsEscape.congr {next next' body : List Char} (h : IsEscape next body)
    (hhead : next.head? = next'.head?) : IsEscape next' body := by
  cases h with
  | two d₁ d₂ => exact .two d₁ d₂
  | four d₁ d₂ d₃ d₄ => exact .four d₁ d₂ d₃ d₄
  | braced digits hne => exact .braced digits hne
  | octal c digits hall hlength hend => exact .octal c digits hall hlength (hhead ▸ hend)
  | single c hu hx hc hnull hend => exact .single c hu hx hc hnull (hhead ▸ hend)
  | beforeLineEnd c d hc hd => exact .beforeLineEnd c d hc hd

/-- What is read behind the `u` of an escape is four digits, or digits in braces. -/
theorem unicodeBody_eq_some {cs body rest : List Char}
    (h : unicodeBody cs = some (body, rest)) : cs = body ++ rest ∧ IsEscape rest ('u' :: body) := by
  unfold unicodeBody at h
  split at h
  · next inside =>
    have hsplit : inside.takeWhile isHexDigit ++ inside.dropWhile isHexDigit = inside :=
      List.takeWhile_append_dropWhile
    have hdigits : ∀ c ∈ inside.takeWhile isHexDigit, isHexDigit c = true :=
      fun c hc => List.mem_takeWhile_imp hc
    dsimp only at h
    split at h
    · next first more after htake hdrop =>
      obtain ⟨rfl, rfl⟩ := Prod.mk.inj (Option.some.inj h)
      obtain ⟨digits, hmap⟩ := exists_map_char hdigits
      have hne : digits ≠ [] := by
        rintro rfl
        rw [← hmap] at htake
        cases htake
      constructor
      · rw [List.cons_append, List.cons_append, List.append_assoc, List.singleton_append, ← hdrop,
          hsplit]
      · rw [← hmap]
        exact .braced digits hne
    · cases h
  · next a b c d after _ =>
    split_ifs at h with hall
    obtain ⟨rfl, rfl⟩ := Prod.mk.inj (Option.some.inj h)
    obtain ⟨digits, hdigits⟩ := exists_map_char (List.all_eq_true.1 hall)
    obtain ⟨d₁, d₂, d₃, d₄, rfl⟩ : ∃ d₁ d₂ d₃ d₄, digits = [d₁, d₂, d₃, d₄] :=
      List.length_eq_four.1 (by simpa using congrArg List.length hdigits)
    constructor
    · rfl
    · rw [← hdigits]
      exact .four d₁ d₂ d₃ d₄
  · cases h

/-- As many octal digits are taken as there are, three at most. -/
theorem isEscape_octal {c : Char} {cs : List Char} (hc : isOctalDigit c = true) :
    c :: cs = (c :: cs.takeWhile isOctalDigit).take 3 ++
        (c :: cs).drop ((c :: cs.takeWhile isOctalDigit).take 3).length ∧
      IsEscape ((c :: cs).drop ((c :: cs.takeWhile isOctalDigit).take 3).length)
        ((c :: cs.takeWhile isOctalDigit).take 3) := by
  have hprefix : (c :: cs.takeWhile isOctalDigit).take 3 <+: c :: cs :=
    (List.take_prefix 3 _).trans ((List.prefix_cons_inj c).2 (List.takeWhile_prefix _))
  refine ⟨(List.prefix_iff_eq_append.1 hprefix).symm, ?_⟩
  rw [List.take_succ_cons]
  refine .octal c _ ?_ ?_ fun hfew d hd => ?_
  · intro d hd
    rcases List.mem_cons.1 hd with rfl | hd
    · exact hc
    · exact List.mem_takeWhile_imp (List.mem_of_mem_take hd)
  · exact List.length_take_le 2 _
  · -- Where fewer than three are taken, all are, and what follows them is no digit.
    have hshort : (cs.takeWhile isOctalDigit).length < 2 := by
      rw [List.length_take] at hfew
      omega
    have hdrop : cs.drop (cs.takeWhile isOctalDigit).length = cs.dropWhile isOctalDigit := by
      calc cs.drop (cs.takeWhile isOctalDigit).length
          = (cs.takeWhile isOctalDigit ++ cs.dropWhile isOctalDigit).drop
              (cs.takeWhile isOctalDigit).length := by rw [List.takeWhile_append_dropWhile]
        _ = cs.dropWhile isOctalDigit := List.drop_left
    rw [List.take_of_length_le (by omega), List.length_cons, List.drop_succ_cons, hdrop] at hd
    exact Text.head_dropWhile hd

/-- What is read behind a backslash was there, and is an escape of the grammar. -/
theorem escapeBody_eq_some {cs body rest : List Char} (h : escapeBody cs = some (body, rest)) :
    cs = body ++ rest ∧ IsEscape rest body := by
  unfold escapeBody at h
  split at h
  · next after =>
    obtain ⟨⟨inner, left⟩, hread, heq⟩ := Option.map_eq_some_iff.1 h
    obtain ⟨rfl, rfl⟩ := Prod.mk.inj heq
    obtain ⟨rfl, hescape⟩ := unicodeBody_eq_some hread
    exact ⟨rfl, hescape⟩
  · next a b after =>
    split_ifs at h with hall
    obtain ⟨rfl, rfl⟩ := Prod.mk.inj (Option.some.inj h)
    obtain ⟨d₁, rfl⟩ := exists_hexDigit (List.all_eq_true.1 hall a List.mem_cons_self)
    obtain ⟨d₂, rfl⟩ := exists_hexDigit (List.all_eq_true.1 hall b (by simp))
    exact ⟨rfl, .two d₁ d₂⟩
  · cases h
  · next c after hu _ hx =>
    split_ifs at h with hoctal hnull
    · obtain ⟨rfl, rfl⟩ := Prod.mk.inj (Option.some.inj h)
      exact isEscape_octal hoctal
    · have hoctal : isOctalDigit c = false := by simpa using hoctal
      split at h
      · next d more _ =>
        split_ifs at h with htwo
        · obtain ⟨rfl, rfl⟩ := Prod.mk.inj (Option.some.inj h)
          exact ⟨rfl, .beforeLineEnd c d htwo.1 htwo.2⟩
        · obtain ⟨rfl, rfl⟩ := Prod.mk.inj (Option.some.inj h)
          refine ⟨rfl, .single c hu hx hoctal hnull fun hc e he => ?_⟩
          obtain rfl : d = e := Option.some.inj he
          by_contra hend
          exact htwo ⟨hc, by simpa using hend⟩
      · obtain ⟨rfl, rfl⟩ := Prod.mk.inj (Option.some.inj h)
        exact ⟨rfl, .single c hu hx hoctal hnull fun _ e he => by cases he⟩
  · cases h

/-- A character that begins none of the longer escapes is left to the rules for a single one. -/
theorem escapeBody_cons {c : Char} (hu : c ≠ 'u') (hx : c ≠ 'x') (rest : List Char) :
    escapeBody (c :: rest) =
      if isOctalDigit c then
        some ((c :: rest.takeWhile isOctalDigit).take 3,
          (c :: rest).drop ((c :: rest.takeWhile isOctalDigit).take 3).length)
      else if c = '\x00' then none
      else
        match rest with
        | d :: more =>
          if (c = '\r' ∨ c = '?') ∧ isLineEnd d then some ([c, d], more) else some ([c], rest)
        | [] => some ([c], rest) := by
  unfold escapeBody
  split
  · next heq => exact absurd (List.cons.inj heq).1 hu
  · next heq => exact absurd (List.cons.inj heq).1 hx
  · next heq => exact absurd (List.cons.inj heq).1 hx
  · next heq =>
    obtain ⟨rfl, rfl⟩ := List.cons.inj heq
    rfl
  · next heq => cases heq

/-- Every escape of the grammar is read behind a backslash. -/
theorem IsEscape.reads {next body : List Char} (h : IsEscape next body) :
    Reads escapeBody body body next := by
  have hunicode : ∀ inner, unicodeBody (inner ++ next) = some (inner, next) →
      Reads escapeBody ('u' :: inner) ('u' :: inner) next := by
    intro inner hinner
    show (unicodeBody (inner ++ next)).map _ = _
    rw [hinner]
    rfl
  have hplain : (['\r', '?'].all fun c =>
      c ≠ 'u' ∧ c ≠ 'x' ∧ isOctalDigit c = false ∧ c ≠ '\x00') = true := by
    decide
  cases h with
  | two d₁ d₂ => exact if_pos (Printing.all_isHexDigit_map [d₁, d₂])
  | four d₁ d₂ d₃ d₄ =>
    exact hunicode _ (Printing.unicodeBody_digits (Printing.all_isHexDigit_map [d₁, d₂, d₃, d₄]))
  | braced digits hne =>
    obtain ⟨first, rest, rfl⟩ := List.exists_cons_of_ne_nil hne
    refine hunicode _ ?_
    rw [List.cons_append, List.append_assoc]
    exact Printing.unicodeBody_braces (Printing.all_isHexDigit_map (first :: rest))
  | octal c digits hall hlength hend =>
    have hc : isOctalDigit c = true := hall c List.mem_cons_self
    have hne : ∀ d, isOctalDigit d = false → c ≠ d := by
      rintro d hd rfl
      exact Bool.false_ne_true (hd.symm.trans hc)
    have htake : ((digits ++ next).takeWhile isOctalDigit).take 2 = digits := by
      rw [List.takeWhile_append_of_pos fun d hd => hall d (List.mem_cons_of_mem c hd)]
      by_cases hfew : digits.length < 2
      · have hnone : next.takeWhile isOctalDigit = [] := by
          cases next with
          | nil => rfl
          | cons d more => exact List.takeWhile_cons_of_neg (by simp [hend hfew d rfl])
        rw [hnone, List.append_nil, List.take_of_length_le hlength]
      · rw [List.take_left' (by omega)]
    show escapeBody (c :: (digits ++ next)) = _
    rw [escapeBody_cons (hne 'u' (by decide)) (hne 'x' (by decide)), if_pos hc, List.take_succ_cons,
      htake, ← List.cons_append, List.drop_left]
  | single c hu hx hc hnull hend =>
    show escapeBody (c :: next) = some ([c], next)
    rw [escapeBody_cons hu hx, if_neg (by simp [hc]), if_neg hnull]
    cases next with
    | nil => rfl
    | cons d more =>
      refine if_neg ?_
      rintro ⟨hc, hd⟩
      exact Bool.false_ne_true ((hend hc d rfl).symm.trans hd)
  | beforeLineEnd c d hc hd =>
    obtain ⟨hu, hx, hoctal, hnull⟩ :=
      of_decide_eq_true (List.all_eq_true.1 hplain c (by simpa using hc))
    show escapeBody (c :: d :: next) = some ([c, d], next)
    rw [escapeBody_cons hu hx, if_neg (by simp [hoctal]), if_neg hnull]
    exact if_pos ⟨hc, hd⟩

/-! ## Strings -/

/-- What the grammar takes for a piece of a quoted string before what comes next. -/
inductive IsPiece (next : List Char) : Piece → Prop
  /-- A character that may stand for itself. -/
  | plain (c : Char) (hbackslash : c ≠ '\\') (hc : ¬(c = '\n' ∨ c = '\r' ∨ c = '\x00')) :
      IsPiece next (.plain c)
  /-- An escape. -/
  | escape (body : List Char) (h : IsEscape next body) : IsPiece next (.escape body)

/-- The reader of quoted strings takes the pieces of the grammar, one at a time. -/
theorem stringPiece_eq_some_iff {cs rest : List Char} {found : List Piece} :
    stringPiece cs = some (found, rest) ↔
      ∃ p, found = [p] ∧ cs = p.text ++ rest ∧ IsPiece rest p := by
  constructor
  · intro h
    unfold stringPiece at h
    split at h
    · next after =>
      obtain ⟨⟨body, left⟩, hread, heq⟩ := Option.map_eq_some_iff.1 h
      obtain ⟨rfl, rfl⟩ := Prod.mk.inj heq
      obtain ⟨rfl, hescape⟩ := escapeBody_eq_some hread
      exact ⟨.escape body, rfl, rfl, .escape body hescape⟩
    · next c after hbackslash =>
      split_ifs at h with hc
      obtain ⟨rfl, rfl⟩ := Prod.mk.inj (Option.some.inj h)
      exact ⟨.plain c, rfl, rfl, .plain c hbackslash hc⟩
    · cases h
  · rintro ⟨p, rfl, rfl, hp⟩
    cases hp with
    | plain c hbackslash hc =>
      show stringPiece (c :: rest) = _
      rw [stringPiece, if_neg hc]
      exact hbackslash
    | escape body hescape =>
      have hread : escapeBody (body ++ rest) = some (body, rest) := hescape.reads
      show (escapeBody (body ++ rest)).map _ = _
      rw [hread]
      rfl

/-- Pieces stand one after the other, none of them begins with the quote, and the quote follows. -/
inductive IsString (quote : Char) (next : List Char) : List Piece → Prop
  /-- No pieces. -/
  | nil : IsString quote next []
  /-- A piece before others. -/
  | cons {p : Piece} {rest : List Piece} (hquote : p.text.head? ≠ some quote)
      (hp : IsPiece (rest.flatMap Piece.text ++ quote :: next) p)
      (hrest : IsString quote next rest) :
      IsString quote next (p :: rest)

section IsString

variable {quote : Char} {next : List Char} {pieces : List Piece}

/-- The text of a piece has a first character. -/
theorem Piece.text_ne_nil (p : Piece) : p.text ≠ [] := by
  cases p <;> exact List.cons_ne_nil _ _

/-- What the turns of the reader of quoted strings take is pieces one after the other. -/
theorem isString_of_readsAll {text : List Char}
    (h : ReadsAll (comesNext [quote]) stringPiece (quote :: next) text pieces) :
    text = pieces.flatMap Piece.text ∧ IsString quote next pieces := by
  induction h with
  | nil => exact ⟨rfl, .nil⟩
  | @cons text more found others hne hgo hone _ ih =>
    obtain ⟨rfl, hrest⟩ := ih
    obtain ⟨p, rfl, htext, hp⟩ := stringPiece_eq_some_iff.1 hone
    obtain rfl : text = p.text := List.append_cancel_right htext
    refine ⟨rfl, .cons (fun hquote => ?_) hp hrest⟩
    rw [comesNext, List.head?_append_of_ne_nil _ hne, hquote] at hgo
    simp at hgo

/-- Pieces one after the other are what the turns of the reader of quoted strings take. -/
theorem IsString.readsAll (h : IsString quote next pieces) :
    ReadsAll (comesNext [quote]) stringPiece (quote :: next)
      (pieces.flatMap Piece.text) pieces := by
  induction h with
  | nil => exact .nil (by simp [comesNext])
  | @cons p rest hquote hp _ ih =>
    refine .cons p.text_ne_nil ?_ (stringPiece_eq_some_iff.2 ⟨p, rfl, rfl, hp⟩) ih
    rw [comesNext, List.head?_append_of_ne_nil _ p.text_ne_nil]
    cases hhead : p.text.head? with
    | none => rfl
    | some c => simpa [hhead] using hquote

/-- Nothing behind the closing quote is of account for the pieces. -/
theorem IsString.any (h : IsString quote next pieces) (next' : List Char) :
    IsString quote next' pieces := by
  induction h with
  | nil => exact .nil
  | @cons p rest hquote hp _ ih =>
    refine .cons hquote ?_ ih
    have hhead : (rest.flatMap Piece.text ++ quote :: next).head? =
        (rest.flatMap Piece.text ++ quote :: next').head? := by
      simp [List.head?_append]
    cases hp with
    | plain c hbackslash hc => exact .plain c hbackslash hc
    | escape body hescape => exact .escape body (hescape.congr hhead)

end IsString

/-- A repeated reader took what its turns took, when every turn takes something that was there. -/
theorem readsAll_of_repeated {α : Type} {atEnd : List Char → Bool} {one : Reader (List α)}
    (hone : ∀ {cs found rest}, one cs = some (found, rest) → ∃ text, text ≠ [] ∧ cs = text ++ rest)
    {cs rest : List Char} {found : List α} (h : repeated atEnd one cs = some (found, rest)) :
    ∃ text, cs = text ++ rest ∧ ReadsAll atEnd one rest text found := by
  have hmany : ∀ (limit : Nat) {cs rest : List Char} {found : List α},
      many atEnd one limit cs = some (found, rest) →
        ∃ text, cs = text ++ rest ∧ ReadsAll atEnd one rest text found := by
    intro limit
    induction limit with
    | zero => exact fun h => by cases h
    | succ limit ih =>
      intro cs rest found h
      unfold many at h
      by_cases hend : atEnd cs = true
      · rw [if_pos hend] at h
        obtain ⟨rfl, rfl⟩ := Prod.mk.inj (Option.some.inj h)
        exact ⟨[], rfl, .nil hend⟩
      · rw [if_neg hend] at h
        obtain ⟨⟨first, left⟩, hfirst, h⟩ := Option.bind_eq_some_iff.1 h
        obtain ⟨⟨others, after⟩, hothers, heq⟩ := Option.map_eq_some_iff.1 h
        obtain ⟨rfl, rfl⟩ := Prod.mk.inj heq
        obtain ⟨text, hne, rfl⟩ := hone hfirst
        obtain ⟨more, rfl, hmore⟩ := ih hothers
        exact ⟨text ++ more, (List.append_assoc _ _ _).symm,
          .cons hne (by simpa using hend) hfirst hmore⟩
  exact hmany _ h

/-- A mark that was read was there. -/
theorem mark_eq_some {text : String} {cs rest : List Char} {shape : Shape}
    (h : mark text cs = some (shape, rest)) :
    cs = text.toList ++ rest ∧ shape = markShape text := by
  obtain ⟨⟨_, left⟩, hread, heq⟩ := Option.bind_eq_some_iff.1 h
  unfold exactly at hread
  split_ifs at hread with hprefix
  obtain ⟨more, rfl⟩ := List.isPrefixOf_iff_prefix.1 hprefix
  obtain ⟨-, rfl⟩ := Prod.mk.inj (Option.some.inj hread)
  obtain ⟨rfl, rfl⟩ := Prod.mk.inj (Option.some.inj heq)
  exact ⟨by rw [List.drop_left], rfl⟩

/-- The text of a string of pieces. -/
def quotedText (quote : Char) (pieces : List Piece) : List Char :=
  [quote] ++ (pieces.flatMap Piece.text ++ [quote])

/-- The shape of a string of pieces. -/
def quotedShape (quote : Char) (pieces : List Piece) : Shape :=
  .branch .string none (markShape (String.singleton quote) ::
    Piece.shapes .stringFragment pieces ++ [markShape (String.singleton quote)])

section Between

variable {quote : Char} {pieces : List Piece}

/-- A quoted string that was read is its quotes, and between them the pieces that were taken one
after the other. -/
theorem between_eq_some {cs rest : List Char} {shape : Shape}
    (h : between .string quote stringPiece cs = some (shape, rest)) :
    ∃ pieces, cs = quotedText quote pieces ++ rest ∧ shape = quotedShape quote pieces ∧
      IsString quote rest pieces := by
  obtain ⟨⟨opening, inside⟩, hopening, h⟩ := Option.bind_eq_some_iff.1 h
  obtain ⟨⟨pieces, behind⟩, hpieces, h⟩ := Option.bind_eq_some_iff.1 h
  obtain ⟨⟨closing, after⟩, hclosing, heq⟩ := Option.bind_eq_some_iff.1 h
  obtain ⟨rfl, rfl⟩ := mark_eq_some hopening
  obtain ⟨rfl, rfl⟩ := mark_eq_some hclosing
  obtain ⟨rfl, rfl⟩ := Prod.mk.inj (Option.some.inj heq)
  have htakes : ∀ {cs found rest}, stringPiece cs = some (found, rest) →
      ∃ text, text ≠ [] ∧ cs = text ++ rest := by
    intro cs found rest h
    obtain ⟨p, -, rfl, -⟩ := stringPiece_eq_some_iff.1 h
    exact ⟨p.text, p.text_ne_nil, rfl⟩
  rw [String.toList_singleton] at hpieces ⊢
  obtain ⟨text, rfl, hall⟩ := readsAll_of_repeated htakes hpieces
  obtain ⟨rfl, hstring⟩ := isString_of_readsAll hall
  exact ⟨pieces, by simp [quotedText], rfl, hstring⟩

/-- A string is read as it is written, whatever follows it. -/
theorem IsString.reads {next : List Char} (h : IsString quote next pieces) (next' : List Char) :
    Reads (between .string quote stringPiece) (quotedText quote pieces) (quotedShape quote pieces)
      next' :=
  reads_between_pieces (h.any next').readsAll

/-- A quoted string is an expression, read as it is written, whatever follows it. -/
theorem IsString.reads_expression {next : List Char} (h : IsString quote next pieces)
    (hquote : quote = '"' ∨ quote = '\'') {depth : Nat} (hdepth : depth ≠ 0) (next' : List Char) :
    Reads (expression depth .value) (quotedText quote pieces) (quotedShape quote pieces) next' := by
  obtain ⟨depth, rfl⟩ := Nat.exists_eq_succ_of_ne_zero hdepth
  rcases hquote with rfl | rfl
  · exact Reads.skip (reads_firstOf? rfl) (h.reads next')
  · exact Reads.skip (reads_firstOf? rfl) (h.reads next')

/-- There are no errors in a string. -/
theorem allKinds_quotedShape : (quotedShape quote pieces).allKinds (· ≠ .error) = true := by
  unfold quotedShape
  rw [Shape.allKinds, List.cons_append, Shape.allKindsOfAll, Shape.allKindsOfAll_append,
    Piece.allKinds_shapes rfl (fun _ _ => rfl) fun _ _ => rfl]
  rfl

end Between

end IconSubset.Tsx.Constant
