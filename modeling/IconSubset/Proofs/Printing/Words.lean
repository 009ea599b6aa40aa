import IconSubset.Proofs.Tsx.Reading

/-!
# Words and names

Identifiers, and the names of elements and attributes, as they are written in a module. An
identifier is a word of letters of any script or their escapes, with no ASCII digit at the start,
that is neither reserved nor `using`. The name of an attribute may have hyphens and stand in a
namespace, and that of an element may also be the name of a member. Each is read as it is written,
up to a character that is no part of it.
-/

namespace IconSubset.Printing

open Tsx Tsx.Constant

/-! ## ASCII characters -/

/-- A character has at most the number of the characters that it precedes. -/
theorem toNat_le_of_le {c d : Char} (h : c ≤ d) : c.toNat ≤ d.toNat := UInt32.le_iff_toNat_le.1 h

/-- What holds of every character of ASCII. -/
theorem imp_of_toNat_lt {p q : Char → Bool}
    (h : ∀ n : Fin 128, p (Char.ofNat n) = true → q (Char.ofNat n) = true) {c : Char}
    (hc : c.toNat < 128) (hp : p c = true) : q c = true := by
  have hq := h ⟨c.toNat, hc⟩
  rw [Char.ofNat_toNat] at hq
  exact hq hp

/-- The characters of a name belong to ASCII. -/
theorem toNat_lt_of_isNamePart {c : Char} (h : isNamePart c = true) : c.toNat < 128 := by
  -- Each range of such characters ends before the end of ASCII.
  have hc : c ≤ 'Z' ∨ c ≤ 'z' ∨ c = '_' ∨ c = '$' ∨ c ≤ '9' := by
    unfold isNamePart isNameStart Char.isAlpha Char.isUpper Char.isLower Char.isDigit at h
    simp only [Bool.or_eq_true, beq_iff_eq, Bool.and_eq_true, decide_eq_true_eq] at h
    tauto
  rcases hc with hc | hc | rfl | rfl | hc
  · exact Nat.lt_of_le_of_lt (toNat_le_of_le hc) (by decide)
  · exact Nat.lt_of_le_of_lt (toNat_le_of_le hc) (by decide)
  · decide
  · decide
  · exact Nat.lt_of_le_of_lt (toNat_le_of_le hc) (by decide)

/-- The characters of a name may stand in a word. -/
theorem isWordPart_of_isNamePart {c : Char} (h : isNamePart c = true) : isWordPart c = true :=
  imp_of_toNat_lt (by decide) (toNat_lt_of_isNamePart h) h

/-- Hexadecimal digits may stand in a name. -/
theorem isNamePart_of_isHexDigit {c : Char} (h : isHexDigit c = true) : isNamePart c = true := by
  have hc : c ≤ '9' ∨ c ≤ 'f' ∨ c ≤ 'F' := by
    unfold isHexDigit Text.hexDigit? at h
    split_ifs at h with hdecimal hlower hupper
    · exact .inl hdecimal.2
    · exact .inr (.inl hlower.2)
    · exact .inr (.inr hupper.2)
    · cases h
  have hlt : c.toNat < 128 := by
    rcases hc with hc | hc | hc <;> exact Nat.lt_of_le_of_lt (toNat_le_of_le hc) (by decide)
  exact imp_of_toNat_lt (by decide) hlt h

/-! ## Letters -/

/-- A letter of a word. -/
inductive Letter where
  /-- A character that stands for itself. -/
  | plain (c : Char) (hc : isWordPart c = true)
  /-- An escape with four digits. -/
  | escape (a b c d : Char) (hdigits : [a, b, c, d].all isHexDigit = true)
  /-- An escape with digits in braces. -/
  | bracedEscape (first : Char) (rest : List Char) (hdigits : (first :: rest).all isHexDigit = true)

/-- How a letter is written. -/
def Letter.text : Letter → List Char
  | plain c _ => [c]
  | escape a b c d _ => ['\\', 'u', a, b, c, d]
  | bracedEscape first rest _ => "\\u\x7b".toList ++ first :: rest ++ ['}']

/-- A letter is written with a character at least. -/
theorem Letter.text_ne_nil (l : Letter) : l.text ≠ [] := by
  cases l <;> exact List.cons_ne_nil _ _

/-- Whether a character can occur where words are written: in a word itself, or in an escape. -/
def isWordChar (c : Char) : Bool := isWordPart c || "\\\x7b\x7d".toList.contains c

/-- The characters of words are no blanks. -/
theorem not_isAsciiBlank_of_isWordChar {c : Char} (h : isWordChar c = true) :
    isAsciiBlank c = false := by
  rcases Bool.or_eq_true_iff.1 h with hpart | hmark
  · rw [Bool.eq_false_iff]
    intro hblank
    unfold isWordPart isSeparator at hpart
    simp [hblank] at hpart
  · have hall : ("\\\x7b\x7d".toList.all fun c => !isAsciiBlank c) = true := by decide
    exact Bool.not_eq_eq_eq_not.1 (List.all_eq_true.1 hall c (List.contains_iff_mem.1 hmark))

/-- Letters are written with characters of words. -/
theorem Letter.isWordChar_of_mem {l : Letter} {c : Char} (h : c ∈ l.text) :
    isWordChar c = true := by
  have hpart : ∀ {d : Char}, isWordPart d = true → isWordChar d = true := by
    intro d hd
    unfold isWordChar
    rw [hd, Bool.true_or]
  have hhex : ∀ {ds : List Char}, ds.all isHexDigit = true → ∀ d ∈ ds, isWordChar d = true :=
    fun hds d hd => hpart (isWordPart_of_isNamePart
      (isNamePart_of_isHexDigit (List.all_eq_true.1 hds d hd)))
  cases l with
  | plain d hd =>
    obtain rfl := List.mem_singleton.1 h
    exact hpart hd
  | escape a b c d hdigits =>
    rcases List.mem_append.1 (show _ ∈ "\\u".toList ++ [a, b, c, d] from h) with h | h
    · revert h
      exact fun h => List.all_eq_true.1 (show "\\u".toList.all isWordChar = true by decide) _ h
    · exact hhex hdigits _ h
  | bracedEscape first rest hdigits =>
    rcases List.mem_append.1 h with h | h
    · rcases List.mem_append.1 h with h | h
      · exact List.all_eq_true.1 (show "\\u\x7b".toList.all isWordChar = true by decide) _ h
      · exact hhex hdigits _ h
    · obtain rfl := List.mem_singleton.1 h
      decide

/-- Braces are no hexadecimal digits. -/
theorem not_isHexDigit_brace {c : Char} (h : c ∈ "\x7b\x7d".toList) : ¬isHexDigit c = true := by
  have hall : ("\x7b\x7d".toList.all fun c => !isHexDigit c) = true := by decide +kernel
  exact Bool.eq_false_iff.1 (Bool.not_eq_eq_eq_not.1 (List.all_eq_true.1 hall c h))

/-- Four digits of an escape are read as they are written. -/
theorem unicodeBody_digits {a b c d : Char} {next : List Char}
    (hdigits : [a, b, c, d].all isHexDigit = true) :
    unicodeBody (a :: b :: c :: d :: next) = some ([a, b, c, d], next) := by
  have hne : a ≠ '{' := by
    rintro rfl
    exact absurd (List.all_eq_true.1 hdigits '{' List.mem_cons_self)
      (not_isHexDigit_brace List.mem_cons_self)
  rw [unicodeBody]
  · exact if_pos hdigits
  · exact hne

/-- The digits of an escape are read up to the closing brace. -/
theorem unicodeBody_braces {first : Char} {rest next : List Char}
    (hdigits : (first :: rest).all isHexDigit = true) :
    unicodeBody ('{' :: (first :: rest ++ '}' :: next)) =
      some ('{' :: first :: rest ++ ['}'], next) := by
  have hclose := not_isHexDigit_brace (List.mem_cons_of_mem '{' (List.mem_singleton_self '}'))
  have htake : ((first :: rest) ++ '}' :: next).takeWhile isHexDigit = first :: rest := by
    rw [List.takeWhile_append_of_pos (List.all_eq_true.1 hdigits),
      List.takeWhile_cons_of_neg hclose, List.append_nil]
  have hdrop : ((first :: rest) ++ '}' :: next).dropWhile isHexDigit = '}' :: next := by
    rw [List.dropWhile_append_of_pos (List.all_eq_true.1 hdigits),
      List.dropWhile_cons_of_neg hclose]
  rw [unicodeBody, htake, hdrop]
  rfl

/-- A letter is read as it is written. -/
theorem reads_letter (l : Letter) (next : List Char) : Reads letter l.text l.text next := by
  unfold Reads
  cases l with
  | plain c hc =>
    have hne : c ≠ '\\' := by
      rintro rfl
      exact absurd hc (by decide)
    show letter (c :: next) = some ([c], next)
    rw [letter]
    · exact if_pos hc
    · exact fun rest h => absurd h hne
  | escape a b c d hdigits =>
    show (unicodeBody (a :: b :: c :: d :: next)).map _ = _
    rw [unicodeBody_digits hdigits]
    rfl
  | bracedEscape first rest hdigits =>
    have htext : Letter.text (.bracedEscape first rest hdigits) ++ next =
        '\\' :: 'u' :: '{' :: (first :: rest ++ '}' :: next) := by
      simp [Letter.text]
    rw [htext]
    show (unicodeBody ('{' :: (first :: rest ++ '}' :: next))).map _ = _
    rw [unicodeBody_braces hdigits]
    rfl

/-- A letter does not start with a hyphen, so it is read as well where hyphens may stand. -/
theorem reads_letterOrHyphen (l : Letter) (next : List Char) :
    Reads letterOrHyphen l.text l.text next := by
  have hletter := reads_letter l next
  obtain ⟨c, rest, htext⟩ := List.exists_cons_of_ne_nil l.text_ne_nil
  have hne : c ≠ '-' := by
    rintro rfl
    have hmem : '-' ∈ l.text := by
      rw [htext]
      exact List.mem_cons_self
    exact absurd (Letter.isWordChar_of_mem hmem) (by decide)
  unfold Reads at hletter ⊢
  rw [htext] at hletter ⊢
  rw [List.cons_append, letterOrHyphen]
  · exact hletter
  · exact fun rest h => absurd (List.cons.inj h).1 hne

/-- Chunks that a reader takes one by one are taken in a row, up to where it can take no more. -/
theorem readsAll_chunks {one : Reader (List Char)} {next : List Char} (hend : one next = none) :
    ∀ {chunks : List (List Char)}, (∀ t ∈ chunks, t ≠ [] ∧ ∀ rest, Reads one t t rest) →
      ReadsAll (fun cs => (one cs).isNone) one next chunks.flatten chunks.flatten
  | [], _ => .nil (by simp [hend])
  | t :: chunks, h => by
    obtain ⟨hne, hreads⟩ := h t List.mem_cons_self
    have hone := hreads (chunks.flatten ++ next)
    have hgo : (one (t ++ (chunks.flatten ++ next))).isNone = false := by
      rw [show one (t ++ (chunks.flatten ++ next)) = some _ from hone]
      rfl
    rw [List.flatten_cons]
    exact .cons hne hgo hone (readsAll_chunks hend fun u hu => h u (List.mem_cons_of_mem t hu))

/-! ## Words and identifiers -/

/-- A word: letters that start with no ASCII digit. -/
structure Word where
  /-- The letters. -/
  letters : List Letter
  /-- There is a letter. -/
  ne_nil : letters ≠ []
  /-- No digit stands at the start. -/
  start : ((letters.map Letter.text).flatten.head?.any Char.isDigit) = false

/-- How a word is written. -/
def Word.text (w : Word) : List Char := (w.letters.map Letter.text).flatten

/-- A word is written with a character at least. -/
theorem Word.text_ne_nil (w : Word) : w.text ≠ [] := by
  obtain ⟨l, rest, hletters⟩ := List.exists_cons_of_ne_nil w.ne_nil
  unfold Word.text
  rw [hletters, List.map_cons, List.flatten_cons]
  exact List.append_ne_nil_of_left_ne_nil l.text_ne_nil _

/-- A word is written with characters of words. -/
theorem Word.isWordChar_of_mem {w : Word} {c : Char} (h : c ∈ w.text) : isWordChar c = true := by
  obtain ⟨t, ht, hc⟩ := List.mem_flatten.1 h
  obtain ⟨l, _, rfl⟩ := List.mem_map.1 ht
  exact Letter.isWordChar_of_mem hc

/-- A word starts with a character of words. -/
theorem Word.exists_cons (w : Word) : ∃ c rest, w.text = c :: rest ∧ isWordChar c = true := by
  obtain ⟨c, rest, htext⟩ := List.exists_cons_of_ne_nil w.text_ne_nil
  refine ⟨c, rest, htext, Word.isWordChar_of_mem (w := w) ?_⟩
  rw [htext]
  exact List.mem_cons_self

/-- What starts with a word starts with no digit. -/
theorem Word.start_append (w : Word) (next : List Char) :
    (w.text ++ next).head?.any Char.isDigit = false := by
  have hstart : w.text.head?.any Char.isDigit = false := w.start
  obtain ⟨c, rest, htext, -⟩ := w.exists_cons
  rw [htext] at hstart ⊢
  exact hstart

/-- An identifier: a word that is neither reserved nor `using`. -/
structure Identifier extends Word where
  /-- It is none of the words that stand for no value. -/
  not_taken : takenWords.contains (String.ofList toWord.text) = false

/-- The shape of an identifier. -/
def Identifier.shape (id : Identifier) : Shape :=
  .token (.other (if id.text = "undefined".toList then "undefined" else "identifier")) none id.text

/-- An identifier is read as it is written, where no letter follows. -/
theorem reads_identifier (id : Identifier) {next : List Char} (hnext : letter next = none) :
    Reads identifier id.text id.shape next := by
  have hall : ∀ t ∈ id.letters.map Letter.text, t ≠ [] ∧ ∀ rest, Reads letter t t rest := by
    intro t ht
    obtain ⟨l, _, rfl⟩ := List.mem_map.1 ht
    exact ⟨l.text_ne_nil, reads_letter l⟩
  -- The letters are taken up to what follows, and make up a word that stands for a value.
  have hrun : repeated (fun cs => (letter cs).isNone) letter (id.text ++ next) =
      some (id.text, next) := (readsAll_chunks hnext hall).repeated
  have hletters : Reads letters id.text id.text next := by
    unfold Reads letters
    rw [id.start_append, if_neg Bool.false_ne_true, hrun]
    refine Option.filter_some_pos ?_
    show (!id.text.isEmpty && !takenWords.contains (String.ofList id.text)) = true
    rw [id.not_taken, List.isEmpty_eq_false_iff.2 id.text_ne_nil]
    rfl
  exact Reads.finish hletters Reads.pure

/-! ## Names of elements and attributes -/

/-- A name outside of namespaces. -/
inductive SimpleName where
  /-- A word. -/
  | word (w : Word)
  /-- ASCII characters and hyphens, of which there is one. -/
  | hyphenated (text : List Char) (hhyphen : text.contains '-' = true)
      (hstart : text.head?.any isNameStart = true)
      (hparts : (text.all fun c => isNamePart c || c == '-') = true)

namespace SimpleName

/-- How a name is written. -/
def text : SimpleName → List Char
  | word w => w.text
  | hyphenated text _ _ _ => text

/-- A name is written with characters of words and hyphens. -/
theorem isWordChar_of_mem {n : SimpleName} {c : Char} (h : c ∈ n.text) :
    (isWordChar c || c == '-') = true := by
  cases n with
  | word w => rw [Word.isWordChar_of_mem h, Bool.true_or]
  | hyphenated text hhyphen hstart hparts =>
    rcases Bool.or_eq_true_iff.1 (List.all_eq_true.1 hparts c h) with hc | hc
    · unfold isWordChar
      rw [isWordPart_of_isNamePart hc, Bool.true_or, Bool.true_or]
    · rw [hc, Bool.or_true]

/-- What is written is a name. -/
theorem isName_text (n : SimpleName) : isName n.text = true := by
  unfold isName
  cases n with
  | word w =>
    have hno : w.text.contains '-' = false := by
      rw [Bool.eq_false_iff]
      exact fun h => absurd (Word.isWordChar_of_mem (List.contains_iff_mem.1 h)) (by decide)
    have hstart : w.text.head?.any Char.isDigit = false := w.start
    show (if w.text.contains '-' then _ else
      !w.text.isEmpty && !w.text.head?.any Char.isDigit) = true
    rw [hno, if_neg Bool.false_ne_true, hstart, List.isEmpty_eq_false_iff.2 w.text_ne_nil]
    rfl
  | hyphenated text hhyphen hstart hparts =>
    show (if text.contains '-' then text.head?.any isNameStart &&
      text.all fun c => isNamePart c || c == '-' else _) = true
    rw [if_pos hhyphen, hstart, hparts]
    rfl

/-- A name starts with a character that is neither a blank nor a mark of a tag. -/
theorem exists_cons (n : SimpleName) :
    ∃ c rest, n.text = c :: rest ∧ (isWordChar c || c == '-') = true := by
  have hne : n.text ≠ [] := by
    intro h
    exact absurd n.isName_text (by rw [h]; decide)
  obtain ⟨c, rest, htext⟩ := List.exists_cons_of_ne_nil hne
  refine ⟨c, rest, htext, isWordChar_of_mem (n := n) ?_⟩
  rw [htext]
  exact List.mem_cons_self

/-- The chunks of a name that are read one by one: letters, or characters. -/
theorem exists_chunks (n : SimpleName) : ∃ chunks : List (List Char), chunks.flatten = n.text ∧
    ∀ t ∈ chunks, t ≠ [] ∧ ∀ rest, Reads letterOrHyphen t t rest := by
  cases n with
  | word w =>
    refine ⟨w.letters.map Letter.text, rfl, fun t ht => ?_⟩
    obtain ⟨l, _, rfl⟩ := List.mem_map.1 ht
    exact ⟨l.text_ne_nil, reads_letterOrHyphen l⟩
  | hyphenated text hhyphen hstart hparts =>
    have hflatten : (text.map ([·])).flatten = text := by
      rw [← List.flatMap_def]
      exact List.flatMap_singleton' text
    refine ⟨text.map ([·]), hflatten, fun t ht => ?_⟩
    obtain ⟨c, hc, rfl⟩ := List.mem_map.1 ht
    refine ⟨List.cons_ne_nil c [], fun rest => ?_⟩
    -- A character is a letter by itself, or the hyphen.
    rcases Bool.or_eq_true_iff.1 (List.all_eq_true.1 hparts c hc) with hpart | hhyphen
    · exact reads_letterOrHyphen (.plain c (isWordPart_of_isNamePart hpart)) rest
    · obtain rfl := beq_iff_eq.1 hhyphen
      rfl

end SimpleName

/-- A name is read as it is written, where neither a letter nor a hyphen follows. -/
theorem reads_simpleName (n : SimpleName) {next : List Char} (hnext : letterOrHyphen next = none) :
    Reads simpleName n.text n.text next := by
  obtain ⟨chunks, htext, hchunks⟩ := n.exists_chunks
  have hrun := (readsAll_chunks hnext hchunks).repeated
  rw [htext] at hrun
  unfold Reads at hrun ⊢
  unfold simpleName
  rw [hrun]
  exact Option.filter_some_pos n.isName_text

/-- A name that may stand in a namespace. -/
inductive QualifiedName where
  /-- A name outside of namespaces. -/
  | simple (name : SimpleName)
  /-- The name of a namespace, and a name in it. -/
  | namespaced (space name : SimpleName)

namespace QualifiedName

/-- How a name is written. -/
def text : QualifiedName → List Char
  | simple name => name.text
  | namespaced space name => space.text ++ (":".toList ++ name.text)

/-- The shape of a name; `kind` is the kind of one outside of namespaces. -/
def shape (kind : Syntax.Kind) : QualifiedName → Shape
  | simple name => .token kind none name.text
  | namespaced space name => .branch (.other "jsx_namespace_name") none
      [.token (.other "identifier") none space.text, markShape ":",
        .token (.other "identifier") none name.text]

/-- The shape of a name is that of what is written. -/
theorem chars_shape (kind : Syntax.Kind) (n : QualifiedName) : (n.shape kind).chars = n.text := by
  cases n with
  | simple name => rfl
  | namespaced space name => simp [shape, text, markShape, Shape.chars, Shape.charsOfAll]

/-- A name starts with a character that is neither a blank nor a mark of a tag. -/
theorem exists_cons (n : QualifiedName) :
    ∃ c rest, n.text = c :: rest ∧ (isWordChar c || c == '-') = true := by
  cases n with
  | simple name => exact name.exists_cons
  | namespaced space name =>
    obtain ⟨c, rest, htext, hc⟩ := space.exists_cons
    exact ⟨c, rest ++ (":".toList ++ name.text), by rw [text, htext]; rfl, hc⟩

end QualifiedName

/-- A name is read as it is written, where neither a part of it nor a colon follows. -/
theorem reads_qualifiedName (kind : Syntax.Kind) (n : QualifiedName) {next : List Char}
    (hnext : letterOrHyphen next = none) (hcolon : ":".toList.isPrefixOf next = false) :
    Reads (qualifiedName kind) n.text (n.shape kind) next := by
  cases n with
  | simple name =>
    exact Reads.finish (reads_simpleName name hnext)
      (Reads.skip (reads_startsWith hcolon) Reads.pure)
  | namespaced space name =>
    refine Reads.bind (reads_simpleName space rfl) (Reads.skip (reads_startsWith rfl) ?_)
    exact Reads.bind (reads_mark ":") (Reads.finish (reads_simpleName name hnext) Reads.pure)

/-- The name of an element. -/
inductive TagName where
  /-- A name by itself, which begins no part of a type parameter. -/
  | name (n : QualifiedName) (hword : typeParameterWords.contains (String.ofList n.text) = false)
  /-- The name of a member of an object, or of a member of that, and so on. -/
  | member (object : Word) (members : List Word) (hne : members ≠ [])

namespace TagName

/-- How the names of members are written. -/
def membersText (members : List Word) : List Char :=
  members.flatMap fun w => ".".toList ++ w.text

/-- How the name of an element is written. -/
def text : TagName → List Char
  | name n _ => n.text
  | member object members _ => object.text ++ membersText members

/-- The shape of the first name in it: of the object, when it is the name of a member. -/
def firstShape : TagName → Shape
  | name n _ => n.shape (.other "identifier")
  | member object _ _ => .token (.other "identifier") none object.text

/-- The shape of the name of an element. -/
def shape : TagName → Shape
  | name n _ => n.shape (.other "identifier")
  | member object members _ =>
    (members.map Word.text).foldl memberOf (.token (.other "identifier") none object.text)

/-- The name of an element starts with a character that is neither a blank nor a mark of a tag. -/
theorem exists_cons (t : TagName) :
    ∃ c rest, t.text = c :: rest ∧ (isWordChar c || c == '-') = true := by
  cases t with
  | name n hword => exact n.exists_cons
  | member object members hne =>
    obtain ⟨c, rest, htext, hc⟩ := SimpleName.exists_cons (.word object)
    exact ⟨c, rest ++ membersText members, by rw [text, show object.text = _ from htext]; rfl, hc⟩

end TagName

/-- The name of a member is read as it is written. -/
theorem reads_memberName (w : Word) {next : List Char} (hnext : letterOrHyphen next = none) :
    Reads memberName (".".toList ++ w.text) [w.text] next := by
  have hno : w.text.contains '-' = false := by
    rw [Bool.eq_false_iff]
    exact fun h => absurd (Word.isWordChar_of_mem (List.contains_iff_mem.1 h)) (by decide)
  refine Reads.bind (reads_mark ".") (Reads.finish (reads_simpleName (.word w) hnext) ?_)
  show Reads (if w.text.contains '-' then _ else _) [] [w.text] next
  rw [hno]
  exact Reads.pure

/-- The names of members are read one after the other. -/
theorem readsAll_members {next : List Char} (hnext : letterOrHyphen next = none)
    (hdot : (next.head? != some '.') = true) : ∀ members : List Word,
    ReadsAll (fun cs => cs.head? != some '.') memberName next (TagName.membersText members)
      (members.map Word.text)
  | [] => .nil hdot
  | w :: rest => by
    have hmore : letterOrHyphen (TagName.membersText rest ++ next) = none := by
      cases rest with
      | nil => exact hnext
      | cons v rest => rfl
    exact .cons (List.cons_ne_nil _ _) rfl (reads_memberName w hmore)
      (readsAll_members hnext hdot rest)

/-- The name of an element is read as it is written, up to the end of its tag or a blank. -/
theorem reads_tagName {place : Place} (t : TagName) (hplace : place.admitsTag t.firstShape = true)
    {c : Char} {rest : List Char} (hc : c = ' ' ∨ c = '>') :
    Reads (tagName place) t.text t.shape (c :: rest) := by
  have hnext : letterOrHyphen (c :: rest) = none := by
    rcases hc with rfl | rfl <;> rfl
  have hcolon : ":".toList.isPrefixOf (c :: rest) = false := by
    rcases hc with rfl | rfl <;> rfl
  have hdot : ".".toList.isPrefixOf (c :: rest) = false := by
    rcases hc with rfl | rfl <;> rfl
  cases t with
  | name n hword =>
    refine Reads.finish (reads_qualifiedName _ n hnext hcolon) ?_
    refine Reads.unless hplace (Reads.skip (reads_startsWith hdot) ?_)
    show Reads (if typeParameterWords.contains (String.ofList (n.shape _).chars)
      then _ else _) [] _ _
    rw [n.chars_shape, hword]
    exact Reads.pure
  | member object members hne =>
    obtain ⟨w, more, rfl⟩ := List.exists_cons_of_ne_nil hne
    -- The object is a word, so it has members.
    have hplain : (object.text.any fun c => c == '-' || c == ':') = false := by
      rw [Bool.eq_false_iff]
      intro h
      obtain ⟨d, hd, hmark⟩ := List.any_eq_true.1 h
      have hchar := Word.isWordChar_of_mem hd
      rcases Bool.or_eq_true_iff.1 hmark with hmark | hmark
      · obtain rfl := beq_iff_eq.1 hmark
        exact absurd hchar (by decide)
      · obtain rfl := beq_iff_eq.1 hmark
        exact absurd hchar (by decide)
    refine Reads.bind (reads_qualifiedName _ (.simple (.word object)) rfl rfl) ?_
    refine Reads.unless hplace (Reads.skip (reads_startsWith rfl) ?_)
    show Reads (if object.text.any (fun c => c == '-' || c == ':') then _ else _) _ _ _
    rw [hplain]
    exact Reads.finish (readsAll_members hnext (by rcases hc with rfl | rfl <;> rfl) _).repeated
      Reads.pure

end IconSubset.Printing
