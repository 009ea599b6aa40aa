import IconSubset.Proofs.Html.Productions
import IconSubset.Proofs.Html.Suffix

/-!
# Tokens at the beginning of a source

What is found at a place is what is found at the beginning of the rest of the source (`first`), so
each kind of token is read once, from a list of characters: the marks of tags and doctypes, their
names and text, comments (`first_comment`), and raw text up to its end tag (`first_rawText`). How
the scanner looks for that end tag is told by what of it is still to come (`endTagLeft`): it
compares letter by letter and never goes back.
-/

namespace IconSubset.Parse.Source

/-- The source of these characters. -/
def ofList (cs : List Char) : Source := ⟨cs.toArray⟩

variable (cs : List Char)

/-- The source of a text is that of its characters. -/
theorem ofString_eq (s : String) : ofString s = ofList s.toList := rfl

/-- The source of more characters has the other one behind them. -/
theorem behind_ofList (front : List Char) : (ofList cs).behind front = ofList (front ++ cs) := by
  simp [behind, ofList]

@[simp] theorem size_ofList : (ofList cs).chars.size = cs.length := by simp [ofList]

@[simp] theorem peek_zero (c : Char) : (ofList (c :: cs)).peek 0 = c := rfl

@[simp] theorem peek_succ (c : Char) (i : Nat) :
    (ofList (c :: cs)).peek (i + 1) = (ofList cs).peek i := by
  simp [ofList, peek]

@[simp] theorem peek_nil (i : Nat) : (ofList []).peek i = '\x00' := by
  simp [ofList, peek]

@[simp] theorem peek_length (front : List Char) :
    (ofList (front ++ cs)).peek front.length = (ofList cs).peek 0 := by
  rw [← behind_ofList]
  exact peek_behind (ofList cs) front 0

@[simp] theorem peek_length_add (front : List Char) (i : Nat) :
    (ofList (front ++ cs)).peek (front.length + i) = (ofList cs).peek i := by
  rw [← behind_ofList, peek_behind]

/-- The text of a source at its beginning. -/
theorem slice_zero (a b : List Char) : (ofList (a ++ b)).slice 0 a.length = String.ofList a := by
  simp [slice, ofList]

/-- The text of a stretch of a source. -/
theorem slice_append (front a b : List Char) : (ofList (front ++ (a ++ b))).slice front.length
    (front.length + a.length) = String.ofList a := by
  rw [← behind_ofList (a ++ b)]
  exact (slice_behind (ofList (a ++ b)) front 0 a.length).trans (slice_zero a b)

/-- Characters that are met are there. -/
theorem exists_cons_of_peek {cs : List Char} {c : Char} (h : (ofList cs).peek 0 = c)
    (hc : c ≠ '\x00') : ∃ ds, cs = c :: ds := by
  cases cs with
  | nil => exact absurd (h.symm.trans (peek_nil 0)) hc
  | cons d ds => exact ⟨ds, by rw [← h, peek_zero]⟩

/-- A place whose character does not satisfy the predicate is not skipped. -/
theorem skipWhile_cons_neg {p : Char → Bool} {c : Char} (h : p c = false) :
    (ofList (c :: cs)).skipWhile p 0 = 0 := by
  rw [skipWhile_eq]
  simp [ofList, h]

/-- Characters that satisfy the predicate are skipped, up to one that does not. -/
theorem skipWhile_append {p : Char → Bool} {a : List Char} (ha : ∀ c ∈ a, p c = true) {c : Char}
    (hc : p c = false) : (ofList (a ++ c :: cs)).skipWhile p 0 = a.length := by
  induction a with
  | nil => exact skipWhile_cons_neg cs hc
  | cons d a ih =>
    have hbehind := skipWhile_behind (ofList (a ++ c :: cs)) [d] p 0
    rw [behind_ofList, ih fun e he => ha e (List.mem_cons_of_mem _ he)] at hbehind
    rw [skipWhile_eq, if_pos (by simpa [ofList] using ha d List.mem_cons_self)]
    simpa [Nat.add_comm] using hbehind

end IconSubset.Parse.Source

namespace IconSubset.Html

open Grammar (TerminalSet)
open Parse (Source Lexeme Memory Reading)

/-! ## What the lexer looks for -/

/-- The terminals of the scanner. -/
theorem terminals_eq : Scanner.terminals table.get.grammar =
    ⟨17, 18, 19, 20, 21, 6, 22, 23, 24⟩ := by
  obtain ⟨-, -, -, -, -, -, -, -, -, -, hterminals, -⟩ := table_facts
  exact hterminals

namespace Lexer

/-- The tokens between tags. -/
def betweenTags : Setting :=
  ⟨[⟨1, fun s i => spelled s i ['<', '!']⟩, ⟨5, fun s i => spelled s i ['<']⟩,
    ⟨7, fun s i => spelled s i ['<', '/']⟩, ⟨11, entity⟩, ⟨16, text⟩], true, true⟩

/-- The tokens within a tag. -/
def withinTag : Setting :=
  ⟨[⟨2, fun s i => spelled s i ['>']⟩, ⟨6, fun s i => spelled s i ['/', '>']⟩,
    ⟨8, fun s i => spelled s i ['=']⟩, ⟨9, fun s i => some1 s isAttributePart i⟩], true, false⟩

/-- The tokens behind the keyword of a doctype. -/
def withinDoctype : Setting :=
  ⟨[⟨3, fun s i => some1 s (fun c => c != '>' && c != '\x00') i⟩], false, false⟩

/-- The tokens of all other places. -/
def withoutPlace : Setting :=
  ⟨[⟨1, fun s i => spelled s i ['<', '!']⟩, ⟨2, fun s i => spelled s i ['>']⟩,
    ⟨4, fun s i => spelled s i ['d', 'o', 'c', 't', 'y', 'p', 'e']⟩,
    ⟨5, fun s i => spelled s i ['<']⟩, ⟨6, fun s i => spelled s i ['/', '>']⟩,
    ⟨7, fun s i => spelled s i ['<', '/']⟩, ⟨8, fun s i => spelled s i ['=']⟩, ⟨11, entity⟩,
    ⟨12, fun s i => spelled s i ['\'']⟩, ⟨13, fun s i => spelled s i ['"']⟩], true, true⟩

/-- The tokens of a value. -/
def ofValue : Setting :=
  ⟨[⟨10, fun s i => some1 s isValuePart i⟩, ⟨12, fun s i => spelled s i ['\'']⟩,
    ⟨13, fun s i => spelled s i ['"']⟩], true, false⟩

/-- The tokens within quotation marks. -/
def withinQuotes (quotes name : Nat) (quote : Char) : Setting :=
  ⟨[⟨quotes, fun s i => spelled s i [quote]⟩,
    ⟨name, fun s i => some1 s (fun c => c != quote && c != '\x00') i⟩], false, false⟩

/-- The kinds of places. -/
theorem settings_eq : settings table.get.grammar =
    [(16, betweenTags), (9, withinTag), (10, ofValue), (14, withinQuotes 12 14 '\''),
      (15, withinQuotes 13 15 '"'), (3, withinDoctype)] := by
  obtain ⟨-, -, -, -, -, -, -, -, -, -, -, hnamed, hliteral⟩ := table_facts
  simp only [List.map_cons, List.map_nil, List.cons.injEq, and_true] at hnamed hliteral
  obtain ⟨htext, hname, hvalue, hsingle, hdouble, hdoctypeText, -, hentity⟩ := hnamed
  obtain ⟨hdeclaration, htagEnd, htagStart, hselfClosing, hendTag, hequals, hquote, hquotes⟩ :=
    hliteral
  unfold settings within mark row token
  rw [htext, hname, hvalue, hsingle, hdouble, hdoctypeText, hentity, hdeclaration, htagEnd,
    htagStart, hselfClosing, hendTag, hequals, hquote, hquotes]
  rfl

/-- The tokens of all other places. -/
theorem elsewhere_eq : elsewhere table.get.grammar = withoutPlace := by
  obtain ⟨-, -, -, -, -, -, -, -, -, -, -, hnamed, hliteral⟩ := table_facts
  simp only [List.map_cons, List.map_nil, List.cons.injEq, and_true] at hnamed hliteral
  obtain ⟨-, -, -, -, -, -, hword, hentity⟩ := hnamed
  obtain ⟨hdeclaration, htagEnd, htagStart, hselfClosing, hendTag, hequals, hquote, hquotes⟩ :=
    hliteral
  unfold elsewhere mark token
  rw [hentity, hword, hdeclaration, htagEnd, htagStart, hselfClosing, hendTag, hequals, hquote,
    hquotes]
  rfl

/-- The kind of a place. -/
theorem setting_eq (expected : TerminalSet) : setting table.get.grammar expected =
    (([(16, betweenTags), (9, withinTag), (10, ofValue), (14, withinQuotes 12 14 '\''),
      (15, withinQuotes 13 15 '"'), (3, withinDoctype)] : List (Nat × Setting)).find?
        (expected.contains ·.1)).elim withoutPlace (·.2) := by
  rw [setting, settings_eq, elsewhere_eq]

variable {memory : Memory} {expected : TerminalSet}

/-- The token that is found at the beginning of a source. Comments alone do not count when they have
no characters. -/
def first (cs : List Char) (memory : Memory) (expected : TerminalSet) : Option Lexeme :=
  found? ((lexer table.get.grammar).attempt (.ofList cs) memory expected
    (fun x => !(TerminalSet.singleton Symbol.comment).contains x) 0)

/-- What the scanner finds at the beginning of a source. -/
def scanned (cs : List Char) (memory : Memory) (expected : TerminalSet) : Option Lexeme :=
  Scanner.scan ⟨17, 18, 19, 20, 21, 6, 22, 23, 24⟩ (.ofList cs) memory expected 0

/-- Where the scanner finds nothing, the token is an ordinary one. -/
theorem first_of_scanned_eq_none {cs : List Char} (h : scanned cs memory expected = none) :
    first cs memory expected =
      found? ((setting table.get.grammar expected).read (.ofList cs) 0) := by
  unfold scanned at h
  unfold first Parse.Lexer.attempt lexer
  simp only [terminals_eq, h, Option.filter_none]

/-- What the scanner finds is the token when it is not empty or is no comment. -/
theorem first_of_scanned_eq_some {cs : List Char} {l : Lexeme}
    (h : scanned cs memory expected = some l)
    (hl : 0 < l.stop ∨ (TerminalSet.singleton Symbol.comment).contains l.terminal = false) :
    first cs memory expected = some l := by
  unfold scanned at h
  have hkept : (l.stop > 0 || l.memory != memory ||
      !(TerminalSet.singleton Symbol.comment).contains l.terminal : Bool) = true := by
    obtain hl | hl := hl
    · simp [hl]
    · simp [hl]
  unfold first Parse.Lexer.attempt lexer
  simp only [terminals_eq, h, Option.filter_some, hkept, if_true]
  rfl

/-- White space before a token is passed over by the scanner. -/
theorem scanned_of_space {w : List Char} (hw : ∀ c ∈ w, isSpace c = true) {c : Char}
    (hc : isSpace c = false) (cs : List Char) (hspecial : c ≠ '<' ∧ c ≠ '\x00' ∧ c ≠ '/')
    (hraw : expected.contains 23 = false) :
    scanned (w ++ c :: cs) memory expected =
      if expected.contains 17 || expected.contains 20 then
        Scanner.tagName ⟨17, 18, 19, 20, 21, 6, 22, 23, 24⟩ (.ofList (w ++ c :: cs))
          (Scanner.opened memory) (expected.contains 17) w.length
      else none := by
  unfold scanned Scanner.scan
  simp only [hraw, Source.skipWhile_append cs hw hc, Source.peek_length, Source.peek_zero,
    Bool.false_and, Bool.not_false, Bool.and_true, Bool.false_eq_true, if_false]
  split
  next => exact absurd rfl hspecial.1
  next => exact absurd rfl hspecial.2.1
  next => exact absurd rfl hspecial.2.2
  next => rfl

/-- No comment begins here. -/
theorem commentEnd_eq_none {s : Source} {i : Nat} (h : ¬ (s.peek i = '-' ∧ s.peek (i + 1) = '-')) :
    Scanner.commentEnd s i = none := by
  unfold Scanner.commentEnd
  rw [if_neg (by simpa using h)]

/-- Only a comment is a token of the scanner where a tag can neither be named nor end. -/
theorem scanned_eq_none {w : List Char} (hw : ∀ c ∈ w, isSpace c = true) {c : Char}
    (hc : isSpace c = false) {cs : List Char} (hcomment : ¬ ['<', '!', '-', '-'] <+: c :: cs)
    (hno : ∀ x ∈ [6, 17, 20, 22, 23], expected.contains x = false) :
    scanned (w ++ c :: cs) memory expected = none := by
  simp only [List.forall_mem_cons, List.not_mem_nil, false_implies, implies_true, and_true] at hno
  obtain ⟨hselfClosing, hstart, hend, himplied, hraw⟩ := hno
  by_cases hspecial : c ≠ '<' ∧ c ≠ '\x00' ∧ c ≠ '/'
  · rw [scanned_of_space hw hc cs hspecial hraw, hstart, hend]
    rfl
  have hpeek : ∀ i, (Source.ofList (w ++ c :: cs)).peek (w.length + (i + 1)) =
      (Source.ofList cs).peek i := by
    intro i
    rw [Source.peek_length_add, Source.peek_succ]
  unfold scanned Scanner.scan
  simp only [hraw, hselfClosing, himplied, Source.skipWhile_append cs hw hc, Source.peek_length,
    Source.peek_zero, Bool.false_and, Bool.false_eq_true, if_false]
  split
  next =>
    by_cases hmark : (Source.ofList cs).peek 0 = '!'
    · obtain ⟨ds, rfl⟩ := Source.exists_cons_of_peek hmark (by decide)
      rw [if_pos (by rw [hpeek 0, hmark]; rfl), commentEnd_eq_none, Option.map_none]
      rintro ⟨hdash, hdash'⟩
      rw [hpeek 1, Source.peek_succ] at hdash
      obtain ⟨es, rfl⟩ := Source.exists_cons_of_peek hdash (by decide)
      rw [Nat.add_assoc, hpeek 2, Source.peek_succ, Source.peek_succ] at hdash'
      obtain ⟨fs, rfl⟩ := Source.exists_cons_of_peek hdash' (by decide)
      exact hcomment (List.prefix_append _ _)
    · rw [if_neg (by rw [hpeek 0]; simpa using hmark)]
  next => rfl
  next => rfl
  next hlt hnul hslash => exact absurd ⟨hlt, hnul, hslash⟩ hspecial

/-- At the very beginning the same holds. -/
theorem scanned_eq_none_zero {c : Char} (hc : isSpace c = false) {cs : List Char}
    (hcomment : ¬ ['<', '!', '-', '-'] <+: c :: cs)
    (hno : ∀ x ∈ [6, 17, 20, 22, 23], expected.contains x = false) :
    scanned (c :: cs) memory expected = none :=
  scanned_eq_none (w := []) (List.forall_mem_nil _) hc hcomment hno

/-- Behind white space the longest of the tokens of a place is found. -/
theorem first_of_longest {k : Setting} {w : List Char} (hw : ∀ c ∈ w, isSpace c = true) {c : Char}
    (hc : isSpace c = false) {cs : List Char}
    (hscan : scanned (w ++ c :: cs) memory expected = none)
    (hk : setting table.get.grammar expected = k) (hspaced : k.spaced = true) {x stop : Nat}
    (h : longest k.looks (.ofList (c :: cs)) 0 = some (x, stop)) :
    first (w ++ c :: cs) memory expected = some ⟨x, w.length, w.length + stop, none⟩ := by
  have hlongest := longest_behind (.ofList (c :: cs)) w (setting_ahead table.get.grammar expected) 0
  rw [hk, h, Source.behind_ofList] at hlongest
  rw [first_of_scanned_eq_none hscan, hk]
  unfold Setting.read
  simp only [hspaced, if_true, Source.skipWhile_append cs hw hc]
  rw [show w.length = w.length + 0 from rfl, hlongest]
  rfl

/-- At the very beginning the longest of the tokens of a place is found. -/
theorem first_of_longest_zero {k : Setting} {c : Char} (hc : isSpace c = false) {cs : List Char}
    (hscan : scanned (c :: cs) memory expected = none)
    (hk : setting table.get.grammar expected = k) (hspaced : k.spaced = true) {x stop : Nat}
    (h : longest k.looks (.ofList (c :: cs)) 0 = some (x, stop)) :
    first (c :: cs) memory expected = some ⟨x, 0, stop, none⟩ := by
  simpa using first_of_longest (w := []) (List.forall_mem_nil _) hc hscan hk hspaced h

/-- No character reference begins with another character. -/
theorem entity_zero {c : Char} (hc : c ≠ '&') (cs : List Char) :
    entity (.ofList (c :: cs)) 0 = none := by
  simp [entity, hc]

/-- Nothing begins with a character that does not belong to it. -/
theorem some1_zero {p : Char → Bool} {c : Char} (hc : p c = false) (cs : List Char) :
    some1 (.ofList (c :: cs)) p 0 = none := by
  simp [some1, Source.skipWhile_cons_neg cs hc]

/-- No text begins with a character that does not belong to text. -/
theorem text_zero {c : Char} (hc : isTextPart c = false) (cs : List Char) :
    text (.ofList (c :: cs)) 0 = none := by
  unfold text
  rw [some1_zero hc, Option.map_none, ite_self]

/-- The tokens between tags. -/
theorem setting_of_text (hplace : expected.contains 16 = true) :
    setting table.get.grammar expected = betweenTags := by
  rw [setting_eq]
  simp [hplace]

/-- Between tags `<!` is a token, unless a comment begins with it. -/
theorem first_declaration {cs : List Char} (hcomment : ¬ ['-', '-'] <+: cs)
    (hno : ∀ x ∈ [6, 17, 20, 22, 23], expected.contains x = false)
    (hplace : expected.contains 16 = true) :
    first ('<' :: '!' :: cs) memory expected = some ⟨1, 0, 2, none⟩ := by
  refine first_of_longest_zero (by decide) (scanned_eq_none_zero (by decide) ?_ hno)
    (setting_of_text hplace) rfl ?_
  · simpa using hcomment
  · simp [longest, longer, betweenTags, spelled, entity_zero, text_zero, isTextPart]

/-- Between tags `<` is a token. -/
theorem first_tagStart {c : Char} (hc : c.toLower ≠ '!' ∧ c.toLower ≠ '/') (cs : List Char)
    (hno : ∀ x ∈ [6, 17, 20, 22, 23], expected.contains x = false)
    (hplace : expected.contains 16 = true) :
    first ('<' :: c :: cs) memory expected = some ⟨5, 0, 1, none⟩ := by
  have hmark : '!' ≠ c := fun h => hc.1 (by rw [← h]; rfl)
  refine first_of_longest_zero (by decide) (scanned_eq_none_zero (by decide) ?_ hno)
    (setting_of_text hplace) rfl ?_
  · simp [hmark]
  · simp [longest, longer, betweenTags, spelled, entity_zero, text_zero, isTextPart, hc]

/-- The tokens of all other places. -/
theorem setting_of_none (hplace : ∀ x ∈ [16, 9, 10, 14, 15, 3], expected.contains x = false) :
    setting table.get.grammar expected = withoutPlace := by
  rw [setting_eq]
  simp only [List.forall_mem_cons, List.not_mem_nil, false_implies, implies_true, and_true]
    at hplace
  simp [hplace]

/-- White space is the same in lower case. -/
theorem toLower_of_isSpace {c : Char} (h : isSpace c = true) : c.toLower = c := by
  simp only [isSpace, Bool.or_eq_true, beq_iff_eq] at h
  obtain ((((rfl | rfl) | rfl) | rfl) | rfl) | rfl := h <;> decide

/-- The keyword of a doctype is a token. -/
theorem first_doctypeWord {w word : List Char} (hw : ∀ c ∈ w, isSpace c = true)
    (hword : word.map Char.toLower = ['d', 'o', 'c', 't', 'y', 'p', 'e']) (cs : List Char)
    (hno : ∀ x ∈ [6, 17, 20, 22, 23], expected.contains x = false)
    (hplace : ∀ x ∈ [16, 9, 10, 14, 15, 3], expected.contains x = false) :
    first (w ++ word ++ cs) memory expected = some ⟨4, w.length, (w ++ word).length, none⟩ := by
  rw [List.append_assoc, List.length_append]
  simp only [List.map_eq_cons_iff, List.map_eq_nil_iff] at hword
  obtain ⟨d, -, rfl, hd, o, -, rfl, ho, c, -, rfl, hc, t, -, rfl, ht, y, -, rfl, hy, p, -, rfl, hp,
    e, -, rfl, he, rfl⟩ := hword
  have hne : ∀ c : Char, c.toLower ≠ 'd' → d ≠ c := fun c hc h => hc (h ▸ hd)
  have hspace : isSpace d = false := by
    by_contra hspace
    have hlower := toLower_of_isSpace (Bool.of_not_eq_false hspace)
    rw [← hlower, hd] at hspace
    exact hspace (by decide)
  refine first_of_longest hw hspace (scanned_eq_none hw hspace ?_ hno) (setting_of_none hplace) rfl
    ?_
  · simp [(hne '<' (by decide)).symm]
  · simp [longest, longer, withoutPlace, spelled, entity_zero, hne '&' (by decide), hd, ho, hc,
      ht, hy, hp, he]

/-- A beginning without a character ends before it. -/
theorem prefix_of_append {a b cs : List Char} {c : Char} (hc : c ∉ a) (h : a <+: b ++ c :: cs) :
    a <+: b := by
  obtain hab | ⟨t, rfl⟩ := List.prefix_or_prefix_of_prefix h (List.prefix_append b (c :: cs))
  · exact hab
  · cases t with
    | nil => simp
    | cons d t =>
      obtain ⟨rfl, -⟩ := List.cons_prefix_cons.1 ((List.prefix_append_right_inj b).1 h)
      exact absurd (List.mem_append_right _ List.mem_cons_self) hc

/-- The text of a doctype is a token, unless it begins with a comment. -/
theorem first_doctypeText {text : List Char} (hne : text ≠ [])
    (htext : ∀ c ∈ text, c ≠ '>' ∧ c ≠ '\x00')
    (hcomment : ¬ ['<', '!', '-', '-'] <+: text.dropWhile isSpace) (cs : List Char)
    (hno : ∀ x ∈ [6, 17, 20, 22, 23], expected.contains x = false)
    (hnoOther : ∀ x ∈ [16, 9, 10, 14, 15], expected.contains x = false)
    (hplace : expected.contains 3 = true) :
    first (text ++ '>' :: cs) memory expected = some ⟨3, 0, text.length, none⟩ := by
  have hscan : scanned (text ++ '>' :: cs) memory expected = none := by
    have hspace : ∀ c ∈ text.takeWhile isSpace, isSpace c = true :=
      fun c hc => List.mem_takeWhile_imp hc
    rw [← List.takeWhile_append_dropWhile (p := isSpace) (l := text), List.append_assoc]
    cases hrest : text.dropWhile isSpace with
    | nil => exact scanned_eq_none hspace (by decide) (by simp) hno
    | cons d ds =>
      have hd := List.head?_dropWhile_not isSpace text
      rw [hrest] at hd hcomment
      refine scanned_eq_none hspace (by simpa using hd) (fun hprefix => hcomment ?_) hno
      exact prefix_of_append (by decide) hprefix
  have hsetting : setting table.get.grammar expected = withinDoctype := by
    simp only [List.forall_mem_cons, List.not_mem_nil, false_implies, implies_true, and_true]
      at hnoOther
    rw [setting_eq]
    simp [hnoOther, hplace]
  have hstop : (Source.ofList (text ++ '>' :: cs)).skipWhile
      (fun c => c != '>' && c != '\x00') 0 = text.length :=
    Source.skipWhile_append cs (fun c hc => by simpa using htext c hc) (by decide)
  rw [first_of_scanned_eq_none hscan, hsetting]
  simp [Setting.read, withinDoctype, longest, longer, some1, hstop, List.length_pos_iff.2 hne,
    found?]

/-- The tokens within a tag. -/
theorem setting_of_name (hnoText : expected.contains 16 = false)
    (hplace : expected.contains 9 = true) :
    setting table.get.grammar expected = withinTag := by
  rw [setting_eq]
  simp [hplace, hnoText]

/-- A `>` is a token where a tag or a doctype may end. -/
theorem first_tagEnd (cs : List Char)
    (hno : ∀ x ∈ [6, 17, 20, 22, 23], expected.contains x = false)
    (hplace : (∀ x ∈ [16, 9, 10, 14, 15, 3], expected.contains x = false) ∨
      expected.contains 16 = false ∧ expected.contains 9 = true) :
    first ('>' :: cs) memory expected = some ⟨2, 0, 1, none⟩ := by
  have hscan : scanned ('>' :: cs) memory expected = none :=
    scanned_eq_none_zero (by decide) (by simp) hno
  obtain hplace | ⟨hnoText, hplace⟩ := hplace
  · refine first_of_longest_zero (by decide) hscan (setting_of_none hplace) rfl ?_
    simp [longest, longer, withoutPlace, spelled, entity_zero]
  · refine first_of_longest_zero (by decide) hscan (setting_of_name hnoText hplace) rfl ?_
    simp [longest, longer, withinTag, spelled, some1_zero, isAttributePart, isValuePart]

/-- The beginning of an end tag is a token. -/
theorem first_endTagStart (cs : List Char)
    (hno : ∀ x ∈ [6, 17, 20, 22, 23], expected.contains x = false)
    (hplace : ∀ x ∈ [16, 9, 10, 14, 15, 3], expected.contains x = false) :
    first ('<' :: '/' :: cs) memory expected = some ⟨7, 0, 2, none⟩ := by
  refine first_of_longest_zero (by decide) (scanned_eq_none_zero (by decide) (by simp) hno)
    (setting_of_none hplace) rfl ?_
  simp [longest, longer, withoutPlace, spelled, entity_zero]

/-! ## Names, raw text and comments -/

/-- The name of a tag, for a scanner that knows of these open elements. -/
def nameToken (names : List String) (opening : Bool) (name : List Char) : Lexeme :=
  let lower := String.ofList (name.map Char.toLower)
  if opening then
    ⟨Scanner.Terminals.ofStartTag ⟨17, 18, 19, 20, 21, 6, 22, 23, 24⟩ lower, 0, name.length,
      Scanner.remember (lower :: names)⟩
  else if names.head? == some lower then ⟨20, 0, name.length, Scanner.remember names.tail⟩
  else ⟨21, 0, name.length, Scanner.remember names⟩

/-- The characters of a name are no white space, and no tag begins with them. -/
theorem plain_of_isNamePart {c : Char} (h : isNamePart c = true) :
    isSpace c = false ∧ c ≠ '<' ∧ c ≠ '\x00' ∧ c ≠ '/' := by
  refine ⟨?_, ?_, ?_, ?_⟩
  · by_contra hspace
    simp only [isSpace, Bool.not_eq_false, Bool.or_eq_true, beq_iff_eq] at hspace
    obtain ((((rfl | rfl) | rfl) | rfl) | rfl) | rfl := hspace <;> exact absurd h (by decide)
  all_goals
    rintro rfl
    exact absurd h (by decide)

/-- The name of a tag is a token. -/
theorem first_tagName {name : List Char} (hname : ∀ c ∈ name, isNamePart c = true)
    (hne : name ≠ []) {d : Char} (hd : isNamePart d = false) (cs : List Char)
    (hraw : expected.contains 23 = false)
    (hplace : (expected.contains 17 || expected.contains 20) = true) :
    first (name ++ d :: cs) memory expected =
      some (nameToken (Scanner.opened memory) (expected.contains 17) name) := by
  have hstop : (Source.ofList (name ++ d :: cs)).skipWhile isNamePart 0 = name.length :=
    Source.skipWhile_append cs hname hd
  have hlower : lowerName (.ofList (name ++ d :: cs)) 0 name.length =
      String.ofList (name.map Char.toLower) := by
    rw [lowerName, Source.slice_zero, String.toList_ofList]
  have hscan : scanned (name ++ d :: cs) memory expected =
      some (nameToken (Scanner.opened memory) (expected.contains 17) name) := by
    obtain ⟨c, name, rfl⟩ := List.exists_cons_of_ne_nil hne
    obtain ⟨hspace, hspecial⟩ := plain_of_isNamePart (hname c List.mem_cons_self)
    rw [List.cons_append] at hstop hlower ⊢
    refine (scanned_of_space (w := []) (List.forall_mem_nil _) hspace _ hspecial hraw).trans ?_
    rw [if_pos hplace]
    unfold Scanner.tagName
    simp only [List.nil_append, List.length_nil, hstop, hlower]
    simp [nameToken]
  refine first_of_scanned_eq_some hscan (.inl ?_)
  have hlength := List.length_pos_iff.2 hne
  unfold nameToken
  dsimp only
  split
  · exact hlength
  · split <;> exact hlength

/-- A comment ends behind the first `-->`. -/
theorem commentEnd_go {c : List Char} (hnul : '\x00' ∉ c) (cs : List Char) (front : List Char)
    (fuel dashes : Nat) (hend : ¬ ['-', '-', '>'] <:+: List.replicate dashes '-' ++ c)
    (hfuel : c.length + 3 ≤ fuel) :
    Scanner.commentEnd.go (.ofList (front ++ (c ++ '-' :: '-' :: '>' :: cs))) fuel front.length
      dashes = some (front.length + (c.length + 3)) := by
  induction c generalizing front fuel dashes with
  | nil =>
    obtain ⟨fuel, rfl⟩ := Nat.exists_eq_add_of_le hfuel
    have hpeek := fun i => Source.peek_length_add ('-' :: '-' :: '>' :: cs) front i
    have hpeek' := hpeek 0
    rw [List.length_nil, Nat.zero_add, Nat.add_comm 3 fuel]
    simp [Scanner.commentEnd.go, Nat.add_assoc, hpeek]
  | cons a c ih =>
    obtain ⟨fuel, rfl⟩ := Nat.exists_eq_add_of_le' hfuel
    have ha : a ≠ '\x00' := fun h => hnul (h ▸ List.mem_cons_self)
    have hrest : ∀ dashes, ¬ ['-', '-', '>'] <:+: List.replicate dashes '-' ++ c →
        Scanner.commentEnd.go (.ofList (front ++ (a :: c ++ '-' :: '-' :: '>' :: cs)))
          (fuel + (c.length + 3)) (front.length + 1) dashes =
            some (front.length + ((a :: c).length + 3)) := by
      intro dashes hend
      have hgo := ih (fun h => hnul (List.mem_cons_of_mem _ h)) (front ++ [a])
        (fuel + (c.length + 3)) dashes hend (Nat.le_add_left _ _)
      simpa [Nat.add_assoc, Nat.add_comm 1] using hgo
    have hpeek : (Source.ofList (front ++ (a :: c ++ '-' :: '-' :: '>' :: cs))).peek front.length =
        a := by
      rw [Source.peek_length]
      rfl
    rw [show fuel + ((a :: c).length + 3) = fuel + (c.length + 3) + 1 by
      rw [List.length_cons]; omega, Scanner.commentEnd.go]
    simp only [hpeek, beq_iff_eq, ha, if_false]
    by_cases hdash : a = '-'
    · subst hdash
      rw [if_pos rfl]
      refine hrest _ fun h => hend ?_
      rwa [List.replicate_succ', List.append_assoc] at h
    · rw [if_neg hdash]
      by_cases hstop : a = '>' ∧ 2 ≤ dashes
      · obtain ⟨rfl, hdashes⟩ := hstop
        refine absurd ⟨List.replicate (dashes - 2) '-', c, ?_⟩ hend
        have hsplit : List.replicate dashes '-' =
            List.replicate (dashes - 2) '-' ++ ['-', '-'] := by
          conv_lhs => rw [← Nat.sub_add_cancel hdashes]
          rw [List.replicate_add]
          rfl
        rw [hsplit]
        simp
      · rw [if_neg (by simpa using hstop)]
        refine hrest 0 fun h => hend ?_
        exact h.trans ((List.suffix_cons a c).isInfix.trans (List.suffix_append _ _).isInfix)

/-- A comment is a token. -/
theorem first_comment {c : List Char} (hnul : '\x00' ∉ c) (hend : ¬ ['-', '-', '>'] <:+: c)
    (cs : List Char) (hraw : expected.contains 23 = false) :
    first (['<', '!', '-', '-'] ++ c ++ ['-', '-', '>'] ++ cs) memory expected =
      some ⟨24, 0, (['<', '!', '-', '-'] ++ c ++ ['-', '-', '>']).length,
        Scanner.remember (Scanner.opened memory)⟩ := by
  have hsource : ['<', '!', '-', '-'] ++ c ++ ['-', '-', '>'] ++ cs =
      '<' :: '!' :: '-' :: '-' :: (c ++ '-' :: '-' :: '>' :: cs) := by simp
  have hlength : (['<', '!', '-', '-'] ++ c ++ ['-', '-', '>']).length = 4 + (c.length + 3) := by
    simp
    omega
  have hcomment : Scanner.commentEnd
      (.ofList ('<' :: '!' :: '-' :: '-' :: (c ++ '-' :: '-' :: '>' :: cs))) 2 =
        some (4 + (c.length + 3)) := by
    unfold Scanner.commentEnd
    rw [if_pos (by simp), Source.size_ofList]
    exact commentEnd_go hnul cs ['<', '!', '-', '-'] _ 0 (by simpa using hend) (by simp)
  rw [hsource, hlength]
  refine first_of_scanned_eq_some ?_ (.inl (Nat.lt_of_lt_of_le (by decide) (Nat.le_add_right 4 _)))
  unfold scanned Scanner.scan
  simp [hraw, Source.skipWhile_cons_neg _ (show isSpace '<' = false by decide), hcomment]

/-- What is left of the beginning of an end tag behind raw text, for a scanner that has met the rest
of it before. Behind a character that does not go on with it the whole is left. -/
def endTagLeft (tag : List Char) : (ahead : List Char) → (text : List Char) → List Char
  | ahead, [] => ahead
  | [], _ :: _ => []
  | d :: ahead, c :: text => endTagLeft tag (if c.toLower = d then ahead else tag) text

/-- Nothing is left once all of the end tag has been met. -/
theorem endTagLeft_nil (tag text : List Char) : endTagLeft tag [] text = [] := by
  cases text <;> rfl

/-- What has been met of the end tag are the last characters of the text. -/
theorem exists_met {tag ahead text : List Char} (hno : ∀ e, e <:+: text → e.map Char.toLower ≠ tag)
    (done left : List Char) (htext : text = done ++ left)
    (h : ∃ e, e <:+ done ∧ e.map Char.toLower ++ ahead = tag) :
    ∃ e, e <:+ text ∧ e.map Char.toLower ++ endTagLeft tag ahead left = tag := by
  induction left generalizing done ahead with
  | nil =>
    rw [List.append_nil] at htext
    exact htext ▸ h
  | cons c left ih =>
    obtain ⟨e, hsuffix, he⟩ := h
    cases ahead with
    | nil =>
      rw [List.append_nil] at he
      exact absurd he (hno e (hsuffix.isInfix.trans (htext ▸ (List.prefix_append _ _).isInfix)))
    | cons d ahead =>
      rw [endTagLeft]
      refine ih (done ++ [c]) (by rw [htext, List.append_assoc]; rfl) ?_
      split
      next hmet =>
        obtain ⟨before, rfl⟩ := hsuffix
        refine ⟨e ++ [c], ⟨before, by rw [List.append_assoc]⟩, ?_⟩
        rw [List.map_append, List.append_assoc, ← he, ← hmet]
        rfl
      next => exact ⟨[], List.nil_suffix, rfl⟩

/-- All of the end tag is left behind text that does not contain it and does not end with a
beginning of it. -/
theorem endTagLeft_eq {tag text : List Char} (hno : ∀ e, e <:+: text → e.map Char.toLower ≠ tag)
    (hend : ∀ e, e <:+ text → e ≠ [] → ¬ e.map Char.toLower <+: tag) :
    endTagLeft tag tag text = tag := by
  obtain ⟨e, hsuffix, he⟩ := exists_met hno [] text rfl ⟨[], List.nil_suffix, rfl⟩
  by_cases hempty : e = []
  · rw [hempty] at he
    exact he
  · exact absurd (he ▸ List.prefix_append _ _) (hend e hsuffix hempty)

/-- Raw text ends where the end tag has been met. -/
theorem rawTextEnd_endTag {e : List Char} (hnul : '\x00' ∉ e) (cs front tag : List Char)
    (fuel stop : Nat) : Scanner.rawTextEnd (.ofList (front ++ (e ++ cs))) tag fuel front.length
      (e.map Char.toLower) stop = stop ∨ fuel < e.length := by
  induction e generalizing front fuel with
  | nil => exact .inl (by cases fuel <;> rfl)
  | cons a e ih =>
    cases fuel with
    | zero => exact .inr (Nat.succ_pos _)
    | succ fuel =>
      have ha : a ≠ '\x00' := fun h => hnul (h ▸ List.mem_cons_self)
      have hrest := ih (fun h => hnul (List.mem_cons_of_mem _ h)) (front ++ [a]) fuel
      rw [List.map_cons, Scanner.rawTextEnd, Source.peek_length]
      rw [List.append_assoc, List.length_append] at hrest
      refine hrest.imp (fun h => ?_) Nat.succ_lt_succ
      simpa [ha] using h

/-- Raw text ends before the end tag when all of that is left behind the text. -/
theorem rawTextEnd_text {tag c e : List Char} (hnul : '\x00' ∉ c) (hnul' : '\x00' ∉ e)
    (he : e.map Char.toLower = tag) (hne : tag ≠ []) (cs front : List Char) (fuel : Nat)
    {ahead : List Char} {stop : Nat} (hleft : endTagLeft tag ahead c = tag)
    (hahead : ahead = tag ∧ stop = front.length ∨ ahead.length < tag.length)
    (hfuel : c.length + e.length ≤ fuel) :
    Scanner.rawTextEnd (.ofList (front ++ (c ++ (e ++ cs)))) tag fuel front.length ahead stop =
      front.length + c.length := by
  induction c generalizing front fuel ahead stop with
  | nil =>
    rw [endTagLeft] at hleft
    obtain rfl : stop = front.length := by
      obtain ⟨-, hstop⟩ | hlength := hahead
      · exact hstop
      · exact absurd (hleft ▸ hlength) (Nat.lt_irrefl _)
    obtain rfl : ahead = e.map Char.toLower := hleft.trans he.symm
    have hend := rawTextEnd_endTag hnul' cs front tag fuel front.length
    rw [List.length_nil, Nat.zero_add] at hfuel
    exact hend.resolve_right (Nat.not_lt.2 hfuel)
  | cons a c ih =>
    cases ahead with
    | nil => exact absurd (hleft.symm.trans (endTagLeft_nil tag _)) hne
    | cons d ahead =>
      rw [List.length_cons, Nat.add_right_comm] at hfuel
      obtain ⟨fuel, rfl⟩ := Nat.exists_eq_add_of_le' (Nat.le_trans (Nat.le_add_left 1 _) hfuel)
      have ha : a ≠ '\x00' := fun h => hnul (h ▸ List.mem_cons_self)
      have hrest : ∀ ahead stop, endTagLeft tag ahead c = tag →
          ahead = tag ∧ stop = front.length + 1 ∨ ahead.length < tag.length →
          Scanner.rawTextEnd (.ofList (front ++ (a :: c ++ (e ++ cs)))) tag fuel (front.length + 1)
            ahead stop = front.length + (c.length + 1) := by
        intro ahead stop hleft hahead
        have hend := ih (fun h => hnul (List.mem_cons_of_mem _ h)) (front ++ [a]) fuel hleft
          (by rwa [List.length_append, List.length_singleton]) (Nat.le_of_succ_le_succ hfuel)
        rw [List.append_assoc, List.length_append, List.length_singleton, Nat.add_assoc,
          Nat.add_comm 1] at hend
        exact hend
      rw [endTagLeft] at hleft
      rw [Scanner.rawTextEnd, Source.peek_length, List.cons_append, Source.peek_zero]
      simp only [beq_iff_eq, ha, if_false, List.length_cons]
      split at hleft
      next hmet =>
        rw [if_pos hmet]
        refine hrest _ _ hleft (.inr ?_)
        obtain ⟨rfl, -⟩ | hlength := hahead
        · exact Nat.lt_succ_self _
        · exact Nat.lt_of_succ_lt hlength
      next hmet =>
        rw [if_neg hmet]
        exact hrest _ _ hleft (.inl ⟨rfl, rfl⟩)

/-- Raw text is a token, whether it has characters or not. -/
theorem first_rawText {c e : List Char} (name : String) {names : List String}
    (hopened : Scanner.opened memory = name :: names) (hnul : '\x00' ∉ c) (hnul' : '\x00' ∉ e)
    (he : e.map Char.toLower = Scanner.rawTextTag name)
    (hleft : endTagLeft (Scanner.rawTextTag name) (Scanner.rawTextTag name) c =
      Scanner.rawTextTag name) (cs : List Char) (hplace : expected.contains 23 = true)
    (hno : ∀ x ∈ [17, 20], expected.contains x = false) :
    first (c ++ (e ++ cs)) memory expected =
      some ⟨23, 0, c.length, Scanner.remember (name :: names)⟩ := by
  have hne : Scanner.rawTextTag name ≠ [] := by
    unfold Scanner.rawTextTag
    split <;> decide
  have hstop := rawTextEnd_text hnul hnul' he hne cs []
    ((c ++ (e ++ cs)).length + 1 - 0) hleft (.inl ⟨rfl, rfl⟩) (by simp; omega)
  simp only [List.forall_mem_cons, List.not_mem_nil, false_implies, implies_true, and_true] at hno
  have hcounts : (TerminalSet.singleton Symbol.comment).contains 23 = false := by decide
  refine first_of_scanned_eq_some ?_ (.inr hcounts)
  rw [List.nil_append, List.length_nil, Nat.zero_add] at hstop
  unfold scanned Scanner.scan
  simp only [hopened, hplace, hno.1, hno.2, Source.size_ofList, Bool.or_self, Bool.not_false,
    Bool.and_self, if_true, List.head?_cons, Option.map_some, hstop]

end Lexer

end IconSubset.Html
