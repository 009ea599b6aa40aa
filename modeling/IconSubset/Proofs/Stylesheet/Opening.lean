import IconSubset.Proofs.Stylesheet.Continuation

/-!
# The beginning of a document

Tokens of the beginning of a document are read one by one: what is on the stack behind them is told
by their symbols, and what may come next by tables that are computed from the grammar
(`Stands.step`). A doctype is read in this way (`stands_doctype`), and so are a comment and a script
behind it or at the very beginning (`stands_comment`, `stands_script`), whatever their text says.
-/

namespace IconSubset.Parse.Source

/-- The number of characters between two places. -/
theorem chars_extent (s : Source) (i j : Nat) : (s.extent i j).chars = min j s.chars.size - i := by
  have hfold : ∀ (cs : List Char) (e : Extent), (cs.foldl
      (fun e c => ⟨e.chars + 1, e.bytes + c.utf8Size, if c == '\n' then e.rows + 1 else e.rows⟩)
      e).chars = e.chars + cs.length := by
    intro cs
    induction cs with
    | nil => exact fun e => rfl
    | cons c cs ih =>
      intro e
      rw [List.foldl_cons, ih, List.length_cons]
      exact Nat.add_right_comm _ _ _
  rw [extent, ← Array.foldl_toList, hfold, Array.length_toList, Array.size_extract]
  exact Nat.zero_add _

end IconSubset.Parse.Source

namespace IconSubset.Stylesheet

open Grammar (TerminalSet)
open Html (table lexer)
open Html.Lexer (first)
open Parse (Source Subtree Leaf Memory leavesAll trees)
open Parse.Course (Behind Passes Acts behind_start expectedBehind steps start)

/-- A course that has read the beginning of a source. -/
structure Stands (source : Source) (front : List Char) (xs : List Nat) (memory : Memory)
    (depth : Nat) (pending : Pending) (ms : List Mark) (c : Parse.Course) : Prop where
  /-- The tokens that have been read are of these symbols. -/
  behind : Behind table.get xs c
  /-- The beginning is as long as the text of the tokens. -/
  place : c.position.chars = front.length
  /-- What the scanner knows. -/
  memory_eq : c.memory = memory
  /-- The marks in the beginning, and what stands open at its end. -/
  scanned : scan source ⟨0, 0, .nothing⟩ (leavesAll (trees c.frames)) =
    (⟨front.length, depth, pending⟩, ms)
  /-- The tokens have been read one by one. -/
  passes : ∃ ls, ls.length = xs.length ∧
    Passes table.get source (lexer table.get.grammar) (steps source) start ls c

variable {source : Source} {front : List Char} {xs : List Nat} {memory mem : Memory}
  {depth depth' : Nat} {pending pending' : Pending} {ms ms' : List Mark} {c : Parse.Course}

/-- Nothing has been read at the start. -/
theorem stands_start (source : Source) : Stands source [] [] none 0 .nothing [] start where
  behind := behind_start
  place := rfl
  memory_eq := rfl
  scanned := rfl
  passes := ⟨[], rfl, .refl _⟩

/-- One more token is read. -/
theorem Stands.step (h : Stands source front xs memory depth pending ms c) (tok cs : List Char)
    (hsource : source = .ofList (front ++ (tok ++ cs))) {expected : List Nat}
    (hexpected : expectedBehind table.get xs = some (.ofList expected)) {x begins : Nat}
    (hfirst : first (tok ++ cs) memory (.ofList expected) = some ⟨x, begins, tok.length, mem⟩)
    (hle : begins ≤ tok.length) {next : TerminalSet}
    (hnext : expectedBehind table.get (xs ++ [x]) = some next)
    (hread : ∀ l : Leaf, l.label = .symbol x → l.padding.chars = begins →
      l.size.chars = tok.length - begins →
        Scan.read source ⟨front.length, depth, pending⟩ l =
          (⟨front.length + tok.length, depth', pending'⟩, ms')) :
    ∃ c', Stands source (front ++ tok) (xs ++ [x]) (mem.or memory) depth' pending' (ms ++ ms')
      c' := by
  obtain ⟨ls, hlength, hpasses⟩ := h.passes
  have hlex := Html.lex_eq (tok ++ cs) front h.place
  have hhere : Html.expectedAt c = .ofList expected := h.behind.expected_eq hexpected
  rw [h.memory_eq, hhere, hfirst, Option.map_some, ← hsource] at hlex
  obtain ⟨c', hacts, hbehind⟩ := h.behind.step
    (l := Html.tokenAt (.ofList (tok ++ cs)) 0 ⟨x, begins, tok.length, mem⟩) ⟨rfl, rfl⟩
    (by rw [hnext]; rfl)
    (n := steps source) (by unfold steps; omega)
  obtain ⟨hposition, hmemory⟩ := hacts.place
  have hpadding : ((Source.ofList (tok ++ cs)).extent 0 begins).chars = begins := by
    rw [Source.chars_extent, Source.size_ofList, List.length_append]
    omega
  have hsize : ((Source.ofList (tok ++ cs)).extent begins tok.length).chars =
      tok.length - begins := by
    rw [Source.chars_extent, Source.size_ofList, List.length_append]
    omega
  have htotal : (Html.tokenAt (.ofList (tok ++ cs)) 0 ⟨x, begins, tok.length, mem⟩).total.chars =
      tok.length := by
    show ((Source.ofList (tok ++ cs)).extent 0 begins).chars +
      ((Source.ofList (tok ++ cs)).extent begins tok.length).chars = tok.length
    rw [hpadding, hsize, Nat.add_sub_cancel' hle]
  refine ⟨c', hbehind, ?_, ?_, ?_, ls ++ [_], ?_, hpasses.snoc hlex hacts⟩
  · rw [hposition, Parse.Extent.add, h.place, htotal, List.length_append]
  · rw [hmemory, h.memory_eq]
    rfl
  · rw [hacts.leaves_eq, scan_append, h.scanned, List.length_append]
    show ((scan source ⟨front.length, depth, pending⟩ [_]).1,
      ms ++ (scan source ⟨front.length, depth, pending⟩ [_]).2) = _
    rw [scan_singleton, hread _ rfl hpadding hsize]
  · rw [List.length_append, List.length_append, hlength]
    rfl

/-- What may come behind tokens of some symbols at the beginning of a document. -/
theorem expectedBehind_facts :
    (expectedBehind table.get [1] = some (.ofList [4, 24]) ∧
      expectedBehind table.get [1, 4] = some (.ofList [3, 24]) ∧
      expectedBehind table.get [1, 4, 3] = some (.ofList [2, 24])) ∧
    ∀ base ∈ [[], [1, 4, 3, 2]],
      expectedBehind table.get base = some (.ofList [0, 1, 5, 7, 11, 16, 24]) ∧
      expectedBehind table.get (base ++ [24]) = some (.ofList [0, 1, 5, 7, 11, 16, 24]) ∧
      expectedBehind table.get (base ++ [5]) = some (.ofList [17, 18, 19, 24]) ∧
      expectedBehind table.get (base ++ [5] ++ [18]) = some (.ofList [2, 9, 24]) ∧
      expectedBehind table.get (base ++ [5] ++ [18] ++ [2]) = some (.ofList [7, 23, 24]) ∧
      expectedBehind table.get (base ++ [5] ++ [18] ++ [2] ++ [23]) = some (.ofList [7, 24]) ∧
      expectedBehind table.get (base ++ [5] ++ [18] ++ [2] ++ [23] ++ [7]) =
        some (.ofList [20, 24]) ∧
      expectedBehind table.get (base ++ [5] ++ [18] ++ [2] ++ [23] ++ [7] ++ [20]) =
        some (.ofList [2, 24]) ∧
      expectedBehind table.get (base ++ [5] ++ [18] ++ [2] ++ [23] ++ [7] ++ [20] ++ [2]) =
        some (.ofList [0, 1, 5, 7, 11, 16, 24]) := by
  decide +kernel

/-- A doctype: its keyword in any case, with some text that does not begin with a comment. -/
def IsDoctype (p : List Char) : Prop :=
  ∃ w word text, p = ['<', '!'] ++ (w ++ word) ++ text ++ ['>'] ∧ (∀ c ∈ w, Html.isSpace c = true) ∧
    word.map Char.toLower = ['d', 'o', 'c', 't', 'y', 'p', 'e'] ∧ text ≠ [] ∧
    (∀ c ∈ text, c ≠ '>' ∧ c ≠ '\x00') ∧ ¬ ['<', '!', '-', '-'] <+: text.dropWhile Html.isSpace

/-- A doctype is read. -/
theorem stands_doctype {p : List Char} (hp : IsDoctype p) (cs : List Char) :
    ∃ c, Stands (.ofList (p ++ cs)) p [1, 4, 3, 2] none 0 .nothing
      [.doctype (byteAt (.ofList (p ++ cs)) p.length)] c := by
  obtain ⟨w, word, text, rfl, hw, hword, hne, htext, hcomment⟩ := hp
  obtain ⟨⟨hmark, hkeyword, hlast⟩, hbase⟩ := expectedBehind_facts
  obtain ⟨htop, -⟩ := hbase [] List.mem_cons_self
  obtain ⟨hend, -⟩ := hbase [1, 4, 3, 2] (List.mem_cons_of_mem _ List.mem_cons_self)
  generalize hsource : Source.ofList (['<', '!'] ++ (w ++ word) ++ text ++ ['>'] ++ cs) = source
  have hnoComment : ¬ ['-', '-'] <+: (w ++ word) ++ (text ++ (['>'] ++ cs)) := by
    have hdash : '-' ∉ w ++ word := by
      intro hmem
      obtain hmem | hmem := List.mem_append.1 hmem
      · exact absurd (hw _ hmem) (by decide)
      · exact absurd (hword ▸ List.mem_map_of_mem (f := Char.toLower) hmem) (by decide)
    cases hrow : w ++ word with
    | nil =>
      rw [(List.append_eq_nil_iff.1 hrow).2] at hword
      cases hword
    | cons d ds =>
      rw [hrow] at hdash
      exact fun h => hdash ((List.cons_prefix_cons.1 h).1 ▸ List.mem_cons_self)
  obtain ⟨c₁, h₁⟩ : ∃ c, Stands source ['<', '!'] [1] none 0 .doctype [] c := by
    refine (stands_start source).step ['<', '!'] ((w ++ word) ++ (text ++ (['>'] ++ cs)))
      (by simp [← hsource]) htop
      (Html.Lexer.first_declaration hnoComment (by decide) (by decide)) (Nat.zero_le _) hmark ?_
    intro l hl hp hs
    simp [Scan.read, hl, Scan.forward, Parse.Extent.add, hp, hs]
  obtain ⟨c₂, h₂⟩ : ∃ c, Stands source (['<', '!'] ++ (w ++ word)) [1, 4] none 0 .doctype [] c := by
    refine h₁.step (w ++ word) (text ++ (['>'] ++ cs)) (by simp [← hsource]) hmark
      (Html.Lexer.first_doctypeWord hw hword _ (by decide) (by decide))
      (by rw [List.length_append]; exact Nat.le_add_right _ _) hkeyword ?_
    intro l hl hp hs
    simp [Scan.read, hl, Scan.forward, Parse.Extent.add, hp, hs]
  obtain ⟨c₃, h₃⟩ : ∃ c, Stands source (['<', '!'] ++ (w ++ word) ++ text) [1, 4, 3] none 0 .doctype
      [] c := by
    refine h₂.step text (['>'] ++ cs) (by simp [← hsource]) hkeyword
      (Html.Lexer.first_doctypeText hne htext hcomment cs (by decide) (by decide) (by decide))
      (Nat.zero_le _) hlast ?_
    intro l hl hp hs
    simp [Scan.read, hl, Scan.forward, Parse.Extent.add, hp, hs]
  refine h₃.step ['>'] cs (by simp [← hsource]) hlast
    (Html.Lexer.first_tagEnd cs (by decide) (.inl (by decide))) (Nat.zero_le _) hend ?_
  intro l hl hp hs
  simp [Scan.read, hl, Scan.forward, Parse.Extent.add, hp, hs, Nat.add_assoc]

/-- A comment is read at the beginning of a document or behind its doctype. -/
theorem stands_comment {p : List Char} {xs : List Nat} (hxs : xs ∈ [[], [1, 4, 3, 2]])
    {c : List Char} (hnul : '\x00' ∉ c) (hend : ¬ ['-', '-', '>'] <:+: c) (cs : List Char)
    (hsource : source = .ofList (p ++ (['<', '!', '-', '-'] ++ c ++ ['-', '-', '>'] ++ cs)))
    {course : Parse.Course} (h : Stands source p xs none 0 .nothing ms course) :
    ∃ c', Stands source (p ++ (['<', '!', '-', '-'] ++ c ++ ['-', '-', '>'])) (xs ++ [24])
      (Html.Scanner.remember []) 0 .nothing ms c' := by
  obtain ⟨-, hbase⟩ := expectedBehind_facts
  obtain ⟨htop, hcomment, -⟩ := hbase xs hxs
  have hstep : ∃ c', Stands source (p ++ (['<', '!', '-', '-'] ++ c ++ ['-', '-', '>']))
      (xs ++ [24]) (Html.Scanner.remember []) 0 .nothing (ms ++ []) c' := by
    refine h.step _ cs hsource htop (Html.Lexer.first_comment hnul hend cs (by decide))
      (Nat.zero_le _) hcomment ?_
    intro l hl hp hs
    simp [Scan.read, hl, Scan.forward, Parse.Extent.add, hp, hs]
  rwa [List.append_nil] at hstep

/-- The name of scripts. -/
def scriptName : List Char := ['s', 'c', 'r', 'i', 'p', 't']

/-- It is a name. -/
theorem isNamePart_script : ∀ c ∈ scriptName, Html.isNamePart c = true := by
  simp [scriptName, Html.isNamePart]

/-- What the scanner knows within a script that no element contains. -/
def insideScript : Memory := some ["script"]

/-- The start tag of a script is read at the beginning of a document or behind its doctype. -/
theorem stands_scriptStart {p : List Char} {xs : List Nat} (hxs : xs ∈ [[], [1, 4, 3, 2]])
    (cs : List Char) (hsource : source = .ofList (p ++ ['<'] ++ scriptName ++ ['>'] ++ cs))
    {course : Parse.Course} (h : Stands source p xs none 0 .nothing ms course) :
    ∃ c', Stands source (p ++ ['<'] ++ scriptName ++ ['>']) (xs ++ [5] ++ [18] ++ [2])
      insideScript 1 .nothing (ms ++ [.tag "script" (byteAt source (p.length + 8))]) c' := by
  obtain ⟨-, hbase⟩ := expectedBehind_facts
  obtain ⟨htop, -, hstart, hname, hopened, -⟩ := hbase xs hxs
  obtain ⟨c₁, h₁⟩ : ∃ c', Stands source (p ++ ['<']) (xs ++ [5]) none 0 .nothing (ms ++ []) c' := by
    have hfirst : first (['<'] ++ (scriptName ++ (['>'] ++ cs))) none
        (.ofList [0, 1, 5, 7, 11, 16, 24]) = some ⟨5, 0, 1, none⟩ :=
      Html.Lexer.first_tagStart (c := 's') (by decide) _ (by decide) (by decide)
    refine h.step ['<'] (scriptName ++ (['>'] ++ cs)) (by simp [hsource]) htop hfirst
      (Nat.zero_le _) hstart ?_
    intro l hl hp hs
    simp [Scan.read, hl, Scan.forward, Parse.Extent.add, hp, hs]
  obtain ⟨c₂, h₂⟩ : ∃ c', Stands source (p ++ ['<'] ++ scriptName) (xs ++ [5] ++ [18])
      insideScript 0 (.tag "script") (ms ++ [] ++ []) c' := by
    have hsplit : source = .ofList (p ++ ['<'] ++ (scriptName ++ (['>'] ++ cs))) := by
      simp [hsource]
    have hfirst : first (scriptName ++ (['>'] ++ cs)) none (.ofList [17, 18, 19, 24]) =
        some ⟨18, 0, scriptName.length, insideScript⟩ :=
      (Html.Lexer.first_tagName isNamePart_script (by decide) (by decide) _ (by decide)
        (by decide)).trans rfl
    refine h₁.step scriptName _ hsplit hstart hfirst (Nat.zero_le _) hname ?_
    intro l hl hp hs
    have hslice : source.slice (p ++ ['<']).length ((p ++ ['<']).length + 6) = "script" := by
      rw [hsplit]
      exact Source.slice_append (p ++ ['<']) scriptName (['>'] ++ cs)
    simp only [Scan.read, hl, Scan.forward, Parse.Extent.add, hp, hs, Nat.add_zero, Nat.zero_add]
    rw [← hslice]
    rfl
  have h₃ : ∃ c', Stands source (p ++ ['<'] ++ scriptName ++ ['>']) (xs ++ [5] ++ [18] ++ [2])
      insideScript 1 .nothing (ms ++ [] ++ [] ++ [.tag "script" (byteAt source (p.length + 8))])
        c' := by
    refine h₂.step ['>'] cs (by simp [hsource]) hname
      (Html.Lexer.first_tagEnd _ (by decide) (.inr (by decide))) (Nat.zero_le _) hopened ?_
    intro l hl hp hs
    simp [Scan.read, hl, Scan.forward, Parse.Extent.add, hp, hs, scriptName]
  rwa [List.append_nil, List.append_nil] at h₃

/-- The end tag of a script is read. -/
theorem stands_scriptEnd {xs : List Nat} (hxs : xs ∈ [[], [1, 4, 3, 2]]) (cs : List Char)
    (hsource : source = .ofList (front ++ ['<', '/'] ++ scriptName ++ ['>'] ++ cs))
    {course : Parse.Course}
    (h : Stands source front (xs ++ [5] ++ [18] ++ [2] ++ [23]) insideScript 1 .nothing ms course) :
    ∃ c', Stands source (front ++ ['<', '/'] ++ scriptName ++ ['>'])
      (xs ++ [5] ++ [18] ++ [2] ++ [23] ++ [7] ++ [20] ++ [2]) (some []) 0 .nothing ms c' := by
  obtain ⟨-, hbase⟩ := expectedBehind_facts
  obtain ⟨-, -, -, -, -, htext, hclosing, hclosed, hlast⟩ := hbase xs hxs
  obtain ⟨c₁, h₁⟩ : ∃ c', Stands source (front ++ ['<', '/'])
      (xs ++ [5] ++ [18] ++ [2] ++ [23] ++ [7]) insideScript 1 .nothing (ms ++ []) c' := by
    refine h.step ['<', '/'] (scriptName ++ (['>'] ++ cs)) (by simp [hsource]) htext
      (Html.Lexer.first_endTagStart _ (by decide) (by decide)) (Nat.zero_le _) hclosing ?_
    intro l hl hp hs
    simp [Scan.read, hl, Scan.forward, Parse.Extent.add, hp, hs]
  obtain ⟨c₂, h₂⟩ : ∃ c', Stands source (front ++ ['<', '/'] ++ scriptName)
      (xs ++ [5] ++ [18] ++ [2] ++ [23] ++ [7] ++ [20]) (some []) 0 .nothing (ms ++ [] ++ [])
      c' := by
    have hfirst : first (scriptName ++ (['>'] ++ cs)) insideScript (.ofList [20, 24]) =
        some ⟨20, 0, scriptName.length, some []⟩ :=
      (Html.Lexer.first_tagName isNamePart_script (by decide) (by decide) _ (by decide)
        (by decide)).trans rfl
    refine h₁.step scriptName (['>'] ++ cs) (by simp [hsource]) hclosing hfirst (Nat.zero_le _)
      hclosed ?_
    intro l hl hp hs
    simp [Scan.read, hl, Scan.forward, Parse.Extent.add, hp, hs]
  have h₃ : ∃ c', Stands source (front ++ ['<', '/'] ++ scriptName ++ ['>'])
      (xs ++ [5] ++ [18] ++ [2] ++ [23] ++ [7] ++ [20] ++ [2]) (some []) 0 .nothing
        (ms ++ [] ++ [] ++ []) c' := by
    refine h₂.step ['>'] cs (by simp [hsource]) hclosed
      (Html.Lexer.first_tagEnd _ (by decide) (.inl (by decide))) (Nat.zero_le _) hlast ?_
    intro l hl hp hs
    simp [Scan.read, hl, Scan.forward, Parse.Extent.add, hp, hs]
  simpa only [List.append_nil] using h₃

/-- A script is read at the beginning of a document or behind its doctype. -/
theorem stands_script {p : List Char} {xs : List Nat} (hxs : xs ∈ [[], [1, 4, 3, 2]])
    {c : List Char} (hnul : '\x00' ∉ c) (hend : Html.Lexer.endTagLeft ('<' :: '/' :: scriptName)
      ('<' :: '/' :: scriptName) c = '<' :: '/' :: scriptName) (cs : List Char)
    (hsource : source = .ofList (p ++ ['<'] ++ scriptName ++ ['>'] ++ c ++ ['<', '/'] ++
      scriptName ++ ['>'] ++ cs))
    {course : Parse.Course} (h : Stands source p xs none 0 .nothing ms course) :
    ∃ c', Stands source
      (p ++ ['<'] ++ scriptName ++ ['>'] ++ c ++ ['<', '/'] ++ scriptName ++ ['>'])
      (xs ++ [5] ++ [18] ++ [2] ++ [23] ++ [7] ++ [20] ++ [2]) (some []) 0 .nothing
      (ms ++ [.tag "script" (byteAt source (p.length + 8))]) c' := by
  obtain ⟨-, hbase⟩ := expectedBehind_facts
  obtain ⟨-, -, -, -, hopened, htext, -⟩ := hbase xs hxs
  obtain ⟨c₁, h₁⟩ := stands_scriptStart hxs (c ++ ((['<', '/'] ++ scriptName) ++ (['>'] ++ cs)))
    (by simp [hsource]) h
  obtain ⟨c₂, h₂⟩ : ∃ c', Stands source (p ++ ['<'] ++ scriptName ++ ['>'] ++ c)
      (xs ++ [5] ++ [18] ++ [2] ++ [23]) insideScript 1 .nothing
        (ms ++ [.tag "script" (byteAt source (p.length + 8))] ++ []) c' := by
    have hfirst : first (c ++ ((['<', '/'] ++ scriptName) ++ (['>'] ++ cs))) insideScript
        (.ofList [7, 23, 24]) = some ⟨23, 0, c.length, insideScript⟩ := by
      have hscript : Html.Scanner.opened insideScript = "script" :: [] := rfl
      refine Html.Lexer.first_rawText (e := ['<', '/'] ++ scriptName) "script" hscript hnul
        (by decide) rfl hend _ ?_ ?_
      · decide
      · decide
    refine h₁.step c ((['<', '/'] ++ scriptName) ++ (['>'] ++ cs)) (by simp [hsource]) hopened
      hfirst (Nat.zero_le _) htext ?_
    intro l hl hp hs
    simp [Scan.read, hl, Scan.forward, Parse.Extent.add, hp, hs]
  rw [List.append_nil] at h₂
  exact stands_scriptEnd hxs cs hsource h₂

end IconSubset.Stylesheet
