import IconSubset.Proofs.Html.Tokens
import IconSubset.Proofs.Stylesheet.Scan

/-!
# The place of a link in a well-formed document

A document is well-formed when the parser reads it without repair. Its tree is then a derivation of
the grammar, so that the place of a link is told by its tokens (`exists_reads`, `site_eq_of_reads`).
-/

namespace IconSubset.Html

open Grammar (TerminalSet)
open Parse (Source Lexeme Memory)

/-- A document is well-formed when there is one thing to do at each of its tokens, up to the end. -/
def IsWellFormed (document : String) : Prop :=
  (Parse.thread (.ofTable table.get (landmarks table.get.grammar)) (lexer table.get.grammar)
    (.ofString document)).isOk = true

instance (document : String) : Decidable (IsWellFormed document) :=
  inferInstanceAs (Decidable (_ = true))

namespace Lexer

/-- The longest token is one of those that were looked for. -/
theorem terminal_of_longest {looks : List Look} {s : Source} {i x stop : Nat}
    (h : longest looks s i = some (x, stop)) : ∃ l ∈ looks, l.terminal = x := by
  unfold longest at h
  suffices hfold : ∀ best : Option (Nat × Nat), looks.foldl (longer s i) best = some (x, stop) →
      (∃ l ∈ looks, l.terminal = x) ∨ best = some (x, stop) from
    (hfold none h).resolve_right fun hnone => by cases hnone
  intro best h
  clear * - h
  induction looks generalizing best with
  | nil => exact .inr h
  | cons l looks ih =>
    rw [List.foldl_cons] at h
    obtain ⟨l', hl', hx⟩ | hbest := ih _ h
    · exact .inl ⟨l', List.mem_cons_of_mem _ hl', hx⟩
    · unfold longer at hbest
      split at hbest
      next =>
        split at hbest
        · obtain ⟨rfl, -⟩ := Prod.mk.inj (Option.some.inj hbest)
          exact .inl ⟨l, List.mem_cons_self, rfl⟩
        · exact .inr hbest
      next =>
        obtain ⟨rfl, -⟩ := Prod.mk.inj (Option.some.inj hbest)
        exact .inl ⟨l, List.mem_cons_self, rfl⟩
      next => exact .inr hbest

/-- A token of a place is one of those that were looked for, or the end of the source. -/
theorem terminal_of_read {k : Setting} {s : Source} {place : Nat} {l : Lexeme}
    (h : k.read s place = .found l) : (∃ look ∈ k.looks, look.terminal = l.terminal) ∨
      l.terminal = 0 := by
  unfold Setting.read at h
  generalize (if k.spaced then s.skipWhile isSpace place else place) = i at h
  dsimp only at h
  split at h
  next x stop hlongest =>
    obtain rfl := Parse.Reading.found.inj h
    exact .inl (terminal_of_longest hlongest)
  next =>
    split at h
    · obtain rfl := Parse.Reading.found.inj h
      exact .inr rfl
    · cases h

end Lexer

namespace Scanner

/-- The terminals of a scanner. -/
def Terminals.toList (t : Terminals) : List Nat :=
  [t.startTagName, t.scriptStartTagName, t.styleStartTagName, t.endTagName, t.erroneousEndTagName,
    t.selfClosing, t.implicitEndTag, t.rawText, t.comment]

/-- The name of a tag is one of the tokens of the scanner. -/
theorem terminal_of_tagName {t : Terminals} {s : Source} {names : List String} {opening : Bool}
    {i : Nat} {l : Lexeme} (h : tagName t s names opening i = some l) : l.terminal ∈ t.toList := by
  unfold tagName at h
  dsimp only at h
  split at h
  · cases h
  · obtain rfl := Option.some.inj h
    split
    · unfold Terminals.ofStartTag
      split
      · simp [Terminals.toList]
      · split <;> simp [Terminals.toList]
    · split <;> simp [Terminals.toList]

/-- The scanner finds only tokens of its own. -/
theorem terminal_of_scan {t : Terminals} {s : Source} {memory : Memory} {expected : TerminalSet}
    {place : Nat} {l : Lexeme} (h : scan t s memory expected place = some l) :
    l.terminal ∈ t.toList := by
  have hmap : ∀ {α : Type} {o : Option α} {f : α → Lexeme}, o.map f = some l →
      (∀ a, (f a).terminal ∈ t.toList) → l.terminal ∈ t.toList := by
    intro α o f ho hf
    obtain ⟨a, -, rfl⟩ := Option.map_eq_some_iff.1 ho
    exact hf a
  have himplied : ∀ {names : List String} {i j : Nat},
      (if expected.contains t.implicitEndTag then
        (endImplied s names j).map fun names => (⟨t.implicitEndTag, i, i, remember names⟩ : Lexeme)
      else none) = some l → l.terminal ∈ t.toList := by
    intro names i j h
    split at h
    · exact hmap h fun _ => by simp [Terminals.toList]
    · cases h
  unfold scan at h
  dsimp only at h
  split at h
  · exact hmap h fun _ => by simp [Terminals.toList]
  · split at h
    · split at h
      · exact hmap h fun _ => by simp [Terminals.toList]
      · exact himplied h
    · exact himplied h
    · split at h
      · split at h <;> obtain rfl := Option.some.inj h <;> simp [Terminals.toList]
      · cases h
    · split at h
      · exact terminal_of_tagName h
      · cases h

end Scanner

/-- All ordinary tokens are terminals of the grammar. -/
theorem Lexer.terminal_of_setting (expected : TerminalSet) :
    ∀ l ∈ (setting table.get.grammar expected).looks, l.terminal < 25 := by
  rw [setting_eq]
  cases hfind : List.find? _ _ with
  | none => decide
  | some k =>
    have hall : ∀ k ∈ ([(16, betweenTags), (9, withinTag), (10, ofValue),
        (14, withinQuotes 12 14 '\''), (15, withinQuotes 13 15 '"'), (3, withinDoctype)] :
          List (Nat × Setting)), ∀ l ∈ k.2.looks, l.terminal < 25 := by decide
    exact hall k (List.mem_of_find?_eq_some hfind)

/-- The tokens of HTML documents are terminals of the grammar. -/
theorem lexer_within : (lexer table.get.grammar).Within table.get := by
  obtain ⟨-, -, -, -, -, -, hterminals, -⟩ := table_facts
  intro source memory expected emptyCounts place l h
  rw [hterminals]
  unfold Parse.Lexer.attempt lexer at h
  dsimp only at h
  split at h
  next scanned hscanned =>
    obtain rfl := Parse.Reading.found.inj h
    obtain ⟨hscan, -⟩ := Option.filter_eq_some_iff.1 hscanned
    have hmem := Scanner.terminal_of_scan hscan
    rw [terminals_eq] at hmem
    have hall : ∀ x ∈ Scanner.Terminals.toList ⟨17, 18, 19, 20, 21, 6, 22, 23, 24⟩, x < 25 := by
      decide
    exact hall _ hmem
  next =>
    obtain ⟨look, hlook, hterminal⟩ | hterminal := Lexer.terminal_of_read h
    · exact hterminal ▸ Lexer.terminal_of_setting expected look hlook
    · exact hterminal ▸ Nat.succ_pos _

end IconSubset.Html

namespace IconSubset.Stylesheet

open Html (table lexer IsWellFormed)
open Parse (Source Subtree leavesAll Derived symbols trees)
open Parse.Course (Reads steps start)

/-- The place of a link in a derivation is told by its tokens. -/
theorem siteIn_rootNode {document : String} {root : Subtree} (hroot : Derived table.get root)
    (hlabel : root.summary.label = .symbol Html.Symbol.document) :
    siteIn (Parse.rootNode table.get.grammar document root) =
      siteOf (scan (.ofString document) ⟨0, 0, .nothing⟩ (Parse.leaves root)).2 := by
  obtain ⟨t, cs, p, rfl, hsymbol, hproduction, hmem, hnamed, -, -, hcs⟩ :=
    exists_made hroot hlabel (Nat.le_refl 25)
  have hshape : ∀ e ∈ Html.productions, e.1 = 25 → e.2.2 = [] ∨ e.2.2 = [39] := by decide
  have htakes : Takes (.ofString document) 0 (Html.stepsOf p) cs 0 0 := by
    obtain hsymbols | hsymbols := hshape _ hmem rfl
    · exact takes_extras hcs hsymbols _ 0 0
    · exact .symbol hcs hsymbols hnamed
        (fun u hu hlabel b hb => takes_tree (hcs u hu) hlabel (by decide) hb 0)
        fun us hus hnone _ => takes_extras (fun u hu => hcs u (hus u hu)) hnone _ 0 0
  obtain ⟨hhidden, -⟩ | ⟨kind, hkind, hnodes⟩ :=
    treeNodes_made (s := .ofString document) (t := t) cs (b := none) hsymbol hproduction rfl
      none 0
  · cases hhidden
  have hname : kind.name = "document" := (Option.some.inj hkind).symm
  rw [leaves_made hproduction, htakes none 0, Parse.rootNode, hnodes]
  refine siteIn_eq ?_
  rw [nodeOf, Syntax.Node.kind, hname]
  decide

/-- A well-formed document is read to the end. -/
theorem isWellFormed_iff {document : String} : IsWellFormed document ↔
    ∃ ls root, ls.length ≤ 8 * (Source.ofString document).chars.size + 64 ∧
      Reads table.get (.ofString document) (lexer table.get.grammar) (steps (.ofString document))
        start ls root := by
  obtain ⟨-, -, -, -, -, -, -, -, -, hword, -⟩ := Html.table_facts
  have hthread := Parse.thread_eq_ok_iff hword (Html.landmarks table.get.grammar)
    (lexer table.get.grammar) (.ofString document)
  unfold IsWellFormed
  constructor
  · intro h
    cases hresult : Parse.thread (.ofTable table.get (Html.landmarks table.get.grammar))
        (lexer table.get.grammar) (.ofString document) with
    | error _ => rw [hresult] at h; cases h
    | ok root =>
      obtain ⟨ls, hlength, hreads⟩ := Parse.Course.run_eq_some_iff.1 ((hthread root).1 hresult)
      exact ⟨ls, root, hlength, hreads⟩
  · rintro ⟨ls, root, hlength, hreads⟩
    rw [(hthread root).2 (Parse.Course.run_eq_some_iff.2 ⟨ls, hlength, hreads⟩)]
    rfl

/-- The place of a link is told by the tokens that are read. -/
theorem site_of_reads {document : String} {ls : List Subtree} {root : Subtree}
    (hlength : ls.length ≤ 8 * (Source.ofString document).chars.size + 64)
    (h : Reads table.get (.ofString document) (lexer table.get.grammar)
      (steps (.ofString document)) start ls root) :
    site document = siteOf (scan (.ofString document) ⟨0, 0, .nothing⟩ (leavesAll ls)).2 := by
  obtain ⟨-, -, -, -, -, hstart, -, -, -, hword, -⟩ := Html.table_facts
  have hthread := (Parse.thread_eq_ok_iff hword (Html.landmarks table.get.grammar)
    (lexer table.get.grammar) (.ofString document) root).2
      (Parse.Course.run_eq_some_iff.2 ⟨ls, hlength, h⟩)
  have hsound : Parse.Sound table.get start.frames :=
    ⟨Parse.fits_firstOf, fun f hf => absurd hf List.not_mem_nil⟩
  obtain ⟨hderived, hlabel, hleaves⟩ := h.derived Html.regular Html.lexer_within hsound
  rw [hstart] at hlabel
  have htree : site document = siteIn (Parse.rootNode table.get.grammar document root) := by
    unfold site Html.tree Parse.parse
    dsimp only
    rw [hthread]
  rw [htree, siteIn_rootNode hderived hlabel, hleaves]
  rfl

end IconSubset.Stylesheet
