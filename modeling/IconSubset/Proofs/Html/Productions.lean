import IconSubset.Html.Tree
import IconSubset.Proofs.Parse.Derivation

/-!
# The productions of HTML documents

The tables of the grammar are computed from its rules. Here is what they come to: the symbols, the
productions and the names that the nodes have (`complete_mem`, `nodeName_eq`).
-/

namespace IconSubset.Html

open Grammar (Table)
open Parse (Spells Complete Regular visibleKind)

/-! ## Items behind a number of symbols -/

/-- The items behind a number of symbols, with these. -/
def itemsBehind (t : Table) : Nat → List (Nat × List Nat)
  | 0 => (t.startItem, []) :: (t.opening.toList.flatMap (·.toList)).map fun id => (id, [])
  | n + 1 => (itemsBehind t n).filterMap fun (id, xs) =>
    (t.item id).next.map fun x => ((t.item id).successor, xs ++ [x])

/-- The productions of no more than a number of symbols: what each makes, its number and its
symbols. -/
def productionsUpTo (t : Table) (n : Nat) : List (Nat × Nat × List Nat) :=
  (List.range (n + 1)).flatMap fun n => (itemsBehind t n).filterMap fun (id, xs) =>
    if (t.item id).next.isNone then some ((t.item id).head, (t.item id).production, xs) else none

variable {t : Table}

/-- An item that stands behind symbols is among those behind so many. -/
theorem mem_itemsBehind {id : Nat} {xs : List Nat} (h : Spells t id xs) :
    (id, xs) ∈ itemsBehind t xs.length := by
  induction h with
  | @opening id other symbol o hother ho h =>
    refine List.mem_cons_of_mem _ (List.mem_map.2 ⟨id, List.mem_flatMap.2 ?_, rfl⟩)
    rw [Array.getD_eq_getD_getElem?] at h
    cases hids : t.opening[o.symbol]? with
    | none => rw [hids] at h; cases Array.not_mem_empty _ h
    | some ids =>
      rw [hids] at h
      exact ⟨ids, Array.mem_toList_iff.2 (Array.mem_of_getElem? hids), Array.mem_toList_iff.2 h⟩
  | start => exact List.mem_cons_self
  | snoc h hnext ih =>
    rw [List.length_append, List.length_singleton]
    refine List.mem_filterMap.2 ⟨_, ih, ?_⟩
    dsimp only
    rw [hnext]
    rfl

/-- Behind more symbols than any production has there is no item. -/
theorem itemsBehind_eq_nil {n : Nat} (h : itemsBehind t n = []) (k : Nat) :
    itemsBehind t (n + k) = [] := by
  induction k with
  | zero => exact h
  | succ k ih => rw [← Nat.add_assoc, itemsBehind, ih]; rfl

/-- The symbols of a production are among those of all productions. -/
theorem complete_mem_upTo {n head production : Nat} {xs : List Nat}
    (hnone : itemsBehind t (n + 1) = []) (h : Complete t head production xs) :
    (head, production, xs) ∈ productionsUpTo t n := by
  obtain ⟨id, hspells, hnext, rfl, rfl⟩ := h
  have hmem := mem_itemsBehind hspells
  have hlength : xs.length < n + 1 := by
    by_contra hlong
    obtain ⟨k, hk⟩ := Nat.exists_eq_add_of_le (Nat.not_lt.1 hlong)
    rw [hk, itemsBehind_eq_nil hnone] at hmem
    cases hmem
  refine List.mem_flatMap.2 ⟨xs.length, List.mem_range.2 hlength, List.mem_filterMap.2
    ⟨(id, xs), hmem, ?_⟩⟩
  dsimp only
  rw [hnext]
  rfl

/-! ## The tables of HTML documents -/

/-! Terminals that the search for a place looks at, and symbols of nodes with a part in it. -/

namespace Symbol

/-- The terminal `<!`. -/
@[match_pattern] abbrev declaration : Nat := 1

/-- The terminal `>`. -/
@[match_pattern] abbrev tagEnd : Nat := 2

/-- The terminal of the keyword of a doctype. -/
@[match_pattern] abbrev doctypeWord : Nat := 4

/-- The terminal `<`. -/
@[match_pattern] abbrev tagStart : Nat := 5

/-- The terminal `/>`. -/
@[match_pattern] abbrev selfClosing : Nat := 6

/-- The terminal `</`. -/
@[match_pattern] abbrev endTagStart : Nat := 7

/-- The terminal of names of start tags. -/
@[match_pattern] abbrev startTagName : Nat := 17

/-- The terminal of names of start tags of scripts. -/
@[match_pattern] abbrev scriptTagName : Nat := 18

/-- The terminal of names of start tags of style sheets. -/
@[match_pattern] abbrev styleTagName : Nat := 19

/-- The terminal of names of end tags. -/
@[match_pattern] abbrev endTagName : Nat := 20

/-- The terminal of names of end tags of elements that are not open. -/
@[match_pattern] abbrev erroneousEndTagName : Nat := 21

/-- The terminal of ends of elements without an end tag. -/
@[match_pattern] abbrev implicitEndTag : Nat := 22

/-- The terminal of raw text. -/
@[match_pattern] abbrev rawText : Nat := 23

/-- The terminal of comments. -/
@[match_pattern] abbrev comment : Nat := 24

/-- The symbol of documents. -/
@[match_pattern] abbrev document : Nat := 25

end Symbol

/-- The productions of HTML documents: what each makes, its number and its symbols. -/
def productions : List (Nat × Nat × List Nat) :=
  [ (25, 3, []), (41, 40, [25]), (25, 2, [39]), (27, 5, [26]), (27, 5, [11]), (27, 5, [16]),
    (27, 5, [28]), (27, 5, [29]), (27, 5, [30]), (27, 5, [36]), (28, 16, [34]), (37, 35, [9]),
    (39, 1, [27]), (40, 22, [37]), (41, 40, [25]), (28, 14, [31, 35]), (28, 14, [31, 22]),
    (29, 18, [32, 35]), (30, 20, [33, 35]), (38, 37, [12, 12]), (38, 37, [13, 13]),
    (39, 0, [39, 39]), (40, 21, [40, 40]), (28, 12, [31, 39, 35]), (28, 12, [31, 39, 22]),
    (29, 17, [32, 23, 35]), (30, 19, [33, 23, 35]), (31, 24, [5, 17, 2]), (32, 26, [5, 18, 2]),
    (33, 28, [5, 19, 2]), (34, 30, [5, 17, 6]), (35, 31, [7, 20, 2]), (36, 32, [7, 21, 2]),
    (37, 33, [9, 8, 10]), (37, 33, [9, 8, 38]), (38, 36, [12, 14, 12]), (38, 36, [13, 15, 13]),
    (26, 4, [1, 4, 3, 2]), (31, 23, [5, 17, 40, 2]), (32, 25, [5, 18, 40, 2]),
    (33, 27, [5, 19, 40, 2]), (34, 29, [5, 17, 40, 6]) ]

/-- The name of a node that a production calls so. -/
def nodeName (t : Table) (byname : Option Grammar.Alias) (x : Nat) : Option String :=
  (visibleKind t.grammar byname (.symbol x)).map (·.name)

/-- The names of the nodes of all symbols; none where a symbol has no nodes. -/
def nodeNames : List (Option String) :=
  [ none, some "<!", some ">", none, some "doctype", some "<", some "/>", some "</", some "=",
    some "attribute_name", some "attribute_value", some "entity", some "'", some "\"",
    some "attribute_value", some "attribute_value", some "text", some "tag_name", some "tag_name",
    some "tag_name", some "tag_name", some "erroneous_end_tag_name", none, some "raw_text",
    some "comment", some "document", some "doctype", none, some "element", some "script_element",
    some "style_element", some "start_tag", some "start_tag", some "start_tag",
    some "self_closing_tag", some "end_tag", some "erroneous_end_tag", some "attribute",
    some "quoted_attribute_value", none, none ]

/-- Checks that items count the symbols before them, and what else `Regular` asks for. -/
def isRegular (t : Table) : Bool :=
  t.items.toList.all (fun (_, i) => i.next.all fun x =>
    x != 0 && (t.item i.successor).size == i.size + 1 && (t.item i.successor).head == i.head &&
      (t.openings.getD x #[]).toList.all fun o => (t.opening.getD o.symbol #[]).toList.all fun id =>
        (t.item id).size == 0 && (t.item id).head != t.grammar.symbols.size) &&
  (t.item t.startItem).size == 0

/-- Checks that no production calls a node by another name than it has anyway. -/
def isPlain (t : Table) : Bool :=
  productions.all fun (_, p, xs) =>
    let steps := t.grammar.stepsOf (some p)
    steps.length == xs.length &&
      (xs.zip steps).all fun (x, s) => nodeName t s.byname x == nodeName t none x

/-- What the tables of the grammar of HTML documents come to. -/
theorem table_facts :
    productionsUpTo table.get 4 = productions ∧ itemsBehind table.get 5 = [] ∧
    (List.range 41).map (nodeName table.get none) = nodeNames ∧
    isRegular table.get = true ∧ isPlain table.get = true ∧ table.get.grammar.start = 25 ∧
    table.get.grammar.terminals = 25 ∧ table.get.grammar.symbols.size = 41 ∧
    table.get.grammar.extras = .singleton 24 ∧ table.get.grammar.word = none ∧
    Scanner.terminals table.get.grammar = ⟨17, 18, 19, 20, 21, 6, 22, 23, 24⟩ ∧
    ["text", "attribute_name", "attribute_value", "_single_quoted_text", "_double_quoted_text",
      "_doctype_text", "_doctype", "entity"].map table.get.grammar.named =
        [16, 9, 10, 14, 15, 3, 4, 11] ∧
    ["<!", ">", "<", "/>", "</", "=", "'", "\""].map table.get.grammar.literal =
      [1, 2, 5, 6, 7, 8, 12, 13] := by
  decide +kernel

/-- The symbols of a production of HTML documents. -/
theorem complete_mem {head production : Nat} {xs : List Nat}
    (h : Complete table.get head production xs) : (head, production, xs) ∈ productions := by
  obtain ⟨hproductions, hnone, -⟩ := table_facts
  exact hproductions ▸ complete_mem_upTo hnone h

/-- Items of HTML documents count the symbols before them. -/
theorem regular : Regular table.get := by
  obtain ⟨-, -, -, hregular, -, hstart, hterminals, hsymbols, -⟩ := table_facts
  unfold isRegular at hregular
  rw [Bool.and_eq_true, beq_iff_eq, List.all_eq_true] at hregular
  have hitem : ∀ {id x : Nat}, (table.get.item id).next = some x → x ≠ 0 ∧
      (table.get.item (table.get.item id).successor).size = (table.get.item id).size + 1 ∧
      (table.get.item (table.get.item id).successor).head = (table.get.item id).head ∧
      ∀ o ∈ table.get.openings.getD x #[], ∀ id ∈ table.get.opening.getD o.symbol #[],
        (table.get.item id).size = 0 ∧
          (table.get.item id).head ≠ table.get.grammar.symbols.size := by
    intro id x hnext
    have hmem : (id, table.get.item id) ∈ table.get.items.toList := by
      unfold Table.item at hnext ⊢
      rw [Std.TreeMap.getD_eq_getD_getElem?] at hnext ⊢
      rw [Std.TreeMap.mem_toList_iff_getElem?_eq_some]
      cases hget : table.get.items[id]? with
      | none => rw [hget] at hnext; cases hnext
      | some item => rfl
    have hchecked := hregular.1 _ hmem
    dsimp only at hchecked
    rw [hnext] at hchecked
    simpa only [Option.all_some, Bool.and_eq_true, bne_iff_ne, beq_iff_eq, List.all_eq_true,
      Array.mem_toList_iff, and_assoc] using hchecked
  constructor
  case opening => exact fun hother ho h => (hitem hother).2.2.2 _ ho _ h
  case start => exact hregular.2
  case successor =>
    exact fun hnext => ⟨(hitem hnext).1, (hitem hnext).2.1, (hitem hnext).2.2.1⟩
  case whole =>
    intro id xs hspells hnext hhead
    have hmem := complete_mem ⟨id, hspells, hnext, hhead, rfl⟩
    rw [hsymbols] at hmem
    have hwhole : ∀ e ∈ productions, e.1 = 41 → e.2.2 = [25] := by decide
    rw [hstart, hterminals]
    exact ⟨hwhole _ hmem rfl, Nat.le_refl 25⟩

/-- Only comments may stand anywhere. -/
theorem eq_comment_of_extra {x : Nat} (h : table.get.grammar.extras.contains x = true) :
    x = Symbol.comment := by
  obtain ⟨-, -, -, -, -, -, -, -, hextras, -⟩ := table_facts
  rw [hextras, Grammar.TerminalSet.contains, Grammar.TerminalSet.singleton, Nat.one_shiftLeft,
    Nat.testBit_two_pow] at h
  exact (of_decide_eq_true h).symm

/-- The name of the nodes of a symbol. -/
theorem nodeName_eq (x : Nat) : nodeName table.get none x = nodeNames.getD x none := by
  obtain ⟨-, -, hnames, -, -, -, -, hsymbols, -⟩ := table_facts
  by_cases hx : x < 41
  · rw [← hnames, List.getD_eq_getElem?_getD, List.getElem?_map, List.getElem?_range hx,
      Option.map_some, Option.getD_some]
  · have hnone : table.get.grammar.symbols[x]? = none :=
      Array.getElem?_eq_none (hsymbols ▸ Nat.not_lt.1 hx)
    rw [List.getD_eq_default _ _ (Nat.not_lt.1 hx)]
    simp only [nodeName, visibleKind, hnone, Option.map_none]

/-- The remarks of a production on its children. -/
def stepsOf (production : Nat) : List Grammar.Step :=
  table.get.grammar.stepsOf (some production)

/-- No production calls a node by another name than it has anyway. -/
theorem nodeName_step {head production : Nat} {xs : List Nat}
    (h : (head, production, xs) ∈ productions) :
    List.Forall₂ (fun x s => nodeName table.get s.byname x = nodeName table.get none x) xs
      (stepsOf production) := by
  obtain ⟨-, -, -, -, hplain, -⟩ := table_facts
  have hstep := List.all_eq_true.1 hplain _ h
  dsimp only at hstep
  rw [Bool.and_eq_true, beq_iff_eq, List.all_eq_true] at hstep
  refine List.forall₂_iff_zip.2 ⟨hstep.1.symm, fun {x s} hmem => ?_⟩
  exact beq_iff_eq.1 (hstep.2 _ hmem)

end IconSubset.Html
