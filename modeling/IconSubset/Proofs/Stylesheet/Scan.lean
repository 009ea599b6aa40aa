import IconSubset.Proofs.Stylesheet.Marks

/-!
# Marks among tokens

The marks of a document that is read without repairs can be told from its tokens alone: a `Scan`
passes over them one by one, counts the elements that are open, and keeps in mind what the next `>`
would end. Every tree leaves as many elements open as its symbol says, and its tokens have the marks
of its nodes (`takes_tree`).
-/

namespace IconSubset.Stylesheet

open Grammar (Step Alias)
open Html (productions nodeName nodeNames nodeName_eq nodeName_step stepsOf complete_mem)
open Parse (Extent Source Subtree Leaf leaves leavesAll leavesAll_append leafOf totals treeNodes
  forestNodes Derived symbols symbols_append visibleKind stepFor)
open Syntax (Node Position Role)

/-! ## Scanning tokens -/

/-- What a `>` would end. -/
inductive Pending where
  /-- Nothing that leaves a mark. -/
  | nothing
  /-- A start tag of that name. -/
  | tag (name : String)
  /-- A doctype. -/
  | doctype
deriving DecidableEq

/-- How far tokens have been scanned. -/
@[ext] structure Scan where
  /-- The place, in characters. -/
  place : Nat
  /-- The number of open elements. -/
  depth : Nat
  /-- What a `>` would end. -/
  pending : Pending

/-- The place after a stretch. -/
def Scan.forward (c : Scan) (e : Extent) : Scan := { c with place := c.place + e.chars }

/-- The byte at a place of a source. -/
def byteAt (s : Source) (place : Nat) : Nat := (s.extent 0 place).bytes

open Html.Symbol in
/-- Scans one more token. -/
def Scan.read (s : Source) (c : Scan) (l : Leaf) : Scan × List Mark :=
  let next := c.forward (l.padding.add l.size)
  match l.label with
  | .symbol declaration => ({ next with pending := .doctype }, [])
  | .symbol tagEnd =>
    match c.pending with
    | .nothing => (next, [])
    | .tag name =>
      ({ next with pending := .nothing, depth := c.depth + 1 },
        [.tag name (byteAt s next.place)])
    | .doctype =>
      ({ next with pending := .nothing },
        if c.depth = 0 then [.doctype (byteAt s next.place)] else [])
  | .symbol selfClosing => ({ next with pending := .nothing }, [])
  | .symbol startTagName | .symbol scriptTagName | .symbol styleTagName =>
    let start := c.place + l.padding.chars
    ({ next with pending := .tag (s.slice start (start + l.size.chars)) }, [])
  | .symbol endTagName | .symbol implicitEndTag => ({ next with depth := c.depth - 1 }, [])
  | _ => (next, [])

/-- Scans tokens that follow each other, and collects the marks. -/
def scan (s : Source) : Scan → List Leaf → Scan × List Mark
  | c, [] => (c, [])
  | c, l :: ls =>
    let (c, ms) := c.read s l
    let (c, ms') := scan s c ls
    (c, ms ++ ms')

variable {s : Source}

/-- Two rows of tokens are scanned one after the other. -/
theorem scan_append (c : Scan) (ls ms : List Leaf) :
    scan s c (ls ++ ms) =
      ((scan s (scan s c ls).1 ms).1, (scan s c ls).2 ++ (scan s (scan s c ls).1 ms).2) := by
  induction ls generalizing c with
  | nil => rfl
  | cons l ls ih => simp only [List.cons_append, scan, ih, List.append_assoc]

/-- A single token is scanned. -/
theorem scan_singleton (c : Scan) (l : Leaf) : scan s c [l] = c.read s l := by
  simp [scan]

/-- A token is passed over. -/
theorem place_read (c : Scan) (l : Leaf) :
    (c.read s l).1.place = c.place + (l.padding.add l.size).chars := by
  unfold Scan.read
  dsimp only
  split
  case h_2 => split <;> rfl
  all_goals rfl

/-- One stretch after another. -/
theorem Scan.forward_add (c : Scan) (e f : Extent) :
    (c.forward e).forward f = c.forward (e.add f) := by
  simp [Scan.forward, Extent.add, Nat.add_assoc]

/-! ## Tokens that the scan passes over -/

/-- The symbols whose tokens the scan passes over. -/
def quietSymbols : List Nat :=
  [0, 3, 4, 5, 7, 8, 9, 10, 11, 12, 13, 14, 15, 16, 21, 23, 24, 37, 38, 40]

/-- A tree of a symbol whose tokens the scan passes over. -/
def IsQuiet (u : Subtree) : Prop := ∃ x ∈ quietSymbols, u.summary.label = .symbol x

/-- A token of a quiet symbol is passed over. -/
theorem read_of_quiet {x : Nat} (hx : x ∈ quietSymbols) (c : Scan) (l : Leaf)
    (hl : l.label = .symbol x) : c.read s l = (c.forward (l.padding.add l.size), []) := by
  unfold Scan.read
  rw [hl]
  simp only [quietSymbols, List.mem_cons, List.not_mem_nil, or_false] at hx
  obtain rfl | rfl | rfl | rfl | rfl | rfl | rfl | rfl | rfl | rfl | rfl | rfl | rfl | rfl | rfl |
    rfl | rfl | rfl | rfl | rfl := hx <;> rfl

/-- Only tokens that are passed over may stand anywhere. -/
theorem isQuiet_of_extra {u : Subtree} (hu : Derived Html.table.get u)
    (hextra : u.summary.extra = true) : IsQuiet u := by
  cases hu with
  | @token s x hproduction hlabel hterminal hextra' =>
    obtain rfl | hcomment := hextra' hextra
    · exact ⟨0, by decide, hlabel⟩
    · obtain rfl := Html.eq_comment_of_extra hcomment
      exact ⟨_, by decide, hlabel⟩
  | made _ _ hextra' => exact absurd (hextra.symm.trans hextra') Bool.noConfusion

/-- The symbol of a tree that is part of a production is among those of the row. -/
theorem mem_symbols {cs : List Subtree} {u : Subtree} {x : Nat} (hu : u ∈ cs)
    (hlabel : u.summary.label = .symbol x) (hextra : u.summary.extra = false) :
    x ∈ symbols cs :=
  List.mem_filterMap.2 ⟨u, hu, by rw [hlabel, hextra]⟩

/-- Trees whose symbols are passed over. -/
theorem isQuiet_of_symbols {cs : List Subtree} (hcs : ∀ u ∈ cs, Derived Html.table.get u)
    (h : ∀ x ∈ symbols cs, x ∈ quietSymbols) : ∀ u ∈ cs, IsQuiet u := by
  intro u hu
  cases hextra : u.summary.extra with
  | true => exact isQuiet_of_extra (hcs u hu) hextra
  | false =>
    obtain ⟨x, hlabel⟩ := (hcs u hu).exists_label
    exact ⟨x, h x (mem_symbols hu hlabel hextra), hlabel⟩

/-- Trees that are passed over one by one are passed over together. -/
theorem scan_forest_quiet {cs : List Subtree}
    (h : ∀ u ∈ cs, ∀ c, scan s c (leaves u) = (c.forward u.total, [])) (c : Scan) :
    scan s c (leavesAll cs) = (c.forward (totals cs), []) := by
  induction cs generalizing c with
  | nil => rfl
  | cons u cs ih =>
    rw [leavesAll, scan_append, h u List.mem_cons_self c,
      ih (fun v hv => h v (List.mem_cons_of_mem _ hv)), Scan.forward_add]
    rfl

/-- A quiet tree is passed over. -/
theorem scan_quiet {u : Subtree} (hu : Derived Html.table.get u) (hquiet : IsQuiet u) (c : Scan) :
    scan s c (leaves u) = (c.forward u.total, []) := by
  induction hu generalizing c with
  | token hproduction hlabel =>
    obtain ⟨x, hx, hlabel'⟩ := hquiet
    rw [leaves, hproduction]
    exact (scan_singleton c _).trans (read_of_quiet hx c _ hlabel')
  | made hproduction hlabel hextra hcomplete htotal _ hchildren ih =>
    obtain ⟨x, hx, hlabel'⟩ := hquiet
    obtain rfl := Parse.Label.symbol.inj (hlabel.symm.trans hlabel')
    have hclosed : ∀ e ∈ productions, e.1 ∈ quietSymbols → ∀ y ∈ e.2.2, y ∈ quietSymbols := by
      decide
    have hquiets := isQuiet_of_symbols hchildren (hclosed _ (complete_mem hcomplete) hx)
    rw [leaves, hproduction, Subtree.total, Subtree.summary, htotal]
    exact scan_forest_quiet (fun v hv c => ih v hv (hquiets v hv) c) c

/-! ## Nodes of trees -/

/-- The node of a tree at a place, with these children. -/
def nodeOf (s : Source) (kind : Syntax.Kind) (role : Option Role) (place : Nat)
    (t : Parse.Summary) (children : List Node) : Node :=
  .mk kind role ⟨byteAt s (place + t.padding.chars), (s.extent 0 (place + t.padding.chars)).rows⟩
    (s.slice (place + t.padding.chars) (place + t.padding.chars + t.size.chars)) t.missing children

/-- A tree that a production has made leaves its place to its children, or it is one node with the
name of its symbol. -/
theorem treeNodes_made {t : Parse.Summary} (cs : List Subtree) {x p : Nat} {b : Option Alias}
    (hlabel : t.label = .symbol x) (hproduction : t.production = some p)
    (hb : nodeName Html.table.get b x = nodeName Html.table.get none x) (role : Option Role)
    (place : Nat) :
    (nodeNames.getD x none = none ∧
      treeNodes Html.table.get.grammar s b role place (.node t cs) =
        forestNodes Html.table.get.grammar s role place (stepsOf p) cs) ∨
    ∃ kind, nodeNames.getD x none = some kind.name ∧
      treeNodes Html.table.get.grammar s b role place (.node t cs) =
        [nodeOf s kind role place t
          (forestNodes Html.table.get.grammar s none place (stepsOf p) cs)] := by
  rw [nodeName_eq] at hb
  unfold nodeName at hb
  rw [← hb, treeNodes, hlabel, hproduction]
  cases visibleKind Html.table.get.grammar b (.symbol x) with
  | none => exact .inl ⟨rfl, rfl⟩
  | some kind => exact .inr ⟨kind, rfl, rfl⟩

/-- A token has no nodes, or it is one node with the name of its symbol. -/
theorem treeNodes_token {t : Parse.Summary} {x : Nat} {b : Option Alias}
    (hlabel : t.label = .symbol x)
    (hb : nodeName Html.table.get b x = nodeName Html.table.get none x) (role : Option Role)
    (place : Nat) :
    (nodeNames.getD x none = none ∧
      treeNodes Html.table.get.grammar s b role place (.node t []) = []) ∨
    ∃ kind, nodeNames.getD x none = some kind.name ∧
      treeNodes Html.table.get.grammar s b role place (.node t []) =
        [nodeOf s kind role place t []] := by
  rw [nodeName_eq] at hb
  unfold nodeName at hb
  rw [← hb, treeNodes, hlabel]
  cases visibleKind Html.table.get.grammar b (.symbol x) with
  | none => exact .inl ⟨rfl, rfl⟩
  | some kind => exact .inr ⟨kind, rfl, rfl⟩

/-- The children of a production have the names that they have anyway. -/
def Named : List Nat → List Step → Prop
  | x :: xs, st :: steps =>
    nodeName Html.table.get st.byname x = nodeName Html.table.get none x ∧ Named xs steps
  | _, _ => True

/-- The children of the productions of HTML documents have the names that they have anyway. -/
theorem named_of_complete {head production : Nat} {xs : List Nat}
    (h : Parse.Complete Html.table.get head production xs) : Named xs (stepsOf production) := by
  have hall := nodeName_step (complete_mem h)
  generalize stepsOf production = steps at hall
  clear h
  induction hall with
  | nil => trivial
  | cons hhead _ ih => exact ⟨hhead, ih⟩

/-- The first of some trees has the name that it has anyway, and so have the others. -/
theorem Named.cons {u : Subtree} {us : List Subtree} {x : Nat} {steps : List Step}
    (h : Named (symbols (u :: us)) steps) (hlabel : u.summary.label = .symbol x) :
    nodeName Html.table.get ((stepFor steps u.summary).bind (·.byname)) x =
        nodeName Html.table.get none x ∧
      Named (symbols us) (if u.summary.extra then steps else steps.drop 1) := by
  unfold stepFor
  cases hextra : u.summary.extra with
  | true =>
    have hsymbols : symbols (u :: us) = symbols us := by simp [symbols, hextra]
    exact ⟨rfl, hsymbols ▸ h⟩
  | false =>
    have hsymbols : symbols (u :: us) = x :: symbols us := by simp [symbols, hextra, hlabel]
    rw [hsymbols] at h
    cases steps with
    | nil => exact ⟨rfl, by unfold Named; split <;> trivial⟩
    | cons st steps => exact h

/-- The nodes of a row of trees are those of the first tree and those of the others. -/
theorem forestNodes_cons (g : Grammar.Grammar) (role : Option Role) (place : Nat)
    (steps : List Step) (u : Subtree) (us : List Subtree) :
    ∃ role', forestNodes g s role place steps (u :: us) =
      treeNodes g s ((stepFor steps u.summary).bind (·.byname)) role' place u ++
        forestNodes g s role (place + u.total.chars)
          (if u.summary.extra then steps else steps.drop 1) us := by
  obtain ⟨t, cs⟩ := u
  rw [forestNodes, Nat.add_assoc]
  exact ⟨(((stepFor steps t).bind (·.field)).bind Role.ofName?).or role, rfl⟩

/-- The symbols whose trees have no marks below a node. -/
def silentSymbols : List Nat := List.range 25 ++ [37, 38, 40]

/-- Rows of trees without marks have no marks. -/
theorem marksAll_forest_nil {depth : Nat} {cs : List Subtree}
    (hcs : ∀ u ∈ cs, Derived Html.table.get u)
    (h : ∀ u ∈ cs, ∀ x b role place, u.summary.label = .symbol x →
      nodeName Html.table.get b x = nodeName Html.table.get none x →
        marksAll depth (treeNodes Html.table.get.grammar s b role place u) = [])
    (role : Option Role) (place : Nat) {steps : List Step} (hnamed : Named (symbols cs) steps) :
    marksAll depth (forestNodes Html.table.get.grammar s role place steps cs) = [] := by
  induction cs generalizing place steps with
  | nil => rfl
  | cons u us ih =>
    obtain ⟨x, hlabel⟩ := (hcs u List.mem_cons_self).exists_label
    obtain ⟨hname, hrest⟩ := hnamed.cons hlabel
    obtain ⟨role', hnodes⟩ := forestNodes_cons (s := s) Html.table.get.grammar role place steps u us
    rw [hnodes, marksAll_append, h u List.mem_cons_self x _ _ _ hlabel hname,
      ih (fun v hv => hcs v (List.mem_cons_of_mem _ hv))
        (fun v hv => h v (List.mem_cons_of_mem _ hv)) _ hrest]
    rfl

/-- A node that is neither a start tag nor a doctype has the marks of its children. -/
theorem ownMark_eq_nil {depth : Nat} {n : Node} (htag : n.kind.name ≠ "start_tag")
    (hdoctype : depth = 0 → n.kind.name ≠ "doctype") : ownMark depth n = [] := by
  unfold ownMark
  rw [if_neg htag, if_neg fun h => hdoctype h.1 h.2]

/-- The symbol of a child is one of the production, or it is that of a token which may stand
anywhere. -/
theorem mem_symbols_or {cs : List Subtree} {u : Subtree} {x : Nat} (hu : u ∈ cs)
    (hderived : Derived Html.table.get u) (hlabel : u.summary.label = .symbol x) :
    x ∈ symbols cs ∨ x = 0 ∨ x = Html.Symbol.comment := by
  cases hextra : u.summary.extra with
  | false => exact .inl (mem_symbols hu hlabel hextra)
  | true =>
    cases hderived with
    | @token s y hproduction hlabel' hterminal hextra' =>
      obtain rfl := Parse.Label.symbol.inj (hlabel'.symm.trans hlabel)
      exact .inr ((hextra' hextra).imp_right Html.eq_comment_of_extra)
    | made _ _ hextra' => exact absurd (hextra.symm.trans hextra') Bool.noConfusion

/-- Trees of silent symbols have no marks. Below a node that holds for the keyword of a doctype as
well. -/
theorem marksAll_silent {u : Subtree} (hu : Derived Html.table.get u) {x : Nat}
    (hlabel : u.summary.label = .symbol x) (hx : x ∈ silentSymbols) {b : Option Alias}
    (hb : nodeName Html.table.get b x = nodeName Html.table.get none x) (role : Option Role)
    (place depth : Nat) (hdepth : depth = 0 → x ≠ Html.Symbol.doctypeWord) :
    marksAll depth (treeNodes Html.table.get.grammar s b role place u) = [] := by
  have hnames : ∀ x ∈ silentSymbols, nodeNames.getD x none ≠ some "start_tag" ∧
      (nodeNames.getD x none = some "doctype" → x = Html.Symbol.doctypeWord) := by decide
  induction hu generalizing x b role place depth with
  | @token t y hproduction hlabel' =>
    obtain ⟨-, hnodes⟩ | ⟨kind, hkind, hnodes⟩ :=
      treeNodes_token (s := s) (t := t) hlabel hb role place
    · rw [hnodes]
      rfl
    · rw [hnodes, nodeOf, marksAll, marks, ownMark_eq_nil]
      · rfl
      · exact fun htag => (hnames x hx).1 (hkind.trans (congrArg _ htag))
      · exact fun hzero hdoctype =>
          hdepth hzero ((hnames x hx).2 (hkind.trans (congrArg _ hdoctype)))
  | @made t cs head production hproduction hlabel' hextra hcomplete htotal _ hchildren ih =>
    obtain rfl := Parse.Label.symbol.inj (hlabel'.symm.trans hlabel)
    have hclosed : ∀ e ∈ productions, e.1 ∈ silentSymbols → e.1 ≠ Html.Symbol.doctypeWord ∧
        ∀ y ∈ e.2.2, y ∈ silentSymbols ∧ y ≠ Html.Symbol.doctypeWord := by decide
    obtain ⟨hhead, hsymbols⟩ := hclosed _ (complete_mem hcomplete) hx
    have hforest : ∀ (depth : Nat) (role : Option Role) (place : Nat), marksAll depth
        (forestNodes Html.table.get.grammar s role place (stepsOf production) cs) = [] := by
      intro depth role place
      refine marksAll_forest_nil hchildren ?_ role place (named_of_complete hcomplete)
      intro v hv y b' role' place' hlabelV hb'
      obtain hy | rfl | rfl := mem_symbols_or hv (hchildren v hv) hlabelV
      · exact ih v hv hlabelV (hsymbols y hy).1 hb' role' place' depth fun _ => (hsymbols y hy).2
      · exact ih v hv hlabelV (by decide) hb' role' place' depth fun _ => by decide
      · exact ih v hv hlabelV (by decide) hb' role' place' depth fun _ => by decide
    obtain ⟨-, hnodes⟩ | ⟨kind, hkind, hnodes⟩ :=
      treeNodes_made (s := s) (t := t) cs hlabel hproduction hb role place
    · rw [hnodes, hforest]
    · rw [hnodes, nodeOf, marksAll, marks, ownMark_eq_nil, hforest]
      · rfl
      · exact fun htag => (hnames _ hx).1 (hkind.trans (congrArg _ htag))
      · exact fun _ hdoctype => hhead ((hnames _ hx).2 (hkind.trans (congrArg _ hdoctype)))

/-! ## Tags and doctypes -/

/-- A tree of a terminal is a token. -/
theorem exists_token {u : Subtree} (hu : Derived Html.table.get u) {x : Nat}
    (hlabel : u.summary.label = .symbol x) (hx : x < 25) :
    ∃ t, u = .node t [] ∧ t.production = none ∧ t.label = .symbol x := by
  cases hu with
  | token hproduction => exact ⟨_, rfl, hproduction, hlabel⟩
  | @made t cs head production hproduction hlabel' _ hcomplete =>
    obtain rfl := Parse.Label.symbol.inj (hlabel'.symm.trans hlabel)
    have hheads : ∀ e ∈ productions, 25 ≤ e.1 := by decide
    exact absurd hx (Nat.not_lt.2 (hheads _ (complete_mem hcomplete)))

/-- The nodes of a token have the name of its symbol. -/
theorem name_of_token {u : Subtree} (hu : Derived Html.table.get u) {x : Nat}
    (hlabel : u.summary.label = .symbol x) (hx : x < 25) {b : Option Alias}
    (hb : nodeName Html.table.get b x = nodeName Html.table.get none x) {role : Option Role}
    {place : Nat} {n : Node} (hn : n ∈ treeNodes Html.table.get.grammar s b role place u) :
    nodeNames.getD x none = some n.kind.name := by
  obtain ⟨t, rfl, hproduction, hlabel'⟩ := exists_token hu hlabel hx
  obtain ⟨-, hnodes⟩ | ⟨kind, hkind, hnodes⟩ :=
    treeNodes_token (s := s) (t := t) hlabel' hb role place
  · rw [hnodes] at hn
    cases hn
  · rw [hnodes] at hn
    obtain rfl := List.mem_singleton.1 hn
    exact hkind

/-- The nodes of a row of trees are nodes of the first trees and those of the others. -/
theorem exists_forestNodes_append {a : List Subtree} (ha : ∀ u ∈ a, Derived Html.table.get u)
    (b : List Subtree) (role : Option Role) (place : Nat) {steps : List Step}
    (hnamed : Named (symbols (a ++ b)) steps) : ∃ front steps',
      forestNodes Html.table.get.grammar s role place steps (a ++ b) =
        front ++ forestNodes Html.table.get.grammar s role (place + (totals a).chars) steps' b ∧
      Named (symbols b) steps' ∧ ∀ n ∈ front, ∃ u ∈ a, ∃ x byname role' place',
        u.summary.label = .symbol x ∧
        nodeName Html.table.get byname x = nodeName Html.table.get none x ∧
        n ∈ treeNodes Html.table.get.grammar s byname role' place' u := by
  induction a generalizing place steps with
  | nil => exact ⟨[], steps, rfl, hnamed, fun n hn => by cases hn⟩
  | cons u us ih =>
    obtain ⟨x, hlabel⟩ := (ha u List.mem_cons_self).exists_label
    obtain ⟨hname, hrest⟩ := hnamed.cons hlabel
    obtain ⟨role', hnodes⟩ :=
      forestNodes_cons (s := s) Html.table.get.grammar role place steps u (us ++ b)
    obtain ⟨front, steps', hfront, hnamed', hmem⟩ :=
      ih (fun v hv => ha v (List.mem_cons_of_mem _ hv)) (place + u.total.chars) hrest
    refine ⟨treeNodes Html.table.get.grammar s ((stepFor steps u.summary).bind (·.byname)) role'
      place u ++ front, steps', ?_, hnamed', ?_⟩
    · rw [List.cons_append, hnodes, hfront, List.append_assoc, Nat.add_assoc]
      rfl
    · intro n hn
      obtain hn | hn := List.mem_append.1 hn
      · exact ⟨u, List.mem_cons_self, x, _, role', place, hlabel, hname, hn⟩
      · obtain ⟨v, hv, hrest⟩ := hmem n hn
        exact ⟨v, List.mem_cons_of_mem _ hv, hrest⟩

/-- The tree of a symbol in a row, with the trees before and behind it. -/
theorem exists_split {cs : List Subtree} {before behind : List Nat} {x : Nat}
    (h : symbols cs = before ++ x :: behind) : ∃ a u b, cs = a ++ u :: b ∧ symbols a = before ∧
      u.summary.label = .symbol x ∧ u.summary.extra = false ∧ symbols b = behind := by
  obtain ⟨a, rest, rfl, ha, hrest⟩ := List.filterMap_eq_append_iff.1 h
  obtain ⟨skipped, u, b, rfl, hskipped, hu, hb⟩ := List.filterMap_eq_cons_iff.1 hrest
  refine ⟨a ++ skipped, u, b, by rw [List.append_assoc], ?_, ?_, ?_, hb⟩
  · rw [symbols_append]
    have hnone : symbols skipped = [] := List.filterMap_eq_nil_iff.2 hskipped
    rw [hnone, List.append_nil]
    exact ha
  · revert hu
    split
    next hlabel => exact fun hx => hlabel.trans (congrArg _ (Option.some.inj hx))
    next => exact fun hx => by cases hx
  · revert hu
    split
    next hextra _ => exact fun _ => hextra
    next => exact fun hx => by cases hx

/-- Two tokens in a row of trees that the scan passes over, the second of which is the last tree,
are scanned one after the other. -/
theorem exists_tokens {cs : List Subtree} (hcs : ∀ u ∈ cs, Derived Html.table.get u)
    (hlast : ∀ c ∈ cs.getLast?, c.summary.extra = false) {before middle : List Nat} {x y : Nat}
    (h : symbols cs = before ++ x :: (middle ++ [y]))
    (hquiet : ∀ z ∈ before ++ middle, z ∈ quietSymbols) (hx : x < 25) (hy : y < 25) :
    ∃ a n b e, cs = a ++ Subtree.node n [] :: (b ++ [Subtree.node e []]) ∧ symbols a = before ∧
      n.label = .symbol x ∧ e.label = .symbol y ∧ ∀ c, scan s c (leavesAll cs) =
        let r := (c.forward (totals a)).read s (leafOf n)
        let r' := (r.1.forward (totals b)).read s (leafOf e)
        (r'.1, r.2 ++ r'.2) := by
  obtain ⟨a, u, rest, rfl, ha, hu, -, hrest⟩ := exists_split h
  obtain ⟨b, v, extras, rfl, hb, hv, -, hextras⟩ := exists_split hrest
  obtain rfl : extras = [] := by
    by_contra hne
    obtain ⟨z, hz⟩ := Option.ne_none_iff_exists'.1 (mt List.getLast?_eq_none_iff.1 hne)
    have hmem := List.mem_of_getLast? hz
    have hzlast := hlast z (by
      rw [List.getLast?_append, List.getLast?_cons, List.getLast?_append, List.getLast?_cons]
      simp [hz])
    obtain ⟨w, hw⟩ := (hcs z (by simp [hmem])).exists_label
    have hsome := mem_symbols hmem hw hzlast
    rw [hextras] at hsome
    cases hsome
  obtain ⟨n, rfl, hn, hnlabel⟩ := exists_token (hcs u (by simp)) hu hx
  obtain ⟨e, rfl, he, helabel⟩ := exists_token (hcs v (by simp)) hv hy
  refine ⟨a, n, b, e, rfl, ha, hnlabel, helabel, fun c => ?_⟩
  have hquietA : ∀ c, scan s c (leavesAll a) = (c.forward (totals a), []) :=
    scan_forest_quiet fun w hw => scan_quiet (hcs w (by simp [hw]))
      (isQuiet_of_symbols (fun w hw => hcs w (by simp [hw]))
        (fun z hz => hquiet z (List.mem_append_left _ (ha ▸ hz))) w hw)
  have hquietB : ∀ c, scan s c (leavesAll b) = (c.forward (totals b), []) :=
    scan_forest_quiet fun w hw => scan_quiet (hcs w (by simp [hw]))
      (isQuiet_of_symbols (fun w hw => hcs w (by simp [hw]))
        (fun z hz => hquiet z (List.mem_append_right _ (hb ▸ hz))) w hw)
  simp only [leavesAll_append, leavesAll, leaves, hn, he, Option.isNone_none, if_true,
    List.append_nil, scan_append, hquietA, hquietB, scan_singleton, List.nil_append]

/-- The byte at a place is the number of bytes of the characters before it. -/
theorem byteAt_eq (s : Source) (i : Nat) :
    byteAt s i = (String.ofList (s.chars.toList.take i)).utf8ByteSize := by
  exact (congrArg Position.byte (Parse.extent_eq s i)).trans (Nat.zero_add _)

/-- The byte at the end of a stretch. -/
theorem byteAt_add (s : Source) (i k : Nat) :
    byteAt s i + (s.slice i (i + k)).utf8ByteSize = byteAt s (i + k) := by
  have hslice : s.chars.toList.take (i + k) =
      s.chars.toList.take i ++ (s.slice i (i + k)).toList := by
    rw [Source.slice, String.toList_ofList, Array.toList_extract, List.extract_eq_take_drop,
      Nat.add_sub_cancel_left, List.take_add]
  rw [byteAt_eq, byteAt_eq, hslice, String.ofList_append, String.utf8ByteSize_append,
    String.ofList_toList]

/-- The first child that is the name of a tag. -/
theorem find?_tagName {cs : List Subtree} (hcs : ∀ u ∈ cs, Derived Html.table.get u)
    {a b : List Subtree} {n : Parse.Summary} (hsplit : cs = a ++ .node n [] :: b)
    (ha : ∀ u ∈ a, ∀ x, u.summary.label = .symbol x → x ∈ [0, 5, 24]) {x : Nat}
    (hn : n.label = .symbol x) (hx : nodeNames.getD x none = some "tag_name") (place : Nat)
    {steps : List Step} (hnamed : Named (symbols cs) steps) :
    ((forestNodes Html.table.get.grammar s none place steps cs).find?
      (·.kind.name == "tag_name")).map (·.text) =
        some (s.slice (place + (totals a).chars + n.padding.chars)
          (place + (totals a).chars + n.padding.chars + n.size.chars)) := by
  subst hsplit
  obtain ⟨front, steps', hnodes, hnamed', hfront⟩ :=
    exists_forestNodes_append (s := s) (fun u hu => hcs u (List.mem_append_left _ hu))
      (.node n [] :: b) none place hnamed
  obtain ⟨hname, -⟩ := hnamed'.cons hn
  obtain ⟨role', hcons⟩ := forestNodes_cons (s := s) Html.table.get.grammar none
    (place + (totals a).chars) steps' (.node n []) b
  have hnone : front.find? (·.kind.name == "tag_name") = none := by
    refine List.find?_eq_none.2 fun m hm htag => ?_
    obtain ⟨u, hu, y, byname, role'', place', hlabel, hbyname, hmem⟩ := hfront m hm
    have hnames : ∀ y ∈ [0, 5, 24], nodeNames.getD y none ≠ some "tag_name" ∧ y < 25 := by decide
    obtain ⟨hname, hy⟩ := hnames y (ha u hu y hlabel)
    have hkind := name_of_token (hcs u (List.mem_append_left _ hu)) hlabel hy hbyname hmem
    exact hname (hkind.trans (congrArg _ (beq_iff_eq.1 htag)))
  obtain ⟨hhidden, -⟩ | ⟨kind, hkind, htree⟩ :=
    treeNodes_token (s := s) (t := n) hn hname role' (place + (totals a).chars)
  · cases hx.symm.trans hhidden
  · have htag : kind.name = "tag_name" := Option.some.inj (hkind.symm.trans hx)
    rw [hnodes, List.find?_append, hnone, Option.none_or, hcons, htree]
    simp [nodeOf, Node.kind, Node.text, htag]

/-- Scanning a tree finds the marks of its nodes, and opens or closes so many elements. -/
def TakesTree (s : Source) (depth : Nat) (u : Subtree) (b : Option Alias) (d d' : Nat) : Prop :=
  ∀ role place, scan s ⟨place, d, .nothing⟩ (leaves u) =
    (⟨place + u.total.chars, d', .nothing⟩,
      marksAll depth (treeNodes Html.table.get.grammar s b role place u))

/-- A tree of a symbol that is no terminal has been made by a production. -/
theorem exists_made {u : Subtree} (hu : Derived Html.table.get u) {x : Nat}
    (hlabel : u.summary.label = .symbol x) (hx : 25 ≤ x) : ∃ t cs p, u = .node t cs ∧
      t.label = .symbol x ∧ t.production = some p ∧ (x, p, symbols cs) ∈ productions ∧
      Named (symbols cs) (stepsOf p) ∧ t.padding.add t.size = totals cs ∧
      (x ≠ 25 → ∀ c ∈ cs.getLast?, c.summary.extra = false) ∧
      ∀ c ∈ cs, Derived Html.table.get c := by
  obtain ⟨-, -, -, -, -, hstart, hterminals, -⟩ := Html.table_facts
  cases hu with
  | token _ hlabel' hterminal =>
    obtain rfl := Parse.Label.symbol.inj (hlabel'.symm.trans hlabel)
    exact absurd (hterminals ▸ hterminal) (Nat.not_lt.2 hx)
  | @made t cs head p hproduction hlabel' hextra hcomplete htotal hlast hchildren =>
    obtain rfl := Parse.Label.symbol.inj (hlabel'.symm.trans hlabel)
    exact ⟨t, cs, p, rfl, hlabel', hproduction, complete_mem hcomplete,
      named_of_complete hcomplete, htotal, hstart ▸ hlast, hchildren⟩

/-- Children of silent symbols have no marks below their node. -/
theorem marksAll_children {cs : List Subtree} (hcs : ∀ u ∈ cs, Derived Html.table.get u)
    {steps : List Step} (hnamed : Named (symbols cs) steps)
    (hsilent : ∀ x ∈ symbols cs, x ∈ silentSymbols) (role : Option Role) (place depth : Nat) :
    marksAll (depth + 1) (forestNodes Html.table.get.grammar s role place steps cs) = [] := by
  refine marksAll_forest_nil hcs ?_ role place hnamed
  intro v hv y b' role' place' hlabel hb'
  refine marksAll_silent (hcs v hv) hlabel ?_ hb' role' place' _
    fun h => absurd h (Nat.succ_ne_zero _)
  obtain hy | rfl | rfl := mem_symbols_or hv (hcs v hv) hlabel
  · exact hsilent y hy
  · decide
  · decide

/-- The place behind two tokens and what lies before and between them. -/
theorem place_after {a b : List Subtree} {n e : Parse.Summary} (place : Nat) :
    place + (totals a).chars + (n.padding.add n.size).chars + (totals b).chars +
        (e.padding.add e.size).chars =
      place + (totals (a ++ Subtree.node n [] :: (b ++ [Subtree.node e []]))).chars := by
  simp [totals, Subtree.total, Subtree.summary, Extent.add, Extent.zero, Nat.add_assoc]

/-- The tokens of a node are those of its children. -/
theorem leaves_made {t : Parse.Summary} {cs : List Subtree} {p : Nat}
    (h : t.production = some p) : leaves (.node t cs) = leavesAll cs := by
  rw [leaves, h]
  rfl

/-- The byte at which the node of a tree ends. -/
theorem endOf_nodeOf (kind : Syntax.Kind) (role : Option Role) (place : Nat) (t : Parse.Summary)
    (children : List Node) :
    endOf (nodeOf s kind role place t children) =
      byteAt s (place + (t.padding.add t.size).chars) := by
  rw [endOf, nodeOf, Node.start, Node.text, byteAt_add, Nat.add_assoc]
  rfl

/-- A start tag is a mark of its name. -/
theorem ownMark_startTag {n : Node} {name : String} (hkind : n.kind.name = "start_tag")
    (hname : (n.children.find? (·.kind.name == "tag_name")).map (·.text) = some name)
    (depth : Nat) : ownMark depth n = [.tag name (endOf n)] := by
  obtain ⟨tag, htag, rfl⟩ := Option.map_eq_some_iff.1 hname
  rw [ownMark, if_pos hkind, htag]

/-- A start tag is a mark, and opens an element. -/
theorem takes_startTag {u : Subtree} (hu : Derived Html.table.get u) {x : Nat}
    (hlabel : u.summary.label = .symbol x) (hx : x ∈ [31, 32, 33]) {b : Option Alias}
    (hb : nodeName Html.table.get b x = nodeName Html.table.get none x) (depth d : Nat) :
    TakesTree s depth u b d (d + 1) := by
  have hshape : ∀ e ∈ productions, e.1 ∈ [31, 32, 33] → ∃ y ∈ [17, 18, 19],
      ∃ middle ∈ [[], [40]], e.2.2 = [5] ++ y :: (middle ++ [2]) ∧
        (∀ z ∈ [5] ++ middle, z ∈ quietSymbols) ∧ ∀ z ∈ e.2.2, z ∈ silentSymbols := by decide
  have hkinds : ∀ x ∈ [31, 32, 33],
      nodeNames.getD x none = some "start_tag" ∧ 25 ≤ x ∧ x ≠ 25 := by decide
  have hnames : ∀ y ∈ [17, 18, 19], nodeNames.getD y none = some "tag_name" ∧ y < 25 := by decide
  obtain ⟨hstartTag, hnode, hnoRoot⟩ := hkinds x hx
  obtain ⟨t, cs, p, rfl, hlabel, hproduction, hmem, hnamed, htotal, hlast, hcs⟩ :=
    exists_made hu hlabel hnode
  obtain ⟨y, hy, middle, -, hsymbols, hquiet, hsilent⟩ := hshape _ hmem hx
  obtain ⟨a, n, m, e, hsplit, ha, hn, he, hscan⟩ := exists_tokens (s := s) hcs (hlast hnoRoot)
    hsymbols hquiet (hnames y hy).2 (by decide)
  intro role place
  have hmarks : marksAll depth (treeNodes Html.table.get.grammar s b role place (.node t cs)) =
      [.tag (s.slice (place + (totals a).chars + n.padding.chars)
        (place + (totals a).chars + n.padding.chars + n.size.chars))
        (byteAt s (place + (t.padding.add t.size).chars))] := by
    obtain ⟨hhidden, -⟩ | ⟨kind, hkind, hnodes⟩ :=
      treeNodes_made (s := s) (t := t) cs hlabel hproduction hb role place
    · cases hstartTag.symm.trans hhidden
    have hown := ownMark_startTag (n := nodeOf s kind role place t _)
      (Option.some.inj (hkind.symm.trans hstartTag))
      (find?_tagName (s := s) hcs hsplit (fun u hu z hz => ?_) hn (hnames y hy).1 place hnamed)
      depth
    · rw [hnodes, marksAll, ← endOf_nodeOf]
      rw [nodeOf] at hown ⊢
      rw [marks, hown, marksAll_children hcs hnamed hsilent]
      rfl
    · have huCs : u ∈ cs := hsplit ▸ List.mem_append_left _ hu
      have hz' := mem_symbols_or hu (hcs u huCs) hz
      rw [ha] at hz'
      obtain hz' | rfl | rfl := hz'
      · obtain rfl := List.mem_singleton.1 hz'
        decide
      · decide
      · decide
  rw [leaves_made hproduction, hscan, hmarks]
  have hplace := place_after (a := a) (b := m) (n := n) (e := e) place
  rw [← hsplit, ← htotal] at hplace
  simp only [List.mem_cons, List.not_mem_nil, or_false] at hy
  obtain rfl | rfl | rfl := hy <;>
    simp only [Scan.read, leafOf, hn, he, Scan.forward, hplace] <;> rfl

/-- A node of silent children that is neither a start tag nor a doctype has no marks. -/
theorem marksAll_node {t : Parse.Summary} {cs : List Subtree} {x p : Nat} {b : Option Alias}
    (hlabel : t.label = .symbol x) (hproduction : t.production = some p)
    (hb : nodeName Html.table.get b x = nodeName Html.table.get none x)
    (hcs : ∀ u ∈ cs, Derived Html.table.get u) (hnamed : Named (symbols cs) (stepsOf p))
    (hsilent : ∀ z ∈ symbols cs, z ∈ silentSymbols) (hname : nodeNames.getD x none ≠ none)
    (htag : nodeNames.getD x none ≠ some "start_tag") {depth : Nat}
    (hdoctype : depth = 0 → nodeNames.getD x none ≠ some "doctype") (role : Option Role)
    (place : Nat) :
    marksAll depth (treeNodes Html.table.get.grammar s b role place (.node t cs)) = [] := by
  obtain ⟨hhidden, -⟩ | ⟨kind, hkind, hnodes⟩ :=
    treeNodes_made (s := s) (t := t) cs hlabel hproduction hb role place
  · exact absurd hhidden hname
  · rw [hnodes, nodeOf, marksAll, marks, marksAll_children hcs hnamed hsilent, ownMark_eq_nil]
    · rfl
    · exact fun h => htag (hkind.trans (congrArg _ h))
    · exact fun hzero h => hdoctype hzero (hkind.trans (congrArg _ h))

/-- A tag that is no mark. Its name and its last token tell how many elements are open behind it. -/
theorem takes_unmarked {u : Subtree} (hu : Derived Html.table.get u) {x y z : Nat}
    (hlabel : u.summary.label = .symbol x) (hnode : 25 < x)
    (hname : nodeNames.getD x none ≠ none ∧ nodeNames.getD x none ≠ some "start_tag" ∧
      nodeNames.getD x none ≠ some "doctype")
    (hshape : ∀ e ∈ productions, e.1 = x → ∃ before ∈ [[5], [7]], ∃ middle ∈ [[], [40]],
      e.2.2 = before ++ y :: (middle ++ [z]) ∧ (∀ w ∈ before ++ middle, w ∈ quietSymbols) ∧
        ∀ w ∈ e.2.2, w ∈ silentSymbols)
    (hy : y < 25) (hz : z < 25) {d d' : Nat}
    (hread : ∀ (c : Scan) (l l' : Leaf) (between : Extent), c.depth = d → c.pending = .nothing →
      l.label = .symbol y → l'.label = .symbol z →
        let r := c.read s l
        let r' := (r.1.forward between).read s l'
        r'.1.depth = d' ∧ r'.1.pending = .nothing ∧ r.2 ++ r'.2 = [])
    {b : Option Alias} (hb : nodeName Html.table.get b x = nodeName Html.table.get none x)
    (depth : Nat) : TakesTree s depth u b d d' := by
  obtain ⟨t, cs, p, rfl, hlabel, hproduction, hmem, hnamed, htotal, hlast, hcs⟩ :=
    exists_made hu hlabel hnode.le
  obtain ⟨before, -, middle, -, hsymbols, hquiet, hsilent⟩ := hshape _ hmem rfl
  obtain ⟨a, n, m, e, hsplit, -, hn, he, hscan⟩ := exists_tokens (s := s) hcs
    (hlast hnode.ne') hsymbols hquiet hy hz
  intro role place
  have hplace := place_after (a := a) (b := m) (n := n) (e := e) place
  rw [← hsplit, ← htotal] at hplace
  obtain ⟨hdepth, hpending, hnone⟩ := hread ((⟨place, d, .nothing⟩ : Scan).forward (totals a))
    (leafOf n) (leafOf e) (totals m) rfl rfl hn he
  rw [leaves_made hproduction, hscan, marksAll_node hlabel hproduction hb hcs hnamed hsilent
    hname.1 hname.2.1 (fun _ => hname.2.2)]
  refine Prod.ext (Scan.ext ?_ hdepth hpending) hnone
  rw [place_read, Scan.forward, place_read, Scan.forward]
  exact hplace

/-- An end tag closes an element. -/
theorem takes_endTag {u : Subtree} (hu : Derived Html.table.get u)
    (hlabel : u.summary.label = .symbol 35) {b : Option Alias}
    (hb : nodeName Html.table.get b 35 = nodeName Html.table.get none 35) (depth d : Nat) :
    TakesTree s depth u b d (d - 1) := by
  refine takes_unmarked (y := 20) (z := 2) hu hlabel (by decide) (by decide) (by decide)
    (by decide) (by decide) (fun c l l' between hdepth hpending hl hl' => ?_) hb depth
  simp [Scan.read, Scan.forward, hl, hl', hdepth, hpending]

/-- A tag that closes itself opens nothing. -/
theorem takes_selfClosingTag {u : Subtree} (hu : Derived Html.table.get u)
    (hlabel : u.summary.label = .symbol 34) {b : Option Alias}
    (hb : nodeName Html.table.get b 34 = nodeName Html.table.get none 34) (depth d : Nat) :
    TakesTree s depth u b d d := by
  refine takes_unmarked (y := 17) (z := 6) hu hlabel (by decide) (by decide) (by decide)
    (by decide) (by decide) (fun c l l' between hdepth hpending hl hl' => ?_) hb depth
  simp [Scan.read, Scan.forward, hl, hl', hdepth]

/-- The end tag of an element that is not open closes nothing. -/
theorem takes_erroneousEndTag {u : Subtree} (hu : Derived Html.table.get u)
    (hlabel : u.summary.label = .symbol 36) {b : Option Alias}
    (hb : nodeName Html.table.get b 36 = nodeName Html.table.get none 36) (depth d : Nat) :
    TakesTree s depth u b d d := by
  refine takes_unmarked (y := 21) (z := 2) hu hlabel (by decide) (by decide) (by decide)
    (by decide) (by decide) (fun c l l' between hdepth hpending hl hl' => ?_) hb depth
  simp [Scan.read, Scan.forward, hl, hl', hdepth, hpending]

/-- A doctype is a mark when no element is open. -/
theorem takes_doctype {u : Subtree} (hu : Derived Html.table.get u)
    (hlabel : u.summary.label = .symbol 26) {b : Option Alias}
    (hb : nodeName Html.table.get b 26 = nodeName Html.table.get none 26) (d : Nat) :
    TakesTree s d u b d d := by
  have hshape : ∀ e ∈ productions, e.1 = 26 → e.2.2 = [] ++ 1 :: ([4, 3] ++ [2]) := by decide
  obtain ⟨t, cs, p, rfl, hlabel, hproduction, hmem, hnamed, htotal, hlast, hcs⟩ :=
    exists_made hu hlabel (by decide)
  have hsymbols : symbols cs = [] ++ 1 :: ([4, 3] ++ [2]) := hshape _ hmem rfl
  obtain ⟨a, n, m, e, hsplit, ha, hn, he, hscan⟩ := exists_tokens (s := s) hcs
    (hlast (by decide)) hsymbols (by decide) (by decide) (by decide)
  intro role place
  have hplace := place_after (a := a) (b := m) (n := n) (e := e) place
  rw [← hsplit, ← htotal] at hplace
  have hmarks : marksAll d (treeNodes Html.table.get.grammar s b role place (.node t cs)) =
      if d = 0 then [.doctype (byteAt s (place + (t.padding.add t.size).chars))] else [] := by
    obtain ⟨hhidden, -⟩ | ⟨kind, hkind, hnodes⟩ :=
      treeNodes_made (s := s) (t := t) cs hlabel hproduction hb role place
    · cases hhidden
    have hdoctype : kind.name = "doctype" := (Option.some.inj hkind).symm
    have hown : ∀ children, ownMark d (nodeOf s kind role place t children) =
        if d = 0 then [.doctype (byteAt s (place + (t.padding.add t.size).chars))] else [] := by
      intro children
      rw [ownMark, endOf_nodeOf, if_neg (by rw [nodeOf, Node.kind, hdoctype]; decide)]
      simp only [nodeOf, Node.kind, hdoctype, and_true]
    rw [hnodes, marksAll]
    have hown' := hown (forestNodes Html.table.get.grammar s none place (stepsOf p) cs)
    rw [nodeOf] at hown' ⊢
    rw [marks, hown', marksAll_children hcs hnamed (hsymbols ▸ by decide)]
    simp [marksAll]
  rw [leaves_made hproduction, hscan, hmarks]
  simp only [Scan.read, leafOf, hn, he, Scan.forward, hplace]
  rfl

/-! ## Documents -/

/-- Scanning trees that follow each other finds the marks of their nodes, and opens or closes so
many elements. -/
def Takes (s : Source) (depth : Nat) (steps : List Step) (cs : List Subtree) (d d' : Nat) : Prop :=
  ∀ role place, scan s ⟨place, d, .nothing⟩ (leavesAll cs) =
    (⟨place + (totals cs).chars, d', .nothing⟩,
      marksAll depth (forestNodes Html.table.get.grammar s role place steps cs))

/-- The first tree is scanned, and then the others. -/
theorem Takes.cons {depth d d' d'' : Nat} {steps : List Step} {u : Subtree} {us : List Subtree}
    (hu : TakesTree s depth u ((stepFor steps u.summary).bind (·.byname)) d d')
    (hus : Takes s depth (if u.summary.extra then steps else steps.drop 1) us d' d'') :
    Takes s depth steps (u :: us) d d'' := by
  intro role place
  obtain ⟨role', hnodes⟩ := forestNodes_cons (s := s) Html.table.get.grammar role place steps u us
  rw [leavesAll, scan_append, hu role' place, hus role, hnodes, marksAll_append, Nat.add_assoc]
  rfl

/-- A token that may stand anywhere is passed over. -/
theorem takes_extra {u : Subtree} (hu : Derived Html.table.get u) (hextra : u.summary.extra = true)
    {b : Option Alias} {x : Nat} (hlabel : u.summary.label = .symbol x)
    (hb : nodeName Html.table.get b x = nodeName Html.table.get none x) (depth d : Nat) :
    TakesTree s depth u b d d := by
  intro role place
  have hx : x ∈ silentSymbols ∧ x ≠ Html.Symbol.doctypeWord := by
    have hsymbols : symbols [u] = [] := Parse.symbols_extras (by simpa using hextra)
    obtain hx | rfl | rfl := mem_symbols_or (List.mem_singleton_self u) hu hlabel
    · rw [hsymbols] at hx
      cases hx
    · decide
    · decide
  rw [scan_quiet hu (isQuiet_of_extra hu hextra),
    marksAll_silent hu hlabel hx.1 hb role place depth fun _ => hx.2]
  rfl

/-- Trees that may stand anywhere are passed over. -/
theorem takes_extras {cs : List Subtree} (hcs : ∀ u ∈ cs, Derived Html.table.get u)
    (hsymbols : symbols cs = []) (steps : List Step) (depth d : Nat) :
    Takes s depth steps cs d d := by
  induction cs with
  | nil => exact fun role place => rfl
  | cons u us ih =>
    obtain ⟨x, hlabel⟩ := (hcs u List.mem_cons_self).exists_label
    have hextra : u.summary.extra = true := by
      cases hextra : u.summary.extra with
      | true => rfl
      | false =>
        have hmem := mem_symbols (List.mem_cons_self (l := us)) hlabel hextra
        rw [hsymbols] at hmem
        cases hmem
    have hrest : symbols us = [] := by
      rw [← hsymbols]
      simp [symbols, hextra]
    refine .cons (takes_extra (hcs u List.mem_cons_self) hextra hlabel ?_ depth d) ?_
    · simp [stepFor, hextra]
    · rw [if_pos hextra]
      exact ih (fun v hv => hcs v (List.mem_cons_of_mem _ hv)) hrest

/-- A row of trees is scanned: what may stand anywhere, the tree of the first symbol, and the
others. -/
theorem Takes.symbol {depth d d' d'' : Nat} {steps : List Step} {cs : List Subtree} {x : Nat}
    {xs : List Nat} (hcs : ∀ u ∈ cs, Derived Html.table.get u)
    (hsymbols : symbols cs = x :: xs) (hnamed : Named (symbols cs) steps)
    (hfirst : ∀ u ∈ cs, u.summary.label = .symbol x → ∀ b,
      nodeName Html.table.get b x = nodeName Html.table.get none x → TakesTree s depth u b d d')
    (hrest : ∀ us, (∀ u ∈ us, u ∈ cs) → symbols us = xs → Named (symbols us) (steps.drop 1) →
      Takes s depth (steps.drop 1) us d' d'') : Takes s depth steps cs d d'' := by
  induction cs with
  | nil => cases hsymbols
  | cons u us ih =>
    obtain ⟨y, hlabel⟩ := (hcs u List.mem_cons_self).exists_label
    obtain ⟨hname, hnamed'⟩ := hnamed.cons hlabel
    cases hextra : u.summary.extra with
    | true =>
      have hus : symbols us = x :: xs := by
        rw [← hsymbols]
        simp [symbols, hextra]
      rw [if_pos hextra] at hnamed'
      refine .cons (takes_extra (hcs u List.mem_cons_self) hextra hlabel hname depth d) ?_
      rw [if_pos hextra]
      exact ih (fun v hv => hcs v (List.mem_cons_of_mem _ hv)) hus hnamed'
        (fun v hv => hfirst v (List.mem_cons_of_mem _ hv))
        fun vs hvs => hrest vs fun v hv => List.mem_cons_of_mem _ (hvs v hv)
    | false =>
      have hcons : symbols (u :: us) = y :: symbols us := by simp [symbols, hextra, hlabel]
      obtain ⟨rfl, hus⟩ := List.cons.inj (hcons.symm.trans hsymbols)
      rw [if_neg (by simp [hextra])] at hnamed'
      refine .cons (hfirst u List.mem_cons_self hlabel _ hname) ?_
      rw [if_neg (by simp [hextra])]
      exact hrest us (fun v hv => List.mem_cons_of_mem _ hv) hus hnamed'

/-- A token that the scan passes over, other than the keyword of a doctype, has no marks. -/
theorem takes_quiet {u : Subtree} (hu : Derived Html.table.get u) {x : Nat}
    (hlabel : u.summary.label = .symbol x) (hx : x ∈ [11, 16, 23]) {b : Option Alias}
    (hb : nodeName Html.table.get b x = nodeName Html.table.get none x) (depth d : Nat) :
    TakesTree s depth u b d d := by
  have hclass : ∀ x ∈ [11, 16, 23], x ∈ quietSymbols ∧ x ∈ silentSymbols ∧
      x ≠ Html.Symbol.doctypeWord := by decide
  obtain ⟨hquiet, hsilent, hword⟩ := hclass x hx
  intro role place
  rw [scan_quiet hu ⟨x, hquiet, hlabel⟩,
    marksAll_silent hu hlabel hsilent hb role place depth fun _ => hword]
  rfl

/-- An element ends with an end tag or without one. -/
theorem takes_close {u : Subtree} (hu : Derived Html.table.get u) {x : Nat}
    (hlabel : u.summary.label = .symbol x) (hx : x ∈ [35, 22]) {b : Option Alias}
    (hb : nodeName Html.table.get b x = nodeName Html.table.get none x) (depth d : Nat) :
    TakesTree s depth u b d (d - 1) := by
  simp only [List.mem_cons, List.not_mem_nil, or_false] at hx
  obtain rfl | rfl := hx
  · exact takes_endTag hu hlabel hb depth d
  · intro role place
    rw [marksAll_silent hu hlabel (by decide) hb role place depth fun _ => by decide]
    obtain ⟨t, rfl, hproduction, hsymbol⟩ := exists_token hu hlabel (by decide)
    rw [leaves, hproduction]
    refine (scan_singleton _ _).trans ?_
    simp only [Scan.read, leafOf, hsymbol]
    rfl

/-- The marks of a node that is neither a start tag nor a doctype are those of its children, one
level deeper. -/
theorem takes_node {t : Parse.Summary} {cs : List Subtree} {x p : Nat} {b : Option Alias}
    (hlabel : t.label = .symbol x) (hproduction : t.production = some p)
    (hb : nodeName Html.table.get b x = nodeName Html.table.get none x)
    (htotal : t.padding.add t.size = totals cs) (hname : nodeNames.getD x none ≠ none)
    (htag : nodeNames.getD x none ≠ some "start_tag")
    (hdoctype : nodeNames.getD x none ≠ some "doctype") {d d' : Nat}
    (hcs : Takes s (d + 1) (stepsOf p) cs d d') : TakesTree s d (.node t cs) b d d' := by
  intro role place
  obtain ⟨hhidden, -⟩ | ⟨kind, hkind, hnodes⟩ :=
    treeNodes_made (s := s) (t := t) cs hlabel hproduction hb role place
  · exact absurd hhidden hname
  · rw [leaves_made hproduction, hcs none place, hnodes, nodeOf, marksAll, marks, ownMark_eq_nil,
      Subtree.total, Subtree.summary, htotal]
    · simp [marksAll]
    · exact fun h => htag (hkind.trans (congrArg _ h))
    · exact fun _ h => hdoctype (hkind.trans (congrArg _ h))

/-- The marks of a tree without nodes of its own are those of its children. -/
theorem takes_hidden {t : Parse.Summary} {cs : List Subtree} {x p : Nat} {b : Option Alias}
    (hlabel : t.label = .symbol x) (hproduction : t.production = some p)
    (hb : nodeName Html.table.get b x = nodeName Html.table.get none x)
    (htotal : t.padding.add t.size = totals cs) (hname : nodeNames.getD x none = none) {d d' : Nat}
    (hcs : Takes s d (stepsOf p) cs d d') : TakesTree s d (.node t cs) b d d' := by
  intro role place
  obtain ⟨-, hnodes⟩ | ⟨kind, hkind, -⟩ :=
    treeNodes_made (s := s) (t := t) cs hlabel hproduction hb role place
  · rw [leaves_made hproduction, hcs role place, hnodes, Subtree.total, Subtree.summary, htotal]
  · cases hname.symm.trans hkind

/-- An element is its start tag, what is inside, and its end. -/
theorem takes_element {cs : List Subtree} {steps : List Step}
    (hcs : ∀ u ∈ cs, Derived Html.table.get u) (hnamed : Named (symbols cs) steps) {o c : Nat}
    (ho : o ∈ [31, 32, 33]) (hc : c ∈ [35, 22])
    (hsymbols : symbols cs = [o, c] ∨ ∃ y ∈ [39, 23], symbols cs = [o, y, c]) {d : Nat}
    (hinside : ∀ u ∈ cs, ∀ y ∈ [39, 23], u.summary.label = .symbol y → ∀ b,
      nodeName Html.table.get b y = nodeName Html.table.get none y →
        TakesTree s (d + 1) u b (d + 1) (d + 1)) : Takes s (d + 1) steps cs d d := by
  have hopen : ∀ u ∈ cs, u.summary.label = .symbol o → ∀ b,
      nodeName Html.table.get b o = nodeName Html.table.get none o →
        TakesTree s (d + 1) u b d (d + 1) :=
    fun u hu hlabel b hb => takes_startTag (hcs u hu) hlabel ho hb _ d
  have hclose : ∀ us, (∀ u ∈ us, u ∈ cs) → symbols us = [c] → ∀ steps,
      Named (symbols us) steps → Takes s (d + 1) steps us (d + 1) d :=
    fun us hus hone steps hnamed' => .symbol (fun u hu => hcs u (hus u hu)) hone hnamed'
      (fun u hu hlabel b hb => takes_close (hcs u (hus u hu)) hlabel hc hb _ (d + 1))
      fun vs hvs hnone _ => takes_extras (fun u hu => hcs u (hus u (hvs u hu))) hnone _ _ _
  obtain hsymbols | ⟨y, hy, hsymbols⟩ := hsymbols
  · exact .symbol hcs hsymbols hnamed hopen fun us hus hone hnamed' => hclose us hus hone _ hnamed'
  · refine .symbol hcs hsymbols hnamed hopen fun us hus htwo hnamed' => ?_
    exact .symbol (fun u hu => hcs u (hus u hu)) htwo hnamed'
      (fun u hu hlabel b hb => hinside u (hus u hu) y hy hlabel b hb)
      fun vs hvs hone hnamed'' => hclose vs (fun u hu => hus u (hvs u hu)) hone _ hnamed''

/-- The symbols of trees that leave as many elements open as there were. -/
def balancedSymbols : List Nat := [11, 16, 26, 27, 28, 29, 30, 36, 39]

/-- What the trees of such symbols are made of. -/
theorem balanced_shape : ∀ e ∈ productions, e.1 ∈ balancedSymbols →
    e.1 = 26 ∨ e.1 = 36 ∨
    (nodeNames.getD e.1 none = none ∧
      ((∃ y ∈ balancedSymbols, e.2.2 = [y]) ∨ e.2.2 = [39, 39])) ∨
    (nodeNames.getD e.1 none ≠ none ∧ nodeNames.getD e.1 none ≠ some "start_tag" ∧
      nodeNames.getD e.1 none ≠ some "doctype" ∧
      (e.2.2 = [34] ∨ ∃ o ∈ [31, 32, 33], ∃ c ∈ [35, 22],
        e.2.2 = [o, c] ∨ ∃ y ∈ [39, 23], e.2.2 = [o, y, c])) := by
  decide

/-- Scanning a tree of such a symbol finds its marks and leaves as many elements open. -/
theorem takes_tree {u : Subtree} (hu : Derived Html.table.get u) {x : Nat}
    (hlabel : u.summary.label = .symbol x) (hx : x ∈ balancedSymbols) {b : Option Alias}
    (hb : nodeName Html.table.get b x = nodeName Html.table.get none x) (d : Nat) :
    TakesTree s d u b d d := by
  induction hu generalizing x b d with
  | @token t y hproduction hlabel' hterminal hextra =>
    have htokens : ∀ x ∈ balancedSymbols, x ∈ [11, 16, 23] ∨ 25 ≤ x := by decide
    obtain hx | hx := htokens x hx
    · exact takes_quiet (.token hproduction hlabel' hterminal hextra) hlabel hx hb d d
    · obtain ⟨-, -, -, -, -, -, hterminals, -⟩ := Html.table_facts
      obtain rfl := Parse.Label.symbol.inj (hlabel'.symm.trans hlabel)
      exact absurd (hterminals ▸ hterminal) (Nat.not_lt.2 hx)
  | @made t cs head p hproduction hlabel' hextra hcomplete htotal hlast hcs ih =>
    obtain rfl := Parse.Label.symbol.inj (hlabel'.symm.trans hlabel)
    have hu := Derived.made hproduction hlabel' hextra hcomplete htotal hlast hcs
    have hnamed := named_of_complete hcomplete
    obtain rfl | rfl | ⟨hhidden, hsymbols⟩ | ⟨hname, htag, hdoctype, hsymbols⟩ :=
      balanced_shape _ (complete_mem hcomplete) hx
    · exact takes_doctype hu hlabel hb d
    · exact takes_erroneousEndTag hu hlabel hb d d
    · refine takes_hidden hlabel' hproduction hb htotal hhidden ?_
      obtain ⟨y, hy, hsymbols⟩ | hsymbols := hsymbols
      · exact .symbol hcs hsymbols hnamed (fun v hv hlabelV b' hb' => ih v hv hlabelV hy hb' d)
          fun us hus hnone _ => takes_extras (fun v hv => hcs v (hus v hv)) hnone _ _ _
      · refine .symbol hcs hsymbols hnamed
          (fun v hv hlabelV b' hb' => ih v hv hlabelV (by decide) hb' d)
          fun us hus hone hnamed' => ?_
        exact .symbol (fun v hv => hcs v (hus v hv)) hone hnamed'
          (fun v hv hlabelV b' hb' => ih v (hus v hv) hlabelV (by decide) hb' d)
          fun vs hvs hnone _ => takes_extras (fun v hv => hcs v (hus v (hvs v hv))) hnone _ _ _
    · refine takes_node hlabel' hproduction hb htotal hname htag hdoctype ?_
      obtain hsymbols | ⟨o, ho, c, hc, hsymbols⟩ := hsymbols
      · exact .symbol hcs hsymbols hnamed
          (fun v hv hlabelV b' hb' => takes_selfClosingTag (hcs v hv) hlabelV hb' _ d)
          fun us hus hnone _ => takes_extras (fun v hv => hcs v (hus v hv)) hnone _ _ _
      · refine takes_element hcs hnamed ho hc hsymbols fun v hv y hy hlabelV b' hb' => ?_
        simp only [List.mem_cons, List.not_mem_nil, or_false] at hy
        obtain rfl | rfl := hy
        · exact ih v hv hlabelV (by decide) hb' (d + 1)
        · exact takes_quiet (hcs v hv) hlabelV (by decide) hb' _ _

end IconSubset.Stylesheet
