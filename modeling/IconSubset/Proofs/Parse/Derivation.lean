import IconSubset.Proofs.Parse.Reading

/-!
# Trees and productions

A state knows how far the productions have been read that may be under way in it, and the trees on
top of the stack are what has been read of them (`Laid`). So the children of a node that a course
makes are, but for those that may stand anywhere, what a production of its symbol asks for, and the
tree of a source is a derivation of the grammar (`Derived`, `Reads.derived`).
-/

namespace IconSubset.Parse

open Grammar (Grammar Table State ItemSet TerminalSet)
open Grammar.Automaton (next close behind awaited addItem addBehind choices reductions reduction
  settle mem_reductions)

variable {t : Table}

/-! ## Items -/

/-- An item stands behind some symbols of a production. -/
inductive Spells (t : Table) : Nat → List Nat → Prop
  /-- The item at the left end of a production. -/
  | opening {id other symbol : Nat} {o : Grammar.Opening}
    (hother : (t.item other).next = some symbol) (ho : o ∈ t.openings.getD symbol #[])
    (h : id ∈ t.opening.getD o.symbol #[]) : Spells t id []
  /-- The item at the left end of the whole input. -/
  | start : Spells t t.startItem []
  /-- The item behind one more symbol. -/
  | snoc {id x : Nat} {xs : List Nat} (h : Spells t id xs) (hnext : (t.item id).next = some x) :
    Spells t (t.item id).successor (xs ++ [x])

/-- The items of a table count the symbols before them and stay with their symbol. Only the first
item is about the whole input, which is one node, and none waits for the end of the source. -/
structure Regular (t : Table) : Prop where
  opening {other symbol id : Nat} {o : Grammar.Opening} : (t.item other).next = some symbol →
    o ∈ t.openings.getD symbol #[] → id ∈ t.opening.getD o.symbol #[] →
      (t.item id).size = 0 ∧ (t.item id).head ≠ t.grammar.symbols.size
  start : (t.item t.startItem).size = 0
  successor {id x : Nat} : (t.item id).next = some x → x ≠ 0 ∧
    (t.item (t.item id).successor).size = (t.item id).size + 1 ∧
    (t.item (t.item id).successor).head = (t.item id).head
  whole {id : Nat} {xs : List Nat} : Spells t id xs → (t.item id).next = none →
    (t.item id).head = t.grammar.symbols.size →
      xs = [t.grammar.start] ∧ t.grammar.terminals ≤ t.grammar.start

/-- An item counts the symbols that it stands behind. -/
theorem Spells.size_eq (ht : Regular t) {id : Nat} {xs : List Nat} (h : Spells t id xs) :
    (t.item id).size = xs.length := by
  induction h with
  | opening hother ho h => exact (ht.opening hother ho h).1
  | start => exact ht.start
  | snoc _ hnext ih =>
    rw [(ht.successor hnext).2.1, ih, List.length_append, List.length_singleton]

/-- The symbols that a production of a symbol asks for. -/
def Complete (t : Table) (head production : Nat) (xs : List Nat) : Prop :=
  ∃ id, Spells t id xs ∧ (t.item id).next = none ∧ (t.item id).head = head ∧
    (t.item id).production = production

/-- What is added to an item set is the item itself. -/
theorem mem_addItem {id : Nat} {ahead : TerminalSet} {items : ItemSet}
    {entry : Nat × TerminalSet} (h : entry ∈ addItem id ahead items) :
    entry.1 = id ∨ ∃ old ∈ items, old.1 = entry.1 := by
  induction items with
  | nil => exact .inl (congrArg Prod.fst (List.mem_singleton.1 h))
  | cons first rest ih =>
    rw [addItem] at h
    split at h
    · obtain rfl | hold := List.mem_cons.1 h
      · exact .inl rfl
      · exact .inr ⟨entry, hold, rfl⟩
    · split at h
      · obtain rfl | hrest := List.mem_cons.1 h
        · exact .inr ⟨_, List.mem_cons_self, rfl⟩
        · obtain hid | ⟨old, hold, heq⟩ := ih hrest
          · exact .inl hid
          · exact .inr ⟨old, List.mem_cons_of_mem _ hold, heq⟩
      · obtain rfl | hrest := List.mem_cons.1 h
        · exact .inr ⟨_, List.mem_cons_self, rfl⟩
        · exact .inr ⟨entry, List.mem_cons_of_mem _ hrest, rfl⟩

/-- The items behind a symbol come from items that wait for it. -/
theorem mem_behind {s : State} {x : Nat} {entry : Nat × TerminalSet}
    (h : entry ∈ behind t s x) :
    ∃ old ∈ s.items, (t.item old.1).next = some x ∧ entry.1 = (t.item old.1).successor := by
  unfold behind at h
  suffices hfold : ∀ (items found : ItemSet), entry ∈ items.foldl (addBehind t x) found →
      (∃ old ∈ found, old.1 = entry.1) ∨
        ∃ old ∈ items, (t.item old.1).next = some x ∧ entry.1 = (t.item old.1).successor by
    obtain ⟨_, hnone, -⟩ | hbehind := hfold _ _ h
    · cases hnone
    · exact hbehind
  intro items
  induction items with
  | nil => exact fun found h => .inl ⟨entry, h, rfl⟩
  | cons first rest ih =>
    intro found h
    rw [List.foldl_cons] at h
    obtain ⟨old, hold, heq⟩ | ⟨old, hold, hnext⟩ := ih _ h
    · unfold addBehind at hold
      dsimp only at hold
      split at hold
      next hnext =>
        obtain hid | ⟨older, holder, heq'⟩ := mem_addItem hold
        · exact .inr ⟨first, List.mem_cons_self, beq_iff_eq.1 hnext, heq.symm.trans hid⟩
        · exact .inl ⟨older, holder, heq'.trans heq⟩
      next => exact .inl ⟨old, hold, heq⟩
    · exact .inr ⟨old, List.mem_cons_of_mem _ hold, hnext⟩

/-- The symbols that are awaited are symbols that phrases can begin with. -/
theorem opening_of_awaited {kernel : ItemSet} {entry : Nat × TerminalSet}
    (h : entry ∈ (awaited t kernel).toList) :
    ∃ other symbol, (t.item other).next = some symbol ∧
      ∃ o ∈ t.openings.getD symbol #[], o.symbol = entry.1 := by
  have hmem : entry.1 ∈ awaited t kernel := by
    have hget := Std.TreeMap.mem_toList_iff_getElem?_eq_some.1 h
    exact Std.TreeMap.mem_iff_isSome_getElem?.2 (hget ▸ rfl)
  clear h
  revert hmem
  generalize entry.1 = key
  unfold awaited
  refine List.foldlRecOn (motive := fun found => key ∈ found → _) kernel _
    (fun hnone => absurd hnone Std.TreeMap.not_mem_emptyc) ?_
  rintro found ih ⟨id, ahead⟩ - hmem
  dsimp only at hmem
  split at hmem
  next => exact ih hmem
  next s hs =>
    rw [← Array.foldl_toList] at hmem
    revert hmem
    refine List.foldlRecOn (motive := fun found => key ∈ found → _) _ _ ih ?_
    intro found' ih' o ho hmem
    obtain hkey | hold := Std.TreeMap.mem_insert.1 hmem
    · exact ⟨id, s, hs, o, Array.mem_toList_iff.1 ho, Std.LawfulEqOrd.eq_of_compare hkey⟩
    · exact ih' hold

/-- The items of a state are those that it was entered with and items at left ends. -/
theorem mem_close {kernel : ItemSet} {entry : Nat × TerminalSet}
    (h : entry ∈ (close t kernel).items) :
    entry ∈ kernel ∨ ∃ other symbol, (t.item other).next = some symbol ∧
      ∃ o ∈ t.openings.getD symbol #[], entry.1 ∈ t.opening.getD o.symbol #[] := by
  unfold close at h
  obtain hkernel | hother := List.mem_append.1 h
  · exact .inl hkernel
  refine .inr ?_
  rw [List.mem_reverse, Std.TreeMap.foldl_eq_foldl_toList] at hother
  revert hother
  refine List.foldlRecOn (motive := fun others => entry ∈ others → _) _ _
    (fun hnone => absurd hnone List.not_mem_nil) ?_
  intro others ih s hs hmem
  obtain ⟨other, symbol, hother, o, ho, hsymbol⟩ := opening_of_awaited hs
  rw [← Array.foldl_toList] at hmem
  revert hmem
  refine List.foldlRecOn (motive := fun others => entry ∈ others → _) _ _ ih ?_
  intro others' ih' id hid hmem
  obtain rfl | hold := List.mem_cons.1 hmem
  · exact ⟨other, symbol, hother, o, ho, hsymbol ▸ Array.mem_toList_iff.1 hid⟩
  · exact ih' hold

/-! ## States and stacks -/

/-- The symbols of trees, but for those that may stand anywhere. -/
def symbols (ts : List Subtree) : List Nat :=
  ts.filterMap fun t => match t.summary.extra, t.summary.label with
    | false, .symbol x => some x
    | _, _ => none

/-- The items of a state stand behind what lies on top of the stack, the one for the whole input
behind all of it. -/
def Fits (t : Table) (s : State) (read : List Nat) : Prop :=
  ∀ entry ∈ s.items, ∃ xs, Spells t entry.1 xs ∧ xs <:+ read ∧
    ((t.item entry.1).head = t.grammar.symbols.size → xs = read)

/-- The items of every state on a stack stand behind what lies there on top of it. -/
def Laid (t : Table) : List (Frame State) → Prop
  | [] => Fits t (firstOf t) []
  | f :: fs => Fits t f.state (symbols (trees (f :: fs))) ∧ Laid t fs

/-- Nothing has been read of the first item. -/
theorem fits_firstOf : Fits t (firstOf t) [] := by
  intro entry hentry
  obtain hkernel | ⟨other, symbol, hother, o, ho, hopening⟩ := mem_close hentry
  · obtain rfl := List.mem_singleton.1 hkernel
    exact ⟨[], .start, List.nil_suffix, fun _ => rfl⟩
  · exact ⟨[], .opening hother ho hopening, List.nil_suffix, fun _ => rfl⟩

/-- Behind a symbol the items stand behind that symbol too. -/
theorem Fits.next (ht : Regular t) {s s' : State} {read : List Nat} (h : Fits t s read) {x : Nat}
    (hnext : next t s x = some s') : Fits t s' (read ++ [x]) := by
  unfold Grammar.Automaton.next at hnext
  split at hnext
  next => cases hnext
  next kernel hkernel =>
    obtain rfl := Option.some.inj hnext
    intro entry hentry
    obtain hmem | ⟨other, symbol, hother, o, ho, hopening⟩ := mem_close hentry
    · obtain ⟨old, hold, holdNext, heq⟩ := mem_behind hmem
      obtain ⟨xs, hspells, ⟨front, hfront⟩, hwhole⟩ := h old hold
      refine ⟨xs ++ [x], heq ▸ hspells.snoc holdNext,
        ⟨front, (List.append_assoc _ _ _).symm.trans (congrArg (· ++ [x]) hfront)⟩, ?_⟩
      rw [heq, (ht.successor holdNext).2.2]
      exact fun hhead => congrArg (· ++ [x]) (hwhole hhead)
    · exact ⟨[], .opening hother ho hopening, List.nil_suffix,
        fun hhead => absurd hhead (ht.opening hother ho hopening).2⟩

/-- The state behind a stack fits what lies on it. -/
theorem Laid.fits {frames : List (Frame State)} (h : Laid t frames) :
    Fits t (stateOf t frames) (symbols (trees frames)) := by
  cases frames with
  | nil => exact h
  | cons f fs => exact h.1

/-- What is left of a stack is laid well. -/
theorem Laid.drop {frames : List (Frame State)} (h : Laid t frames) (k : Nat) :
    Laid t (frames.drop k) := by
  induction k generalizing frames with
  | zero => exact h
  | succ k ih =>
    cases frames with
    | nil => exact h
    | cons f fs => exact ih h.2

/-- Symbols of two rows of trees. -/
@[simp] theorem symbols_append (ts us : List Subtree) :
    symbols (ts ++ us) = symbols ts ++ symbols us := List.filterMap_append

/-- Trees that may stand anywhere have no symbols that count. -/
theorem symbols_extras {ts : List Subtree} (h : ∀ e ∈ ts, e.summary.extra = true) :
    symbols ts = [] := by
  refine List.filterMap_eq_nil_iff.2 fun e he => ?_
  rw [h e he]

/-- The trees of a stack with one more frame. -/
@[simp] theorem trees_cons {σ : Type} (f : Frame σ) (fs : List (Frame σ)) :
    trees (f :: fs) = trees fs ++ [f.tree] := List.reverse_cons

/-- A tree that may stand anywhere comes on top, and the state stays. -/
theorem Laid.extra {frames : List (Frame State)} (h : Laid t frames) {tree : Subtree}
    (hextra : tree.summary.extra = true) : Laid t (⟨tree, stateOf t frames⟩ :: frames) := by
  refine ⟨?_, h⟩
  have htree : symbols [tree] = [] := symbols_extras (by simpa using hextra)
  rw [trees_cons, symbols_append, htree, List.append_nil]
  exact h.fits

/-- A tree of a symbol comes on top, and the state is the one behind that symbol. -/
theorem Laid.cons (ht : Regular t) {frames : List (Frame State)} (h : Laid t frames)
    {tree : Subtree} {x : Nat} {s : State} (hlabel : tree.summary.label = .symbol x)
    (hextra : tree.summary.extra = false)
    (hnext : next t (stateOf t frames) x = some s) : Laid t (⟨tree, s⟩ :: frames) := by
  refine ⟨?_, h⟩
  rw [trees_cons, symbols_append]
  have hsymbols : symbols [tree] = [x] := by simp [symbols, hlabel, hextra]
  rw [hsymbols]
  exact h.fits.next ht hnext

/-- Trees that may stand anywhere come on top. -/
theorem Laid.extras {frames : List (Frame State)} (h : Laid t frames) {ts : List Subtree}
    (hextra : ∀ e ∈ ts, e.summary.extra = true) :
    Laid t (pushTrees ts (stateOf t frames) frames) := by
  induction ts generalizing frames with
  | nil => exact h
  | cons e ts ih =>
    exact ih (h.extra (hextra e List.mem_cons_self)) fun e' he' =>
      hextra e' (List.mem_cons_of_mem _ he')

/-! ## Derivations -/

/-- A tree is a derivation: what is not a token has been made by a production, whose symbols its
children are, but for those that may stand anywhere. None of these is its last child, unless it is a
whole source. -/
inductive Derived (t : Table) : Subtree → Prop
  /-- A token. -/
  | token {s : Summary} {x : Nat} (hproduction : s.production = none) (hlabel : s.label = .symbol x)
    (hterminal : x < t.grammar.terminals)
    (hextra : s.extra = true → x = 0 ∨ t.grammar.extras.contains x = true) : Derived t (.node s [])
  /-- A node. -/
  | made {s : Summary} {cs : List Subtree} {head production : Nat}
    (hproduction : s.production = some production) (hlabel : s.label = .symbol head)
    (hextra : s.extra = false) (hcomplete : Complete t head production (symbols cs))
    (htotal : s.padding.add s.size = totals cs)
    (hlast : head ≠ t.grammar.start → ∀ c ∈ cs.getLast?, c.summary.extra = false)
    (hchildren : ∀ c ∈ cs, Derived t c) : Derived t (.node s cs)

/-- A derivation is about a symbol. -/
theorem Derived.exists_label {tree : Subtree} (h : Derived t tree) :
    ∃ x, tree.summary.label = .symbol x := by
  cases h with
  | token _ hlabel _ _ | made _ hlabel _ _ _ _ _ => exact ⟨_, hlabel⟩

/-- The trees that a node takes off a stack are as many symbols as it has children. -/
theorem length_symbols_of_reach {size k : Nat} {frames : List (Frame State)}
    (hlabels : ∀ f ∈ frames, ∃ x, f.tree.summary.label = .symbol x)
    (h : reach size (extraFlags frames) = some k) :
    (symbols ((frames.take k).map (·.tree)).reverse).length = size := by
  induction frames generalizing size k with
  | nil =>
    cases size with
    | zero => obtain rfl := Option.some.inj h; rfl
    | succ size => cases h
  | cons f fs ih =>
    cases size with
    | zero => obtain rfl := Option.some.inj h; rfl
    | succ size =>
      obtain ⟨k', hk', rfl⟩ := Option.map_eq_some_iff.1 h
      obtain ⟨x, hlabel⟩ := hlabels f List.mem_cons_self
      have hlength := ih (fun f' hf' => hlabels f' (List.mem_cons_of_mem _ hf')) hk'
      rw [List.take_succ_cons, List.map_cons, List.reverse_cons, symbols_append,
        List.length_append, hlength]
      cases hextra : f.tree.summary.extra <;> simp [symbols, hlabel, hextra]

/-- The actions at a lookahead are shifts, shifts of what may stand anywhere, and those of complete
items. -/
theorem mem_choices {s : State} {x : Nat} {n : Option Nat} {action : Grammar.Action}
    (h : action ∈ choices t s x n) : (∃ m again, action = .shift m again) ∨
      (action = .shiftExtra ∧ t.grammar.extras.contains x = true) ∨
      action ∈ (reductions t s x).actions := by
  unfold choices at h
  cases n with
  | none =>
    dsimp only at h
    split at h
    next hextra =>
      rw [Bool.and_eq_true] at hextra
      exact .inr (.inl ⟨List.mem_singleton.1 h, hextra.2⟩)
    next => exact .inr (.inr h)
  | some m =>
    have hshift : ∀ again, action ∈ (reductions t s x).actions ++ [.shift m again] →
        (∃ m again, action = .shift m again) ∨
          (action = .shiftExtra ∧ t.grammar.extras.contains x = true) ∨
          action ∈ (reductions t s x).actions := by
      intro again h
      obtain hreduction | hlast := List.mem_append.1 h
      · exact .inr (.inr hreduction)
      · exact .inl ⟨m, again, List.mem_singleton.1 hlast⟩
    unfold settle at h
    dsimp only at h
    split_ifs at h
    all_goals first
      | exact hshift _ h
      | exact .inr (.inr h)
      | exact .inl ⟨m, false, List.mem_singleton.1 h⟩

/-- A node is made when an item is complete. -/
theorem complete_of_actionAt {s : State} {x head size production : Nat} {dynamic : Int}
    (h : actionAt t s x = some (.reduce head size dynamic production)) :
    ∃ entry ∈ s.items, (t.item entry.1).next = none ∧ (t.item entry.1).head = head ∧
      (t.item entry.1).size = size ∧ (t.item entry.1).production = production := by
  obtain ⟨m, again, hshift⟩ | ⟨hextra, -⟩ | hmem := mem_choices (mem_of_onlyAction h)
  · cases hshift
  · cases hextra
  · obtain ⟨entry, hentry, hnext, -, hreduction⟩ := mem_reductions hmem
    unfold reduction at hreduction
    split at hreduction
    · cases hreduction
    · cases hreduction
      exact ⟨entry, hentry, hnext, rfl, rfl, rfl⟩

/-- The parse ends when the item for the whole input is complete. -/
theorem complete_of_accept {s : State} {x : Nat} (h : actionAt t s x = some .accept) :
    ∃ entry ∈ s.items, (t.item entry.1).next = none ∧
      (t.item entry.1).head = t.grammar.symbols.size := by
  obtain ⟨m, again, hshift⟩ | ⟨hextra, -⟩ | hmem := mem_choices (mem_of_onlyAction h)
  · cases hshift
  · cases hextra
  · obtain ⟨entry, hentry, hnext, -, hreduction⟩ := mem_reductions hmem
    unfold reduction at hreduction
    split at hreduction
    next hwhole => exact ⟨entry, hentry, hnext, beq_iff_eq.1 hwhole⟩
    next => cases hreduction

/-- Only what may stand anywhere is shifted as such. -/
theorem extra_of_actionAt {s : State} {x : Nat} (h : actionAt t s x = some .shiftExtra) :
    t.grammar.extras.contains x = true := by
  obtain ⟨m, again, hshift⟩ | ⟨-, hextra⟩ | hmem := mem_choices (mem_of_onlyAction h)
  · cases hshift
  · exact hextra
  · obtain ⟨entry, -, -, -, hreduction⟩ := mem_reductions hmem
    unfold reduction at hreduction
    split at hreduction <;> cases hreduction

/-- A stack is laid well, and all trees on it are derivations. -/
structure Sound (t : Table) (frames : List (Frame State)) : Prop where
  laid : Laid t frames
  derived : ∀ f ∈ frames, Derived t f.tree

/-- What lies on a stack behind a tree and what it is put on. -/
theorem mem_pushTrees {σ : Type} {ts : List Subtree} {state : σ} {frames : List (Frame σ)}
    {f : Frame σ} (h : f ∈ pushTrees ts state frames) : f.tree ∈ ts ∨ f ∈ frames := by
  induction ts generalizing frames with
  | nil => exact .inr h
  | cons t ts ih =>
    obtain hts | hcons := ih h
    · exact .inl (List.mem_cons_of_mem _ hts)
    · obtain rfl | hframes := List.mem_cons.1 hcons
      · exact .inl List.mem_cons_self
      · exact .inr hframes

/-- The trees that are taken off a stack spell the production that they are taken off for. -/
theorem Sound.complete (ht : Regular t) {frames : List (Frame State)} (h : Sound t frames)
    {x head size production k : Nat} {dynamic : Int}
    (haction : actionAt t (stateOf t frames) x = some (.reduce head size dynamic production))
    (hreach : reach size (extraFlags frames) = some k) :
    Complete t head production (symbols ((frames.take k).map (·.tree)).reverse) := by
  obtain ⟨entry, hentry, hnext, hhead, hsize, hproduction⟩ := complete_of_actionAt haction
  obtain ⟨xs, hspells, ⟨front, hfront⟩, -⟩ := h.laid.fits entry hentry
  have hlength : xs.length = (symbols ((frames.take k).map (·.tree)).reverse).length := by
    rw [← hspells.size_eq ht, hsize,
      length_symbols_of_reach (fun f hf => (h.derived f hf).exists_label) hreach]
  rw [← trees_take_drop k, symbols_append] at hfront
  obtain ⟨-, rfl⟩ := List.append_inj' hfront hlength
  exact ⟨entry.1, hspells, hnext, hhead, hproduction⟩

/-- The node that takes the place of trees which spell a production is a derivation. -/
theorem derived_node {head production : Nat} {ts : List Subtree} (dynamic : Int)
    (hcomplete : Complete t head production (symbols ts)) (hts : ∀ c ∈ ts, Derived t c) :
    ∃ node, nodeTrees t.grammar head dynamic production ts =
        node :: (Subtree.splitTrailingExtras ts).2 ∧ Derived t node ∧
      node.summary.label = .symbol head ∧ node.summary.extra = false := by
  obtain ⟨hsplit, hextras⟩ := splitTrailingExtras_append ts
  have hsymbols : symbols (Subtree.splitTrailingExtras ts).1 = symbols ts := by
    conv_rhs => rw [← hsplit, symbols_append, symbols_extras hextras, List.append_nil]
  obtain ⟨s, hmake, hlabel, hproduction, hextra, htotal⟩ :=
    make_spec t.grammar head (some production) (Subtree.splitTrailingExtras ts).1
  refine ⟨(Subtree.make t.grammar (.symbol head) (some production)
    (Subtree.splitTrailingExtras ts).1).addDynamic dynamic, rfl, ?_⟩
  rw [hmake]
  refine ⟨.made hproduction hlabel hextra (hsymbols ▸ hcomplete) htotal
    (fun _ => getLast?_splitTrailingExtras ts) fun c hc => hts c ?_, hlabel, hextra⟩
  rw [← hsplit]
  exact List.mem_append_left _ hc

/-- A lexer finds terminals of the grammar only. -/
def Lexer.Within (lexer : Lexer) (t : Table) : Prop :=
  ∀ (source : Source) (memory : Memory) (expected : TerminalSet) (emptyCounts : Nat → Bool)
    (place : Nat) (l : Lexeme),
    lexer.attempt source memory expected emptyCounts place = .found l →
      l.terminal < t.grammar.terminals

namespace Course

variable {c c' : Course} {l : Subtree} {n : Nat}

/-- A node that is made is a derivation, and the stack stays well laid. -/
theorem sound_of_reduce (ht : Regular t) (h : Sound t c.frames) {x head size production : Nat}
    {dynamic : Int}
    (haction : actionAt t (stateOf t c.frames) x = some (.reduce head size dynamic production))
    (hreduce : c.reduce t head size dynamic production = some c') : Sound t c'.frames := by
  unfold reduce at hreduce
  rw [takeNode_eq] at hreduce
  cases hreach : reach size (extraFlags c.frames) with
  | none => rw [hreach] at hreduce; cases hreduce
  | some k =>
    rw [hreach] at hreduce
    obtain ⟨s, hs, rfl⟩ := Option.map_eq_some_iff.1 hreduce
    have htaken : ∀ c' ∈ ((c.frames.take k).map (·.tree)).reverse, Derived t c' := by
      intro c' hc'
      obtain ⟨f, hf, rfl⟩ := List.mem_map.1 (List.mem_reverse.1 hc')
      exact h.derived f (List.mem_of_mem_take hf)
    obtain ⟨node, hnode, hderived, hlabel, hextra⟩ :=
      derived_node dynamic (h.complete ht haction hreach) htaken
    obtain ⟨hsplit, hextras⟩ :=
      splitTrailingExtras_append ((c.frames.take k).map (·.tree)).reverse
    rw [hnode]
    refine ⟨((h.laid.drop k).cons ht hlabel hextra hs).extras hextras, fun f hf => ?_⟩
    obtain hnew | hold := mem_pushTrees hf
    · obtain htree | hbehind := List.mem_cons.1 hnew
      · exact htree ▸ hderived
      · exact htaken _ (hsplit ▸ List.mem_append_right _ hbehind)
    · exact h.derived f (List.mem_of_mem_drop hold)

/-- A token is of a terminal of the grammar. It counts as one that may stand anywhere when it is the
end of the source. -/
def IsToken (t : Table) (l : Subtree) : Prop :=
  ∃ s x, l = .node s [] ∧ s.production = none ∧ s.label = .symbol x ∧ x < t.grammar.terminals ∧
    s.extra = (x == 0)

/-- A lookahead is a token. -/
theorem isToken_of_lex {source : Source} {lexer : Lexer} (hlexer : lexer.Within t)
    (h : c.lex t source lexer = some l) : IsToken t l := by
  unfold lex at h
  dsimp only at h
  split at h
  next lexeme hfound =>
    obtain rfl := Option.some.inj h
    refine ⟨_, lexeme.terminal, rfl, rfl, rfl, hlexer _ _ _ _ _ _ hfound, ?_⟩
    show (Label.symbol lexeme.terminal == .symbol 0) = (lexeme.terminal == 0)
    rfl
  next => cases h

/-- Behind a token that is taken the stack is as it should be. -/
theorem Acts.sound (ht : Regular t) (hl : IsToken t l) (hc : Sound t c.frames)
    (h : Acts t l n c (.taken c')) : Sound t c'.frames := by
  obtain ⟨s, x, rfl, hproduction, hsymbol, hterminal, hextra⟩ := hl
  generalize hp : Progress.taken c' = p at h
  induction h with
  | shift hlabel haction hnext =>
    cases hp
    obtain rfl := Label.symbol.inj (hsymbol.symm.trans hlabel)
    have hzero : x ≠ 0 := by
      unfold Grammar.Automaton.next at hnext
      split at hnext
      next => cases hnext
      next kernel hkernel =>
        have hmem : ∃ entry, entry ∈ behind t (stateOf t _) x :=
          List.exists_mem_of_ne_nil _ fun hnil => hkernel hnil
        obtain ⟨entry, hentry⟩ := hmem
        obtain ⟨old, -, holdNext, -⟩ := mem_behind hentry
        exact (ht.successor holdNext).1
    refine ⟨hc.laid.cons ht hsymbol (by simpa [Subtree.summary, hextra] using hzero) hnext, ?_⟩
    intro f hf
    obtain rfl | hold := List.mem_cons.1 hf
    · exact .token hproduction hsymbol hterminal fun h => .inl (by simpa [hextra] using h)
    · exact hc.derived f hold
  | shiftExtra hlabel haction =>
    cases hp
    obtain rfl := Label.symbol.inj (hsymbol.symm.trans hlabel)
    refine ⟨hc.laid.extra rfl, ?_⟩
    intro f hf
    obtain rfl | hold := List.mem_cons.1 hf
    · exact .token hproduction hsymbol hterminal fun _ => .inr (extra_of_actionAt haction)
    · exact hc.derived f hold
  | reduce _ haction hreduce _ ih => exact ih (sound_of_reduce ht hc haction hreduce) hp
  | accept => cases hp

/-- What may stand anywhere at the end of a stack is split off from it. -/
theorem exists_of_whole {g : Grammar} {ts : List Subtree} {root : Subtree}
    (h : Subtree.whole g ts = some root) : ∃ before inner after, ts = before ++ inner :: after ∧
      inner.summary.extra = false ∧ (∀ e ∈ after, e.summary.extra = true) ∧
      root = Subtree.make g inner.summary.label inner.summary.production
        (before ++ inner.children ++ after) := by
  unfold Subtree.whole at h
  rw [List.span_eq_takeWhile_dropWhile] at h
  have hsplit := List.takeWhile_append_dropWhile (p := fun t : Subtree => t.summary.extra)
    (l := ts.reverse)
  have hextras : ∀ e ∈ ts.reverse.takeWhile (·.summary.extra), e.summary.extra = true :=
    fun e he => List.mem_takeWhile_imp (p := fun t : Subtree => t.summary.extra) he
  have hhead := List.head?_dropWhile_not (fun t : Subtree => t.summary.extra) ts.reverse
  revert h hsplit hextras hhead
  generalize ts.reverse.takeWhile (·.summary.extra) = after
  cases ts.reverse.dropWhile (·.summary.extra) with
  | nil => exact fun h => by cases h
  | cons inner before =>
    intro h hsplit hextras hhead
    refine ⟨before.reverse, inner, after.reverse, ?_, ?_, fun e he =>
      hextras e (List.mem_reverse.1 he), (Option.some.inj h).symm⟩
    · rw [← List.reverse_inj, ← hsplit]
      simp
    · simpa using hhead

/-- The tree of the whole input is still that of its production when it has taken in what may stand
anywhere before and behind it. -/
theorem derived_whole {s : Summary} {cs before after : List Subtree}
    (hinner : Derived t (.node s cs)) (hlabel : s.label = .symbol t.grammar.start)
    (hstart : t.grammar.terminals ≤ t.grammar.start) (hbefore : symbols before = [])
    (hafter : ∀ u ∈ after, u.summary.extra = true) (hderived : ∀ u ∈ before ++ after, Derived t u)
    {root : Subtree} (hroot : root =
      Subtree.make t.grammar s.label s.production (before ++ cs ++ after)) :
    Derived t root ∧ root.summary.label = .symbol t.grammar.start ∧
      leaves root = leavesAll (before ++ .node s cs :: after) := by
  cases hinner with
  | token _ hlabel' hterminal _ =>
    obtain rfl := Label.symbol.inj (hlabel'.symm.trans hlabel)
    exact absurd hterminal (Nat.not_lt.2 hstart)
  | @made _ _ head production hproduction hlabel' _ hcomplete _ _ hchildren =>
    obtain rfl := Label.symbol.inj (hlabel'.symm.trans hlabel)
    obtain ⟨s', hmake, hlabel'', hproduction', hextra, htotal⟩ :=
      make_spec t.grammar t.grammar.start (some production) (before ++ cs ++ after)
    have hsymbols : symbols (before ++ cs ++ after) = symbols cs := by
      rw [symbols_append, symbols_append, hbefore, symbols_extras hafter, List.append_nil,
        List.nil_append]
    rw [hroot, hlabel, hproduction, hmake]
    refine ⟨.made hproduction' hlabel'' hextra (hsymbols ▸ hcomplete) htotal
      (fun hne => absurd rfl hne) fun u hu => ?_, hlabel'', ?_⟩
    · rw [List.append_assoc, List.mem_append, List.mem_append] at hu
      obtain hu | hu | hu := hu
      · exact hderived u (List.mem_append_left _ hu)
      · exact hchildren u hu
      · exact hderived u (List.mem_append_right _ hu)
    · simp [leaves, leavesAll, hproduction', hproduction]

/-- The end of the source on a stack that holds the whole input makes the tree of it. -/
theorem root_of_accept (ht : Regular t) (hl : IsToken t l) (hc : Sound t c.frames)
    {root : Subtree} (hlabel : l.summary.label = .symbol 0)
    (haction : actionAt t (stateOf t c.frames) 0 = some .accept)
    (hwhole : Subtree.whole t.grammar (l :: c.frames.map (·.tree)).reverse = some root) :
    Derived t root ∧ root.summary.label = .symbol t.grammar.start ∧
      leaves root = leavesAll (trees c.frames) ++ leaves l := by
  obtain ⟨s, x, rfl, hproduction, hsymbol, hterminal, hextra⟩ := hl
  obtain rfl := Label.symbol.inj (hsymbol.symm.trans hlabel)
  have hlast : Derived t (.node s []) :=
    .token hproduction hsymbol hterminal fun _ => .inl rfl
  obtain ⟨entry, hentry, hnext, hhead⟩ := complete_of_accept haction
  obtain ⟨xs, hspells, -, hall⟩ := hc.laid.fits entry hentry
  obtain ⟨rfl, hstart⟩ := ht.whole hspells hnext hhead
  have hsymbols := hall hhead
  obtain ⟨before, inner, after, hsplit, hinner, hafter, rfl⟩ := exists_of_whole hwhole
  rw [List.reverse_cons] at hsplit
  change trees c.frames ++ [Subtree.node s []] = _ at hsplit
  have hderived : ∀ u ∈ trees c.frames, Derived t u := by
    intro u hu
    obtain ⟨f, hf, rfl⟩ := List.mem_map.1 (List.mem_reverse.1 hu)
    exact hc.derived f hf
  obtain rfl | ⟨front, e, rfl⟩ := after.eq_nil_or_concat
  · -- the last tree is the end of the source, which may stand anywhere
    obtain ⟨-, heq⟩ := List.append_inj' hsplit rfl
    obtain rfl := List.head_eq_of_cons_eq heq
    cases hextra.symm.trans hinner
  rw [List.concat_eq_append, ← List.cons_append, ← List.append_assoc] at hsplit
  obtain ⟨htrees, heq⟩ := List.append_inj' hsplit rfl
  obtain rfl := List.head_eq_of_cons_eq heq
  rw [htrees] at hderived hsymbols ⊢
  have hfront : ∀ u ∈ front, u.summary.extra = true := fun u hu =>
    hafter u (by simp [hu])
  obtain ⟨y, hy⟩ := (hderived inner (by simp)).exists_label
  have hinnerSymbols : symbols [inner] = [y] := by simp [symbols, hy, hinner]
  rw [List.append_cons, symbols_append, symbols_append, hinnerSymbols, symbols_extras hfront,
    List.append_nil] at hsymbols
  obtain ⟨hbefore, hstartEq⟩ : [] = symbols before ∧ [t.grammar.start] = [y] :=
    List.append_inj' hsymbols rfl
  obtain rfl := List.head_eq_of_cons_eq hstartEq
  have hall : ∀ u ∈ before ++ front.concat (.node s []), Derived t u := by
    intro u hu
    rw [List.concat_eq_append, List.mem_append, List.mem_append, List.mem_singleton] at hu
    obtain hu | hu | rfl := hu
    · exact hderived u (List.mem_append_left _ hu)
    · exact hderived u (List.mem_append_right _ (List.mem_cons_of_mem _ hu))
    · exact hlast
  cases inner with
  | node s' cs =>
    obtain ⟨hroot, hlabel', hleaves⟩ :=
      derived_whole (hderived (.node s' cs) (by simp)) hy hstart hbefore.symm hafter hall rfl
    refine ⟨hroot, hlabel', hleaves.trans ?_⟩
    rw [List.concat_eq_append, ← List.cons_append, ← List.append_assoc, leavesAll_append]
    simp [leavesAll]

/-- The tree of the whole input is a derivation, and its tokens are those on the stack and the last
one. -/
theorem Acts.root (ht : Regular t) (hl : IsToken t l) (hc : Sound t c.frames) {root : Subtree}
    (h : Acts t l n c (.whole root)) : Derived t root ∧
      root.summary.label = .symbol t.grammar.start ∧
      leaves root = leavesAll (trees c.frames) ++ leaves l := by
  generalize hp : Progress.whole root = p at h
  induction h with
  | shift | shiftExtra => cases hp
  | reduce _ haction hreduce _ ih =>
    rw [← leaves_of_reduce hreduce]
    exact ih (sound_of_reduce ht hc haction hreduce) hp
  | accept hlabel haction hwhole =>
    cases hp
    exact root_of_accept ht hl hc hlabel haction hwhole

/-- The tree of a source is a derivation, and its tokens are those on the stack and those that are
read. -/
theorem Reads.derived (ht : Regular t) {source : Source} {lexer : Lexer}
    (hlexer : lexer.Within t) (hc : Sound t c.frames) {ls : List Subtree} {root : Subtree}
    (h : Reads t source lexer n c ls root) : Derived t root ∧
      root.summary.label = .symbol t.grammar.start ∧
      leaves root = leavesAll (trees c.frames) ++ leavesAll ls := by
  induction h with
  | last hlex hacts =>
    obtain ⟨hderived, hlabel, hleaves⟩ := hacts.root ht (isToken_of_lex hlexer hlex) hc
    exact ⟨hderived, hlabel, by rw [hleaves, leavesAll, leavesAll, List.append_nil]⟩
  | more hlex hacts _ ih =>
    obtain ⟨hderived, hlabel, hleaves⟩ := ih (hacts.sound ht (isToken_of_lex hlexer hlex) hc)
    refine ⟨hderived, hlabel, hleaves.trans ?_⟩
    rw [hacts.leaves_eq, List.append_assoc]
    rfl

end Course

end IconSubset.Parse
