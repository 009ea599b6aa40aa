import IconSubset.Proofs.Syntax.Standing
import IconSubset.Proofs.Text.Splitting

/-!
# Where a fault is told to be

A fault is told with the line and the column of the node that does not belong, whatever the line
ends and the characters of the source: the line is one more than the line feeds in front of the
node, and the column one more than the characters behind the last of these
(`Location.ofPosition_after`). No two places of a source have one location (`Location.after_inj`),
so a location tells the byte at which the node starts. What is quoted of an unexpected stretch
stands in that line from that column on, since the node is a stretch of the source (`tree_stands`).
-/

namespace IconSubset.Syntax

open Tsx.Shape (byteCount byteCount_append)

/-! ## Lines and columns -/

/-- The location after some characters, from a given location on. -/
def Location.after (l : Location) : List Char → Location
  | [] => l
  | c :: cs =>
    if c = '\n' then Location.after ⟨l.line + 1, 1⟩ cs else Location.after ⟨l.line, l.column + 1⟩ cs

/-- The text of a line of a source from a column on. -/
def textFrom (source : List Char) (l : Location) : List Char :=
  ((source.splitOn '\n').getD (l.line - 1) []).drop (l.column - 1)

/-- The location after characters one after the other. -/
theorem Location.after_append (l : Location) (cs ds : List Char) :
    l.after (cs ++ ds) = (l.after cs).after ds := by
  induction cs generalizing l with
  | nil => rfl
  | cons c cs ih =>
    rw [List.cons_append, Location.after, Location.after]
    split <;> exact ih _

/-- A line feed ends the last line, and any other character makes it longer. -/
theorem lastLineLength_concat (cs : List Char) (c : Char) :
    lastLineLength (cs ++ [c]) = if c = '\n' then 0 else lastLineLength cs + 1 := by
  unfold lastLineLength
  rw [List.reverse_append, List.reverse_singleton, List.singleton_append, List.takeWhile_cons]
  by_cases hc : c = '\n' <;> simp [hc]

/-- The location behind some characters of a source. -/
theorem Location.after_start (before : List Char) :
    Location.after ⟨1, 1⟩ before = ⟨1 + before.count '\n', 1 + lastLineLength before⟩ := by
  induction before using List.reverseRecOn with
  | nil => rfl
  | append_singleton cs c ih =>
    rw [Location.after_append, ih, lastLineLength_concat, List.count_append, Location.after]
    by_cases hc : c = '\n'
    · subst hc
      rfl
    · rw [if_neg hc, if_neg hc, List.count_singleton, beq_false_of_ne hc]
      rfl

/-- Every line feed leads to the next line. -/
theorem Location.line_after (l : Location) (cs : List Char) :
    (l.after cs).line = l.line + cs.count '\n' := by
  induction cs generalizing l with
  | nil => rfl
  | cons c cs ih =>
    rw [Location.after, List.count_cons]
    split
    · next hc =>
      rw [ih, hc, beq_self_eq_true, if_pos rfl, Nat.add_comm (cs.count '\n') 1, ← Nat.add_assoc]
    · next hc =>
      rw [ih, beq_false_of_ne hc]
      rfl

/-- Every other character leads to the next column. -/
theorem Location.column_after (l : Location) {cs : List Char} (h : '\n' ∉ cs) :
    (l.after cs).column = l.column + cs.length := by
  induction cs generalizing l with
  | nil => rfl
  | cons c cs ih =>
    rw [List.mem_cons, not_or] at h
    rw [Location.after, if_neg (Ne.symm h.1), ih _ h.2, List.length_cons]
    show l.column + 1 + cs.length = _
    omega

/-- Going on leads to another line, or within a line to another column. -/
theorem Location.eq_nil_of_after_eq {l : Location} {cs : List Char} (h : l.after cs = l) :
    cs = [] := by
  have hline := l.line_after cs
  rw [h, Nat.left_eq_add, List.count_eq_zero] at hline
  have hcolumn := l.column_after hline
  rw [h, Nat.left_eq_add] at hcolumn
  exact List.length_eq_zero_iff.1 hcolumn

/-- Two places of a source with one location are one place. -/
theorem Location.after_inj {source before before' rest rest' : List Char}
    (h : source = before ++ rest) (h' : source = before' ++ rest')
    (hsame : Location.after ⟨1, 1⟩ before = Location.after ⟨1, 1⟩ before') : before = before' := by
  have key : ∀ {p q : List Char}, p <+: q →
      Location.after ⟨1, 1⟩ p = Location.after ⟨1, 1⟩ q → p = q := by
    rintro p _ ⟨more, rfl⟩ heq
    rw [Location.after_append] at heq
    rw [Location.eq_nil_of_after_eq heq.symm, List.append_nil]
  obtain hle | hle := List.prefix_or_prefix_of_prefix (h ▸ List.prefix_append before rest)
    (h' ▸ List.prefix_append before' rest')
  · exact key hle hsame
  · exact (key hle hsame.symm).symm

/-- The first line of a text is what stands in front of its first line feed. -/
theorem getD_splitOn_zero (cs : List Char) :
    (cs.splitOn '\n').getD 0 [] = cs.takeWhile (· ≠ '\n') := by
  induction cs with
  | nil => rfl
  | cons c cs ih =>
    rw [List.splitOn_cons_eq_if_modifyHead, List.takeWhile_cons]
    by_cases hc : c = '\n'
    · subst hc
      rfl
    · obtain ⟨first, more, hsplit⟩ := List.exists_cons_of_ne_nil (List.splitOn_ne_nil '\n' cs)
      rw [hsplit] at ih ⊢
      rw [if_neg (by simpa using hc), if_pos (by simpa using hc), ← ih]
      rfl

/-- Without line feeds all characters stand in the last line. -/
theorem lastLineLength_of_not_mem {cs : List Char} (h : '\n' ∉ cs) :
    lastLineLength cs = cs.length := by
  unfold lastLineLength
  rw [List.takeWhile_eq_self_iff.2, List.length_reverse]
  intro c hc
  simpa using ne_of_mem_of_not_mem (List.mem_reverse.1 hc) h

/-- A line in front of others does not change the length of the last one. -/
theorem lastLineLength_append (line cs : List Char) :
    lastLineLength (line ++ '\n' :: cs) = lastLineLength cs := by
  induction cs using List.reverseRecOn with
  | nil => exact (lastLineLength_concat line '\n').trans (if_pos rfl)
  | append_singleton cs c ih =>
    rw [lastLineLength_concat, ← List.cons_append, ← List.append_assoc, lastLineLength_concat, ih]

/-- The line of a place from the place on. -/
theorem textFrom_after (before rest : List Char) :
    textFrom (before ++ rest) ⟨1 + before.count '\n', 1 + lastLineLength before⟩ =
      rest.takeWhile (· ≠ '\n') := by
  unfold textFrom
  rw [Nat.add_sub_cancel_left, Nat.add_sub_cancel_left]
  by_cases h : '\n' ∈ before
  · -- The first line is left out of the source and of the count.
    obtain ⟨line, others, hbefore, hline⟩ := List.eq_append_cons_of_mem h
    have ih := textFrom_after others rest
    unfold textFrom at ih
    rw [Nat.add_sub_cancel_left, Nat.add_sub_cancel_left] at ih
    have hcount : before.count '\n' = others.count '\n' + 1 := by
      rw [hbefore, List.count_append, List.count_eq_zero.2 hline, List.count_cons_self,
        Nat.zero_add]
    have hsplit : (before ++ rest).splitOn '\n' = line :: (others ++ rest).splitOn '\n' := by
      rw [hbefore, List.append_assoc, List.cons_append]
      exact List.splitOn_append_cons_self_of_not_mem hline _
    rw [hcount, hsplit, List.getD_cons_succ, hbefore, lastLineLength_append, ih]
  · rw [List.count_eq_zero.2 h, getD_splitOn_zero, lastLineLength_of_not_mem h,
      List.takeWhile_append_of_pos fun c hc => by simpa using ne_of_mem_of_not_mem hc h,
      List.drop_left]
termination_by before.length
decreasing_by simp [hbefore]; omega

/-- Characters take the bytes of the first one and of the others. -/
theorem byteCount_cons (c : Char) (cs : List Char) :
    byteCount (c :: cs) = c.utf8Size + byteCount cs := by
  have hsingle : byteCount [c] = c.utf8Size := by
    unfold byteCount
    simp
  rw [← hsingle, ← byteCount_append, List.singleton_append]

/-- The characters before a byte at which a character starts. -/
theorem charsBefore_byteCount (before rest : List Char) :
    charsBefore (byteCount before) (before ++ rest) = before := by
  induction before with
  | nil => cases rest <;> rfl
  | cons c cs ih =>
    obtain ⟨n, hn⟩ : ∃ n, byteCount (c :: cs) = n + 1 := by
      have hpos := c.utf8Size_pos
      exact ⟨byteCount (c :: cs) - 1, by rw [byteCount_cons]; omega⟩
    have hrest : n + 1 - c.utf8Size = byteCount cs := by
      rw [← hn, byteCount_cons, Nat.add_sub_cancel_left]
    rw [hn, List.cons_append, charsBefore, hrest, ih]

/-- The location of the place behind some characters of a source. -/
theorem Location.ofPosition_after (before rest : List Char) :
    Location.ofPosition (before ++ rest) (Position.after 0 before) =
      ⟨1 + before.count '\n', 1 + lastLineLength before⟩ := by
  have hbyte : (Position.after 0 before).byte = byteCount before := Nat.zero_add _
  have hrow : (Position.after 0 before).row = before.count '\n' := Nat.zero_add _
  rw [Location.ofPosition, hbyte, hrow, charsBefore_byteCount, Nat.add_comm, Nat.add_comm _ 1]

/-- The row of a node is the number of line feeds before it in the source. -/
theorem row_eq_count {source : List Char} {n : Node} (h : n.Stands source) :
    n.start.row = (charsBefore n.start.byte source).count '\n' := by
  obtain ⟨before, after, hsource, hstart⟩ := h
  have hbyte : (Position.after 0 before).byte = byteCount before := Nat.zero_add _
  have hrow : (Position.after 0 before).row = before.count '\n' := Nat.zero_add _
  rw [hsource, hstart, hbyte, hrow, List.append_assoc, charsBefore_byteCount]

/-! ## Snippets -/

/-- What is the first line without its end begins what stands in front of the first line feed. -/
theorem firstLine_starts (text : List Char) : firstLine text <+: text.takeWhile (· ≠ '\n') := by
  unfold firstLine
  dsimp only
  split
  · exact List.dropLast_prefix _
  · exact List.prefix_rfl

/-- What is quoted of a stretch is short and within its first line. -/
theorem snippet_spec (text : String) :
    (snippet text).length ≤ snippetLimit ∧
      (snippet text).toList <+: text.toList.takeWhile (· ≠ '\n') := by
  unfold snippet
  rw [String.toList_ofList, String.length_ofList]
  exact ⟨List.length_take_le _ _, (List.take_prefix _ _).trans (firstLine_starts _)⟩

/-- The first line of a text goes on with what follows the text, or is as before. -/
theorem takeWhile_prefix_append (cs ds : List Char) :
    cs.takeWhile (· ≠ '\n') <+: (cs ++ ds).takeWhile (· ≠ '\n') := by
  rw [List.takeWhile_append]
  split
  · exact (List.takeWhile_prefix _).trans (List.prefix_append _ _)
  · exact List.prefix_rfl

/-! ## Faults -/

/-- A fault tells where a byte of a source is. -/
structure Locates (source : String) (offset : Nat) (fault : Fault) : Prop where
  /-- A character starts at the byte. The line is one more than the line feeds in front of it, and
  the column one more than the characters behind the last of these. -/
  told : ∃ before rest, source.toList = before ++ rest ∧
    offset = (String.ofList before).utf8ByteSize ∧
    fault.location = ⟨1 + before.count '\n', 1 + lastLineLength before⟩
  /-- No other byte at which a character starts is told so. -/
  only : ∀ before rest, source.toList = before ++ rest →
    fault.location = ⟨1 + before.count '\n', 1 + lastLineLength before⟩ →
    offset = (String.ofList before).utf8ByteSize
  /-- What is quoted is short, and that line goes on with it from that column on. -/
  quoted : ∀ location quote, fault = .unexpected location quote →
    quote.length ≤ 40 ∧ '\n' ∉ quote.toList ∧ quote.toList <+: textFrom source.toList location

/-- The fault that a node is tells where the node starts. -/
theorem Describes.locates {source : String} {n : Node} {fault : Fault}
    (hstands : n.Stands source.toList) (h : Describes source.toList n fault) :
    Locates source n.start.byte fault := by
  obtain ⟨before, after, hsource, hstart⟩ := hstands
  have hsplit : source.toList = before ++ (n.text.toList ++ after) := by
    rw [hsource, List.append_assoc]
  have hplace : Location.ofPosition source.toList n.start =
      ⟨1 + before.count '\n', 1 + lastLineLength before⟩ := by
    rw [hsplit, hstart, Location.ofPosition_after]
  have hbyte : n.start.byte = byteCount before := by
    rw [hstart]
    exact Nat.zero_add _
  have hlocation : fault.location = ⟨1 + before.count '\n', 1 + lastLineLength before⟩ := by
    cases h with
    | missing _ | unexpected _ _ => exact hplace
  refine ⟨⟨before, _, hsplit, hbyte, hlocation⟩, fun before' rest' hsource' htold => ?_, ?_⟩
  · rw [hlocation, ← Location.after_start, ← Location.after_start] at htold
    rw [← Location.after_inj hsplit hsource' htold]
    exact hbyte
  · rintro location quote rfl
    cases h with
    | unexpected _ _ =>
      obtain ⟨hlength, hstarts⟩ := snippet_spec n.text
      refine ⟨hlength, fun hmem => ?_, ?_⟩
      · simpa using List.mem_takeWhile_imp (hstarts.subset hmem)
      · rw [hplace, hsplit, textFrom_after]
        exact hstarts.trans (takeWhile_prefix_append n.text.toList after)

/-- Every node that does not belong in the tree of a source is a fault that tells where the node
starts, and the fault for which the source is refused is that of such a node. -/
theorem parse_fault_located (source : String) :
    (∀ address n, (Tsx.tree source).at? address = some n → n.IsFaulty →
      ∃ fault, firstFault source.toList n = some fault ∧ Describes source.toList n fault ∧
        Locates source n.start.byte fault) ∧
    ∀ fault, Tsx.parse source = .error fault →
      ∃ address n, (Tsx.tree source).at? address = some n ∧ n.IsFaulty ∧
        Describes source.toList n fault ∧ Locates source n.start.byte fault := by
  constructor
  · intro address n hn hfaulty
    obtain ⟨fault, hfound, hdescribes⟩ := firstFault_of_faulty source.toList hfaulty
    exact ⟨fault, hfound, hdescribes, hdescribes.locates (Tsx.tree_stands source address n hn)⟩
  · intro fault hfault
    unfold Tsx.parse at hfault
    dsimp only at hfault
    split at hfault
    · next found hfound =>
      obtain rfl := Except.error.inj hfault
      obtain ⟨address, n, hfirst, hdescribes⟩ := exists_firstFaulty _ hfound
      exact ⟨address, n, hfirst.at_address, hfirst.faulty, hdescribes,
        hdescribes.locates (Tsx.tree_stands source address n hfirst.at_address)⟩
    · cases hfault

/-- A fault behind a line end of two characters and behind a letter of two bytes. -/
theorem parse_fault_second_line : ∃ address n,
    (Tsx.tree "const x =\r\n <><i id=\"é\">\x7busing\x7d</i></>;").at? address = some n ∧
      n.IsFaulty ∧
      (firstFault "const x =\r\n <><i id=\"é\">\x7busing\x7d</i></>;".toList n).isSome ∧
      Locates "const x =\r\n <><i id=\"é\">\x7busing\x7d</i></>;" n.start.byte
        (.unexpected ⟨2, 15⟩ "using") := by
  have hfault : Tsx.parse "const x =\r\n <><i id=\"é\">\x7busing\x7d</i></>;" =
      .error (.unexpected ⟨2, 15⟩ "using") := by
    decide +kernel
  obtain ⟨address, n, hn, hfaulty, -, hlocates⟩ := (parse_fault_located _).2 _ hfault
  obtain ⟨fault, hfound, -, -⟩ := (parse_fault_located _).1 address n hn hfaulty
  exact ⟨address, n, hn, hfaulty, Option.isSome_of_eq_some hfound, hlocates⟩

end IconSubset.Syntax
