import IconSubset.Proofs.Parse.Passage
import IconSubset.Proofs.Stylesheet.Document

/-!
# The rest of a document

What the parser does with the rest of a document depends on what is on its stack and on what the
scanner knows, and not on the text before (`reads_behind`). The marks of the rest are the same as
well, but for their places (`scan_behind`).
-/

namespace IconSubset.Html

open Grammar (TerminalSet)
open Parse (Source Subtree Lexeme Alike AlikeFrames)
open Parse.Course (Acts Reads)

variable {s : Source} {c c' : Parse.Course} {k n n' : Nat}

/-- The tree of a token that has been looked for at a place. -/
def tokenAt (s : Source) (k : Nat) (l : Lexeme) : Subtree :=
  .leaf (.symbol l.terminal) (s.extent k l.start) (s.extent l.start l.stop) false l.memory

/-- What may come behind a course. -/
def expectedAt (c : Parse.Course) : TerminalSet :=
  (Parse.stateOf table.get c.frames).expected.union table.get.grammar.extras

/-- A course reads the token that is found where it stands. -/
theorem lex_behind (s : Source) (front : List Char) (hplace : c.position.chars = front.length + k) :
    c.lex table.get (s.behind front) (lexer table.get.grammar) =
      (Lexer.found? ((lexer table.get.grammar).attempt s c.memory (expectedAt c)
        (fun x => !(TerminalSet.singleton Symbol.comment).contains x) k)).map (tokenAt s k) := by
  obtain ⟨-, -, -, -, -, -, -, -, hextras, -⟩ := table_facts
  have hbehind := attempt_behind table.get.grammar s front c.memory (expectedAt c)
    (fun x => !(TerminalSet.singleton Symbol.comment).contains x) k
  unfold Parse.Course.lex
  dsimp only
  rw [hplace]
  unfold expectedAt at hbehind ⊢
  rw [hextras] at hbehind ⊢
  generalize (lexer table.get.grammar).attempt (s.behind front) _ _ _ _ = found at hbehind ⊢
  generalize (lexer table.get.grammar).attempt s _ _ _ _ = found' at hbehind ⊢
  cases found with
  | failed start stop =>
    cases found' with
    | failed _ _ => rfl
    | found l => cases hbehind
  | found l =>
    cases found' with
    | failed _ _ => cases hbehind
    | found l' =>
      obtain rfl := Option.some.inj hbehind
      simp [tokenAt, Lexer.found?, Lexer.shifted]

/-- At the beginning of the rest it reads the first token of that. -/
theorem lex_eq (cs front : List Char) (hplace : c.position.chars = front.length) :
    c.lex table.get (.ofList (front ++ cs)) (lexer table.get.grammar) =
      (Lexer.first cs c.memory (expectedAt c)).map (tokenAt (.ofList cs) 0) := by
  rw [← Source.behind_ofList, lex_behind (k := 0) (.ofList cs) front hplace, Lexer.first]

/-- The rest of a source is read in the same way behind any other text, with at least as many steps
for each token, when the stack is of the same symbols and the scanner knows the same. -/
theorem reads_behind {front front' : List Char} {ls : List Subtree} {root : Subtree} (hle : n ≤ n')
    (h : Reads table.get (s.behind front) (lexer table.get.grammar) n c ls root)
    (hplace : c.position.chars = front.length + k) (hplace' : c'.position.chars = front'.length + k)
    (hmemory : c.memory = c'.memory) (hframes : AlikeFrames c.frames c'.frames) :
    ∃ root', Reads table.get (s.behind front') (lexer table.get.grammar) n' c' ls root' := by
  induction h generalizing c' k with
  | @last c l root hlex hacts =>
    obtain ⟨_, hacts', hprogress⟩ := hacts.alike ⟨rfl, rfl⟩ hframes
    cases hprogress with
    | whole _ root' =>
      refine ⟨root', .last ?_ (hacts'.mono hle)⟩
      rw [lex_behind s front hplace] at hlex
      rw [lex_behind s front' hplace', ← hmemory, expectedAt, ← hframes.stateOf_eq]
      exact hlex
  | @more c c₁ l root ls hlex hacts hrest ih =>
    obtain ⟨_, hacts', hprogress⟩ := hacts.alike ⟨rfl, rfl⟩ hframes
    cases hprogress with
    | @taken _ c₁' hframes' =>
      obtain ⟨hposition, hmemory'⟩ := hacts.place
      obtain ⟨hposition', hmemory''⟩ := hacts'.place
      obtain ⟨root', hreads⟩ := ih (k := k + l.total.chars)
        (by rw [hposition, Parse.Extent.add, hplace, Nat.add_assoc])
        (by rw [hposition', Parse.Extent.add, hplace', Nat.add_assoc])
        (by rw [hmemory', hmemory'', hmemory]) hframes'
      refine ⟨root', .more ?_ (hacts'.mono hle) hreads⟩
      rw [lex_behind s front hplace] at hlex
      rw [lex_behind s front' hplace', ← hmemory, expectedAt, ← hframes.stateOf_eq]
      exact hlex

end IconSubset.Html

namespace IconSubset.Stylesheet

open Parse (Source Leaf)

/-- A mark that stands so many bytes further on. -/
def Mark.further (n : Nat) : Mark → Mark
  | tag name stop => tag name (n + stop)
  | doctype stop => doctype (n + stop)

/-- The byte at a place behind more characters. -/
theorem byteAt_behind (s : Source) (front : List Char) (i : Nat) :
    byteAt (s.behind front) (front.length + i) =
      (String.ofList front).utf8ByteSize + byteAt s i := by
  rw [byteAt_eq, byteAt_eq, ← String.utf8ByteSize_append, ← String.ofList_append]
  simp [Source.behind, List.take_append, List.take_of_length_le]

/-- A token has the same marks behind more characters. -/
theorem read_behind (s : Source) (front : List Char) (c : Scan) (l : Leaf) :
    Scan.read (s.behind front) { c with place := front.length + c.place } l =
      ({ (c.read s l).1 with place := front.length + (c.read s l).1.place },
        (c.read s l).2.map (Mark.further (String.ofList front).utf8ByteSize)) := by
  unfold Scan.read Scan.forward
  simp only [Nat.add_assoc, byteAt_behind, Source.slice_behind]
  split
  case h_2 =>
    cases c.pending with
    | nothing | tag _ => rfl
    | doctype =>
      dsimp only
      split <;> rfl
  all_goals rfl

/-- Tokens have the same marks behind more characters. -/
theorem scan_behind (s : Source) (front : List Char) (c : Scan) (ls : List Leaf) :
    scan (s.behind front) { c with place := front.length + c.place } ls =
      ({ (scan s c ls).1 with place := front.length + (scan s c ls).1.place },
        (scan s c ls).2.map (Mark.further (String.ofList front).utf8ByteSize)) := by
  induction ls generalizing c with
  | nil => rfl
  | cons l ls ih =>
    rw [scan, scan]
    dsimp only
    rw [read_behind]
    dsimp only
    rw [ih, List.map_append]

end IconSubset.Stylesheet
