import IconSubset.Html.Tree
import Mathlib

/-!
# Tokens depend on what is ahead

A token of an HTML document is read off the source from a place on: whatever lies before that place,
the same token is found (`attempt_behind`). That is so for ordinary tokens and for those of the
scanner, which knows what it needs of the source before the place without looking there.
-/

namespace IconSubset.Parse.Source

/-- A source behind some more characters. -/
def behind (s : Source) (front : List Char) : Source := ⟨front.toArray ++ s.chars⟩

variable (s : Source) (front : List Char)

@[simp] theorem size_behind : (s.behind front).chars.size = front.length + s.chars.size := by
  simp [behind]

@[simp] theorem peek_behind (i : Nat) : (s.behind front).peek (front.length + i) = s.peek i := by
  simp [behind, peek, Array.getElem?_append]

@[simp] theorem atEnd_behind (i : Nat) : (s.behind front).atEnd (front.length + i) = s.atEnd i := by
  simp [atEnd]

/-- A place is skipped when its character satisfies the predicate. -/
theorem skipWhile_eq (p : Char → Bool) (i : Nat) : s.skipWhile p i =
    if (s.chars[i]?).any p then s.skipWhile p (i + 1) else i := by
  rw [skipWhile]
  by_cases h : i < s.chars.size
  · simp [h]
  · simp [h]

@[simp] theorem getElem?_behind (i : Nat) :
    (s.behind front).chars[front.length + i]? = s.chars[i]? := by
  simp [behind, Array.getElem?_append]

@[simp] theorem skipWhile_behind (p : Char → Bool) (i : Nat) :
    (s.behind front).skipWhile p (front.length + i) = front.length + s.skipWhile p i := by
  induction i using skipWhile.induct s p with
  | case1 i h hp ih =>
    have hany : (s.chars[i]?).any p = true := by simpa [h] using hp
    rw [skipWhile_eq, skipWhile_eq s, getElem?_behind, if_pos hany, if_pos hany, Nat.add_assoc, ih]
  | case2 i h hp =>
    have hany : ¬ (s.chars[i]?).any p = true := by simpa [h] using hp
    rw [skipWhile_eq, skipWhile_eq s, getElem?_behind, if_neg hany, if_neg hany]
  | case3 i h =>
    have hany : ¬ (s.chars[i]?).any p = true := by simp [h]
    rw [skipWhile_eq, skipWhile_eq s, getElem?_behind, if_neg hany, if_neg hany]

/-- The same characters are taken out. -/
theorem extract_behind (i j : Nat) :
    (s.behind front).chars.extract (front.length + i) (front.length + j) = s.chars.extract i j := by
  simp [behind, Array.extract_append]

@[simp] theorem slice_behind (i j : Nat) :
    (s.behind front).slice (front.length + i) (front.length + j) = s.slice i j := by
  rw [slice, extract_behind, slice]

@[simp] theorem extent_behind (i j : Nat) :
    (s.behind front).extent (front.length + i) (front.length + j) = s.extent i j := by
  rw [extent, extract_behind, extent]

end IconSubset.Parse.Source

namespace IconSubset.Html

open Grammar (TerminalSet)
open Parse (Source Lexeme Memory Reading)

namespace Lexer

variable (s : Source) (front : List Char)

/-- A token that is found is found behind more characters as well, and no other token is. -/
def Look.Ahead (l : Look) : Prop :=
  ∀ s front i, l.find (Source.behind s front) (front.length + i) =
    (l.find s i).map (front.length + ·)

/-- A row of characters ends at the same one. -/
theorem some1_behind (p : Char → Bool) (i : Nat) :
    some1 (s.behind front) p (front.length + i) = (some1 s p i).map (front.length + ·) := by
  unfold some1
  rw [Source.skipWhile_behind]
  by_cases h : s.skipWhile p i > i
  · simp [h]
  · simp [h]

/-- A word is spelled in the same way. -/
theorem spelled_behind (cs : List Char) (i : Nat) :
    spelled (s.behind front) (front.length + i) cs = (spelled s i cs).map (front.length + ·) := by
  induction cs generalizing i with
  | nil => rfl
  | cons c cs ih =>
    rw [spelled, spelled, Source.peek_behind, Nat.add_assoc, ih]
    split <;> rfl

/-- A bounded row of characters ends at the same one. -/
theorem upTo_behind (p : Char → Bool) (n i : Nat) :
    upTo (s.behind front) p n (front.length + i) = front.length + upTo s p n i := by
  induction n generalizing i with
  | zero => rfl
  | succ n ih =>
    rw [upTo, upTo, Source.peek_behind, Nat.add_assoc, ih]
    split <;> rfl

/-- A character reference ends at the same character. -/
theorem entity_behind (i : Nat) :
    entity (s.behind front) (front.length + i) = (entity s i).map (front.length + ·) := by
  have hbody : ∀ j most (p : Char → Bool),
      (let stop := upTo (s.behind front) p most (front.length + j)
        if stop == front.length + j then none
        else some (if (s.behind front).peek stop == ';' then stop + 1 else stop)) =
      (let stop := upTo s p most j
        if stop == j then none
        else some (if s.peek stop == ';' then stop + 1 else stop)).map (front.length + ·) := by
    intro j most p
    dsimp only
    rw [upTo_behind, Source.peek_behind]
    by_cases hstop : upTo s p most j = j
    · simp [hstop]
    · by_cases hsemicolon : s.peek (upTo s p most j) = ';'
      · simp [hstop, hsemicolon, Nat.add_assoc]
      · simp [hstop, hsemicolon]
  unfold entity
  simp only [Nat.add_assoc, Source.peek_behind]
  by_cases hstart : s.peek i != '&'
  · rw [if_pos hstart, if_pos hstart]
    rfl
  · rw [if_neg hstart, if_neg hstart]
    by_cases hnumber : s.peek (i + 1) == '#'
    · rw [if_pos hnumber, if_pos hnumber]
      by_cases hhex : (s.peek (i + 2)).toLower == 'x'
      · rw [if_pos hhex, if_pos hhex]
        exact hbody _ _ _
      · rw [if_neg hhex, if_neg hhex]
        exact hbody _ _ _
    · rw [if_neg hnumber, if_neg hnumber]
      exact hbody _ _ _

/-- The end of text is a place behind its first character. -/
theorem trimmed_behind {i : Nat} (hstart : isSpace (s.peek i) = false) (k : Nat) :
    text.trimmed (s.behind front) (front.length + (i + 1 + k)) =
      front.length + text.trimmed s (i + 1 + k) := by
  induction k with
  | zero =>
    show text.trimmed (s.behind front) (front.length + i + 1) =
      front.length + text.trimmed s (i + 1)
    simp only [text.trimmed, Source.peek_behind, hstart]
    rfl
  | succ k ih =>
    show text.trimmed (s.behind front) (front.length + (i + 1 + k) + 1) =
      front.length + text.trimmed s (i + 1 + k + 1)
    simp only [text.trimmed, Source.peek_behind, ih]
    split <;> rfl

/-- Text ends at the same character. -/
theorem text_behind (i : Nat) :
    text (s.behind front) (front.length + i) = (text s i).map (front.length + ·) := by
  unfold text
  rw [Source.peek_behind, some1_behind]
  cases hstart : isSpace (s.peek i) with
  | true => rfl
  | false =>
    unfold some1
    by_cases hstop : s.skipWhile isTextPart i > i
    · obtain ⟨k, hk⟩ := Nat.exists_eq_add_of_lt hstop
      rw [if_pos hstop, hk, Nat.add_right_comm]
      simpa using trimmed_behind s front hstart k
    · rw [if_neg hstop]
      rfl

/-- The longest token is the same. -/
theorem longest_behind {looks : List Look} (hlooks : ∀ l ∈ looks, l.Ahead) (i : Nat) :
    longest looks (s.behind front) (front.length + i) =
      (longest looks s i).map fun (x, stop) => (x, front.length + stop) := by
  unfold longest
  suffices hfold : ∀ best : Option (Nat × Nat),
      looks.foldl (longer (s.behind front) (front.length + i))
        (best.map fun (x, stop) => (x, front.length + stop)) =
      (looks.foldl (longer s i) best).map fun (x, stop) => (x, front.length + stop) from hfold none
  induction looks with
  | nil => exact fun best => rfl
  | cons l looks ih =>
    intro best
    rw [List.foldl_cons, List.foldl_cons,
      ← ih fun l' hl' => hlooks l' (List.mem_cons_of_mem _ hl')]
    congr 1
    unfold longer
    rw [hlooks l List.mem_cons_self s front i]
    cases l.find s i with
    | none => rfl
    | some stop =>
      obtain _ | ⟨x, most⟩ := best
      · rfl
      · by_cases hmore : stop > most
        · simp [hmore]
        · simp [hmore]

/-- The token that was found, if one was. -/
def found? : Reading → Option Lexeme
  | .found l => some l
  | .failed _ _ => none

/-- A token behind more characters. -/
def shifted (n : Nat) (l : Lexeme) : Lexeme := ⟨l.terminal, n + l.start, n + l.stop, l.memory⟩

/-- At a place of some kind the same token is found. -/
theorem read_behind {k : Setting} (hlooks : ∀ l ∈ k.looks, l.Ahead) (place : Nat) :
    found? (k.read (s.behind front) (front.length + place)) =
      (found? (k.read s place)).map (shifted front.length) := by
  have hstart : (if k.spaced then (s.behind front).skipWhile isSpace (front.length + place)
      else front.length + place) =
        front.length + if k.spaced then s.skipWhile isSpace place else place := by
    split
    · exact Source.skipWhile_behind s front isSpace place
    · rfl
  unfold Setting.read
  rw [hstart]
  generalize (if k.spaced then s.skipWhile isSpace place else place) = i
  dsimp only
  rw [longest_behind s front hlooks, Source.atEnd_behind]
  cases longest k.looks s i with
  | some found => rfl
  | none =>
    by_cases hend : (k.mayEnd && s.atEnd i) = true
    · rw [Option.map_none, if_pos hend, if_pos hend]
      rfl
    · rw [Option.map_none, if_neg hend, if_neg hend]
      rfl

/-- Marks are spelled ahead. -/
theorem mark_ahead (g : Grammar.Grammar) (text : String) : (mark g text).Ahead :=
  fun s front i => spelled_behind s front _ i

/-- Rows of characters are ahead. -/
theorem row_ahead (g : Grammar.Grammar) (name : String) (p : Char → Bool) :
    (row g name p).Ahead :=
  fun s front i => some1_behind s front p i

/-- Whatever may come, the tokens depend on what is ahead. -/
theorem setting_ahead (g : Grammar.Grammar) (expected : TerminalSet) :
    ∀ l ∈ (setting g expected).looks, l.Ahead := by
  have hentity : (token g "entity" entity).Ahead := fun s front i => entity_behind s front i
  have htext : (token g "text" text).Ahead := fun s front i => text_behind s front i
  have hword : (token g "_doctype" fun s i => spelled s i "doctype".toList).Ahead :=
    fun s front i => spelled_behind s front _ i
  have hsettings : ∀ k ∈ settings g, ∀ l ∈ k.2.looks, l.Ahead := by
    simp only [settings, within, List.forall_mem_cons, List.not_mem_nil, false_implies,
      implies_true, and_true, mark_ahead, row_ahead, hentity, htext]
  have helsewhere : ∀ l ∈ (elsewhere g).looks, l.Ahead := by
    simp only [elsewhere, List.forall_mem_cons, List.not_mem_nil, false_implies, implies_true,
      and_true, mark_ahead, hentity, hword]
  unfold setting
  cases hfind : (settings g).find? (expected.contains ·.1) with
  | none => exact helsewhere
  | some k => exact hsettings k (List.mem_of_find?_eq_some hfind)

end Lexer

namespace Scanner

open Lexer (shifted)

variable (s : Source) (front : List Char)

/-- The same name is read. -/
theorem lowerName_behind (i j : Nat) :
    lowerName (s.behind front) (front.length + i) (front.length + j) = lowerName s i j := by
  rw [lowerName, Source.slice_behind, lowerName]

/-- Places behind more characters are the same when the places are. -/
theorem beq_behind (n i j : Nat) : (n + i == n + j) = (i == j) := by
  rw [Bool.eq_iff_iff, beq_iff_eq, beq_iff_eq, Nat.add_left_cancel_iff]

/-- The end of the same elements is implied. -/
theorem endImplied_behind (names : List String) (i : Nat) :
    endImplied (s.behind front) names (front.length + i) = endImplied s names i := by
  have hstart : ∀ closing : Bool, (if closing then front.length + i + 1 else front.length + i) =
      front.length + if closing then i + 1 else i := by
    intro closing
    cases closing <;> rfl
  unfold endImplied
  simp only [Source.peek_behind, hstart, Source.skipWhile_behind, Source.atEnd_behind,
    lowerName_behind, beq_behind]

/-- A comment ends at the same character. -/
theorem commentEnd_behind (i : Nat) :
    commentEnd (s.behind front) (front.length + i) =
      (commentEnd s i).map (front.length + ·) := by
  have hgo : ∀ fuel i dashes, commentEnd.go (s.behind front) fuel (front.length + i) dashes =
      (commentEnd.go s fuel i dashes).map (front.length + ·) := by
    intro fuel
    induction fuel with
    | zero => exact fun i dashes => rfl
    | succ fuel ih =>
      intro i dashes
      rw [commentEnd.go, commentEnd.go, Source.peek_behind]
      simp only [Nat.add_assoc, ih]
      split
      · rfl
      · split
        · rfl
        · split <;> rfl
  have hfuel : (s.behind front).chars.size + 1 - (front.length + i) = s.chars.size + 1 - i := by
    rw [Source.size_behind]
    omega
  unfold commentEnd
  rw [hfuel]
  simp only [Nat.add_assoc, Source.peek_behind, hgo]
  split <;> rfl

/-- Raw text ends at the same character. -/
theorem rawTextEnd_behind (tag : List Char) (fuel i : Nat) (ahead : List Char) (stop : Nat) :
    rawTextEnd (s.behind front) tag fuel (front.length + i) ahead (front.length + stop) =
      front.length + rawTextEnd s tag fuel i ahead stop := by
  induction fuel generalizing i ahead stop with
  | zero => rfl
  | succ fuel ih =>
    cases ahead with
    | nil => rfl
    | cons d ahead =>
      rw [rawTextEnd, rawTextEnd, Source.peek_behind]
      simp only [Nat.add_assoc, ih]
      split
      · rfl
      · split <;> rfl

/-- The name of a tag opens or closes the same elements. -/
theorem tagName_behind (t : Terminals) (names : List String) (opening : Bool) (i : Nat) :
    tagName t (s.behind front) names opening (front.length + i) =
      (tagName t s names opening i).map (shifted front.length) := by
  unfold tagName
  simp only [Source.skipWhile_behind, beq_behind, lowerName_behind]
  split
  · rfl
  · cases opening with
    | true => rfl
    | false =>
      simp only [Bool.false_eq_true, if_false]
      split <;> rfl

/-- The scanner finds the same token. -/
theorem scan_behind (t : Terminals) (memory : Memory) (expected : TerminalSet) (place : Nat) :
    scan t (s.behind front) memory expected (front.length + place) =
      (scan t s memory expected place).map (shifted front.length) := by
  have hfuel : (s.behind front).chars.size + 1 - (front.length + place) =
      s.chars.size + 1 - place := by
    rw [Source.size_behind]
    omega
  unfold scan
  simp only [hfuel, rawTextEnd_behind, Source.skipWhile_behind, Nat.add_assoc, Source.peek_behind,
    commentEnd_behind, endImplied_behind, tagName_behind]
  split
  · rw [Option.map_map]
    rfl
  · split
    · split
      · rw [Option.map_map, Option.map_map]
        rfl
      · split
        · rw [Option.map_map]
          rfl
        · rfl
    · split
      · rw [Option.map_map]
        rfl
      · rfl
    · split
      · split <;> rfl
      · rfl
    · split <;> rfl

end Scanner

/-- The token that is found at a place does not depend on what lies before that place. -/
theorem attempt_behind (g : Grammar.Grammar) (s : Source) (front : List Char) (memory : Memory)
    (expected : TerminalSet) (emptyCounts : Nat → Bool) (place : Nat) :
    Lexer.found? ((lexer g).attempt (s.behind front) memory expected emptyCounts
        (front.length + place)) =
      (Lexer.found? ((lexer g).attempt s memory expected emptyCounts place)).map
        (Lexer.shifted front.length) := by
  have hread := Lexer.read_behind s front (Lexer.setting_ahead g expected) place
  unfold Parse.Lexer.attempt lexer
  dsimp only
  rw [Scanner.scan_behind]
  cases Scanner.scan (Scanner.terminals g) s memory expected place with
  | none => exact hread
  | some l =>
    have hcounts : ((Lexer.shifted front.length l).stop > front.length + place ||
        (Lexer.shifted front.length l).memory != memory ||
        emptyCounts (Lexer.shifted front.length l).terminal : Bool) =
          (l.stop > place || l.memory != memory || emptyCounts l.terminal) := by
      simp [Lexer.shifted]
    rw [Option.map_some, Option.filter_some, Option.filter_some, hcounts]
    by_cases hkept : (l.stop > place || l.memory != memory || emptyCounts l.terminal) = true
    · rw [if_pos hkept, if_pos hkept]
      rfl
    · rw [if_neg hkept, if_neg hkept]
      exact hread

end IconSubset.Html
