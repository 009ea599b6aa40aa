/-!
# Source texts and places in them

A source is an array of characters. A place or a stretch is measured in characters, bytes of UTF-8
and line feeds at once: characters to find it, bytes to report it and to weigh an error, line feeds
to weigh an error that spans lines.
-/

namespace IconSubset.Parse

/-- The length of a stretch of source. -/
structure Extent where
  /-- In characters. -/
  chars : Nat
  /-- In bytes of UTF-8. -/
  bytes : Nat
  /-- In line feeds. -/
  rows : Nat
deriving BEq, DecidableEq, Repr, Inhabited

/-- The empty stretch. -/
def Extent.zero : Extent := ⟨0, 0, 0⟩

/-- Two stretches one after the other. -/
def Extent.add (a b : Extent) : Extent := ⟨a.chars + b.chars, a.bytes + b.bytes, a.rows + b.rows⟩

/-- A source text. -/
structure Source where
  /-- Its characters. -/
  chars : Array Char
deriving Inhabited

namespace Source

/-- The source of a text. -/
def ofString (s : String) : Source := ⟨s.toList.toArray⟩

/-- The character at a place; NUL at the end. -/
def peek (s : Source) (i : Nat) : Char := s.chars.getD i '\x00'

/-- Whether nothing is left at a place. -/
def atEnd (s : Source) (i : Nat) : Bool := s.chars.size ≤ i

/-- The first place from `i` on whose character does not satisfy the predicate. -/
def skipWhile (s : Source) (p : Char → Bool) (i : Nat) : Nat :=
  if h : i < s.chars.size then
    if p s.chars[i] then s.skipWhile p (i + 1) else i
  else i
termination_by s.chars.size - i

/-- The stretch between two places. -/
def extent (s : Source) (start stop : Nat) : Extent :=
  (s.chars.extract start stop).foldl
    (fun e c => ⟨e.chars + 1, e.bytes + c.utf8Size, if c == '\n' then e.rows + 1 else e.rows⟩)
    .zero

/-- The text between two places. -/
def slice (s : Source) (start stop : Nat) : String :=
  String.ofList (s.chars.extract start stop).toList

/-- Whether the text goes on with the characters at a place. -/
def startsWith (s : Source) (i : Nat) : List Char → Bool
  | [] => true
  | c :: cs => !s.atEnd i && s.peek i == c && s.startsWith (i + 1) cs

end Source

end IconSubset.Parse
