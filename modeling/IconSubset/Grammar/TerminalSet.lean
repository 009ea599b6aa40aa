/-!
# Sets of terminals

The lookahead sets of the parse table. A set is a number whose binary digits tell which terminals
are its members.
-/

namespace IconSubset.Grammar

/-- A set of terminals. -/
structure TerminalSet where
  /-- Digit `t` is 1 when terminal `t` is a member. -/
  bits : Nat
deriving BEq, DecidableEq, Repr, Inhabited

/-- Sets in the order of their numbers. -/
instance : Ord TerminalSet := ⟨compareOn TerminalSet.bits⟩

namespace TerminalSet

/-- The set without members. -/
def empty : TerminalSet := ⟨0⟩

/-- The set of one terminal. -/
def singleton (t : Nat) : TerminalSet := ⟨1 <<< t⟩

/-- The members of either set. -/
def union (a b : TerminalSet) : TerminalSet := ⟨a.bits ||| b.bits⟩

/-- The members of the first set that are not in the second. -/
def diff (a b : TerminalSet) : TerminalSet := ⟨a.bits ^^^ (a.bits &&& b.bits)⟩

/-- Whether the sets have a member in common. -/
def meets (a b : TerminalSet) : Bool := a.bits &&& b.bits != 0

/-- Whether the terminal is a member. -/
def contains (s : TerminalSet) (t : Nat) : Bool := s.bits.testBit t

/-- The set with one more member. -/
def insert (s : TerminalSet) (t : Nat) : TerminalSet := s.union (singleton t)

/-- The set of the listed terminals. -/
def ofList (ts : List Nat) : TerminalSet := ts.foldl insert empty

end TerminalSet

end IconSubset.Grammar
