import IconSubset.Syntax.Node

/-!
# Trees without places

While a source is being read, what has been read does not know yet where it stands. A shape is a
syntax tree without places that keeps the blanks between its tokens. Put at a place of a source, it
becomes syntax nodes, and nothing of what was read is lost: the text of a node is what its tokens
and blanks are put together.
-/

namespace IconSubset.Tsx

open Syntax (Node Kind Position Role)

/-- A syntax tree without places. -/
inductive Shape where
  /-- Blanks between tokens. They are no node. -/
  | blanks (text : List Char)
  /-- A node without parts. -/
  | token (kind : Kind) (role : Option Role) (text : List Char)
  /-- A node with parts. -/
  | branch (kind : Kind) (role : Option Role) (parts : List Shape)
deriving Repr, Inhabited

namespace Shape

/-- The same shape in another role. -/
def withRole (role : Role) : Shape → Shape
  | blanks text => blanks text
  | token kind _ text => token kind (some role) text
  | branch kind _ parts => branch kind (some role) parts

mutual

/-- What was read. -/
def chars : Shape → List Char
  | blanks text => text
  | token _ _ text => text
  | branch _ _ parts => charsOfAll parts

/-- What was read for shapes that follow each other. -/
def charsOfAll : List Shape → List Char
  | [] => []
  | s :: rest => s.chars ++ charsOfAll rest

end

mutual

/-- How many stretches of a shape do not fit the grammar. -/
def faults : Shape → Nat
  | blanks _ => 0
  | token _ _ _ => 0
  | branch kind _ parts => (if kind = .error then 1 else 0) + faultsOfAll parts

/-- How many stretches of shapes that follow each other do not fit the grammar. -/
def faultsOfAll : List Shape → Nat
  | [] => 0
  | s :: rest => s.faults + faultsOfAll rest

end

/-- How many bytes characters take. -/
def byteCount (cs : List Char) : Nat := (String.ofList cs).utf8ByteSize

mutual

/-- The nodes of a shape that starts at a place. -/
def nodes (start : Position) : Shape → List Node
  | blanks _ => []
  | token kind role text => [.mk kind role start (String.ofList text) false []]
  | branch kind role parts =>
    [.mk kind role start (String.ofList (charsOfAll parts)) false (nodesOfAll start parts)]

/-- The nodes of shapes that follow each other. -/
def nodesOfAll (start : Position) : List Shape → List Node
  | [] => []
  | s :: rest => s.nodes start ++ nodesOfAll (start.after s.chars) rest

end

/-- Characters one after the other take the bytes of both. -/
theorem byteCount_append (xs ys : List Char) :
    byteCount (xs ++ ys) = byteCount xs + byteCount ys := by
  rw [byteCount, String.ofList_append, String.utf8ByteSize_append]
  rfl

/-- The second of two runs starts where the first ends. -/
theorem nodesOfAll_append (start : Position) (xs ys : List Shape) :
    nodesOfAll start (xs ++ ys) =
      nodesOfAll start xs ++ nodesOfAll (start.after (charsOfAll xs)) ys := by
  induction xs generalizing start with
  | nil => rfl
  | cons x xs ih => simp [nodesOfAll, charsOfAll, ih, Position.after_append]

end Shape

end IconSubset.Tsx
