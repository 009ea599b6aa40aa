import IconSubset.Files.Tree

/-!
# What differs between two trees

A run leaves behind a tree. The directories and texts in it that were not there before are what has
to be stored.
-/

namespace IconSubset

/-- Something to store. -/
inductive Change where
  /-- A new directory. -/
  | directory (names : List ByteString)
  /-- A file with a new text. -/
  | text (names : List ByteString) (text : String)
deriving DecidableEq, Repr, Inhabited

namespace Entry

mutual

/-- What is new in a tree; `names` lead to it. A directory comes before what it holds. -/
def changes (names : List ByteString) (old : Option Entry) : Entry → List Change
  | .file content =>
    match content, old with
    | .text text, some (.file (.text oldText)) =>
      if text = oldText then [] else [.text names text]
    | .text text, _ => [.text names text]
    | .binary _, _ => []
  | .link _ => []
  | .directory entries =>
    match old with
    | some (.directory oldEntries) => changesInside names oldEntries entries
    | _ => .directory names :: changesInside names [] entries

/-- What is new in a directory. -/
def changesInside (names : List ByteString) (old : List (ByteString × Entry)) :
    List (ByteString × Entry) → List Change
  | [] => []
  | (name, e) :: rest =>
    changes (names ++ [name]) (lookup name old) e ++ changesInside names old rest

end

end Entry

end IconSubset
