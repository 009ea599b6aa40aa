import IconSubset.Text.ByteString

/-!
# Paths

In a path slashes separate names, which may have any other bytes in them. Empty names and single
dots add nothing, except that a path may begin with a slash or with a dot. Paths are ordered name by
name, so what lies in a directory stands together.
-/

namespace IconSubset.Path

/-- The byte of a slash. -/
@[match_pattern]
abbrev slash : UInt8 := 0x2f

/-- The byte of a dot. -/
@[match_pattern]
abbrev dot : UInt8 := 0x2e

/-- The parts of some bytes between slashes. -/
def splitSlashes : List UInt8 → List (List UInt8)
  | [] => [[]]
  | b :: bs =>
    if b = slash then [] :: splitSlashes bs
    else
      match splitSlashes bs with
      | [] => [[b]]
      | part :: parts => (b :: part) :: parts

/-- Parts with slashes between them. -/
def joinSlashes : List (List UInt8) → List UInt8
  | [] => []
  | [part] => part
  | part :: parts => part ++ slash :: joinSlashes parts

/-- Whether a part adds nothing to a path that it does not begin. -/
def isIdle (part : List UInt8) : Bool := part == [] || part == [dot]

/-- Parts without idle ones at the end. -/
def dropIdleEnd (parts : List (List UInt8)) : List (List UInt8) :=
  (parts.reverse.dropWhile isIdle).reverse

/-- A step of a path. -/
inductive Step where
  /-- The slash that a path begins with. -/
  | root
  /-- The dot that a path begins with. -/
  | here
  /-- Two dots: the directory above. -/
  | up
  /-- The name of something in a directory. -/
  | name (text : ByteString)
deriving DecidableEq, Repr, Inhabited

/-- The step of a part that is not idle. -/
def stepOf (part : List UInt8) : Step :=
  if part = [dot, dot] then .up else .name ⟨part⟩

/-- The steps of a path. -/
def steps (path : ByteString) : List Step :=
  match splitSlashes path.bytes with
  | [] => []
  | first :: rest =>
    let tail := (rest.filter fun part => !isIdle part).map stepOf
    if first = [] then (if rest = [] then [] else .root :: tail)
    else if first = [dot] then .here :: tail
    else stepOf first :: tail

/-- Whether a step comes before another: the beginnings of paths and the way up come before names,
and names are in the order of their bytes. -/
def Step.before : Step → Step → Bool
  | .root, .root => false
  | .root, _ => true
  | .here, .root | .here, .here => false
  | .here, _ => true
  | .up, .name _ => true
  | .up, _ => false
  | .name a, .name b => decide (a.bytes < b.bytes)
  | .name _, _ => false

/-- Whether one list of steps comes before another. -/
def stepsBefore : List Step → List Step → Bool
  | _, [] => false
  | [], _ :: _ => true
  | a :: as, b :: bs => a.before b || (!b.before a && stepsBefore as bs)

/-- Whether a path stands before another or at its place. -/
def atMost (a b : ByteString) : Bool := !stepsBefore (steps b) (steps a)

/-- The last name of a path, when it ends in a name. -/
def fileName? (path : ByteString) : Option ByteString :=
  match (steps path).getLast? with
  | some (.name text) => some text
  | _ => none

/-- What follows the last dot of a name, when something stands before that dot. -/
def extensionOf? (name : ByteString) : Option ByteString :=
  let reversed := name.bytes.reverse
  match reversed.dropWhile (· ≠ dot) with
  | dot :: _ :: _ => some ⟨(reversed.takeWhile (· ≠ dot)).reverse⟩
  | _ => none

/-- The extension of a path. -/
def extension? (path : ByteString) : Option ByteString := (fileName? path).bind extensionOf?

/-- The extensions of source files. -/
def sourceExtensions : List ByteString := ["js", "jsx", "ts", "tsx"]

/-- Whether a path is that of a source file. -/
def isSource (path : ByteString) : Bool :=
  match extension? path with
  | some extension => sourceExtensions.contains extension
  | none => false

/-- Whether a path is the hyphen that stands for the standard input. -/
def isStandardInput (path : ByteString) : Bool := steps path == [.name "-"]

/-- Whether a path leads nowhere from the directory that it begins in: it is empty, or it begins
with a slash. -/
def leadsAway (path : ByteString) : Bool :=
  match path.bytes with
  | [] => true
  | b :: _ => b == slash

/-- The path of something in a directory. -/
def child (directory name : ByteString) : ByteString :=
  if directory.bytes = [] ∨ directory.bytes.getLast? = some slash then directory ++ name
  else directory ++ "/" ++ name

/-- The path of the directory that holds what a path leads to. -/
def parent? (path : ByteString) : Option ByteString :=
  match splitSlashes path.bytes with
  | [] => none
  | first :: rest =>
    match (dropIdleEnd rest).reverse with
    | [] => if first = [] then none else some ""
    | _ :: before =>
      let kept := dropIdleEnd before.reverse
      if first = [] ∧ kept = [] then some "/"
      else some ⟨joinSlashes (first :: kept)⟩

end IconSubset.Path
