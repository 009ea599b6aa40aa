import IconSubset.Files.Path

/-!
# Trees of files

A project is a tree of directories, files and links. What a path leads to is found step by step;
links are followed where they stand in the way, and at the end when asked. Nothing is known of what
lies outside the tree, so a path that leaves it leads nowhere.
-/

namespace IconSubset

/-- What a file holds. -/
inductive FileContent where
  /-- A text. -/
  | text (text : String)
  /-- Bytes that are no text, with the whole lines before the first that cannot be decoded. -/
  | binary (readable : String)
deriving DecidableEq, Repr, Inhabited

/-- The content of a file with these bytes. -/
def FileContent.ofBytes (bytes : ByteArray) : FileContent :=
  match String.fromUTF8? bytes with
  | some decoded => .text decoded
  | none => .binary (readableLines bytes.toList [] "")
where
  /-- The lines that can be decoded, before the first that cannot. -/
  readableLines : List UInt8 → List UInt8 → String → String
    | [], _, done => done
    | b :: bs, line, done =>
      if b = 10 then
        match String.fromUTF8? ⟨(b :: line).reverse.toArray⟩ with
        | some line => readableLines bs [] (done ++ line)
        | none => done
      else readableLines bs (b :: line) done

/-- A directory, a file or a link. -/
inductive Entry where
  | file (content : FileContent)
  | link (target : ByteString)
  | directory (entries : List (ByteString × Entry))
deriving Repr, Inhabited

/-- Why a file cannot be used. -/
inductive FileError where
  | notFound
  | alreadyExists
  | notDirectory
  | isDirectory
  | tooManyLinks
  | notText
deriving DecidableEq, Repr, Inhabited

/-- What the user is told. -/
def FileError.message : FileError → String
  | notFound => "No such file or directory (os error 2)"
  | alreadyExists => "File exists (os error 17)"
  | notDirectory => "Not a directory (os error 20)"
  | isDirectory => "Is a directory (os error 21)"
  | tooManyLinks => "Too many levels of symbolic links (os error 40)"
  | notText => "stream did not contain valid UTF-8"

/-- The text of a file. -/
def FileContent.decode : FileContent → Except FileError String
  | .text decoded => .ok decoded
  | .binary _ => .error .notText

namespace Entry

/-- The empty directory. -/
def empty : Entry := .directory []

/-- What stands under a name in a list of entries. -/
def lookup (name : ByteString) : List (ByteString × Entry) → Option Entry
  | [] => none
  | (n, e) :: rest => if n = name then some e else lookup name rest

/-- What is reached by names alone. -/
def at? : Entry → List ByteString → Option Entry
  | e, [] => some e
  | .directory entries, name :: names =>
    match lookup name entries with
    | some e => e.at? names
    | none => none
  | _, _ :: _ => none

/-- The entries with one replaced, or added at the end. -/
def putEntry (name : ByteString) (e : Entry) :
    List (ByteString × Entry) → List (ByteString × Entry)
  | [] => [(name, e)]
  | (n, old) :: rest => if n = name then (n, e) :: rest else (n, old) :: putEntry name e rest

/-- Puts an entry where the names lead. Directories on the way that are missing are made; where
something else stands in the way, nothing changes. -/
def put (e : Entry) : Entry → List ByteString → Entry
  | _, [] => e
  | .directory entries, name :: names =>
    .directory (putEntry name (put e ((lookup name entries).getD .empty) names) entries)
  | other, _ :: _ => other

/-- A place in a tree. -/
structure Place where
  /-- The names that lead to it. -/
  names : List ByteString
  /-- What stands there; nothing, when only its directory exists. -/
  occupant : Option Entry
  /-- Whether the path ends in a slash, so that it can only lead to a directory. -/
  slash : Bool := false
deriving Repr, Inhabited

/-- How many links may be followed on one way. -/
def maxLinks : Nat := 40

/-- Follows the parts of a path from a directory, given by its names in reverse. `links` more links
may be followed, and one at the end only when `final` says so. -/
def walk (tree : Entry) (final : Bool) :
    (links : Nat) → (position : List ByteString) → (parts : List (List UInt8)) →
      Except FileError Place
  | _, position, [] => .ok { names := position.reverse, occupant := tree.at? position.reverse }
  | links, position, part :: parts =>
    match tree.at? position.reverse with
    | some (.directory _) =>
      if Path.isIdle part then walk tree final links position parts
      else if part = [Path.dot, Path.dot] then
        match position with
        | [] => .error .notFound
        | _ :: above => walk tree final links above parts
      else
        let here := ⟨part⟩ :: position
        match tree.at? here.reverse with
        | some (.link target) =>
          if parts = [] ∧ !final then .ok { names := here.reverse, occupant := some (.link target) }
          else
            match links with
            | 0 => .error .tooManyLinks
            | links + 1 =>
              if Path.leadsAway target then .error .notFound
              else walk tree final links position (Path.splitSlashes target.bytes ++ parts)
        | some _ => walk tree final links here parts
        | none =>
          if parts.all (· == []) then
            .ok { names := here.reverse, occupant := none, slash := !parts.isEmpty }
          else .error .notFound
    | some _ => .error .notDirectory
    | none => .error .notFound
  termination_by links _ parts => (links, parts.length)

/-- The place that a path leads to; a link at its end is followed when `final` says so. -/
def locate (tree : Entry) (path : ByteString) (final : Bool := true) : Except FileError Place :=
  if Path.leadsAway path then .error .notFound
  else walk tree final maxLinks [] (Path.splitSlashes path.bytes)

/-- What a path leads to. -/
def find (tree : Entry) (path : ByteString) : Except FileError Entry :=
  match tree.locate path with
  | .ok { occupant := some e, .. } => .ok e
  | .ok { occupant := none, .. } => .error .notFound
  | .error error => .error error

/-- Whether a path leads to a file. -/
def isFile (tree : Entry) (path : ByteString) : Bool :=
  match tree.find path with
  | .ok (.file _) => true
  | _ => false

/-- Whether a path leads to a directory. -/
def isDirectory (tree : Entry) (path : ByteString) : Bool :=
  match tree.find path with
  | .ok (.directory _) => true
  | _ => false

/-- The content of the file that a path leads to. -/
def read (tree : Entry) (path : ByteString) : Except FileError FileContent :=
  match tree.find path with
  | .ok (.file content) => .ok content
  | .ok (.directory _) => .error .isDirectory
  | .ok (.link _) => .error .tooManyLinks
  | .error error => .error error

/-- The text of the file that a path leads to. -/
def readText (tree : Entry) (path : ByteString) : Except FileError String :=
  (tree.read path).bind FileContent.decode

/-- The tree with a text in the file that a path leads to, or in a new file there. -/
def writeText (tree : Entry) (path : ByteString) (text : String) : Except FileError Entry :=
  match tree.locate path with
  | .ok { occupant := some (.directory _), .. } => .error .isDirectory
  | .ok { occupant := none, slash := true, .. } => .error .isDirectory
  | .ok { names, .. } => .ok (put (.file (.text text)) tree names)
  | .error error => .error error

/-- The tree with one more directory. -/
def makeDirectory (tree : Entry) (path : ByteString) : Except FileError Entry :=
  match tree.locate path false with
  | .ok { names, occupant := none, .. } => .ok (put .empty tree names)
  | .ok _ => .error .alreadyExists
  | .error error => .error error

/-- Makes a directory unless there is one: the tree afterwards, and whether there is one now. -/
def ensureDirectory (tree : Entry) (path : ByteString) : Entry × Except FileError Unit :=
  match tree.makeDirectory path with
  | .ok tree => (tree, .ok ())
  | .error error => (tree, if tree.isDirectory path then .ok () else .error error)

/-- Makes a directory and those above it, as far as they are missing. What has been made stays also
when one of them cannot be made. `levels` bounds how many may be missing. -/
def makeDirectoriesUpTo (tree : Entry) :
    (levels : Nat) → (path : ByteString) → Entry × Except FileError Unit
  | 0, _ => (tree, .error .notFound)
  | levels + 1, path =>
    if path.bytes = [] then (tree, .ok ())
    else
      match tree.makeDirectory path with
      | .error .notFound =>
        match Path.parent? path with
        | none => (tree, .error .notFound)
        | some above =>
          match makeDirectoriesUpTo tree levels above with
          | (tree, .error error) => (tree, .error error)
          | (tree, .ok ()) => tree.ensureDirectory path
      | _ => tree.ensureDirectory path

/-- Makes a directory and those above it, as far as they are missing. -/
def makeDirectories (tree : Entry) (path : ByteString) : Entry × Except FileError Unit :=
  makeDirectoriesUpTo tree (path.bytes.length + 1) path

end Entry

end IconSubset
