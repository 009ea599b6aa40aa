import IconSubset.Extraction.SourceFile
import IconSubset.Files.Tree
import IconSubset.Scan.Report

/-!
# The source files below a directory

All source files below a directory are collected, whatever their names and the names of their
directories, and in the order of their paths. Links below the directory are not followed. A file
that is not text is listed apart.
-/

namespace IconSubset

/-- The source files below a directory. -/
structure Collection where
  /-- The path of the directory. -/
  root : ByteString
  /-- The source files. -/
  files : List SourceFile := []
  /-- The source files that are not text. -/
  skipped : List SkippedFile := []
deriving DecidableEq, Repr, Inhabited

/-- A directory that cannot be walked. -/
structure WalkError where
  /-- Its path. -/
  root : ByteString
  /-- Why it cannot. -/
  error : FileError
deriving DecidableEq, Repr, Inhabited

/-- The words for what went wrong below a directory. -/
def WalkError.cause (e : WalkError) : String :=
  e.root.shown ++ ": IO error for operation on " ++ e.root.shown ++ ": " ++ e.error.message

/-- What the user is told. -/
def WalkError.message (e : WalkError) : String :=
  "failed to walk '" ++ e.root.shown ++ "': " ++ e.cause

mutual

/-- The source files at a path where an entry stands. -/
def Entry.sources (path : ByteString) : Entry → List (ByteString × FileContent)
  | .file content => if Path.isSource path then [(path, content)] else []
  | .link _ => []
  | .directory entries => sourcesIn path entries

/-- The source files of the entries of a directory. -/
def sourcesIn (path : ByteString) : List (ByteString × Entry) → List (ByteString × FileContent)
  | [] => []
  | (name, e) :: rest => Entry.sources (Path.child path name) e ++ sourcesIn path rest

end

/-- What a file with this content comes to. -/
def SourceFile.ofContent (path : ByteString) (content : FileContent) :
    Except SkippedFile SourceFile :=
  match content.decode with
  | .ok text => .ok ⟨path, text⟩
  | .error error => .error ⟨path, .read, error.message⟩

/-- The results that are there. -/
def succeeded {ε α : Type} (results : List (Except ε α)) : List α :=
  results.filterMap fun
    | .ok a => some a
    | .error _ => none

/-- The errors of the others. -/
def failed {ε α : Type} (results : List (Except ε α)) : List ε :=
  results.filterMap fun
    | .ok _ => none
    | .error e => some e

/-- The source files below a directory, or the file itself. The standard input has none. -/
def Collection.of (tree : Entry) (root : ByteString) : Except WalkError Collection :=
  if Path.isStandardInput root then .ok { root }
  else
    match tree.find root with
    | .error error => .error ⟨root, error⟩
    | .ok e =>
      let found := (e.sources root).mergeSort fun a b => Path.atMost a.1 b.1
      let results := found.map fun (path, content) => SourceFile.ofContent path content
      .ok { root, files := succeeded results, skipped := failed results }

end IconSubset
