import IconSubset.CommandLine.Program
import IconSubset.Files.Change

/-!
# The program

Reads the working directory and the environment, runs the program on them, and stores and shows what
the run comes to.
-/

namespace IconSubset

/-- The variables of an environment block, in which every variable ends in NUL. -/
def environmentOf (block : String) : Config.Environment :=
  (block.splitOn "\x00").filterMap fun assignment =>
    match assignment.splitOn "=" with
    | name :: value :: more => some (name, "=".intercalate (value :: more))
    | _ => none

/-- The variables that the program was started with. -/
def readEnvironment : IO Config.Environment := do
  let block ← try IO.FS.readFile "/proc/self/environ" catch _ => pure ""
  return environmentOf block

/-- The target of a link that lies so many directories below the working directory, when what it
leads to lies in the working directory. -/
def linkTarget (top : String) (depth : Nat) (real : String) : String :=
  if real.startsWith (top ++ "/") then
    String.join (List.replicate depth "../") ++ (real.drop (top.length + 1)).toString
  else if real = top then String.join (List.replicate depth "../") ++ "."
  else ""

/-- What a directory holds. What cannot be read is left out. -/
partial def readEntries (top : String) (depth : Nat) (found : Array IO.FS.DirEntry) :
    IO (List (ByteString × Entry)) := do
  let mut entries : List (ByteString × Entry) := []
  for e in found do
    try
      match (← e.path.symlinkMetadata).type with
      | .dir =>
        let inside ← readEntries top (depth + 1) (← e.path.readDir)
        entries := (e.fileName, .directory inside) :: entries
      | .symlink =>
        let real ← try IO.FS.realPath e.path catch _ => pure ""
        entries := (e.fileName, .link (linkTarget top depth real.toString)) :: entries
      | _ =>
        let bytes ← IO.FS.readBinFile e.path
        entries := (e.fileName, .file (.ofBytes bytes)) :: entries
    catch _ => pure ()
  return entries.reverse

/-- Whether the program reads its standard input. -/
def readsInput (args : List ByteString) : Bool :=
  match CommandLine.parse args with
  | .ok { command := .inject input _ _, .. } => Path.isStandardInput input
  | _ => false

/-- What the program can see. -/
def readWorld (args : List ByteString) : IO World := do
  let top ← IO.currentDir
  let entries ← readEntries top.toString 0 (← top.readDir)
  let environment ← readEnvironment
  let input ←
    if readsInput args then pure (FileContent.ofBytes (← (← IO.getStdin).readBinToEnd))
    else pure (.text "")
  return { files := .directory entries, environment, input }

/-- The path of something in the working directory. -/
def pathOf (names : List ByteString) : String := "/".intercalate (names.map ByteString.shown)

/-- Stores what is new. -/
def Change.store : Change → IO Unit
  | .directory names => IO.FS.createDirAll (pathOf names)
  | .text names content => IO.FS.writeFile (pathOf names) content

/-- What the program says when it is asked for help. -/
def usage : String := "Usage: glyphs [OPTIONS] <scan|url|inject> [ARGUMENTS]\n"

end IconSubset

open IconSubset in
/-- Runs the program. -/
def main (args : List String) : IO UInt32 := do
  let world ← readWorld (args.map ByteString.ofString)
  let outcome := Program.run (fun _ => usage) (args.map ByteString.ofString) world
  (outcome.files.changes [] (some world.files)).forM Change.store
  for line in outcome.log do IO.eprintln line
  IO.print outcome.output
  if let some error := outcome.error then IO.eprint error
  return UInt32.ofNat outcome.status
