import TypedText.CommandLine.Footprint

/-!
# TypedText.Main

The program: it takes from the disk the part of the file tree that its command line has to do with,
runs on that part, puts what has changed back on the disk, and shows what the run shows.

Links are followed by the disk, not by the tree, so a path that leads through a link and back over
it means what its names say.
-/

namespace TypedText
namespace Program

/-- A place as the disk knows it, if it knows names like these. -/
def pathOf? (at_ : Location) : Option String :=
  (Path.mk 1 at_).text.toString?

def entryOnDisk? (at_ : Location) : IO (Option FileEntry) := do
  match pathOf? at_ with
  | none => return none
  | some path =>
    let path := (← IO.currentDir) / path
    if ← path.isDir then return some .directory
    else if ← path.pathExists then
      return some (.file (← IO.FS.readBinFile path).toList)
    else return none

def gather (tree : FileTree) : List Location → IO FileTree
  | [] => return tree
  | at_ :: rest => do
    match ← entryOnDisk? at_ with
    | none => gather tree rest
    | some e => gather (tree.put at_ e) rest

/-- Puts entries on the disk, a directory before what is in it. -/
def putOnDisk : List (Location × FileEntry) → IO Unit
  | [] => return
  | (at_, e) :: rest => do
    match pathOf? at_, e with
    | some path, .directory => IO.FS.createDir path
    | some path, .file content => IO.FS.writeBinFile path ⟨content.toArray⟩
    -- no run makes links or devices
    | _, _ => pure ()
    putOnDisk rest

def bytesOf (t : Text) : ByteArray :=
  ⟨(t.flatMap Utf8.encodeUnit).toArray⟩

/-- Says on the error channel how a run ended, if not by itself, and gives the status. -/
def conclude : CommandLine.Ending → IO UInt32
  | .exit status => return status.toUInt32
  | .usage line => do
    (← IO.getStderr).write (bytesOf (line ++ [0x0A]))
    return 2
  | .failed e => do
    (← IO.getStderr).write (bytesOf (e.message ++ [0x0A]))
    return 1

def run (arguments : List Text) : IO UInt32 := do
  let here := (← IO.currentDir).toString
  let start := FileTree.empty (Path.ofText (Text.ofString here)).names
  let configured ← gather start (CommandLine.footprint .plain start arguments)
  let tree ← gather configured (CommandLine.footprint .plain configured arguments)
  let r := CommandLine.run .plain tree arguments
  putOnDisk (CommandLine.changes tree r.tree)
  (← IO.getStdout).write (bytesOf r.shown)
  conclude r.ending

end Program
end TypedText

def main (arguments : List String) : IO UInt32 :=
  TypedText.Program.run (arguments.map TypedText.Text.ofString)
