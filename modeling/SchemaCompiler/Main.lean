import SchemaCompiler.Command.Run

/-!
# The program

The files that a command names are read into a file tree, the command runs on the tree, and the
files that it changed are written back.
-/

namespace SchemaCompiler.Program

open FileSystem (Disk Entry FileTree Path Place)

/-- The text of a place. -/
def placeText (place : Place) : String := "/" ++ "/".intercalate place

/-- Add the file at a place to a tree, or the directory there with what is in it, down to a
depth. -/
def readPlace (depth : Nat) (tree : FileTree) (place : Place) : IO FileTree := do
  let path := (← IO.currentDir) / placeText place
  if ← path.isDir then
    let tree := tree.insert place .directory
    match depth with
    | 0 => return tree
    | depth + 1 =>
      (← path.readDir).foldlM (fun tree entry => readPlace depth tree (place ++ [entry.fileName]))
        tree
  else if ← path.pathExists then
    return tree.insert place (.file (← IO.FS.readBinFile path).toList)
  else return tree

/-- Add the directories above a place and what is at the place. -/
def readBranch (depth : Nat) (tree : FileTree) (place : Place) : IO FileTree := do
  let above := (List.range place.length).map place.take
  let tree ← above.foldlM (readPlace 0) tree
  readPlace depth tree place

/-- The deepest directory that is looked into. -/
def greatestDepth : Nat := 64

/-- The disk as far as a command can be concerned with it. -/
def readDisk (words : List String) : IO Disk := do
  let here := (Path.ofText (← IO.currentDir).toString).parts
  let tree ← readBranch 0 {} here
  match Command.readWords (Command.parameters ++ [Command.helpOption]) words with
  | .error _ => return { tree, here }
  | .ok words =>
    let places (texts : List String) : List Place :=
      texts.map fun text => ((Path.ofText text).absolute here).parts
    let tree ← (places words.arguments).foldlM (readBranch greatestDepth) tree
    let tree ← (places (words.options.filterMap (·.2))).foldlM (readBranch 0) tree
    return { tree, here }

/-- Write what a run changed. -/
def writeChanges (before after : FileTree) : IO Unit :=
  after.entries.forM fun (place, entry) => do
    if before.get? place != some entry then
      let path := placeText place
      match entry with
      | .directory => IO.FS.createDirAll path
      | .file content =>
        let temporary := path ++ ".tmp"
        IO.FS.writeBinFile temporary ⟨content.toArray⟩
        IO.FS.rename temporary path

end SchemaCompiler.Program

/-- Run the command with the words of the command line. -/
def main (words : List String) : IO UInt32 := do
  let disk ← SchemaCompiler.Program.readDisk words
  let result := SchemaCompiler.Command.run disk words
  SchemaCompiler.Program.writeChanges disk.tree result.disk.tree
  result.output.forM IO.println
  result.errors.forM IO.eprintln
  match result.fault with
  | some fault => IO.eprintln fault.text
  | none => pure ()
  return UInt32.ofNat result.exitCode
