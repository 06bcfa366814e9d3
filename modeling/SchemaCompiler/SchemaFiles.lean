import SchemaCompiler.FileSystem.Selection

/-!
# Finding schema files

The schema files of a directory are the files in it and below it with a certain extension, sorted by
the names on the way to them.
-/

namespace SchemaCompiler

open FileSystem (Disk Entry FileError NamePattern Path)

/-- Why schema files cannot be looked for. -/
inductive SearchFault where
  /-- No pattern can be made of the extension. -/
  | unusableExtension
  /-- The directory cannot be looked at. -/
  | file (error : FileError)
  deriving DecidableEq, Repr

/-- The wording of a fault. -/
def SearchFault.message : SearchFault → String
  | unusableExtension => "Invalid pattern: '**' can only be an entire path component"
  | file error => error.text

/-- The patterns of the names of schema files with an extension. Dots in front of the extension do
not count, and the extension may lead on to further names. -/
def schemaPatterns? (extension : String) : Option (List NamePattern) :=
  let pattern := "*." ++ String.ofList (extension.toList.dropWhile (· == '.'))
  let names :=
    (Path.ofText pattern).parts ++ (if pattern.toList.getLast? == some '/' then [""] else [])
  (("**" :: names).mapM NamePattern.ofText?)

/-- Paths in the order of the names on them. -/
def sortPaths (paths : List Path) : List Path :=
  paths.mergeSort fun a b => !decide (b.sortKey < a.sortKey)

/-- The schema files in a directory with an extension, except those with certain names. There are
none in a directory that is missing or a file. -/
def findSchemaFiles (disk : Disk) (directory : Path) (extension : String) (excluded : List String) :
    Except SearchFault (List Path) :=
  match schemaPatterns? extension with
  | none => .error .unusableExtension
  | some patterns => do
    let found ← match ← (disk.probe directory).mapError .file with
      | some .directory => (disk.select patterns directory).mapError .file
      | _ => pure []
    return sortPaths (found.filter fun path => disk.isFile path && !excluded.contains path.name)

end SchemaCompiler
