import TextDomain.FileSystem.Basic

/-!
# The source files below a directory

Of a directory come first its own source files, in ascending order, and then
those of its subdirectories, in ascending order. Directories that hold no
sources by convention are passed over, and so are hidden ones; that does not
concern the directory that is walked itself, nor the names of files.

A path that leads to a file is visited whatever its name.
-/

namespace TextDomain

/-- The names of directories that hold no sources. -/
def skippedNames : List Text :=
  ["__pycache__", "node_modules", "build", "dist"].map String.toList

/-- Whether a directory of a name is passed over. -/
def isSkipped (name : Text) : Bool := skippedNames.contains name || Text.startsWith ['.'] name

/-- Whether a name is one of a source file. -/
def isSourceName (name : Text) : Bool := Text.endsWith ".py".toList name

/-- The path of an entry of a directory. -/
def joinPath (directory name : Text) : Text :=
  if Text.endsWith ['/'] directory then directory ++ name else directory ++ '/' :: name

namespace Entry

/-- The names of source files among entries, in ascending order. -/
def sourceNames (entries : List (Text × Entry)) : List Text :=
  Text.sort ((entries.filter fun (name, e) => !e.isDirectory && isSourceName name).map (·.1))

mutual

/-- The paths of the source files below a directory that has a path itself. -/
def sourceFiles (path : Text) : Entry → List Text
  | .file _ => []
  | .directory entries =>
    (sourceNames entries).map (joinPath path) ++
      (sortBy (fun a b => Text.le a.1 b.1) (sourceFilesBelow path entries)).flatMap (·.2)

/-- The names of the subdirectories that are not passed over, each with the
paths of the source files below it. -/
def sourceFilesBelow (path : Text) : List (Text × Entry) → List (Text × List Text)
  | [] => []
  | (name, e) :: rest =>
    let more := sourceFilesBelow path rest
    if e.isDirectory && !isSkipped name then
      (name, sourceFiles (joinPath path name) e) :: more
    else more

end

end Entry

/-- What becomes of a path on the way. -/
inductive Visit where
  /-- A file is visited. -/
  | file (path : Text)
  /-- The path leads nowhere. -/
  | nothing (path : Text)
deriving DecidableEq

namespace FileSystem

/-- The visits that one path means. -/
def visitsOf (fs : FileSystem) (path : Text) : List Visit :=
  match fs.entry path with
  | .ok (.file _) => [.file path]
  | .ok (.directory entries) => ((Entry.directory entries).sourceFiles path).map .file
  | .error _ => [.nothing path]

/-- The visits that paths mean, path by path. -/
def visits (fs : FileSystem) (paths : List Text) : List Visit := paths.flatMap fs.visitsOf

end FileSystem

end TextDomain
