import TextDomain.Command
import TextDomain.FileSystem.Changes

/-!
# The program

Everything is decided by `run`. What is left to do here is to read into a tree
whatever the paths of a request lead to, and to write back the files that
changed.
-/

namespace TextDomain

/-! ## Reading -/

/-- The place of a path that exists. -/
def placeOf (path : String) : IO Place := do
  return (Text.cutAt '/' (← IO.FS.realPath path).toString.toList).filter (!·.isEmpty)

/-- The tree that a path leads to. -/
partial def readTree (path : String) : IO Entry := do
  let here := (← IO.currentDir) / path
  if ← here.isDir then
    return .directory (← (← here.readDir).toList.mapM fun child => do
      return (child.fileName.toList, ← readTree child.path.toString))
  else return .file (← IO.FS.readBinFile path).toList

/-- Adds what is at a path: all of it, or of a directory only that it exists. -/
def addPath (isWhole : Bool) (root : Entry) (path : Text) : IO Entry := do
  let name := String.ofList path
  let here := (← IO.currentDir) / name
  if !(← here.pathExists) then return root
  let place ← placeOf name
  if isWhole || !(← here.isDir) then return root.put place (← readTree name)
  if (root.get? place).isSome then return root
  return root.put place (.directory [])

/-- The directories on the way of a path. -/
def waysOf (path : Text) : List Text :=
  ((List.range path.length).filter fun n => path[n]? == some '/').map fun n => path.take (n + 1)

/-- The files that a request is about. -/
def filesOf (r : CommandLine.Request) : IO FileSystem := do
  let others := r.config.toList ++ r.out.toList
  let root ← addPath false (.directory []) ['.']
  let root ← ((r.paths ++ others).flatMap waysOf).foldlM (addPath false) root
  let root ← r.paths.foldlM (addPath true) root
  let root ← others.foldlM (addPath false) root
  return ⟨root, ← placeOf "."⟩

/-! ## Writing -/

/-- Writes a file. -/
def writeBack (place : Place) (content : Bytes) : IO Unit :=
  IO.FS.writeBinFile (String.ofList ('/' :: Text.join ['/'] place)) ⟨content.toArray⟩

/-- What a failed run says about itself. -/
def Failure.message : Failure → Text
  | .undecodable => "the configuration file is not UTF-8".toList
  | .unrepresentable _ => "the configuration file holds a value that does not exist".toList
  | .contract e => e.message
  | .output path e => e.message path

/-- Writes what a run left behind; its exit code. -/
def finish (before : FileSystem) (r : Run) : IO UInt32 := do
  for (place, content) in before.changed r.files do
    writeBack place content
  for line in r.stderr do
    IO.eprintln (String.ofList line)
  IO.print (String.ofList r.stdout)
  match r.outcome with
  | .ok code => return UInt32.ofNat code
  | .error e =>
    IO.eprintln (String.ofList e.message)
    return 1

end TextDomain

open TextDomain in
/-- The command line. -/
def main (args : List String) : IO UInt32 := do
  let args := args.map String.toList
  match CommandLine.parse args with
  | .ok request =>
    let files ← filesOf request
    finish files (run args files)
  | .error _ =>
    let files : FileSystem := ⟨.directory [], []⟩
    finish files (run args files)
