import TextDomain.FileSystem.Basic

/-!
# Changed files

The files of a tree, and those among them that another tree does not have with
the same content.
-/

namespace TextDomain

namespace Entry

mutual

/-- The files below a place, each with its own place. -/
def files (place : Place) : Entry → List (Place × Bytes)
  | .file content => [(place, content)]
  | .directory entries => filesOf place entries

/-- The files below named entries. -/
def filesOf (place : Place) : List (Text × Entry) → List (Place × Bytes)
  | [] => []
  | (name, e) :: rest => files (place ++ [name]) e ++ filesOf place rest

end

/-- Whether a tree has a file with a content at a place. -/
def hasFile (e : Entry) (place : Place) (content : Bytes) : Bool :=
  match e.get? place with
  | some (.file c) => c == content
  | _ => false

end Entry

/-- The files that were created or changed. -/
def FileSystem.changed (before after : FileSystem) : List (Place × Bytes) :=
  (after.root.files []).filter fun (place, content) => !before.root.hasFile place content

end TextDomain
