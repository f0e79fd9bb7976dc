import TextDomain.Text.Quoted
import TextDomain.Text.Utf8

/-!
# Files and directories

A tree of directories with files at its leaves, and the directory that
relative paths begin at. A path is followed component by component: `.` and
empty components stay, `..` goes to the directory above, and whatever a
component is looked up in has to be a directory. So a path that ends in a
slash leads to a directory or nowhere.

Names inside a directory are looked up from the first on; `put` changes the
first of a name, or adds it behind all others.

## Main results

* `get?_put_self` — what is put at a location is found there.
-/

namespace TextDomain

/-- A file or a directory. -/
inductive Entry where
  /-- A file with its content. -/
  | file (content : Bytes)
  /-- A directory with its named entries. -/
  | directory (entries : List (Text × Entry))
deriving Inhabited

/-- The names on the way from the root. -/
abbrev Place := List Text

/-! ## Trees -/

namespace Entry

/-- Whether an entry is a directory. -/
def isDirectory : Entry → Bool
  | .directory _ => true
  | .file _ => false

/-- The entry of a name. -/
def child? (name : Text) : Entry → Option Entry
  | .file _ => none
  | .directory entries => entries.lookup name

/-- The entry at a place. -/
def get? : Place → Entry → Option Entry
  | [], e => some e
  | name :: rest, e =>
    match e.child? name with
    | some e' => get? rest e'
    | none => none

/-- Changes the entry of a name; where there is none, an empty directory is
changed and added. -/
def alter (name : Text) (f : Entry → Entry) : List (Text × Entry) → List (Text × Entry)
  | [] => [(name, f (.directory []))]
  | (n, e) :: rest => if name == n then (n, f e) :: rest else (n, e) :: alter name f rest

/-- Puts an entry at a place, with the directories on the way. Below a file
nothing is put. -/
def put : Entry → Place → Entry → Entry
  | _, [], new => new
  | .directory entries, name :: rest, new =>
    .directory (alter name (fun e => put e rest new) entries)
  | .file content, _ :: _, _ => .file content

theorem lookup_alter (name : Text) (f : Entry → Entry) (entries : List (Text × Entry)) :
    (alter name f entries).lookup name =
      some (f ((entries.lookup name).getD (.directory []))) := by
  induction entries with
  | nil => simp [alter]
  | cons x rest ih =>
    obtain ⟨n, e⟩ := x
    simp only [alter]
    cases h : name == n with
    | true => simp [List.lookup_cons, h]
    | false => simpa [List.lookup_cons, h] using ih

/-- Whether something may be put at a place: no file is on the way. -/
def admits : Place → Entry → Bool
  | [], _ => true
  | _ :: _, .file _ => false
  | name :: rest, .directory entries =>
    match entries.lookup name with
    | some e => admits rest e
    | none => true

theorem admits_empty (place : Place) : admits place (.directory []) = true := by
  cases place <;> simp [admits]

/-- What is put at a place is found there. -/
theorem get?_put_self (place : Place) (new e : Entry) (h : admits place e = true) :
    get? place (e.put place new) = some new := by
  induction place generalizing e with
  | nil => simp [put, get?]
  | cons name rest ih =>
    cases e with
    | file content => simp [admits] at h
    | directory entries =>
      simp only [put, get?, child?, lookup_alter]
      apply ih
      cases hl : entries.lookup name with
      | none => simpa using admits_empty rest
      | some e' => simpa [admits, hl] using h

end Entry

/-! ## File systems -/

/-- Why a path cannot be used. -/
inductive PathError where
  /-- Nothing is there. -/
  | notFound
  /-- Something on the way is no directory. -/
  | notDirectory
  /-- A directory is there. -/
  | isDirectory
deriving DecidableEq

/-- The wording of an error on a path. -/
def PathError.message (path : Text) : PathError → Text
  | .notFound => "[Errno 2] No such file or directory: ".toList ++ path.quoted
  | .notDirectory => "[Errno 20] Not a directory: ".toList ++ path.quoted
  | .isDirectory => "[Errno 21] Is a directory: ".toList ++ path.quoted

/-- A tree and the place where relative paths begin. -/
structure FileSystem where
  /-- The tree. -/
  root : Entry
  /-- Where relative paths begin. -/
  workingDirectory : Place := []

namespace FileSystem

/-- Follows components from a place on. What is there need not exist, but all
on the way has to. -/
def follow (root : Entry) : Place → List Text → Except PathError Place
  | here, [] => .ok here
  | here, name :: rest =>
    match root.get? here with
    | none => .error .notFound
    | some (.file _) => .error .notDirectory
    | some (.directory _) =>
      if name = [] ∨ name = ['.'] then follow root here rest
      else if name = ['.', '.'] then follow root here.dropLast rest
      else follow root (here ++ [name]) rest

/-- The place that a path begins at. -/
def start (fs : FileSystem) (path : Text) : Place :=
  if path.head? = some '/' then [] else fs.workingDirectory

/-- The place that a path leads to; the empty path leads nowhere. -/
def locate (fs : FileSystem) (path : Text) : Except PathError Place :=
  if path.isEmpty then .error .notFound
  else follow fs.root (fs.start path) (Text.cutAt '/' path)

/-- The entry that a path leads to. -/
def entry (fs : FileSystem) (path : Text) : Except PathError Entry :=
  match fs.locate path with
  | .error e => .error e
  | .ok place =>
    match fs.root.get? place with
    | some e => .ok e
    | none => .error .notFound

/-- The content of the file that a path leads to. -/
def read (fs : FileSystem) (path : Text) : Except PathError Bytes :=
  match fs.entry path with
  | .error e => .error e
  | .ok (.file content) => .ok content
  | .ok (.directory _) => .error .isDirectory

/-- The place where a file of a path can be written. A path that ends in a
slash is one of a directory, whether it exists or not. -/
def target (fs : FileSystem) (path : Text) : Except PathError Place :=
  let names := Text.cutAt '/' path
  let kept := (names.reverse.dropWhile List.isEmpty).reverse
  if path.isEmpty then .error .notFound
  else
    match follow fs.root (fs.start path) kept with
    | .error e => .error e
    | .ok place =>
      if kept.length < names.length then .error .isDirectory
      else match fs.root.get? place with
        | some (.directory _) => .error .isDirectory
        | _ => .ok place

/-- Writes a file. -/
def write (fs : FileSystem) (path : Text) (content : Bytes) : Except PathError FileSystem :=
  match fs.target path with
  | .error e => .error e
  | .ok place => .ok { fs with root := fs.root.put place (.file content) }

end FileSystem

end TextDomain
