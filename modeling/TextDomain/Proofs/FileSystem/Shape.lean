import TextDomain.FileSystem.Walk
import TextDomain.Proofs.FileSystem.Content

/-!
# The shape of a tree

Checking rewrites files while the paths are still being walked. What a path
leads to and which files a walk finds is decided by the directories and names
alone, so it may as well be found out before the first file is rewritten.

The shape of a tree is the tree with nothing in its files. Every question about
places is answered by the shape, and writing over a file keeps it.

## Main results

* `Entry.shape_put` — writing over a file keeps the shape.
* `FileSystem.SameShape.locate_eq` — trees of one shape agree on where paths
  lead.
* `FileSystem.SameShape.visits_eq` — and on what a walk visits.
-/

namespace TextDomain

namespace Entry

mutual

/-- The tree with nothing in its files. -/
def shape : Entry → Entry
  | .file _ => .file []
  | .directory entries => .directory (shapes entries)

/-- Named entries with nothing in their files. -/
def shapes : List (Text × Entry) → List (Text × Entry)
  | [] => []
  | (name, e) :: rest => (name, shape e) :: shapes rest

end

theorem shapes_eq_map (entries : List (Text × Entry)) :
    shapes entries = entries.map (Prod.map id shape) := by
  induction entries with
  | nil => simp [shapes]
  | cons x rest ih => simp [shapes, ih, Prod.map]

@[simp] theorem isDirectory_shape (e : Entry) : e.shape.isDirectory = e.isDirectory := by
  cases e <;> simp [shape, isDirectory]

theorem lookup_shapes (name : Text) (entries : List (Text × Entry)) :
    (shapes entries).lookup name = (entries.lookup name).map shape := by
  induction entries with
  | nil => simp [shapes]
  | cons x rest ih =>
    obtain ⟨n, e⟩ := x
    rw [shapes, List.lookup_cons, List.lookup_cons]
    cases name == n with
    | true => rfl
    | false => exact ih

theorem get?_shape (place : Place) (e : Entry) :
    e.shape.get? place = (e.get? place).map shape := by
  induction place generalizing e with
  | nil => rfl
  | cons name rest ih =>
    cases e with
    | file content => simp [shape, get?, child?]
    | directory entries =>
      simp only [shape, get?, child?, lookup_shapes]
      cases entries.lookup name with
      | none => rfl
      | some child => exact ih child

/-- A tree has files where its shape has them. -/
theorem isSome_contentAt_shape (place : Place) (e : Entry) :
    (e.shape.contentAt place).isSome = (e.contentAt place).isSome := by
  simp only [contentAt, get?_shape]
  cases e.get? place with
  | none => rfl
  | some e' => cases e' <;> simp [shape]

/-- Writing over a file keeps the shape. -/
theorem shape_put {place : Place} {e : Entry} {content : Bytes}
    (h : e.contentAt place = some content) (new : Bytes) :
    (e.put place (file new)).shape = e.shape := by
  induction place generalizing e with
  | nil =>
    obtain rfl : e = file content := Option.some.inj (contentAt_eq_some_iff.1 h)
    simp [put, shape]
  | cons name rest ih =>
    obtain ⟨entries, child, rfl, hname, hchild⟩ := exists_entries_of_contentAt h
    have hentries := map_alter (f := fun c => c.put rest (file new)) shape hname (ih hchild)
    rw [put, shape, shape, shapes_eq_map, shapes_eq_map, hentries]

/-! ## The walk -/

theorem sourceNames_shapes (entries : List (Text × Entry)) :
    sourceNames (shapes entries) = sourceNames entries := by
  unfold sourceNames
  congr 1
  induction entries with
  | nil => simp [shapes]
  | cons x rest ih =>
    obtain ⟨n, e⟩ := x
    simp only [shapes, List.filter_cons, isDirectory_shape]
    split
    · simp [ih]
    · exact ih

mutual

/-- The source files below a directory are those of its shape. -/
theorem sourceFiles_shape (path : Text) : (e : Entry) →
    e.shape.sourceFiles path = e.sourceFiles path
  | .file _ => by simp [shape, sourceFiles]
  | .directory entries => by
    simp only [shape, sourceFiles, sourceNames_shapes, sourceFilesBelow_shapes path entries]

theorem sourceFilesBelow_shapes (path : Text) : (entries : List (Text × Entry)) →
    sourceFilesBelow path (shapes entries) = sourceFilesBelow path entries
  | [] => by simp [shapes]
  | (name, e) :: rest => by
    simp only [shapes, sourceFilesBelow, isDirectory_shape, sourceFiles_shape,
      sourceFilesBelow_shapes path rest]

end

end Entry

/-! ## Trees of one shape -/

namespace FileSystem

/-- The files with nothing in them. -/
def shape (fs : FileSystem) : FileSystem := { fs with root := fs.root.shape }

/-- The same directories and names, and files at the same places. -/
def SameShape (fs fs' : FileSystem) : Prop := fs.shape = fs'.shape

theorem SameShape.trans {a b c : FileSystem} (hab : a.SameShape b) (hbc : b.SameShape c) :
    a.SameShape c := Eq.trans hab hbc

theorem SameShape.symm {a b : FileSystem} (h : a.SameShape b) : b.SameShape a := Eq.symm h

variable (fs : FileSystem)

theorem follow_shape (here : Place) (names : List Text) :
    follow fs.root.shape here names = follow fs.root here names := by
  induction names generalizing here with
  | nil => rfl
  | cons name rest ih =>
    simp only [follow, Entry.get?_shape]
    cases fs.root.get? here with
    | none => rfl
    | some e =>
      cases e with
      | file content => simp [Entry.shape]
      | directory entries => simp [Entry.shape, ih]

theorem locate_shape (path : Text) : fs.shape.locate path = fs.locate path := by
  have hstart : fs.shape.start path = fs.start path := rfl
  simp only [locate, hstart]
  rw [show fs.shape.root = fs.root.shape from rfl, follow_shape]

theorem entry_shape (path : Text) : fs.shape.entry path = (fs.entry path).map Entry.shape := by
  simp only [entry, locate_shape]
  cases fs.locate path with
  | error _ => rfl
  | ok place =>
    have hget : fs.shape.root.get? place = (fs.root.get? place).map Entry.shape :=
      Entry.get?_shape place fs.root
    simp only [hget]
    cases fs.root.get? place <;> rfl

theorem read_shape_eq_error_iff {path : Text} {e : PathError} :
    fs.shape.read path = .error e ↔ fs.read path = .error e := by
  simp only [read, entry_shape]
  cases fs.entry path with
  | error _ => simp [Except.map]
  | ok e' => cases e' <;> simp [Except.map, Entry.shape]

theorem target_shape (path : Text) : fs.shape.target path = fs.target path := by
  have hstart : fs.shape.start path = fs.start path := rfl
  have hroot : fs.shape.root = fs.root.shape := rfl
  simp only [target, hstart, hroot, follow_shape, Entry.get?_shape]
  split
  · rfl
  · cases follow fs.root (fs.start path)
      ((Text.cutAt '/' path).reverse.dropWhile List.isEmpty).reverse with
    | error _ => rfl
    | ok place =>
      dsimp only
      split
      · rfl
      · cases hget : fs.root.get? place with
        | none => rfl
        | some e => cases e <;> simp [Entry.shape]

theorem visitsOf_shape (path : Text) : fs.shape.visitsOf path = fs.visitsOf path := by
  simp only [visitsOf, entry_shape]
  cases fs.entry path with
  | error _ => rfl
  | ok e =>
    cases e with
    | file content => simp [Except.map, Entry.shape]
    | directory entries =>
      have hfiles := Entry.sourceFiles_shape path (.directory entries)
      rw [Entry.shape] at hfiles
      simp [Except.map, Entry.shape, hfiles]

namespace SameShape

variable {fs fs' : FileSystem}

/-- Trees of one shape agree on where a path leads. -/
theorem locate_eq (h : fs.SameShape fs') (path : Text) : fs.locate path = fs'.locate path := by
  rw [← locate_shape, h, locate_shape]

/-- Trees of one shape agree on where a file can be written. -/
theorem target_eq (h : fs.SameShape fs') (path : Text) : fs.target path = fs'.target path := by
  rw [← target_shape, h, target_shape]

/-- Trees of one shape agree on what a walk visits. -/
theorem visits_eq (h : fs.SameShape fs') (paths : List Text) :
    fs.visits paths = fs'.visits paths := by
  have hpath : fs.visitsOf = fs'.visitsOf := by
    funext path
    rw [← visitsOf_shape, h, visitsOf_shape]
  rw [visits, visits, hpath]

theorem isSome_contentAt_eq (h : fs.SameShape fs') (place : Place) :
    (fs.contentAt place).isSome = (fs'.contentAt place).isSome := by
  have hroot : fs.root.shape = fs'.root.shape := congrArg root h
  simp only [contentAt]
  rw [← Entry.isSome_contentAt_shape, hroot, Entry.isSome_contentAt_shape]

/-- Trees of one shape have their files at the same places. -/
theorem map_fileAt?_eq (h : fs.SameShape fs') (path : Text) :
    (fs.fileAt? path).map Prod.fst = (fs'.fileAt? path).map Prod.fst := by
  simp only [fileAt?, h.locate_eq]
  cases fs'.locate path with
  | error e => rfl
  | ok place =>
    have hsome := h.isSome_contentAt_eq place
    cases hcontent : fs.contentAt place <;> cases hcontent' : fs'.contentAt place <;>
      simp_all [Except.toOption]

/-- Trees of one shape agree on what cannot be read, and why. -/
theorem read_eq_error_iff (h : fs.SameShape fs') {path : Text} {e : PathError} :
    fs.read path = .error e ↔ fs'.read path = .error e := by
  rw [← read_shape_eq_error_iff, h, read_shape_eq_error_iff]

/-- Trees of one shape read the same where they hold the same. -/
theorem read_eq (h : fs.SameShape fs') {path : Text}
    (hcontent : ∀ place, fs.locate path = .ok place → fs.contentAt place = fs'.contentAt place) :
    fs.read path = fs'.read path := by
  cases hread : fs.read path with
  | error e => exact (h.read_eq_error_iff.1 hread).symm
  | ok content =>
    obtain ⟨place, hplace, hfile⟩ := read_eq_ok_iff.1 hread
    rw [hcontent place hplace] at hfile
    rw [h.locate_eq] at hplace
    exact (read_eq_ok_iff.2 ⟨place, hplace, hfile⟩).symm

end SameShape

theorem sameShape_withContent {fs : FileSystem} {place : Place} {content : Bytes}
    (h : fs.contentAt place = some content) (new : Bytes) :
    (fs.withContent place new).SameShape fs := by
  simp only [SameShape, shape, withContent, Entry.shape_put h]

theorem locate_withContent {fs : FileSystem} {place : Place} {content : Bytes}
    (h : fs.contentAt place = some content) (new : Bytes) (path : Text) :
    (fs.withContent place new).locate path = fs.locate path :=
  (sameShape_withContent h new).locate_eq path

end FileSystem

end TextDomain
