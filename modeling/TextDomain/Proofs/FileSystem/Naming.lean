import TextDomain.FileSystem.Walk
import TextDomain.Proofs.FileSystem.Content

/-!
# Proper names

A tree is given by lists of named entries, which could have a name twice, or
names that no path can spell. In a tree with proper names neither occurs. Then
the entries of a directory are those that are found by their names, and the
path of an entry, which is the path of its directory with the name behind it,
leads to this entry. So different entries have different paths.

Putting entries with proper names keeps the names proper, so trees that are
filled file by file have them.

## Main results

* `Entry.WellNamed.put` — putting an entry keeps names proper.
* `Entry.wellNamed_filled` — so trees that are filled with files have proper names.
* `Entry.WellNamed.mem_iff` — entries are found by their names.
* `FileSystem.locate_pathBelow` — paths lead to the entries that they are made for.
-/

namespace TextDomain

/-- A name that a path can spell. -/
structure IsComponent (name : Text) : Prop where
  /-- There is something. -/
  nonempty : name ≠ []
  /-- It is not the name of the directory itself. -/
  ne_here : name ≠ ['.']
  /-- It is not the name of the directory above. -/
  ne_above : name ≠ ['.', '.']
  /-- It does not go on in another directory. -/
  slashless : '/' ∉ name

theorem isComponent_iff {name : Text} : IsComponent name ↔
    name ≠ [] ∧ name ≠ ['.'] ∧ name ≠ ['.', '.'] ∧ '/' ∉ name :=
  ⟨fun ⟨h₁, h₂, h₃, h₄⟩ => ⟨h₁, h₂, h₃, h₄⟩, fun ⟨h₁, h₂, h₃, h₄⟩ => ⟨h₁, h₂, h₃, h₄⟩⟩

instance (name : Text) : Decidable (IsComponent name) := decidable_of_iff' _ isComponent_iff

namespace Entry

/-- In every directory of the tree, names can be spelt and are different. -/
inductive WellNamed : Entry → Prop where
  /-- A file has no names in it. -/
  | file (content : Bytes) : WellNamed (.file content)
  /-- The names of a directory are different. -/
  | directory {entries : List (Text × Entry)} (hdistinct : (entries.map Prod.fst).Nodup)
      (hnames : ∀ x ∈ entries, IsComponent x.1) (hentries : ∀ x ∈ entries, WellNamed x.2) :
      WellNamed (.directory entries)

variable {entries : List (Text × Entry)} {name : Text} {e child : Entry} {place : Place}

theorem mem_of_lookup (h : entries.lookup name = some child) : (name, child) ∈ entries := by
  obtain ⟨before, after, rfl, -⟩ := List.lookup_eq_some_iff.1 h
  simp

theorem lookup_of_mem (hdistinct : (entries.map Prod.fst).Nodup) (h : (name, child) ∈ entries) :
    entries.lookup name = some child := by
  obtain ⟨before, after, rfl⟩ := List.mem_iff_append.1 h
  refine List.lookup_eq_some_iff.2 ⟨before, after, rfl, ?_⟩
  intro x hx
  rw [List.map_append, List.nodup_append] at hdistinct
  exact bne_iff_ne.2 (hdistinct.2.2 x.1 (List.mem_map_of_mem hx) name (by simp)).symm

/-- The entries of a directory are found by their names. -/
theorem WellNamed.mem_iff (h : (Entry.directory entries).WellNamed) :
    (name, child) ∈ entries ↔ entries.lookup name = some child := by
  cases h with
  | directory hdistinct _ _ => exact ⟨lookup_of_mem hdistinct, mem_of_lookup⟩

theorem WellNamed.of_lookup (h : (Entry.directory entries).WellNamed)
    (hname : entries.lookup name = some child) : IsComponent name ∧ child.WellNamed := by
  cases h with
  | directory _ hnames hentries =>
    exact ⟨hnames _ (mem_of_lookup hname), hentries _ (mem_of_lookup hname)⟩

/-! ## Filling a tree -/

theorem wellNamed_empty : (directory []).WellNamed := .directory .nil (by simp) (by simp)

theorem map_fst_alter (name : Text) (f : Entry → Entry) (entries : List (Text × Entry)) :
    (alter name f entries).map Prod.fst =
      if name ∈ entries.map Prod.fst then entries.map Prod.fst
      else entries.map Prod.fst ++ [name] := by
  induction entries with
  | nil => rfl
  | cons x rest ih =>
    obtain ⟨n, e⟩ := x
    rw [alter]
    by_cases hn : name = n
    · simp [hn]
    · rw [if_neg (by simpa using hn), List.map_cons, ih]
      simp only [List.map_cons, List.mem_cons, hn, false_or]
      split <;> rfl

/-- What is among the entries after a change was there before, or is what the change made. -/
theorem mem_alter {f : Entry → Entry} {x : Text × Entry} (h : x ∈ alter name f entries) :
    x ∈ entries ∨ x.1 = name ∧ (x.2 = f (directory []) ∨ ∃ e, (name, e) ∈ entries ∧ x.2 = f e) := by
  induction entries with
  | nil =>
    rw [alter, List.mem_singleton] at h
    exact .inr ⟨by rw [h], .inl (by rw [h])⟩
  | cons y rest ih =>
    obtain ⟨n, e⟩ := y
    rw [alter] at h
    split at h
    next hn =>
      obtain rfl := eq_of_beq hn
      rcases List.mem_cons.1 h with rfl | h
      · exact .inr ⟨rfl, .inr ⟨e, List.mem_cons_self, rfl⟩⟩
      · exact .inl (List.mem_cons_of_mem _ h)
    next =>
      rcases List.mem_cons.1 h with rfl | h
      · exact .inl List.mem_cons_self
      · rcases ih h with h | ⟨hname, h | ⟨e', he', h⟩⟩
        · exact .inl (List.mem_cons_of_mem _ h)
        · exact .inr ⟨hname, .inl h⟩
        · exact .inr ⟨hname, .inr ⟨e', List.mem_cons_of_mem _ he', h⟩⟩

/-- Putting an entry keeps names proper. -/
theorem WellNamed.put {new : Entry} (h : e.WellNamed) (hnew : new.WellNamed)
    (hplace : ∀ name ∈ place, IsComponent name) : (e.put place new).WellNamed := by
  induction place generalizing e with
  | nil =>
    rw [Entry.put]
    exact hnew
  | cons name rest ih =>
    obtain ⟨hname, hrest⟩ := List.forall_mem_cons.1 hplace
    cases h with
    | file content => exact .file content
    | @directory entries hdistinct hnames hentries =>
      rw [Entry.put]
      refine .directory ?_ ?_ ?_
      · rw [map_fst_alter]
        split
        next => exact hdistinct
        next hfresh =>
          rw [List.nodup_append]
          refine ⟨hdistinct, by simp, ?_⟩
          rintro n hn n' hn' rfl
          exact hfresh (List.mem_singleton.1 hn' ▸ hn)
      · intro x hx
        rcases mem_alter hx with hx | ⟨hx, -⟩
        · exact hnames x hx
        · rw [hx]
          exact hname
      · intro x hx
        rcases mem_alter hx with hx | ⟨-, hx | ⟨e', he', hx⟩⟩
        · exact hentries x hx
        · rw [hx]
          exact ih wellNamed_empty hrest
        · rw [hx]
          exact ih (hentries _ he') hrest

/-- The tree that is filled with files, one after another. -/
def filled (files : List (Place × Bytes)) : Entry :=
  files.foldl (fun tree file => tree.put file.1 (.file file.2)) (.directory [])

/-- A tree that is filled with files of proper names has proper names. -/
theorem wellNamed_filled {files : List (Place × Bytes)}
    (h : ∀ file ∈ files, ∀ name ∈ file.1, IsComponent name) : (filled files).WellNamed := by
  have hfold : ∀ tree : Entry, tree.WellNamed → (files.foldl
      (fun tree file => tree.put file.1 (.file file.2)) tree).WellNamed := by
    induction files with
    | nil => exact fun tree htree => htree
    | cons file rest ih =>
      obtain ⟨hfile, hrest⟩ := List.forall_mem_cons.1 h
      exact fun tree htree => ih hrest _ (htree.put (.file file.2) hfile)
  exact hfold _ wellNamed_empty

theorem get?_append (place more : Place) (e : Entry) :
    e.get? (place ++ more) = (e.get? place).bind (get? more) := by
  induction place generalizing e with
  | nil => rfl
  | cons name rest ih =>
    simp only [List.cons_append, get?]
    cases e.child? name with
    | none => rfl
    | some child => exact ih child

theorem WellNamed.get? {e' : Entry} (h : e.WellNamed) (hplace : e.get? place = some e') :
    e'.WellNamed := by
  induction place generalizing e with
  | nil =>
    obtain rfl := Option.some.inj hplace
    exact h
  | cons name rest ih =>
    cases e with
    | file _ => cases hplace
    | directory entries =>
      simp only [Entry.get?, child?] at hplace
      split at hplace
      next child hchild => exact ih (h.of_lookup hchild).2 hplace
      next => cases hplace

end Entry

/-! ## Paths -/

theorem Text.cutAt_of_not_mem {separator : Char} {t : Text} (h : separator ∉ t) :
    Text.cutAt separator t = [t] := by
  induction t with
  | nil => rfl
  | cons c rest ih =>
    rw [List.mem_cons, not_or] at h
    rw [Text.cutAt, if_neg (Ne.symm h.1), ih h.2]

theorem Text.cutAt_append (separator : Char) (t u : Text) :
    Text.cutAt separator (t ++ separator :: u) =
      Text.cutAt separator t ++ Text.cutAt separator u := by
  induction t with
  | nil => simp [Text.cutAt]
  | cons c rest ih =>
    rw [List.cons_append, Text.cutAt, Text.cutAt, ih]
    split
    · rfl
    · cases hcut : Text.cutAt separator rest with
      | nil => exact absurd hcut (Text.cutAt_ne_nil separator rest)
      | cons part parts => rfl

/-- The path of what is at a place below a directory that has a path itself. -/
def pathBelow (path : Text) (place : Place) : Text := place.foldl joinPath path

namespace FileSystem

variable {fs : FileSystem} {path name : Text} {here there place : Place}
  {entries : List (Text × Entry)}

theorem follow_singleton (hhere : fs.root.get? here = some (.directory entries))
    (hname : IsComponent name) : follow fs.root here [name] = .ok (here ++ [name]) := by
  simp [follow, hhere, hname.nonempty, hname.ne_here, hname.ne_above]

theorem follow_empty (h : follow fs.root here [[]] = .ok there) : there = here := by
  simp only [follow, true_or, if_true] at h
  split at h
  next => cases h
  next => cases h
  next => exact (Except.ok.inj h).symm

theorem follow_concat {names : List Text} (h : follow fs.root here names = .ok there)
    (hthere : fs.root.get? there = some (.directory entries)) (hname : IsComponent name) :
    follow fs.root here (names ++ [name]) = .ok (there ++ [name]) := by
  rw [follow_append, h]
  exact follow_singleton hthere hname

/-- The path of an entry of a directory leads there. -/
theorem locate_joinPath (h : fs.locate path = .ok place)
    (hplace : fs.root.get? place = some (.directory entries)) (hname : IsComponent name) :
    fs.locate (joinPath path name) = .ok (place ++ [name]) := by
  cases path with
  | nil => cases h
  | cons c rest =>
    replace h : follow fs.root (fs.start (c :: rest)) (Text.cutAt '/' (c :: rest)) = .ok place := h
    have hname' : Text.cutAt '/' name = [name] := Text.cutAt_of_not_mem hname.slashless
    unfold joinPath
    split
    next hends =>
      -- The slash is there already, and the empty component behind it is replaced.
      obtain ⟨init, hinit⟩ := List.isSuffixOf_iff_suffix.1 hends
      rw [← hinit, Text.cutAt_append, follow_append] at h
      cases hfollow : follow fs.root (fs.start (init ++ ['/'])) (Text.cutAt '/' init) with
      | error err =>
        rw [hfollow] at h
        cases h
      | ok there =>
        rw [hfollow] at h
        obtain rfl := follow_empty h
        have hcut : Text.cutAt '/' (c :: rest ++ name) = Text.cutAt '/' init ++ [name] := by
          rw [← hinit, List.append_assoc, List.singleton_append, Text.cutAt_append, hname']
        rw [hinit] at hfollow
        have hlocate := follow_concat hfollow hplace hname
        rw [← hcut] at hlocate
        exact hlocate
    next =>
      have hcut : Text.cutAt '/' (c :: rest ++ '/' :: name) =
          Text.cutAt '/' (c :: rest) ++ [name] := by
        rw [Text.cutAt_append, hname']
      have hlocate := follow_concat h hplace hname
      rw [← hcut] at hlocate
      exact hlocate

/-- The path of a file below a directory leads to it. -/
theorem locate_pathBelow {e : Entry} {below : Place} {content : Bytes}
    (h : fs.locate path = .ok place) (hplace : fs.root.get? place = some e) (he : e.WellNamed)
    (hbelow : e.contentAt below = some content) :
    fs.locate (pathBelow path below) = .ok (place ++ below) := by
  induction below generalizing path place e with
  | nil =>
    rw [List.append_nil]
    exact h
  | cons name rest ih =>
    obtain ⟨entries, child, rfl, hname, hchild⟩ := Entry.exists_entries_of_contentAt hbelow
    obtain ⟨hcomponent, hwell⟩ := he.of_lookup hname
    have hget : fs.root.get? (place ++ [name]) = some child := by
      rw [Entry.get?_append, hplace, Option.bind_some, Entry.get?, Entry.child?, hname]
      rfl
    have hstep := ih (locate_joinPath h hplace hcomponent) hget hwell hchild
    rw [List.append_assoc, List.singleton_append] at hstep
    exact hstep

end FileSystem

end TextDomain
