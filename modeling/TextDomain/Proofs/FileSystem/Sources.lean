import Mathlib.Data.List.Forall2
import Mathlib.Data.List.Nodup
import TextDomain.Check
import TextDomain.Proofs.FileSystem.Naming

/-!
# The sources of a tree

Which files are the sources below a directory is a matter of their places alone:
the last name ends as names of sources do, and no directory on the way is one
that is passed over. In which order they come is a matter of two places at a
time: where they part, a file comes before what is further below, and
otherwise the names decide. A list that has just these places in just this
order is determined by that, and it is what the walk finds.

The walk makes paths, and sorts names that are different. So proper names are
asked for: with them, the paths are different as the places are, and each leads
to the file at its place.

## Main results

* `Entry.mem_sourcePlaces_iff` — the walk finds the sources and nothing else.
* `Entry.pairwise_sourcePlaces` — it finds them in order.
* `FileSystem.visits_iff` — what becomes of paths.
-/

namespace TextDomain

/-! ## The order on texts -/

namespace Text

/-- By code point, `a` comes before `b`; a text comes before its own extensions. -/
def Lt (a b : Text) : Prop := List.Lex (fun c d => c.toNat < d.toNat) a b

variable {a b c : Text}

-- This is the order that lists have from their elements, and its facts are used as they are.
theorem Lt.asymm (h : Lt a b) : ¬ Lt b a := List.lt_asymm h

theorem Lt.irrefl (a : Text) : ¬ Lt a a := fun h => h.asymm h

theorem le_iff : le a b = true ↔ ¬ Lt b a := by
  unfold Lt
  induction a generalizing b with
  | nil => simp [le]
  | cons c as ih =>
    cases b with
    | nil => simp [le]
    | cons d bs =>
      rw [le, List.cons_lex_cons_iff]
      split
      next h => simp [h, ih]
      next h =>
        have hne : c.toNat ≠ d.toNat := fun heq => h (Char.toNat_inj.1 heq)
        simp only [decide_eq_true_eq, Ne.symm h, false_and, or_false]
        omega

theorem le_total (a b : Text) : le a b = true ∨ le b a = true := by
  simp only [le_iff]
  by_cases h : Lt b a
  · exact .inr h.asymm
  · exact .inl h

theorem le_trans (hab : le a b = true) (hbc : le b c = true) : le a c = true := by
  rw [le_iff] at hab hbc ⊢
  exact List.le_trans hab hbc

theorem lt_of_le_of_ne (hle : le a b = true) (hne : a ≠ b) : Lt a b :=
  (List.le_iff_lt_or_eq.1 (le_iff.1 hle)).resolve_right hne

/-- Sorting by texts that are different makes them ascend strictly. -/
theorem pairwise_lt_sortBy {α : Type} (key : α → Text) {xs : List α} (h : (xs.map key).Nodup) :
    (sortBy (fun a b => le (key a) (key b)) xs).Pairwise fun a b => Lt (key a) (key b) := by
  have hsorted : (sortBy (fun a b => le (key a) (key b)) xs).Pairwise fun a b =>
      le (key a) (key b) = true :=
    pairwise_sortBy (fun a b => le_total (key a) (key b)) (fun _ _ _ => le_trans) xs
  have hdistinct := ((sortBy_perm (fun a b => le (key a) (key b)) xs).map key).nodup_iff.2 h
  have hne := List.pairwise_map.1 hdistinct
  exact (hsorted.and hne).imp fun hpair => lt_of_le_of_ne hpair.1 hpair.2

end Text

/-! ## Sources and their order -/

namespace Entry

/-- `e.HasSource place`: the walk of a directory `e` has to find the file at a place below. -/
structure HasSource (e : Entry) (place : Place) : Prop where
  /-- A file is there. -/
  isFile : ∃ content, e.contentAt place = some content
  /-- Its name is one of a source file. -/
  named : ∃ stem, place.getLast? = some (stem ++ ".py".toList)
  /-- No directory on the way is passed over. -/
  reached : ∀ name ∈ place.dropLast, name ∉ skippedNames ∧ name.head? ≠ some '.'

end Entry

/-- `Precedes a b`: a walk comes to a file at `a` before it comes to one at `b`. -/
inductive Precedes : Place → Place → Prop where
  /-- The files of a directory come in ascending order. -/
  | files {a b : Text} (h : Text.Lt a b) : Precedes [a] [b]
  /-- They come before those of its subdirectories. -/
  | fileBelow (a b c : Text) (rest : Place) : Precedes [a] (b :: c :: rest)
  /-- The subdirectories come in ascending order. -/
  | directories {a b : Text} (h : Text.Lt a b) (c d : Text) (rest rest' : Place) :
      Precedes (a :: c :: rest) (b :: d :: rest')
  /-- A subdirectory is walked in the same way. -/
  | inside (name : Text) {rest rest' : Place} (h : Precedes rest rest') :
      Precedes (name :: rest) (name :: rest')

theorem Precedes.asymm {a b : Place} (h : Precedes a b) : ¬ Precedes b a := by
  intro h'
  induction h with
  | files h =>
    cases h' with
    | files h' => exact h.asymm h'
    | inside _ h' => exact Text.Lt.irrefl _ h
  | fileBelow a b c rest =>
    cases h' with
    | inside _ h' => cases h'
  | directories h c d rest rest' =>
    cases h' with
    | directories h' => exact h.asymm h'
    | inside _ h' => exact Text.Lt.irrefl _ h
  | inside name h ih =>
    cases h' with
    | files h' => exact Text.Lt.irrefl _ h'
    | fileBelow => cases h
    | directories h' => exact Text.Lt.irrefl _ h'
    | inside _ h' => exact ih h'

theorem Precedes.ne {a b : Place} (h : Precedes a b) : a ≠ b := by
  rintro rfl
  exact h.asymm h

/-- Lists of places that are in order and have the same members are the same. -/
theorem eq_of_pairwise_precedes {places places' : List Place} (h : places.Pairwise Precedes)
    (h' : places'.Pairwise Precedes) (hmem : ∀ place, place ∈ places ↔ place ∈ places') :
    places = places' := by
  have hdistinct : places.Nodup := h.imp Precedes.ne
  have hdistinct' : places'.Nodup := h'.imp Precedes.ne
  have hperm : places.Perm places' := (List.perm_ext_iff_of_nodup hdistinct hdistinct').2 hmem
  exact hperm.eq_of_pairwise (fun a b _ _ hab hba => absurd hba hab.asymm) h h'

namespace Entry

/-! ## Places instead of paths -/

mutual

/-- The places of the source files below a directory, as the walk comes to them. -/
def sourcePlaces : Entry → List Place
  | .file _ => []
  | .directory entries =>
    (sourceNames entries).map (fun name => [name]) ++
      (sortBy (fun a b => Text.le a.1 b.1) (sourcePlacesBelow entries)).flatMap fun x =>
        x.2.map (x.1 :: ·)

/-- The names of the subdirectories that are not passed over, each with the places of the
source files below it. -/
def sourcePlacesBelow : List (Text × Entry) → List (Text × List Place)
  | [] => []
  | (name, e) :: rest =>
    if e.isDirectory && !isSkipped name then (name, sourcePlaces e) :: sourcePlacesBelow rest
    else sourcePlacesBelow rest

end

/-- The paths of places below a subdirectory. -/
def pathsOf (path : Text) (x : Text × List Place) : Text × List Text :=
  (x.1, x.2.map (pathBelow (joinPath path x.1)))

mutual

/-- The walk gives the places their paths. -/
theorem sourceFiles_eq (path : Text) : (e : Entry) →
    e.sourceFiles path = e.sourcePlaces.map (pathBelow path)
  | .file _ => by simp [sourceFiles, sourcePlaces]
  | .directory entries => by
    have hsort : sortBy (fun a b => Text.le a.1 b.1)
          ((sourcePlacesBelow entries).map (pathsOf path)) =
        (sortBy (fun a b => Text.le a.1 b.1) (sourcePlacesBelow entries)).map (pathsOf path) :=
      sortBy_map (fun _ _ => rfl) _
    rw [sourceFiles, sourcePlaces, sourceFilesBelow_eq path entries, hsort, List.map_append,
      List.map_map, List.map_flatMap, List.flatMap_map]
    simp only [pathsOf, List.map_map]
    rfl

theorem sourceFilesBelow_eq (path : Text) : (entries : List (Text × Entry)) →
    sourceFilesBelow path entries = (sourcePlacesBelow entries).map (pathsOf path)
  | [] => by simp [sourceFilesBelow, sourcePlacesBelow]
  | (name, e) :: rest => by
    simp only [sourceFilesBelow, sourcePlacesBelow, sourceFiles_eq (joinPath path name) e,
      sourceFilesBelow_eq path rest]
    split <;> rfl

end

/-- Whether the walk goes into a named entry. -/
def isWalked (x : Text × Entry) : Bool := x.2.isDirectory && !isSkipped x.1

theorem sourcePlacesBelow_eq (entries : List (Text × Entry)) :
    sourcePlacesBelow entries =
      (entries.filter isWalked).map fun x => (x.1, x.2.sourcePlaces) := by
  induction entries with
  | nil => simp [sourcePlacesBelow]
  | cons x rest ih =>
    rw [sourcePlacesBelow, List.filter_cons, ← isWalked, ih]
    split <;> rfl

/-! ## Nothing is missed, and nothing else is found -/

variable {entries : List (Text × Entry)} {e : Entry} {name : Text} {rest place : Place}

theorem isSkipped_eq_false_iff :
    isSkipped name = false ↔ name ∉ skippedNames ∧ name.head? ≠ some '.' := by
  have hdot : Text.startsWith ['.'] name = true ↔ name.head? = some '.' := by
    cases name with
    | nil => decide
    | cons c t => simp [Text.startsWith, List.isPrefixOf, @eq_comm _ '.' c]
  rw [isSkipped, Bool.or_eq_false_iff, ← Bool.not_eq_true, ← Bool.not_eq_true, hdot,
    List.contains_iff_mem]

theorem isSourceName_iff : isSourceName name = true ↔ ∃ stem, name = stem ++ ".py".toList := by
  rw [isSourceName, Text.endsWith, List.isSuffixOf_iff_suffix]
  exact exists_congr fun stem => eq_comm

theorem nil_not_mem_sourcePlaces (e : Entry) : [] ∉ e.sourcePlaces := by
  cases e <;> simp [sourcePlaces]

theorem mem_sourcePlaces_directory : name :: rest ∈ (directory entries).sourcePlaces ↔
    ∃ child, (name, child) ∈ entries ∧
      (rest = [] ∧ child.isDirectory = false ∧ isSourceName name = true ∨
        child.isDirectory = true ∧ isSkipped name = false ∧ rest ∈ child.sourcePlaces) := by
  have hfiles : name :: rest ∈ (sourceNames entries).map (fun n => [n]) ↔
      rest = [] ∧ ∃ child, (name, child) ∈ entries ∧ child.isDirectory = false ∧
        isSourceName name = true := by
    simp [sourceNames, Text.sort, and_comm]
  have hbelow : name :: rest ∈ (sortBy (fun a b => Text.le a.1 b.1)
        ((entries.filter isWalked).map fun x => (x.1, x.2.sourcePlaces))).flatMap
          (fun x => x.2.map (x.1 :: ·)) ↔
      ∃ child, (name, child) ∈ entries ∧ child.isDirectory = true ∧ isSkipped name = false ∧
        rest ∈ child.sourcePlaces := by
    simp [isWalked, and_assoc]
  rw [sourcePlaces, sourcePlacesBelow_eq, List.mem_append, hfiles, hbelow]
  constructor
  · rintro (⟨rfl, child, hmem, hfile⟩ | ⟨child, hmem, hdirectory⟩)
    · exact ⟨child, hmem, .inl ⟨rfl, hfile⟩⟩
    · exact ⟨child, hmem, .inr hdirectory⟩
  · rintro ⟨child, hmem, ⟨rfl, hfile⟩ | hdirectory⟩
    · exact .inl ⟨rfl, child, hmem, hfile⟩
    · exact .inr ⟨child, hmem, hdirectory⟩

theorem HasSource.ne_nil (h : e.HasSource place) : place ≠ [] := by
  rintro rfl
  obtain ⟨stem, hstem⟩ := h.named
  cases hstem

theorem hasSource_directory : (directory entries).HasSource (name :: rest) ↔
    ∃ child, entries.lookup name = some child ∧
      (rest = [] ∧ child.isDirectory = false ∧ isSourceName name = true ∨
        child.isDirectory = true ∧ isSkipped name = false ∧ child.HasSource rest) := by
  constructor
  · rintro ⟨⟨content, hcontent⟩, ⟨stem, hstem⟩, hreached⟩
    rw [contentAt_cons_directory] at hcontent
    obtain ⟨child, hchild, hcontent⟩ := Option.bind_eq_some_iff.1 hcontent
    refine ⟨child, hchild, ?_⟩
    cases rest with
    | nil =>
      obtain rfl : child = file content := Option.some.inj (contentAt_eq_some_iff.1 hcontent)
      exact .inl ⟨rfl, rfl, isSourceName_iff.2 ⟨stem, Option.some.inj hstem⟩⟩
    | cons next more =>
      obtain ⟨inner, _, rfl, -, -⟩ := exists_entries_of_contentAt hcontent
      have hskip := isSkipped_eq_false_iff.2 (hreached name List.mem_cons_self)
      have hreached' := fun n hn => hreached n (List.mem_cons_of_mem name hn)
      exact .inr ⟨rfl, hskip, ⟨content, hcontent⟩, ⟨stem, hstem⟩, hreached'⟩
  · rintro ⟨child, hchild, ⟨rfl, hfile, hname⟩ | ⟨-, hskip, hsource⟩⟩
    · obtain ⟨stem, rfl⟩ := isSourceName_iff.1 hname
      cases child with
      | directory _ => cases hfile
      | file content =>
        refine ⟨⟨content, ?_⟩, ⟨stem, rfl⟩, by simp⟩
        rw [contentAt_cons_directory, hchild]
        rfl
    · cases rest with
      | nil => exact absurd rfl hsource.ne_nil
      | cons next more =>
        obtain ⟨content, hcontent⟩ := hsource.isFile
        refine ⟨⟨content, ?_⟩, hsource.named, ?_⟩
        · rw [contentAt_cons_directory, hchild]
          exact hcontent
        · intro n hn
          rcases List.mem_cons.1 hn with rfl | hn
          · exact isSkipped_eq_false_iff.1 hskip
          · exact hsource.reached n hn

/-- The walk finds the sources and nothing else. -/
theorem mem_sourcePlaces_iff (h : e.WellNamed) : place ∈ e.sourcePlaces ↔ e.HasSource place := by
  induction place generalizing e with
  | nil => exact iff_of_false (nil_not_mem_sourcePlaces e) fun h => h.ne_nil rfl
  | cons name rest ih =>
    cases e with
    | file content =>
      refine iff_of_false (by simp [sourcePlaces]) ?_
      rintro ⟨⟨content', hcontent⟩, -, -⟩
      cases hcontent
    | directory entries =>
      rw [mem_sourcePlaces_directory, hasSource_directory]
      refine exists_congr fun child => ?_
      rw [h.mem_iff]
      refine and_congr_right fun hchild => ?_
      rw [ih (h.of_lookup hchild).2]

/-! ## Their order -/

/-- Of different names, the names of some of the entries are different. -/
theorem nodup_filter (h : (entries.map Prod.fst).Nodup) (p : Text × Entry → Bool) :
    ((entries.filter p).map Prod.fst).Nodup :=
  h.sublist (List.filter_sublist.map Prod.fst)

theorem pairwise_sourceNames (h : (entries.map Prod.fst).Nodup) :
    (sourceNames entries).Pairwise Text.Lt := by
  have hnames := nodup_filter h fun x => !x.2.isDirectory && isSourceName x.1
  rw [← List.map_id (List.map _ _)] at hnames
  exact Text.pairwise_lt_sortBy id hnames

theorem pairwise_sourcePlacesBelow (h : (entries.map Prod.fst).Nodup) :
    (sortBy (fun a b => Text.le a.1 b.1) (sourcePlacesBelow entries)).Pairwise fun x y =>
      Text.Lt x.1 y.1 := by
  apply Text.pairwise_lt_sortBy
  rw [sourcePlacesBelow_eq, List.map_map]
  exact nodup_filter h isWalked

theorem exists_child_of_mem {x : Text × List Place} (h : x ∈ sourcePlacesBelow entries) :
    ∃ child, (x.1, child) ∈ entries ∧ x.2 = child.sourcePlaces := by
  rw [sourcePlacesBelow_eq] at h
  obtain ⟨y, hy, rfl⟩ := List.mem_map.1 h
  exact ⟨y.2, (List.mem_filter.1 hy).1, rfl⟩

theorem exists_cons_of_mem {x : Text × List Place} (h : x ∈ sourcePlacesBelow entries)
    (hplace : place ∈ x.2) : ∃ name rest, place = name :: rest := by
  obtain ⟨child, -, hchild⟩ := exists_child_of_mem h
  rw [hchild] at hplace
  cases place with
  | nil => exact absurd hplace (nil_not_mem_sourcePlaces child)
  | cons name rest => exact ⟨name, rest, rfl⟩

/-- The walk finds the sources in order. -/
theorem pairwise_sourcePlaces (h : e.WellNamed) : e.sourcePlaces.Pairwise Precedes := by
  induction h with
  | file content => simp [sourcePlaces]
  | @directory entries hdistinct hnames hentries ih =>
    rw [sourcePlaces, List.pairwise_append, List.pairwise_flatMap, List.pairwise_map]
    refine ⟨(pairwise_sourceNames hdistinct).imp Precedes.files, ⟨?_, ?_⟩, ?_⟩
    -- inside a subdirectory
    · intro x hx
      obtain ⟨child, hchild, hplaces⟩ := exists_child_of_mem (mem_sortBy.1 hx)
      rw [List.pairwise_map, hplaces]
      exact (ih _ hchild).imp (Precedes.inside x.1)
    -- in different subdirectories
    · refine (pairwise_sourcePlacesBelow hdistinct).imp_of_mem ?_
      intro x y hx hy hlt place hplace place' hplace'
      obtain ⟨below, hbelow, rfl⟩ := List.mem_map.1 hplace
      obtain ⟨below', hbelow', rfl⟩ := List.mem_map.1 hplace'
      obtain ⟨c, rest, rfl⟩ := exists_cons_of_mem (mem_sortBy.1 hx) hbelow
      obtain ⟨d, rest', rfl⟩ := exists_cons_of_mem (mem_sortBy.1 hy) hbelow'
      exact .directories hlt c d rest rest'
    -- in the directory itself, and in a subdirectory
    · intro place hplace place' hplace'
      obtain ⟨name, -, rfl⟩ := List.mem_map.1 hplace
      obtain ⟨x, hx, hplace'⟩ := List.mem_flatMap.1 hplace'
      obtain ⟨below, hbelow, rfl⟩ := List.mem_map.1 hplace'
      obtain ⟨c, rest, rfl⟩ := exists_cons_of_mem (mem_sortBy.1 hx) hbelow
      exact .fileBelow name x.1 c rest

/-- The walk is determined by what it has to find and in which order. -/
theorem eq_sourcePlaces_iff (h : e.WellNamed) {places : List Place} :
    places = e.sourcePlaces ↔
      (∀ place, place ∈ places ↔ e.HasSource place) ∧ places.Pairwise Precedes := by
  constructor
  · rintro rfl
    exact ⟨fun place => mem_sourcePlaces_iff h, pairwise_sourcePlaces h⟩
  · rintro ⟨hmem, horder⟩
    refine eq_of_pairwise_precedes horder (pairwise_sourcePlaces h) fun place => ?_
    rw [hmem, mem_sourcePlaces_iff h]

end Entry

/-! ## What becomes of paths -/

namespace FileSystem

/-- `fs.Walks path visits`: these are the visits that a path means. -/
inductive Walks (fs : FileSystem) (path : Text) : List Visit → Prop where
  /-- A file is visited whatever its name. -/
  | file {content : Bytes} (h : fs.entry path = .ok (.file content)) : Walks fs path [.file path]
  /-- In a directory its sources are visited, each once and in order. -/
  | directory {entries : List (Text × Entry)} {places : List Place}
      (h : fs.entry path = .ok (.directory entries))
      (hmem : ∀ place, place ∈ places ↔ (Entry.directory entries).HasSource place)
      (horder : places.Pairwise Precedes) :
      Walks fs path (places.map fun place => .file (pathBelow path place))
  /-- Of anything else there is a notice. -/
  | nothing (h : ∀ e, fs.entry path ≠ .ok e) : Walks fs path [.nothing path]

variable {fs : FileSystem} {path : Text} {entries : List (Text × Entry)} {place : Place}

theorem entry_eq_ok_iff {e : Entry} :
    fs.entry path = .ok e ↔ ∃ place, fs.locate path = .ok place ∧ fs.root.get? place = some e := by
  unfold entry
  cases fs.locate path with
  | error err => simp
  | ok place => cases hget : fs.root.get? place <;> simp [hget]

theorem wellNamed_of_entry {e : Entry} (hfs : fs.root.WellNamed) (h : fs.entry path = .ok e) :
    e.WellNamed := by
  obtain ⟨place, -, hget⟩ := entry_eq_ok_iff.1 h
  exact hfs.get? hget

/-- What a path of a directory means. -/
theorem visitsOf_directory (h : fs.entry path = .ok (.directory entries)) :
    fs.visitsOf path = (Entry.directory entries).sourcePlaces.map fun place =>
      .file (pathBelow path place) := by
  rw [visitsOf, h]
  simp only [Entry.sourceFiles_eq, List.map_map]
  rfl

/-- The visits that a path means are those that the walk makes. -/
theorem visitsOf_eq_iff (hfs : fs.root.WellNamed) {visits : List Visit} :
    fs.visitsOf path = visits ↔ fs.Walks path visits := by
  constructor
  · rintro rfl
    cases hentry : fs.entry path with
    | error err =>
      have hnothing : fs.Walks path [.nothing path] := .nothing (by simp [hentry])
      rw [visitsOf, hentry]
      exact hnothing
    | ok e =>
      cases e with
      | file content =>
        rw [visitsOf, hentry]
        exact .file hentry
      | directory entries =>
        have hwell := wellNamed_of_entry hfs hentry
        obtain ⟨hmem, horder⟩ := (Entry.eq_sourcePlaces_iff hwell).1 rfl
        rw [visitsOf_directory hentry]
        exact .directory hentry hmem horder
  · rintro (h | ⟨h, hmem, horder⟩ | h)
    · rw [visitsOf, h]
    · have hwell := wellNamed_of_entry hfs h
      rw [visitsOf_directory h, (Entry.eq_sourcePlaces_iff hwell).2 ⟨hmem, horder⟩]
    · unfold visitsOf
      split
      next heq => exact absurd heq (h _)
      next heq => exact absurd heq (h _)
      next => rfl

/-- The paths of the sources below a directory lead to them. -/
theorem exists_place_of_entry (hfs : fs.root.WellNamed)
    (h : fs.entry path = .ok (.directory entries)) :
    ∃ here, ∀ place, (Entry.directory entries).HasSource place →
      ∃ content, fs.fileAt? (pathBelow path place) = some (here ++ place, content) := by
  have hwell := wellNamed_of_entry hfs h
  obtain ⟨here, hhere, hget⟩ := entry_eq_ok_iff.1 h
  refine ⟨here, ?_⟩
  rintro place ⟨⟨content, hcontent⟩, -, -⟩
  refine ⟨content, fileAt?_eq_some_iff.2 ⟨locate_pathBelow hhere hget hwell hcontent, ?_⟩⟩
  rw [Entry.contentAt_eq_some_iff] at hcontent
  rw [contentAt, Entry.contentAt_eq_some_iff, Entry.get?_append, hget]
  exact hcontent

theorem found_directory (h : fs.entry path = .ok (.directory entries)) :
    (fs.visitsOf path).filterMap Visit.found? =
      (Entry.directory entries).sourcePlaces.map (pathBelow path) := by
  rw [visitsOf_directory h, List.filterMap_map, ← List.filterMap_eq_map]
  rfl

/-- No file below a directory is found twice. -/
theorem nodup_found (hfs : fs.root.WellNamed) (h : fs.entry path = .ok (.directory entries)) :
    ((fs.visitsOf path).filterMap Visit.found?).Nodup := by
  have hwell := wellNamed_of_entry hfs h
  obtain ⟨here, hlead⟩ := exists_place_of_entry hfs h
  rw [found_directory h]
  refine List.Nodup.map_on ?_ ((Entry.pairwise_sourcePlaces hwell).imp Precedes.ne)
  intro place hplace place' hplace' hsame
  obtain ⟨content, hcontent⟩ := hlead place ((Entry.mem_sourcePlaces_iff hwell).1 hplace)
  obtain ⟨content', hcontent'⟩ := hlead place' ((Entry.mem_sourcePlaces_iff hwell).1 hplace')
  rw [hsame, hcontent'] at hcontent
  exact (List.append_cancel_left (congrArg Prod.fst (Option.some.inj hcontent))).symm

/-- What is found is a file. -/
theorem exists_fileAt?_of_found (hfs : fs.root.WellNamed) {found : Text}
    (h : found ∈ (fs.visitsOf path).filterMap Visit.found?) :
    ∃ place content, fs.fileAt? found = some (place, content) := by
  cases hentry : fs.entry path with
  | error err => simp [visitsOf, hentry, Visit.found?] at h
  | ok e =>
    cases e with
    | file content =>
      simp only [visitsOf, hentry, Visit.found?, List.filterMap_cons, List.filterMap_nil,
        List.mem_singleton] at h
      obtain ⟨place, hplace, hget⟩ := entry_eq_ok_iff.1 hentry
      rw [h]
      exact ⟨place, content, fileAt?_eq_some_iff.2 ⟨hplace, Entry.contentAt_eq_some_iff.2 hget⟩⟩
    | directory entries =>
      have hwell := wellNamed_of_entry hfs hentry
      obtain ⟨here, hlead⟩ := exists_place_of_entry hfs hentry
      rw [found_directory hentry] at h
      obtain ⟨place, hplace, rfl⟩ := List.mem_map.1 h
      exact ⟨here ++ place, hlead place ((Entry.mem_sourcePlaces_iff hwell).1 hplace)⟩

/-- There is a notice exactly on a path that leads nowhere. -/
theorem notices_visitsOf (fs : FileSystem) (path : Text) :
    (fs.visitsOf path).filterMap Visit.notice? =
      if (fs.entry path).isOk then [] else [.notFound path] := by
  cases hentry : fs.entry path with
  | error err => simp [visitsOf, hentry, Visit.notice?, Except.isOk, Except.toBool]
  | ok e =>
    cases e with
    | file content => simp [visitsOf, hentry, Visit.notice?, Except.isOk, Except.toBool]
    | directory entries =>
      rw [visitsOf_directory hentry, List.filterMap_map]
      exact List.filterMap_eq_nil_iff.2 fun place _ => rfl

/-- A walk makes the visits that the paths mean, one path after another, in a tree with proper
names. It gives a notice on each path that leads nowhere, and on no other one. What it finds are
files, and below a directory it finds none of them twice. -/
theorem visits_iff (hfs : fs.root.WellNamed) (paths : List Text) :
    (∀ visits, fs.visits paths = visits ↔
      ∃ parts, List.Forall₂ fs.Walks paths parts ∧ parts.flatten = visits) ∧
    (fs.visits paths).filterMap Visit.notice? =
      (paths.filter fun path => !(fs.entry path).isOk).map .notFound ∧
    (∀ path entries, fs.entry path = .ok (.directory entries) →
      ((fs.visitsOf path).filterMap Visit.found?).Nodup) ∧
    ∀ path ∈ (fs.visits paths).filterMap Visit.found?,
      ∃ place content, fs.fileAt? path = some (place, content) := by
  refine ⟨?_, ?_, fun path entries => nodup_found hfs, ?_⟩
  · intro visits
    have hwalks : fs.Walks = fun path part => fs.visitsOf path = part := by
      funext path part
      exact propext (visitsOf_eq_iff hfs).symm
    rw [hwalks]
    simp only [← List.forall₂_map_left_iff, List.forall₂_eq_eq_eq, exists_eq_left',
      FileSystem.visits, List.flatMap_def]
  · rw [FileSystem.visits, List.filterMap_flatMap]
    induction paths with
    | nil => rfl
    | cons path rest ih =>
      rw [List.flatMap_cons, ih, notices_visitsOf, List.filter_cons]
      cases (fs.entry path).isOk <;> rfl
  · intro found hfound
    rw [FileSystem.visits, List.filterMap_flatMap] at hfound
    obtain ⟨path, -, hpath⟩ := List.mem_flatMap.1 hfound
    exact exists_fileAt?_of_found hfs hpath

/-- A hidden directory with sources, with other files, and with directories that are passed
over. -/
def hiddenTree : FileSystem where
  root := .filled <| [["b.py"], ["a.py"], ["a.txt"], ["sub", "c.py"], ["Sub", "d.py"],
    ["build", "e.py"], ["sub", ".git", "f.py"], ["dir.py", ".g.py"]].map
      fun place => (".src".toList :: place.map String.toList, [])

theorem visits_hiddenTree : hiddenTree.root.WellNamed ∧
    ∃ parts, List.Forall₂ hiddenTree.Walks
        ([".src/", ".src/a.txt", ".src/build", "src"].map String.toList) parts ∧
      parts.flatten =
        ([".src/a.py", ".src/b.py", ".src/Sub/d.py", ".src/dir.py/.g.py", ".src/sub/c.py",
          ".src/a.txt", ".src/build/e.py"].map fun path => .file path.toList) ++
            [.nothing "src".toList] := by
  have hnames : hiddenTree.root.WellNamed := Entry.wellNamed_filled (by decide)
  exact ⟨hnames, ((visits_iff hnames _).1 _).1 (by decide)⟩

end FileSystem

end TextDomain
