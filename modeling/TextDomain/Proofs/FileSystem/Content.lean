import TextDomain.FileSystem.Basic

/-!
# What is in the files

Of a tree with files at its leaves, one may ask what the file at a place holds.
Writing over a file answers that question anew at its own place and leaves it
alone everywhere else. Two writes at different places can change order, because
either of them finds the way of the other one as it was; a write of what is
there already does nothing.

A path reads what is at the place that it leads to, and a file that can be read
is written where it is read. Nothing here is about paths that create a file.

## Main results

* `Entry.contentAt_put_of_ne` — writing over a file changes no other one.
* `Entry.put_comm` — two files can be written over in either order.
* `FileSystem.read_eq_ok_iff` — a path reads the content of its place.
* `FileSystem.write_eq_ok` — and writes there.
-/

namespace TextDomain

namespace Entry

/-! ## Named entries -/

theorem lookup_alter_of_ne {name other : Text} (h : other ≠ name) (f : Entry → Entry)
    (entries : List (Text × Entry)) :
    (alter name f entries).lookup other = entries.lookup other := by
  have hother : (other == name) = false := beq_eq_false_iff_ne.2 h
  induction entries with
  | nil => simp [alter, List.lookup_cons, hother]
  | cons x rest ih =>
    obtain ⟨n, e⟩ := x
    simp only [alter]
    cases hn : name == n with
    | true =>
      obtain rfl := eq_of_beq hn
      simp [List.lookup_cons, hother]
    | false => simp [List.lookup_cons, ih]

theorem alter_alter (name : Text) (f g : Entry → Entry) (entries : List (Text × Entry)) :
    alter name f (alter name g entries) = alter name (f ∘ g) entries := by
  induction entries with
  | nil => simp [alter]
  | cons x rest ih =>
    obtain ⟨n, e⟩ := x
    cases hn : name == n with
    | true => simp [alter, hn]
    | false => simp [alter, hn, ih]

/-- Entries of two names that are there can be changed in either order. Names
that are missing could not: they are added in the order of the changes. -/
theorem alter_comm {name other : Text} (h : other ≠ name) (f g : Entry → Entry)
    {entries : List (Text × Entry)} (hname : (entries.lookup name).isSome)
    (hother : (entries.lookup other).isSome) :
    alter name f (alter other g entries) = alter other g (alter name f entries) := by
  induction entries with
  | nil => cases hname
  | cons x rest ih =>
    obtain ⟨n, e⟩ := x
    by_cases hn : name = n
    · subst hn
      simp [alter, h]
    · by_cases ho : other = n
      · subst ho
        simp [alter, hn]
      · have hnb : (name == n) = false := beq_eq_false_iff_ne.2 hn
        have hob : (other == n) = false := beq_eq_false_iff_ne.2 ho
        simp only [List.lookup_cons, hnb, hob] at hname hother
        simp [alter, hnb, hob, ih hname hother]

/-- A change of a name depends on what it does to the entry of that name. -/
theorem alter_congr {name : Text} {f g : Entry → Entry} {entries : List (Text × Entry)} {e : Entry}
    (hname : entries.lookup name = some e) (h : f e = g e) :
    alter name f entries = alter name g entries := by
  induction entries with
  | nil => cases hname
  | cons x rest ih =>
    obtain ⟨n, e'⟩ := x
    rw [List.lookup_cons] at hname
    cases hn : name == n with
    | true =>
      rw [hn] at hname
      obtain rfl := Option.some.inj hname
      simp [alter, hn, h]
    | false =>
      rw [hn] at hname
      simp [alter, hn, ih hname]

/-- What a change keeps of the entry of its name, it keeps of all entries. -/
theorem map_alter {α : Type} {name : Text} {f : Entry → Entry} (view : Entry → α)
    {entries : List (Text × Entry)} {e : Entry} (hname : entries.lookup name = some e)
    (h : view (f e) = view e) :
    (alter name f entries).map (Prod.map id view) = entries.map (Prod.map id view) := by
  induction entries with
  | nil => cases hname
  | cons x rest ih =>
    obtain ⟨n, e'⟩ := x
    rw [List.lookup_cons] at hname
    cases hn : name == n with
    | true =>
      rw [hn] at hname
      obtain rfl := Option.some.inj hname
      simp [alter, hn, h]
    | false =>
      rw [hn] at hname
      simp [alter, hn, ih hname]

/-! ## The content at a place -/

/-- The content of the file at a place. -/
def contentAt (place : Place) (e : Entry) : Option Bytes :=
  match e.get? place with
  | some (.file content) => some content
  | _ => none

theorem contentAt_eq_some_iff {place : Place} {e : Entry} {content : Bytes} :
    e.contentAt place = some content ↔ e.get? place = some (.file content) := by
  unfold contentAt
  split
  next content' h =>
    rw [h]
    simp
  next h =>
    constructor
    · intro h'
      cases h'
    · intro h'
      exact absurd h' (h content)

theorem contentAt_cons_directory (name : Text) (rest : Place) (entries : List (Text × Entry)) :
    (directory entries).contentAt (name :: rest) =
      (entries.lookup name).bind (contentAt rest) := by
  simp only [contentAt, get?, child?]
  cases entries.lookup name <;> rfl

/-- The way to a file leads through a directory. -/
theorem exists_entries_of_contentAt {name : Text} {rest : Place} {e : Entry} {content : Bytes}
    (h : e.contentAt (name :: rest) = some content) :
    ∃ entries child, e = directory entries ∧ entries.lookup name = some child ∧
      child.contentAt rest = some content := by
  cases e with
  | file _ => cases h
  | directory entries =>
    rw [contentAt_cons_directory] at h
    obtain ⟨child, hchild, hcontent⟩ := Option.bind_eq_some_iff.1 h
    exact ⟨entries, child, rfl, hchild, hcontent⟩

/-! ## Writing over a file -/

variable {place other : Place} {e : Entry} {content content' : Bytes}

theorem contentAt_put_self (h : e.contentAt place = some content) (new : Bytes) :
    (e.put place (file new)).contentAt place = some new := by
  induction place generalizing e with
  | nil => rfl
  | cons name rest ih =>
    obtain ⟨entries, child, rfl, hname, hchild⟩ := exists_entries_of_contentAt h
    simp only [put, contentAt_cons_directory, lookup_alter, hname, Option.getD_some,
      Option.bind_some]
    exact ih hchild

/-- A file that is put where no directory is changes the content of no other file,
whether there was one before or not. -/
theorem contentAt_put_of_not_directory
    (hfree : ∀ entries, e.get? place ≠ some (directory entries)) (hne : other ≠ place)
    (new : Bytes) : (e.put place (file new)).contentAt other = e.contentAt other := by
  induction place generalizing e other with
  | nil =>
    cases other with
    | nil => exact absurd rfl hne
    | cons name rest =>
      cases e with
      | file _ => rfl
      | directory entries => exact absurd rfl (hfree entries)
  | cons name rest ih =>
    cases e with
    | file _ => rfl
    | directory entries =>
      cases other with
      | nil => rfl
      | cons name' rest' =>
        simp only [put, contentAt_cons_directory]
        by_cases hsame : name' = name
        · subst hsame
          have hrest : rest' ≠ rest := fun heq => hne (by rw [heq])
          rw [lookup_alter]
          cases hname : entries.lookup name' with
          | some child =>
            apply ih _ hrest
            intro entries'
            have hfree' := hfree entries'
            rw [get?, child?, hname] at hfree'
            exact hfree'
          | none =>
            -- The file stands in a directory that was not there before.
            cases rest with
            | nil =>
              cases rest' with
              | nil => exact absurd rfl hrest
              | cons _ _ => rfl
            | cons next more =>
              have hempty : ∀ p : Place, (directory []).contentAt p = none := by
                intro p
                cases p <;> rfl
              exact (ih (by simp [get?, child?]) hrest).trans (hempty rest')
        · rw [lookup_alter_of_ne hsame]

/-- Writing over a file changes the content of no other file. -/
theorem contentAt_put_of_ne (h : e.contentAt place = some content) (hne : other ≠ place)
    (new : Bytes) : (e.put place (file new)).contentAt other = e.contentAt other := by
  apply contentAt_put_of_not_directory _ hne
  intro entries hget
  rw [contentAt_eq_some_iff.1 h] at hget
  cases hget

/-- Writing what is there already does nothing. -/
theorem put_eq_self (h : e.contentAt place = some content) : e.put place (file content) = e := by
  induction place generalizing e with
  | nil => exact (Option.some.inj (contentAt_eq_some_iff.1 h)).symm
  | cons name rest ih =>
    obtain ⟨entries, child, rfl, hname, hchild⟩ := exists_entries_of_contentAt h
    have hentries := map_alter (f := fun c => c.put rest (file content)) id hname (ih hchild)
    rw [Prod.map_id, List.map_id, List.map_id] at hentries
    rw [put, hentries]

/-- Two files can be written over in either order. -/
theorem put_comm (h : e.contentAt place = some content) (h' : e.contentAt other = some content')
    (hne : other ≠ place) (new new' : Bytes) :
    (e.put other (file new')).put place (file new) =
      (e.put place (file new)).put other (file new') := by
  induction place generalizing e other with
  | nil =>
    cases other with
    | nil => exact absurd rfl hne
    | cons name rest =>
      obtain ⟨entries, child, rfl, -, -⟩ := exists_entries_of_contentAt h'
      cases h
  | cons name rest ih =>
    obtain ⟨entries, child, rfl, hname, hchild⟩ := exists_entries_of_contentAt h
    cases other with
    | nil => cases h'
    | cons name' rest' =>
      rw [contentAt_cons_directory] at h'
      obtain ⟨child', hname', hchild'⟩ := Option.bind_eq_some_iff.1 h'
      simp only [put]
      by_cases hsame : name' = name
      · subst hsame
        rw [hname] at hname'
        obtain rfl := Option.some.inj hname'
        have hrest : rest' ≠ rest := fun heq => hne (by rw [heq])
        rw [alter_alter, alter_alter]
        exact congrArg directory (alter_congr hname (ih hchild hchild' hrest))
      · have hfound : (entries.lookup name).isSome := Option.isSome_of_eq_some hname
        have hfound' : (entries.lookup name').isSome := Option.isSome_of_eq_some hname'
        rw [alter_comm hsame _ _ hfound hfound']

end Entry

/-! ## Reading and writing by path -/

namespace FileSystem

/-- The content of the file at a place. -/
def contentAt (fs : FileSystem) (place : Place) : Option Bytes := fs.root.contentAt place

/-- The files with another content at a place. -/
def withContent (fs : FileSystem) (place : Place) (content : Bytes) : FileSystem :=
  { fs with root := fs.root.put place (.file content) }

variable {fs : FileSystem} {path : Text} {place other : Place} {content content' : Bytes}

theorem contentAt_withContent_self (h : fs.contentAt place = some content) (new : Bytes) :
    (fs.withContent place new).contentAt place = some new :=
  Entry.contentAt_put_self h new

theorem contentAt_withContent_of_ne (h : fs.contentAt place = some content) (hne : other ≠ place)
    (new : Bytes) : (fs.withContent place new).contentAt other = fs.contentAt other :=
  Entry.contentAt_put_of_ne h hne new

theorem withContent_self (h : fs.contentAt place = some content) :
    fs.withContent place content = fs := by
  rw [withContent, Entry.put_eq_self h]

theorem withContent_comm (h : fs.contentAt place = some content)
    (h' : fs.contentAt other = some content') (hne : other ≠ place) (new new' : Bytes) :
    (fs.withContent other new').withContent place new =
      (fs.withContent place new).withContent other new' := by
  simp only [withContent, Entry.put_comm h h' hne new new']

/-- A path reads the content of the place that it leads to. -/
theorem read_eq_ok_iff : fs.read path = .ok content ↔
    ∃ place, fs.locate path = .ok place ∧ fs.contentAt place = some content := by
  have hcontent : ∀ place, fs.contentAt place = some content ↔
      fs.root.get? place = some (.file content) := fun _ => Entry.contentAt_eq_some_iff
  simp only [hcontent, read, entry]
  cases fs.locate path with
  | error e => simp
  | ok place =>
    cases hget : fs.root.get? place with
    | none => simp [hget]
    | some e => cases e <;> simp [hget]

/-- The place of the file that a path leads to, with what is in it. -/
def fileAt? (fs : FileSystem) (path : Text) : Option (Place × Bytes) :=
  (fs.locate path).toOption.bind fun place =>
    (fs.contentAt place).map fun content => (place, content)

theorem fileAt?_eq_some_iff : fs.fileAt? path = some (place, content) ↔
    fs.locate path = .ok place ∧ fs.contentAt place = some content := by
  unfold fileAt?
  cases fs.locate path with
  | error e => simp [Except.toOption]
  | ok place' =>
    simp only [Except.toOption, Option.bind_some, Option.map_eq_some_iff, Prod.mk.injEq,
      Except.ok.injEq]
    constructor
    · rintro ⟨_, hcontent, rfl, rfl⟩
      exact ⟨rfl, hcontent⟩
    · rintro ⟨rfl, hcontent⟩
      exact ⟨content, hcontent, rfl, rfl⟩

theorem read_of_fileAt?_eq_some (h : fs.fileAt? path = some (place, content)) :
    fs.read path = .ok content :=
  read_eq_ok_iff.2 ⟨place, fileAt?_eq_some_iff.1 h⟩

theorem read_of_fileAt?_eq_none (h : fs.fileAt? path = none) : ∃ e, fs.read path = .error e := by
  cases hread : fs.read path with
  | error e => exact ⟨e, rfl⟩
  | ok content =>
    obtain ⟨place, hfile⟩ := read_eq_ok_iff.1 hread
    rw [fileAt?_eq_some_iff.2 hfile] at h
    cases h

theorem follow_append (root : Entry) (here : Place) (names more : List Text) :
    follow root here (names ++ more) =
      (follow root here names).bind fun there => follow root there more := by
  induction names generalizing here with
  | nil => rfl
  | cons name rest ih =>
    simp only [List.cons_append, follow]
    cases root.get? here with
    | none => rfl
    | some e =>
      cases e with
      | file _ => rfl
      | directory _ =>
        dsimp only
        split
        · exact ih here
        · split
          · exact ih _
          · exact ih _

/-- A path that leads to a file does not end in a slash. -/
theorem getLast?_ne_nil_of_follow {here : Place} {names : List Text}
    (h : follow fs.root here names = .ok place) (hfile : fs.contentAt place = some content) :
    names.getLast? ≠ some [] := by
  intro hlast
  obtain ⟨init, rfl⟩ := List.getLast?_eq_some_iff.1 hlast
  rw [follow_append] at h
  cases hinit : follow fs.root here init with
  | error e =>
    rw [hinit] at h
    cases h
  | ok there =>
    -- The empty component behind the slash stays where a directory has to be.
    rw [hinit] at h
    replace h : follow fs.root there [[]] = .ok place := h
    have hget := Entry.contentAt_eq_some_iff.1 hfile
    simp only [follow, true_or, if_true] at h
    split at h
    next => cases h
    next => cases h
    next entries hthere =>
      obtain rfl := Except.ok.inj h
      rw [hthere] at hget
      cases hget

/-- No directory is where a file can be written. -/
theorem get?_of_target (h : fs.target path = .ok place) (entries : List (Text × Entry)) :
    fs.root.get? place ≠ some (.directory entries) := by
  intro hget
  simp only [target] at h
  split at h
  next => cases h
  next =>
    split at h
    next => cases h
    next place' _ =>
      split at h
      next => cases h
      next =>
        split at h
        next => cases h
        next hnot =>
          obtain rfl := Except.ok.inj h
          exact hnot entries hget

/-- Writing a file, which may not have been there before, changes no other one. -/
theorem contentAt_write_of_ne {fs' : FileSystem} (h : fs.write path content = .ok fs')
    (hne : fs.target path ≠ .ok other) : fs'.contentAt other = fs.contentAt other := by
  unfold write at h
  cases htarget : fs.target path with
  | error e =>
    rw [htarget] at h
    cases h
  | ok place =>
    rw [htarget] at h hne
    obtain rfl := Except.ok.inj h
    have hother : other ≠ place := fun heq => hne (by rw [heq])
    exact Entry.contentAt_put_of_not_directory (get?_of_target htarget) hother _

/-- A file is written where it is read. -/
theorem write_eq_ok (hplace : fs.locate path = .ok place)
    (hfile : fs.contentAt place = some content) (new : Bytes) :
    fs.write path new = .ok (fs.withContent place new) := by
  unfold locate at hplace
  by_cases hempty : path.isEmpty = true
  · rw [if_pos hempty] at hplace
    cases hplace
  · rw [if_neg hempty] at hplace
    have hlast := getLast?_ne_nil_of_follow hplace hfile
    have hkept : ((Text.cutAt '/' path).reverse.dropWhile List.isEmpty).reverse =
        Text.cutAt '/' path := by
      rw [List.reverse_eq_iff]
      rw [← List.head?_reverse] at hlast
      cases hrev : (Text.cutAt '/' path).reverse with
      | nil => rfl
      | cons last init =>
        rw [hrev] at hlast
        have hne : last.isEmpty = false := by
          cases last with
          | nil => exact absurd rfl hlast
          | cons _ _ => rfl
        simp [hne]
    have htarget : fs.target path = .ok place := by
      have hget := Entry.contentAt_eq_some_iff.1 hfile
      simp only [target, hkept, hplace, hget]
      rw [if_neg hempty, if_neg (Nat.lt_irrefl _)]
    rw [write, htarget]
    rfl

end FileSystem

end TextDomain
