import TextDomain.Check
import TextDomain.Proofs.FileSystem.Shape
import TextDomain.Proofs.Fixing.FileName

/-!
# Checking one file

Checking a file reads it, lints or fixes its text, and writes it if the text has
changed. All of it is decided by what is in the file: `checkContent` says what
the content becomes and what is reported, and the tree is changed at the place
of the file alone.

Content that is no text, or no source, is left as it is and gives no
diagnostics. Otherwise the diagnostics are those of the text that is left in the
file, and it is written as the bytes of that text, so that whoever checks the
file again without fixing reads the same text and finds the same diagnostics.

## Main results

* `checkContent_again` — checking again without fixing finds the same.
* `content_checkContent_ne_iff` — the content changes exactly when fixing
  resolves a diagnostic.
* `Progress.checkFile_eq_checked` — checking a file is checking its content.
* `checkFile_changes_one_file` — what checking a file does to the tree.
-/

namespace TextDomain

variable {policy : Policy} {fix : Bool} {path : Text} {content : Bytes}

/-! ## The text of a file -/

/-- A text with its diagnostics, fixed or as it is. -/
def checkSource (policy : Policy) (fix : Bool) (path text : Text) : Except SourceError Fixed :=
  if fix then fixSource text policy path
  else (lint text policy path).map fun ds => ⟨text, ds, []⟩

/-- Checking a well-formed text comes to an end, with the diagnostics of the text
that it ends with. -/
theorem WellFormed.checkSource_ok {text : Text} (h : WellFormed text) (policy : Policy)
    (fix : Bool) (path : Text) :
    ∃ r, checkSource policy fix path text = .ok r ∧
      lint r.text policy path = .ok r.diagnostics := by
  obtain ⟨ds, hds⟩ := h.lint_ok policy path
  cases fix with
  | false => exact ⟨⟨text, ds, []⟩, by rw [checkSource, hds]; rfl, hds⟩
  | true =>
    obtain ⟨r, hr⟩ := h.fixSource_ok policy path
    obtain ⟨ds', hds', hrun⟩ := accepts_of_fixSource hr
    exact ⟨r, hr, hrun.lint_eq hds'⟩

theorem checkSource_of_not_wellFormed {text : Text} (h : ¬ WellFormed text) (policy : Policy)
    (fix : Bool) (path : Text) :
    ∃ e, (e = .nullByte ∨ e = .malformed) ∧ checkSource policy fix path text = .error e := by
  obtain ⟨e, he, hlint⟩ := lint_of_not_wellFormed h
  refine ⟨e, he, ?_⟩
  cases fix with
  | false => simp only [checkSource, hlint]; rfl
  | true => simp only [checkSource, fixSource, hlint]; rfl

/-! ## The content of a file -/

/-- What checking a file comes to. -/
structure Checked where
  /-- What is in the file afterwards. -/
  content : Bytes
  /-- The diagnostics. -/
  diagnostics : List Diagnostic
  /-- The notices. -/
  notices : List Notice

/-- Checks the content of the file of a path. -/
def checkContent (policy : Policy) (fix : Bool) (path : Text) (content : Bytes) : Checked :=
  match Text.decode? content with
  | none => ⟨content, [], [.unreadable path]⟩
  | some text =>
    match checkSource policy fix path text with
    | .error _ => ⟨content, [], [.unparsable path]⟩
    | .ok r => ⟨if r.text = text then content else Text.encode r.text, r.diagnostics, r.notices⟩

/-- The content is that of a source. -/
def IsSource (content : Bytes) : Prop :=
  ∃ text, Text.decode? content = some text ∧ WellFormed text

/-- Content that is no source is left alone and gives no diagnostics. -/
theorem checkContent_of_not_isSource (h : ¬ IsSource content) (policy : Policy) (fix : Bool)
    (path : Text) : (checkContent policy fix path content).content = content ∧
      (checkContent policy fix path content).diagnostics = [] := by
  unfold checkContent
  cases htext : Text.decode? content with
  | none => exact ⟨rfl, rfl⟩
  | some text =>
    have hnot : ¬ WellFormed text := fun hformed => h ⟨text, htext, hformed⟩
    obtain ⟨e, -, he⟩ := checkSource_of_not_wellFormed hnot policy fix path
    dsimp only
    rw [he]
    exact ⟨rfl, rfl⟩

/-- Without fixing, the content stays. -/
theorem content_checkContent_false (policy : Policy) (path : Text) (content : Bytes) :
    (checkContent policy false path content).content = content := by
  unfold checkContent
  cases Text.decode? content with
  | none => rfl
  | some text =>
    dsimp only
    cases hlint : lint text policy path with
    | error e => simp only [checkSource, hlint]; rfl
    | ok ds => simp only [checkSource, hlint]; exact if_pos rfl

/-- What is left in the file is the text that checking ended with. -/
theorem decode?_checkContent {text : Text} {r : Fixed} (htext : Text.decode? content = some text)
    (hr : checkSource policy fix path text = .ok r) :
    Text.decode? (checkContent policy fix path content).content = some r.text := by
  simp only [checkContent, htext, hr]
  by_cases hsame : r.text = text
  · rw [if_pos hsame, hsame]
    exact htext
  · rw [if_neg hsame]
    exact Text.decode?_encode r.text

/-- Checking again without fixing finds the same diagnostics. -/
theorem checkContent_again (policy : Policy) (fix : Bool) (path : Text) (content : Bytes) :
    (checkContent policy false path (checkContent policy fix path content).content).diagnostics =
      (checkContent policy fix path content).diagnostics := by
  by_cases h : IsSource content
  · obtain ⟨text, htext, hformed⟩ := h
    obtain ⟨r, hr, hlint⟩ := hformed.checkSource_ok policy fix path
    have hfound : (checkContent policy fix path content).diagnostics = r.diagnostics := by
      simp only [checkContent, htext, hr]
    have hleft := decode?_checkContent htext hr
    rw [hfound]
    generalize (checkContent policy fix path content).content = left at hleft
    simp only [checkContent, hleft, checkSource, hlint]
    rfl
  · obtain ⟨hsame, hnone⟩ := checkContent_of_not_isSource h policy fix path
    rw [hsame, hnone, (checkContent_of_not_isSource h policy false path).2]

/-- Fixing a source is a run of accepted passes over its text, and changes the
content exactly when it changes the text. -/
theorem IsSource.exists_accepts (h : IsSource content) (policy : Policy) (path : Text) :
    ∃ text ds r, Text.decode? content = some text ∧ lint text policy path = .ok ds ∧
      checkSource policy true path text = .ok r ∧
      Accepts policy path text ds r.text r.diagnostics ∧
      ((checkContent policy true path content).content ≠ content ↔ r.text ≠ text) := by
  obtain ⟨text, htext, hformed⟩ := h
  obtain ⟨r, hr⟩ := hformed.fixSource_ok policy path
  obtain ⟨ds, hlint, hrun⟩ := accepts_of_fixSource hr
  have hcheck : checkSource policy true path text = .ok r := hr
  refine ⟨text, ds, r, htext, hlint, hcheck, hrun, ?_⟩
  simp only [checkContent, htext, hcheck]
  by_cases hsame : r.text = text
  · simp [hsame]
  · -- Two texts that differ are not read from the same bytes.
    have hne : Text.encode r.text ≠ content := by
      intro heq
      rw [← heq, Text.decode?_encode] at htext
      exact hsame (Option.some.inj htext)
    simp [hsame, hne]

/-- Fixing changes the content exactly when the file is a source and there are
fewer diagnostics than without fixing. -/
theorem content_checkContent_ne_iff (policy : Policy) (path : Text) (content : Bytes) :
    (checkContent policy true path content).content ≠ content ↔
      IsSource content ∧ (checkContent policy true path content).diagnostics.length <
        (checkContent policy false path content).diagnostics.length := by
  by_cases h : IsSource content
  · obtain ⟨text, ds, r, htext, hlint, hr, hrun, hchanged⟩ := h.exists_accepts policy path
    have hfixed : (checkContent policy true path content).diagnostics = r.diagnostics := by
      simp only [checkContent, htext, hr]
    have hfound : (checkContent policy false path content).diagnostics = ds := by
      simp only [checkContent, htext, checkSource, hlint]
      rfl
    rw [hfixed, hfound, hchanged, hrun.text_ne_iff hlint]
    exact (and_iff_right h).symm
  · obtain ⟨hsame, -⟩ := checkContent_of_not_isSource h policy true path
    constructor
    · intro hne
      exact absurd hsame hne
    · intro hsource
      exact absurd hsource.1 h

/-- Under another path the same becomes of the content, and the diagnostics are
the same but for the name of the file. -/
theorem checkContent_inFile (policy : Policy) (fix : Bool) (path path' : Text) (content : Bytes) :
    (checkContent policy fix path' content).content =
        (checkContent policy fix path content).content ∧
      (checkContent policy fix path' content).diagnostics =
        (checkContent policy fix path content).diagnostics.map (Diagnostic.inFile path') := by
  have hsource : ∀ text, checkSource policy fix path' text =
      (checkSource policy fix path text).map (Fixed.inFile path') := by
    intro text
    cases fix with
    | true => exact fixSource_inFile path path' text
    | false =>
      simp only [checkSource]
      rw [lint_inFile path]
      cases lint text policy path <;> rfl
  unfold checkContent
  cases Text.decode? content with
  | none => exact ⟨rfl, rfl⟩
  | some text =>
    simp only [hsource]
    cases checkSource policy fix path text with
    | error e => exact ⟨rfl, rfl⟩
    | ok r => exact ⟨rfl, rfl⟩

/-! ## The file of a path -/

namespace Progress

variable {p : Progress} {place : Place}

/-- Takes in what checking the file at a place came to. -/
def settle (p : Progress) (place : Place) (c : Checked) : Progress where
  files := p.files.withContent place c.content
  diagnostics := p.diagnostics ++ c.diagnostics
  notices := p.notices ++ c.notices

/-- Takes in what checking the file of a path comes to. -/
def checked (policy : Policy) (fix : Bool) (path : Text) (p : Progress) : Progress :=
  match p.files.fileAt? path with
  | none => p.note (.unreadable path)
  | some (place, content) => p.settle place (checkContent policy fix path content)

theorem checked_of_none (h : p.files.fileAt? path = none) :
    p.checked policy fix path = p.note (.unreadable path) := by
  simp only [checked, h]

theorem checked_of_some (h : p.files.fileAt? path = some (place, content)) :
    p.checked policy fix path = p.settle place (checkContent policy fix path content) := by
  simp only [checked, h]

/-- The text of a file is checked and written back as its content is. -/
theorem checkText_eq_settle {text : Text} (policy : Policy) (fix : Bool)
    (hfile : p.files.fileAt? path = some (place, content))
    (htext : Text.decode? content = some text) :
    p.checkText policy fix path text =
      .ok (p.settle place (checkContent policy fix path content)) := by
  obtain ⟨hplace, hcontent⟩ := FileSystem.fileAt?_eq_some_iff.1 hfile
  have hself := FileSystem.withContent_self hcontent
  simp only [checkContent, htext]
  by_cases hformed : WellFormed text
  · obtain ⟨r, hr, -⟩ := hformed.checkSource_ok policy fix path
    rw [hr]
    rw [checkSource] at hr
    simp only [checkText, hr]
    by_cases hsame : r.text = text
    · simp only [hsame, if_true, settle, hself, report]
    · have hwrite := FileSystem.write_eq_ok hplace hcontent (Text.encode r.text)
      simp only [hsame, if_false, settle, replaceText, hwrite, report]
  · obtain ⟨e, he, herror⟩ := checkSource_of_not_wellFormed hformed policy fix path
    rw [herror]
    rw [checkSource] at herror
    rcases he with rfl | rfl
    · simp only [checkText, herror, settle, note, hself, List.append_nil]
    · simp only [checkText, herror, settle, note, hself, List.append_nil]

/-- Checking a file is checking its content. It never fails. -/
theorem checkFile_eq_checked (policy : Policy) (fix : Bool) (path : Text) (p : Progress) :
    p.checkFile policy fix path = .ok (p.checked policy fix path) := by
  cases hfile : p.files.fileAt? path with
  | none =>
    obtain ⟨e, he⟩ := FileSystem.read_of_fileAt?_eq_none hfile
    simp only [checked_of_none hfile, checkFile, he]
  | some found =>
    obtain ⟨place, content⟩ := found
    have hread := FileSystem.read_of_fileAt?_eq_some hfile
    simp only [checked_of_some hfile, checkFile, hread]
    cases htext : Text.decode? content with
    | some text => exact checkText_eq_settle policy fix hfile htext
    | none =>
      have hself := FileSystem.withContent_self (FileSystem.fileAt?_eq_some_iff.1 hfile).2
      simp only [checkContent, htext, settle, note, hself, List.append_nil]

/-- Without fixing, no file is changed. -/
theorem files_checked_false (policy : Policy) (path : Text) (p : Progress) :
    (p.checked policy false path).files = p.files := by
  cases hfile : p.files.fileAt? path with
  | none =>
    rw [checked_of_none hfile]
    rfl
  | some found =>
    obtain ⟨place, content⟩ := found
    rw [checked_of_some hfile, settle, content_checkContent_false]
    exact FileSystem.withContent_self (FileSystem.fileAt?_eq_some_iff.1 hfile).2

/-- No file is changed but that of the path. -/
theorem contentAt_checked_of_ne (h : p.files.locate path ≠ .ok place) :
    (p.checked policy fix path).files.contentAt place = p.files.contentAt place := by
  cases hfile : p.files.fileAt? path with
  | none =>
    rw [checked_of_none hfile]
    rfl
  | some found =>
    obtain ⟨other, content⟩ := found
    obtain ⟨hother, hcontent⟩ := FileSystem.fileAt?_eq_some_iff.1 hfile
    have hne : place ≠ other := by
      rintro rfl
      exact h hother
    rw [checked_of_some hfile]
    exact FileSystem.contentAt_withContent_of_ne hcontent hne _

/-- The file of the path is left with what checking its content came to. -/
theorem fileAt?_checked (policy : Policy) (fix : Bool) (path : Text) (p : Progress) :
    (p.checked policy fix path).files.fileAt? path =
      (p.files.fileAt? path).map (Prod.map id fun content =>
        (checkContent policy fix path content).content) := by
  cases hfile : p.files.fileAt? path with
  | none =>
    rw [checked_of_none hfile]
    exact hfile
  | some found =>
    obtain ⟨place, content⟩ := found
    obtain ⟨hplace, hcontent⟩ := FileSystem.fileAt?_eq_some_iff.1 hfile
    rw [checked_of_some hfile]
    apply FileSystem.fileAt?_eq_some_iff.2
    constructor
    · exact (FileSystem.locate_withContent hcontent _ path).trans hplace
    · exact FileSystem.contentAt_withContent_self hcontent _

/-- The diagnostics of the file of a path. -/
theorem diagnostics_checked : (p.checked policy fix path).diagnostics =
    p.diagnostics ++ match p.files.fileAt? path with
      | none => []
      | some (_, content) => (checkContent policy fix path content).diagnostics := by
  cases hfile : p.files.fileAt? path with
  | none =>
    rw [checked_of_none hfile]
    exact (List.append_nil _).symm
  | some found =>
    rw [checked_of_some hfile]
    rfl

/-- Checking the file again without fixing finds the same diagnostics. -/
theorem diagnostics_checked_again {q : Progress}
    (hfiles : q.files = (p.checked policy fix path).files) (hfound : q.diagnostics = p.diagnostics) :
    (q.checked policy false path).diagnostics = (p.checked policy fix path).diagnostics := by
  rw [diagnostics_checked, diagnostics_checked, hfiles, fileAt?_checked, hfound]
  cases p.files.fileAt? path with
  | none => rfl
  | some found => exact congrArg (p.diagnostics ++ ·) (checkContent_again policy fix path found.2)

end Progress

/-! ## What checking a file does -/

/-- The file of a path can be read, and a source is in it. -/
def FileSystem.HoldsSource (files : FileSystem) (path : Text) : Prop :=
  ∃ content, files.read path = .ok content ∧ IsSource content

namespace FileSystem

variable {files : FileSystem} {place : Place}

theorem holdsSource_iff_of_some (h : files.fileAt? path = some (place, content)) :
    files.HoldsSource path ↔ IsSource content := by
  simp only [HoldsSource, read_of_fileAt?_eq_some h, Except.ok.injEq, exists_eq_left']

theorem not_holdsSource_of_none (h : files.fileAt? path = none) : ¬ files.HoldsSource path := by
  obtain ⟨e, he⟩ := read_of_fileAt?_eq_none h
  rintro ⟨content, hcontent, -⟩
  rw [he] at hcontent
  cases hcontent

end FileSystem

namespace Progress

variable {p : Progress}

/-- Fixing changes the file exactly if it is a source and there are fewer
diagnostics than without fixing. -/
theorem read_checked_ne_iff : (p.checked policy true path).files.read path ≠ p.files.read path ↔
    p.files.HoldsSource path ∧ (p.checked policy true path).diagnostics.length <
      (p.checked policy false path).diagnostics.length := by
  cases hfile : p.files.fileAt? path with
  | none =>
    have hnot := FileSystem.not_holdsSource_of_none hfile
    rw [checked_of_none hfile]
    simp [note, hnot]
  | some found =>
    obtain ⟨place, content⟩ := found
    have hleft := fileAt?_checked policy true path p
    rw [hfile] at hleft
    rw [FileSystem.read_of_fileAt?_eq_some hleft, FileSystem.read_of_fileAt?_eq_some hfile,
      FileSystem.holdsSource_iff_of_some hfile, checked_of_some hfile, checked_of_some hfile]
    simp only [settle, List.length_append, Nat.add_lt_add_iff_left, ne_eq, Except.ok.injEq]
    exact content_checkContent_ne_iff policy path content

/-- A file that is no source has no diagnostics and stays as it is. -/
theorem checked_of_not_holdsSource (h : ¬ p.files.HoldsSource path) :
    (p.checked policy fix path).diagnostics = p.diagnostics ∧
      (p.checked policy fix path).files = p.files := by
  cases hfile : p.files.fileAt? path with
  | none =>
    rw [checked_of_none hfile]
    exact ⟨rfl, rfl⟩
  | some found =>
    obtain ⟨place, content⟩ := found
    rw [FileSystem.holdsSource_iff_of_some hfile] at h
    obtain ⟨hsame, hnone⟩ := checkContent_of_not_isSource h policy fix path
    have hcontent := (FileSystem.fileAt?_eq_some_iff.1 hfile).2
    rw [checked_of_some hfile]
    simp only [settle, hsame, hnone, List.append_nil, true_and]
    exact FileSystem.withContent_self hcontent

end Progress

/-- Checking a file without fixing changes no file. With fixing, no file but that
of the path is changed, and that one exactly if it is a source and has fewer
diagnostics left than it had. A file that is no source, or cannot be read, has
no diagnostics and stays as it is. In every case, checking the file again
without fixing finds what fixing said was left. -/
theorem checkFile_changes_one_file (files : FileSystem) (policy : Policy) (path : Text) :
    ∃ found fixed again : Progress,
      Progress.checkFile policy false path { files := files } = .ok found ∧
      Progress.checkFile policy true path { files := files } = .ok fixed ∧
      Progress.checkFile policy false path { files := fixed.files } = .ok again ∧
      found.files = files ∧
      (∀ place, files.locate path ≠ .ok place →
        fixed.files.contentAt place = files.contentAt place) ∧
      (fixed.files.read path ≠ files.read path ↔
        files.HoldsSource path ∧ fixed.diagnostics.length < found.diagnostics.length) ∧
      (¬ files.HoldsSource path → fixed.diagnostics = [] ∧ fixed.files = files) ∧
      again.diagnostics = fixed.diagnostics ∧ again.files = fixed.files := by
  have hcheck := Progress.checkFile_eq_checked policy
  refine ⟨_, _, _, hcheck false path _, hcheck true path _, hcheck false path _, ?_, ?_, ?_, ?_,
    ?_, ?_⟩
  · exact Progress.files_checked_false policy path _
  · intro place hplace
    exact Progress.contentAt_checked_of_ne hplace
  · exact Progress.read_checked_ne_iff
  · intro hnot
    exact Progress.checked_of_not_holdsSource hnot
  · exact Progress.diagnostics_checked_again rfl rfl
  · exact Progress.files_checked_false policy path _

end TextDomain
