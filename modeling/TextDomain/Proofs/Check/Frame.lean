import TextDomain.Proofs.Check.Run

/-!
# What a run changes

A run whose configuration is wrong does nothing but say so. Any other run makes
its visits, one after another, each in the tree that those before it left, and
then writes the diagnostics of all of them. So two things can change a file:
fixing it on a visit, or writing the diagnostics to it.

Fixing writes a file only for the sake of fewer diagnostics. However often the
file is visited, under whatever names, what is left in it is a source with fewer
diagnostics than what was in it, or it is what was in it.

## Main results

* `exists_checks_foldl_visit` — visits are checks of files, one after another.
* `Checks.improves` — a file that checking changes is a better one.
* `run_changes` — the exit code of a run, and the files that it can change.
-/

namespace TextDomain

open CommandLine (Request)

variable {policy : Policy} {fix : Bool} {files left : FileSystem} {visits : List Visit}
  {found : List (List Diagnostic)} {place : Place} {content content' : Bytes} {path : Text}

/-! ## Better content -/

/-- Both contents are those of sources, and the second source has fewer
diagnostics than the first, whatever the file is called. -/
def Improves (policy : Policy) (content content' : Bytes) : Prop :=
  ∃ text text', Text.decode? content = some text ∧ Text.decode? content' = some text' ∧
    WellFormed text' ∧ ∀ file, ∃ ds ds', lint text policy file = .ok ds ∧
      lint text' policy file = .ok ds' ∧ ds'.length < ds.length

theorem Improves.trans {content'' : Bytes} (h : Improves policy content content')
    (h' : Improves policy content' content'') : Improves policy content content'' := by
  obtain ⟨text, middle, htext, hmiddle, -, hfewer⟩ := h
  obtain ⟨middle', text'', hmiddle', htext'', hformed, hfewer'⟩ := h'
  obtain rfl : middle = middle' := Option.some.inj (hmiddle.symm.trans hmiddle')
  refine ⟨text, text'', htext, htext'', hformed, ?_⟩
  intro file
  obtain ⟨ds, ds₁, hds, hds₁, hlt⟩ := hfewer file
  obtain ⟨ds₂, ds'', hds₂, hds'', hlt'⟩ := hfewer' file
  obtain rfl : ds₁ = ds₂ := Except.ok.inj (hds₁.symm.trans hds₂)
  exact ⟨ds, ds'', hds, hds'', Nat.lt_trans hlt' hlt⟩

/-- Content that checking changes becomes a better one. -/
theorem improves_of_checkContent (h : (checkContent policy fix path content).content ≠ content) :
    Improves policy content (checkContent policy fix path content).content := by
  cases fix with
  | false => exact absurd (content_checkContent_false policy path content) h
  | true =>
    have hsource : IsSource content := by
      by_contra hnot
      exact h (checkContent_of_not_isSource hnot policy true path).1
    obtain ⟨text, ds, r, htext, hds, hr, hrun, hchanged⟩ := hsource.exists_accepts policy path
    have hleft := hrun.lint_eq hds
    have hfewer := (hrun.text_ne_iff hds).1 (hchanged.1 h)
    refine ⟨text, r.text, htext, decode?_checkContent htext hr, wellFormed_of_lint hleft, ?_⟩
    intro file
    refine ⟨ds.map (.inFile file), r.diagnostics.map (.inFile file), ?_, ?_, ?_⟩
    · rw [lint_inFile path, hds]
      rfl
    · rw [lint_inFile path, hleft]
      rfl
    · rw [List.length_map, List.length_map]
      exact hfewer

/-- Where a file was, checking leaves what was in it or a better content. -/
theorem Progress.exists_contentAt_checked (policy : Policy) (fix : Bool) (path : Text)
    {p : Progress} (h : p.files.contentAt place = some content) :
    ∃ content', (p.checked policy fix path).files.contentAt place = some content' ∧
      (content' = content ∨ Improves policy content content') := by
  by_cases hplace : p.files.locate path = .ok place
  · rw [checked_of_some (FileSystem.fileAt?_eq_some_iff.2 ⟨hplace, h⟩)]
    refine ⟨_, FileSystem.contentAt_withContent_self h _, ?_⟩
    by_cases hsame : (checkContent policy fix path content).content = content
    · exact .inl hsame
    · exact .inr (improves_of_checkContent hsame)
  · exact ⟨content, (contentAt_checked_of_ne hplace).trans h, .inl rfl⟩

/-! ## Files checked one after another -/

/-- Visits made in their order, with the diagnostics that each check of a file
finds, and the files that are left. Each file is checked as those before it left
it; a path that leads nowhere has no result. -/
inductive Checks (policy : Policy) (fix : Bool) :
    FileSystem → List Visit → List (List Diagnostic) → FileSystem → Prop
  /-- There is nothing to visit. -/
  | done (files : FileSystem) : Checks policy fix files [] [] files
  /-- A path leads nowhere. -/
  | nothing {files left : FileSystem} {path : Text} {rest : List Visit}
      {found : List (List Diagnostic)} (others : Checks policy fix files rest found left) :
      Checks policy fix files (.nothing path :: rest) found left
  /-- A file is checked. -/
  | file {files left : FileSystem} {path : Text} {rest : List Visit}
      {found : List (List Diagnostic)} {p : Progress}
      (first : Progress.checkFile policy fix path { files := files } = .ok p)
      (others : Checks policy fix p.files rest found left) :
      Checks policy fix files (.file path :: rest) (p.diagnostics :: found) left

/-- What has been found before does not concern a check. -/
theorem Progress.checked_eq_report (policy : Policy) (fix : Bool) (path : Text) (p : Progress) :
    (p.checked policy fix path).files = (checked policy fix path { files := p.files }).files ∧
      (p.checked policy fix path).diagnostics =
        p.diagnostics ++ (checked policy fix path { files := p.files }).diagnostics := by
  cases hfile : p.files.fileAt? path with
  | none =>
    have hfresh : Progress.checked policy fix path { files := p.files } = _ :=
      checked_of_none hfile
    rw [checked_of_none hfile, hfresh]
    exact ⟨rfl, (List.append_nil _).symm⟩
  | some found =>
    have hfresh : Progress.checked policy fix path { files := p.files } = _ :=
      checked_of_some hfile
    rw [checked_of_some hfile, hfresh]
    exact ⟨rfl, rfl⟩

/-- Making visits is checking files, and adding up what is found. -/
theorem exists_checks_foldl_visit (policy : Policy) (fix : Bool) (visits : List Visit)
    (p : Progress) :
    ∃ found, Checks policy fix p.files visits found
        (visits.foldl (Progress.visit policy fix) p).files ∧
      (visits.foldl (Progress.visit policy fix) p).diagnostics =
        p.diagnostics ++ found.flatten := by
  induction visits generalizing p with
  | nil => exact ⟨[], .done p.files, (List.append_nil _).symm⟩
  | cons v rest ih =>
    rw [List.foldl_cons]
    cases v with
    | nothing path =>
      obtain ⟨found, hchecks, hfound⟩ := ih (p.note (.notFound path))
      exact ⟨found, .nothing hchecks, hfound⟩
    | file path =>
      obtain ⟨hfiles, hds⟩ := Progress.checked_eq_report policy fix path p
      obtain ⟨found, hchecks, hfound⟩ := ih (p.checked policy fix path)
      rw [hfiles] at hchecks
      refine ⟨_ :: found, .file (Progress.checkFile_eq_checked policy fix path _) hchecks, ?_⟩
      rw [List.flatten_cons, ← List.append_assoc, ← hds]
      exact hfound

namespace Checks

/-- What is found and what is left is decided by the visits. -/
theorem unique {left' : FileSystem} {found' : List (List Diagnostic)}
    (h : Checks policy fix files visits found left)
    (h' : Checks policy fix files visits found' left') : found = found' ∧ left = left' := by
  induction h generalizing found' left' with
  | done =>
    cases h'
    exact ⟨rfl, rfl⟩
  | nothing _ ih =>
    cases h' with
    | nothing others => exact ih others
  | file first _ ih =>
    cases h' with
    | file first' others =>
      obtain rfl := Except.ok.inj (first.symm.trans first')
      obtain ⟨rfl, rfl⟩ := ih others
      exact ⟨rfl, rfl⟩

theorem left_eq (h : Checks policy fix files visits found left) :
    left = (visits.foldl (Progress.visit policy fix) { files := files }).files := by
  obtain ⟨found', hchecks, -⟩ := exists_checks_foldl_visit policy fix visits { files := files }
  exact (h.unique hchecks).2

theorem sameShape (h : Checks policy fix files visits found left) : left.SameShape files := by
  rw [h.left_eq]
  exact Progress.sameShape_foldl_visit policy fix visits { files := files }

/-- Paths mean the same when files have been checked, so it does not matter that
they are walked beforehand. -/
theorem visits_eq (h : Checks policy fix files visits found left) (paths : List Text) :
    left.visits paths = files.visits paths :=
  h.sameShape.visits_eq paths

/-- Without fixing, no file is changed. -/
theorem left_eq_of_false (h : Checks policy false files visits found left) : left = files := by
  induction h with
  | done => rfl
  | nothing _ ih => exact ih
  | file first _ ih =>
    rw [Progress.checkFile_eq_checked] at first
    obtain rfl := Except.ok.inj first
    rw [ih, Progress.files_checked_false]

/-- A file that is there is left with what was in it or a better content. -/
theorem exists_contentAt (h : Checks policy fix files visits found left)
    (hcontent : files.contentAt place = some content) :
    ∃ content', left.contentAt place = some content' ∧
      (content' = content ∨ Improves policy content content') := by
  induction h generalizing content with
  | done => exact ⟨content, hcontent, .inl rfl⟩
  | nothing _ ih => exact ih hcontent
  | @file files _ path _ _ _ first _ ih =>
    rw [Progress.checkFile_eq_checked] at first
    obtain rfl := Except.ok.inj first
    obtain ⟨content₁, hcontent₁, hfirst⟩ :=
      Progress.exists_contentAt_checked policy fix path (p := { files := files }) hcontent
    obtain ⟨content', hcontent', hothers⟩ := ih hcontent₁
    refine ⟨content', hcontent', ?_⟩
    rcases hothers with rfl | hothers
    · exact hfirst
    · rcases hfirst with rfl | hfirst
      · exact .inr hothers
      · exact .inr (hfirst.trans hothers)

/-- A file that checking changes is one that is fixed on a visit, and the
content that it has is a better one than it had. -/
theorem improves (h : Checks policy fix files visits found left)
    (hne : left.contentAt place ≠ files.contentAt place) :
    fix = true ∧ place ∈ placesOf files visits ∧ ∃ content content',
      files.contentAt place = some content ∧ left.contentAt place = some content' ∧
        Improves policy content content' := by
  refine ⟨?_, ?_, ?_⟩
  · cases fix with
    | true => rfl
    | false => exact absurd (by rw [h.left_eq_of_false]) hne
  · by_contra hplace
    rw [h.left_eq] at hne
    exact hne (Progress.contentAt_foldl_visit hplace)
  · have hsome := h.sameShape.isSome_contentAt_eq place
    cases hcontent : files.contentAt place with
    | none =>
      -- Checking creates no file.
      rw [hcontent, Option.isSome_none, Option.isSome_eq_false_iff, Option.isNone_iff_eq_none]
        at hsome
      rw [hcontent, hsome] at hne
      exact absurd rfl hne
    | some content =>
      obtain ⟨content', hcontent', hsame | himproves⟩ := h.exists_contentAt hcontent
      · rw [hcontent, hcontent', hsame] at hne
        exact absurd rfl hne
      · exact ⟨content, content', rfl, hcontent', himproves⟩

end Checks

/-! ## The output -/

/-- Writing diagnostics changes no file but the one that they are written to. -/
theorem contentAt_of_emit {format : OutputFormat} {out : Option Text} {ds : List Diagnostic}
    {stdout : Text} (h : emit files format out ds = .ok (stdout, left))
    (hplace : ∀ path, out = some path → files.target path ≠ .ok place) :
    left.contentAt place = files.contentAt place := by
  simp only [emit] at h
  split at h
  next =>
    obtain ⟨-, rfl⟩ := Prod.mk.inj (Except.ok.inj h)
    rfl
  next =>
    obtain ⟨-, rfl⟩ := Prod.mk.inj (Except.ok.inj h)
    rfl
  next path _ =>
    split at h
    next written hwrite =>
      obtain ⟨-, rfl⟩ := Prod.mk.inj (Except.ok.inj h)
      exact FileSystem.contentAt_write_of_ne hwrite (hplace path rfl)
    next => cases h

/-! ## The run -/

section Perform

variable {r : Request}

/-- A request makes its visits and writes what they found, if there is a place
for it. -/
theorem exists_checks_perform (h : r.policy files = .ok policy) :
    ∃ found left, Checks policy r.fix files (files.visits r.paths) found left ∧
      (((perform r files).files = left ∧ ∃ f, (perform r files).outcome = .error f) ∨
        emit left r.format r.out found.flatten =
            .ok ((perform r files).stdout, (perform r files).files) ∧
          (perform r files).outcome = .ok (if found.flatten = [] then 0 else 1)) := by
  obtain ⟨found, hchecks, hfound⟩ :=
    exists_checks_foldl_visit policy r.fix (files.visits r.paths) { files := files }
  rw [List.nil_append] at hfound
  have hds : (visited policy r files).diagnostics = found.flatten := hfound
  refine ⟨found, (visited policy r files).files, hchecks, ?_⟩
  rw [perform_eq_emit h, hds]
  cases emit (visited policy r files).files r.format r.out found.flatten with
  | error e => exact .inl ⟨rfl, _, rfl⟩
  | ok written =>
    refine .inr ⟨rfl, ?_⟩
    cases found.flatten <;> rfl

theorem outcome_perform_eq_two_iff :
    (perform r files).outcome = .ok 2 ↔ ∃ e, r.policy files = .error (.invalid e) := by
  cases hpolicy : r.policy files with
  | error f =>
    rw [perform_of_failure hpolicy]
    cases f <;> simp [ConfigFailure.outcome]
  | ok policy =>
    obtain ⟨found, left, -, ⟨-, f, hf⟩ | ⟨-, hcode⟩⟩ := exists_checks_perform hpolicy
    · simp [hf]
    · rw [hcode]
      split <;> simp

/-- With any other exit code, files were checked and the diagnostics written. -/
theorem exists_checks_of_outcome {code : Nat} (hcode : (perform r files).outcome = .ok code)
    (hne : code ≠ 2) : ∃ policy found left, r.policy files = .ok policy ∧
      Checks policy r.fix files (files.visits r.paths) found left ∧
      emit left r.format r.out found.flatten =
        .ok ((perform r files).stdout, (perform r files).files) ∧
      code = if found.flatten = [] then 0 else 1 := by
  cases hpolicy : r.policy files with
  | error f =>
    rw [perform_of_failure hpolicy] at hcode
    cases f with
    | invalid e => exact absurd (Except.ok.inj hcode).symm hne
    | undecodable => cases hcode
    | unrepresentable f => cases hcode
  | ok policy =>
    obtain ⟨found, left, hchecks, ⟨-, f, hf⟩ | ⟨hemit, hsome⟩⟩ := exists_checks_perform hpolicy
    · rw [hf] at hcode
      cases hcode
    · rw [hsome] at hcode
      exact ⟨policy, found, left, rfl, hchecks, hemit, (Except.ok.inj hcode).symm⟩

/-- Whatever a request comes to, a file that changes is the one for the output,
or one that is fixed on a visit. -/
theorem changed_of_perform
    (hne : (perform r files).files.contentAt place ≠ files.contentAt place) :
    (∃ path, r.out = some path ∧ files.target path = .ok place) ∨
      (r.fix = true ∧ place ∈ visitedPlaces files r ∧ ∃ policy content content',
        r.policy files = .ok policy ∧ files.contentAt place = some content ∧
        (perform r files).files.contentAt place = some content' ∧
        Improves policy content content') := by
  cases hpolicy : r.policy files with
  | error f =>
    rw [perform_of_failure hpolicy] at hne
    exact absurd rfl hne
  | ok policy =>
    obtain ⟨found, left, hchecks, hrun⟩ := exists_checks_perform hpolicy
    by_cases hout : ∃ path, r.out = some path ∧ files.target path = .ok place
    · exact .inl hout
    · have hleft : (perform r files).files.contentAt place = left.contentAt place := by
        rcases hrun with ⟨hfiles, -⟩ | ⟨hemit, -⟩
        · rw [hfiles]
        · apply contentAt_of_emit hemit
          intro path hpath htarget
          rw [hchecks.sameShape.target_eq] at htarget
          exact hout ⟨path, hpath, htarget⟩
      rw [hleft] at hne ⊢
      obtain ⟨hfix, hplace, content, content', hcontent, hcontent', himproves⟩ :=
        hchecks.improves hne
      exact .inr ⟨hfix, hplace, policy, content, content', rfl, hcontent, hcontent', himproves⟩

end Perform

/-- The exit code of a run is 2 exactly if there is something wrong with the
configuration, and then no file is changed and nothing is printed. With any other
exit code the run has made its visits and written what they found, one result
after another, and the exit code says whether there was anything. Whatever a run
comes to, a file that it changes is the one for the output, or one that is fixed
on a visit, and then its content is a source with fewer diagnostics than there
were before. -/
theorem run_changes {args : List Text} {r : Request} (files : FileSystem)
    (hargs : CommandLine.parse args = .ok r) :
    ((run args files).outcome = .ok 2 ↔ ∃ e, r.policy files = .error (.invalid e)) ∧
      ((run args files).outcome = .ok 2 →
        (run args files).files = files ∧ (run args files).stdout = []) ∧
      (∀ code, (run args files).outcome = .ok code → code ≠ 2 → ∃ policy found left,
        r.policy files = .ok policy ∧
        Checks policy r.fix files (files.visits r.paths) found left ∧
        emit left r.format r.out found.flatten =
          .ok ((run args files).stdout, (run args files).files) ∧
        code = if found.flatten = [] then 0 else 1) ∧
      ∀ place, (run args files).files.contentAt place ≠ files.contentAt place →
        (∃ path, r.out = some path ∧ files.target path = .ok place) ∨
        (r.fix = true ∧ place ∈ visitedPlaces files r ∧ ∃ policy content content',
          r.policy files = .ok policy ∧ files.contentAt place = some content ∧
          (run args files).files.contentAt place = some content' ∧
          Improves policy content content') := by
  rw [run_eq_perform hargs]
  refine ⟨outcome_perform_eq_two_iff, ?_, fun code => exists_checks_of_outcome,
    fun place => changed_of_perform⟩
  intro htwo
  obtain ⟨e, he⟩ := outcome_perform_eq_two_iff.1 htwo
  rw [perform_of_failure he]
  exact ⟨rfl, rfl⟩

/-- A source with a call that is fixed and a call that is not. -/
def twoCalls : FileSystem where
  root := .directory [("a.py".toList, .file (Text.encode "__('x', 'default')\n__(y, z)".toList))]

/-- A command line that fixes the source of `twoCalls`. -/
def fixArgs : List Text :=
  ["check", "--fix", "--allow-default", "--out", "o", "a.py"].map String.toList

/-- Fixing resolves one diagnostic of two; the other one goes to a file. With a
configuration file that does not exist, nothing is done. -/
theorem run_changes_two_calls :
    ((run fixArgs twoCalls).outcome.toOption = some 1 ∧
        ∃ policy content content', twoCalls.contentAt ["a.py".toList] = some content ∧
          (run fixArgs twoCalls).files.contentAt ["a.py".toList] = some content' ∧
          Improves policy content content') ∧
      (run (checkArgs ["a.py"]) twoCalls).outcome = .ok 2 ∧
        (run (checkArgs ["a.py"]) twoCalls).files = twoCalls := by
  have hargs : CommandLine.parse fixArgs = .ok
        { allowDefault := true, fix := true, out := some "o".toList, paths := ["a.py".toList] } ∧
      CommandLine.parse (checkArgs ["a.py"]) =
        .ok { config := some "c.yaml".toList, paths := ["a.py".toList] } := by
    decide +kernel
  have htarget : twoCalls.target "o".toList = .ok ["o".toList] := by decide +kernel
  have hchanged : (run fixArgs twoCalls).files.contentAt ["a.py".toList] ≠
      twoCalls.contentAt ["a.py".toList] := by
    rw [run_eq_perform hargs.1]
    decide +kernel
  obtain ⟨-, -, -, hframe⟩ := run_changes twoCalls hargs.1
  obtain ⟨htwo, hnothing, -, -⟩ := run_changes twoCalls hargs.2
  constructor
  · constructor
    · rw [run_eq_perform hargs.1]
      decide +kernel
    · rcases hframe ["a.py".toList] hchanged with ⟨path, hpath, hplace⟩ |
        ⟨-, -, policy, content, content', -, hcontent, hcontent', himproves⟩
      · obtain rfl : "o".toList = path := Option.some.inj hpath
        rw [htarget] at hplace
        exact absurd (Except.ok.inj hplace) (by decide)
      · exact ⟨policy, content, content', hcontent, hcontent', himproves⟩
  · have hmissing := htwo.2 ⟨.notFound "c.yaml".toList, rfl⟩
    exact ⟨hmissing, (hnothing hmissing).1⟩

end TextDomain
