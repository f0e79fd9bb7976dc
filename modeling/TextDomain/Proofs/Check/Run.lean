import TextDomain.Command
import TextDomain.Proofs.Check.Visits

/-!
# Two runs

A run depends on the tree in two ways: its policy on the content of the
configuration file, and all else on the visits that its paths mean. Both are
fixed before the first file is rewritten. So what is known of visits says how
two runs compare, as long as their diagnostics go to the standard output and no
file is overwritten by them.

## Main results

* `perform_eq_emit`, `perform_of_failure` — what a request comes to.
* `run_of_perm` — the order of paths does not matter for the files and the exit
  code.
* `run_again` — running again without fixing prints the same.
-/

namespace TextDomain

open CommandLine (Request)

variable {files : FileSystem} {r : Request}

/-! ## What a request comes to -/

/-- The exit code of a request whose policy cannot be had. -/
def ConfigFailure.outcome : ConfigFailure → Except Failure Nat
  | .invalid _ => .ok 2
  | .undecodable => .error .undecodable
  | .unrepresentable f => .error (.unrepresentable f)

/-- The notices of a request whose policy cannot be had. -/
def ConfigFailure.notices : ConfigFailure → List Notice
  | .invalid e => [.invalidConfiguration e.message]
  | _ => []

/-- A request whose policy cannot be had checks no file. -/
theorem perform_of_failure {f : ConfigFailure} (h : r.policy files = .error f) :
    perform r files = ⟨f.outcome, files, [], noticeLines f.notices⟩ := by
  rw [perform, h]
  cases f <;> rfl

/-- What is written of diagnostics to the standard output. -/
def OutputFormat.print (format : OutputFormat) (ds : List Diagnostic) : Text :=
  if (format.write ds).isEmpty then [] else format.write ds ++ ['\n']

/-- The progress of a request when all visits have been made. -/
def visited (policy : Policy) (r : Request) (files : FileSystem) : Progress :=
  (files.visits r.paths).foldl (Progress.visit policy r.fix) { files := files }

/-- A request makes its visits and writes the diagnostics, if there is a place
for them. -/
theorem perform_eq_emit {policy : Policy} (h : r.policy files = .ok policy) :
    perform r files =
      match emit (visited policy r files).files r.format r.out
          (visited policy r files).diagnostics with
      | .error e =>
        ⟨.error (.output (r.out.getD []) e), (visited policy r files).files, [],
          noticeLines (visited policy r files).notices⟩
      | .ok (stdout, left) =>
        ⟨.ok (if (visited policy r files).diagnostics.isEmpty then 0 else 1), left, stdout,
          noticeLines (visited policy r files).notices⟩ := by
  simp only [perform, h, check, Progress.checkAll_eq_foldl]
  rfl

/-- A request makes its visits and prints the diagnostics. -/
theorem perform_of_policy {policy : Policy} (h : r.policy files = .ok policy)
    (hout : r.out = none) :
    perform r files =
      ⟨.ok (if (visited policy r files).diagnostics.isEmpty then 0 else 1),
        (visited policy r files).files, r.format.print (visited policy r files).diagnostics,
        noticeLines (visited policy r files).notices⟩ := by
  rw [perform_eq_emit h, hout]
  rfl

theorem run_eq_perform {args : List Text} (h : CommandLine.parse args = .ok r) :
    run args files = perform r files := by
  rw [run, h]

/-! ## The order of paths -/

/-- The places of the files that a request visits. -/
def visitedPlaces (files : FileSystem) (r : Request) : List Place :=
  placesOf files (files.visits r.paths)

/-- Two runs that differ in the order of their paths leave the same files and
have the same exit code, however often a file is visited. -/
theorem run_of_perm {args args' : List Text} {paths : List Text} (files : FileSystem)
    (hargs : CommandLine.parse args = .ok r)
    (hargs' : CommandLine.parse args' = .ok { r with paths := paths })
    (hperm : paths.Perm r.paths) (hout : r.out = none) :
    (run args' files).files = (run args files).files ∧
      (run args' files).outcome = (run args files).outcome := by
  rw [run_eq_perform hargs, run_eq_perform hargs']
  cases hpolicy : r.policy files with
  | error f =>
    have hpolicy' : Request.policy { r with paths := paths } files = .error f := hpolicy
    rw [perform_of_failure hpolicy, perform_of_failure hpolicy']
    exact ⟨rfl, rfl⟩
  | ok policy =>
    have hpolicy' : Request.policy { r with paths := paths } files = .ok policy := hpolicy
    rw [perform_of_policy hpolicy hout, perform_of_policy hpolicy' hout]
    have hvisits : (files.visits paths).Perm (files.visits r.paths) := hperm.flatMap_right _
    have hsummary : (visited policy { r with paths := paths } files).summary =
        (visited policy r files).summary :=
      Progress.summary_foldl_visit_perm hvisits { files := files }
    have hfiles := congrArg Summary.files hsummary
    have hclean := congrArg Summary.isClean hsummary
    simp only [Progress.summary] at hfiles hclean
    constructor
    · exact hfiles
    · show Except.ok _ = Except.ok _
      rw [hclean]

/-- A directory with a configuration file and two sources. -/
def twoSources : FileSystem where
  root := .directory
    [("c.yaml".toList, .file (Text.encode "allowedTextDomains: [d]".toList)),
      ("a.py".toList, .file (Text.encode "__('x')".toList)),
      ("b.py".toList, .file (Text.encode "__(y, z)".toList))]

/-- A command line with the configuration of `twoSources`. -/
def checkArgs (words : List String) : List Text :=
  (["check", "--config", "c.yaml"] ++ words).map String.toList

/-- One of the sources is visited twice, under two names. -/
theorem run_of_perm_overlapping :
    (run (checkArgs ["--fix", ".", "a.py"]) twoSources).outcome.toOption = some 1 ∧
      (run (checkArgs ["--fix", "a.py", "."]) twoSources).files =
        (run (checkArgs ["--fix", ".", "a.py"]) twoSources).files ∧
      (run (checkArgs ["--fix", "a.py", "."]) twoSources).outcome =
        (run (checkArgs ["--fix", ".", "a.py"]) twoSources).outcome := by
  have hargs : CommandLine.parse (checkArgs ["--fix", ".", "a.py"]) =
      .ok { config := some "c.yaml".toList, fix := true, paths := [".".toList, "a.py".toList] } ∧
      CommandLine.parse (checkArgs ["--fix", "a.py", "."]) =
      .ok { config := some "c.yaml".toList, fix := true, paths := ["a.py".toList, ".".toList] } := by
    decide +kernel
  constructor
  · rw [run_eq_perform hargs.1]
    decide +kernel
  · exact run_of_perm twoSources hargs.1 hargs.2 (List.Perm.swap _ _ []) rfl

/-! ## Running again -/

/-- The policy of a request depends on the configuration file alone. -/
theorem policy_congr {files' : FileSystem}
    (h : ∀ path, r.config = some path → files'.read path = files.read path) :
    r.policy files' = r.policy files := by
  have hoptions : r.fileOptions files' = r.fileOptions files := by
    unfold Request.fileOptions
    split
    · rfl
    · rfl
    next path _ hpath => simp only [Options.load, h path hpath]
  simp only [Request.policy, hoptions]

/-- If no file is visited twice and the configuration file is not visited, then
running again without fixing prints what the first run printed, comes to the
same exit code and changes no file. -/
theorem run_again {args args' : List Text} (files : FileSystem)
    (hargs : CommandLine.parse args = .ok r)
    (hargs' : CommandLine.parse args' = .ok { r with fix := false }) (hout : r.out = none)
    (honce : (visitedPlaces files r).Nodup)
    (hconfig : ∀ path, r.config = some path → ∀ place, files.locate path = .ok place →
      place ∉ visitedPlaces files r) :
    (run args' (run args files).files).stdout = (run args files).stdout ∧
      (run args' (run args files).files).outcome = (run args files).outcome ∧
      (run args' (run args files).files).files = (run args files).files := by
  rw [run_eq_perform hargs, run_eq_perform hargs']
  cases hpolicy : r.policy files with
  | error f =>
    have hpolicy' : Request.policy { r with fix := false } files = .error f := hpolicy
    rw [perform_of_failure hpolicy]
    dsimp only
    rw [perform_of_failure hpolicy']
    exact ⟨rfl, rfl, rfl⟩
  | ok policy =>
    have hshape : (visited policy r files).files.SameShape files :=
      Progress.sameShape_foldl_visit policy r.fix (files.visits r.paths) { files := files }
    have hpolicy' : Request.policy { r with fix := false } (visited policy r files).files =
        .ok policy := by
      rw [← hpolicy]
      apply policy_congr
      intro path hpath
      apply hshape.read_eq
      intro place hplace
      rw [hshape.locate_eq] at hplace
      exact Progress.contentAt_foldl_visit (hconfig path hpath place hplace)
    have hvisits : visited policy { r with fix := false } (visited policy r files).files =
        (files.visits r.paths).foldl (Progress.visit policy false)
          { files := (visited policy r files).files } := by
      rw [visited, hshape.visits_eq]
    obtain ⟨hfound, hkept⟩ : (visited policy { r with fix := false }
          (visited policy r files).files).diagnostics = (visited policy r files).diagnostics ∧
        (visited policy { r with fix := false } (visited policy r files).files).files =
          (visited policy r files).files := by
      rw [hvisits]
      exact Progress.foldl_visit_again honce rfl rfl
    rw [perform_of_policy hpolicy hout]
    dsimp only
    rw [perform_of_policy hpolicy' hout]
    dsimp only
    rw [hfound]
    exact ⟨rfl, rfl, hkept⟩

/-- One of the sources is fixed, the other one has a diagnostic left. -/
theorem run_again_two_sources :
    (run (checkArgs ["--fix", "."]) twoSources).outcome.toOption = some 1 ∧
      (run (checkArgs ["."]) (run (checkArgs ["--fix", "."]) twoSources).files).stdout =
        (run (checkArgs ["--fix", "."]) twoSources).stdout ∧
      (run (checkArgs ["."]) (run (checkArgs ["--fix", "."]) twoSources).files).outcome =
        (run (checkArgs ["--fix", "."]) twoSources).outcome ∧
      (run (checkArgs ["."]) (run (checkArgs ["--fix", "."]) twoSources).files).files =
        (run (checkArgs ["--fix", "."]) twoSources).files := by
  have hargs : CommandLine.parse (checkArgs ["--fix", "."]) =
      .ok { config := some "c.yaml".toList, fix := true, paths := [".".toList] } ∧
      CommandLine.parse (checkArgs ["."]) =
      .ok { config := some "c.yaml".toList, paths := [".".toList] } := by
    decide +kernel
  have hplaces : visitedPlaces twoSources
      { config := some "c.yaml".toList, fix := true, paths := [".".toList] } =
        [["a.py".toList], ["b.py".toList]] := by decide +kernel
  have hconfig : twoSources.locate "c.yaml".toList = .ok ["c.yaml".toList] := by decide +kernel
  constructor
  · rw [run_eq_perform hargs.1]
    decide +kernel
  · apply run_again twoSources hargs.1 hargs.2 rfl
    · rw [hplaces]
      decide
    · intro path hpath place hplace
      obtain rfl : "c.yaml".toList = path := Option.some.inj hpath
      rw [hconfig] at hplace
      obtain rfl := Except.ok.inj hplace
      rw [hplaces]
      decide

end TextDomain
