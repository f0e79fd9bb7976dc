import TextDomain.Check
import TextDomain.CommandLine.Request
import TextDomain.Config

/-!
# Running the program

A run reads its configuration, checks the files of its paths, and writes the
diagnostics. Its exit code is 0 if there are none, 1 if there are some, and 2
if the command line or the configuration is wrong.

A run may also fail without an exit code; the files stay as they were left
by then.

## Main results

* `run_of_halt` — a command line that asks for no check changes no file.
-/

namespace TextDomain

/-- Why a run fails. -/
inductive Failure where
  /-- The configuration file is not a text. -/
  | undecodable
  /-- The configuration file holds a value that does not exist, or an unknown option
  whose name has no text. -/
  | unrepresentable (f : Yaml.Fault)
  /-- A call or a fix breaks the contract. -/
  | contract (e : ContractError)
  /-- The output file cannot be written. -/
  | output (path : Text) (e : PathError)

/-- What a run comes to. -/
structure Run where
  /-- The exit code. -/
  outcome : Except Failure Nat
  /-- The files afterwards. -/
  files : FileSystem
  /-- What is written to the standard output. -/
  stdout : Text := []
  /-- The lines written to the standard error. -/
  stderr : List Text := []

/-! ## Configuration -/

/-- The value of a domain of the command line. -/
def domainValue : Option Text → Yaml.Value
  | some t => .text t
  | none => .null

namespace CommandLine.Request

/-- Options with those of the command line in their place. -/
def override (r : Request) (options : Options) : Options :=
  let options :=
    if r.allowDefault then Yaml.Value.put (.text allowDefaultName) (.bool true) options
    else options
  if r.domains.isEmpty then options
  else Yaml.Value.put (.text allowedDomainsName) (.sequence (r.domains.map domainValue)) options

/-- The options of the configuration file, if one is given. -/
def fileOptions (r : Request) (files : FileSystem) : Except ConfigFailure Options :=
  match r.config with
  | none | some [] => .ok []
  | some path => Options.load files path

/-- The policy of a request. -/
def policy (r : Request) (files : FileSystem) : Except ConfigFailure Policy :=
  match r.fileOptions files with
  | .ok options => Policy.ofLoaded (r.override options)
  | .error e => .error e

end CommandLine.Request

/-! ## Output -/

/-- Writes diagnostics: to the file of a path, or else to the standard output,
where nothing is written if there is no text. -/
def emit (files : FileSystem) (format : OutputFormat) (out : Option Text) (ds : List Diagnostic) :
    Except PathError (Text × FileSystem) :=
  let text := format.write ds
  match out with
  | none | some [] => .ok (if text.isEmpty then [] else text ++ ['\n'], files)
  | some path =>
    match files.write path (Text.encode (text ++ ['\n'])) with
    | .ok files => .ok ([], files)
    | .error e => .error e

/-! ## The run -/

/-- The lines of notices. -/
def noticeLines (notices : List Notice) : List Text := notices.map Notice.message

/-- Checks files and writes the diagnostics. -/
def check (r : CommandLine.Request) (policy : Policy) (files : FileSystem) : Run :=
  let (p, failure) := Progress.checkAll policy r.fix (files.visits r.paths) { files := files }
  let stderr := noticeLines p.notices
  match failure with
  | some e => ⟨.error (.contract e), p.files, [], stderr⟩
  | none =>
    match emit p.files r.format r.out p.diagnostics with
    | .error e => ⟨.error (.output (r.out.getD []) e), p.files, [], stderr⟩
    | .ok (stdout, files) => ⟨.ok (if p.diagnostics.isEmpty then 0 else 1), files, stdout, stderr⟩

/-- Carries out a request. -/
def perform (r : CommandLine.Request) (files : FileSystem) : Run :=
  match r.policy files with
  | .ok policy => check r policy files
  | .error (.invalid e) =>
    ⟨.ok 2, files, [], noticeLines [.invalidConfiguration e.message]⟩
  | .error .undecodable => ⟨.error .undecodable, files, [], []⟩
  | .error (.unrepresentable f) => ⟨.error (.unrepresentable f), files, [], []⟩

/-- What becomes of a command line that asks for no check. -/
def halt (h : CommandLine.Halt) (files : FileSystem) : Run :=
  match h with
  | .help t => ⟨.ok 0, files, t, []⟩
  | .usage program message =>
    ⟨.ok 2, files, [], [program ++ ": error: ".toList ++ message]⟩

/-- Runs the program. -/
def run (args : List Text) (files : FileSystem) : Run :=
  match CommandLine.parse args with
  | .ok r => perform r files
  | .error h => halt h files

/-- A command line that asks for no check changes no file. -/
theorem run_of_halt {args : List Text} {h : CommandLine.Halt} (files : FileSystem)
    (hp : CommandLine.parse args = .error h) : (run args files).files = files := by
  unfold run
  rw [hp]
  cases h <;> rfl

end TextDomain
