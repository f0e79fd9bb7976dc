import TextDomain.Lint
import TextDomain.Options

/-!
# Sessions

An editor keeps a text, a policy, and the diagnostics of the last time the
text was linted. The diagnostics may be out of date: applying their fixes
changes the text and not them. A step that fails leaves the session as it was.
-/

namespace TextDomain

/-- A session. -/
structure Session where
  /-- The text. -/
  text : Text
  /-- The name of the file. -/
  file : Text
  /-- The policy. -/
  policy : Policy := {}
  /-- The diagnostics of the last time the text was linted. -/
  diagnostics : List Diagnostic := []

namespace Session

/-- Takes a policy from options. -/
def configure (s : Session) (options : Yaml.Value) : Except OptionsFailure Session :=
  (Policy.ofOptions options).map fun p => { s with policy := p }

/-- Takes another text; its diagnostics are not known. -/
def setText (s : Session) (text : Text) : Session := { s with text := text, diagnostics := [] }

/-- Lints the text. -/
def lint (s : Session) : Except SourceError Session :=
  (TextDomain.lint s.text s.policy s.file).map fun ds => { s with diagnostics := ds }

/-- The fixes of the diagnostics. -/
def fixes (s : Session) : List Fix := fixesOf s.diagnostics

/-- Applies fixes, and counts those that were. -/
def apply (s : Session) (fixes : List Fix) : Except ContractError (Session × Nat) :=
  (Fix.applyAll s.text fixes).map fun (text, n) => ({ s with text := text }, n)

/-- Fixes the text as far as that goes; the notices on the way. -/
def fixAll (s : Session) : Except SourceError (Session × List Notice) :=
  (fixSource s.text s.policy s.file).map fun r =>
    ({ s with text := r.text, diagnostics := r.diagnostics }, r.notices)

end Session

end TextDomain
