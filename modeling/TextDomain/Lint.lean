import TextDomain.Rule
import TextDomain.Source.Calls

/-!
# Linting and fixing a source

`lint` checks every call of a source. `fixSource` repeats the following pass,
at most ten times: apply the fixes of the diagnostics, lint the result, and
keep it if it has fewer diagnostics. A result that is not well-formed is
discarded with a notice, one without fewer diagnostics silently; in both cases
fixing ends.

The text and the diagnostics that fixing returns therefore belong together:
the diagnostics are those of the text.
-/

namespace TextDomain

/-- The diagnostics of calls, in their order. -/
def checkCalls (policy : Policy) : List Call → Except ContractError (List Diagnostic)
  | [] => .ok []
  | c :: rest => do
    let d ← checkCall c policy
    let more ← checkCalls policy rest
    .ok (d.toList ++ more)

/-- The diagnostics of a source. -/
def lint (text : Text) (policy : Policy) (file : Text) : Except SourceError (List Diagnostic) :=
  match collectCalls text file with
  | .error e => .error e
  | .ok calls =>
    match checkCalls policy calls with
    | .error e => .error (.contract e)
    | .ok ds => .ok ds

/-! ## Notices -/

/-- A notice to the user, apart from the diagnostics. -/
inductive Notice where
  /-- The fixed text of a file is not well-formed. -/
  | fixesDiscarded (file : Text)
  /-- A file cannot be read. -/
  | unreadable (path : Text)
  /-- A file is not well-formed. -/
  | unparsable (path : Text)
  /-- A path leads nowhere. -/
  | notFound (path : Text)
  /-- The configuration is not valid. -/
  | invalidConfiguration (reason : Text)
deriving DecidableEq

/-- The wording of a notice. -/
def Notice.message : Notice → Text
  | .fixesDiscarded file =>
    "[tdlint] Discarding fixes for ".toList ++ file ++ ": result does not parse".toList
  | .unreadable path => "[tdlint] Could not read ".toList ++ path
  | .unparsable path => "[tdlint] Could not parse ".toList ++ path
  | .notFound path => "[tdlint] Source path not found: ".toList ++ path
  | .invalidConfiguration reason => "[tdlint] Invalid configuration: ".toList ++ reason

/-! ## Fixing -/

/-- A text, its diagnostics, and the notices given on the way. -/
structure Fixed where
  /-- The text. -/
  text : Text
  /-- The diagnostics of the text. -/
  diagnostics : List Diagnostic
  /-- The notices. -/
  notices : List Notice := []

/-- How many passes fixing makes at most. -/
def maxPasses : Nat := 10

/-- The fixes of diagnostics, in their order. -/
def fixesOf (ds : List Diagnostic) : List Fix := ds.filterMap (·.fix)

/-- What one pass comes to. -/
inductive Pass where
  /-- The text is fixed as far as it goes. -/
  | done
  /-- The result is not well-formed. -/
  | discarded
  /-- The result has fewer diagnostics. -/
  | accepted (text : Text) (diagnostics : List Diagnostic)

/-- One pass over a text with its diagnostics. -/
def fixPass (policy : Policy) (file : Text) (text : Text) (ds : List Diagnostic) :
    Except SourceError Pass :=
  match fixesOf ds with
  | [] => .ok .done
  | f :: fs =>
    match Fix.applyAll text (f :: fs) with
    | .error e => .error (.contract e)
    | .ok (_, 0) => .ok .done
    | .ok (fixed, _ + 1) =>
      match lint fixed policy file with
      | .error .malformed | .error .nullByte => .ok .discarded
      | .error (.contract e) => .error (.contract e)
      | .ok remaining =>
        if remaining.length < ds.length then .ok (.accepted fixed remaining) else .ok .done

/-- At most the given number of passes. -/
def fixPasses (policy : Policy) (file : Text) :
    Nat → Text → List Diagnostic → Except SourceError Fixed
  | 0, text, ds => .ok ⟨text, ds, []⟩
  | passes + 1, text, ds =>
    match fixPass policy file text ds with
    | .error e => .error e
    | .ok .done => .ok ⟨text, ds, []⟩
    | .ok .discarded => .ok ⟨text, ds, [.fixesDiscarded file]⟩
    | .ok (.accepted fixed remaining) => fixPasses policy file passes fixed remaining

/-- Fixes a source as far as that goes. -/
def fixSource (text : Text) (policy : Policy) (file : Text) : Except SourceError Fixed :=
  match lint text policy file with
  | .error e => .error e
  | .ok ds => fixPasses policy file maxPasses text ds

end TextDomain
