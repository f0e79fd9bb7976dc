import TextDomain.FileSystem.Walk
import TextDomain.Lint

/-!
# Checking files

A file is read, linted, and, if wanted, fixed; it is written only if fixing
changed it. A file that cannot be read or is not well-formed gives a notice
and no diagnostics. Files are checked one after another, each as those before
it left it.
-/

namespace TextDomain

namespace Visit

/-- The path of the file that is visited. -/
def found? : Visit → Option Text
  | .file path => some path
  | .nothing _ => none

/-- The notice on a path that leads nowhere. -/
def notice? : Visit → Option Notice
  | .file _ => none
  | .nothing path => some (.notFound path)

end Visit

/-- How far checking has come. -/
structure Progress where
  /-- The files as they are now. -/
  files : FileSystem
  /-- The diagnostics so far. -/
  diagnostics : List Diagnostic := []
  /-- The notices so far. -/
  notices : List Notice := []

namespace Progress

/-- Adds a notice. -/
def note (p : Progress) (n : Notice) : Progress := { p with notices := p.notices ++ [n] }

/-- Adds diagnostics. -/
def report (p : Progress) (ds : List Diagnostic) : Progress :=
  { p with diagnostics := p.diagnostics ++ ds }

/-- Puts a text in the place of a file that was read. -/
def replaceText (p : Progress) (path text : Text) : Progress :=
  match p.files.write path (Text.encode text) with
  | .ok files => { p with files := files }
  | .error _ => p

/-- Checks the text of a file. -/
def checkText (policy : Policy) (fix : Bool) (path text : Text) (p : Progress) :
    Except ContractError Progress :=
  let result :=
    if fix then fixSource text policy path
    else (lint text policy path).map fun ds => ⟨text, ds, []⟩
  match result with
  | .error (.contract e) => .error e
  | .error .malformed | .error .nullByte => .ok (p.note (.unparsable path))
  | .ok r =>
    let p := { p with notices := p.notices ++ r.notices }
    let p := if r.text = text then p else p.replaceText path r.text
    .ok (p.report r.diagnostics)

/-- Checks the file of a path. -/
def checkFile (policy : Policy) (fix : Bool) (path : Text) (p : Progress) :
    Except ContractError Progress :=
  match p.files.read path with
  | .error _ => .ok (p.note (.unreadable path))
  | .ok content =>
    match Text.decode? content with
    | none => .ok (p.note (.unreadable path))
    | some text => p.checkText policy fix path text

/-- Makes visits in their order. If one fails, the files stay as those before
it left them. -/
def checkAll (policy : Policy) (fix : Bool) : List Visit → Progress → Progress × Option ContractError
  | [], p => (p, none)
  | .nothing path :: rest, p => checkAll policy fix rest (p.note (.notFound path))
  | .file path :: rest, p =>
    match p.checkFile policy fix path with
    | .error e => (p, some e)
    | .ok p' => checkAll policy fix rest p'

end Progress

end TextDomain
