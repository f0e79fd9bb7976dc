import TextDomain.Datum.Json
import TextDomain.Fix
import TextDomain.Message

/-!
# Diagnostics

A diagnostic is one report about one call. It is written either as a line of
text or as an object of JSON; the fields of the object have a fixed order.
-/

namespace TextDomain

/-- The name of the rule that the linter enforces. -/
def ruleName : Text := "i18n-text-domain".toList

/-- The name of the tool in its output. -/
def toolName : Text := "tdlint".toList

/-- The version of the tool in its output. -/
def toolVersion : Text := "0.1.0".toList

/-- A report. -/
structure Diagnostic where
  /-- The kind of report. -/
  messageId : Text
  /-- The wording for a reader. -/
  message : Text
  /-- The place of the call. -/
  location : Option Location
  /-- The values that went into the wording. -/
  data : List (Text × Datum) := []
  /-- An edit that resolves the report. -/
  fix : Option Fix := none
  /-- The rule that was broken. -/
  rule : Text := ruleName
  /-- How bad that is. -/
  severity : Text := "error".toList

namespace Diagnostic

/-- A place as an object. -/
def locationDatum (l : Location) : Datum :=
  .object [
    ("file".toList, .text l.file),
    ("line_start".toList, .int l.lineStart),
    ("col_start".toList, .int l.colStart),
    ("line_end".toList, .int l.lineEnd),
    ("col_end".toList, .int l.colEnd)]

/-- A fix as an object. -/
def fixDatum (f : Fix) : Datum :=
  .object [
    ("kind".toList, .text f.kind.word),
    ("range".toList, .list (f.span.offsets.map .int)),
    ("text".toList, .text f.text)]

/-- The diagnostic as an object. -/
def datum (d : Diagnostic) : Datum :=
  .object [
    ("rule_id".toList, .text d.rule),
    ("severity".toList, .text d.severity),
    ("message_id".toList, .text d.messageId),
    ("message".toList, .text d.message),
    ("location".toList, (d.location.map locationDatum).getD .null),
    ("data".toList, .object d.data),
    ("fix".toList, (d.fix.map fixDatum).getD .null),
    ("tool".toList, .text toolName),
    ("version".toList, .text toolVersion)]

/-- Where the diagnostic points: file, line and column. -/
def place (d : Diagnostic) : Text :=
  match d.location with
  | none => "<unknown>".toList
  | some l => Text.join [':'] [l.file, Text.ofInt l.lineStart, Text.ofInt l.colStart]

/-- The diagnostic as a line of text. -/
def line (d : Diagnostic) : Text :=
  d.place ++ ": ".toList ++ d.severity ++ ' ' :: d.message ++ " [".toList ++ d.rule ++
    '/' :: d.messageId ++ ']' :: (if d.fix.isSome then " (fixable)".toList else [])

end Diagnostic

/-- How diagnostics are written. -/
inductive OutputFormat where
  /-- A list of objects. -/
  | json
  /-- A line for each. -/
  | text
deriving DecidableEq

/-- The diagnostics in the given format, without a line break at the end. -/
def OutputFormat.write (format : OutputFormat) (ds : List Diagnostic) : Text :=
  match format with
  | .json => (Datum.list (ds.map Diagnostic.datum)).json
  | .text => Text.join ['\n'] (ds.map Diagnostic.line)

end TextDomain
