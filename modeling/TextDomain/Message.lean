import TextDomain.Datum.Basic
import TextDomain.Text.Blank

/-!
# Messages

The wording of every report is a template. A template is copied as it is,
except that each placeholder — two opening braces, a name, two closing braces —
gives way to a value. The name is what stands between the braces without the
blanks around it; if there is nothing but blanks, the last of them is the
name. Values go in as they are and are not looked at again.

The scan goes from left to right and takes a placeholder wherever one begins.
In a run of more than two opening braces only the last two begin one, since no
brace may stand inside.
-/

namespace TextDomain

/-! ## Templates -/

namespace Template

/-- Whether a character may stand between the braces of a placeholder. -/
def isBodyChar (c : Char) : Bool := c != '{' && c != '}'

/-- The name in the body of a placeholder. -/
def nameOf (body : Text) : Text :=
  match Text.strip body with
  | [] => body.getLast?.toList
  | name => name

/-- The body of the placeholder at the beginning of a text, if there is one. -/
def placeholder? : Text → Option Text
  | '{' :: '{' :: rest =>
    let body := rest.takeWhile isBodyChar
    if !body.isEmpty && Text.startsWith ['}', '}'] (rest.dropWhile isBodyChar) then some body
    else none
  | _ => none

/-- Renders what is left of a template after `skip` more characters, which
belong to a placeholder already replaced. -/
def renderAfter (value : Text → Text) : Nat → Text → Text
  | _, [] => []
  | skip + 1, _ :: rest => renderAfter value skip rest
  | 0, c :: rest =>
    match placeholder? (c :: rest) with
    | some body => value (nameOf body) ++ renderAfter value (body.length + 3) rest
    | none => c :: renderAfter value 0 rest

/-- The template with every placeholder replaced by the value of its name. -/
def render (value : Text → Text) (template : Text) : Text := renderAfter value 0 template

/-- The text that stands for a name: nothing if the data does not have it or
has null for it, else the value as messages show it. -/
def valueIn (data : List (Text × Datum)) (name : Text) : Text :=
  match Datum.field? name data with
  | none | some .null => []
  | some d => d.display

/-- The template with the values of the data. -/
def renderWith (data : List (Text × Datum)) (template : Text) : Text :=
  render (valueIn data) template

end Template

/-! ## The catalogue -/

/-- The kinds of report. -/
inductive MessageId where
  /-- The text domain is not among the allowed ones. -/
  | invalidValue
  /-- The text domain is no string literal. -/
  | invalidType
  /-- The text domain is the default one, which may be left out. -/
  | unnecessaryDefault
  /-- The text domain is left out. -/
  | missing
  /-- A wording for hosts; no check reports it. -/
  | useAllowedValue
deriving DecidableEq

namespace MessageId

/-- The name of the kind in the output. -/
def name : MessageId → Text
  | .invalidValue => "invalidValue".toList
  | .invalidType => "invalidType".toList
  | .unnecessaryDefault => "unnecessaryDefault".toList
  | .missing => "missing".toList
  | .useAllowedValue => "useAllowedValue".toList

/-- The wording. -/
def template : MessageId → Text
  | .invalidValue => "Invalid text domain '\x7b\x7b textDomain \x7d\x7d'".toList
  | .invalidType => "Text domain is not a string literal".toList
  | .unnecessaryDefault => "Unnecessary default text domain".toList
  | .missing => "Missing text domain".toList
  | .useAllowedValue =>
    "Use one of the whitelisted text domains: \x7b\x7b textDomains \x7d\x7d".toList

/-- All kinds, in the order of the catalogue. -/
def all : List MessageId :=
  [.invalidValue, .invalidType, .unnecessaryDefault, .missing, .useAllowedValue]

/-- The kind of a given name. -/
def ofName? (name : Text) : Option MessageId := all.find? fun id => id.name == name

/-- The message of the kind for the given data. -/
def render (id : MessageId) (data : List (Text × Datum)) : Text :=
  Template.renderWith data id.template

end MessageId

end TextDomain
